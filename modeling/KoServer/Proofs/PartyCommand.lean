import KoServer.Proofs.PartyLead
import Mathlib.Data.List.Nodup

/-! When a party's command leader is one of its members. Promoting the leader hands the command
on; leaving, being removed and disconnecting do not. -/

namespace KoServer

namespace Party

variable {party party' : Party} {sid m : SessionId} {pos : ℕ}

def Commanded (party : Party) : Prop :=
  ∃ m, party.commandLeaderSid = some m ∧ some m ∈ party.members

/-- Nobody stands twice. -/
def Once (party : Party) : Prop := ∀ sid, party.members.count (some sid) ≤ 1

theorem commandLeaderSid_addMember (h : party.addMember sid = some party') :
    party'.commandLeaderSid = party.commandLeaderSid := by
  unfold addMember at h
  split_ifs at h
  split at h
  · cases h
  · cases h
    rfl

theorem commandLeaderSid_removeMember (h : party.removeMember sid = some party') :
    party'.commandLeaderSid = party.commandLeaderSid := by
  unfold removeMember at h
  split at h
  · cases h
  · cases h
    rfl

theorem commandLeaderSid_swapLeader : (party.swapLeader pos).commandLeaderSid =
    party.commandLeaderSid := by
  unfold swapLeader
  split_ifs <;> rfl

/-- What holds of a new party and is kept by every change but that somebody goes. -/
structure Kept (P : Party → Prop) : Prop where
  new : ∀ sid, P (new sid)
  add : ∀ {party party' sid}, P party → party.addMember sid = some party' → P party'
  swap : ∀ {party} pos, P party → P (swapLeader party pos)
  mark : ∀ {party} targetId, P party → P { party with targetNumberId := targetId }
  command : ∀ {party m}, P party → some m ∈ party.members →
    P { party with commandLeaderSid := some m }

theorem kept_commanded : Kept Commanded where
  new sid := ⟨sid, rfl, mem_new.mpr rfl⟩
  add h hadd := by
    obtain ⟨m, hm, hmem⟩ := h
    exact ⟨m, (commandLeaderSid_addMember hadd).trans hm, (mem_addMember hadd).mpr (.inl hmem)⟩
  swap _ h := by
    obtain ⟨m, hm, hmem⟩ := h
    exact ⟨m, commandLeaderSid_swapLeader.trans hm, mem_swapLeader.mpr hmem⟩
  mark _ h := h
  command _ hmem := ⟨_, rfl, hmem⟩

theorem kept_once : Kept Once where
  new sid := (formed_new sid).once
  add := by
    intro party party' sid honce hadd s
    obtain ⟨hout, hm⟩ := addMember_eq hadd
    rw [Roster.count_of_enlist hm]
    split_ifs with hs
    · rw [← hs, List.count_eq_zero.mpr hout]
    · exact honce s
  swap := by
    intro party pos honce s
    rw [count_swapLeader]
    exact honce s
  mark _ h := h
  command h _ := h

theorem Once.nodup (h : party.Once) : party.activeMembers.Nodup :=
  List.nodup_iff_count_le_one.mpr fun sid => (Roster.count_occupants sid party.members).trans_le (h sid)

theorem once_removeMember (h : party.Once) (hrem : party.removeMember sid = some party') :
    party'.Once := by
  intro s
  have hcount := Roster.count_of_strike (removeMember_eq hrem) s
  have honce := h s
  omega

theorem commanded_removeMember (h : party.Commanded) (hrem : party.removeMember sid = some party')
    (hother : party.isCommandLeader sid = false) : party'.Commanded := by
  obtain ⟨m, hm, hmem⟩ := h
  have hne : m ≠ sid := by
    rintro rfl
    simp [isCommandLeader, hm] at hother
  exact ⟨m, (commandLeaderSid_removeMember hrem).trans hm,
    (mem_removeMember_of_ne hrem hne).mpr hmem⟩

theorem not_commanded_removeMember (h : party.Once) (hrem : party.removeMember sid = some party')
    (hcommand : party.isCommandLeader sid = true) : ¬party'.Commanded := by
  intro ⟨m, hm, hmem⟩
  rw [commandLeaderSid_removeMember hrem, of_decide_eq_true hcommand] at hm
  obtain rfl := Option.some.inj hm
  have hcount := Roster.count_of_strike (removeMember_eq hrem) sid
  rw [if_pos rfl] at hcount
  have honce := h sid
  have hpos := List.count_pos_iff.mpr hmem
  omega

end Party

def AllParties (P : Party → Prop) (w : PartyWorld) : Prop :=
  ∀ p party, w.parties p = some party → P party

namespace AllParties

variable {P : Party → Prop} {w w' : PartyWorld} {p : ℕ} {party : Party} {sid : SessionId}

theorem of_eq (h : AllParties P w) (hparties : w'.parties = w.parties) : AllParties P w' := by
  intro p party hp
  exact h p party (hparties ▸ hp)

theorem setParty (h : AllParties P w) (hparty : P party) :
    AllParties P (w.setParty p (some party)) := by
  intro q party' hq
  rw [PartyWorld.parties_setParty] at hq
  split_ifs at hq
  · cases hq
    exact hparty
  · exact h q party' hq

theorem createParty (hP : Party.Kept P) (h : AllParties P w) (sid : SessionId) :
    AllParties P (w.createParty sid) := by
  have hdrawn : AllParties P { w with nextPartyId := (w.drawnPartyId + 1) % 2 ^ 16 } := h.of_eq rfl
  exact (hdrawn.setParty (hP.new sid)).of_eq rfl

theorem addPartyMember (hP : Party.Kept P) (h : AllParties P w) (p : ℕ) (sid : SessionId) :
    AllParties P (w.addPartyMember p sid) := by
  unfold PartyWorld.addPartyMember
  split
  · exact h
  next party' hadd =>
    obtain ⟨party, hp, hadd⟩ := Option.bind_eq_some_iff.mp hadd
    exact (h.setParty (hP.add (h p party hp) hadd)).of_eq rfl

theorem disbandParty (h : AllParties P w) (p : ℕ) : AllParties P (w.disbandParty p) := by
  intro q party hq
  rw [PartyWorld.parties_disbandParty] at hq
  split_ifs at hq
  exact h q party hq

theorem promotePartyLeader (hP : Party.Kept P) (h : AllParties P w) (p : ℕ) (sid : SessionId) :
    AllParties P (w.promotePartyLeader p sid) := by
  unfold PartyWorld.promotePartyLeader
  split
  · exact h
  next party hp =>
    split
    · exact h
    · exact h.setParty (hP.swap _ (h p party hp))

theorem removePartyMember (h : AllParties P w)
    (hrem : ∀ party party', w.parties p = some party → party.removeMember sid = some party' →
      P party') : AllParties P (w.removePartyMember p sid) := by
  unfold PartyWorld.removePartyMember
  split
  · exact h
  next party' hremove =>
    obtain ⟨party, hp, hremove⟩ := Option.bind_eq_some_iff.mp hremove
    exact (h.setParty (hrem party party' hp hremove)).of_eq rfl

theorem updateOwnParty (h : AllParties P w) {f : Party → Party}
    (hf : ∀ party, P party → P (f party)) : AllParties P (updateOwnParty w sid f) := by
  unfold KoServer.updateOwnParty
  split
  · exact h
  · split
    · exact h
    next party hp =>
      split_ifs
      · exact h.setParty (hf party (h _ party hp))
      · exact h

end AllParties

/-- A step takes `sid` out of the party `p`, which stays. -/
inductive Expels (env : PartyEnv) (w : PartyWorld) : PartyEvent → ℕ → Party → SessionId → Prop
  | removed {sid target : SessionId} {data : List UInt8} {p : ℕ} {party : Party}
      (hreceived : receivedParty env w sid data = some (.remove target))
      (hget : w.getPartyId sid = some p) (hp : w.parties p = some party)
      (hwho : target = sid ↔ party.isLeader sid = false)
      (hmany : 1 < (party.activeMembers.filter (· ≠ target)).length) :
      Expels env w (.request sid data) p party target
  | disconnected {sid : SessionId} {p : ℕ} {party : Party} (hget : w.getPartyId sid = some p)
      (hp : w.parties p = some party)
      (hmany : 1 < (party.activeMembers.filter (· ≠ sid)).length) :
      Expels env w (.disconnect sid) p party sid

theorem Expels.parties_eq {env : PartyEnv} {w : PartyWorld} {event : PartyEvent} {p : ℕ}
    {party : Party} {sid : SessionId} (h : Expels env w event p party sid) :
    w.parties p = some party := by
  cases h with
  | removed _ _ hp => exact hp
  | disconnected _ hp => exact hp

section

variable {env : PartyEnv} {w : PartyWorld} {sid target : SessionId} {p : ℕ} {party : Party}

theorem handlePartyRemove_eq (hget : w.getPartyId sid = some p) (hp : w.parties p = some party)
    (hwho : target = sid ↔ party.isLeader sid = false) :
    handlePartyRemove w sid target =
      if (party.activeMembers.filter (· ≠ target)).length ≤ 1 then w.disbandParty p
      else w.removePartyMember p target := by
  unfold handlePartyRemove
  rw [hget]
  dsimp only
  rw [hp]
  dsimp only
  cases hlead : party.isLeader sid with
  | true =>
    have hother : target ≠ sid := by simp [hwho, hlead]
    simp [hother]
  | false =>
    have hself : target = sid := hwho.mpr hlead
    simp [hself]

/-- A removal is refused, dissolves the party, or takes the target out. -/
theorem handlePartyRemove_cases (w : PartyWorld) (sid target : SessionId) :
    handlePartyRemove w sid target = w ∨ (∃ p, handlePartyRemove w sid target = w.disbandParty p) ∨
      ∃ p party, w.getPartyId sid = some p ∧ w.parties p = some party ∧
        (target = sid ↔ party.isLeader sid = false) ∧
        1 < (party.activeMembers.filter (· ≠ target)).length ∧
        handlePartyRemove w sid target = w.removePartyMember p target := by
  cases hget : w.getPartyId sid with
  | none =>
    left
    unfold handlePartyRemove
    rw [hget]
  | some p =>
    cases hp : w.parties p with
    | none =>
      left
      unfold handlePartyRemove
      rw [hget]
      dsimp only
      rw [hp]
    | some party =>
      by_cases hwho : target = sid ↔ party.isLeader sid = false
      · have heq := handlePartyRemove_eq hget hp hwho
        split_ifs at heq with hfew
        · exact .inr (.inl ⟨p, heq⟩)
        · exact .inr (.inr ⟨p, party, rfl, hp, hwho, Nat.lt_of_not_le hfew, heq⟩)
      · by_cases htarget : target = sid
        · have hlead : party.isLeader sid = true := by simpa [htarget] using hwho
          right
          left
          refine ⟨p, ?_⟩
          unfold handlePartyRemove
          simp [hget, hp, htarget, hlead]
        · have hlead : party.isLeader sid = false := by simpa [htarget] using hwho
          left
          unfold handlePartyRemove
          simp [hget, hp, htarget, hlead]

/-- The world in which whoever disconnects has passed the lead on. -/
def withLeadPassed (w : PartyWorld) (p : ℕ) (party : Party) (sid : SessionId) : PartyWorld :=
  if party.isLeader sid then
    match Roster.occupants (party.members.drop 1) with
    | [] => w
    | nextSid :: _ => w.promotePartyLeader p nextSid
  else w

theorem cleanup_eq (hget : w.getPartyId sid = some p) (hp : w.parties p = some party) :
    w.cleanupPartyOnDisconnect sid =
      if (party.activeMembers.filter (· ≠ sid)).length ≤ 1 then
        (withLeadPassed (w.removePartyInvitation sid) p party sid).disbandParty p
      else (withLeadPassed (w.removePartyInvitation sid) p party sid).removePartyMember p sid := by
  have hget' : (w.removePartyInvitation sid).getPartyId sid = some p := hget
  have hp' : (w.removePartyInvitation sid).parties p = some party := hp
  unfold PartyWorld.cleanupPartyOnDisconnect
  dsimp only
  rw [hget']
  dsimp only
  rw [hp']
  rfl

theorem parties_withLeadPassed (hp : w.parties p = some party) : ∃ party₂,
    (withLeadPassed w p party sid).parties p = some party₂ ∧
      (party₂ = party ∨ ∃ pos, party₂ = party.swapLeader pos) := by
  unfold withLeadPassed
  split_ifs
  · split
    · exact ⟨party, hp, .inl rfl⟩
    next nextSid _ _ =>
      unfold PartyWorld.promotePartyLeader
      rw [hp]
      dsimp only
      cases party.findSlot nextSid with
      | none => exact ⟨party, hp, .inl rfl⟩
      | some pos =>
        refine ⟨party.swapLeader pos, ?_, .inr ⟨pos, rfl⟩⟩
        dsimp only
        rw [PartyWorld.parties_setParty, if_pos rfl]
  · exact ⟨party, hp, .inl rfl⟩

end

section

variable {P : Party → Prop} {w : PartyWorld} {i : PartyEnv × PartyEvent}

theorem allParties_withLeadPassed (hP : Party.Kept P) (h : AllParties P w) (p : ℕ) (party : Party)
    (sid : SessionId) : AllParties P (withLeadPassed w p party sid) := by
  unfold withLeadPassed
  split_ifs
  · split
    · exact h
    · exact h.promotePartyLeader hP p _
  · exact h

theorem allParties_disconnect (env : PartyEnv) (hP : Party.Kept P) (h : AllParties P w)
    {sid : SessionId}
    (hgo : ∀ p party, Expels env w (.disconnect sid) p party sid → ∀ party₂ party',
      party₂.commandLeaderSid = party.commandLeaderSid → P party₂ →
        party₂.removeMember sid = some party' → P party') :
    AllParties P (w.cleanupPartyOnDisconnect sid) := by
  have h₀ : AllParties P (w.removePartyInvitation sid) := h.of_eq rfl
  have hget₀ : (w.removePartyInvitation sid).getPartyId sid = w.getPartyId sid := rfl
  cases hget : w.getPartyId sid with
  | none =>
    unfold PartyWorld.cleanupPartyOnDisconnect
    dsimp only
    rw [hget₀, hget]
    exact h₀
  | some p =>
    cases hp : w.parties p with
    | none =>
      have hp₀ : (w.removePartyInvitation sid).parties p = none := hp
      unfold PartyWorld.cleanupPartyOnDisconnect
      dsimp only
      rw [hget₀, hget]
      dsimp only
      rw [hp₀]
      exact h₀
    | some party =>
      have hpassed := allParties_withLeadPassed hP h₀ p party sid
      rw [cleanup_eq hget hp]
      split_ifs with hfew
      · exact hpassed.disbandParty p
      · apply hpassed.removePartyMember
        intro party₂ party' hp₂ hrem
        have hp₀ : (w.removePartyInvitation sid).parties p = some party := hp
        obtain ⟨party₃, hp₃, hsame⟩ := @parties_withLeadPassed _ sid p party hp₀
        obtain rfl := Option.some.inj (hp₂.symm.trans hp₃)
        refine hgo p party (.disconnected hget hp (Nat.lt_of_not_le hfew)) party₂ party' ?_
          (hpassed p party₂ hp₂) hrem
        rcases hsame with rfl | ⟨pos, rfl⟩
        · rfl
        · exact Party.commandLeaderSid_swapLeader

theorem allParties_storePartyType (h : AllParties P w) (sid : SessionId) (partyType : ℕ) :
    AllParties P (storePartyType w sid partyType) :=
  h.of_eq rfl

theorem allParties_permit (hP : Party.Kept P) (h : AllParties P w) {env : PartyEnv}
    {sid : SessionId} {accept : ℕ} : AllParties P (handlePartyPermit env w sid accept) := by
  have h₀ : AllParties P (w.removePartyInvitation sid) := h.of_eq rfl
  unfold handlePartyPermit
  dsimp only
  split
  · exact h
  · split
    · exact h₀
    · split_ifs
      · exact h₀.disbandParty _
      · exact h₀
      · split
        · exact h₀
        · split_ifs
          · exact h₀
          · exact AllParties.addPartyMember hP (allParties_storePartyType h₀ _ _) _ _

theorem allParties_promote (hP : Party.Kept P) (h : AllParties P w) {sid newLeader : SessionId} :
    AllParties P (handlePartyPromote w sid newLeader) := by
  unfold handlePartyPromote
  dsimp only
  split
  · exact h
  next p hget =>
    split
    · exact h
    next party hp =>
      have hpromoted := h.promotePartyLeader hP p newLeader
      split_ifs with hno hcommand
      · exact h
      · simp only [Bool.or_eq_true, Bool.not_eq_true', not_or, Bool.not_eq_false,
          Party.contains_iff] at hno
        obtain ⟨pos, hpos⟩ : ∃ pos, party.findSlot newLeader = some pos :=
          Option.ne_none_iff_exists'.mp fun hnone => Party.findSlot_eq_none.mp hnone hno.2
        have hpromotedAt : (w.promotePartyLeader p newLeader).parties p =
            some (party.swapLeader pos) := by
          rw [PartyWorld.promotePartyLeader_eq hp hpos, PartyWorld.parties_setParty, if_pos rfl]
        rw [hpromotedAt]
        exact hpromoted.setParty
          (hP.command (hpromoted p _ hpromotedAt) (Party.mem_swapLeader.mpr hno.2))
      · exact hpromoted

theorem allParties_performParty (hP : Party.Kept P) (h : AllParties P w) {env : PartyEnv}
    {sid : SessionId} {req : PartyRequest}
    (hgo : ∀ target p party party', req = .remove target → w.getPartyId sid = some p →
      w.parties p = some party → (target = sid ↔ party.isLeader sid = false) →
      1 < (party.activeMembers.filter (· ≠ target)).length →
      party.removeMember target = some party' → P party') :
    AllParties P (performParty env w sid req) := by
  cases req with
  | create targetName partyType =>
    unfold performParty handlePartyCreate
    dsimp only
    split
    · exact allParties_storePartyType h sid partyType
    · exact (AllParties.createParty hP (allParties_storePartyType h sid partyType) sid).of_eq rfl
  | invite targetName partyType =>
    unfold performParty handlePartyInvite
    dsimp only
    split
    · exact allParties_storePartyType h sid partyType
    · exact (allParties_storePartyType h sid partyType).of_eq rfl
  | permit accept => exact allParties_permit hP h
  | remove target =>
    unfold performParty
    dsimp only
    rcases handlePartyRemove_cases w sid target with
      heq | ⟨p, heq⟩ | ⟨p, party, hget, hp, hwho, hmany, heq⟩
    · rw [heq]
      exact h
    · rw [heq]
      exact h.disbandParty p
    · rw [heq]
      apply h.removePartyMember
      intro party₂ party' hp₂ hrem
      obtain rfl := Option.some.inj (hp.symm.trans hp₂)
      exact hgo target p party party' rfl hget hp hwho hmany hrem
  | delete =>
    unfold performParty handlePartyDelete
    dsimp only
    split
    · exact h
    · exact h.disbandParty _
  | promote newLeader => exact allParties_promote hP h
  | targetNumber targetId =>
    unfold performParty handleTargetNumber
    dsimp only
    split_ifs
    · exact h
    · exact h.updateOwnParty fun _ hparty => hP.mark targetId hparty
  | alert => exact h
  | command target =>
    unfold performParty handlePartyCommand
    dsimp only
    split_ifs
    · exact h
    · apply h.updateOwnParty
      intro party hparty
      split_ifs with hin
      · exact hP.command hparty (Party.contains_iff.mp hin)
      · exact hparty

theorem allParties_step (hP : Party.Kept P) (h : AllParties P w)
    (hgo : ∀ p party sid, Expels i.1 w i.2 p party sid → ∀ party₂ party',
      party₂.commandLeaderSid = party.commandLeaderSid → P party₂ →
        party₂.removeMember sid = some party' → P party') :
    AllParties P (partyStep w i) := by
  obtain ⟨env, event⟩ := i
  cases event with
  | login sid =>
    unfold partyStep
    dsimp only
    split_ifs
    · exact h
    · exact h.of_eq rfl
  | request sid data =>
    unfold partyStep handleParty
    dsimp only
    cases hreceived : receivedParty env w sid data with
    | none => exact h
    | some req =>
      apply allParties_performParty hP h
      rintro target p party party' rfl hget hp hwho hmany hrem
      exact hgo p party target (.removed hreceived hget hp hwho hmany) party party' rfl
        (h p party hp) hrem
  | disconnect sid =>
    unfold partyStep
    dsimp only
    exact (allParties_disconnect env hP h fun p party hexpels => hgo p party sid hexpels).of_eq rfl

/-- Whoever goes is not the command leader. -/
def KeepsCommand (w : PartyWorld) (i : PartyEnv × PartyEvent) : Prop :=
  ∀ p party sid, Expels i.1 w i.2 p party sid → party.isCommandLeader sid = false

theorem parties_removePartyMember {p : ℕ} {party party' : Party} {sid : SessionId}
    (hp : w.parties p = some party) (hrem : party.removeMember sid = some party') :
    (w.removePartyMember p sid).parties p = some party' := by
  unfold PartyWorld.removePartyMember
  rw [hp, Option.bind_some, hrem]
  dsimp only
  rw [PartyWorld.parties_leaveParty, PartyWorld.parties_setParty, if_pos rfl]

theorem not_commanded_of_expels {p : ℕ} {party : Party} {sid : SessionId}
    (honce : party.Once) (h : party.Commanded) (hexpels : Expels i.1 w i.2 p party sid)
    (hcommand : party.isCommandLeader sid = true) :
    ∃ party', (partyStep w i).parties p = some party' ∧ ¬party'.Commanded := by
  have hgoes : ∀ party₂ : Party, party₂.commandLeaderSid = party.commandLeaderSid → party₂.Once →
      some sid ∈ party₂.members → ∃ party', party₂.removeMember sid = some party' ∧
        ¬party'.Commanded := by
    intro party₂ hsame honce₂ hin
    obtain ⟨party', hrem⟩ : ∃ party', party₂.removeMember sid = some party' :=
      Option.ne_none_iff_exists'.mp fun hnone => Party.removeMember_eq_none.mp hnone hin
    have hcommand₂ : party₂.isCommandLeader sid = true := by
      unfold Party.isCommandLeader at hcommand ⊢
      rw [hsame]
      exact hcommand
    exact ⟨party', hrem, Party.not_commanded_removeMember honce₂ hrem hcommand₂⟩
  have hin : some sid ∈ party.members := by
    obtain ⟨m, hm, hmem⟩ := h
    rw [of_decide_eq_true hcommand] at hm
    obtain rfl := Option.some.inj hm
    exact hmem
  obtain ⟨env, event⟩ := i
  cases hexpels with
  | removed hreceived hget hp hwho hmany =>
    obtain ⟨party', hrem, hlost⟩ := hgoes party rfl honce hin
    refine ⟨party', ?_, hlost⟩
    unfold partyStep handleParty
    dsimp only
    rw [hreceived]
    unfold performParty
    dsimp only
    rw [handlePartyRemove_eq hget hp hwho, if_neg (Nat.not_le.mpr hmany)]
    exact parties_removePartyMember hp hrem
  | disconnected hget hp hmany =>
    have hp₀ : (w.removePartyInvitation sid).parties p = some party := hp
    obtain ⟨party₂, hp₂, hpassed⟩ := @parties_withLeadPassed _ sid p party hp₀
    obtain ⟨party', hrem, hlost⟩ : ∃ party', party₂.removeMember sid = some party' ∧
        ¬party'.Commanded := by
      rcases hpassed with rfl | ⟨pos, rfl⟩
      · exact hgoes _ rfl honce hin
      · exact hgoes _ Party.commandLeaderSid_swapLeader (Party.kept_once.swap pos honce)
          (Party.mem_swapLeader.mpr hin)
    refine ⟨party', ?_, hlost⟩
    unfold partyStep
    dsimp only
    rw [cleanup_eq hget hp, if_neg (Nat.not_le.mpr hmany)]
    exact parties_removePartyMember hp₂ hrem

theorem once_step (honce : AllParties Party.Once w) :
    AllParties Party.Once (partyStep w i) := by
  apply allParties_step Party.kept_once honce
  intro _ _ _ _ _ _ _ honce₂ hrem
  exact Party.once_removeMember honce₂ hrem

/-- In every run nobody stands twice in a party. -/
theorem activeMembers_nodup (steps : List (PartyEnv × PartyEvent)) {p : ℕ} {party : Party}
    (hp : (Run.run partyStep .start steps).parties p = some party) : party.activeMembers.Nodup := by
  have honce : AllParties Party.Once (Run.run partyStep .start steps) :=
    Run.invariant (AllParties Party.Once) (fun _ _ honce _ => once_step honce)
      (Run.along_true _ steps) fun _ _ hnone => nomatch hnone
  exact (honce p party hp).nodup

theorem commanded_step_iff (honce : AllParties Party.Once w) (h : AllParties Party.Commanded w) :
    AllParties Party.Commanded (partyStep w i) ↔ KeepsCommand w i := by
  constructor
  · intro hnext p party sid hexpels
    by_contra hcommand
    have hp := hexpels.parties_eq
    obtain ⟨party', hp', hlost⟩ := not_commanded_of_expels (honce p party hp) (h p party hp) hexpels
      (by simpa using hcommand)
    exact hlost (hnext p party' hp')
  · intro hkeeps
    apply allParties_step Party.kept_commanded h
    intro p party sid hexpels party₂ party' hsame hparty₂ hrem
    apply Party.commanded_removeMember hparty₂ hrem
    have hother := hkeeps p party sid hexpels
    unfold Party.isCommandLeader at hother ⊢
    rw [hsame]
    exact hother

end

/-- After every step of a run each party's command leader is one of its members, just where no
step takes a command leader out of a party that stays. -/
theorem command_leader_member_iff (steps : List (PartyEnv × PartyEvent)) :
    Run.Along partyStep (fun w i => AllParties Party.Commanded (partyStep w i)) .start steps ↔
      Run.Along partyStep KeepsCommand .start steps := by
  apply Run.along_congr fun w => AllParties Party.Once w ∧ AllParties Party.Commanded w
  · intro w i ⟨honce, _⟩ hnext
    exact ⟨once_step honce, hnext⟩
  · intro w i ⟨honce, h⟩
    exact commanded_step_iff honce h
  · constructor
    · intro p party hp
      cases hp
    · intro p party hp
      cases hp

/-- The leader of a party of three disconnects, and keeps the command. -/
theorem gone_leader_commands : ∃ party,
    (Run.run partyStep .start (waitingParty ++
      [.request 4 [0x02, 1], .request 3 [0x03, 1, 0, 98, 1], .request 2 [0x02, 1],
        .disconnect 3].map fun e => (moradon, e))).parties 1 = some party ∧
      party.activeMembers = [4, 2] ∧ party.commandLeaderSid = some 3 ∧ ¬party.Commanded := by
  refine ⟨_, rfl, rfl, rfl, ?_⟩
  intro ⟨m, hm, hmem⟩
  obtain rfl := Option.some.inj hm
  revert hmem
  decide

end KoServer
