import KoServer.Lib.Run
import KoServer.Proofs.PartySteps

/-! Who is in which party. Membership stands twice, as a session's party id and as a party's
slots, and the two agree as long as no party is founded under the id of another one. -/

namespace KoServer

namespace PartyWorld

variable {w : PartyWorld} {sid : SessionId} {p : ℕ} {party : Party}

/-- A session's party id names the party that has the session in its slots. Whoever is asked to
join is in no party. -/
structure Membership (w : PartyWorld) : Prop where
  linked : ∀ sid p, w.getPartyId sid = some p ↔
    ∃ party, w.parties p = some party ∧ some sid ∈ party.members
  formed : ∀ p party, w.parties p = some party → party.Formed
  waiting : ∀ sid, w.hasPartyInvitation sid = true → w.getPartyId sid = none

theorem membership_start : Membership start where
  linked := by simp [start, getPartyId]
  formed := by simp [start]
  waiting := by simp [start, hasPartyInvitation]

namespace Membership

variable {w' : PartyWorld} {target inviter : SessionId}

theorem of_eq (h : Membership w) (hparties : w'.parties = w.parties)
    (hget : ∀ s, w'.getPartyId s = w.getPartyId s)
    (hinv : ∀ s, w'.hasPartyInvitation s = true → w.hasPartyInvitation s = true) :
    Membership w' where
  linked s q := by rw [hget, hparties, h.linked]
  formed q party hq := h.formed q party (hparties ▸ hq)
  waiting s hs := by rw [hget, h.waiting s (hinv s hs)]

theorem storePartyType (h : Membership w) (sid : SessionId) (partyType : ℕ) :
    Membership (KoServer.storePartyType w sid partyType) :=
  h.of_eq rfl (getPartyId_storePartyType w sid partyType) fun _ hs => hs

theorem removePartyInvitation (h : Membership w) (sid : SessionId) :
    Membership (w.removePartyInvitation sid) := by
  refine h.of_eq rfl (fun _ => rfl) fun s hs => ?_
  rw [hasPartyInvitation_removePartyInvitation] at hs
  split_ifs at hs
  exact hs

theorem setPartyInvitation (h : Membership w) (htarget : w.getPartyId target = none) (p : ℕ)
    (inviter : SessionId) : Membership (w.setPartyInvitation target p inviter) where
  linked := h.linked
  formed := h.formed
  waiting s hs := by
    rw [hasPartyInvitation_setPartyInvitation] at hs
    split_ifs at hs with hne
    · rw [hne]
      exact htarget
    · exact h.waiting s hs

theorem setParty_of_mem_iff (h : Membership w) (hp : w.parties p = some party) {party' : Party}
    (hf : party'.Formed) (hmem : ∀ s, some s ∈ party'.members ↔ some s ∈ party.members) :
    Membership (w.setParty p (some party')) where
  linked s q := by
    rw [getPartyId_setParty, h.linked, parties_setParty]
    split_ifs with hq
    · subst hq
      simp [hp, hmem]
    · rfl
  formed q party'' hq := by
    rw [parties_setParty] at hq
    split_ifs at hq with hqp
    · cases hq
      exact hf
    · exact h.formed q party'' hq
  waiting := h.waiting

theorem promotePartyLeader (h : Membership w) (p : ℕ) (sid : SessionId) :
    Membership (w.promotePartyLeader p sid) := by
  rcases hp : w.parties p with _ | party
  · simpa only [PartyWorld.promotePartyLeader, hp] using h
  · rcases hpos : party.findSlot sid with _ | pos
    · simpa only [PartyWorld.promotePartyLeader, hp, hpos] using h
    · rw [promotePartyLeader_eq hp hpos]
      exact h.setParty_of_mem_iff hp ((h.formed p party hp).swapLeader hpos)
        fun _ => Party.mem_swapLeader

/-- A session that is in no party gets a slot among those who have the id `p`. -/
theorem enter (h : Membership w) (hin : (w.sessions sid).isSome)
    (hout : w.getPartyId sid = none) (hinv : w.hasPartyInvitation sid = false) {party' : Party}
    (hf : party'.Formed)
    (hmem : ∀ s, some s ∈ party'.members ↔ s = sid ∨ w.getPartyId s = some p) :
    Membership ((w.setParty p (some party')).setPartyId sid (some p)) := by
  have hget := getPartyId_setPartyId (w := w.setParty p (some party')) hin (some p)
  refine ⟨fun s q => ?_, fun q party hq => ?_, fun s hs => ?_⟩
  · rw [hget, setPartyId, parties_updateSession, parties_setParty, getPartyId_setParty]
    split_ifs with hs hq hq
    · subst hs hq
      simp [hmem]
    · subst hs
      have hnone := h.linked s q
      rw [hout] at hnone
      simpa [Ne.symm hq] using hnone
    · subst hq
      simp [hmem, hs]
    · exact h.linked s q
  · rw [setPartyId, parties_updateSession, parties_setParty] at hq
    split_ifs at hq with hqp
    · cases hq
      exact hf
    · exact h.formed q party hq
  · change w.hasPartyInvitation s = true at hs
    have hne : s ≠ sid := by
      rintro rfl
      rw [hinv] at hs
      cases hs
    rw [hget, if_neg hne]
    exact h.waiting s hs

theorem createParty (h : Membership w) (hin : (w.sessions sid).isSome)
    (hout : w.getPartyId sid = none) (hinv : w.hasPartyInvitation sid = false)
    (hfree : w.parties w.drawnPartyId = none) : Membership (w.createParty sid) := by
  have hdrawn : Membership { w with nextPartyId := (w.drawnPartyId + 1) % 2 ^ 16 } :=
    h.of_eq rfl (fun _ => rfl) fun _ hs => hs
  refine hdrawn.enter hin hout hinv (Party.formed_new sid) fun s => ?_
  have hnone : w.getPartyId s ≠ some w.drawnPartyId := by simp [h.linked, hfree]
  rw [Party.mem_new]
  exact ⟨Or.inl, fun hs => hs.resolve_right hnone⟩

theorem addPartyMember (h : Membership w) (hin : (w.sessions sid).isSome)
    (hout : w.getPartyId sid = none) (hinv : w.hasPartyInvitation sid = false) (p : ℕ) :
    Membership (w.addPartyMember p sid) := by
  unfold PartyWorld.addPartyMember
  rcases hp : w.parties p with _ | party
  · exact h
  · rw [Option.bind_some]
    rcases hadd : party.addMember sid with _ | party'
    · exact h
    · refine h.enter hin hout hinv ((h.formed p party hp).addMember hadd) fun s => ?_
      simp [Party.mem_addMember hadd, h.linked, hp, or_comm]

theorem removePartyMember (h : Membership w)
    (hlead : ∀ party, w.parties p = some party → party.isLeader sid = false) :
    Membership (w.removePartyMember p sid) := by
  unfold PartyWorld.removePartyMember
  rcases hp : w.parties p with _ | party
  · exact h
  · rw [Option.bind_some]
    rcases hrem : party.removeMember sid with _ | party'
    · exact h
    · have hf := h.formed p party hp
      have hsid : w.getPartyId sid = some p := by
        rw [h.linked]
        refine ⟨party, hp, ?_⟩
        by_contra hout
        rw [Party.removeMember_eq_none.mpr hout] at hrem
        cases hrem
      refine ⟨fun s q => ?_, fun q party'' hq => ?_, fun s hs => ?_⟩
      · rw [getPartyId_leaveParty, getPartyId_setParty, parties_leaveParty, parties_setParty]
        split_ifs with hs hq hq
        · subst hs hq
          simp [hf.mem_removeMember hrem]
        · subst hs
          have hother := h.linked s q
          rw [hsid] at hother
          simpa [Ne.symm hq] using hother
        · subst hq
          simp [h.linked, hp, hf.mem_removeMember hrem, hs]
        · exact h.linked s q
      · rw [parties_leaveParty, parties_setParty] at hq
        split_ifs at hq with hqp
        · cases hq
          exact hf.removeMember hrem (hlead party hp)
        · exact h.formed q party'' hq
      · rw [getPartyId_leaveParty]
        split_ifs with hsid
        · rfl
        · exact h.waiting s hs

theorem disbandParty (h : Membership w) (p : ℕ) : Membership (w.disbandParty p) := by
  rcases hp : w.parties p with _ | party
  · simpa only [PartyWorld.disbandParty, hp] using h
  · refine ⟨fun s q => ?_, fun q party' hq => ?_, fun s hs => ?_⟩
    · rw [getPartyId_disbandParty hp, parties_disbandParty]
      split_ifs with hs hq hq
      · simp
      · have hsp := (h.linked s p).mpr ⟨party, hp, hs⟩
        have hother := h.linked s q
        rw [hsp] at hother
        simpa [Ne.symm hq] using hother
      · subst hq
        simp [h.linked, hp, hs]
      · exact h.linked s q
    · rw [parties_disbandParty] at hq
      split_ifs at hq
      exact h.formed q party' hq
    · rw [getPartyId_disbandParty hp]
      split_ifs
      · rfl
      · refine h.waiting s ?_
        rwa [hasPartyInvitation, partyInvitations_disbandParty] at hs

theorem getPartyId_disbandParty_self (h : Membership w) (hsid : w.getPartyId sid = some p) :
    (w.disbandParty p).getPartyId sid = none := by
  obtain ⟨party, hp, hin⟩ := (h.linked sid p).mp hsid
  rw [getPartyId_disbandParty hp, if_pos hin]

theorem getPartyId_removePartyMember_self (h : Membership w) (hsid : w.getPartyId sid = some p) :
    (w.removePartyMember p sid).getPartyId sid = none := by
  obtain ⟨party, hp, hin⟩ := (h.linked sid p).mp hsid
  unfold PartyWorld.removePartyMember
  rw [hp, Option.bind_some]
  split
  · next hrem => exact absurd hin (Party.removeMember_eq_none.mp hrem)
  · rw [getPartyId_leaveParty, if_pos rfl]

end Membership

/-- Whoever is gone is in no party, and asked into none. -/
theorem Membership.cleanupPartyOnDisconnect (h : Membership w) (sid : SessionId) :
    Membership (w.cleanupPartyOnDisconnect sid) ∧
      (w.cleanupPartyOnDisconnect sid).getPartyId sid = none ∧
      (w.cleanupPartyOnDisconnect sid).hasPartyInvitation sid = false := by
  have h₁ := h.removePartyInvitation sid
  have hinv : (w.removePartyInvitation sid).partyInvitations sid = none := by
    simp [PartyWorld.removePartyInvitation]
  unfold PartyWorld.cleanupPartyOnDisconnect
  dsimp only
  generalize w.removePartyInvitation sid = w₁ at h₁ hinv ⊢
  rcases hsid : w₁.getPartyId sid with _ | p
  · exact ⟨h₁, hsid, by rw [hasPartyInvitation, hinv]; rfl⟩
  obtain ⟨party, hp, hin⟩ := (h₁.linked sid p).mp hsid
  have hf := h₁.formed p party hp
  simp only [hp]
  have hdisband : ∀ w₂ : PartyWorld, Membership w₂ → w₂.getPartyId sid = some p →
      w₂.partyInvitations sid = none → Membership (w₂.disbandParty p) ∧
        (w₂.disbandParty p).getPartyId sid = none ∧
        (w₂.disbandParty p).hasPartyInvitation sid = false := by
    intro w₂ h₂ hsid₂ hinv₂
    refine ⟨h₂.disbandParty p, h₂.getPartyId_disbandParty_self hsid₂, ?_⟩
    rw [hasPartyInvitation, partyInvitations_disbandParty, hinv₂]
    rfl
  have hremove : ∀ w₂ : PartyWorld, Membership w₂ → w₂.getPartyId sid = some p →
      w₂.partyInvitations sid = none →
      (∀ party, w₂.parties p = some party → party.isLeader sid = false) →
      Membership (w₂.removePartyMember p sid) ∧
        (w₂.removePartyMember p sid).getPartyId sid = none ∧
        (w₂.removePartyMember p sid).hasPartyInvitation sid = false := by
    intro w₂ h₂ hsid₂ hinv₂ hlead₂
    refine ⟨h₂.removePartyMember hlead₂, h₂.getPartyId_removePartyMember_self hsid₂, ?_⟩
    rw [hasPartyInvitation, partyInvitations_removePartyMember, hinv₂]
    rfl
  cases hlead : party.isLeader sid with
  | false =>
    simp only [Bool.false_eq_true, if_false]
    split_ifs
    · exact hdisband w₁ h₁ hsid hinv
    · refine hremove w₁ h₁ hsid hinv fun party' hp' => ?_
      rw [hp] at hp'
      cases hp'
      exact hlead
  | true =>
    simp only [if_true]
    rcases hnext : Roster.occupants (party.members.drop 1) with _ | ⟨next, rest⟩
    · rw [Party.filter_ne_leader hlead hnext, List.length_nil, if_pos (Nat.zero_le 1)]
      exact hdisband w₁ h₁ hsid hinv
    · obtain ⟨hmem, hne⟩ := hf.mem_drop_one hlead (hnext ▸ List.mem_cons_self)
      obtain ⟨pos, hpos⟩ : ∃ pos, party.findSlot next = some pos :=
        Option.ne_none_iff_exists'.mp fun hnone => Party.findSlot_eq_none.mp hnone hmem
      have h₂ := h₁.promotePartyLeader p next
      have hsid₂ : (w₁.promotePartyLeader p next).getPartyId sid = some p := by simp [hsid]
      have hinv₂ : (w₁.promotePartyLeader p next).partyInvitations sid = none := by simp [hinv]
      dsimp only
      split_ifs
      · exact hdisband _ h₂ hsid₂ hinv₂
      · refine hremove _ h₂ hsid₂ hinv₂ fun party' hp' => ?_
        rw [promotePartyLeader_eq hp hpos, parties_setParty, if_pos rfl] at hp'
        cases hp'
        rw [← Bool.not_eq_true, Party.isLeader_iff, Party.head_swapLeader hpos]
        simpa using hne

end PartyWorld

/-- Who founds a party in this step, and who is asked to join it. -/
def founding (w : PartyWorld) (i : PartyEnv × PartyEvent) : Option (SessionId × SessionId) :=
  match i.2 with
  | .request sid data =>
    match receivedParty i.1 w sid data with
    | some (.create targetName partyType) =>
      (createChecks i.1 (storePartyType w sid partyType) sid targetName partyType).toOption.map
        fun target => (sid, target)
    | _ => none
  | _ => none

theorem founding_request {env : PartyEnv} {w : PartyWorld} {sid leader target : SessionId}
    {data : List UInt8} : founding w (env, .request sid data) = some (leader, target) ↔
      leader = sid ∧ ∃ targetName partyType,
        receivedParty env w sid data = some (.create targetName partyType) ∧
        createChecks env (storePartyType w sid partyType) sid targetName partyType =
          .ok target := by
  unfold founding
  dsimp only
  constructor
  · intro h
    split at h
    · next targetName partyType hreceived =>
      obtain ⟨found, hok, hfound⟩ := Option.map_eq_some_iff.mp h
      cases hfound
      refine ⟨rfl, targetName, partyType, hreceived, ?_⟩
      rcases hchecks : createChecks env (storePartyType w sid partyType) sid targetName partyType
        with e | ok
      · rw [hchecks] at hok
        cases hok
      · rw [hchecks] at hok
        cases hok
        rfl
    · cases h
  · rintro ⟨rfl, targetName, partyType, hreceived, hchecks⟩
    rw [hreceived]
    dsimp only
    rw [hchecks]
    rfl

theorem partyStep_founding {w : PartyWorld} {i : PartyEnv × PartyEvent} {sid target : SessionId}
    (h : founding w i = some (sid, target)) :
    ∃ partyType, partyStep w i = ((storePartyType w sid partyType).createParty sid).setPartyInvitation
      target w.drawnPartyId sid := by
  obtain ⟨env, event⟩ := i
  cases event with
  | login => cases h
  | disconnect => cases h
  | request sid' data =>
    obtain ⟨rfl, targetName, partyType, hreceived, hchecks⟩ := founding_request.mp h
    refine ⟨partyType, ?_⟩
    simp only [partyStep, handleParty, hreceived, performParty, handlePartyCreate, hchecks]
    rfl

def FoundsUnderFreeId (w : PartyWorld) (i : PartyEnv × PartyEvent) : Prop :=
  (founding w i).isSome → (w.parties w.drawnPartyId).isNone

instance (w : PartyWorld) (i : PartyEnv × PartyEvent) : Decidable (FoundsUnderFreeId w i) :=
  inferInstanceAs (Decidable ((founding w i).isSome → (w.parties w.drawnPartyId).isNone))

namespace PartyWorld.Membership

variable {env : PartyEnv} {w w' : PartyWorld} {sid : SessionId} {req : PartyRequest}

theorem move (h : Membership w) (hin : (w.sessions sid).isSome) (hmove : PartyMove env w sid req w')
    (hfree : ∀ targetName partyType target, req = .create targetName partyType →
      createChecks env (KoServer.storePartyType w sid partyType) sid targetName partyType =
        .ok target → w.parties w.drawnPartyId = none) : Membership w' := by
  cases hmove with
  | nothing => exact h
  | refused _ partyType => exact h.storePartyType sid partyType
  | @founded targetName partyType target hok =>
    have h₁ := h.storePartyType sid partyType
    have hin₁ : ((KoServer.storePartyType w sid partyType).sessions sid).isSome := by
      simp [KoServer.storePartyType, updateSession, hin]
    obtain ⟨hfind, hout, hinv⟩ := createChecks_ok hok
    obtain ⟨hne, htarget, -⟩ := findInvitee_ok hfind
    refine (h₁.createParty hin₁ hout hinv (hfree _ _ _ rfl hok)).setPartyInvitation ?_ _ _
    rw [getPartyId_createParty hin₁, if_neg hne]
    exact htarget
  | invited hok =>
    obtain ⟨-, htarget, -⟩ := findInvitee_ok (inviteChecks_ok hok).2
    exact (h.storePartyType sid _).setPartyInvitation htarget _ _
  | answered => exact h.removePartyInvitation sid
  | declined => exact (h.removePartyInvitation sid).disbandParty _
  | joined hinv =>
    -- whoever is asked is in no party, and the invitation is used up by now
    have hout : w.getPartyId sid = none := h.waiting sid (by rw [hasPartyInvitation, hinv]; rfl)
    refine ((h.removePartyInvitation sid).storePartyType sid _).addPartyMember ?_ ?_ ?_ _
    · simp [KoServer.storePartyType, updateSession, PartyWorld.removePartyInvitation, hin]
    · rw [getPartyId_storePartyType]
      exact hout
    · change (w.removePartyInvitation sid).hasPartyInvitation sid = false
      simp
  | dissolved => exact h.disbandParty _
  | @removed target p party hget hp hwho =>
    refine h.removePartyMember fun party' hp' => ?_
    rw [hp] at hp'
    cases hp'
    by_cases htarget : target = sid
    · rw [htarget]
      exact hwho.mp htarget
    · have hlead : party.isLeader sid = true := by simpa using mt hwho.mpr htarget
      rw [Party.isLeader_iff] at hlead
      rw [← Bool.not_eq_true, Party.isLeader_iff, hlead]
      simpa using Ne.symm htarget
  | deleted => exact h.disbandParty _
  | promoted hp hpos hmembers =>
    have hf := (h.formed _ _ hp).swapLeader hpos
    refine h.setParty_of_mem_iff hp ⟨?_, ?_⟩ fun s => ?_
    · rw [hmembers]
      exact hf.once
    · rw [hmembers]
      exact hf.led
    · rw [hmembers]
      exact Party.mem_swapLeader
  | marked _ hp hmembers =>
    have hf := h.formed _ _ hp
    refine h.setParty_of_mem_iff hp ⟨?_, ?_⟩ fun s => ?_
    · rw [hmembers]
      exact hf.once
    · rw [hmembers]
      exact hf.led
    · rw [hmembers]

theorem setSession (h : Membership w) (hsid : w.getPartyId sid = none) {x : Option PartySession}
    (hx : x.bind PartySession.partyId = none) :
    Membership { w with sessions := Function.update w.sessions sid x } := by
  refine h.of_eq rfl (fun s => ?_) fun _ hs => hs
  unfold getPartyId
  dsimp only
  rcases eq_or_ne s sid with rfl | hs
  · rw [Function.update_self, hx]
    exact hsid.symm
  · rw [Function.update_of_ne hs]

theorem step {i : PartyEnv × PartyEvent} (h : Membership w) (hfree : FoundsUnderFreeId w i) :
    Membership (partyStep w i) := by
  obtain ⟨env, event⟩ := i
  cases event with
  | login sid =>
    unfold partyStep
    dsimp only
    split_ifs with hin
    · exact h
    · refine h.setSession ?_ rfl
      rw [getPartyId, Option.not_isSome_iff_eq_none.mp hin]
      rfl
  | disconnect sid =>
    obtain ⟨h₁, hsid, -⟩ := h.cleanupPartyOnDisconnect sid
    exact h₁.setSession hsid rfl
  | request sid data =>
    unfold partyStep handleParty
    dsimp only
    split
    · exact h
    · next req hreq =>
      have hin : (w.sessions sid).isSome := by
        unfold receivedParty at hreq
        split_ifs at hreq with hgone
        rw [Bool.not_eq_true, Bool.or_eq_false_iff] at hgone
        simpa using hgone.1
      refine h.move hin (performParty_move req) ?_
      rintro targetName partyType target rfl hok
      have hfounds : (founding w (env, .request sid data)).isSome := by
        rw [founding_request.mpr ⟨rfl, targetName, partyType, hreq, hok⟩]
        rfl
      exact Option.isNone_iff_eq_none.mp (hfree hfounds)

end PartyWorld.Membership

/-- Every session is in one party at most: the one its party id names, which has it in one slot. A
party has its leader's slot taken. -/
structure OnePartyEach (w : PartyWorld) : Prop where
  linked : ∀ sid p, w.getPartyId sid = some p ↔
    ∃ party, w.parties p = some party ∧ party.members.count (some sid) = 1
  apart : ∀ sid p q party party', w.parties p = some party → w.parties q = some party' →
    some sid ∈ party.members → some sid ∈ party'.members → p = q
  bounded : ∀ p party, w.parties p = some party →
    party.memberCount ≤ 8 ∧ party.leaderSid.isSome = true
  waiting : ∀ sid, w.hasPartyInvitation sid = true → w.isInParty sid = false

theorem PartyWorld.Membership.onePartyEach {w : PartyWorld} (h : Membership w) : OnePartyEach w := by
  refine ⟨fun sid p => ?_, ?_, fun p party hp => ?_, fun sid hsid => ?_⟩
  · rw [h.linked]
    refine exists_congr fun party => and_congr_right fun hp => ?_
    have honce := (h.formed p party hp).once sid
    rw [← List.count_pos_iff]
    omega
  · intro sid p q party party' hp hq hin hin'
    have hsid := (h.linked sid p).mpr ⟨party, hp, hin⟩
    rw [(h.linked sid q).mpr ⟨party', hq, hin'⟩] at hsid
    exact (Option.some.inj hsid).symm
  · obtain ⟨leader, hled⟩ := (h.formed p party hp).led
    refine ⟨party.memberCount_le, ?_⟩
    rw [Party.leaderSid_eq_some.mpr hled]
    rfl
  · rw [isInParty, h.waiting sid hsid]
    rfl

/-- From an empty server on, whatever the sessions ask for. -/
theorem party_membership_linked {steps : List (PartyEnv × PartyEvent)}
    (hfree : Run.Along partyStep FoundsUnderFreeId .start steps) :
    OnePartyEach (Run.run partyStep .start steps) := by
  have h : PartyWorld.Membership (Run.run partyStep .start steps) :=
    Run.invariant _ (fun _ _ h hfree => h.step hfree) hfree PartyWorld.membership_start
  exact h.onePartyEach

/-- Everybody is of level 1, in Moradon. Session 2 is called "b", and session 4 is called "d". -/
def moradon : PartyEnv where
  isPlayerDead := fun _ => false
  findSessionByName := fun name => if name = ['b'] then some 2 else if name = ['d'] then some 4 else none
  zoneId := fun _ => 21
  nation := fun _ => 1
  level := fun _ => 1
  knightsId := fun _ => 0
  checkExistItem := fun _ => false
  cswActive := false
  knightsAlliance := fun _ => none
  allianceMainClan := fun _ => none
  targetNumberBlocked := fun _ => false

/-- Session 3 has asked session 4 into its party, and waits. -/
def waitingParty : List (PartyEnv × PartyEvent) :=
  [.login 1, .login 2, .login 3, .login 4, .request 3 [0x01, 1, 0, 100, 1]].map fun e => (moradon, e)

/-- Session 4 joins, is given the lead, and is gone. -/
def leadPassedOn : List (PartyEnv × PartyEvent) :=
  waitingParty ++ [.request 4 [0x02, 1], .request 3 [0x1C, 4, 0], .disconnect 4].map
    fun e => (moradon, e)

theorem party_membership_linked_lead_passed_on :
    OnePartyEach (Run.run partyStep .start leadPassedOn) :=
  party_membership_linked (by decide)

namespace PartyWorld

variable {w : PartyWorld} {sid target : SessionId}

/-- A party that is declined before anybody joins leaves nothing but the next id. -/
theorem found_then_decline (partyType : ℕ) (hsid : w.sessions sid = some ⟨none, 0⟩)
    (hinv : w.partyInvitations target = none) (hfree : w.parties w.drawnPartyId = none) :
    ((((storePartyType w sid partyType).createParty sid).setPartyInvitation target w.drawnPartyId
      sid).removePartyInvitation target).disbandParty w.drawnPartyId =
        { w with nextPartyId := (w.drawnPartyId + 1) % 2 ^ 16 } := by
  have hparty : ((((storePartyType w sid partyType).createParty sid).setPartyInvitation target
      w.drawnPartyId sid).removePartyInvitation target).parties w.drawnPartyId =
        some (Party.new sid) := Function.update_self _ _ _
  have hparties : Function.update w.parties w.drawnPartyId none = w.parties := by
    rw [← hfree, Function.update_eq_self]
  have hsessions : Function.update w.sessions sid (some ⟨none, 0⟩) = w.sessions := by
    rw [← hsid, Function.update_eq_self]
  have hinvitations : Function.update w.partyInvitations target none = w.partyInvitations := by
    rw [← hinv, Function.update_eq_self]
  have hactive : (Party.new sid).activeMembers = [sid] := rfl
  have hdrawn : (storePartyType w sid partyType).drawnPartyId = w.drawnPartyId := rfl
  unfold disbandParty
  rw [hparty]
  dsimp only
  rw [hactive, List.foldl_cons, List.foldl_nil]
  unfold createParty
  rw [hdrawn]
  generalize w.drawnPartyId = p at hparties ⊢
  simp [leaveParty, updateSession, setParty, setPartyId, setPartyInvitation, removePartyInvitation,
    storePartyType, hparties, hsessions, hinvitations, hsid]

end PartyWorld

def foundsForB : PartyEnv × PartyEvent := (moradon, .request 1 [0x01, 1, 0, 98, 1])

/-- Session 1 asks session 2 into a party, and session 2 declines. -/
def foundAndDecline : List (PartyEnv × PartyEvent) := [foundsForB, (moradon, .request 2 [0x02, 0])]

structure Unbothered (w : PartyWorld) : Prop where
  first : w.sessions 1 = some ⟨none, 0⟩
  second : w.sessions 2 = some ⟨none, 0⟩
  notAsked : w.partyInvitations 1 = none ∧ w.partyInvitations 2 = none
  other : ∀ p, p ≠ 1 → w.parties p = none

theorem partyStep_foundsForB {w : PartyWorld} (h : Unbothered w) :
    partyStep w foundsForB = ((storePartyType w 1 1).createParty 1).setPartyInvitation 2
      w.drawnPartyId 1 ∧ founding w foundsForB = some (1, 2) := by
  have hparse : parsePartyRequest [0x01, 1, 0, 98, 1] = some (.create ['b'] 1) := rfl
  have hreceived : receivedParty moradon w 1 [0x01, 1, 0, 98, 1] = some (.create ['b'] 1) := by
    simp [receivedParty, h.first, moradon, hparse]
  have hchecks : createChecks moradon (storePartyType w 1 1) 1 ['b'] 1 = .ok 2 := by
    simp [createChecks, findInvitee, moradon, storePartyType, PartyWorld.updateSession, h.first,
      h.second, h.notAsked, PartyWorld.isInParty, PartyWorld.hasPartyInvitation,
      PartyWorld.getPartyId]
    decide
  constructor
  · simp only [partyStep, foundsForB, handleParty, hreceived, performParty, handlePartyCreate,
      hchecks]
    rfl
  · simp [founding, foundsForB, hreceived, hchecks, Except.toOption]

theorem run_foundAndDecline {w : PartyWorld} (h : Unbothered w) (hfree : w.drawnPartyId ≠ 1) :
    Run.run partyStep w foundAndDecline =
      { w with nextPartyId := (w.drawnPartyId + 1) % 2 ^ 16 } := by
  have hparse : parsePartyRequest [0x02, 0] = some (.permit 0) := rfl
  unfold foundAndDecline
  rw [Run.run_cons, Run.run_cons, Run.run_nil, (partyStep_foundsForB h).1,
    ← PartyWorld.found_then_decline 1 h.first h.notAsked.2 (h.other _ hfree)]
  set w₁ := ((storePartyType w 1 1).createParty 1).setPartyInvitation 2 w.drawnPartyId 1 with hw₁
  have hreceived : receivedParty moradon w₁ 2 [0x02, 0] = some (.permit 0) := by
    have hsecond : w₁.sessions 2 = some ⟨none, 0⟩ := h.second
    simp [receivedParty, hsecond, moradon, hparse]
  have hinv : w₁.partyInvitations 2 = some (w.drawnPartyId, 1) := by
    rw [hw₁, PartyWorld.setPartyInvitation]
    dsimp only
    rw [Function.update_self]
  have hparty : (w₁.removePartyInvitation 2).parties w.drawnPartyId = some (Party.new 1) :=
    Function.update_self _ _ _
  simp only [partyStep, handleParty, hreceived, performParty, handlePartyPermit, hinv, hparty]
  rfl

/-- As many parties that never get a second member, one after the other. -/
theorem run_foundAndDecline_again {w : PartyWorld} (h : Unbothered w) (k : ℕ)
    (hlow : 2 ≤ w.nextPartyId) (hlt : w.nextPartyId < 2 ^ 16) (hhigh : w.nextPartyId + k ≤ 2 ^ 16) :
    Run.run partyStep w (List.replicate k foundAndDecline).flatten =
      { w with nextPartyId := (w.nextPartyId + k) % 2 ^ 16 } := by
  induction k with
  | zero =>
    rw [Nat.add_zero, Nat.mod_eq_of_lt hlt]
    rfl
  | succ k ih =>
    have ih := ih (by omega)
    rw [Nat.mod_eq_of_lt (by omega)] at ih
    rw [List.replicate_succ', List.flatten_append, List.flatten_singleton, Run.run_append, ih]
    have hdrawn : { w with nextPartyId := w.nextPartyId + k }.drawnPartyId = w.nextPartyId + k := by
      rw [PartyWorld.drawnPartyId, if_neg (by dsimp only; omega)]
    have hcycle := run_foundAndDecline (w := { w with nextPartyId := w.nextPartyId + k })
      ⟨h.first, h.second, h.notAsked, h.other⟩ (by omega)
    rw [hdrawn] at hcycle
    exact hcycle

def allIdsDrawn : List (PartyEnv × PartyEvent) :=
  waitingParty ++ (List.replicate 65534 foundAndDecline).flatten

theorem run_allIdsDrawn : Run.run partyStep .start allIdsDrawn =
    { Run.run partyStep .start waitingParty with nextPartyId := 0 } := by
  have hunbothered : Unbothered (Run.run partyStep .start waitingParty) := by
    refine ⟨rfl, rfl, ⟨rfl, rfl⟩, fun p hp => ?_⟩
    have hparties : (Run.run partyStep .start waitingParty).parties =
      Function.update PartyWorld.start.parties 1 (some (Party.new 3)) := rfl
    rw [hparties, Function.update_of_ne hp]
    rfl
  have hnext : (Run.run partyStep .start waitingParty).nextPartyId = 2 := rfl
  have hagain := run_foundAndDecline_again hunbothered 65534 (by omega) (by omega) (by omega)
  rw [hnext, show (2 + 65534) % 2 ^ 16 = 0 by norm_num] at hagain
  rw [allIdsDrawn, Run.run_append, hagain]

/-- The next party takes the id of the one that waits, whose leader is in no party then. -/
theorem waiting_leader_left_behind :
    ¬ OnePartyEach (Run.run partyStep .start (allIdsDrawn ++ [foundsForB])) := by
  rw [Run.run_append, run_allIdsDrawn]
  intro h
  obtain ⟨party, hp, hcount⟩ := (h.linked 3 1).mp rfl
  cases hp
  exact absurd hcount (by decide)

end KoServer
