import Mathlib.Tactic.Common
import KoServer.Spec.Party

/-! What the operations on parties change, and the ways a party request can end. -/

namespace KoServer

namespace Party

/-- Nobody stands twice, and the leader's slot is taken. -/
structure Formed (party : Party) : Prop where
  once : ∀ sid, party.members.count (some sid) ≤ 1
  led : ∃ leader, party.members.head? = some (some leader)

variable {party party' : Party} {sid s next : SessionId} {pos : ℕ}

theorem mem_new : some s ∈ (new sid).members ↔ s = sid := by simp [new]

theorem formed_new (sid : SessionId) : (new sid).Formed := by
  refine ⟨fun s => ?_, sid, rfl⟩
  have hrest : (List.replicate (MAX_PARTY_USERS - 1) none).count (some s) = 0 := by
    simp [List.count_replicate]
  rw [new, List.count_cons, hrest]
  split_ifs <;> omega

theorem leaderSid_eq_some : party.leaderSid = some sid ↔ party.members.head? = some (some sid) := by
  unfold leaderSid
  cases party.members.head? with
  | none => simp
  | some p => simp

theorem isLeader_iff : party.isLeader sid = true ↔ party.members.head? = some (some sid) := by
  rw [isLeader, decide_eq_true_iff, leaderSid_eq_some]

theorem contains_iff : party.contains sid = true ↔ some sid ∈ party.members := by simp [contains]

theorem mem_activeMembers : sid ∈ party.activeMembers ↔ some sid ∈ party.members :=
  Roster.mem_occupants

theorem memberCount_le (party : Party) : party.memberCount ≤ MAX_PARTY_USERS :=
  Roster.length_occupants_le.trans_eq party.members_length

theorem addMember_eq (h : party.addMember sid = some party') :
    some sid ∉ party.members ∧ Roster.enlist sid party.members = some party'.members := by
  unfold addMember at h
  split_ifs at h with hin
  rw [contains_iff] at hin
  refine ⟨hin, ?_⟩
  split at h
  · cases h
  · next members hm =>
    cases h
    exact hm

theorem mem_addMember (h : party.addMember sid = some party') :
    some s ∈ party'.members ↔ some s ∈ party.members ∨ s = sid := by
  obtain ⟨-, hm⟩ := addMember_eq h
  have hcount := Roster.count_of_enlist hm s
  rw [← List.count_pos_iff, ← List.count_pos_iff, hcount]
  split_ifs with hs
  · simp [hs]
  · simp [Ne.symm hs]

theorem Formed.addMember (hf : party.Formed) (h : party.addMember sid = some party') :
    party'.Formed := by
  obtain ⟨hout, hm⟩ := addMember_eq h
  obtain ⟨leader, hled⟩ := hf.led
  refine ⟨fun s => ?_, leader, Roster.head_of_enlist hm hled⟩
  rw [Roster.count_of_enlist hm]
  split_ifs with hs
  · rw [← hs, List.count_eq_zero.mpr hout]
  · exact hf.once s

theorem removeMember_eq (h : party.removeMember sid = some party') :
    Roster.strike sid party.members = some party'.members := by
  unfold removeMember at h
  split at h
  · cases h
  · next members hm =>
    cases h
    exact hm

theorem removeMember_eq_none : party.removeMember sid = none ↔ some sid ∉ party.members := by
  rw [← Roster.strike_eq_none]
  unfold removeMember
  split
  · next hm => simp [hm]
  · next members hm => simp [hm]

/-- Nobody else is put out. -/
theorem mem_removeMember_of_ne (h : party.removeMember sid = some party') (hs : s ≠ sid) :
    some s ∈ party'.members ↔ some s ∈ party.members := by
  have hcount := Roster.count_of_strike (removeMember_eq h) s
  rw [if_neg (Ne.symm hs), Nat.add_zero] at hcount
  rw [← List.count_pos_iff, ← List.count_pos_iff, hcount]

theorem Formed.mem_removeMember (hf : party.Formed) (h : party.removeMember sid = some party') :
    some s ∈ party'.members ↔ some s ∈ party.members ∧ s ≠ sid := by
  rcases eq_or_ne s sid with rfl | hs
  · have hcount := Roster.count_of_strike (removeMember_eq h) s
    have honce := hf.once s
    rw [if_pos rfl] at hcount
    simp only [ne_eq, not_true_eq_false, and_false, iff_false]
    rw [← List.count_eq_zero]
    omega
  · rw [mem_removeMember_of_ne h hs]
    simp [hs]

theorem Formed.removeMember (hf : party.Formed) (h : party.removeMember sid = some party')
    (hlead : party.isLeader sid = false) : party'.Formed := by
  have hm := removeMember_eq h
  obtain ⟨leader, hled⟩ := hf.led
  have hne : leader ≠ sid := by
    rintro rfl
    rw [isLeader_iff.mpr hled] at hlead
    cases hlead
  refine ⟨fun s => ?_, leader, Roster.head_of_strike hm hled hne⟩
  have hcount := Roster.count_of_strike hm s
  have honce := hf.once s
  omega

theorem count_swapLeader (party : Party) (pos : ℕ) (s : SessionId) :
    (party.swapLeader pos).members.count (some s) = party.members.count (some s) := by
  unfold swapLeader
  split_ifs with hpos
  · rw [← party.members_length] at hpos
    exact Roster.count_exchange (Nat.zero_lt_of_lt hpos.2) hpos.2 _
  · rfl

theorem findSlot_getD (h : party.findSlot sid = some pos) :
    pos < MAX_PARTY_USERS ∧ party.members.getD pos none = some sid := by
  obtain ⟨hlt, heq, -⟩ := List.findIdx?_eq_some_iff_getElem.mp h
  rw [← party.members_length]
  refine ⟨hlt, ?_⟩
  rw [List.getD_eq_getElem _ _ hlt]
  simpa using heq

theorem findSlot_eq_none : party.findSlot sid = none ↔ some sid ∉ party.members := by
  unfold findSlot
  rw [List.findIdx?_eq_none_iff]
  constructor
  · intro h hin
    simpa using h _ hin
  · intro h p hp
    simpa using fun heq : p = some sid => h (heq ▸ hp)

/-- The one who is promoted leads. -/
theorem head_swapLeader (h : party.findSlot sid = some pos) :
    (party.swapLeader pos).members.head? = some (some sid) := by
  obtain ⟨hlt, hget⟩ := findSlot_getD h
  have hpos : 0 < party.members.length := by
    rw [party.members_length]
    exact Nat.zero_lt_of_lt hlt
  unfold swapLeader
  split_ifs with hc
  · exact Roster.head_exchange hpos hget
  · obtain rfl : pos = 0 := by omega
    rw [List.getD_eq_getElem _ _ hpos] at hget
    rw [List.head?_eq_getElem?, List.getElem?_eq_getElem hpos, hget]

theorem Formed.swapLeader (hf : party.Formed) (h : party.findSlot sid = some pos) :
    (party.swapLeader pos).Formed := by
  refine ⟨fun s => ?_, sid, head_swapLeader h⟩
  rw [count_swapLeader]
  exact hf.once s

theorem mem_swapLeader : some s ∈ (party.swapLeader pos).members ↔ some s ∈ party.members := by
  rw [← List.count_pos_iff, ← List.count_pos_iff, count_swapLeader]

/-- Behind a leader who stands once, there are others only. -/
theorem Formed.mem_drop_one (hf : party.Formed) (hlead : party.isLeader sid = true)
    (hnext : next ∈ Roster.occupants (party.members.drop 1)) :
    some next ∈ party.members ∧ next ≠ sid := by
  have honce := hf.once sid
  rw [isLeader_iff] at hlead
  obtain ⟨t, ht⟩ := List.head?_eq_some_iff.mp hlead
  rw [ht, List.count_cons_self] at honce
  rw [ht, List.drop_one, List.tail_cons, Roster.mem_occupants] at hnext
  rw [ht]
  refine ⟨List.mem_cons_of_mem _ hnext, ?_⟩
  rintro rfl
  have := List.count_pos_iff.mpr hnext
  omega

/-- A leader with nobody behind leaves nobody. -/
theorem filter_ne_leader (hlead : party.isLeader sid = true)
    (hnobody : Roster.occupants (party.members.drop 1) = []) :
    party.activeMembers.filter (· ≠ sid) = [] := by
  rw [isLeader_iff] at hlead
  obtain ⟨t, ht⟩ := List.head?_eq_some_iff.mp hlead
  rw [ht, List.drop_one, List.tail_cons] at hnobody
  have hactive : party.activeMembers = sid :: Roster.occupants t := by
    rw [activeMembers, ht]
    rfl
  rw [hactive, hnobody]
  simp

end Party

namespace PartyWorld

variable (w : PartyWorld) (sid : SessionId) (f : PartySession → PartySession) (p : ℕ)

@[simp] theorem parties_updateSession : (w.updateSession sid f).parties = w.parties := rfl

@[simp] theorem parties_leaveParty : (w.leaveParty sid).parties = w.parties := rfl

@[simp] theorem getPartyId_setParty (party : Option Party) (s : SessionId) :
    (w.setParty p party).getPartyId s = w.getPartyId s := rfl

@[simp] theorem partyInvitations_setParty (party : Option Party) :
    (w.setParty p party).partyInvitations = w.partyInvitations := rfl

theorem parties_setParty (party : Option Party) (q : ℕ) :
    (w.setParty p party).parties q = if q = p then party else w.parties q := by
  simp [setParty, Function.update_apply]

theorem getPartyId_updateSession (s : SessionId) :
    (w.updateSession sid f).getPartyId s =
      if s = sid then (w.sessions sid).bind fun x => (f x).partyId else w.getPartyId s := by
  unfold getPartyId updateSession
  rcases eq_or_ne s sid with rfl | hs
  · simp [Option.bind_map]
  · simp [hs]

theorem getPartyId_leaveParty (s : SessionId) :
    (w.leaveParty sid).getPartyId s = if s = sid then none else w.getPartyId s := by
  rw [leaveParty, getPartyId_updateSession]
  split_ifs
  · simp
  · rfl

theorem getPartyId_setPartyId {w : PartyWorld} {sid : SessionId} (hin : (w.sessions sid).isSome)
    (partyId : Option ℕ) (s : SessionId) :
    (w.setPartyId sid partyId).getPartyId s = if s = sid then partyId else w.getPartyId s := by
  obtain ⟨x, hx⟩ := Option.isSome_iff_exists.mp hin
  rw [setPartyId, getPartyId_updateSession, hx]
  rfl

@[simp] theorem getPartyId_storePartyType (partyType : ℕ) (s : SessionId) :
    (storePartyType w sid partyType).getPartyId s = w.getPartyId s := by
  rw [storePartyType, getPartyId_updateSession]
  split_ifs with hs
  · subst hs
    rfl
  · rfl

/-- Everybody on the list has left, and nothing else has changed. -/
theorem foldl_leaveParty (l : List SessionId) :
    (l.foldl leaveParty w).parties = w.parties ∧
      (l.foldl leaveParty w).partyInvitations = w.partyInvitations ∧
      (l.foldl leaveParty w).nextPartyId = w.nextPartyId ∧
      ∀ s, (l.foldl leaveParty w).getPartyId s = if s ∈ l then none else w.getPartyId s := by
  induction l generalizing w with
  | nil => simp
  | cons sid l ih =>
    obtain ⟨hparties, hinv, hnext, hget⟩ := ih (w.leaveParty sid)
    refine ⟨hparties, hinv, hnext, fun s => ?_⟩
    rw [List.foldl_cons, hget, getPartyId_leaveParty]
    by_cases hl : s ∈ l
    · simp [hl]
    · by_cases hs : s = sid
      · simp [hs]
      · simp [hl, hs]

theorem parties_disbandParty (q : ℕ) :
    (w.disbandParty p).parties q = if q = p then none else w.parties q := by
  unfold disbandParty
  split
  · next hp =>
    split_ifs with hq
    · rw [hq, hp]
    · rfl
  · next party hp => rw [(foldl_leaveParty _ _).1, parties_setParty]

@[simp] theorem partyInvitations_disbandParty :
    (w.disbandParty p).partyInvitations = w.partyInvitations := by
  unfold disbandParty
  split
  · rfl
  · rw [(foldl_leaveParty _ _).2.1, partyInvitations_setParty]

@[simp] theorem nextPartyId_disbandParty : (w.disbandParty p).nextPartyId = w.nextPartyId := by
  unfold disbandParty
  split
  · rfl
  · rw [(foldl_leaveParty _ _).2.2.1]
    rfl

variable {w p sid} {party : Party}

theorem getPartyId_disbandParty (hp : w.parties p = some party) (s : SessionId) :
    (w.disbandParty p).getPartyId s = if some s ∈ party.members then none else w.getPartyId s := by
  unfold disbandParty
  simp only [hp]
  rw [(foldl_leaveParty _ _).2.2.2, getPartyId_setParty]
  simp only [Party.mem_activeMembers]

@[simp] theorem hasPartyInvitation_removePartyInvitation (w : PartyWorld) (sid s : SessionId) :
    (w.removePartyInvitation sid).hasPartyInvitation s =
      if s = sid then false else w.hasPartyInvitation s := by
  unfold hasPartyInvitation removePartyInvitation
  split_ifs with hs
  · simp [hs]
  · simp [hs]

@[simp] theorem hasPartyInvitation_setPartyInvitation (w : PartyWorld) (invitee inviter : SessionId)
    (p : ℕ) (s : SessionId) : (w.setPartyInvitation invitee p inviter).hasPartyInvitation s =
      if s = invitee then true else w.hasPartyInvitation s := by
  unfold hasPartyInvitation setPartyInvitation
  split_ifs with hs
  · simp [hs]
  · simp [hs]

theorem promotePartyLeader_eq (hp : w.parties p = some party) {pos : ℕ}
    (hpos : party.findSlot sid = some pos) :
    w.promotePartyLeader p sid = w.setParty p (some (party.swapLeader pos)) := by
  unfold promotePartyLeader
  simp only [hp, hpos]

@[simp] theorem getPartyId_promotePartyLeader (w : PartyWorld) (p : ℕ) (sid s : SessionId) :
    (w.promotePartyLeader p sid).getPartyId s = w.getPartyId s := by
  unfold promotePartyLeader
  repeat' split
  all_goals rfl

@[simp] theorem partyInvitations_promotePartyLeader (w : PartyWorld) (p : ℕ) (sid : SessionId) :
    (w.promotePartyLeader p sid).partyInvitations = w.partyInvitations := by
  unfold promotePartyLeader
  repeat' split
  all_goals rfl

@[simp] theorem partyInvitations_removePartyMember (w : PartyWorld) (p : ℕ) (sid : SessionId) :
    (w.removePartyMember p sid).partyInvitations = w.partyInvitations := by
  unfold removePartyMember
  split
  · rfl
  · rfl

theorem getPartyId_createParty (hin : (w.sessions sid).isSome) (s : SessionId) :
    (w.createParty sid).getPartyId s = if s = sid then some w.drawnPartyId else w.getPartyId s := by
  unfold createParty
  dsimp only
  rw [getPartyId_setPartyId (by exact hin)]
  rfl

end PartyWorld

theorem PartyWorld.setParty_setParty (w : PartyWorld) (p : ℕ) (party party' : Option Party) :
    (w.setParty p party).setParty p party' = w.setParty p party' := by
  simp [PartyWorld.setParty]

/-- The ways a request of `sid` can end. -/
inductive PartyMove (env : PartyEnv) (w : PartyWorld) (sid : SessionId) :
    PartyRequest → PartyWorld → Prop
  | nothing (req : PartyRequest) : PartyMove env w sid req w
  | refused (req : PartyRequest) (partyType : ℕ) :
      PartyMove env w sid req (storePartyType w sid partyType)
  | founded {targetName : List Char} {partyType : ℕ} {target : SessionId}
      (hok : createChecks env (storePartyType w sid partyType) sid targetName partyType =
        .ok target) :
      PartyMove env w sid (.create targetName partyType)
        (((storePartyType w sid partyType).createParty sid).setPartyInvitation target
          w.drawnPartyId sid)
  | invited {targetName : List Char} {partyType p : ℕ} {target : SessionId}
      (hok : inviteChecks env (storePartyType w sid partyType) sid targetName partyType =
        .ok (p, target)) :
      PartyMove env w sid (.invite targetName partyType)
        ((storePartyType w sid partyType).setPartyInvitation target p sid)
  | answered {accept p : ℕ} {inviter : SessionId}
      (hinv : w.partyInvitations sid = some (p, inviter)) :
      PartyMove env w sid (.permit accept) (w.removePartyInvitation sid)
  | declined {p : ℕ} {inviter : SessionId} {party : Party}
      (hinv : w.partyInvitations sid = some (p, inviter)) (hp : w.parties p = some party)
      (halone : party.memberCount ≤ 1) :
      PartyMove env w sid (.permit 0) ((w.removePartyInvitation sid).disbandParty p)
  | joined {accept p partyType : ℕ} {inviter : SessionId} {party : Party}
      (hinv : w.partyInvitations sid = some (p, inviter)) (hp : w.parties p = some party)
      (haccept : accept ≠ 0) :
      PartyMove env w sid (.permit accept)
        ((storePartyType (w.removePartyInvitation sid) sid partyType).addPartyMember p sid)
  | dissolved {target : SessionId} {p : ℕ} {party : Party} (hget : w.getPartyId sid = some p)
      (hp : w.parties p = some party)
      (hwhy : party.isLeader sid = true ∨
        target = sid ∧ (party.activeMembers.filter (· ≠ sid)).length ≤ 1) :
      PartyMove env w sid (.remove target) (w.disbandParty p)
  | removed {target : SessionId} {p : ℕ} {party : Party} (hget : w.getPartyId sid = some p)
      (hp : w.parties p = some party) (hwho : target = sid ↔ party.isLeader sid = false) :
      PartyMove env w sid (.remove target) (w.removePartyMember p target)
  | deleted {p : ℕ} (hget : w.getPartyId sid = some p) :
      PartyMove env w sid .delete (w.disbandParty p)
  | promoted {newLeader : SessionId} {p pos : ℕ} {party party' : Party}
      (hp : w.parties p = some party) (hpos : party.findSlot newLeader = some pos)
      (hmembers : party'.members = (party.swapLeader pos).members) :
      PartyMove env w sid (.promote newLeader) (w.setParty p (some party'))
  | marked (req : PartyRequest) {p : ℕ} {party party' : Party} (hp : w.parties p = some party)
      (hmembers : party'.members = party.members) :
      PartyMove env w sid req (w.setParty p (some party'))

section

variable {env : PartyEnv} {w : PartyWorld} {sid : SessionId}

theorem handlePartyCreate_move (targetName : List Char) (partyType : ℕ) :
    PartyMove env w sid (.create targetName partyType)
      (handlePartyCreate env w sid targetName partyType) := by
  unfold handlePartyCreate
  dsimp only
  split
  · exact .refused _ _
  · next hok => exact .founded hok

theorem handlePartyInvite_move (targetName : List Char) (partyType : ℕ) :
    PartyMove env w sid (.invite targetName partyType)
      (handlePartyInvite env w sid targetName partyType) := by
  unfold handlePartyInvite
  dsimp only
  split
  · exact .refused _ _
  · next hok => exact .invited hok

theorem handlePartyPermit_move (accept : ℕ) :
    PartyMove env w sid (.permit accept) (handlePartyPermit env w sid accept) := by
  unfold handlePartyPermit
  rcases hinv : w.partyInvitations sid with _ | ⟨p, inviter⟩
  · exact .nothing _
  dsimp only
  rcases hp : w.parties p with _ | party
  · have hp₁ : (w.removePartyInvitation sid).parties p = none := hp
    rw [hp₁]
    exact .answered hinv
  have hp₁ : (w.removePartyInvitation sid).parties p = some party := hp
  rw [hp₁]
  dsimp only
  split_ifs with haccept halone
  · subst haccept
    exact .declined hinv hp halone
  · exact .answered hinv
  · split
    · exact .answered hinv
    · split
      · exact .answered hinv
      · exact .joined hinv hp haccept

theorem handlePartyRemove_move (target : SessionId) :
    PartyMove env w sid (.remove target) (handlePartyRemove w sid target) := by
  unfold handlePartyRemove
  rcases hget : w.getPartyId sid with _ | p
  · exact .nothing _
  dsimp only
  rcases hp : w.parties p with _ | party
  · exact .nothing _
  dsimp only
  cases hlead : party.isLeader sid with
  | true =>
    by_cases htarget : target = sid
    · simp only [htarget, decide_true, Bool.and_self, if_true]
      exact .dissolved hget hp (.inl hlead)
    · simp only [htarget, decide_false, Bool.false_and, Bool.false_eq_true, if_false, ne_eq,
        not_false_eq_true, decide_true, Bool.not_true, Bool.and_false]
      split_ifs
      · exact .dissolved hget hp (.inl hlead)
      · exact .removed hget hp (by simp [htarget, hlead])
  | false =>
    by_cases htarget : target = sid
    · simp only [htarget, decide_true, Bool.and_false, Bool.false_eq_true, if_false, ne_eq,
        not_true_eq_false, decide_false, Bool.false_and]
      split_ifs with hfew
      · exact .dissolved hget hp (.inr ⟨rfl, hfew⟩)
      · exact .removed hget hp (by simp [hlead])
    · simp only [htarget, decide_false, Bool.false_and, Bool.false_eq_true, if_false, ne_eq,
        not_false_eq_true, decide_true, Bool.not_false, Bool.and_true, if_true]
      exact .nothing _

theorem handlePartyDelete_move : PartyMove env w sid .delete (handlePartyDelete w sid) := by
  unfold handlePartyDelete
  split
  · exact .nothing _
  · next p hget => exact .deleted hget

theorem handlePartyPromote_move (newLeader : SessionId) :
    PartyMove env w sid (.promote newLeader) (handlePartyPromote w sid newLeader) := by
  unfold handlePartyPromote
  rcases hget : w.getPartyId sid with _ | p
  · exact .nothing _
  dsimp only
  rcases hp : w.parties p with _ | party
  · exact .nothing _
  dsimp only
  split_ifs with hno hcommand
  · exact .nothing _
  all_goals
    simp only [Bool.or_eq_true, Bool.not_eq_true', not_or, Bool.not_eq_false,
      Party.contains_iff] at hno
    obtain ⟨pos, hpos⟩ : ∃ pos, party.findSlot newLeader = some pos :=
      Option.ne_none_iff_exists'.mp fun hnone => Party.findSlot_eq_none.mp hnone hno.2
    rw [PartyWorld.promotePartyLeader_eq hp hpos]
  · rw [PartyWorld.parties_setParty, if_pos rfl, Option.map_some, PartyWorld.setParty_setParty]
    exact .promoted hp hpos rfl
  · exact .promoted hp hpos rfl

theorem updateOwnParty_move (req : PartyRequest) {f : Party → Party}
    (hf : ∀ party, (f party).members = party.members) :
    PartyMove env w sid req (updateOwnParty w sid f) := by
  unfold updateOwnParty
  rcases hget : w.getPartyId sid with _ | p
  · exact .nothing _
  dsimp only
  rcases hp : w.parties p with _ | party
  · exact .nothing _
  dsimp only
  split_ifs
  · exact .marked _ hp (hf party)
  · exact .nothing _

theorem performParty_move (req : PartyRequest) :
    PartyMove env w sid req (performParty env w sid req) := by
  cases req with
  | create targetName partyType => exact handlePartyCreate_move targetName partyType
  | invite targetName partyType => exact handlePartyInvite_move targetName partyType
  | permit accept => exact handlePartyPermit_move accept
  | remove target => exact handlePartyRemove_move target
  | delete => exact handlePartyDelete_move
  | promote newLeader => exact handlePartyPromote_move newLeader
  | targetNumber targetId =>
    unfold performParty handleTargetNumber
    dsimp only
    split_ifs
    · exact .nothing _
    · exact updateOwnParty_move _ fun _ => rfl
  | alert => exact .nothing _
  | command target =>
    unfold performParty handlePartyCommand
    dsimp only
    split_ifs
    · exact .nothing _
    · refine updateOwnParty_move _ fun party => ?_
      split_ifs
      · rfl
      · rfl

theorem findInvitee_ok {targetName : List Char} {target : SessionId}
    (hok : findInvitee env w sid targetName = .ok target) :
    target ≠ sid ∧ w.getPartyId target = none ∧ w.hasPartyInvitation target = false := by
  unfold findInvitee at hok
  split at hok
  · cases hok
  · split_ifs at hok with hself hgone hbusy
    cases hok
    rw [Bool.not_eq_true, Bool.or_eq_false_iff, PartyWorld.isInParty] at hbusy
    exact ⟨hself, by simpa using hbusy.1, hbusy.2⟩

theorem createChecks_ok {targetName : List Char} {partyType : ℕ} {target : SessionId}
    (hok : createChecks env w sid targetName partyType = .ok target) :
    findInvitee env w sid targetName = .ok target ∧ w.getPartyId sid = none ∧
      w.hasPartyInvitation sid = false := by
  unfold createChecks at hok
  rcases hfind : findInvitee env w sid targetName with e | found
  · rw [hfind] at hok
    cases hok
  · rw [hfind] at hok
    dsimp only at hok
    split_ifs at hok with _ _ _ _ _ _ hbusy
    cases hok
    rw [Bool.not_eq_true, Bool.or_eq_false_iff, PartyWorld.isInParty] at hbusy
    exact ⟨rfl, by simpa using hbusy.1, hbusy.2⟩

theorem inviteChecks_ok {targetName : List Char} {partyType p : ℕ} {target : SessionId}
    (hok : inviteChecks env w sid targetName partyType = .ok (p, target)) :
    (∃ party, w.parties p = some party) ∧ findInvitee env w sid targetName = .ok target := by
  unfold inviteChecks at hok
  split at hok
  · cases hok
  split at hok
  · cases hok
  next party hp =>
  split at hok
  · cases hok
  rcases hfind : findInvitee env w sid targetName with e | found
  · rw [hfind] at hok
    cases hok
  · rw [hfind] at hok
    dsimp only at hok
    split_ifs at hok
    cases hok
    exact ⟨⟨party, hp⟩, rfl⟩

end

end KoServer
