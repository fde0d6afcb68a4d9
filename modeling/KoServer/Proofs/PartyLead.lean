import KoServer.Proofs.Party

/-! Who can put others out of a party. Leaving and disbanding share their code, and PARTY_DELETE
does not ask who leads. -/

namespace KoServer

namespace PartyWorld

def HasMember (w : PartyWorld) (p : ℕ) (m : SessionId) : Prop :=
  ∃ party, w.parties p = some party ∧ some m ∈ party.members

variable {w w' : PartyWorld} {p q : ℕ} {party party' : Party} {r m : SessionId}

theorem hasMember_addPartyMember (hp : w.parties p = some party) (hm : some m ∈ party.members) :
    (w.addPartyMember q r).HasMember p m := by
  unfold addPartyMember
  split
  · exact ⟨party, hp, hm⟩
  · next party' hadd =>
    obtain ⟨before, hq, hadd⟩ := Option.bind_eq_some_iff.mp hadd
    unfold HasMember
    rw [setPartyId, parties_updateSession, parties_setParty]
    split_ifs with hpq
    · subst hpq
      rw [hp] at hq
      cases hq
      exact ⟨party', rfl, (Party.mem_addMember hadd).mpr (.inl hm)⟩
    · exact ⟨party, hp, hm⟩

theorem hasMember_removePartyMember (hp : w.parties p = some party) (hm : some m ∈ party.members)
    (hr : p = q → m ≠ r) : (w.removePartyMember q r).HasMember p m := by
  unfold removePartyMember
  split
  · exact ⟨party, hp, hm⟩
  · next party' hrem =>
    obtain ⟨before, hq, hrem⟩ := Option.bind_eq_some_iff.mp hrem
    unfold HasMember
    rw [parties_leaveParty, parties_setParty]
    split_ifs with hpq
    · have hne := hr hpq
      subst hpq
      rw [hp] at hq
      cases hq
      exact ⟨party', rfl, (Party.mem_removeMember_of_ne hrem hne).mpr hm⟩
    · exact ⟨party, hp, hm⟩

theorem hasMember_setParty (hp : w.parties p = some party) (hm : some m ∈ party.members)
    (hmem : p = q → some m ∈ party'.members) : (w.setParty q (some party')).HasMember p m := by
  unfold HasMember
  rw [parties_setParty]
  split_ifs with hpq
  · exact ⟨party', rfl, hmem hpq⟩
  · exact ⟨party, hp, hm⟩

theorem hasMember_disbandParty (hp : w.parties p = some party) (hm : some m ∈ party.members)
    (hpq : p ≠ q) : (w.disbandParty q).HasMember p m := by
  refine ⟨party, ?_, hm⟩
  rw [parties_disbandParty, if_neg hpq, hp]

theorem not_hasMember_disbandParty : ¬ (w.disbandParty p).HasMember p m := by
  rintro ⟨party, hp, -⟩
  rw [parties_disbandParty, if_pos rfl] at hp
  cases hp

end PartyWorld

def Party.others (party : Party) (r : SessionId) : ℕ :=
  (party.activeMembers.filter (· ≠ r)).length

section

variable {env : PartyEnv} {w w' : PartyWorld} {r : SessionId} {p : ℕ} {party : Party}
  {req : PartyRequest}

/-- The others stay with a request of a session that does not lead, but for four cases. -/
theorem others_of_move (hmove : PartyMove env w r req w') (hp : w.parties p = some party)
    (hlead : party.isLeader r = false) :
    (∀ m, m ≠ r → some m ∈ party.members → w'.HasMember p m) ∨
    (w' = (w.removePartyInvitation r).disbandParty p ∧ req = .permit 0 ∧
      (∃ inviter, w.partyInvitations r = some (p, inviter)) ∧ party.memberCount ≤ 1) ∨
    (w' = w.disbandParty p ∧ w.getPartyId r = some p ∧ party.others r ≤ 1) ∨
    (w' = w.disbandParty p ∧ req = .delete ∧ w.getPartyId r = some p) ∨
    (w'.parties p = some (Party.new r) ∧ w.drawnPartyId = p ∧ ∃ targetName partyType target,
      req = .create targetName partyType ∧ createChecks env (storePartyType w r partyType) r
        targetName partyType = .ok target) := by
  cases hmove with
  | nothing => exact .inl fun m _ hm => ⟨party, hp, hm⟩
  | refused => exact .inl fun m _ hm => ⟨party, hp, hm⟩
  | @founded targetName partyType target hok =>
    by_cases hdrawn : p = w.drawnPartyId
    · subst hdrawn
      exact .inr (.inr (.inr (.inr ⟨Function.update_self _ _ _, rfl, targetName, partyType, target,
        rfl, hok⟩)))
    · refine .inl fun m _ hm => ⟨party, ?_, hm⟩
      rw [← hp]
      exact Function.update_of_ne hdrawn _ _
  | invited => exact .inl fun m _ hm => ⟨party, hp, hm⟩
  | answered => exact .inl fun m _ hm => ⟨party, hp, hm⟩
  | @declined q inviter party' hinv hq halone =>
    by_cases hpq : p = q
    · subst hpq
      rw [hp] at hq
      cases hq
      exact .inr (.inl ⟨rfl, rfl, ⟨inviter, hinv⟩, halone⟩)
    · exact .inl fun m _ hm => PartyWorld.hasMember_disbandParty hp hm hpq
  | joined => exact .inl fun m _ hm => PartyWorld.hasMember_addPartyMember hp hm
  | @dissolved target q party' hget hq hwhy =>
    by_cases hpq : p = q
    · subst hpq
      rw [hp] at hq
      cases hq
      rw [hlead] at hwhy
      obtain ⟨-, hfew⟩ := hwhy.resolve_left Bool.false_ne_true
      exact .inr (.inr (.inl ⟨rfl, hget, hfew⟩))
    · exact .inl fun m _ hm => PartyWorld.hasMember_disbandParty hp hm hpq
  | @removed target q party' hget hq hwho =>
    refine .inl fun m hne hm => PartyWorld.hasMember_removePartyMember hp hm fun hpq => ?_
    subst hpq
    rw [hp] at hq
    cases hq
    rw [hwho.mpr hlead]
    exact hne
  | @deleted q hget =>
    by_cases hpq : p = q
    · subst hpq
      exact .inr (.inr (.inr (.inl ⟨rfl, rfl, hget⟩)))
    · exact .inl fun m _ hm => PartyWorld.hasMember_disbandParty hp hm hpq
  | promoted hq hpos hmembers =>
    refine .inl fun m _ hm => PartyWorld.hasMember_setParty hp hm fun hpq => ?_
    subst hpq
    rw [hp] at hq
    cases hq
    rw [hmembers]
    exact Party.mem_swapLeader.mpr hm
  | marked _ hq hmembers =>
    refine .inl fun m _ hm => PartyWorld.hasMember_setParty hp hm fun hpq => ?_
    subst hpq
    rw [hp] at hq
    cases hq
    rw [hmembers]
    exact hm

theorem Party.others_pos : 0 < party.others r ↔ ∃ m, m ≠ r ∧ some m ∈ party.members := by
  unfold Party.others
  rw [List.length_pos_iff_exists_mem]
  simp [Party.mem_activeMembers, and_comm]

theorem Party.others_le (party : Party) (r : SessionId) : party.others r ≤ party.memberCount :=
  List.length_filter_le _ _

end

/-- Whoever was in party `p` besides `r` still is, unless `r` is out and left one at most. -/
def OthersStay (w w' : PartyWorld) (p : ℕ) (r : SessionId) : Prop :=
  (∀ m, m ≠ r → w.HasMember p m → w'.HasMember p m) ∨
    (¬ w'.HasMember p r ∧ ∃ party, w.parties p = some party ∧ party.others r ≤ 1)

def PutsOthersOut (env : PartyEnv) (w : PartyWorld) (r : SessionId) (data : List UInt8)
    (party : Party) (p : ℕ) : Prop :=
  receivedParty env w r data = some .delete ∧ w.getPartyId r = some p ∧ 1 < party.others r ∨
    (founding w (env, .request r data)).isSome ∧ w.drawnPartyId = p ∧ 0 < party.others r

section

variable {env : PartyEnv} {w : PartyWorld} {r : SessionId} {p : ℕ} {party : Party}
  {data : List UInt8}

theorem handleParty_delete (hreceived : receivedParty env w r data = some .delete)
    (hget : w.getPartyId r = some p) : handleParty env w r data = w.disbandParty p := by
  simp only [handleParty, hreceived, performParty, handlePartyDelete, hget]

theorem parties_handleParty_founding (hfounding : (founding w (env, .request r data)).isSome) :
    (handleParty env w r data).parties w.drawnPartyId = some (Party.new r) := by
  obtain ⟨⟨leader, target⟩, hfounds⟩ := Option.isSome_iff_exists.mp hfounding
  obtain ⟨rfl, -⟩ := founding_request.mp hfounds
  obtain ⟨partyType, hstep⟩ := partyStep_founding hfounds
  rw [show handleParty env w leader data = partyStep w (env, .request leader data) from rfl, hstep]
  exact Function.update_self _ _ _

theorem not_othersStay (hp : w.parties p = some party) (hout : PutsOthersOut env w r data party p) :
    ¬ OthersStay w (handleParty env w r data) p r := by
  rintro (hstay | ⟨hgone, party', hp', hfew⟩)
  · rcases hout with ⟨hreceived, hget, hmany⟩ | ⟨hfounding, rfl, hothers⟩
    · obtain ⟨m, hne, hm⟩ := Party.others_pos.mp (Nat.zero_lt_of_lt hmany)
      have hafter := hstay m hne ⟨party, hp, hm⟩
      rw [handleParty_delete hreceived hget] at hafter
      exact PartyWorld.not_hasMember_disbandParty hafter
    · obtain ⟨m, hne, hm⟩ := Party.others_pos.mp hothers
      obtain ⟨after, hafter, hmem⟩ := hstay m hne ⟨party, hp, hm⟩
      rw [parties_handleParty_founding hfounding] at hafter
      cases hafter
      exact hne (Party.mem_new.mp hmem)
  · rcases hout with ⟨-, -, hmany⟩ | ⟨hfounding, rfl, -⟩
    · rw [hp] at hp'
      cases hp'
      omega
    · exact hgone ⟨_, parties_handleParty_founding hfounding, Party.mem_new.mpr rfl⟩

/-- In all other cases the others stay, or the party was nearly empty. -/
theorem others_of_not_putsOthersOut (hp : w.parties p = some party)
    (hlead : party.isLeader r = false) (hnot : ¬ PutsOthersOut env w r data party p) :
    (∀ m, m ≠ r → w.HasMember p m → (handleParty env w r data).HasMember p m) ∨
      (¬ (handleParty env w r data).HasMember p r ∧ party.others r ≤ 1 ∧
        (w.getPartyId r = some p ∨
          receivedParty env w r data = some (.permit 0) ∧ party.memberCount ≤ 1)) := by
  have hmember : ∀ m, w.HasMember p m → some m ∈ party.members := by
    rintro m ⟨party', hp', hm⟩
    rw [hp] at hp'
    cases hp'
    exact hm
  rcases hreceived : receivedParty env w r data with _ | req
  · left
    simp only [handleParty, hreceived]
    exact fun _ _ hm => hm
  have hperform : handleParty env w r data = performParty env w r req := by
    simp only [handleParty, hreceived]
  rw [hperform]
  rcases others_of_move (@performParty_move env w r req) hp hlead with
    hstay | ⟨hafter, rfl, -, halone⟩ | ⟨hafter, hget, hfew⟩ | ⟨hafter, rfl, hget⟩ |
    ⟨hafter, rfl, targetName, partyType, target, rfl, hchecks⟩
  · exact .inl fun m hne hm => hstay m hne (hmember m hm)
  · rw [hafter]
    exact .inr ⟨PartyWorld.not_hasMember_disbandParty, (party.others_le r).trans halone,
      .inr ⟨rfl, halone⟩⟩
  · rw [hafter]
    exact .inr ⟨PartyWorld.not_hasMember_disbandParty, hfew, .inl hget⟩
  · rw [hafter]
    refine .inr ⟨PartyWorld.not_hasMember_disbandParty, ?_, .inl hget⟩
    by_contra hmany
    exact hnot (.inl ⟨hreceived, hget, by omega⟩)
  · -- a new party under the id of `p`: nobody else was there
    refine .inl fun m hne hm => absurd ?_ hnot
    have hothers : 0 < party.others r := Party.others_pos.mpr ⟨m, hne, hmember m hm⟩
    refine .inr ⟨?_, rfl, hothers⟩
    rw [founding_request.mpr ⟨rfl, targetName, partyType, hreceived, hchecks⟩]
    rfl

/-- The requester is not the leader of party `p`. Somebody with another party's id, or none, can
only do away with a party of one that waits for the answer. -/
theorem only_leader_expels (hp : w.parties p = some party) (hlead : party.isLeader r = false) :
    (OthersStay w (handleParty env w r data) p r ↔ ¬ PutsOthersOut env w r data party p) ∧
    (w.getPartyId r ≠ some p → ¬ PutsOthersOut env w r data party p →
      (∀ m, m ≠ r → w.HasMember p m → (handleParty env w r data).HasMember p m) ∨
        receivedParty env w r data = some (.permit 0) ∧ party.memberCount ≤ 1) := by
  refine ⟨⟨fun hstay hout => not_othersStay hp hout hstay, fun hnot => ?_⟩, fun hget hnot => ?_⟩
  · rcases others_of_not_putsOthersOut hp hlead hnot with hstay | ⟨hgone, hfew, -⟩
    · exact .inl hstay
    · exact .inr ⟨hgone, party, hp, hfew⟩
  · rcases others_of_not_putsOthersOut hp hlead hnot with hstay | ⟨-, -, hwhy⟩
    · exact .inl hstay
    · exact .inr (hwhy.resolve_left hget)

end

/-- Sessions 4 and 2 have joined the party of session 3. -/
def partyOfThree : PartyWorld :=
  Run.run partyStep .start (waitingParty ++
    [.request 4 [0x02, 1], .request 3 [0x03, 1, 0, 98, 1], .request 2 [0x02, 1]].map
      fun e => (moradon, e))

theorem only_leader_expels_member_leaves :
    OthersStay partyOfThree (handleParty moradon partyOfThree 2 [0x04, 2, 0]) 1 2 := by
  refine (only_leader_expels rfl rfl).1.mpr ?_
  rintro (⟨hreceived, -⟩ | ⟨hfounding, -⟩)
  · cases hreceived
  · cases hfounding

/-- Session 2, the last to join, disbands the party of session 3. -/
theorem member_disbands_party : ∃ party, partyOfThree.parties 1 = some party ∧
    party.isLeader 2 = false ∧
    ¬ OthersStay partyOfThree (handleParty moradon partyOfThree 2 [0x05]) 1 2 := by
  refine ⟨_, rfl, rfl, not_othersStay rfl (.inl ⟨rfl, rfl, by decide⟩)⟩

end KoServer
