import Mathlib.Order.Interval.Finset.Nat
import KoServer.Proofs.Party

/-! Which party an id stands for. Ids come round again after 65535 parties, so a party or an
invitation is mistaken for another one only if it is older than that. -/

namespace KoServer

namespace PartyWorld

/-- No party comes, and nobody is asked to join one. -/
structure Quieter (w w' : PartyWorld) : Prop where
  next : w'.nextPartyId = w.nextPartyId
  parties : ∀ p, (w'.parties p).isSome → (w.parties p).isSome
  invitations : ∀ sid x, w'.partyInvitations sid = some x → w.partyInvitations sid = some x

namespace Quieter

variable {w w₁ w₂ : PartyWorld} {party party' : Party} {p : ℕ}

theorem same (hnext : w₁.nextPartyId = w.nextPartyId) (hparties : w₁.parties = w.parties)
    (hinv : w₁.partyInvitations = w.partyInvitations) : Quieter w w₁ :=
  ⟨hnext, fun _ hp => hparties ▸ hp, fun _ _ hx => hinv ▸ hx⟩

theorem refl (w : PartyWorld) : Quieter w w := same rfl rfl rfl

theorem trans (h₁ : Quieter w w₁) (h₂ : Quieter w₁ w₂) : Quieter w w₂ :=
  ⟨h₂.next.trans h₁.next, fun p hp => h₁.parties p (h₂.parties p hp),
    fun sid x hx => h₁.invitations sid x (h₂.invitations sid x hx)⟩

theorem updateSession (w : PartyWorld) (sid : SessionId) (f : PartySession → PartySession) :
    Quieter w (w.updateSession sid f) := same rfl rfl rfl

theorem removePartyInvitation (w : PartyWorld) (sid : SessionId) :
    Quieter w (w.removePartyInvitation sid) := by
  refine ⟨rfl, fun _ hp => hp, fun s x hx => ?_⟩
  unfold PartyWorld.removePartyInvitation at hx
  dsimp only at hx
  rw [Function.update_apply] at hx
  split_ifs at hx
  exact hx

theorem setParty (hp : w.parties p = some party) : Quieter w (w.setParty p (some party')) := by
  refine ⟨rfl, fun q hq => ?_, fun _ _ hx => hx⟩
  rw [parties_setParty] at hq
  split_ifs at hq with hqp
  · rw [hqp, hp]
    rfl
  · exact hq

theorem addPartyMember (w : PartyWorld) (p : ℕ) (sid : SessionId) :
    Quieter w (w.addPartyMember p sid) := by
  unfold PartyWorld.addPartyMember
  split
  · exact refl w
  · next hadd =>
    obtain ⟨party, hp, -⟩ := Option.bind_eq_some_iff.mp hadd
    exact (setParty hp).trans (updateSession _ _ _)

theorem removePartyMember (w : PartyWorld) (p : ℕ) (sid : SessionId) :
    Quieter w (w.removePartyMember p sid) := by
  unfold PartyWorld.removePartyMember
  split
  · exact refl w
  · next hrem =>
    obtain ⟨party, hp, -⟩ := Option.bind_eq_some_iff.mp hrem
    exact (setParty hp).trans (updateSession _ _ _)

theorem disbandParty (w : PartyWorld) (p : ℕ) : Quieter w (w.disbandParty p) := by
  refine ⟨nextPartyId_disbandParty w p, fun q hq => ?_, fun sid x hx => ?_⟩
  · rw [parties_disbandParty] at hq
    split_ifs at hq
    · cases hq
    · exact hq
  · rwa [partyInvitations_disbandParty] at hx

theorem promotePartyLeader (w : PartyWorld) (p : ℕ) (sid : SessionId) :
    Quieter w (w.promotePartyLeader p sid) := by
  unfold PartyWorld.promotePartyLeader
  split
  · exact refl w
  · next hp =>
    split
    · exact refl w
    · exact setParty hp

theorem cleanupPartyOnDisconnect (w : PartyWorld) (sid : SessionId) :
    Quieter w (w.cleanupPartyOnDisconnect sid) := by
  unfold PartyWorld.cleanupPartyOnDisconnect
  dsimp only
  have h := removePartyInvitation w sid
  split
  · exact h
  · next p _ =>
    split
    · exact h
    · next party _ =>
      by_cases hfew : (party.activeMembers.filter (· ≠ sid)).length ≤ 1
      · rw [if_pos hfew]
        refine h.trans (trans ?_ (disbandParty _ _))
        split_ifs
        · split
          · exact refl _
          · exact promotePartyLeader _ _ _
        · exact refl _
      · rw [if_neg hfew]
        refine h.trans (trans ?_ (removePartyMember _ _ _))
        split_ifs
        · split
          · exact refl _
          · exact promotePartyLeader _ _ _
        · exact refl _

end Quieter

end PartyWorld

def inviting (w : PartyWorld) (i : PartyEnv × PartyEvent) : Option (ℕ × SessionId) :=
  match i.2 with
  | .request sid data =>
    match receivedParty i.1 w sid data with
    | some (.invite targetName partyType) =>
      (inviteChecks i.1 (storePartyType w sid partyType) sid targetName partyType).toOption
    | _ => none
  | _ => none

def accepting (w : PartyWorld) (i : PartyEnv × PartyEvent) : Option (SessionId × ℕ) :=
  match i.2 with
  | .request sid data =>
    match receivedParty i.1 w sid data, w.partyInvitations sid with
    | some (.permit accept), some (partyId, _) =>
      if accept ≠ 0 ∧ (w.parties partyId).isSome then some (sid, partyId) else none
    | _, _ => none
  | _ => none

section

variable {w : PartyWorld} {i : PartyEnv × PartyEvent} {target : SessionId} {p : ℕ}

theorem partyStep_inviting (h : inviting w i = some (p, target)) :
    (∃ sid partyType, partyStep w i =
      (storePartyType w sid partyType).setPartyInvitation target p sid) ∧ (w.parties p).isSome := by
  obtain ⟨env, event⟩ := i
  cases event with
  | login => cases h
  | disconnect => cases h
  | request sid' data =>
    unfold inviting at h
    dsimp only at h
    split at h
    · next targetName partyType hreceived =>
      rcases hchecks : inviteChecks env (storePartyType w sid' partyType) sid' targetName partyType
        with e | ok
      · rw [hchecks] at h
        cases h
      · rw [hchecks] at h
        cases h
        obtain ⟨⟨party, hp⟩, -⟩ := inviteChecks_ok hchecks
        refine ⟨⟨sid', partyType, ?_⟩, Option.isSome_iff_exists.mpr ⟨party, hp⟩⟩
        simp only [partyStep, handleParty, hreceived, performParty, handlePartyInvite, hchecks]
    · cases h

theorem partyStep_quieter (hfounding : founding w i = none) (hinviting : inviting w i = none) :
    w.Quieter (partyStep w i) := by
  obtain ⟨env, event⟩ := i
  cases event with
  | login sid =>
    unfold partyStep
    dsimp only
    split_ifs
    · exact .refl w
    · exact .same rfl rfl rfl
  | disconnect sid =>
    exact (PartyWorld.Quieter.cleanupPartyOnDisconnect w sid).trans (.same rfl rfl rfl)
  | request sid data =>
    unfold founding at hfounding
    unfold inviting at hinviting
    unfold partyStep handleParty
    dsimp only at hfounding hinviting ⊢
    split
    · exact .refl w
    · next req hreq =>
      rw [hreq] at hfounding hinviting
      have hmove := @performParty_move env w sid req
      generalize performParty env w sid req = w' at hmove
      have htyped : ∀ t, w.Quieter (storePartyType w sid t) := fun t => .updateSession w sid _
      have hused := PartyWorld.Quieter.removePartyInvitation w sid
      cases hmove with
      | nothing => exact .refl w
      | refused => exact htyped _
      | founded hok =>
        dsimp only at hfounding
        rw [hok] at hfounding
        cases hfounding
      | invited hok =>
        dsimp only at hinviting
        rw [hok] at hinviting
        cases hinviting
      | answered => exact hused
      | declined => exact hused.trans (.disbandParty _ _)
      | joined => exact hused.trans ((PartyWorld.Quieter.updateSession _ _ _).trans (.addPartyMember _ _ _))
      | dissolved => exact .disbandParty _ _
      | removed => exact .removePartyMember _ _ _
      | deleted => exact .disbandParty _ _
      | promoted hp => exact .setParty hp
      | marked _ hp => exact .setParty hp

end

/-- The world, and what happened in it: how many parties were founded so far, as which of them the
party under an id was founded, and as which the party that issued a pending invitation. -/
structure PartyHistory where
  world : PartyWorld
  births : ℕ
  bornAs : ℕ → ℕ
  issuedBy : SessionId → ℕ

namespace PartyHistory

def start : PartyHistory := ⟨.start, 0, fun _ => 0, fun _ => 0⟩

def step (h : PartyHistory) (i : PartyEnv × PartyEvent) : PartyHistory :=
  match founding h.world i, inviting h.world i with
  | some (_, target), _ =>
    { world := partyStep h.world i
      births := h.births + 1
      bornAs := Function.update h.bornAs h.world.drawnPartyId h.births
      issuedBy := Function.update h.issuedBy target h.births }
  | none, some (p, target) =>
    { h with
      world := partyStep h.world i
      issuedBy := Function.update h.issuedBy target (h.bornAs p) }
  | none, none => { h with world := partyStep h.world i }

/-- Where a party is founded, all that are there are among the last 65534. An invitation that is
accepted was issued by one of the last 65535. -/
structure WithinOneRound (h : PartyHistory) (i : PartyEnv × PartyEvent) : Prop where
  parties : (founding h.world i).isSome →
    ∀ p, (h.world.parties p).isSome → h.births < h.bornAs p + 65535
  invitation : ∀ sid p, accepting h.world i = some (sid, p) → h.births ≤ h.issuedBy sid + 65535

/-- A new party gets an id that no party has, and an invitation is accepted into the party that
issued it. -/
structure KeepsIdentity (h : PartyHistory) (i : PartyEnv × PartyEvent) : Prop where
  fresh : (founding h.world i).isSome → h.world.parties h.world.drawnPartyId = none
  issuer : ∀ sid p, accepting h.world i = some (sid, p) → h.bornAs p = h.issuedBy sid

/-- Ids tell when a party was founded, up to whole rounds. -/
structure Dated (h : PartyHistory) : Prop where
  drawn : h.world.drawnPartyId = 1 + h.births % 65535
  parties : ∀ p, (h.world.parties p).isSome →
    p = 1 + h.bornAs p % 65535 ∧ h.bornAs p < h.births ∧ h.births ≤ h.bornAs p + 65535
  invitations : ∀ sid p inviter, h.world.partyInvitations sid = some (p, inviter) →
    p = 1 + h.issuedBy sid % 65535 ∧ h.issuedBy sid < h.births

variable {h : PartyHistory} {i : PartyEnv × PartyEvent}

theorem dated_start : Dated start := by
  refine ⟨rfl, ?_, ?_⟩
  · simp [start, PartyWorld.start]
  · simp [start, PartyWorld.start]

theorem Dated.keepsIdentity (hd : Dated h) (hok : WithinOneRound h i) : KeepsIdentity h i := by
  refine ⟨fun hfounding => ?_, fun sid p haccept => ?_⟩
  · by_contra hlive
    have hlive := Option.isSome_iff_ne_none.mpr hlive
    have hyoung := hok.parties hfounding _ hlive
    have hdrawn := hd.drawn
    obtain ⟨hborn, hlt, -⟩ := hd.parties _ hlive
    omega
  · have hyoung := hok.invitation sid p haccept
    unfold accepting at haccept
    split at haccept
    · split at haccept
      · next hinv =>
        split_ifs at haccept with hwhen
        cases haccept
        obtain ⟨hissued, hbefore⟩ := hd.invitations _ _ _ hinv
        obtain ⟨hborn, hlt, hlast⟩ := hd.parties _ hwhen.2
        omega
      · cases haccept
    · cases haccept

/-- The counter skips 0 when it comes round. -/
theorem drawnPartyId_next (w : PartyWorld) (hle : w.drawnPartyId ≤ 65535)
    (w' : PartyWorld) (hnext : w'.nextPartyId = (w.drawnPartyId + 1) % 2 ^ 16) :
    w'.drawnPartyId = 1 + w.drawnPartyId % 65535 := by
  have hpos : 0 < w.drawnPartyId := by
    unfold PartyWorld.drawnPartyId
    split_ifs <;> omega
  rw [PartyWorld.drawnPartyId, hnext]
  split_ifs <;> omega

theorem Dated.step (hd : Dated h) (hok : WithinOneRound h i) : Dated (h.step i) := by
  unfold PartyHistory.step
  split
  · next sid target hfounding =>
    obtain ⟨partyType, hworld⟩ := partyStep_founding hfounding
    have hyoung := hok.parties (by rw [hfounding]; rfl)
    have hdrawn := hd.drawn
    rw [hworld]
    refine ⟨?_, fun p hp => ?_, fun s p inviter hinv => ?_⟩
    · dsimp only
      rw [drawnPartyId_next h.world (by omega) _ rfl, hdrawn]
      omega
    · dsimp only at hp ⊢
      rw [Function.update_apply]
      split_ifs with hpd
      · omega
      · have hp : (h.world.parties p).isSome := by
          rwa [show (((storePartyType h.world sid partyType).createParty sid).setPartyInvitation
            target h.world.drawnPartyId sid).parties p = h.world.parties p from
              Function.update_of_ne hpd _ _] at hp
        have hp' := hyoung p hp
        obtain ⟨hborn, hlt, -⟩ := hd.parties p hp
        exact ⟨hborn, by omega, by omega⟩
    · dsimp only [PartyWorld.setPartyInvitation] at hinv ⊢
      rw [Function.update_apply] at hinv ⊢
      split_ifs at hinv ⊢ with hs
      · cases hinv
        exact ⟨hdrawn, by omega⟩
      · obtain ⟨hissued, hlt⟩ := hd.invitations s p inviter hinv
        exact ⟨hissued, by omega⟩
  · next p target hfounding hinviting =>
    obtain ⟨⟨sid, partyType, hworld⟩, hlive⟩ := partyStep_inviting hinviting
    rw [hworld]
    refine ⟨hd.drawn, hd.parties, fun s q inviter hinv => ?_⟩
    dsimp only [PartyWorld.setPartyInvitation] at hinv ⊢
    rw [Function.update_apply] at hinv ⊢
    split_ifs at hinv ⊢ with hs
    · cases hinv
      obtain ⟨hborn, hlt, -⟩ := hd.parties p hlive
      exact ⟨hborn, hlt⟩
    · exact hd.invitations s q inviter hinv
  · next hfounding hinviting =>
    have hquiet := partyStep_quieter hfounding hinviting
    refine ⟨?_, fun p hp => hd.parties p (hquiet.parties p hp), fun sid p inviter hinv =>
      hd.invitations sid p inviter (hquiet.invitations sid _ hinv)⟩
    rw [PartyWorld.drawnPartyId, hquiet.next]
    exact hd.drawn

theorem run_world (h : PartyHistory) (steps : List (PartyEnv × PartyEvent)) :
    (Run.run step h steps).world = Run.run partyStep h.world steps := by
  induction steps generalizing h with
  | nil => rfl
  | cons i steps ih =>
    have hstep : (h.step i).world = partyStep h.world i := by
      unfold PartyHistory.step
      split <;> rfl
    rw [Run.run_cons, Run.run_cons, ih, hstep]

end PartyHistory

/-- However many parties come and go, as long as none lives, and no invitation waits, through
65535 others. -/
theorem parties_keep_identity {steps : List (PartyEnv × PartyEvent)}
    (hok : Run.Along PartyHistory.step PartyHistory.WithinOneRound .start steps) :
    Run.Along PartyHistory.step PartyHistory.KeepsIdentity .start steps :=
  Run.along_of_invariant PartyHistory.Dated
    (fun _ _ hd hi => ⟨hd.step hi, hd.keepsIdentity hi⟩) hok PartyHistory.dated_start

theorem parties_keep_identity_joined :
    Run.Along PartyHistory.step PartyHistory.KeepsIdentity .start
      (waitingParty ++ [(moradon, .request 4 [0x02, 1])]) := by
  have hnobody : ∀ {h : PartyHistory} {i : PartyEnv × PartyEvent}, founding h.world i = none →
      accepting h.world i = none → h.WithinOneRound i := by
    intro h i hfounding haccepting
    refine ⟨fun hf => ?_, fun sid p ha => ?_⟩
    · rw [hfounding] at hf
      cases hf
    · rw [haccepting] at ha
      cases ha
  refine parties_keep_identity ⟨hnobody rfl rfl, hnobody rfl rfl, hnobody rfl rfl,
    hnobody rfl rfl, ⟨fun _ p hp => ?_, fun sid p ha => ?_⟩, ⟨fun hf => ?_, fun sid p ha => ?_⟩,
    trivial⟩
  · cases hp
  · cases ha
  · cases hf
  · cases ha
    decide

structure PartyWorld.IdsFit (w : PartyWorld) : Prop where
  next : w.nextPartyId < 2 ^ 16
  parties : ∀ p, (w.parties p).isSome → 0 < p ∧ p < 2 ^ 16

theorem partyStep_idsFit {w : PartyWorld} (h : w.IdsFit) (i : PartyEnv × PartyEvent) :
    (partyStep w i).IdsFit := by
  rcases hfounding : founding w i with _ | ⟨sid, target⟩
  · rcases hinviting : inviting w i with _ | ⟨p, target⟩
    · have hquiet := partyStep_quieter hfounding hinviting
      exact ⟨hquiet.next ▸ h.next, fun p hp => h.parties p (hquiet.parties p hp)⟩
    · obtain ⟨⟨sid, partyType, hworld⟩, -⟩ := partyStep_inviting hinviting
      rw [hworld]
      exact ⟨h.next, h.parties⟩
  · obtain ⟨partyType, hworld⟩ := partyStep_founding hfounding
    rw [hworld]
    refine ⟨Nat.mod_lt _ (by norm_num), fun p hp => ?_⟩
    by_cases hpd : p = w.drawnPartyId
    · have hnext := h.next
      rw [hpd, PartyWorld.drawnPartyId]
      split_ifs <;> omega
    · rw [show (((storePartyType w sid partyType).createParty sid).setPartyInvitation target
        w.drawnPartyId sid).parties p = w.parties p from Function.update_of_ne hpd _ _] at hp
      exact h.parties p hp

theorem fewer_parties_than_ids (steps : List (PartyEnv × PartyEvent)) :
    ∃ alive : Finset ℕ, alive.card < 65536 ∧
      ∀ p, ((Run.run partyStep .start steps).parties p).isSome → p ∈ alive := by
  have hfit : (Run.run partyStep .start steps).IdsFit :=
    Run.invariant PartyWorld.IdsFit (fun _ i h _ => partyStep_idsFit h i)
      (Run.along_true _ steps) ⟨by decide, by simp [PartyWorld.start]⟩
  refine ⟨Finset.Ioo 0 (2 ^ 16), by simp, fun p hp => ?_⟩
  rw [Finset.mem_Ioo]
  exact hfit.parties p hp

/-- The party that waits is overwritten by one of another player. -/
theorem waiting_party_overwritten :
    (∀ n, ∃ alive : Finset ℕ, alive.card < 65536 ∧ ∀ p,
      ((Run.run partyStep .start ((allIdsDrawn ++ [foundsForB]).take n)).parties p).isSome →
        p ∈ alive) ∧
    ¬ Run.Along PartyHistory.step PartyHistory.KeepsIdentity .start
      (allIdsDrawn ++ [foundsForB]) := by
  refine ⟨fun n => fewer_parties_than_ids _, fun h => ?_⟩
  obtain ⟨-, ⟨hfresh, -⟩, -⟩ := Run.along_append.mp h
  rw [PartyHistory.run_world, show PartyHistory.start.world = .start from rfl,
    run_allIdsDrawn] at hfresh
  exact absurd (hfresh rfl) (by decide)

end KoServer
