import KoServer.Proofs.Challenge

/-! What the challenge handlers do to the pairs, one handler after another, and the condition under
which a whole run keeps them. -/

namespace KoServer

open Function Ledger ChallengeState

namespace DuelWorld

variable {w : DuelWorld} {sid a b s : UInt16} {k : ChallengeKind} {c d : ChallengeState} {p q : DuelPlayer}
  {name : Option String}

theorem challenges_updateChallenge (w : DuelWorld) (s : UInt16)
    (f : ChallengeState → ChallengeState) :
    (w.updateChallenge s f).challenges = update w.challenges s ((w.challenges s).map f) := by
  funext t
  rcases eq_or_ne t s with rfl | hts
  · simp [updateChallenge, updateSession, challenges, comp_def]
  · simp [updateChallenge, updateSession, challenges, hts]

@[simp] theorem challenges_updatePosition (w : DuelWorld) (s : UInt16) (zone : ℕ) :
    (w.updatePosition s zone).challenges = w.challenges := by
  funext t
  unfold updatePosition
  cases hs : w.players s with
  | none => rfl
  | some p =>
    dsimp only
    have hkept : (w.updateSession s fun p =>
        { p with around := { p.around with zoneId := zone } }).challenges t = w.challenges t := by
      rcases eq_or_ne t s with rfl | hts
      · simp [updateSession, challenges, hs]
      · simp [updateSession, challenges, hts]
    by_cases hz : p.around.zoneId = zone
    · rw [if_pos hz]
      exact hkept
    · rw [if_neg hz]
      exact hkept

theorem challenges_sendToArena (r : DuelWorld × List UInt16) (members : List UInt16) :
    (members.foldl sendToArena r).1.challenges = r.1.challenges ∧
      (members.foldl sendToArena r).2 = r.2 ++ members := by
  induction members generalizing r with
  | nil => simp
  | cons s members ih =>
    obtain ⟨hc, hm⟩ := ih (sendToArena r s)
    constructor
    · rw [List.foldl_cons, hc]
      exact challenges_updatePosition r.1 s ZONE_ARENA
    · rw [List.foldl_cons, hm]
      simp [sendToArena]

/-- A change of the challenge fields changes nothing else. -/
@[simp] theorem around_updateChallenge (w : DuelWorld) (s t : UInt16)
    (f : ChallengeState → ChallengeState) :
    ((w.updateChallenge s f).players t).map DuelPlayer.around =
      (w.players t).map DuelPlayer.around := by
  rcases eq_or_ne t s with rfl | hts
  · simp [updateChallenge, updateSession, comp_def]
  · simp [updateChallenge, updateSession, hts]

@[simp] theorem getSessionClanId_updateChallenge (w : DuelWorld) (s t : UInt16)
    (f : ChallengeState → ChallengeState) :
    (w.updateChallenge s f).getSessionClanId t = w.getSessionClanId t := by
  have hmap : ∀ o : Option DuelPlayer, (o.map fun p => p.around.knightsId) =
      (o.map DuelPlayer.around).map Surroundings.knightsId := by
    intro o
    rw [Option.map_map]
    rfl
  unfold getSessionClanId
  rw [hmap, around_updateChallenge, ← hmap]

theorem getChallengeState_eq (h : w.challenges s = some c) : w.getChallengeState s = c := by
  rw [getChallengeState, h, Option.getD_some]

/-- A player with such a challenge state is online. -/
theorem exists_player (h : w.challenges s = some c) :
    ∃ p, w.players s = some p ∧ p.challenge = c := Option.map_eq_some_iff.mp h

theorem Pending.clear (h : w.Pending a b k) :
    ((w.clearRequested b).clearRequesting a).challenges = Ledger.rewrite w.challenges a b {} {} ∧
      ((w.clearRequesting a).clearRequested b).challenges =
        Ledger.rewrite w.challenges a b {} {} := by
  constructor
  · unfold clearRequesting clearRequested
    rw [challenges_updateChallenge, challenges_updateChallenge, update_of_ne h.ne, h.asks, h.asked,
      update_comm h.ne.symm]
    rfl
  · unfold clearRequesting clearRequested
    rw [challenges_updateChallenge, challenges_updateChallenge, update_of_ne h.ne.symm, h.asks,
      h.asked]
    rfl

theorem resetChallenge_free (h : w.Unchallenged sid) : w.resetChallenge sid = w := by
  have hidle : (w.getChallengeState sid).requestingChallenge = 0 ∧
      (w.getChallengeState sid).challengeRequested = 0 := by
    cases hc : w.challenges sid with
    | none => simp [getChallengeState, hc]
    | some c =>
      rw [getChallengeState_eq hc]
      exact h c hc
  unfold resetChallenge
  dsimp only
  rw [if_pos hidle]

/-- With a partner whose number is not negative both are freed. -/
theorem Pending.resetChallenge_asks (h : w.Pending a b k) (hb : 0 ≤ b.toInt16) :
    (w.resetChallenge a).challenges = Ledger.rewrite w.challenges a b {} {} := by
  have hpending : ¬ ((w.getChallengeState a).requestingChallenge = 0 ∧
      (w.getChallengeState a).challengeRequested = 0) := by
    rw [getChallengeState_eq h.asks]
    exact fun hidle => k.cancelCode_ne_zero hidle.1
  have huser : (w.getChallengeState a).challengeUser = b.toInt16 := by
    rw [getChallengeState_eq h.asks]
    rfl
  unfold resetChallenge
  dsimp only
  rw [if_neg hpending, huser, if_pos hb, UInt16.toUInt16_toInt16, challenges_updateChallenge,
    challenges_updateChallenge, update_of_ne h.ne, h.asks, h.asked, update_comm h.ne.symm]
  rfl

theorem Pending.resetChallenge_asked (h : w.Pending a b k) (ha : 0 ≤ a.toInt16) :
    (w.resetChallenge b).challenges = Ledger.rewrite w.challenges a b {} {} := by
  have hpending : ¬ ((w.getChallengeState b).requestingChallenge = 0 ∧
      (w.getChallengeState b).challengeRequested = 0) := by
    rw [getChallengeState_eq h.asked]
    exact fun hidle => k.rejectCode_ne_zero hidle.2
  have huser : (w.getChallengeState b).challengeUser = a.toInt16 := by
    rw [getChallengeState_eq h.asked]
    rfl
  unfold resetChallenge
  dsimp only
  rw [if_neg hpending, huser, if_pos ha, UInt16.toUInt16_toInt16, challenges_updateChallenge,
    challenges_updateChallenge, update_of_ne h.ne.symm, h.asks, h.asked]
  rfl

theorem resetChallenge_negative (hc : w.challenges sid = some c) (hpending : c.partner ≠ none)
    (hneg : ¬ 0 ≤ c.challengeUser) :
    (w.resetChallenge sid).challenges = update w.challenges sid (some {}) := by
  have hbusy : ¬ (c.requestingChallenge = 0 ∧ c.challengeRequested = 0) := by
    intro hidle
    exact hpending (partner_eq_none.mpr hidle)
  unfold resetChallenge
  dsimp only
  rw [getChallengeState_eq hc, if_neg hbusy, if_neg hneg, challenges_updateChallenge, hc]
  rfl

theorem triggerZoneChange_challenges (hs : w.players sid = some p) (dest : ℕ) (arrives : Bool) :
    (w.triggerZoneChange sid dest arrives).1.challenges =
      if arrives ∧ p.around.zoneId ≠ dest then (w.resetChallenge sid).challenges
      else w.challenges := by
  unfold triggerZoneChange
  rw [hs]
  cases arrives
  · simp
  · by_cases hz : p.around.zoneId = dest
    · simp [hz]
    · simp [hz]

theorem Requests.challenges_ask (h : w.Requests a b k name p q) (hw : Sound w) (hab : a ≠ b) :
    w.challenges a = some {} ∧ w.challenges b = some {} ∧
      (w.ask a b k).challenges =
        Ledger.rewrite w.challenges a b (requester k b) (challenged k a) := by
  have ha : w.challenges a = some {} := by
    have hp : w.challenges a = some p.challenge := by simp [challenges, h.sender]
    rw [hp, hw.free a _ hp (partner_eq_none.mpr h.idle)]
  have hb : w.challenges b = some {} := by
    have hq : w.challenges b = some q.challenge := by simp [challenges, h.target]
    rw [hq, hw.free b _ hq (partner_eq_none.mpr h.targetIdle)]
  refine ⟨ha, hb, ?_⟩
  unfold ask
  rw [challenges_updateChallenge, challenges_updateChallenge, update_of_ne hab.symm, ha, hb]
  rfl

/-- Whoever challenges himself is left with a challenge of each sort. -/
theorem Requests.challenges_self (h : w.Requests a a k name p q) :
    (w.ask a a k).challenges a =
      some { requestingChallenge := k.cancelCode, challengeRequested := k.rejectCode
             challengeUser := a.toInt16 } := by
  have ha : w.challenges a = some p.challenge := by simp [challenges, h.sender]
  unfold ask
  rw [challenges_updateChallenge, challenges_updateChallenge, update_self, update_self, ha]
  rfl

theorem handleRequest_of_requests (h : w.Requests sid b k name p q) :
    (w.handleRequest sid k name).world = w.ask sid b k := by
  obtain ⟨n, rfl, hn⟩ := h.found
  have hself : ¬ (p.challenge.requestingChallenge ≠ 0 || p.challenge.challengeRequested ≠ 0 ||
      p.around.zoneId = ZONE_ARENA || p.around.busy) = true := by
    simp [h.idle, h.zone.1, h.busy]
  have hleader : ¬ (k = .cvc && !w.isSessionClanLeader sid) = true := by
    simp only [Bool.and_eq_true, decide_eq_true_eq, Bool.not_eq_true', not_and]
    intro hk
    simp [(h.leader hk).1]
  have hzone : ¬ w.noChallengeZone p.around.zoneId = true := by simp [h.zone.2]
  have htarget : ¬ (q.around.resHpType = USER_DEAD || q.challenge.requestingChallenge ≠ 0 ||
      q.challenge.challengeRequested ≠ 0 || q.around.zoneId ≠ p.around.zoneId ||
      q.around.busy) = true := by
    simp [h.targetAlive, h.targetIdle, h.targetZone, h.targetBusy]
  have htargetLeader : ¬ (k = .cvc && !w.isSessionClanLeader b) = true := by
    simp only [Bool.and_eq_true, decide_eq_true_eq, Bool.not_eq_true', not_and]
    intro hk
    simp [(h.leader hk).2]
  unfold handleRequest
  rw [h.sender]
  dsimp only
  rw [if_neg hself, if_neg hleader, if_neg hzone, hn]
  dsimp only
  rw [h.target]
  dsimp only
  rw [if_neg htarget, if_neg htargetLeader]

/-- A request is refused, and nothing changes, or all the checks have passed. -/
theorem handleRequest_cases (w : DuelWorld) (sid : UInt16) (k : ChallengeKind)
    (name : Option String) :
    (w.handleRequest sid k name).moved = [] ∧
      ((w.handleRequest sid k name).world = w ∨
        ∃ b p q, w.Requests sid b k name p q ∧
          (w.handleRequest sid k name).world = w.ask sid b k) := by
  unfold handleRequest
  cases hp : w.players sid with
  | none => exact ⟨rfl, Or.inl rfl⟩
  | some p =>
    dsimp only
    by_cases hself : (p.challenge.requestingChallenge ≠ 0 || p.challenge.challengeRequested ≠ 0 ||
        p.around.zoneId = ZONE_ARENA || p.around.busy) = true
    · rw [if_pos hself]
      exact ⟨rfl, Or.inl rfl⟩
    rw [if_neg hself]
    by_cases hleader : (k = .cvc && !w.isSessionClanLeader sid) = true
    · rw [if_pos hleader]
      exact ⟨rfl, Or.inl rfl⟩
    rw [if_neg hleader]
    by_cases hzone : w.noChallengeZone p.around.zoneId = true
    · rw [if_pos hzone]
      exact ⟨rfl, Or.inl rfl⟩
    rw [if_neg hzone]
    cases name with
    | none => exact ⟨rfl, Or.inl rfl⟩
    | some n =>
      dsimp only
      cases hn : w.findSessionByName n with
      | none => exact ⟨rfl, Or.inl rfl⟩
      | some b =>
        dsimp only
        cases hq : w.players b with
        | none => exact ⟨rfl, Or.inl rfl⟩
        | some q =>
          dsimp only
          by_cases htarget : (q.around.resHpType = USER_DEAD ||
              q.challenge.requestingChallenge ≠ 0 || q.challenge.challengeRequested ≠ 0 ||
              q.around.zoneId ≠ p.around.zoneId || q.around.busy) = true
          · rw [if_pos htarget]
            exact ⟨rfl, Or.inl rfl⟩
          rw [if_neg htarget]
          by_cases hleader' : (k = .cvc && !w.isSessionClanLeader b) = true
          · rw [if_pos hleader']
            exact ⟨rfl, Or.inl rfl⟩
          rw [if_neg hleader']
          refine ⟨rfl, Or.inr ⟨b, p, q, ?_, rfl⟩⟩
          simp only [Bool.or_eq_true, Bool.and_eq_true, decide_eq_true_eq, not_or, not_and,
            Bool.not_eq_true', Bool.not_eq_true, Bool.not_eq_false, ne_eq, not_not] at *
          obtain ⟨⟨⟨hp₁, hp₂⟩, hp₃⟩, hp₄⟩ := hself
          obtain ⟨⟨⟨⟨hq₁, hq₂⟩, hq₃⟩, hq₄⟩, hq₅⟩ := htarget
          exact
            { sender := hp
              idle := ⟨hp₁, hp₂⟩
              zone := ⟨hp₃, hzone⟩
              busy := hp₄
              leader := fun hk => ⟨hleader hk, hleader' hk⟩
              found := ⟨n, rfl, hn⟩
              target := hq
              targetIdle := ⟨hq₂, hq₃⟩
              targetAlive := hq₁
              targetZone := hq₄
              targetBusy := hq₅ }

/-- What a challenge with its end in sight comes to. -/
theorem Pending.handleCancelled (h : w.Pending a b k) (opcode : ℕ) :
    (w.handleCancelled a opcode).moved = [] ∧
      (w.handleCancelled a opcode).world.challenges = Ledger.rewrite w.challenges a b {} {} := by
  unfold DuelWorld.handleCancelled
  dsimp only
  rw [getChallengeState_eq h.asks]
  have hpending : ¬ (requester k b).requestingChallenge = 0 := k.cancelCode_ne_zero
  have huser : (requester k b).challengeUser.toUInt16 = b := UInt16.toUInt16_toInt16 b
  rw [if_neg hpending, huser, getChallengeState_eq h.asked]
  have hback : (challenged k a).challengeUser = a.toInt16 := rfl
  rw [if_pos hback]
  exact ⟨rfl, h.clear.1⟩

theorem Pending.handleRejected (h : w.Pending a b k) (opcode : ℕ) :
    (w.handleRejected b opcode).moved = [] ∧
      (w.handleRejected b opcode).world.challenges = Ledger.rewrite w.challenges a b {} {} := by
  unfold DuelWorld.handleRejected
  dsimp only
  rw [getChallengeState_eq h.asked]
  have hpending : ¬ (challenged k a).challengeRequested = 0 := k.rejectCode_ne_zero
  have huser : (challenged k a).challengeUser.toUInt16 = a := UInt16.toUInt16_toInt16 a
  rw [if_neg hpending, huser, getChallengeState_eq h.asks]
  have hback : (requester k b).challengeUser = b.toInt16 := rfl
  rw [if_pos hback]
  exact ⟨rfl, h.clear.2⟩

/-- Both are free before anybody leaves for the arena, and the requester always does. -/
theorem Pending.handlePvpAccept (h : w.Pending a b k) (arrives : Bool) :
    (w.handlePvpAccept b arrives).moved = (if arrives then [b] else []) ++ [a] ∧
      (w.handlePvpAccept b arrives).world.challenges =
        Ledger.rewrite w.challenges a b {} {} := by
  have huser : (challenged k a).challengeUser.toUInt16 = a := UInt16.toUInt16_toInt16 a
  have hasks : (w.clearRequested b).challenges a = some (requester k b) := by
    unfold clearRequested
    rw [challenges_updateChallenge, update_of_ne h.ne, h.asks]
  obtain ⟨p, hp, -⟩ := exists_player hasks
  have hpending : ¬ (challenged k a).challengeRequested = 0 := k.rejectCode_ne_zero
  have hcleared : ((w.clearRequested b).clearRequesting a).challenges b = some {} := by
    rw [h.clear.1]
    exact rewrite_right
  obtain ⟨q, hq, hqc⟩ := exists_player hcleared
  have hfree : ((w.clearRequested b).clearRequesting a).Unchallenged b := by
    intro c hc
    obtain rfl := Option.some.inj (hcleared.symm.trans hc)
    exact ⟨rfl, rfl⟩
  unfold DuelWorld.handlePvpAccept
  dsimp only
  rw [getChallengeState_eq h.asked, if_neg hpending, huser, hp]
  dsimp only [sendToArena]
  rw [challenges_updatePosition, triggerZoneChange_challenges hq, resetChallenge_free hfree,
    ite_self, h.clear.1]
  refine ⟨?_, rfl⟩
  unfold triggerZoneChange
  rw [hq]
  cases arrives
  · rfl
  · by_cases hz : q.around.zoneId = ZONE_ARENA
    · simp [hz]
    · simp [hz]

/-- An accepted clan challenge ends if both players are in clans, and takes along whoever is
eligible. -/
theorem Pending.handleCvcAccept (h : w.Pending a b k) (hb : w.getSessionClanId b ≠ 0)
    (ha : w.getSessionClanId a ≠ 0) :
    ((w.handleCvcAccept b).moved = [] ↔ w.NobodyEligible b a) ∧
      (w.handleCvcAccept b).world.challenges = Ledger.rewrite w.challenges a b {} {} := by
  have huser : (challenged k a).challengeUser.toUInt16 = a := UInt16.toUInt16_toInt16 a
  have hpending : ¬ (challenged k a).challengeRequested = 0 := k.rejectCode_ne_zero
  have ha' : ¬ (w.clearRequested b).getSessionClanId a = 0 := by
    rw [clearRequested, getSessionClanId_updateChallenge]
    exact ha
  have hclan : (w.clearRequested b).getSessionClanId a = w.getSessionClanId a :=
    getSessionClanId_updateChallenge w b a _
  have hzone : ((((w.clearRequested b).clearRequesting a).players b).map fun p =>
      p.around.zoneId) = (w.players b).map fun p => p.around.zoneId := by
    have haround : (((w.clearRequested b).clearRequesting a).players b).map DuelPlayer.around =
        (w.players b).map DuelPlayer.around := by simp [clearRequested, clearRequesting]
    have hmap := congrArg (Option.map Surroundings.zoneId) haround
    rw [Option.map_map, Option.map_map] at hmap
    exact hmap
  unfold DuelWorld.handleCvcAccept
  dsimp only
  rw [getChallengeState_eq h.asked, if_neg hpending, if_neg hb, huser, if_neg ha', hclan, hzone]
  dsimp only
  constructor
  · rw [(challenges_sendToArena _ _).2, (challenges_sendToArena _ _).2]
    unfold NobodyEligible
    dsimp only
    constructor
    · intro hmoved
      obtain ⟨h₁, h₂⟩ := List.append_eq_nil_iff.mp hmoved
      rw [List.nil_append] at h₁
      rw [h₁] at h₂
      exact ⟨h₁, h₂⟩
    · rintro ⟨h₁, h₂⟩
      rw [h₁, List.nil_append]
      exact h₂
  · rw [(challenges_sendToArena _ _).1, (challenges_sendToArena _ _).1, h.clear.1]

theorem handleChallenge_dead (h : w.mayChallenge sid = false) (opcode : ℕ) (name : Option String)
    (arrives : Bool) : w.handleChallenge sid opcode name arrives = ⟨w, [], []⟩ := by
  simp [handleChallenge, h]

theorem handleChallenge_request (h : w.mayChallenge sid) (k : ChallengeKind)
    (name : Option String) (arrives : Bool) :
    w.handleChallenge sid k.requestCode name arrives = w.handleRequest sid k name := by
  unfold handleChallenge
  rw [h]
  cases k <;> rfl

theorem handleChallenge_cancel (h : w.mayChallenge sid) (k : ChallengeKind)
    (name : Option String) (arrives : Bool) :
    w.handleChallenge sid k.cancelCode name arrives = w.handleCancelled sid k.cancelCode := by
  unfold handleChallenge
  rw [h]
  cases k <;> rfl

theorem handleChallenge_reject (h : w.mayChallenge sid) (k : ChallengeKind)
    (name : Option String) (arrives : Bool) :
    w.handleChallenge sid k.rejectCode name arrives = w.handleRejected sid k.rejectCode := by
  unfold handleChallenge
  rw [h]
  cases k <;> rfl

theorem handleChallenge_pvpAccept (h : w.mayChallenge sid) (name : Option String)
    (arrives : Bool) :
    w.handleChallenge sid CHALLENGE_PVP_ACCEPT name arrives = w.handlePvpAccept sid arrives := by
  unfold handleChallenge
  rw [h]
  rfl

theorem handleChallenge_cvcAccept (h : w.mayChallenge sid) (name : Option String)
    (arrives : Bool) :
    w.handleChallenge sid CHALLENGE_CVC_ACCEPT name arrives = w.handleCvcAccept sid := by
  unfold handleChallenge
  rw [h]
  rfl

theorem opcode_cases (opcode : ℕ) :
    (∃ k : ChallengeKind, opcode = k.requestCode ∨ opcode = k.acceptCode ∨
      opcode = k.cancelCode ∨ opcode = k.rejectCode) ∨
    ∀ k : ChallengeKind, opcode ≠ k.requestCode ∧ opcode ≠ k.acceptCode ∧
      opcode ≠ k.cancelCode ∧ opcode ≠ k.rejectCode := by
  by_cases h : ∃ k : ChallengeKind, opcode = k.requestCode ∨ opcode = k.acceptCode ∨
      opcode = k.cancelCode ∨ opcode = k.rejectCode
  · exact Or.inl h
  · refine Or.inr fun k => ?_
    simp only [not_exists, not_or] at h
    exact h k

theorem handleChallenge_other {opcode : ℕ}
    (h : ∀ k : ChallengeKind, opcode ≠ k.requestCode ∧ opcode ≠ k.acceptCode ∧
      opcode ≠ k.cancelCode ∧ opcode ≠ k.rejectCode) (name : Option String) (arrives : Bool) :
    w.handleChallenge sid opcode name arrives = ⟨w, [], []⟩ := by
  obtain ⟨h₁, h₂, h₃, h₄⟩ : opcode ≠ CHALLENGE_PVP_REQUEST ∧ opcode ≠ CHALLENGE_PVP_ACCEPT ∧
      opcode ≠ CHALLENGE_PVP_CANCEL ∧ opcode ≠ CHALLENGE_PVP_REJECT := h .pvp
  obtain ⟨h₅, h₆, h₇, h₈⟩ : opcode ≠ CHALLENGE_CVC_REQUEST ∧ opcode ≠ CHALLENGE_CVC_ACCEPT ∧
      opcode ≠ CHALLENGE_CVC_CANCEL ∧ opcode ≠ CHALLENGE_CVC_REJECT := h .cvc
  unfold handleChallenge
  rw [if_neg h₁, if_neg h₂, if_neg h₅, if_neg h₆, if_neg (not_or.mpr ⟨h₃, h₇⟩),
    if_neg (not_or.mpr ⟨h₄, h₈⟩), ite_self]

/-- Who may send a challenge packet is free, asks or is asked. -/
theorem Sound.player_cases (hw : Sound w) (s : UInt16) :
    w.Unchallenged s ∨ (∃ b k, w.Pending s b k) ∨ ∃ a k, w.Pending a s k := by
  cases hc : w.challenges s with
  | none =>
    refine Or.inl fun c hs => ?_
    rw [hc] at hs
    cases hs
  | some c =>
    by_cases hfree : c.partner = none
    · refine Or.inl fun c' hs => ?_
      rw [hc] at hs
      obtain rfl := Option.some.inj hs
      exact partner_eq_none.mp hfree
    · exact Or.inr (hw.pending hc hfree)

theorem Unchallenged.getChallengeState (h : w.Unchallenged s) :
    (w.getChallengeState s).requestingChallenge = 0 ∧
      (w.getChallengeState s).challengeRequested = 0 := by
  cases hc : w.challenges s with
  | none => simp [DuelWorld.getChallengeState, hc]
  | some c =>
    rw [getChallengeState_eq hc]
    exact h c hc

/-- Nobody is warped, and no challenge was to end. -/
theorem Sound.orderly_of_kept (hw : Sound w) {e : DuelEvent}
    (hstep : (w.step e).challenges = w.challenges) (hmoved : (w.handle e).moved = [])
    (hends : ∀ a b k, w.Pending a b k → ¬ w.Ends a b e) : w.Orderly e := by
  constructor
  · exact (hw.congr hstep).proper
  · intro sid k name arrives _ hne
    exact absurd hmoved hne
  · intro sid a name arrives he hmay hin
    refine absurd ?_ (hends a sid .pvp (hw.incoming_iff.mp hin))
    rw [he]
    exact ⟨hmay, Or.inl ⟨rfl, .pvp, Or.inl rfl⟩⟩
  · intro a b k hout hend
    exact absurd hend (hends a b k (hw.outgoing_iff.mp hout))

theorem Pending.ends_only (h : w.Pending a b k) (hsid : sid = a ∨ sid = b) {a' b' : UInt16}
    {k' : ChallengeKind} (h' : w.Pending a' b' k') {opcode : ℕ} {arrives : Bool}
    (hend : w.Ends a' b' (.packet sid opcode name arrives)) : a' = a ∧ b' = b := by
  rcases hsid with rfl | rfl
  · rcases hend.2 with ⟨rfl, -⟩ | ⟨rfl, -⟩
    · exact absurd h' h.not_asked
    · exact ⟨rfl, (h.unique_asks h').1⟩
  · rcases hend.2 with ⟨rfl, -⟩ | ⟨rfl, -⟩
    · exact ⟨(h.unique_asked h').1, rfl⟩
    · exact absurd h h'.not_asked

theorem unchallenged_rewrite {w' : DuelWorld} (hab : a ≠ b)
    (h : w'.challenges = Ledger.rewrite w.challenges a b {} {}) :
    w'.Unchallenged a ∧ w'.Unchallenged b := by
  constructor
  · intro c hc
    rw [h, rewrite_left hab] at hc
    obtain rfl := Option.some.inj hc
    exact ⟨rfl, rfl⟩
  · intro c hc
    rw [h, rewrite_right] at hc
    obtain rfl := Option.some.inj hc
    exact ⟨rfl, rfl⟩

theorem Pending.orderly (hw : Sound w) (h : w.Pending a b k) (hsid : sid = a ∨ sid = b)
    {opcode : ℕ} {arrives : Bool}
    (hstep : (w.step (.packet sid opcode name arrives)).challenges =
      Ledger.rewrite w.challenges a b {} {})
    (hmoved : ∀ l : ChallengeKind, opcode = l.acceptCode →
      (w.handle (.packet sid opcode name arrives)).moved ≠ [] → sid = b ∧ l = k)
    (hduel : opcode = CHALLENGE_PVP_ACCEPT → sid = b → k = .pvp →
      (w.handle (.packet sid opcode name arrives)).moved = [b, a]) :
    w.Orderly (.packet sid opcode name arrives) := by
  constructor
  · exact (hw.settle h hstep).proper
  · rintro _ l _ _ ⟨⟩ hne
    obtain ⟨rfl, rfl⟩ := hmoved l rfl hne
    exact ⟨a, hw.incoming_iff.mpr h⟩
  · rintro _ a' _ _ ⟨⟩ - hin
    have hp := hw.incoming_iff.mp hin
    rcases hsid with rfl | rfl
    · exact absurd hp h.not_asked
    · obtain ⟨rfl, rfl⟩ := h.unique_asked hp
      exact hduel rfl rfl rfl
  · intro a' b' k' hout hend
    obtain ⟨rfl, rfl⟩ := h.ends_only hsid (hw.outgoing_iff.mp hout) hend
    exact unchallenged_rewrite h.ne hstep

/-- A packet that did nothing, from a player whose challenge it could not end. -/
theorem Sound.orderly_of_nothing (hw : Sound w) {opcode : ℕ} {arrives : Bool}
    (hr : w.handleChallenge sid opcode name arrives = ⟨w, [], []⟩)
    (hends : ∀ a b k, w.Pending a b k → ¬ w.Ends a b (.packet sid opcode name arrives)) :
    Sound (w.step (.packet sid opcode name arrives)) ∧
      w.Orderly (.packet sid opcode name arrives) := by
  have hstep : w.step (.packet sid opcode name arrives) = w :=
    congrArg ChallengeReply.world hr
  refine ⟨?_, hw.orderly_of_kept ?_ (congrArg ChallengeReply.moved hr) hends⟩
  · rw [hstep]
    exact hw
  · rw [hstep]

theorem Sound.request (hw : Sound w) (hmay : w.mayChallenge sid) (k : ChallengeKind)
    {arrives : Bool} (hself : ∀ p q, ¬ w.Requests sid sid k name p q) :
    Sound (w.step (.packet sid k.requestCode name arrives)) ∧
      w.Orderly (.packet sid k.requestCode name arrives) := by
  have hr := handleChallenge_request hmay k name arrives
  have hworld := congrArg ChallengeReply.world hr
  obtain ⟨hmoved, hcases⟩ := handleRequest_cases w sid k name
  have hends : ∀ a b l, w.Pending a b l →
      ¬ w.Ends a b (.packet sid k.requestCode name arrives) := by
    rintro a b l - ⟨-, ⟨-, l', hl⟩ | ⟨-, l', hl⟩⟩
    · revert hl
      cases k <;> cases l' <;> decide
    · revert hl
      cases k <;> cases l' <;> decide
  have hproper : Sound (w.step (.packet sid k.requestCode name arrives)) := by
    rcases hcases with hsame | ⟨b, p, q, hreq, hask⟩
    · exact hw.congr (congrArg challenges (hworld.trans hsame))
    · have hab : sid ≠ b := by
        rintro rfl
        exact hself p q hreq
      obtain ⟨ha, hb, hpair⟩ := hreq.challenges_ask hw hab
      exact hw.asks hab ha hb ((congrArg challenges (hworld.trans hask)).trans hpair)
  refine ⟨hproper, hproper.proper, ?_, ?_, ?_⟩
  · intro _ _ _ _ _ hne
    exact absurd ((congrArg ChallengeReply.moved hr).trans hmoved) hne
  · intro _ a _ _ he hmay' hin
    refine absurd ?_ (hends a _ .pvp (hw.incoming_iff.mp hin))
    rw [he]
    exact ⟨hmay', Or.inl ⟨rfl, .pvp, Or.inl rfl⟩⟩
  · intro a b l hout hend
    exact absurd hend (hends a b l (hw.outgoing_iff.mp hout))

theorem Sound.cancel (hw : Sound w) (hmay : w.mayChallenge sid) (k : ChallengeKind)
    {arrives : Bool} :
    Sound (w.step (.packet sid k.cancelCode name arrives)) ∧
      w.Orderly (.packet sid k.cancelCode name arrives) := by
  have hr := handleChallenge_cancel hmay k name arrives
  have hnot : ∀ l : ChallengeKind, k.cancelCode ≠ l.acceptCode ∧ k.cancelCode ≠ l.rejectCode := by
    intro l
    cases k <;> cases l <;> decide
  have hends : ∀ a b l, w.Pending a b l →
      w.Ends a b (.packet sid k.cancelCode name arrives) → sid = a := by
    rintro a b l - ⟨-, ⟨-, l', hl | hl⟩ | ⟨hsid, -⟩⟩
    · exact absurd hl (hnot l').1
    · exact absurd hl (hnot l').2
    · exact hsid
  have hidle : (w.getChallengeState sid).requestingChallenge = 0 →
      w.handleCancelled sid k.cancelCode = ⟨w, [], []⟩ := by
    intro h
    simp [handleCancelled, h]
  rcases hw.player_cases sid with hfree | ⟨b, l, hp⟩ | ⟨a, l, hp⟩
  · refine hw.orderly_of_nothing (hr.trans (hidle hfree.getChallengeState.1)) ?_
    intro a b l hp hend
    obtain rfl := hends a b l hp hend
    exact l.cancelCode_ne_zero (hfree _ hp.asks).1
  · obtain ⟨hmoved, hclear⟩ := hp.handleCancelled k.cancelCode
    have hstep : (w.step (.packet sid k.cancelCode name arrives)).challenges =
        Ledger.rewrite w.challenges sid b {} {} :=
      (congrArg (fun r => r.world.challenges) hr).trans hclear
    refine ⟨hw.settle hp hstep, hp.orderly hw (Or.inl rfl) hstep ?_ ?_⟩
    · intro l' hl'
      exact absurd hl' (hnot l').1
    · intro hcode
      exact absurd hcode (hnot .pvp).1
  · have hnone : (w.getChallengeState sid).requestingChallenge = 0 := by
      rw [getChallengeState_eq hp.asked]
      rfl
    refine hw.orderly_of_nothing (hr.trans (hidle hnone)) ?_
    intro a' b' l' hp' hend
    obtain rfl := hends a' b' l' hp' hend
    exact hp'.not_asked hp

/-- What a refusal and an acceptance can end is a challenge of the one who sends them. -/
theorem Sound.answer (hw : Sound w) (k : ChallengeKind) {opcode : ℕ} {arrives : Bool}
    (hcode : opcode = k.acceptCode ∨ opcode = k.rejectCode)
    (hnothing : (w.getChallengeState sid).challengeRequested = 0 →
      w.handleChallenge sid opcode name arrives = ⟨w, [], []⟩)
    (hasked : ∀ a l, w.Pending a sid l →
      (w.step (.packet sid opcode name arrives)).challenges =
        Ledger.rewrite w.challenges a sid {} {} ∧
      (∀ l' : ChallengeKind, opcode = l'.acceptCode →
        (w.handle (.packet sid opcode name arrives)).moved ≠ [] → l' = l) ∧
      (opcode = CHALLENGE_PVP_ACCEPT → l = .pvp →
        (w.handle (.packet sid opcode name arrives)).moved = [sid, a])) :
    Sound (w.step (.packet sid opcode name arrives)) ∧
      w.Orderly (.packet sid opcode name arrives) := by
  have hends : ∀ a b l, w.Pending a b l →
      w.Ends a b (.packet sid opcode name arrives) → sid = b := by
    rintro a b l - ⟨-, ⟨hsid, -⟩ | ⟨-, l', hl⟩⟩
    · exact hsid
    · refine absurd hl ?_
      rcases hcode with rfl | rfl
      · cases k <;> cases l' <;> decide
      · cases k <;> cases l' <;> decide
  rcases hw.player_cases sid with hfree | ⟨b, l, hp⟩ | ⟨a, l, hp⟩
  · refine hw.orderly_of_nothing (hnothing hfree.getChallengeState.2) ?_
    intro a b l hp hend
    obtain rfl := hends a b l hp hend
    exact l.rejectCode_ne_zero (hfree _ hp.asked).2
  · have hnone : (w.getChallengeState sid).challengeRequested = 0 := by
      rw [getChallengeState_eq hp.asks]
      rfl
    refine hw.orderly_of_nothing (hnothing hnone) ?_
    intro a' b' l' hp' hend
    obtain rfl := hends a' b' l' hp' hend
    exact hp.not_asked hp'
  · obtain ⟨hstep, hkind, hduel⟩ := hasked a l hp
    refine ⟨hw.settle hp hstep, hp.orderly hw (Or.inr rfl) hstep ?_ ?_⟩
    · intro l' hl' hne
      exact ⟨rfl, hkind l' hl' hne⟩
    · intro hc _ hl
      exact hduel hc hl

theorem Sound.reject (hw : Sound w) (hmay : w.mayChallenge sid) (k : ChallengeKind)
    {arrives : Bool} :
    Sound (w.step (.packet sid k.rejectCode name arrives)) ∧
      w.Orderly (.packet sid k.rejectCode name arrives) := by
  have hr := handleChallenge_reject hmay k name arrives
  have hnot : ∀ l : ChallengeKind, k.rejectCode ≠ l.acceptCode := by
    intro l
    cases k <;> cases l <;> decide
  refine hw.answer k (Or.inr rfl) ?_ ?_
  · intro h
    rw [hr]
    simp [handleRejected, h]
  · intro a l hp
    obtain ⟨hmoved, hclear⟩ := hp.handleRejected k.rejectCode
    refine ⟨(congrArg (fun r => r.world.challenges) hr).trans hclear, ?_, ?_⟩
    · intro l' hl'
      exact absurd hl' (hnot l')
    · intro hcode
      exact absurd hcode (hnot .pvp)

theorem Sound.pvpAccept (hw : Sound w) (hmay : w.mayChallenge sid) {arrives : Bool}
    (hok : ∀ a l, w.Pending a sid l → l = .pvp ∧ arrives) :
    Sound (w.step (.packet sid CHALLENGE_PVP_ACCEPT name arrives)) ∧
      w.Orderly (.packet sid CHALLENGE_PVP_ACCEPT name arrives) := by
  have hr := handleChallenge_pvpAccept hmay name arrives
  refine hw.answer .pvp (Or.inl rfl) ?_ ?_
  · intro h
    rw [hr]
    simp [handlePvpAccept, h]
  · intro a l hp
    obtain ⟨rfl, harr⟩ := hok a l hp
    obtain ⟨hmoved, hclear⟩ := hp.handlePvpAccept arrives
    rw [if_pos harr] at hmoved
    refine ⟨(congrArg (fun r => r.world.challenges) hr).trans hclear, ?_, ?_⟩
    · intro l' hl' _
      cases l'
      · rfl
      · cases hl'
    · intro _ _
      exact (congrArg ChallengeReply.moved hr).trans hmoved

theorem Sound.cvcAccept (hw : Sound w) (hmay : w.mayChallenge sid) {arrives : Bool}
    (hok : ∀ a l, w.Pending a sid l → w.getSessionClanId sid ≠ 0 ∧ w.getSessionClanId a ≠ 0 ∧
      (l = .cvc ∨ w.NobodyEligible sid a)) :
    Sound (w.step (.packet sid CHALLENGE_CVC_ACCEPT name arrives)) ∧
      w.Orderly (.packet sid CHALLENGE_CVC_ACCEPT name arrives) := by
  have hr := handleChallenge_cvcAccept hmay name arrives
  refine hw.answer .cvc (Or.inl rfl) ?_ ?_
  · intro h
    rw [hr]
    simp [handleCvcAccept, h]
  · intro a l hp
    obtain ⟨hclan, hclan', hkind⟩ := hok a l hp
    obtain ⟨hmoved, hclear⟩ := hp.handleCvcAccept hclan hclan'
    refine ⟨(congrArg (fun r => r.world.challenges) hr).trans hclear, ?_, ?_⟩
    · intro l' hl' hne
      cases l'
      · cases hl'
      rcases hkind with rfl | hnobody
      · rfl
      · exact absurd ((congrArg ChallengeReply.moved hr).trans (hmoved.mpr hnobody)) hne
    · intro hcode
      cases hcode

/-- A partner of a player with a pending challenge who leaves is freed, unless its number is
negative. -/
theorem Sound.resetChallenge (hw : Sound w) (hp : w.players sid = some p)
    (hok : w.Unchallenged sid ∨ 0 ≤ p.challenge.challengeUser) :
    Sound (w.resetChallenge sid) := by
  have hc : w.challenges sid = some p.challenge := by simp [challenges, hp]
  rcases hw.player_cases sid with hfree | ⟨b, k, hpend⟩ | ⟨a, k, hpend⟩
  · rw [resetChallenge_free hfree]
    exact hw
  · have hreq := Option.some.inj (hc.symm.trans hpend.asks)
    rcases hok with hfree | hpos
    · exact absurd (hfree _ hpend.asks).1 k.cancelCode_ne_zero
    · rw [hreq] at hpos
      exact hw.settle hpend (hpend.resetChallenge_asks hpos)
  · have hreq := Option.some.inj (hc.symm.trans hpend.asked)
    rcases hok with hfree | hpos
    · exact absurd (hfree _ hpend.asked).2 k.rejectCode_ne_zero
    · rw [hreq] at hpos
      exact hw.settle hpend (hpend.resetChallenge_asked hpos)

theorem Sound.zoneChange (hw : Sound w) {dest : ℕ} (hok : w.Condition (.zoneChange sid dest)) :
    Sound (w.step (.zoneChange sid dest)) := by
  cases hp : w.players sid with
  | none =>
    have hnone : w.step (.zoneChange sid dest) = w := by
      simp [step, handle, triggerZoneChange, hp]
    rw [hnone]
    exact hw
  | some p =>
    have hstep : (w.step (.zoneChange sid dest)).challenges = _ :=
      triggerZoneChange_challenges hp dest true
    by_cases hz : p.around.zoneId = dest
    · rw [if_neg (by simp [hz])] at hstep
      exact hw.congr hstep
    · rw [if_pos ⟨rfl, hz⟩] at hstep
      exact (hw.resetChallenge hp (hok p hp hz)).congr hstep

theorem challenges_around (w : DuelWorld) (others : UInt16 → Surroundings)
    (index : ℕ → List UInt16) : (w.step (.around others index)).challenges = w.challenges := by
  funext s
  simp [step, handle, challenges, comp_def]

theorem Sound.orderly_quiet {e : DuelEvent} (hw : Sound (w.step e))
    (he : ∀ sid opcode name arrives, e ≠ .packet sid opcode name arrives) : w.Orderly e := by
  refine ⟨hw.proper, ?_, ?_, ?_⟩
  · intro sid k name arrives h _
    exact absurd h (he _ _ _ _)
  · intro sid a name arrives h _ _
    exact absurd h (he _ _ _ _)
  · intro a b k _ hend
    cases e with
    | packet sid opcode name arrives => exact absurd rfl (he sid opcode name arrives)
    | zoneChange sid dest => exact absurd hend not_false
    | around others index => exact absurd hend not_false

theorem Sound.step_of_condition (hw : Sound w) {e : DuelEvent} (hok : w.Condition e) :
    Sound (w.step e) ∧ w.Orderly e := by
  cases e with
  | packet sid opcode name arrives =>
    by_cases hmay : w.mayChallenge sid = true
    · obtain ⟨hself, haccept⟩ := hok hmay
      rcases opcode_cases opcode with ⟨k, rfl | rfl | rfl | rfl⟩ | hother
      · exact hw.request hmay k (hself k rfl)
      · cases k with
        | pvp =>
          exact hw.pvpAccept hmay fun a l hp => (haccept a l (hw.incoming_iff.mpr hp)).1 rfl
        | cvc =>
          exact hw.cvcAccept hmay fun a l hp => (haccept a l (hw.incoming_iff.mpr hp)).2 rfl
      · exact hw.cancel hmay k
      · exact hw.reject hmay k
      · refine hw.orderly_of_nothing (handleChallenge_other hother name arrives) ?_
        rintro a b k - ⟨-, ⟨-, l, hl | hl⟩ | ⟨-, l, hl⟩⟩
        · exact (hother l).2.1 hl
        · exact (hother l).2.2.2 hl
        · exact (hother l).2.2.1 hl
    · have hdead := handleChallenge_dead (Bool.eq_false_of_not_eq_true hmay) opcode name arrives
      refine hw.orderly_of_nothing hdead ?_
      intro a b k _ hend
      exact hmay hend.1
  | zoneChange sid dest =>
    have hstep := hw.zoneChange hok
    exact ⟨hstep, hstep.orderly_quiet (fun _ _ _ _ h => by cases h)⟩
  | around others index =>
    have hstep := hw.congr (challenges_around w others index)
    exact ⟨hstep, hstep.orderly_quiet (fun _ _ _ _ h => by cases h)⟩

theorem Requests.not_orderly (h : w.Requests sid sid k name p q) (hmay : w.mayChallenge sid)
    {arrives : Bool} : ¬ w.Orderly (.packet sid k.requestCode name arrives) := by
  intro hgood
  have hstep : w.step (.packet sid k.requestCode name arrives) = w.ask sid sid k :=
    (congrArg ChallengeReply.world (handleChallenge_request hmay k name arrives)).trans
      (handleRequest_of_requests h)
  have hboth := hgood.proper.single sid _ (hstep ▸ h.challenges_self)
  rcases hboth with hzero | hzero
  · exact k.cancelCode_ne_zero hzero
  · exact k.rejectCode_ne_zero hzero

/-- A duel that is accepted takes the requester to the arena whatever was asked for. -/
theorem Pending.pvpAccept_orderly (h : w.Pending a b k) (hw : Sound w) (hmay : w.mayChallenge b)
    {arrives : Bool} (hgood : w.Orderly (.packet b CHALLENGE_PVP_ACCEPT name arrives)) :
    k = .pvp ∧ arrives := by
  have hmoved : (w.handle (.packet b CHALLENGE_PVP_ACCEPT name arrives)).moved =
      (if arrives then [b] else []) ++ [a] :=
    (congrArg ChallengeReply.moved (handleChallenge_pvpAccept hmay name arrives)).trans
      (h.handlePvpAccept arrives).1
  have hne : (w.handle (.packet b CHALLENGE_PVP_ACCEPT name arrives)).moved ≠ [] := by
    rw [hmoved]
    simp
  obtain ⟨a', ha'⟩ := hgood.pending b .pvp name arrives rfl hne
  obtain ⟨-, rfl⟩ := h.unique_asked (hw.incoming_iff.mp ha')
  refine ⟨rfl, ?_⟩
  have hboth := hgood.duel b a name arrives rfl hmay (hw.incoming_iff.mpr h)
  rw [hmoved] at hboth
  cases arrives
  · cases hboth
  · rfl

theorem Pending.cvcAccept_orderly (h : w.Pending a b k) (hw : Sound w) (hmay : w.mayChallenge b)
    {arrives : Bool} (hgood : w.Orderly (.packet b CHALLENGE_CVC_ACCEPT name arrives)) :
    w.getSessionClanId b ≠ 0 ∧ w.getSessionClanId a ≠ 0 ∧
      (k = .cvc ∨ w.NobodyEligible b a) := by
  have hr := handleChallenge_cvcAccept hmay name arrives
  have hworld : w.step (.packet b CHALLENGE_CVC_ACCEPT name arrives) =
      (w.handleCvcAccept b).world := congrArg ChallengeReply.world hr
  obtain ⟨hfreeA, hfreeB⟩ := hgood.settled a b k (hw.outgoing_iff.mpr h)
    ⟨hmay, Or.inl ⟨rfl, .cvc, Or.inl rfl⟩⟩
  have hpending : ¬ (challenged k a).challengeRequested = 0 := k.rejectCode_ne_zero
  have hclan : w.getSessionClanId b ≠ 0 := by
    intro hzero
    have hsame : (w.handleCvcAccept b).world = w := by
      simp [DuelWorld.handleCvcAccept, hzero]
    rw [hworld, hsame] at hfreeB
    exact hpending (hfreeB _ h.asked).2
  have huser : (challenged k a).challengeUser.toUInt16 = a := UInt16.toUInt16_toInt16 a
  have hclan' : w.getSessionClanId a ≠ 0 := by
    intro hzero
    have hzero' : (w.clearRequested b).getSessionClanId a = 0 := by
      rw [clearRequested, getSessionClanId_updateChallenge]
      exact hzero
    have hleft : (w.handleCvcAccept b).world = w.clearRequested b := by
      unfold DuelWorld.handleCvcAccept
      dsimp only
      rw [getChallengeState_eq h.asked, if_neg hpending, if_neg hclan, huser, if_pos hzero']
    have hasks : (w.clearRequested b).challenges a = some (requester k b) := by
      unfold clearRequested
      rw [challenges_updateChallenge, update_of_ne h.ne, h.asks]
    rw [hworld, hleft] at hfreeA
    exact k.cancelCode_ne_zero (hfreeA _ hasks).1
  refine ⟨hclan, hclan', ?_⟩
  by_cases hmoved : (w.handle (.packet b CHALLENGE_CVC_ACCEPT name arrives)).moved = []
  · refine Or.inr ((h.handleCvcAccept hclan hclan').1.mp ?_)
    exact (congrArg ChallengeReply.moved hr).symm.trans hmoved
  · obtain ⟨a', ha'⟩ := hgood.pending b .cvc name arrives rfl hmoved
    exact Or.inl (h.unique_asked (hw.incoming_iff.mp ha')).2.symm

/-- A partner that was not freed still names the one who left. -/
theorem zoneChange_orderly (hw : Sound w) {dest : ℕ} (hp : w.players sid = some p)
    (hz : p.around.zoneId ≠ dest) (hgood : w.Orderly (.zoneChange sid dest)) :
    w.Unchallenged sid ∨ 0 ≤ p.challenge.challengeUser := by
  have hc : w.challenges sid = some p.challenge := by simp [challenges, hp]
  by_contra hneither
  obtain ⟨hbusy, hneg⟩ := not_or.mp hneither
  have hpending : p.challenge.partner ≠ none := by
    intro hnone
    refine hbusy fun c hs => ?_
    obtain rfl := Option.some.inj (hc.symm.trans hs)
    exact partner_eq_none.mp hnone
  have hstep : (w.step (.zoneChange sid dest)).challenges = update w.challenges sid (some {}) := by
    have htrigger : (w.step (.zoneChange sid dest)).challenges = _ :=
      triggerZoneChange_challenges hp dest true
    rw [if_pos ⟨rfl, hz⟩] at htrigger
    exact htrigger.trans (resetChallenge_negative hc hpending hneg)
  rcases hw.pending hc hpending with ⟨b, k, h⟩ | ⟨a, k, h⟩
  · have hin : (w.step (.zoneChange sid dest)).Incoming b sid k := by
      refine ⟨challenged k sid, ?_, rfl, rfl⟩
      rw [hstep, update_of_ne h.ne.symm, h.asked]
    obtain ⟨c, hc', hk, -⟩ := (hgood.proper.both sid b k).mpr hin
    rw [hstep, update_self] at hc'
    obtain rfl := Option.some.inj hc'
    exact k.cancelCode_ne_zero hk.symm
  · have hout : (w.step (.zoneChange sid dest)).Outgoing a sid k := by
      refine ⟨requester k sid, ?_, rfl, rfl⟩
      rw [hstep, update_of_ne h.ne, h.asks]
    obtain ⟨c, hc', hk, -⟩ := (hgood.proper.both a sid k).mp hout
    rw [hstep, update_self] at hc'
    obtain rfl := Option.some.inj hc'
    exact k.rejectCode_ne_zero hk.symm

theorem Sound.condition_of_orderly (hw : Sound w) {e : DuelEvent} (hgood : w.Orderly e) :
    w.Condition e := by
  cases e with
  | packet sid opcode name arrives =>
    intro hmay
    constructor
    · rintro k rfl p q hreq
      exact hreq.not_orderly hmay hgood
    · intro a k hin
      have hp := hw.incoming_iff.mp hin
      constructor
      · rintro rfl
        exact hp.pvpAccept_orderly hw hmay hgood
      · rintro rfl
        exact hp.cvcAccept_orderly hw hmay hgood
  | zoneChange sid dest =>
    intro p hp hz
    exact zoneChange_orderly hw hp hz hgood
  | around others index => trivial

/-- In a run of packets, zone changes and whatever happens around the players, every step keeps the
challenges in pairs and ends them as it should, if and only if every step meets the condition. -/
theorem challenges_orderly_iff (w : DuelWorld) (events : List DuelEvent) (hw : w.Idle) :
    Run.Along step Orderly w events ↔ Run.Along step Condition w events := by
  refine Run.along_congr Sound ?_ ?_ hw.sound
  · intro w e hw hgood
    exact (hw.step_of_condition (hw.condition_of_orderly hgood)).1
  · intro w e hw
    exact ⟨hw.condition_of_orderly, fun hok => (hw.step_of_condition hok).2⟩

def twoLeaders : DuelWorld where
  players s :=
    if s = 1 then some { name := "Alpha", around := { zoneId := 21, knightsId := 5, fame := 1 } }
    else if s = 2 then some { name := "Beta", around := { zoneId := 21, knightsId := 6, fame := 1 } }
    else none
  zoneSessionIndex zone := if zone = 21 then [1, 2] else []
  findSessionByName name :=
    if name = "Alpha" then some 1 else if name = "Beta" then some 2 else none
  zone _ := none

def alphaAsks : DuelEvent := .packet 1 CHALLENGE_PVP_REQUEST (some "Beta") true

theorem twoLeaders_idle : twoLeaders.Idle := by
  intro s c hs
  obtain ⟨p, hp, rfl⟩ := exists_player hs
  simp only [twoLeaders] at hp
  split_ifs at hp
  · obtain rfl := Option.some.inj hp
    rfl
  · obtain rfl := Option.some.inj hp
    rfl

theorem challenges_after_alphaAsks :
    (twoLeaders.step alphaAsks).challenges 2 = some (challenged .pvp 1) := by
  decide +kernel

/-- The duel is accepted as one, and both leave for the arena. -/
theorem twoLeaders_duel_orderly :
    Run.Along step Orderly twoLeaders
      [alphaAsks, .packet 2 CHALLENGE_PVP_ACCEPT none true] := by
  refine (challenges_orderly_iff _ _ twoLeaders_idle).mpr ⟨?_, ?_, trivial⟩
  · intro _
    constructor
    · intro k _ p q hreq
      obtain ⟨n, hn, hfound⟩ := hreq.found
      obtain rfl := Option.some.inj hn
      revert hfound
      decide
    · intro a k _
      exact ⟨fun h => absurd h (by decide), fun h => absurd h (by decide)⟩
  · intro _
    constructor
    · intro k hk
      exact absurd hk (by cases k <;> decide)
    · rintro a k ⟨d, hd, hk, -⟩
      rw [challenges_after_alphaAsks] at hd
      obtain rfl := Option.some.inj hd
      have hkind : k = .pvp := ChallengeKind.rejectCode_inj hk.symm
      exact ⟨fun _ => ⟨hkind, rfl⟩, fun h => absurd h (by decide)⟩

/-- The duel is accepted as a fight of the clans, and the two are taken to the arena for it. -/
theorem twoLeaders_duel_as_clan_fight :
    twoLeaders.Idle ∧ ¬ Run.Along step Orderly twoLeaders
      [alphaAsks, .packet 2 CHALLENGE_CVC_ACCEPT none true] := by
  refine ⟨twoLeaders_idle, ?_⟩
  rintro ⟨-, hgood, -⟩
  have hmoved : ((twoLeaders.step alphaAsks).handle
      (.packet 2 CHALLENGE_CVC_ACCEPT none true)).moved ≠ [] := by decide +kernel
  obtain ⟨a, d, hd, hk, -⟩ := hgood.pending 2 .cvc none true rfl hmoved
  rw [challenges_after_alphaAsks] at hd
  obtain rfl := Option.some.inj hd
  exact absurd hk (by decide)

end DuelWorld

end KoServer
