import KoServer.Lib.Windows
import KoServer.Spec.RateLimiter
import Mathlib.Algebra.Order.Group.Nat
import Mathlib.Data.List.Induction

/-! What the packet limits allow in any second, when a session is banned, and that a session that
keeps to the limits is not held up. -/

namespace KoServer

open Windows (Window Counts)

def SessionRateState.BannedAt (s : SessionRateState) (now : ℕ) : Prop :=
  ∃ deadline, s.banUntil = some deadline ∧ now < deadline

def RateLimitError.isViolation : RateLimitError → Bool
  | .criticalRateExceeded .. | .opcodeRateExceeded .. => true
  | .globalRateExceeded .. | .temporaryBan _ => false

def SessionRateState.violationsLeft (s : SessionRateState) : ℕ :=
  if s.banUntil = none then s.violationCount else 0

structure SessionRateState.Checked (limits : RateLimits) (now opcodeByte : ℕ)
    (s s' : SessionRateState) (error : Option RateLimitError) (globalCount : ℕ)
    (opcodeCounts : ℕ → ℕ) : Prop where
  window : s.windowStart + WINDOW_DURATION ≤ now ∧ s'.windowStart = now ∧ globalCount = 0 ∧
      (∀ key, opcodeCounts key = 0) ∨
    now < s.windowStart + WINDOW_DURATION ∧ s'.windowStart = s.windowStart ∧
      globalCount = s.globalCount ∧ opcodeCounts = s.opcodeCounts
  global : s'.globalCount = globalCount + 1
  counts : ∀ key, opcodeCounts key ≤ s'.opcodeCounts key ∧ s'.opcodeCounts key ≤
    opcodeCounts key + if opcodeCounterKey opcodeByte = key then 1 else 0
  accepted : error = none ↔ globalCount < limits.criticalPacketsPerSecond ∧
    globalCount < limits.softPacketsPerSecond ∧
    opcodeCounts (opcodeCounterKey opcodeByte) < limits.opcodeRateLimit opcodeByte
  counted : error = none → s'.opcodeCounts (opcodeCounterKey opcodeByte) =
    opcodeCounts (opcodeCounterKey opcodeByte) + 1
  violations : s'.violationCount =
    s.violationsLeft + if error.any RateLimitError.isViolation then 1 else 0
  ban : s'.banUntil =
    if error.any RateLimitError.isViolation ∧ MAX_VIOLATIONS ≤ s'.violationCount then
      some (now + BAN_DURATION)
    else none
  notBan : ∀ sessionId, error ≠ some (.temporaryBan sessionId)

section

variable {s : SessionRateState} {now opcodeByte : ℕ} {limits : RateLimits} {sessionId : SessionId}

theorem isBanned_of_banned (h : s.BannedAt now) : s.isBanned now = (true, s) := by
  obtain ⟨deadline, hban, hlt⟩ := h
  unfold SessionRateState.isBanned
  rw [hban]
  exact if_neg (Nat.not_le.mpr hlt)

theorem isBanned_of_not (h : ¬s.BannedAt now) : ∃ s', s.isBanned now = (false, s') ∧
    s'.windowStart = s.windowStart ∧ s'.globalCount = s.globalCount ∧
    s'.opcodeCounts = s.opcodeCounts ∧ s'.violationCount = s.violationsLeft ∧
    s'.banUntil = none := by
  unfold SessionRateState.isBanned SessionRateState.violationsLeft
  cases hban : s.banUntil with
  | none => exact ⟨s, rfl, rfl, rfl, rfl, (if_pos rfl).symm, hban⟩
  | some deadline =>
    have hover : deadline ≤ now := Nat.not_lt.mp fun hlt => h ⟨deadline, hban, hlt⟩
    dsimp only
    rw [if_pos hover, if_neg (by simp)]
    exact ⟨_, rfl, rfl, rfl, rfl, rfl, rfl⟩

theorem checkRateLimit_eq (s : SessionRateState) :
    s.checkRateLimit now limits sessionId opcodeByte =
      if (s.isBanned now).1 then (some (.temporaryBan sessionId), (s.isBanned now).2)
      else ((s.isBanned now).2.maybeResetWindow now).countPacket now limits sessionId opcodeByte := by
  unfold SessionRateState.checkRateLimit
  obtain ⟨banned, s'⟩ := s.isBanned now
  rfl

theorem check_banned (h : s.BannedAt now) :
    s.checkRateLimit now limits sessionId opcodeByte = (some (.temporaryBan sessionId), s) := by
  rw [checkRateLimit_eq, isBanned_of_banned h]
  exact if_pos rfl

theorem recordViolation_eq (s : SessionRateState) : (s.recordViolation now).2 =
    { s with
      violationCount := s.violationCount + 1
      banUntil := if MAX_VIOLATIONS ≤ s.violationCount + 1 then some (now + BAN_DURATION)
        else s.banUntil } := by
  unfold SessionRateState.recordViolation
  dsimp only
  split_ifs <;> rfl

def SessionRateState.settled (s : SessionRateState) (now : ℕ) (error : Option RateLimitError) :
    SessionRateState :=
  if error.any RateLimitError.isViolation then (s.recordViolation now).2 else s

theorem counts_updated (counts : ℕ → ℕ) (key key' : ℕ) :
    counts key' ≤ Function.update counts key (counts key + 1) key' ∧
      Function.update counts key (counts key + 1) key' ≤
        counts key' + if key = key' then 1 else 0 := by
  rcases Decidable.eq_or_ne key' key with rfl | hne
  · rw [Function.update_self, if_pos rfl]
    omega
  · rw [Function.update_of_ne hne, if_neg hne.symm]
    omega

theorem countPacket_spec (limits : RateLimits) (sessionId : SessionId) (now opcodeByte : ℕ)
    (s : SessionRateState) : ∃ error counts,
    s.countPacket now limits sessionId opcodeByte =
      (error, SessionRateState.settled
        { s with globalCount := s.globalCount + 1, opcodeCounts := counts } now error) ∧
    (∀ key, s.opcodeCounts key ≤ counts key ∧
      counts key ≤ s.opcodeCounts key + if opcodeCounterKey opcodeByte = key then 1 else 0) ∧
    (error = none ↔ s.globalCount < limits.criticalPacketsPerSecond ∧
      s.globalCount < limits.softPacketsPerSecond ∧
      s.opcodeCounts (opcodeCounterKey opcodeByte) < limits.opcodeRateLimit opcodeByte) ∧
    (error = none → counts (opcodeCounterKey opcodeByte) =
      s.opcodeCounts (opcodeCounterKey opcodeByte) + 1) ∧
    ∀ id, error ≠ some (.temporaryBan id) := by
  unfold SessionRateState.countPacket
  dsimp only
  split_ifs with hcritical hsoft hopcode
  · refine ⟨_, s.opcodeCounts, Prod.ext rfl rfl, fun key => ⟨Nat.le_refl _, Nat.le_add_right _ _⟩, ?_, ?_,
      ?_⟩
    · simp
      omega
    · simp
    · simp
  · refine ⟨_, s.opcodeCounts, Prod.ext rfl rfl, fun key => ⟨Nat.le_refl _, Nat.le_add_right _ _⟩, ?_, ?_,
      ?_⟩
    · simp
      omega
    · simp
    · simp
  · refine ⟨_, _, Prod.ext rfl rfl, counts_updated _ _, ?_, fun _ => Function.update_self .., ?_⟩
    · simp
      omega
    · simp
  · refine ⟨_, _, Prod.ext rfl rfl, counts_updated _ _, ?_, fun _ => Function.update_self .., ?_⟩
    · simp
      omega
    · simp

theorem maybeResetWindow_spec (now : ℕ) (s : SessionRateState) : ∃ w, s.maybeResetWindow now = w ∧
    ((s.windowStart + WINDOW_DURATION ≤ now ∧ w.windowStart = now ∧ w.globalCount = 0 ∧
        (∀ key, w.opcodeCounts key = 0)) ∨
      (now < s.windowStart + WINDOW_DURATION ∧ w.windowStart = s.windowStart ∧
        w.globalCount = s.globalCount ∧ w.opcodeCounts = s.opcodeCounts)) ∧
    w.violationCount = s.violationCount ∧ w.banUntil = s.banUntil := by
  rcases Nat.lt_or_ge now (s.windowStart + WINDOW_DURATION) with hopen | hover
  · exact ⟨s, if_neg (Nat.not_le.mpr hopen), .inr ⟨hopen, rfl, rfl, rfl⟩, rfl, rfl⟩
  · exact ⟨{ s with windowStart := now, globalCount := 0, opcodeCounts := fun _ => 0 },
      if_pos hover, .inl ⟨hover, rfl, rfl, fun _ => rfl⟩, rfl, rfl⟩

theorem settled_spec (now : ℕ) (s : SessionRateState) (error : Option RateLimitError)
    (hban : s.banUntil = none) :
    (s.settled now error).windowStart = s.windowStart ∧
    (s.settled now error).globalCount = s.globalCount ∧
    (s.settled now error).opcodeCounts = s.opcodeCounts ∧
    (s.settled now error).violationCount =
      s.violationCount + (if error.any RateLimitError.isViolation then 1 else 0) ∧
    (s.settled now error).banUntil =
      if error.any RateLimitError.isViolation ∧
          MAX_VIOLATIONS ≤ (s.settled now error).violationCount then
        some (now + BAN_DURATION)
      else none := by
  unfold SessionRateState.settled
  cases error.any RateLimitError.isViolation with
  | false => exact ⟨rfl, rfl, rfl, rfl, by simpa using hban⟩
  | true =>
    rw [if_pos rfl, recordViolation_eq]
    exact ⟨rfl, rfl, rfl, rfl, by simp [hban]⟩

theorem check_unbanned (limits : RateLimits) (sessionId : SessionId) (opcodeByte : ℕ)
    (h : ¬s.BannedAt now) : ∃ (globalCount : ℕ) (opcodeCounts : ℕ → ℕ),
    SessionRateState.Checked limits now opcodeByte s
      (s.checkRateLimit now limits sessionId opcodeByte).2
      (s.checkRateLimit now limits sessionId opcodeByte).1 globalCount opcodeCounts := by
  obtain ⟨s₀, hbanned, hstart₀, hglobal₀, hkeys₀, hviolations₀, hban₀⟩ := isBanned_of_not h
  rw [checkRateLimit_eq, hbanned, if_neg Bool.false_ne_true]
  obtain ⟨w, hw, hwindow, hviolations, hban⟩ := maybeResetWindow_spec now s₀
  rw [hstart₀, hglobal₀, hkeys₀] at hwindow
  rw [hviolations₀] at hviolations
  rw [hban₀] at hban
  dsimp only
  rw [hw]
  obtain ⟨error, counts, hcheck, hcounts, haccepted, hcounted, hnot⟩ := countPacket_spec limits
    sessionId now opcodeByte w
  rw [hcheck]
  obtain ⟨hstart, hglobal, hkeys, hviolated, hbanned⟩ := settled_spec now
    { w with globalCount := w.globalCount + 1, opcodeCounts := counts } error hban
  refine ⟨w.globalCount, w.opcodeCounts, ?_, hglobal, ?_, haccepted, ?_, ?_, hbanned, hnot⟩
  · rw [hstart]
    exact hwindow
  · rw [hkeys]
    exact hcounts
  · rw [hkeys]
    exact hcounted
  · rw [hviolated, ← hviolations]

end

def TimedPacket.inSecond (T : ℕ) (packet : TimedPacket) : Bool :=
  T ≤ packet.time && packet.time < T + WINDOW_DURATION

structure WithinRates (limits : RateLimits) (packets : List TimedPacket) : Prop where
  global : ∀ T, packets.countP (TimedPacket.inSecond T) ≤
    min limits.softPacketsPerSecond limits.criticalPacketsPerSecond
  opcode : ∀ T, ∀ packet ∈ packets, packet.inSecond T = true →
    packets.countP (fun q => q.inSecond T &&
      opcodeCounterKey q.opcodeByte = opcodeCounterKey packet.opcodeByte) ≤
    limits.opcodeRateLimit packet.opcodeByte

structure BanStep (sessionId : SessionId) (now : ℕ) (s s' : SessionRateState)
    (error : Option RateLimitError) : Prop where
  banned : s.BannedAt now → error = some (.temporaryBan sessionId) ∧ s' = s
  unbanned : ¬s.BannedAt now → (∀ id, error ≠ some (.temporaryBan id)) ∧
    s'.violationCount =
      s.violationsLeft + (if error.any RateLimitError.isViolation then 1 else 0) ∧
    s'.banUntil =
      if s'.violationCount = MAX_VIOLATIONS then some (now + BAN_DURATION) else none

structure RateLimited (limits : RateLimits) (limiter : RateLimiter) (sessionId : SessionId)
    (packets : List TimedPacket) : Prop where
  /-- Of the packets that are counted under a key, those with at most some limit. -/
  opcode : ∀ T key limit,
    (limiter.checkAll limits sessionId packets).countP (fun e =>
      (e.2 = none && (opcodeCounterKey e.1.opcodeByte = key &&
        limits.opcodeRateLimit e.1.opcodeByte ≤ limit)) && e.1.inSecond T) ≤ 2 * limit
  global : ∀ T,
    (limiter.checkAll limits sessionId packets).countP (fun e =>
      decide (e.2 = none) && e.1.inSecond T) ≤
        2 * min limits.softPacketsPerSecond limits.criticalPacketsPerSecond
  ban : ∀ before packet after, packets = before ++ packet :: after → ∃ s s',
    limiter.afterAll limits sessionId before sessionId = some s ∧
    limiter.afterAll limits sessionId (before ++ [packet]) sessionId = some s' ∧
    BanStep sessionId packet.time s s'
      ((limiter.afterAll limits sessionId before).checkRateLimit limits sessionId packet).1
  unhindered : WithinRates limits packets →
    ∀ e ∈ limiter.checkAll limits sessionId packets, e.2 = none

section

variable {limits : RateLimits} {limiter : RateLimiter} {sessionId : SessionId}
  {s : SessionRateState} {packet : TimedPacket} {packets : List TimedPacket}

theorem checkRateLimit_registered (limits : RateLimits) (hs : limiter sessionId = some s) (hgm : packet.isGm = false) :
    limiter.checkRateLimit limits sessionId packet =
      ((s.checkRateLimit packet.time limits sessionId packet.opcodeByte).1,
        Function.update limiter sessionId
          (some (s.checkRateLimit packet.time limits sessionId packet.opcodeByte).2)) := by
  unfold RateLimiter.checkRateLimit
  rw [hgm, if_neg Bool.false_ne_true, hs]

theorem windowStart_le (limits : RateLimits) (sessionId : SessionId)
    (hstart : s.windowStart ≤ packet.time) :
    (s.checkRateLimit packet.time limits sessionId packet.opcodeByte).2.windowStart ≤
      packet.time := by
  by_cases hban : s.BannedAt packet.time
  · rw [check_banned hban]
    exact hstart
  · obtain ⟨_, _, h⟩ := check_unbanned limits sessionId packet.opcodeByte hban
    rcases h.window with ⟨-, hnew, -⟩ | ⟨-, hold, -⟩
    · exact hnew.le
    · exact hold.le.trans hstart

theorem checkAll_counts (count : SessionRateState → ℕ)
    (counted : TimedPacket × Option RateLimitError → Bool) {limit : ℕ}
    (hstep : ∀ s packet, Windows.Step WINDOW_DURATION limit packet.time
      (counted (packet, (s.checkRateLimit packet.time limits sessionId packet.opcodeByte).1))
      ⟨s.windowStart, count s⟩
      ⟨(s.checkRateLimit packet.time limits sessionId packet.opcodeByte).2.windowStart,
        count (s.checkRateLimit packet.time limits sessionId packet.opcodeByte).2⟩)
    (hs : limiter sessionId = some s) (hgm : ∀ p ∈ packets, p.isGm = false)
    (hstart : ∀ p ∈ packets, s.windowStart ≤ p.time)
    (hsorted : packets.Pairwise fun p q => p.time ≤ q.time) :
    Counts WINDOW_DURATION limit ⟨s.windowStart, count s⟩
      ((limiter.checkAll limits sessionId packets).map fun e => (e.1.time, counted e)) := by
  induction packets generalizing limiter s with
  | nil => exact .nil _
  | cons packet packets ih =>
    obtain ⟨hgm₁, hgm⟩ := List.forall_mem_cons.mp hgm
    obtain ⟨hstart₁, -⟩ := List.forall_mem_cons.mp hstart
    obtain ⟨hsorted₁, hsorted⟩ := List.pairwise_cons.mp hsorted
    unfold RateLimiter.checkAll
    rw [checkRateLimit_registered limits hs hgm₁]
    have hstart' := windowStart_le limits sessionId hstart₁
    exact .cons hstart₁ (hstep s packet) <| ih (Function.update_self ..) hgm
      (fun p hp => hstart'.trans (hsorted₁ p hp)) hsorted

theorem step_global (s : SessionRateState) (packet : TimedPacket) :
    Windows.Step WINDOW_DURATION
      (min limits.softPacketsPerSecond limits.criticalPacketsPerSecond) packet.time
      (decide ((s.checkRateLimit packet.time limits sessionId packet.opcodeByte).1 = none))
      ⟨s.windowStart, s.globalCount⟩
      ⟨(s.checkRateLimit packet.time limits sessionId packet.opcodeByte).2.windowStart,
        (s.checkRateLimit packet.time limits sessionId packet.opcodeByte).2.globalCount⟩ := by
  by_cases hban : s.BannedAt packet.time
  · rw [check_banned hban]
    exact .inl ⟨rfl, rfl⟩
  · obtain ⟨g, k, h⟩ := check_unbanned limits sessionId packet.opcodeByte hban
    refine .inr ⟨g, ?_, h.global.symm ▸ Nat.le_succ g, fun hcounted => ?_⟩
    · rcases h.window with ⟨hover, hstart, hg, -⟩ | ⟨hopen, hstart, hg, -⟩
      · exact .inl ⟨hover, hstart, hg⟩
      · exact .inr ⟨hopen, hstart, hg⟩
    · obtain ⟨hcritical, hsoft, -⟩ := h.accepted.mp (of_decide_eq_true hcounted)
      have hglobal := h.global
      dsimp only
      omega

theorem step_opcode (key limit : ℕ) (s : SessionRateState) (packet : TimedPacket) :
    Windows.Step WINDOW_DURATION limit packet.time
      (decide ((s.checkRateLimit packet.time limits sessionId packet.opcodeByte).1 = none) &&
        (opcodeCounterKey packet.opcodeByte = key &&
          limits.opcodeRateLimit packet.opcodeByte ≤ limit))
      ⟨s.windowStart, s.opcodeCounts key⟩
      ⟨(s.checkRateLimit packet.time limits sessionId packet.opcodeByte).2.windowStart,
        (s.checkRateLimit packet.time limits sessionId packet.opcodeByte).2.opcodeCounts key⟩ := by
  by_cases hban : s.BannedAt packet.time
  · rw [check_banned hban]
    exact .inl ⟨rfl, rfl⟩
  · obtain ⟨g, k, h⟩ := check_unbanned limits sessionId packet.opcodeByte hban
    refine .inr ⟨k key, ?_, (h.counts key).1, fun hcounted => ?_⟩
    · rcases h.window with ⟨hover, hstart, -, hk⟩ | ⟨hopen, hstart, -, hk⟩
      · exact .inl ⟨hover, hstart, hk key⟩
      · exact .inr ⟨hopen, hstart, congrFun hk key⟩
    · simp only [Bool.and_eq_true, decide_eq_true_eq] at hcounted
      obtain ⟨hnone, rfl, hlimit⟩ := hcounted
      obtain ⟨-, -, hplace⟩ := h.accepted.mp hnone
      have hcount := h.counted hnone
      dsimp only
      omega

def SessionRateState.Unspent (s : SessionRateState) : Prop :=
  s.banUntil = none → s.violationCount < MAX_VIOLATIONS

theorem check_banStep (hs : s.Unspent) :
    BanStep sessionId packet.time s
      (s.checkRateLimit packet.time limits sessionId packet.opcodeByte).2
      (s.checkRateLimit packet.time limits sessionId packet.opcodeByte).1 ∧
    (s.checkRateLimit packet.time limits sessionId packet.opcodeByte).2.Unspent := by
  by_cases hban : s.BannedAt packet.time
  · rw [check_banned hban]
    exact ⟨⟨fun _ => ⟨rfl, rfl⟩, fun h => absurd hban h⟩, hs⟩
  · obtain ⟨g, k, h⟩ := check_unbanned limits sessionId packet.opcodeByte hban
    have hleft : s.violationsLeft < MAX_VIOLATIONS := by
      unfold SessionRateState.violationsLeft
      split_ifs with hnone
      · exact hs hnone
      · decide
    have hviolations := h.violations
    have hbanned := h.ban
    unfold SessionRateState.Unspent
    cases hviolation : (s.checkRateLimit packet.time limits sessionId packet.opcodeByte).1.any
        RateLimitError.isViolation with
    | false =>
      rw [hviolation, if_neg Bool.false_ne_true] at hviolations
      rw [hviolation, if_neg (by simp)] at hbanned
      refine ⟨⟨fun h => absurd h hban, fun _ => ⟨h.notBan, h.violations, ?_⟩⟩, fun _ => by omega⟩
      rw [hbanned, if_neg (by omega)]
    | true =>
      rw [hviolation, if_pos rfl] at hviolations
      simp only [hviolation, true_and] at hbanned
      refine ⟨⟨fun h => absurd h hban, fun _ => ⟨h.notBan, h.violations, ?_⟩⟩, fun hnone => ?_⟩
      · rw [hbanned]
        exact if_congr (by omega) rfl rfl
      · rw [hbanned] at hnone
        split_ifs at hnone with hreached
        exact Nat.not_le.mp hreached

theorem afterAll_append (before : List TimedPacket) :
    limiter.afterAll limits sessionId (before ++ [packet]) =
      ((limiter.afterAll limits sessionId before).checkRateLimit limits sessionId packet).2 := by
  unfold RateLimiter.afterAll
  rw [List.foldl_append, List.foldl_cons, List.foldl_nil]

theorem afterAll_unspent (limits : RateLimits) (hs : limiter sessionId = some s) (hunspent : s.Unspent)
    (hgm : ∀ p ∈ packets, p.isGm = false) :
    ∃ s', limiter.afterAll limits sessionId packets sessionId = some s' ∧ s'.Unspent := by
  induction packets using List.reverseRecOn with
  | nil => exact ⟨s, hs, hunspent⟩
  | append_singleton packets packet ih =>
    obtain ⟨hgm, hgm₁⟩ := List.forall_mem_append.mp hgm
    obtain ⟨s', hs', hunspent'⟩ := ih hgm
    rw [afterAll_append, checkRateLimit_registered limits hs' (hgm₁ packet (List.mem_singleton_self _))]
    exact ⟨_, Function.update_self .., (check_banStep hunspent').2⟩

structure SessionRateState.CountsOf (s : SessionRateState) (before : List TimedPacket) : Prop where
  noBan : s.banUntil = none
  global : s.globalCount ≤ before.countP fun q => s.windowStart ≤ q.time
  opcode : ∀ key, s.opcodeCounts key ≤
    before.countP fun q => s.windowStart ≤ q.time && opcodeCounterKey q.opcodeByte = key

theorem countP_inSecond (after : List TimedPacket) {before : List TimedPacket} {T : ℕ} (f : TimedPacket → Bool)
    (h : ∀ q ∈ before, q.time < T + WINDOW_DURATION) :
    before.countP (fun q => T ≤ q.time && f q) ≤
      (before ++ after).countP fun q => q.inSecond T && f q := by
  have hsame : before.countP (fun q => T ≤ q.time && f q) =
      before.countP fun q => q.inSecond T && f q := by
    refine List.countP_congr fun q hq => ?_
    unfold TimedPacket.inSecond
    simp only [h q hq, decide_true, Bool.and_true]
  rw [hsame, List.countP_append]
  exact Nat.le_add_right _ _

theorem unhindered_step (sessionId : SessionId) {before after : List TimedPacket} (hs : s.CountsOf before)
    (hwithin : WithinRates limits (before ++ packet :: after))
    (hbefore : ∀ q ∈ before, q.time ≤ packet.time) (hstart : s.windowStart ≤ packet.time) :
    (s.checkRateLimit packet.time limits sessionId packet.opcodeByte).1 = none ∧
      (s.checkRateLimit packet.time limits sessionId packet.opcodeByte).2.CountsOf
        (before ++ [packet]) := by
  have hfree : ¬s.BannedAt packet.time := by
    rintro ⟨deadline, hban, -⟩
    rw [hs.noBan] at hban
    cases hban
  obtain ⟨g, k, h⟩ := check_unbanned limits sessionId packet.opcodeByte hfree
  generalize s.checkRateLimit packet.time limits sessionId packet.opcodeByte = checked at *
  obtain ⟨error, s'⟩ := checked
  dsimp only at *
  -- the counts in the window are counts of packets since it began
  have hwindow : s'.windowStart ≤ packet.time ∧
      packet.time < s'.windowStart + WINDOW_DURATION ∧
      (g ≤ before.countP fun q => s'.windowStart ≤ q.time) ∧
      ∀ key, k key ≤ before.countP fun q =>
        s'.windowStart ≤ q.time && opcodeCounterKey q.opcodeByte = key := by
    rcases h.window with ⟨-, hnew, hg, hk⟩ | ⟨hopen, hold, hg, hk⟩
    · rw [hnew, hg]
      refine ⟨le_refl _, Nat.lt_add_of_pos_right (by decide), Nat.zero_le _, fun key => ?_⟩
      rw [hk key]
      exact Nat.zero_le _
    · rw [hold, hg, hk]
      exact ⟨hstart, hopen, hs.global, hs.opcode⟩
  obtain ⟨hstart', hopen, hglobal, hopcode⟩ := hwindow
  have hglobal' : g + 1 ≤ (before ++ [packet]).countP fun q => s'.windowStart ≤ q.time := by
    rw [List.countP_append, List.countP_singleton, if_pos (decide_eq_true hstart')]
    omega
  have hopcode' : ∀ key, s'.opcodeCounts key ≤ (before ++ [packet]).countP fun q =>
      s'.windowStart ≤ q.time && opcodeCounterKey q.opcodeByte = key := by
    intro key
    have hcount := (h.counts key).2
    have hold := hopcode key
    rw [List.countP_append, List.countP_singleton]
    simp only [hstart', decide_true, Bool.true_and, decide_eq_true_eq]
    omega
  have hrecent : ∀ q ∈ before ++ [packet], q.time < s'.windowStart + WINDOW_DURATION := by
    intro q hq
    rcases List.mem_append.mp hq with hq | hq
    · exact (hbefore q hq).trans_lt hopen
    · exact List.mem_singleton.mp hq ▸ hopen
  have hown : k (opcodeCounterKey packet.opcodeByte) + 1 ≤ (before ++ [packet]).countP fun q =>
      s'.windowStart ≤ q.time &&
        opcodeCounterKey q.opcodeByte = opcodeCounterKey packet.opcodeByte := by
    have hold := hopcode (opcodeCounterKey packet.opcodeByte)
    rw [List.countP_append, List.countP_singleton, if_pos (by simp [hstart'])]
    omega
  rw [List.append_cons] at hwithin
  have hpacket : packet.inSecond s'.windowStart = true := by
    simp [TimedPacket.inSecond, hstart', hopen]
  have hlimits := hwithin.global s'.windowStart
  have hlimit := hwithin.opcode s'.windowStart packet (by simp) hpacket
  have hall := countP_inSecond after (fun _ => true) hrecent
  have hkey := countP_inSecond after
    (fun q => opcodeCounterKey q.opcodeByte = opcodeCounterKey packet.opcodeByte) hrecent
  simp only [Bool.and_true] at hall
  have hroom : g + 1 ≤ min limits.softPacketsPerSecond limits.criticalPacketsPerSecond :=
    (hglobal'.trans hall).trans hlimits
  have hplace : k (opcodeCounterKey packet.opcodeByte) + 1 ≤
      limits.opcodeRateLimit packet.opcodeByte := (hown.trans hkey).trans hlimit
  have haccepted : error = none := h.accepted.mpr ⟨by omega, by omega, hplace⟩
  have hbanUntil := h.ban
  rw [haccepted, if_neg (by simp)] at hbanUntil
  exact ⟨haccepted, hbanUntil, h.global ▸ hglobal', hopcode'⟩

theorem unhindered (before : List TimedPacket) (hs : limiter sessionId = some s)
    (hcounts : s.CountsOf before) (hwithin : WithinRates limits (before ++ packets))
    (hbefore : ∀ p ∈ before, ∀ q ∈ packets, p.time ≤ q.time)
    (hstart : ∀ p ∈ packets, s.windowStart ≤ p.time)
    (hsorted : packets.Pairwise fun p q => p.time ≤ q.time)
    (hgm : ∀ p ∈ packets, p.isGm = false) :
    ∀ e ∈ limiter.checkAll limits sessionId packets, e.2 = none := by
  induction packets generalizing limiter s before with
  | nil => exact fun e he => absurd he List.not_mem_nil
  | cons packet packets ih =>
    obtain ⟨hgm₁, hgm⟩ := List.forall_mem_cons.mp hgm
    obtain ⟨hstart₁, -⟩ := List.forall_mem_cons.mp hstart
    obtain ⟨hsorted₁, hsorted⟩ := List.pairwise_cons.mp hsorted
    obtain ⟨hnone, hcounts'⟩ := unhindered_step sessionId hcounts hwithin
      (fun p hp => hbefore p hp packet List.mem_cons_self) hstart₁
    unfold RateLimiter.checkAll
    rw [checkRateLimit_registered limits hs hgm₁]
    refine List.forall_mem_cons.mpr ⟨hnone, ?_⟩
    have hstart' := windowStart_le limits sessionId hstart₁
    rw [List.append_cons] at hwithin
    refine ih (before ++ [packet]) (Function.update_self ..) hcounts' hwithin (fun p hp q hq => ?_)
      (fun p hp => hstart'.trans (hsorted₁ p hp)) hsorted hgm
    rcases List.mem_append.mp hp with hp | hp
    · exact hbefore p hp q (List.mem_cons_of_mem _ hq)
    · exact List.mem_singleton.mp hp ▸ hsorted₁ q hq

theorem checkAll_packets (limits : RateLimits) (limiter : RateLimiter) (sessionId : SessionId)
    (packets : List TimedPacket) :
    (limiter.checkAll limits sessionId packets).map Prod.fst = packets := by
  induction packets generalizing limiter with
  | nil => rfl
  | cons packet packets ih => exact congrArg (packet :: ·) (ih _)

/-- The packets of a session are limited from when it is registered, unless they are a GM's. -/
theorem packets_rate_limited (limits : RateLimits) (limiter : RateLimiter)
    (sessionId : SessionId) (start : ℕ) (packets : List TimedPacket)
    (hgm : ∀ p ∈ packets, p.isGm = false) (hstart : ∀ p ∈ packets, start ≤ p.time)
    (hsorted : packets.Pairwise fun p q => p.time ≤ q.time) :
    RateLimited limits (limiter.registerSession sessionId start) sessionId packets := by
  have hs : limiter.registerSession sessionId start sessionId =
    some (SessionRateState.new start) := Function.update_self ..
  generalize limiter.registerSession sessionId start = limiter at *
  have hsorted' : ∀ counted : TimedPacket × Option RateLimitError → Bool,
      ((limiter.checkAll limits sessionId packets).map fun e => (e.1.time, counted e)).Pairwise
        fun e e' => e.1 ≤ e'.1 := by
    intro counted
    rw [List.pairwise_map]
    rw [← checkAll_packets limits limiter sessionId packets, List.pairwise_map] at hsorted
    exact hsorted
  refine ⟨fun T key limit => ?_, fun T => ?_, fun before packet after heq => ?_, fun hwithin => ?_⟩
  · have hcounts := (checkAll_counts (fun s => s.opcodeCounts key) (fun e =>
      decide (e.2 = none) && (opcodeCounterKey e.1.opcodeByte = key &&
        limits.opcodeRateLimit e.1.opcodeByte ≤ limit)) (step_opcode key limit) hs hgm hstart
      hsorted).le_twice (hsorted' _) T
    rwa [List.countP_map] at hcounts
  · have hcounts := (checkAll_counts SessionRateState.globalCount (fun e => decide (e.2 = none))
      step_global hs hgm hstart hsorted).le_twice (hsorted' _) T
    rwa [List.countP_map] at hcounts
  · subst heq
    obtain ⟨hgmBefore, hgmAfter⟩ := List.forall_mem_append.mp hgm
    have hnew : (SessionRateState.new start).Unspent := fun _ =>
      show 0 < MAX_VIOLATIONS by decide
    obtain ⟨s, hs', hunspent⟩ := afterAll_unspent limits hs hnew hgmBefore
    have hcheck := checkRateLimit_registered limits hs' (hgmAfter packet List.mem_cons_self)
    rw [afterAll_append, hcheck]
    exact ⟨s, _, hs', Function.update_self .., (check_banStep hunspent).1⟩
  · exact unhindered [] hs ⟨rfl, Nat.zero_le _, fun _ => Nat.zero_le _⟩ hwithin
      (fun p hp => absurd hp List.not_mem_nil) hstart hsorted hgm

end

theorem chatThenMove_limited : RateLimited rateLimits
    (RateLimiter.registerSession (fun _ => none) 1 0) 1
    [⟨0, WIZ_CHAT, false⟩, ⟨5, WIZ_MOVE, false⟩] :=
  packets_rate_limited rateLimits (fun _ => none) 1 0 _ (by decide) (by decide) (by decide)

/-- Eleven messages of a GM at once all pass. -/
theorem gmChat_passes : ¬∀ (limits : RateLimits) (limiter : RateLimiter) (sessionId : SessionId)
    (start : ℕ) (packets : List TimedPacket), (∀ p ∈ packets, start ≤ p.time) →
      (packets.Pairwise fun p q => p.time ≤ q.time) →
      RateLimited limits (limiter.registerSession sessionId start) sessionId packets := by
  intro h
  have hlimited := (h rateLimits (fun _ => none) 1 0 (List.replicate 11 ⟨0, WIZ_CHAT, true⟩)
    (by decide) (by decide)).opcode 0 CHAT_GROUP_KEY 5
  exact absurd hlimited (by decide +kernel)

end KoServer
