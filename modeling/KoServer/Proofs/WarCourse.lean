import KoServer.Proofs.War
import Mathlib.Tactic.IntervalCases

/-! The course of a war: which wars are decided by half of their time, how long one lasts, what a
server that has no time for one does, and the banishing afterwards. -/

namespace KoServer.War

/-- A war that runs with no winner: nobody is banished, and its half and the commanders' time are
still to come. -/
structure BattleState.Undecided (s : BattleState) : Prop where
  banishFlag : s.banishFlag = false
  early : s.elapsed < s.battleTime.tdiv 2
  commanders : s.commanderSelected = false → s.elapsed < max (s.battleTime.tdiv 24) 1

/-- In a zone that has a way to a winner, a war with none is early. -/
def Server.OnTime (w : Server) : Prop :=
  w.battle.battleOpen = .nationBattle → w.battle.victory = 0 →
    winnerTypeForZone w.battle.battleZoneId ≠ none → w.due.settles = false → w.battle.Undecided

theorem battleZoneOpen_cases (s : BattleState) (kind : BattleOpen) (zone : ℕ) :
    s.battleOpen ≠ .noBattle ∧ s.battleZoneOpen kind zone = (s, false) ∨
    s.battleOpen = .noBattle ∧ ∃ nereids, s.battleZoneOpen kind zone =
      ({ s.resetBattleZone with
          battleOpen := kind
          battleZone := zone
          battleRemainingTime := s.battleTime
          nereidsRemainingTime := nereids }, true) := by
  unfold BattleState.battleZoneOpen BattleState.isWarOpen
  by_cases h : s.battleOpen = .noBattle
  · exact .inr ⟨h, _, by simp [h]; rfl⟩
  · exact .inl ⟨h, by simp [h]⟩

section

variable {s : BattleState} {w : Server} {battleTime : ℤ}

theorem undecided_sameCourse {s' : BattleState} (h : s.Undecided) (hs : s.SameCourse s') :
    s'.Undecided where
  banishFlag := hs.banishFlag.trans h.banishFlag
  early := by
    rw [BattleState.elapsed, hs.battleTime, hs.battleRemainingTime]
    exact h.early
  commanders := by
    rw [BattleState.elapsed, hs.battleTime, hs.battleRemainingTime, hs.commanderSelected]
    exact h.commanders

/-- The clock of a war that has begun and is not over goes on by one. -/
theorem elapsed_clockTick (h : -2 ^ 31 < s.battleRemainingTime) :
    s.clockTick.elapsed = s.elapsed + 1 := by
  have hmax : max (s.battleRemainingTime - 1) (-2 ^ 31) = s.battleRemainingTime - 1 := by omega
  rw [BattleState.elapsed, BattleState.elapsed, BattleState.clockTick, hmax]
  dsimp only
  omega

theorem warTick_of_not_banish (hflag : s.banishFlag = false)
    (hopen : s.battleOpen = .nationBattle) : s.warTick = s.clockTick.battleTick := by
  have hb : s.banishTick = (s, none) := by
    unfold BattleState.banishTick
    rw [hflag]
    exact if_neg Bool.false_ne_true
  unfold BattleState.warTick
  rw [hb]
  exact if_pos hopen

/-- Four seconds are enough for the commanders to be selected before half of the time. -/
theorem undecided_warTick (hT : 4 ≤ s.battleTime) (hdelay : s.resultDelay = false)
    (hopen : s.battleOpen = .nationBattle) (hv : s.victory = 0)
    (hzone : winnerTypeForZone s.battleZoneId ≠ none) (h : s.Undecided)
    (hact : s.warTick.2.settles = false) : s.warTick.1.Undecided := by
  have h2 : s.battleTime.tdiv 2 = s.battleTime / 2 := Int.tdiv_eq_ediv_of_nonneg (by omega)
  have h24 : s.battleTime.tdiv 24 = s.battleTime / 24 := Int.tdiv_eq_ediv_of_nonneg (by omega)
  have hearly := h.early
  have hremaining : s.battleTime - s.battleRemainingTime = s.elapsed := rfl
  have helapsed : s.clockTick.elapsed = s.elapsed + 1 := elapsed_clockTick (by omega)
  have hlate : ¬s.clockTick.battleRemainingTime ≤ 0 := by
    have : s.clockTick.elapsed = s.battleTime - s.clockTick.battleRemainingTime := rfl
    omega
  have hvictory : s.clockTick.victory = 0 := hv
  have hclock : s.clockTick.resultDelay = false := hdelay
  rw [warTick_of_not_banish h.banishFlag hopen, battleTick_eq hclock, if_neg hlate,
    if_pos hvictory] at hact ⊢
  rcases undecidedTick_cases s.clockTick with
    ⟨hsel, -, heq⟩ | ⟨hsel, ⟨winner, -, heq⟩ | ⟨winner, -, heq⟩ | ⟨hhalf, _, heq⟩⟩
  · -- the commanders' second is not the half
    have hcommanders := h.commanders hsel
    rw [heq]
    refine ⟨h.banishFlag, ?_, fun hno => by cases hno⟩
    change s.clockTick.elapsed < s.battleTime.tdiv 2
    omega
  · rw [heq] at hact
    cases hact
  · rw [heq] at hact
    cases hact
  · have hne : s.clockTick.elapsed ≠ s.clockTick.battleTime.tdiv 2 := by
      intro hat
      rw [BattleState.halfTimeWinner, if_pos hat] at hhalf
      exact hzone (Option.map_eq_none_iff.mp hhalf)
    rw [(sameWar_clockTick s).battleTime] at hne
    have hundecided : ∀ delay, ({ s.clockTick with battleTimeDelay := delay } :
        BattleState).Undecided := by
      intro delay
      refine ⟨h.banishFlag, ?_, hsel⟩
      change s.clockTick.elapsed < s.battleTime.tdiv 2
      omega
    rw [heq]
    obtain ⟨delay, hnotice | hnotice⟩ := noticeTick_cases s.clockTick _ _
    · rw [hnotice]
      exact hundecided delay
    · rw [hnotice]
      exact hundecided delay

/-- What is carried out for the clock ends the war or names a winner. -/
theorem settle_decides (h : w.Sound battleTime) (hdue : w.due.settles = true) :
    (w.battle.settle w.due).battleOpen ≠ .nationBattle ∨ (w.battle.settle w.due).victory ≠ 0 := by
  have hsound := h.due
  cases hd : w.due with
  | halfTimeResult winner =>
    unfold BattleState.settle
    dsimp only
    split_ifs with hw
    · exact .inl (battleZoneClose_not_nation _)
    · rw [battleZoneResult_eq h.battle]
      exact .inr hw
  | timeExpired => exact .inl (battleZoneClose_not_nation _)
  | resultDelayFired =>
    rw [hd] at hsound
    exact hsound.elim
  | nereidsQuarterCheck winner =>
    rw [hd] at hsound
    have hw : winner = 1 ∨ winner = 2 := hsound
    unfold BattleState.settle
    dsimp only
    rw [battleZoneResult_eq h.battle]
    refine .inr ?_
    dsimp only
    omega
  | _ => rw [hd] at hdue; cases hdue

theorem settle_of_not_settles {action : WarTickAction} (h : action.settles = false) :
    s.settle action = s := by
  cases action with
  | halfTimeResult | timeExpired | resultDelayFired | nereidsQuarterCheck => cases h
  | _ => rfl

theorem onTime_open (hT : 4 ≤ battleTime) (h : w.Sound battleTime) (hw : w.OnTime)
    (kind : BattleOpen) (zone : ℕ) :
    (w.on fun s => (s.battleZoneOpen kind zone).1).OnTime := by
  change Server.OnTime { battle := (w.battle.battleZoneOpen kind zone).1, due := w.due }
  rcases battleZoneOpen_cases w.battle kind zone with ⟨-, heq⟩ | ⟨-, _, heq⟩
  · rw [heq]
    exact hw
  · rw [heq]
    intro _ _ _ _
    have htime := h.battle.time
    have h2 : w.battle.battleTime.tdiv 2 = w.battle.battleTime / 2 :=
      Int.tdiv_eq_ediv_of_nonneg (by omega)
    refine ⟨rfl, ?_, fun _ => ?_⟩
    · change w.battle.battleTime - w.battle.battleTime < w.battle.battleTime.tdiv 2
      omega
    · change w.battle.battleTime - w.battle.battleTime < max (w.battle.battleTime.tdiv 24) 1
      omega

theorem onTime_step (hT : 4 ≤ battleTime) (h : w.Sound battleTime) (hw : w.OnTime)
    (e : WarEvent) : (w.step e).OnTime := by
  cases he : e.ofPlayers with
  | true =>
    obtain ⟨hdue, hsame⟩ := step_ofPlayers w he
    intro hopen hv hzone hact
    have hzoneId : (w.step e).battle.battleZoneId = w.battle.battleZoneId :=
      congrArg (ZONE_BATTLE_BASE + ·) hsame.battleZone
    exact undecided_sameCourse
      (hw (hsame.battleOpen.symm.trans hopen) (hsame.victory.symm.trans hv) (hzoneId ▸ hzone)
        (hdue ▸ hact)) hsame
  | false =>
    cases e with
    | tick =>
      rcases step_tick_cases w with ⟨hdue, heq⟩ | ⟨-, heq⟩
      · rw [heq]
        intro hopen hv hzone hact
        have hsame := sameWar_warTick h.battle.resultDelay
        have hopen' := hsame.battleOpen.symm.trans hopen
        have hv' := hsame.victory.symm.trans hv
        rw [hsame.battleZoneId] at hzone
        have hidle : w.due.settles = false := congrArg WarTickAction.settles hdue
        exact undecided_warTick (h.battle.time.symm ▸ hT) h.battle.resultDelay hopen' hv' hzone
          (hw hopen' hv' hzone hidle) hact
      · rw [heq]
        exact hw
    | settle =>
      intro hopen hv hzone _
      cases hdue : w.due.settles with
      | true =>
        rcases settle_decides h hdue with hclosed | hwon
        · exact absurd hopen hclosed
        · exact absurd hv hwon
      | false =>
        have heq : (w.step .settle).battle = w.battle := settle_of_not_settles hdue
        rw [heq] at hopen hv hzone ⊢
        exact hw hopen hv hzone hdue
    | openZone zone => exact onTime_open hT h hw _ zone
    | openSnow => exact onTime_open hT h hw _ 0
    | close =>
      intro hopen
      exact absurd hopen (battleZoneClose_not_nation _)
    | result winner =>
      by_cases hn : winner = 1 ∨ winner = 2
      · rw [step_result hn]
        intro _ hv
        change (w.battle.battleZoneResult winner).victory = 0 at hv
        rw [battleZoneResult_eq h.battle] at hv
        change winner = 0 at hv
        omega
      · have heq : w.step (.result winner) = w := if_neg hn
        rw [heq]
        exact hw
    | siegeOpen =>
      intro hopen
      cases hopen
    | siegeClose =>
      intro hopen
      cases hopen
    | _ => cases he

theorem onTime_run {battleTime : ℤ} (hT : 4 ≤ battleTime) (events : List WarEvent) :
    ((Server.fresh battleTime).run events).OnTime := by
  have hinv : ((Server.fresh battleTime).run events).Sound battleTime ∧
      ((Server.fresh battleTime).run events).OnTime := by
    refine Run.invariant (fun w : Server => w.Sound battleTime ∧ w.OnTime)
      (fun w e h _ => ⟨sound_step h.1 e, onTime_step hT h.1 h.2 e⟩) (Run.along_true _ events)
      ⟨sound_fresh battleTime, ?_⟩
    intro hopen
    cases hopen
  exact hinv.2

/-- What the second of a war leaves to the clock and to the banishing. -/
structure BattleState.SameClock (s s' : BattleState) : Prop where
  battleRemainingTime : s'.battleRemainingTime = s.battleRemainingTime
  banishFlag : s'.banishFlag = s.banishFlag
  banishDelay : s'.banishDelay = s.banishDelay

theorem sameClock_noticeTick (s : BattleState) (interval : ℤ) (notice : WarTickAction) :
    s.SameClock (s.noticeTick interval notice).1 := by
  obtain ⟨delay, h | h⟩ := noticeTick_cases s interval notice
  all_goals rw [h]; constructor <;> rfl

theorem sameClock_undecidedTick (s : BattleState) : s.SameClock s.undecidedTick.1 := by
  rcases undecidedTick_cases s with ⟨-, -, h⟩ | ⟨-, ⟨winner, -, h⟩ | ⟨winner, -, h⟩ | ⟨-, _, h⟩⟩
  · rw [h]
    constructor <;> rfl
  · rw [h]
    constructor <;> rfl
  · rw [h]
    constructor <;> rfl
  · rw [h]
    exact sameClock_noticeTick s _ _

theorem sameClock_battleTick (h : s.resultDelay = false) : s.SameClock s.battleTick.1 := by
  rw [battleTick_eq h]
  split_ifs
  · constructor <;> rfl
  · exact sameClock_undecidedTick s
  · exact sameClock_noticeTick s _ _

end

/-- A war of a zone that has no way to a winner, after `n` seconds. -/
structure Server.Drags (battleTime : ℤ) (zone : ℕ) (n : ℤ) (w : Server) : Prop where
  battleOpen : w.battle.battleOpen = .nationBattle
  battleZone : w.battle.battleZone = zone
  victory : w.battle.victory = 0
  banishFlag : w.battle.banishFlag = false
  resultDelay : w.battle.resultDelay = false
  battleTime : w.battle.battleTime = battleTime
  elapsed : w.battle.elapsed = n
  due : w.due = .none

theorem undecidedTick_idle {s : BattleState} (hzone : winnerTypeForZone s.battleZoneId = none) :
    s.undecidedTick.2.settles = false := by
  rcases undecidedTick_cases s with
    ⟨-, -, h⟩ | ⟨-, ⟨winner, hw, h⟩ | ⟨winner, hw, h⟩ | ⟨-, _, h⟩⟩
  · rw [h]
    rfl
  · unfold BattleState.quarterWinner at hw
    split_ifs at hw with hat
    all_goals
      rw [hat.2] at hzone
      cases hzone
  · unfold BattleState.halfTimeWinner at hw
    split_ifs at hw
    rw [hzone] at hw
    cases hw
  · rw [h]
    obtain ⟨delay, hn | hn⟩ := noticeTick_cases s _ _
    · rw [hn]
      rfl
    · rw [hn]
      rfl

theorem drags_second {battleTime n : ℤ} {zone : ℕ} {w : Server}
    (hzone : winnerTypeForZone (ZONE_BATTLE_BASE + zone) = none) (hT : 0 < battleTime)
    (hn : n + 1 ≤ battleTime.tdiv 2) (h : w.Drags battleTime zone n) :
    ((w.step .tick).step .settle).Drags battleTime zone (n + 1) := by
  have h2 : battleTime.tdiv 2 = battleTime / 2 := Int.tdiv_eq_ediv_of_nonneg hT.le
  have hremaining : w.battle.elapsed = w.battle.battleTime - w.battle.battleRemainingTime := rfl
  rw [h.elapsed, h.battleTime] at hremaining
  have helapsed : w.battle.clockTick.elapsed = w.battle.elapsed + 1 := elapsed_clockTick (by omega)
  have hlater : w.battle.clockTick.elapsed =
      w.battle.battleTime - w.battle.clockTick.battleRemainingTime := rfl
  rw [h.elapsed] at helapsed
  rw [helapsed, h.battleTime] at hlater
  have htick : w.battle.warTick = w.battle.clockTick.undecidedTick := by
    have hclock : w.battle.clockTick.resultDelay = false := h.resultDelay
    have hvictory : w.battle.clockTick.victory = 0 := h.victory
    rw [warTick_of_not_banish h.banishFlag h.battleOpen, battleTick_eq hclock,
      if_neg (by omega), if_pos hvictory]
  have hzone' : winnerTypeForZone w.battle.clockTick.battleZoneId = none := by
    rw [(sameWar_clockTick w.battle).battleZoneId, BattleState.battleZoneId, h.battleZone]
    exact hzone
  have hstep : (w.step .tick).step .settle =
      { battle := w.battle.clockTick.undecidedTick.1, due := .none } := by
    have htook : w.step .tick = { battle := w.battle.warTick.1, due := w.battle.warTick.2 } :=
      if_pos h.due
    rw [htook, htick, Server.step, settle_of_not_settles (undecidedTick_idle hzone')]
  rw [hstep]
  have hsame := (sameWar_clockTick w.battle).trans (sameWar_undecidedTick w.battle.clockTick)
  have hclock := sameClock_undecidedTick w.battle.clockTick
  refine ⟨hsame.battleOpen.trans h.battleOpen, hsame.battleZone.trans h.battleZone,
    hsame.victory.trans h.victory, hclock.banishFlag.trans h.banishFlag,
    hsame.resultDelay.trans h.resultDelay, hsame.battleTime.trans h.battleTime, ?_, rfl⟩
  rw [BattleState.elapsed, hsame.battleTime, hclock.battleRemainingTime, h.battleTime, ← hlater]

/-- Some run leads such a war to each second of its first half. -/
theorem exists_drags {battleTime : ℤ} {zone : ℕ}
    (hzone : winnerTypeForZone (ZONE_BATTLE_BASE + zone) = none) (hT : 0 < battleTime) (n : ℕ)
    (hn : (n : ℤ) ≤ battleTime.tdiv 2) :
    ∃ events, ((Server.fresh battleTime).run events).Drags battleTime zone n := by
  induction n with
  | zero =>
    refine ⟨[.openZone zone], rfl, rfl, rfl, rfl, rfl, rfl, ?_, rfl⟩
    exact Int.sub_self battleTime
  | succ n ih =>
    obtain ⟨events, h⟩ := ih (by omega)
    refine ⟨events ++ [.tick, .settle], ?_⟩
    have hnext := drags_second hzone hT (by omega) h
    rw [Server.run, Run.run_append]
    rw [Int.natCast_succ]
    exact hnext

/-- A war of at least four seconds, in a zone that has a way to a winner, has one from half of its
time on, whatever happens in between, unless the task is about to carry one out. Shorter wars and
other zones have runs that are undecided there. -/
theorem decided_by_half_time_iff (battleTime : ℤ) (zone : ℕ) :
    (∀ events, let w := (Server.fresh battleTime).run events
      w.battle.battleOpen = .nationBattle → w.battle.battleZone = zone → w.due.settles = false →
        battleTime.tdiv 2 ≤ w.battle.elapsed → w.battle.victory ≠ 0) ↔
      4 ≤ battleTime ∧ winnerTypeForZone (ZONE_BATTLE_BASE + zone) ≠ none := by
  constructor
  · intro h
    have hT : 4 ≤ battleTime := by
      by_contra hlt
      rcases lt_or_ge battleTime 2 with h2 | h2
      · -- at once it is half past
        refine h [.openZone zone] rfl rfl rfl ?_ rfl
        change battleTime.tdiv 2 ≤ battleTime - battleTime
        rw [Int.sub_self]
        rcases lt_or_ge battleTime 0 with hneg | hpos
        · have hneg' := Int.tdiv_nonneg (a := -battleTime) (b := 2) (by omega) (by decide)
          rw [Int.neg_tdiv] at hneg'
          omega
        · rw [Int.tdiv_eq_ediv_of_nonneg hpos]
          omega
      · -- at half of the time the commanders are selected instead
        have hlt' : battleTime < 4 := by omega
        interval_cases battleTime
        · exact h [.openZone zone, .tick] rfl rfl rfl (le_refl (1 : ℤ)) rfl
        · exact h [.openZone zone, .tick] rfl rfl rfl (le_refl (1 : ℤ)) rfl
    refine ⟨hT, fun hzone => ?_⟩
    have h2 : battleTime.tdiv 2 = battleTime / 2 := Int.tdiv_eq_ediv_of_nonneg (by omega)
    have hhalf : ((battleTime.tdiv 2).toNat : ℤ) = battleTime.tdiv 2 :=
      Int.toNat_of_nonneg (by omega)
    obtain ⟨events, hd⟩ := exists_drags hzone (by omega) (battleTime.tdiv 2).toNat hhalf.le
    refine h events hd.battleOpen hd.battleZone ?_ ?_ hd.victory
    · rw [hd.due]
      rfl
    · rw [hd.elapsed, hhalf]
  · rintro ⟨hT, hzone⟩ events w hopen hz hact hhalf hv
    have hsound := sound_run battleTime events
    have hzone' : winnerTypeForZone w.battle.battleZoneId ≠ none := by
      rw [BattleState.battleZoneId, hz]
      exact hzone
    have hearly := (onTime_run hT events hopen hv hzone' hact).early
    rw [hsound.battle.time] at hearly
    exact absurd hhalf (not_le.mpr hearly)

/-- With no time, a war lasts to its first tick. -/
structure Server.NoTime (w : Server) : Prop where
  due : w.due = .none ∨ w.due = .announceBanish ∨ w.due = .executeBanish ∨ w.due = .timeExpired
  war : w.battle.battleOpen = .nationBattle →
    w.due = .timeExpired ∨ w.battle.battleRemainingTime = 0 ∧ w.battle.banishDelay = 0

/-- The clock of a war without time runs out at once: the banishing waits longer than a second. -/
theorem warTick_noTime {s : BattleState} (h : s.Sound 0) (hopen : s.battleOpen = .nationBattle)
    (hremaining : s.battleRemainingTime = 0) (hdelay : s.banishDelay = 0) :
    s.warTick.2 = .timeExpired := by
  have hann : s.banAnnounceThreshold = 10 := by
    rw [BattleState.banAnnounceThreshold, h.time]
    rfl
  have hexe : s.banExecuteThreshold = 30 := by
    rw [BattleState.banExecuteThreshold, h.time]
    rfl
  have hwait : s.banishTick.2 = none ∧ s.banishTick.1.battleRemainingTime = 0 := by
    rcases banishTick_cases s with ⟨-, heq⟩ | ⟨-, ⟨hat, -⟩ | ⟨-, ⟨hat, -⟩ | ⟨-, heq⟩⟩⟩
    · rw [heq]
      exact ⟨rfl, hremaining⟩
    · rw [hann, hdelay] at hat
      exact absurd hat (by decide)
    · rw [hexe, hdelay] at hat
      exact absurd hat (by decide)
    · rw [heq]
      exact ⟨rfl, hremaining⟩
  have hsame := sameWar_banishTick s
  rcases @warTick_cases s with ⟨action, ha, -⟩ | ⟨-, ⟨-, heq⟩ | ⟨hno, -⟩⟩
  · rw [hwait.1] at ha
    cases ha
  · have hclock : s.banishTick.1.clockTick.resultDelay = false :=
      hsame.resultDelay.trans h.resultDelay
    have hout : s.banishTick.1.clockTick.battleRemainingTime ≤ 0 := by
      change max (s.banishTick.1.battleRemainingTime - 1) (-2 ^ 31) ≤ 0
      rw [hwait.2]
      decide
    rw [heq, battleTick_eq hclock, if_pos hout]
  · exact absurd hopen hno

theorem noTime_tick {w : Server} (h : w.Sound 0) (hw : w.NoTime) (hdue : w.due = .none) :
    (w.step .tick).NoTime ∧
      ((w.step .tick).battle.battleOpen = .nationBattle → (w.step .tick).due = .timeExpired) := by
  have hsame := sameWar_warTick h.battle.resultDelay
  have htook : w.step .tick = { battle := w.battle.warTick.1, due := w.battle.warTick.2 } :=
    if_pos hdue
  rw [htook]
  by_cases hopen : w.battle.battleOpen = .nationBattle
  · rcases hw.war hopen with hend | ⟨hremaining, hdelay⟩
    · rw [hdue] at hend
      cases hend
    · have hend := warTick_noTime h.battle hopen hremaining hdelay
      exact ⟨⟨.inr (.inr (.inr hend)), fun _ => .inl hend⟩, fun _ => hend⟩
  · have hclosed : w.battle.warTick.1.battleOpen ≠ .nationBattle := by
      rw [hsame.battleOpen]
      exact hopen
    refine ⟨⟨?_, fun hno => absurd hno hclosed⟩, fun hno => absurd hno hclosed⟩
    rcases @warTick_cases w.battle with ⟨action, ha, hact⟩ | ⟨-, ⟨hno, -⟩ | ⟨-, hact⟩⟩
    · rw [hact]
      rcases banishTick_action ha with rfl | rfl
      · exact .inr (.inl rfl)
      · exact .inr (.inr (.inl rfl))
    · exact absurd hno hopen
    · rw [hact]
      exact .inl rfl

theorem settle_timeExpired {w : Server} (hdue : w.due = .timeExpired) :
    (w.step .settle).battle = w.battle.battleZoneClose.1 := by
  rw [Server.step, hdue]
  rfl

/-- Settling ends a war that is over and does nothing else. -/
theorem noTime_settle_battle {w : Server} (hw : w.NoTime)
    (hopen : (w.step .settle).battle.battleOpen = .nationBattle) :
    w.due ≠ .timeExpired ∧ (w.step .settle).battle = w.battle := by
  rcases hw.due with hd | hd | hd | hd
  · exact ⟨by simp [hd], settle_of_not_settles (by rw [hd]; rfl)⟩
  · exact ⟨by simp [hd], settle_of_not_settles (by rw [hd]; rfl)⟩
  · exact ⟨by simp [hd], settle_of_not_settles (by rw [hd]; rfl)⟩
  · rw [settle_timeExpired hd] at hopen
    exact absurd hopen (battleZoneClose_not_nation _)

theorem noTime_settle {w : Server} (hw : w.NoTime) : (w.step .settle).NoTime := by
  refine ⟨.inl rfl, fun hopen => ?_⟩
  obtain ⟨hdue, heq⟩ := noTime_settle_battle hw hopen
  rw [heq] at hopen ⊢
  exact .inr ((hw.war hopen).resolve_left hdue)

theorem noTime_open {w : Server} (h : w.Sound 0) (hw : w.NoTime) (kind : BattleOpen) (zone : ℕ) :
    (w.on fun s => (s.battleZoneOpen kind zone).1).NoTime := by
  refine ⟨hw.due, ?_⟩
  change (w.battle.battleZoneOpen kind zone).1.battleOpen = .nationBattle →
    w.due = .timeExpired ∨ (w.battle.battleZoneOpen kind zone).1.battleRemainingTime = 0 ∧
      (w.battle.battleZoneOpen kind zone).1.banishDelay = 0
  rcases battleZoneOpen_cases w.battle kind zone with ⟨-, heq⟩ | ⟨-, _, heq⟩
  · rw [heq]
    exact hw.war
  · rw [heq]
    exact fun _ => .inr ⟨h.battle.time, rfl⟩

theorem noTime_step {w : Server} (h : w.Sound 0) (hw : w.NoTime) (e : WarEvent) :
    (w.step e).NoTime := by
  cases he : e.ofPlayers with
  | true =>
    obtain ⟨hdue, hsame⟩ := step_ofPlayers w he
    refine ⟨hdue.symm ▸ hw.due, fun hopen => ?_⟩
    rw [hdue, hsame.battleRemainingTime, hsame.banishDelay]
    exact hw.war (hsame.battleOpen.symm.trans hopen)
  | false =>
    cases e with
    | tick =>
      rcases step_tick_cases w with ⟨hdue, -⟩ | ⟨-, heq⟩
      · exact (noTime_tick h hw hdue).1
      · rw [heq]
        exact hw
    | settle => exact noTime_settle hw
    | openZone zone => exact noTime_open h hw _ zone
    | openSnow => exact noTime_open h hw _ 0
    | close => exact ⟨hw.due, fun hopen => absurd hopen (battleZoneClose_not_nation _)⟩
    | result winner =>
      by_cases hn : winner = 1 ∨ winner = 2
      · rw [step_result hn]
        refine ⟨hw.due, ?_⟩
        change (w.battle.battleZoneResult winner).battleOpen = .nationBattle →
          w.due = .timeExpired ∨ (w.battle.battleZoneResult winner).battleRemainingTime = 0 ∧
            (w.battle.battleZoneResult winner).banishDelay = 0
        rw [battleZoneResult_eq h.battle]
        exact fun hopen => (hw.war hopen).imp_right fun hwar => ⟨hwar.1, rfl⟩
      · have heq : w.step (.result winner) = w := if_neg hn
        rw [heq]
        exact hw
    | siegeOpen => exact ⟨hw.due, fun hno => by cases hno⟩
    | siegeClose => exact ⟨hw.due, fun hno => by cases hno⟩
    | _ => cases he

/-- A server whose wars have no time, as it starts, never comes to a second of a war: the tick after
the opening closes it. Of all actions a tick has only this one and the banishing's, so the clock names
no winner and selects no commanders. -/
theorem wars_without_time_end_at_once (events : List WarEvent) :
    let w := (Server.fresh 0).run events
    (w.due = .none ∨ w.due = .announceBanish ∨ w.due = .executeBanish ∨ w.due = .timeExpired) ∧
      (w.battle.battleOpen = .nationBattle → w.due = .timeExpired ∨ w.battle.elapsed = 0) ∧
      (w.due = .none → ((w.step .tick).step .settle).battle.battleOpen ≠ .nationBattle) := by
  intro w
  have hinv : w.Sound 0 ∧ w.NoTime := by
    refine Run.invariant (fun w : Server => w.Sound 0 ∧ w.NoTime)
      (fun w e h _ => ⟨sound_step h.1 e, noTime_step h.1 h.2 e⟩) (Run.along_true _ events)
      ⟨sound_fresh 0, .inl rfl, ?_⟩
    intro hno
    cases hno
  obtain ⟨hs, hw⟩ := hinv
  refine ⟨hw.due, fun hopen => (hw.war hopen).imp_right fun hwar => ?_, fun hdue hopen => ?_⟩
  · rw [BattleState.elapsed, hs.battle.time, hwar.1, Int.sub_self]
  · obtain ⟨hw', hend⟩ := noTime_tick hs hw hdue
    obtain ⟨hdue', heq⟩ := noTime_settle_battle hw' hopen
    rw [heq] at hopen
    exact hdue' (hend hopen)

end KoServer.War
