import KoServer.Spec.War
import Mathlib.Tactic.SplitIfs

/-! The nation war over whole runs, whichever task takes the lock next: the gates follow the
victory, a war is decided by half of its time, and what the banishing does when it is over. -/

namespace KoServer.War

section

variable {s s' : BattleState}

/-- Everything but clocks, delays and the commanders. -/
structure BattleState.SameWar (s s' : BattleState) : Prop where
  battleOpen : s'.battleOpen = s.battleOpen
  battleZone : s'.battleZone = s.battleZone
  battleZoneType : s'.battleZoneType = s.battleZoneType
  victory : s'.victory = s.victory
  battleTime : s'.battleTime = s.battleTime
  resultDelay : s'.resultDelay = s.resultDelay
  karusOpenFlag : s'.karusOpenFlag = s.karusOpenFlag
  elmoradOpenFlag : s'.elmoradOpenFlag = s.elmoradOpenFlag
  karusMonuments : s'.karusMonuments = s.karusMonuments
  elmoradMonuments : s'.elmoradMonuments = s.elmoradMonuments
  nereidsMonumentArray : s'.nereidsMonumentArray = s.nereidsMonumentArray

theorem BattleState.SameWar.refl : s.SameWar s := by constructor <;> rfl

theorem BattleState.SameWar.trans {s'' : BattleState} (h : s.SameWar s') (h' : s'.SameWar s'') :
    s.SameWar s'' :=
  ⟨h'.1.trans h.1, h'.2.trans h.2, h'.3.trans h.3, h'.4.trans h.4, h'.5.trans h.5, h'.6.trans h.6,
    h'.7.trans h.7, h'.8.trans h.8, h'.9.trans h.9, h'.10.trans h.10, h'.11.trans h.11⟩

theorem BattleState.SameWar.battleZoneId (h : s.SameWar s') : s'.battleZoneId = s.battleZoneId := by
  rw [BattleState.battleZoneId, BattleState.battleZoneId, h.battleZone]

variable (s)

theorem banishTick_cases :
    s.banishFlag = false ∧ s.banishTick = (s, none) ∨
    s.banishFlag = true ∧
      (min (s.banishDelay + 1) 32767 = s.banAnnounceThreshold.bmod (2 ^ 16) ∧
        s.banishTick =
          ({ s with banishDelay := min (s.banishDelay + 1) 32767 }, some .announceBanish) ∨
      min (s.banishDelay + 1) 32767 ≠ s.banAnnounceThreshold.bmod (2 ^ 16) ∧
        (s.banExecuteThreshold.bmod (2 ^ 16) ≤ min (s.banishDelay + 1) 32767 ∧
          s.banishTick =
            ({ s with banishFlag := false, banishDelay := 0 }, some .executeBanish) ∨
        min (s.banishDelay + 1) 32767 < s.banExecuteThreshold.bmod (2 ^ 16) ∧
          s.banishTick = ({ s with banishDelay := min (s.banishDelay + 1) 32767 }, none))) := by
  unfold BattleState.banishTick
  cases hflag : s.banishFlag with
  | false => exact .inl ⟨rfl, rfl⟩
  | true =>
    refine .inr ⟨rfl, ?_⟩
    by_cases ha : min (s.banishDelay + 1) 32767 = s.banAnnounceThreshold.bmod (2 ^ 16)
    · exact .inl ⟨ha, by simp only [if_true, if_pos ha]⟩
    · refine .inr ⟨ha, ?_⟩
      by_cases he : s.banExecuteThreshold.bmod (2 ^ 16) ≤ min (s.banishDelay + 1) 32767
      · exact .inl ⟨he, by simp only [if_true, if_neg ha, ge_iff_le, if_pos he]⟩
      · exact .inr ⟨not_le.mp he, by simp only [if_true, if_neg ha, ge_iff_le, if_neg he]⟩

theorem sameWar_banishTick : s.SameWar s.banishTick.1 := by
  rcases banishTick_cases s with ⟨-, h⟩ | ⟨-, ⟨-, h⟩ | ⟨-, ⟨-, h⟩ | ⟨-, h⟩⟩⟩
  all_goals rw [h]; constructor <;> rfl

theorem sameWar_clockTick : s.SameWar s.clockTick := by constructor <;> rfl

theorem noticeTick_cases (interval : ℤ) (notice : WarTickAction) :
    ∃ delay, s.noticeTick interval notice = ({ s with battleTimeDelay := delay }, notice) ∨
      s.noticeTick interval notice = ({ s with battleTimeDelay := delay }, .none) := by
  unfold BattleState.noticeTick
  split_ifs
  · exact ⟨_, .inl rfl⟩
  · exact ⟨_, .inr rfl⟩

/-- Undecided, the commanders come first, then a winner at a quarter and at half of the time. -/
theorem undecidedTick_cases :
    (s.commanderSelected = false ∧ max (s.battleTime.tdiv 24) 1 ≤ s.elapsed ∧
      s.undecidedTick = ({ s with commanderSelected := true }, .selectCommanders)) ∨
    (s.commanderSelected = false → s.elapsed < max (s.battleTime.tdiv 24) 1) ∧
      ((∃ winner, s.quarterWinner = some winner ∧
          s.undecidedTick = (s, .nereidsQuarterCheck winner)) ∨
        (∃ winner, s.halfTimeWinner = some winner ∧
          s.undecidedTick = (s, .halfTimeResult winner)) ∨
        s.halfTimeWinner = none ∧ ∃ interval,
          s.undecidedTick =
            s.noticeTick interval (.broadcastStatus DECLARE_BATTLE_ZONE_STATUS)) := by
  unfold BattleState.undecidedTick
  by_cases hc : s.commanderSelected = false ∧ s.elapsed ≥ max (s.battleTime.tdiv 24) 1
  · exact .inl ⟨hc.1, hc.2, if_pos hc⟩
  · refine .inr ⟨fun hsel => not_le.mp fun hle => hc ⟨hsel, hle⟩, ?_⟩
    rw [if_neg hc]
    cases s.quarterWinner with
    | some winner => exact .inl ⟨winner, rfl, rfl⟩
    | none =>
      cases s.halfTimeWinner with
      | some winner => exact .inr (.inl ⟨winner, rfl, rfl⟩)
      | none => exact .inr (.inr ⟨rfl, _, rfl⟩)

theorem sameWar_noticeTick (interval : ℤ) (notice : WarTickAction) :
    s.SameWar (s.noticeTick interval notice).1 := by
  obtain ⟨delay, h | h⟩ := noticeTick_cases s interval notice
  all_goals rw [h]; constructor <;> rfl

theorem sameWar_undecidedTick : s.SameWar s.undecidedTick.1 := by
  rcases undecidedTick_cases s with ⟨-, -, h⟩ | ⟨-, ⟨winner, -, h⟩ | ⟨winner, -, h⟩ | ⟨-, _, h⟩⟩
  · rw [h]
    constructor <;> rfl
  · rw [h]
    exact .refl
  · rw [h]
    exact .refl
  · rw [h]
    exact sameWar_noticeTick s _ _

variable {s}

/-- No result waits: nothing in the server delays one. -/
theorem battleTick_eq (h : s.resultDelay = false) :
    s.battleTick =
      if s.battleRemainingTime ≤ 0 then (s, .timeExpired)
      else if s.victory = 0 then s.undecidedTick
      else s.noticeTick (max (s.battleTime.tdiv 24) 1) .broadcastUnderAttack := by
  simp [BattleState.battleTick, BattleState.resultDelayTick, h]

theorem sameWar_battleTick (h : s.resultDelay = false) : s.SameWar s.battleTick.1 := by
  rw [battleTick_eq h]
  split_ifs
  · exact .refl
  · exact sameWar_undecidedTick s
  · exact sameWar_noticeTick s _ _

theorem warTick_cases :
    (∃ action, s.banishTick.2 = some action ∧ s.warTick = (s.banishTick.1, action)) ∨
    s.banishTick.2 = none ∧
      (s.battleOpen = .nationBattle ∧ s.warTick = s.banishTick.1.clockTick.battleTick ∨
        s.battleOpen ≠ .nationBattle ∧ s.warTick = (s.banishTick.1, .none)) := by
  have hopen := (sameWar_banishTick s).battleOpen
  unfold BattleState.warTick
  rcases hb : s.banishTick with ⟨t, _ | action⟩
  · rw [hb] at hopen
    by_cases h : s.battleOpen = .nationBattle
    · exact .inr ⟨rfl, .inl ⟨h, if_pos (hopen.trans h)⟩⟩
    · exact .inr ⟨rfl, .inr ⟨h, if_neg fun h' => h (hopen.symm.trans h')⟩⟩
  · exact .inl ⟨action, rfl, rfl⟩

theorem sameWar_warTick (h : s.resultDelay = false) : s.SameWar s.warTick.1 := by
  have hb := sameWar_banishTick s
  rcases @warTick_cases s with ⟨_, -, heq⟩ | ⟨-, ⟨-, heq⟩ | ⟨-, heq⟩⟩
  · rw [heq]
    exact hb
  · rw [heq]
    have hc := hb.trans (sameWar_clockTick s.banishTick.1)
    exact hc.trans (sameWar_battleTick (hc.resultDelay.trans h))
  · rw [heq]
    exact hb

end

def WarTickAction.Sound : WarTickAction → Prop
  | .halfTimeResult winner => winner ≤ 2
  | .nereidsQuarterCheck winner => winner = 1 ∨ winner = 2
  | .resultDelayFired _ => False
  | _ => True

/-- A gate stands open to a nation just when the other one has won. -/
structure BattleState.Sound (battleTime : ℤ) (s : BattleState) : Prop where
  time : s.battleTime = battleTime
  zoneType : s.battleZoneType = 0
  resultDelay : s.resultDelay = false
  victory : s.victory ≤ 2
  karusGate : s.karusOpenFlag = decide (s.victory = 2)
  elmoradGate : s.elmoradOpenFlag = decide (s.victory = 1)

structure Server.Sound (battleTime : ℤ) (w : Server) : Prop where
  battle : w.battle.Sound battleTime
  due : w.due.Sound

section

variable {s s' : BattleState} {battleTime : ℤ}

theorem BattleState.Sound.same (h : s.Sound battleTime) (hs : s.SameWar s') :
    s'.Sound battleTime where
  time := hs.battleTime.trans h.time
  zoneType := hs.battleZoneType.trans h.zoneType
  resultDelay := hs.resultDelay.trans h.resultDelay
  victory := hs.victory.symm ▸ h.victory
  karusGate := by rw [hs.karusOpenFlag, hs.victory, h.karusGate]
  elmoradGate := by rw [hs.elmoradOpenFlag, hs.victory, h.elmoradGate]

theorem sound_battleZoneOpen (h : s.Sound battleTime) (kind : BattleOpen) (zone : ℕ) :
    (s.battleZoneOpen kind zone).1.Sound battleTime := by
  unfold BattleState.battleZoneOpen
  split_ifs
  · exact h
  · exact ⟨h.time, rfl, rfl, Nat.zero_le 2, rfl, rfl⟩

/-- A nation battle or a snow battle is reset and the banishing begins; nothing else is closed. -/
theorem battleZoneClose_cases (s : BattleState) :
    (s.battleOpen = .nationBattle ∨ s.battleOpen = .snowBattle) ∧
      s.battleZoneClose.1 = { s.resetBattleZone with banishFlag := true } ∨
    (s.battleOpen = .noBattle ∨ s.battleOpen = .siegeBattle) ∧ s.battleZoneClose.1 = s := by
  unfold BattleState.battleZoneClose
  cases h : s.battleOpen with
  | noBattle => exact .inr ⟨.inl rfl, rfl⟩
  | nationBattle => exact .inl ⟨.inl rfl, rfl⟩
  | snowBattle => exact .inl ⟨.inr rfl, rfl⟩
  | siegeBattle => exact .inr ⟨.inr rfl, rfl⟩

theorem battleZoneClose_not_nation (s : BattleState) :
    s.battleZoneClose.1.battleOpen ≠ .nationBattle := by
  rcases battleZoneClose_cases s with ⟨-, h⟩ | ⟨hopen | hopen, h⟩
  · rw [h]
    exact BattleOpen.noConfusion
  · rw [h, hopen]
    exact BattleOpen.noConfusion
  · rw [h, hopen]
    exact BattleOpen.noConfusion

theorem sound_battleZoneClose (h : s.Sound battleTime) :
    s.battleZoneClose.1.Sound battleTime := by
  rcases battleZoneClose_cases s with ⟨-, heq⟩ | ⟨-, heq⟩
  · rw [heq]
    exact ⟨h.time, rfl, rfl, Nat.zero_le 2, rfl, rfl⟩
  · rw [heq]
    exact h

theorem battleZoneResult_eq (h : s.Sound battleTime) (nation : ℕ) :
    s.battleZoneResult nation =
      { s with
        victory := nation
        karusOpenFlag := nation = 2
        elmoradOpenFlag := nation = 1
        banishFlag := true
        banishDelay := 0 } := by
  have htype : s.battleZoneType ≠ ZONE_ARDREAM_TYPE := by
    rw [h.zoneType]
    decide
  exact if_pos htype

theorem sound_battleZoneResult (h : s.Sound battleTime) {nation : ℕ} (hn : nation ≤ 2) :
    (s.battleZoneResult nation).Sound battleTime := by
  rw [battleZoneResult_eq h]
  exact ⟨h.time, h.zoneType, h.resultDelay, hn, rfl, rfl⟩

theorem battleWinnerResult_le (s : BattleState) (winnerType : BattleWinnerType) :
    s.battleWinnerResult winnerType ≤ 2 := by
  have hkill : ∀ tied ≤ 2, s.fewerDead tied ≤ 2 := by
    intro tied htied
    unfold BattleState.fewerDead
    split_ifs
    all_goals omega
  have hnpc : ∀ tied ≤ 2, s.moreNpcs tied ≤ 2 := by
    intro tied htied
    unfold BattleState.moreNpcs
    split_ifs
    all_goals omega
  have hzero := Nat.zero_le 2
  cases winnerType with
  | npc =>
    refine hnpc _ ?_
    split_ifs
    exacts [hkill 0 hzero, hzero]
  | monument =>
    unfold BattleState.battleWinnerResult
    dsimp only
    split_ifs
    · exact one_le_two
    · exact le_rfl
    · exact hkill _ (hnpc 0 hzero)
    · exact hkill 0 hzero
  | kill =>
    refine hkill _ ?_
    split_ifs
    exacts [hnpc 0 hzero, hzero]

theorem quarterWinner_eq {winner : ℕ} (h : s.quarterWinner = some winner) :
    winner = 1 ∧ 7 ≤ s.karusMonuments ∨ winner = 2 ∧ 7 ≤ s.elmoradMonuments := by
  unfold BattleState.quarterWinner at h
  split_ifs at h with _ h1 h2
  · exact .inl ⟨(Option.some.inj h).symm, h1.1⟩
  · exact .inr ⟨(Option.some.inj h).symm, h2.2⟩

theorem halfTimeWinner_le {winner : ℕ} (h : s.halfTimeWinner = some winner) : winner ≤ 2 := by
  unfold BattleState.halfTimeWinner at h
  split_ifs at h
  obtain ⟨winnerType, -, rfl⟩ := Option.map_eq_some_iff.mp h
  exact battleWinnerResult_le s winnerType

theorem sound_noticeTick (interval : ℤ) {notice : WarTickAction} (h : notice.Sound) :
    (s.noticeTick interval notice).2.Sound := by
  obtain ⟨delay, heq | heq⟩ := noticeTick_cases s interval notice
  · rw [heq]
    exact h
  · rw [heq]
    trivial

theorem sound_undecidedTick (s : BattleState) : s.undecidedTick.2.Sound := by
  rcases undecidedTick_cases s with
    ⟨-, -, h⟩ | ⟨-, ⟨winner, hw, h⟩ | ⟨winner, hw, h⟩ | ⟨-, _, h⟩⟩
  · rw [h]
    trivial
  · rw [h]
    exact (quarterWinner_eq hw).imp And.left And.left
  · rw [h]
    exact halfTimeWinner_le hw
  · rw [h]
    exact sound_noticeTick _ trivial

theorem sound_battleTick (h : s.resultDelay = false) : s.battleTick.2.Sound := by
  rw [battleTick_eq h]
  split_ifs
  · trivial
  · exact sound_undecidedTick s
  · exact sound_noticeTick _ trivial

theorem banishTick_action {action : WarTickAction} (h : s.banishTick.2 = some action) :
    action = .announceBanish ∨ action = .executeBanish := by
  rcases banishTick_cases s with ⟨-, heq⟩ | ⟨-, ⟨-, heq⟩ | ⟨-, ⟨-, heq⟩ | ⟨-, heq⟩⟩⟩
  all_goals rw [heq] at h
  · cases h
  · exact .inl (Option.some.inj h).symm
  · exact .inr (Option.some.inj h).symm
  · cases h

theorem sound_warTick (h : s.Sound battleTime) : s.warTick.2.Sound := by
  rcases @warTick_cases s with ⟨action, ha, heq⟩ | ⟨-, ⟨-, heq⟩ | ⟨-, heq⟩⟩
  · rw [heq]
    rcases banishTick_action ha with rfl | rfl
    all_goals trivial
  · rw [heq]
    exact sound_battleTick ((sameWar_banishTick s).resultDelay.trans h.resultDelay)
  · rw [heq]
    trivial

theorem sound_settle {action : WarTickAction} (h : s.Sound battleTime) (ha : action.Sound) :
    (s.settle action).Sound battleTime := by
  cases action with
  | halfTimeResult winner =>
    unfold BattleState.settle
    dsimp only
    split_ifs
    · exact sound_battleZoneClose h
    · exact sound_battleZoneResult h ha
  | timeExpired => exact sound_battleZoneClose h
  | resultDelayFired => exact ha.elim
  | nereidsQuarterCheck winner =>
    have hw : winner ≤ 2 := by
      rcases ha with rfl | rfl
      all_goals decide
    exact sound_battleZoneResult h hw
  | _ => exact h

end

/-- Neither the clock, nor the banishing, nor the gates. -/
structure BattleState.SameCourse (s s' : BattleState) : Prop where
  battleOpen : s'.battleOpen = s.battleOpen
  battleZone : s'.battleZone = s.battleZone
  battleZoneType : s'.battleZoneType = s.battleZoneType
  victory : s'.victory = s.victory
  battleTime : s'.battleTime = s.battleTime
  battleRemainingTime : s'.battleRemainingTime = s.battleRemainingTime
  resultDelay : s'.resultDelay = s.resultDelay
  karusOpenFlag : s'.karusOpenFlag = s.karusOpenFlag
  elmoradOpenFlag : s'.elmoradOpenFlag = s.elmoradOpenFlag
  banishFlag : s'.banishFlag = s.banishFlag
  banishDelay : s'.banishDelay = s.banishDelay
  commanderSelected : s'.commanderSelected = s.commanderSelected

section

variable {s s' : BattleState} {battleTime : ℤ}

theorem BattleState.Sound.sameCourse (h : s.Sound battleTime) (hs : s.SameCourse s') :
    s'.Sound battleTime where
  time := hs.battleTime.trans h.time
  zoneType := hs.battleZoneType.trans h.zoneType
  resultDelay := hs.resultDelay.trans h.resultDelay
  victory := hs.victory.symm ▸ h.victory
  karusGate := by rw [hs.karusOpenFlag, hs.victory, h.karusGate]
  elmoradGate := by rw [hs.elmoradOpenFlag, hs.victory, h.elmoradGate]

variable (s)

theorem sameCourse_incrementWarDeath (nation : ℕ) : s.SameCourse (s.incrementWarDeath nation) := by
  unfold BattleState.incrementWarDeath
  split_ifs
  all_goals constructor <;> rfl

theorem sameCourse_incrementWarNpcKill (npcNation : ℕ) :
    s.SameCourse (s.incrementWarNpcKill npcNation) := by
  unfold BattleState.incrementWarNpcKill
  split_ifs
  all_goals constructor <;> rfl

theorem sameCourse_incrementWarFlag (nation : ℕ) : s.SameCourse (s.incrementWarFlag nation) := by
  unfold BattleState.incrementWarFlag
  split_ifs
  all_goals constructor <;> rfl

theorem sameCourse_battleMonumentProcess (killerNation : ℕ) (trapNumber : ℤ) :
    s.SameCourse (s.battleMonumentProcess killerNation trapNumber) := by
  unfold BattleState.battleMonumentProcess
  dsimp only
  split_ifs
  all_goals constructor <;> rfl

end

/-- What players do in a war, and nothing that opens, closes or ends one. -/
def WarEvent.ofPlayers : WarEvent → Bool
  | .death _ | .npcKill _ | .flag _ | .monument _ _ => true
  | _ => false

theorem step_ofPlayers (w : Server) {e : WarEvent} (he : e.ofPlayers = true) :
    (w.step e).due = w.due ∧ w.battle.SameCourse (w.step e).battle := by
  cases e with
  | death nation => exact ⟨rfl, sameCourse_incrementWarDeath w.battle nation⟩
  | npcKill npcNation => exact ⟨rfl, sameCourse_incrementWarNpcKill w.battle npcNation⟩
  | flag nation => exact ⟨rfl, sameCourse_incrementWarFlag w.battle nation⟩
  | monument killerNation trapNumber =>
    exact ⟨rfl, sameCourse_battleMonumentProcess w.battle killerNation trapNumber⟩
  | _ => cases he

theorem step_result {w : Server} {winner : ℕ} (hw : winner = 1 ∨ winner = 2) :
    w.step (.result winner) = w.on fun s => s.battleZoneResult winner := if_pos hw

/-- A tick is taken when the last one's action has been carried out. -/
theorem step_tick_cases (w : Server) :
    w.due = .none ∧
      w.step .tick = { battle := w.battle.warTick.1, due := w.battle.warTick.2 } ∨
    w.due ≠ .none ∧ w.step .tick = w := by
  by_cases h : w.due = .none
  · exact .inl ⟨h, if_pos h⟩
  · exact .inr ⟨h, if_neg h⟩

theorem sound_step {battleTime : ℤ} {w : Server} (h : w.Sound battleTime) (e : WarEvent) :
    (w.step e).Sound battleTime := by
  cases he : e.ofPlayers with
  | true =>
    obtain ⟨hdue, hsame⟩ := step_ofPlayers w he
    exact ⟨h.battle.sameCourse hsame, hdue.symm ▸ h.due⟩
  | false =>
    cases e with
    | tick =>
      rcases step_tick_cases w with ⟨-, heq⟩ | ⟨-, heq⟩
      · rw [heq]
        exact ⟨h.battle.same (sameWar_warTick h.battle.resultDelay), sound_warTick h.battle⟩
      · rw [heq]
        exact h
    | settle => exact ⟨sound_settle h.battle h.due, trivial⟩
    | openZone zone => exact ⟨sound_battleZoneOpen h.battle _ zone, h.due⟩
    | openSnow => exact ⟨sound_battleZoneOpen h.battle _ 0, h.due⟩
    | close => exact ⟨sound_battleZoneClose h.battle, h.due⟩
    | result winner =>
      by_cases hw : winner = 1 ∨ winner = 2
      · rw [step_result hw]
        exact ⟨sound_battleZoneResult h.battle (by omega), h.due⟩
      · have heq : w.step (.result winner) = w := if_neg hw
        rw [heq]
        exact h
    | siegeOpen =>
      exact ⟨⟨h.battle.1, h.battle.2, h.battle.3, h.battle.4, h.battle.5, h.battle.6⟩, h.due⟩
    | siegeClose =>
      exact ⟨⟨h.battle.1, h.battle.2, h.battle.3, h.battle.4, h.battle.5, h.battle.6⟩, h.due⟩
    | _ => cases he

theorem sound_fresh (battleTime : ℤ) : (Server.fresh battleTime).Sound battleTime :=
  ⟨⟨rfl, rfl, rfl, Nat.zero_le 2, rfl, rfl⟩, trivial⟩

theorem sound_run (battleTime : ℤ) (events : List WarEvent) :
    ((Server.fresh battleTime).run events).Sound battleTime :=
  Run.invariant (Server.Sound battleTime) (fun _ e h _ => sound_step h e)
    (Run.along_true _ events) (sound_fresh battleTime)

/-- In every state a nation's gate stands open just when the other nation has won, so the gates are
never both open, and nobody else is ever the winner. -/
theorem gates_follow_victory (battleTime : ℤ) (events : List WarEvent) :
    let s := ((Server.fresh battleTime).run events).battle
    s.victory ≤ 2 ∧ (s.karusOpenFlag = true ↔ s.victory = 2) ∧
      (s.elmoradOpenFlag = true ↔ s.victory = 1) ∧
      ¬(s.karusOpenFlag = true ∧ s.elmoradOpenFlag = true) := by
  intro s
  have h : s.Sound battleTime := (sound_run battleTime events).battle
  have hkarus : s.karusOpenFlag = true ↔ s.victory = 2 := by rw [h.karusGate, decide_eq_true_iff]
  have helmorad : s.elmoradOpenFlag = true ↔ s.victory = 1 := by
    rw [h.elmoradGate, decide_eq_true_iff]
  refine ⟨h.victory, hkarus, helmorad, ?_⟩
  rw [hkarus, helmorad]
  omega

end KoServer.War
