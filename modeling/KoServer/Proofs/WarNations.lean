import KoServer.Proofs.War

/-! The two nations: the war treats them alike, and a nation that has all the monuments of the island
really has them. -/

namespace KoServer.War

def swapNation (n : ℕ) : ℕ := if n = 1 then 2 else if n = 2 then 1 else n

def BattleState.swap (s : BattleState) : BattleState :=
  { s with
    victory := swapNation s.victory
    resultDelayVictory := swapNation s.resultDelayVictory
    karusDead := s.elmoradDead
    elmoradDead := s.karusDead
    killedKarusNpc := s.killedElmoradNpc
    killedElmoradNpc := s.killedKarusNpc
    karusMonuments := s.elmoradMonuments
    elmoradMonuments := s.karusMonuments
    karusMonumentPoint := s.elmoradMonumentPoint
    elmoradMonumentPoint := s.karusMonumentPoint
    karusFlag := s.elmoradFlag
    elmoradFlag := s.karusFlag
    karusOpenFlag := s.elmoradOpenFlag
    elmoradOpenFlag := s.karusOpenFlag
    nereidsMonumentArray := s.nereidsMonumentArray.map swapNation }

def WarTickAction.swap : WarTickAction → WarTickAction
  | .halfTimeResult winner => .halfTimeResult (swapNation winner)
  | .resultDelayFired winner => .resultDelayFired (swapNation winner)
  | .nereidsQuarterCheck winner => .nereidsQuarterCheck (swapNation winner)
  | action => action

def WarEvent.swap : WarEvent → WarEvent
  | .result winner => .result (swapNation winner)
  | .death nation => .death (swapNation nation)
  | .npcKill npcNation => .npcKill (swapNation npcNation)
  | .flag nation => .flag (swapNation nation)
  | .monument killerNation trapNumber => .monument (swapNation killerNation) trapNumber
  | e => e

def Server.swap (w : Server) : Server := { battle := w.battle.swap, due := w.due.swap }

/-- A monument falls to a nation. -/
def WarEvent.ofNations : WarEvent → Prop
  | .monument killerNation _ => killerNation = 1 ∨ killerNation = 2
  | _ => True

section

variable (s : BattleState)

theorem swapNation_eq_one (n : ℕ) : swapNation n = 1 ↔ n = 2 := by
  unfold swapNation
  split_ifs
  all_goals omega

theorem swapNation_eq_two (n : ℕ) : swapNation n = 2 ↔ n = 1 := by
  unfold swapNation
  split_ifs
  all_goals omega

theorem swapNation_eq_zero (n : ℕ) : swapNation n = 0 ↔ n = 0 := by
  by_cases h1 : n = 1
  · simp [swapNation, h1]
  · by_cases h2 : n = 2
    · simp [swapNation, h2]
    · simp [swapNation, h1, h2]

theorem swap_battleZoneOpen (kind : BattleOpen) (zone : ℕ) :
    s.swap.battleZoneOpen kind zone =
      ((s.battleZoneOpen kind zone).1.swap, (s.battleZoneOpen kind zone).2) := by
  have hopen : s.swap.isWarOpen = s.isWarOpen := rfl
  unfold BattleState.battleZoneOpen
  rw [hopen]
  split_ifs
  all_goals rfl

theorem swap_battleZoneClose : s.swap.battleZoneClose.1 = s.battleZoneClose.1.swap := by
  have hopen : s.swap.battleOpen = s.battleOpen := rfl
  unfold BattleState.battleZoneClose
  rw [hopen]
  cases s.battleOpen with
  | noBattle | nationBattle | snowBattle | siegeBattle => rfl

theorem swap_fewerDead (tied : ℕ) :
    s.swap.fewerDead (swapNation tied) = swapNation (s.fewerDead tied) := by
  change (if s.elmoradDead > s.karusDead then 2 else if s.karusDead > s.elmoradDead then 1
    else swapNation tied) = swapNation (if s.karusDead > s.elmoradDead then 2
      else if s.elmoradDead > s.karusDead then 1 else tied)
  rcases lt_trichotomy s.karusDead s.elmoradDead with h | h | h
  · rw [if_pos h, if_neg (by omega), if_pos h]
    rfl
  · simp [h]
  · rw [if_neg (by omega), if_pos h, if_pos h]
    rfl

theorem swap_moreNpcs (tied : ℕ) :
    s.swap.moreNpcs (swapNation tied) = swapNation (s.moreNpcs tied) := by
  change (if s.killedElmoradNpc > s.killedKarusNpc then 1
    else if s.killedKarusNpc > s.killedElmoradNpc then 2 else swapNation tied) =
      swapNation (if s.killedKarusNpc > s.killedElmoradNpc then 1
        else if s.killedElmoradNpc > s.killedKarusNpc then 2 else tied)
  rcases lt_trichotomy s.killedKarusNpc s.killedElmoradNpc with h | h | h
  · rw [if_pos h, if_neg (by omega), if_pos h]
    rfl
  · simp [h]
  · rw [if_neg (by omega), if_pos h, if_pos h]
    rfl

theorem swap_battleWinnerResult (winnerType : BattleWinnerType) :
    s.swap.battleWinnerResult winnerType = swapNation (s.battleWinnerResult winnerType) := by
  have hzone : s.swap.battleZoneId = s.battleZoneId := rfl
  have hdead := swap_fewerDead s 0
  have hnpcs := swap_moreNpcs s 0
  have hkill : s.swap.battleWinnerResult .kill = swapNation (s.battleWinnerResult .kill) := by
    unfold BattleState.battleWinnerResult
    dsimp only
    rw [hzone]
    split_ifs
    · rw [← swap_fewerDead, ← hnpcs]
      rfl
    · exact hdead
  cases winnerType with
  | npc =>
    unfold BattleState.battleWinnerResult
    dsimp only
    rw [hzone]
    split_ifs
    · rw [← swap_moreNpcs, ← hdead]
      rfl
    · exact hnpcs
  | monument =>
    change (if s.elmoradMonumentPoint > s.karusMonumentPoint then 1
      else if s.karusMonumentPoint > s.elmoradMonumentPoint then 2
      else s.swap.battleWinnerResult .kill) =
        swapNation (if s.karusMonumentPoint > s.elmoradMonumentPoint then 1
          else if s.elmoradMonumentPoint > s.karusMonumentPoint then 2
          else s.battleWinnerResult .kill)
    rcases lt_trichotomy s.karusMonumentPoint s.elmoradMonumentPoint with h | h | h
    · rw [if_pos h, if_neg (by omega), if_pos h]
      rfl
    · simp [h, hkill]
    · rw [if_neg (by omega), if_pos h, if_pos h]
      rfl
  | kill => exact hkill

theorem swap_battleZoneResult (nation : ℕ) :
    s.swap.battleZoneResult (swapNation nation) = (s.battleZoneResult nation).swap := by
  have htype : s.swap.battleZoneType = s.battleZoneType := rfl
  unfold BattleState.battleZoneResult
  rw [htype, decide_eq_decide.mpr (swapNation_eq_two nation),
    decide_eq_decide.mpr (swapNation_eq_one nation)]
  split_ifs
  all_goals rfl

theorem swap_banishTick :
    s.swap.banishTick = (s.banishTick.1.swap, s.banishTick.2.map WarTickAction.swap) := by
  unfold BattleState.banishTick
  by_cases hflag : s.banishFlag = true
  · have hflag' : s.swap.banishFlag = true := hflag
    rw [if_pos hflag, if_pos hflag']
    dsimp only
    by_cases ha : min (s.banishDelay + 1) 32767 = s.banAnnounceThreshold.bmod (2 ^ 16)
    · have ha' : min (s.swap.banishDelay + 1) 32767 =
          s.swap.banAnnounceThreshold.bmod (2 ^ 16) := ha
      rw [if_pos ha, if_pos ha']
      rfl
    · have ha' : ¬min (s.swap.banishDelay + 1) 32767 =
          s.swap.banAnnounceThreshold.bmod (2 ^ 16) := ha
      rw [if_neg ha, if_neg ha']
      by_cases he : min (s.banishDelay + 1) 32767 ≥ s.banExecuteThreshold.bmod (2 ^ 16)
      · have he' : min (s.swap.banishDelay + 1) 32767 ≥
            s.swap.banExecuteThreshold.bmod (2 ^ 16) := he
        rw [if_pos he, if_pos he']
        rfl
      · have he' : ¬min (s.swap.banishDelay + 1) 32767 ≥
            s.swap.banExecuteThreshold.bmod (2 ^ 16) := he
        rw [if_neg he, if_neg he']
        rfl
  · have hflag' : ¬s.swap.banishFlag = true := hflag
    rw [if_neg hflag, if_neg hflag']
    rfl

theorem swap_noticeTick (interval : ℤ) (notice : WarTickAction) (h : notice.swap = notice) :
    s.swap.noticeTick interval notice =
      ((s.noticeTick interval notice).1.swap, (s.noticeTick interval notice).2.swap) := by
  unfold BattleState.noticeTick
  change (if s.battleTimeDelay + 1 ≥ interval then _ else _) = _
  split_ifs
  · rw [h]
    rfl
  · rfl

theorem swap_quarterWinner : s.swap.quarterWinner = s.quarterWinner.map swapNation := by
  unfold BattleState.quarterWinner
  change (if s.elapsed = s.battleTime.tdiv 4 ∧ s.battleZoneId = ZONE_BATTLE4 then
    if s.elmoradMonuments ≥ 7 ∧ s.karusMonuments = 0 then some 1
    else if s.elmoradMonuments = 0 ∧ s.karusMonuments ≥ 7 then some 2 else none else none) = _
  split_ifs
  all_goals first | rfl | omega

theorem swap_halfTimeWinner : s.swap.halfTimeWinner = s.halfTimeWinner.map swapNation := by
  unfold BattleState.halfTimeWinner
  change (if s.elapsed = s.battleTime.tdiv 2 then
    (winnerTypeForZone s.battleZoneId).map s.swap.battleWinnerResult else none) = _
  split_ifs
  · rw [Option.map_map]
    exact congrArg (Option.map · _) (funext (swap_battleWinnerResult s))
  · rfl

theorem swap_undecidedTick :
    s.swap.undecidedTick = (s.undecidedTick.1.swap, s.undecidedTick.2.swap) := by
  unfold BattleState.undecidedTick
  rw [swap_quarterWinner, swap_halfTimeWinner]
  by_cases hc : s.commanderSelected = false ∧ s.elapsed ≥ max (s.battleTime.tdiv 24) 1
  · have hc' : s.swap.commanderSelected = false ∧
        s.swap.elapsed ≥ max (s.swap.battleTime.tdiv 24) 1 := hc
    rw [if_pos hc, if_pos hc']
    rfl
  · have hc' : ¬(s.swap.commanderSelected = false ∧
        s.swap.elapsed ≥ max (s.swap.battleTime.tdiv 24) 1) := hc
    rw [if_neg hc, if_neg hc']
    cases s.quarterWinner with
    | some winner => rfl
    | none =>
      cases s.halfTimeWinner with
      | some winner => rfl
      | none => exact swap_noticeTick s _ (.broadcastStatus DECLARE_BATTLE_ZONE_STATUS) rfl

theorem swap_resultDelayTick :
    s.swap.resultDelayTick =
      (s.resultDelayTick.1.swap, s.resultDelayTick.2.map WarTickAction.swap) := by
  unfold BattleState.resultDelayTick
  dsimp only
  by_cases hdelay : s.resultDelay = true
  · have hdelay' : s.swap.resultDelay = true := hdelay
    rw [if_pos hdelay, if_pos hdelay']
    by_cases hwaited : s.battleResultDelay + 1 ≥
        if s.battleTime > 0 then s.battleTime.tdiv (max (s.battleTime.tdiv 10) 1) else 10
    · have hwaited' : s.swap.battleResultDelay + 1 ≥ if s.swap.battleTime > 0 then
          s.swap.battleTime.tdiv (max (s.swap.battleTime.tdiv 10) 1) else 10 := hwaited
      rw [if_pos hwaited, if_pos hwaited']
      rfl
    · have hwaited' : ¬s.swap.battleResultDelay + 1 ≥ if s.swap.battleTime > 0 then
          s.swap.battleTime.tdiv (max (s.swap.battleTime.tdiv 10) 1) else 10 := hwaited
      rw [if_neg hwaited, if_neg hwaited']
      rfl
  · have hdelay' : ¬s.swap.resultDelay = true := hdelay
    rw [if_neg hdelay, if_neg hdelay']
    rfl

theorem swap_battleTick : s.swap.battleTick = (s.battleTick.1.swap, s.battleTick.2.swap) := by
  unfold BattleState.battleTick
  rw [swap_resultDelayTick]
  rcases s.resultDelayTick with ⟨t, _ | action⟩
  · change (if t.battleRemainingTime ≤ 0 then _ else if swapNation t.victory = 0 then _ else _) = _
    dsimp only
    rw [if_congr (swapNation_eq_zero t.victory) rfl rfl]
    split_ifs
    · rfl
    · exact swap_undecidedTick t
    · exact swap_noticeTick t _ _ rfl
  · rfl

theorem swap_warTick : s.swap.warTick = (s.warTick.1.swap, s.warTick.2.swap) := by
  unfold BattleState.warTick
  rw [swap_banishTick]
  rcases s.banishTick with ⟨t, _ | action⟩
  · change (if t.battleOpen = .nationBattle then _ else _) = _
    dsimp only
    split_ifs
    · exact swap_battleTick t.clockTick
    · rfl
  · rfl

theorem swap_settle (action : WarTickAction) :
    s.swap.settle action.swap = (s.settle action).swap := by
  cases action with
  | halfTimeResult winner =>
    change (if swapNation winner = 0 then _ else _) = _
    unfold BattleState.settle
    dsimp only
    rw [if_congr (swapNation_eq_zero winner) rfl rfl]
    split_ifs
    · exact swap_battleZoneClose s
    · exact swap_battleZoneResult s winner
  | timeExpired => exact swap_battleZoneClose s
  | resultDelayFired winner => exact swap_battleZoneResult s winner
  | nereidsQuarterCheck winner => exact swap_battleZoneResult s winner
  | _ => rfl

theorem swap_byNation {f g : BattleState → BattleState} (hf : ∀ s, g s.swap = (f s).swap)
    (hg : ∀ s, f s.swap = (g s).swap) (nation : ℕ) :
    (if swapNation nation = 1 then f s.swap else if swapNation nation = 2 then g s.swap
      else s.swap) = (if nation = 1 then f s else if nation = 2 then g s else s).swap := by
  by_cases h1 : nation = 1
  · subst h1
    exact hf s
  · by_cases h2 : nation = 2
    · subst h2
      exact hg s
    · rw [if_neg h1, if_neg h2, if_neg (mt (swapNation_eq_one nation).mp h2),
        if_neg (mt (swapNation_eq_two nation).mp h1)]

theorem swap_incrementWarDeath (nation : ℕ) :
    s.swap.incrementWarDeath (swapNation nation) = (s.incrementWarDeath nation).swap :=
  swap_byNation s
    (f := fun s => { s with karusDead := saturating 32767 (s.karusDead + 1) })
    (g := fun s => { s with elmoradDead := saturating 32767 (s.elmoradDead + 1) })
    (fun _ => rfl) (fun _ => rfl) nation

theorem swap_incrementWarNpcKill (npcNation : ℕ) :
    s.swap.incrementWarNpcKill (swapNation npcNation) = (s.incrementWarNpcKill npcNation).swap :=
  swap_byNation s
    (f := fun s => { s with killedKarusNpc := saturating 255 (s.killedKarusNpc + 1) })
    (g := fun s => { s with killedElmoradNpc := saturating 255 (s.killedElmoradNpc + 1) })
    (fun _ => rfl) (fun _ => rfl) npcNation

theorem swap_incrementWarFlag (nation : ℕ) :
    s.swap.incrementWarFlag (swapNation nation) = (s.incrementWarFlag nation).swap :=
  swap_byNation s
    (f := fun s => { s with karusFlag := saturating 255 (s.karusFlag + 1) })
    (g := fun s => { s with elmoradFlag := saturating 255 (s.elmoradFlag + 1) })
    (fun _ => rfl) (fun _ => rfl) nation

theorem swap_battleMonumentProcess {killerNation : ℕ}
    (h : killerNation = 1 ∨ killerNation = 2) (trapNumber : ℤ) :
    s.swap.battleMonumentProcess (swapNation killerNation) trapNumber =
      (s.battleMonumentProcess killerNation trapNumber).swap := by
  unfold BattleState.battleMonumentProcess
  by_cases hopen : s.battleOpen ≠ .nationBattle
  · have hopen' : s.swap.battleOpen ≠ .nationBattle := hopen
    rw [if_pos hopen, if_pos hopen']
  · have hopen' : ¬s.swap.battleOpen ≠ .nationBattle := hopen
    rw [if_neg hopen, if_neg hopen']
    rcases h with rfl | rfl
    · have hother : ¬swapNation 1 = 1 := by decide
      simp only [if_neg hother, if_true, BattleState.swap, List.map_set]
    · have hother : swapNation 2 = 1 := rfl
      have hno : ¬2 = 1 := by decide
      simp only [if_pos hother, if_neg hno, BattleState.swap, List.map_set]

end

theorem swap_due (action : WarTickAction) : action.swap = .none ↔ action = .none := by
  cases action with
  | none => exact Iff.rfl
  | _ => simp [WarTickAction.swap]

theorem swap_step (w : Server) (e : WarEvent) (h : e.ofNations) :
    (w.step e).swap = w.swap.step e.swap := by
  cases e with
  | tick =>
    change (w.step .tick).swap = w.swap.step .tick
    by_cases hdue : w.due = .none
    · have htook : w.step .tick = { battle := w.battle.warTick.1, due := w.battle.warTick.2 } :=
        if_pos hdue
      have htook' : w.swap.step .tick =
          { battle := w.battle.swap.warTick.1, due := w.battle.swap.warTick.2 } :=
        if_pos ((swap_due w.due).mpr hdue)
      rw [htook, htook', swap_warTick]
      rfl
    · have hleft : w.step .tick = w := if_neg hdue
      have hleft' : w.swap.step .tick = w.swap := if_neg (mt (swap_due w.due).mp hdue)
      rw [hleft, hleft']
  | settle => exact congrArg (Server.mk · .none) (swap_settle w.battle w.due).symm
  | openZone zone =>
    exact congrArg (fun r => Server.mk r.1 w.due.swap)
      (swap_battleZoneOpen w.battle .nationBattle zone).symm
  | openSnow =>
    exact congrArg (fun r => Server.mk r.1 w.due.swap)
      (swap_battleZoneOpen w.battle .snowBattle 0).symm
  | close => exact congrArg (Server.mk · w.due.swap) (swap_battleZoneClose w.battle).symm
  | result winner =>
    by_cases hw : winner = 1 ∨ winner = 2
    · have hw' : swapNation winner = 1 ∨ swapNation winner = 2 := by
        rw [swapNation_eq_one, swapNation_eq_two]
        exact hw.symm
      rw [step_result hw, WarEvent.swap, step_result hw']
      exact congrArg (Server.mk · w.due.swap) (swap_battleZoneResult w.battle winner).symm
    · have hw' : ¬(swapNation winner = 1 ∨ swapNation winner = 2) := by
        rw [swapNation_eq_one, swapNation_eq_two]
        exact fun h => hw h.symm
      have hleft : w.step (.result winner) = w := if_neg hw
      have hleft' : w.swap.step (.result (swapNation winner)) = w.swap := if_neg hw'
      rw [hleft, WarEvent.swap, hleft']
  | death nation =>
    exact congrArg (Server.mk · w.due.swap) (swap_incrementWarDeath w.battle nation).symm
  | npcKill npcNation =>
    exact congrArg (Server.mk · w.due.swap) (swap_incrementWarNpcKill w.battle npcNation).symm
  | flag nation =>
    exact congrArg (Server.mk · w.due.swap) (swap_incrementWarFlag w.battle nation).symm
  | monument killerNation trapNumber =>
    exact congrArg (Server.mk · w.due.swap)
      (swap_battleMonumentProcess w.battle h trapNumber).symm
  | siegeOpen => rfl
  | siegeClose => rfl

theorem swap_action (w : Server) (e : WarEvent) :
    w.swap.action e.swap = (w.action e).map WarTickAction.swap := by
  have htick : e.swap = .tick ↔ e = .tick := by
    cases e with
    | tick => exact Iff.rfl
    | _ => simp [WarEvent.swap]
  unfold Server.action
  by_cases h : e = .tick ∧ w.due = .none
  · rw [if_pos h, if_pos ⟨htick.mpr h.1, (swap_due w.due).mpr h.2⟩]
    exact congrArg (fun r => some r.2) (swap_warTick w.battle)
  · rw [if_neg h, if_neg fun h' => h ⟨htick.mp h'.1, (swap_due w.due).mp h'.2⟩]
    rfl

/-- The war treats the nations alike: where they change places in all that happens, they change places
in every state and in every action of a tick, so no rule favours one of them. -/
theorem nations_are_alike (battleTime : ℤ) (events : List WarEvent)
    (h : ∀ e ∈ events, e.ofNations) :
    ((Server.fresh battleTime).run events).swap =
        (Server.fresh battleTime).run (events.map WarEvent.swap) ∧
      Run.outputs Server.step Server.action (Server.fresh battleTime) (events.map WarEvent.swap) =
        (Run.outputs Server.step Server.action (Server.fresh battleTime) events).map
          WarTickAction.swap := by
  have hfresh : (Server.fresh battleTime).swap = Server.fresh battleTime := rfl
  have hrun : (Run.run Server.step (Server.fresh battleTime) events).swap =
      Run.run Server.step (Server.fresh battleTime).swap (events.map WarEvent.swap) :=
    Run.run_hom Server.swap WarEvent.swap WarEvent.ofNations swap_step h
  have hactions := Run.outputs_hom Server.swap WarEvent.swap WarTickAction.swap WarEvent.ofNations
    swap_step (fun w e _ => swap_action w e) (s := Server.fresh battleTime) h
  rw [hfresh] at hrun hactions
  exact ⟨hrun, hactions⟩

theorem nations_of_a_monument_are_alike :
    ((Server.fresh 8).run [.openZone 4, .monument 1 3, .death 2]).swap =
        (Server.fresh 8).run ([.openZone 4, .monument 1 3, .death 2].map WarEvent.swap) ∧
      Run.outputs Server.step Server.action (Server.fresh 8)
          ([.openZone 4, .monument 1 3, .death 2].map WarEvent.swap) =
        (Run.outputs Server.step Server.action (Server.fresh 8)
          [.openZone 4, .monument 1 3, .death 2]).map WarTickAction.swap :=
  nations_are_alike 8 [.openZone 4, .monument 1 3, .death 2]
    (by simp [WarEvent.ofNations])

/-- A nation has at least the monuments that are counted for it. -/
structure BattleState.Counted (s : BattleState) : Prop where
  length : s.nereidsMonumentArray.length = 7
  karus : s.karusMonuments ≤ s.nereidsMonumentArray.count 1
  elmorad : s.elmoradMonuments ≤ s.nereidsMonumentArray.count 2

/-- A monument falls to a nation that does not have it. -/
def Captures (w : Server) : WarEvent → Prop
  | .monument killerNation trapNumber =>
    (killerNation = 1 ∨ killerNation = 2) ∧
      ∃ owner, w.battle.nereidsMonumentArray[BattleState.monumentIndex trapNumber]? = some owner ∧
        owner ≠ killerNation
  | _ => True

section

variable {s : BattleState}

theorem counted_of_same {s' : BattleState} (h : s.Counted)
    (hkarus : s'.karusMonuments = s.karusMonuments)
    (helmorad : s'.elmoradMonuments = s.elmoradMonuments)
    (harray : s'.nereidsMonumentArray = s.nereidsMonumentArray) : s'.Counted :=
  ⟨harray ▸ h.length, hkarus ▸ harray ▸ h.karus, helmorad ▸ harray ▸ h.elmorad⟩

theorem counted_reset {s' : BattleState} (hkarus : s'.karusMonuments = 0)
    (helmorad : s'.elmoradMonuments = 0) (harray : s'.nereidsMonumentArray = List.replicate 7 0) :
    s'.Counted :=
  ⟨by rw [harray]; rfl, by rw [hkarus]; exact Nat.zero_le _, by rw [helmorad]; exact Nat.zero_le _⟩

/-- A captured entry is one more for its new owner, and at most one less for any other. -/
theorem count_set_owner {array : List ℕ} {i owner killer : ℕ} (howner : array[i]? = some owner)
    (hne : owner ≠ killer) (other : ℕ) (hother : other ≠ killer) :
    (array.set i killer).count killer = array.count killer + 1 ∧
      array.count other - 1 ≤ (array.set i killer).count other := by
  obtain ⟨hi, hget⟩ := List.getElem?_eq_some_iff.mp howner
  rw [List.count_set hi, List.count_set hi, hget]
  constructor
  · simp [hne]
  · by_cases h : owner = other
    · simp [h, hother.symm]
    · simp [h, hother.symm]

theorem counted_battleMonumentProcess (h : s.Counted) {killerNation : ℕ} {trapNumber : ℤ}
    {owner : ℕ} (hk : killerNation = 1 ∨ killerNation = 2)
    (howner : s.nereidsMonumentArray[BattleState.monumentIndex trapNumber]? = some owner)
    (hne : owner ≠ killerNation) : (s.battleMonumentProcess killerNation trapNumber).Counted := by
  unfold BattleState.battleMonumentProcess
  by_cases hopen : s.battleOpen ≠ .nationBattle
  · rw [if_pos hopen]
    exact h
  · rw [if_neg hopen]
    rcases hk with rfl | rfl
    · obtain ⟨hmore, hless⟩ := count_set_owner howner hne 2 (by decide)
      have hkarus := h.karus
      have helmorad := h.elmorad
      refine ⟨(List.length_set ..).trans h.length, ?_, ?_⟩
      · change saturating 255 (s.karusMonuments + 1) ≤ List.count 1 (List.set _ _ 1)
        unfold saturating
        omega
      · change s.elmoradMonuments - 1 ≤ List.count 2 (List.set _ _ 1)
        omega
    · obtain ⟨hmore, hless⟩ := count_set_owner howner hne 1 (by decide)
      have hkarus := h.karus
      have helmorad := h.elmorad
      refine ⟨(List.length_set ..).trans h.length, ?_, ?_⟩
      · change s.karusMonuments - 1 ≤ List.count 1 (List.set _ _ 2)
        omega
      · change saturating 255 (s.elmoradMonuments + 1) ≤ List.count 2 (List.set _ _ 2)
        unfold saturating
        omega

theorem counted_battleZoneClose (h : s.Counted) : s.battleZoneClose.1.Counted := by
  rcases battleZoneClose_cases s with ⟨-, heq⟩ | ⟨-, heq⟩
  · rw [heq]
    exact counted_reset rfl rfl rfl
  · rw [heq]
    exact h

theorem counted_battleZoneResult (h : s.Counted) (nation : ℕ) :
    (s.battleZoneResult nation).Counted := by
  unfold BattleState.battleZoneResult
  split_ifs
  all_goals exact counted_of_same h rfl rfl rfl

theorem counted_battleZoneOpen (h : s.Counted) (kind : BattleOpen) (zone : ℕ) :
    (s.battleZoneOpen kind zone).1.Counted := by
  unfold BattleState.battleZoneOpen
  split_ifs
  · exact h
  · exact counted_reset rfl rfl rfl

theorem counted_settle (h : s.Counted) (action : WarTickAction) : (s.settle action).Counted := by
  cases action with
  | halfTimeResult winner =>
    unfold BattleState.settle
    dsimp only
    split_ifs
    · exact counted_battleZoneClose h
    · exact counted_battleZoneResult h winner
  | timeExpired => exact counted_battleZoneClose h
  | resultDelayFired winner => exact counted_battleZoneResult h winner
  | nereidsQuarterCheck winner => exact counted_battleZoneResult h winner
  | _ => exact h

end

theorem counted_step {battleTime : ℤ} {w : Server} {e : WarEvent} (hs : w.Sound battleTime)
    (h : w.battle.Counted) (he : Captures w e) : (w.step e).battle.Counted := by
  cases e with
  | tick =>
    rcases step_tick_cases w with ⟨-, heq⟩ | ⟨-, heq⟩
    · have hsame := sameWar_warTick hs.battle.resultDelay
      rw [heq]
      exact counted_of_same h hsame.karusMonuments hsame.elmoradMonuments hsame.nereidsMonumentArray
    · rw [heq]
      exact h
  | settle => exact counted_settle h w.due
  | openZone zone => exact counted_battleZoneOpen h _ zone
  | openSnow => exact counted_battleZoneOpen h _ 0
  | close => exact counted_battleZoneClose h
  | result winner =>
    unfold Server.step
    dsimp only
    split_ifs
    · exact counted_battleZoneResult h winner
    · exact h
  | monument killerNation trapNumber =>
    obtain ⟨hk, owner, howner, hne⟩ := he
    exact counted_battleMonumentProcess h hk howner hne
  | death nation =>
    change (w.battle.incrementWarDeath nation).Counted
    unfold BattleState.incrementWarDeath
    split_ifs
    all_goals exact counted_of_same h rfl rfl rfl
  | npcKill npcNation =>
    change (w.battle.incrementWarNpcKill npcNation).Counted
    unfold BattleState.incrementWarNpcKill
    split_ifs
    all_goals exact counted_of_same h rfl rfl rfl
  | flag nation =>
    change (w.battle.incrementWarFlag nation).Counted
    unfold BattleState.incrementWarFlag
    split_ifs
    all_goals exact counted_of_same h rfl rfl rfl
  | siegeOpen => exact counted_of_same h rfl rfl rfl
  | siegeClose => exact counted_of_same h rfl rfl rfl

/-- The island is decided at a quarter by the count of its monuments. -/
theorem quarter_of_warTick {battleTime : ℤ} {s : BattleState} (h : s.Sound battleTime) {winner : ℕ}
    (hact : s.warTick.2 = .nereidsQuarterCheck winner) :
    winner = 1 ∧ 7 ≤ s.karusMonuments ∨ winner = 2 ∧ 7 ≤ s.elmoradMonuments := by
  have hsame := sameWar_banishTick s
  rcases @warTick_cases s with ⟨action, ha, heq⟩ | ⟨-, ⟨-, heq⟩ | ⟨-, heq⟩⟩
  · rw [heq] at hact
    rcases banishTick_action ha with rfl | rfl
    all_goals cases hact
  · have hdelay : s.banishTick.1.clockTick.resultDelay = false :=
      hsame.resultDelay.trans h.resultDelay
    rw [heq, battleTick_eq hdelay] at hact
    split_ifs at hact
    · rcases undecidedTick_cases s.banishTick.1.clockTick with
        ⟨-, -, hu⟩ | ⟨-, ⟨w, hw, hu⟩ | ⟨w, -, hu⟩ | ⟨-, _, hu⟩⟩
      · rw [hu] at hact
        cases hact
      · rw [hu] at hact
        cases hact
        have hquarter := quarterWinner_eq hw
        rw [← hsame.karusMonuments, ← hsame.elmoradMonuments]
        exact hquarter
      · rw [hu] at hact
        cases hact
      · rw [hu] at hact
        obtain ⟨delay, hn | hn⟩ := noticeTick_cases s.banishTick.1.clockTick _ _
        all_goals
          rw [hn] at hact
          cases hact
    · obtain ⟨delay, hn | hn⟩ := noticeTick_cases s.banishTick.1.clockTick _ _
      all_goals
        rw [hn] at hact
        cases hact
  · rw [heq] at hact
    cases hact

/-- Where monuments only fall to nations that do not have them, the island is decided at a quarter of
the time for no nation but one that has all seven. The counts may be too low, since each capture takes
one from the other side whoever had the monument, but they are never too high. -/
theorem island_winner_has_all (battleTime : ℤ) (events : List WarEvent)
    (hcaptures : Run.Along Server.step Captures (Server.fresh battleTime) events) (winner : ℕ)
    (hact : ((Server.fresh battleTime).run events).battle.warTick.2 =
      .nereidsQuarterCheck winner) :
    ((Server.fresh battleTime).run events).battle.nereidsMonumentArray =
      List.replicate 7 winner := by
  have hcounted : ((Server.fresh battleTime).run events).Sound battleTime ∧
      ((Server.fresh battleTime).run events).battle.Counted :=
    Run.invariant (fun w : Server => w.Sound battleTime ∧ w.battle.Counted)
      (fun w e h he => ⟨sound_step h.1 e, counted_step h.1 h.2 he⟩) hcaptures
      ⟨sound_fresh battleTime, counted_reset rfl rfl rfl⟩
  obtain ⟨hsound, hcounted⟩ := hcounted
  have hlength := hcounted.length
  refine List.eq_replicate_iff.mpr ⟨hlength, ?_⟩
  rcases quarter_of_warTick hsound.battle hact with ⟨rfl, hseven⟩ | ⟨rfl, hseven⟩
  · have hall := List.count_eq_length.mp
      (le_antisymm List.count_le_length (hlength.trans_le (hseven.trans hcounted.karus)))
    exact fun owner hmem => (hall owner hmem).symm
  · have hall := List.count_eq_length.mp
      (le_antisymm List.count_le_length (hlength.trans_le (hseven.trans hcounted.elmorad)))
    exact fun owner hmem => (hall owner hmem).symm

/-- El Morad takes a monument that nobody had, and the one of Karus is no longer counted. -/
example :
    let s := ((Server.fresh 8).run [.openZone 4, .monument 1 1, .monument 2 2]).battle
    s.nereidsMonumentArray = [1, 2, 0, 0, 0, 0, 0] ∧ s.karusMonuments = 0 := by
  decide

/-- A war of eight seconds on the island, whose monuments fall to one nation after the other. -/
def islandEvents : List WarEvent :=
  [.openZone 4, .monument 1 1, .monument 2 1, .monument 2 2, .monument 2 3, .monument 2 4,
    .monument 2 5, .monument 2 6, .monument 2 7, .tick, .settle]

theorem island_falls_to_one_nation :
    ((Server.fresh 8).run islandEvents).battle.nereidsMonumentArray = List.replicate 7 2 := by
  refine island_winner_has_all 8 islandEvents ?_ 2 rfl
  refine ⟨trivial, ⟨.inl rfl, 0, rfl, by decide⟩, ⟨.inr rfl, 1, rfl, by decide⟩,
    ⟨.inr rfl, 0, rfl, by decide⟩, ⟨.inr rfl, 0, rfl, by decide⟩, ⟨.inr rfl, 0, rfl, by decide⟩,
    ⟨.inr rfl, 0, rfl, by decide⟩, ⟨.inr rfl, 0, rfl, by decide⟩, ⟨.inr rfl, 0, rfl, by decide⟩,
    trivial, trivial, trivial⟩

end KoServer.War
