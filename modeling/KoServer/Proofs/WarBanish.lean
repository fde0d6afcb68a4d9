import KoServer.Proofs.WarCourse

/-! The banishing: what its ticks do after a war, and the time that it takes out of a war. -/

namespace KoServer.War

section

variable {s : BattleState}

/-- In a war of less than forty-five days the thresholds keep their sixteen bits and their order. -/
theorem ban_thresholds (hT : s.battleTime < 120 * 32768) :
    s.banAnnounceThreshold.bmod (2 ^ 16) = s.banAnnounceThreshold ∧
      s.banExecuteThreshold.bmod (2 ^ 16) = s.banExecuteThreshold ∧
      1 ≤ s.banAnnounceThreshold ∧ s.banAnnounceThreshold < s.banExecuteThreshold ∧
      s.banExecuteThreshold ≤ 32767 := by
  unfold BattleState.banAnnounceThreshold BattleState.banExecuteThreshold
  by_cases hpos : s.battleTime > 0
  · rw [if_pos hpos, if_pos hpos, Int.tdiv_eq_ediv_of_nonneg hpos.le,
      Int.tdiv_eq_ediv_of_nonneg hpos.le, Int.bmod_def, Int.bmod_def]
    refine ⟨?_, ?_, ?_, ?_, ?_⟩
    all_goals omega
  · rw [if_neg hpos, if_neg hpos]
    decide

/-- A banishing that has not been carried out has not waited long enough. -/
def BattleState.Waiting (s : BattleState) : Prop :=
  s.banishFlag = true → 0 ≤ s.banishDelay ∧ s.banishDelay < s.banExecuteThreshold

theorem banishTick_of_waiting (hT : s.battleTime < 120 * 32768) (h : s.Waiting) :
    s.banishFlag = false ∧ s.banishTick = (s, none) ∨
    s.banishFlag = true ∧
      (s.banishDelay + 1 = s.banAnnounceThreshold ∧
        s.banishTick = ({ s with banishDelay := s.banishDelay + 1 }, some .announceBanish) ∨
      s.banishDelay + 1 ≠ s.banAnnounceThreshold ∧ s.banishDelay + 1 = s.banExecuteThreshold ∧
        s.banishTick = ({ s with banishFlag := false, banishDelay := 0 }, some .executeBanish) ∨
      s.banishDelay + 1 ≠ s.banAnnounceThreshold ∧ s.banishDelay + 1 < s.banExecuteThreshold ∧
        s.banishTick = ({ s with banishDelay := s.banishDelay + 1 }, none)) := by
  obtain ⟨hann, hexe, -, -, hmax⟩ := ban_thresholds hT
  rcases banishTick_cases s with hno | ⟨hflag, hrest⟩
  · exact .inl hno
  · obtain ⟨hnonneg, hlt⟩ := h hflag
    have hdelay : min (s.banishDelay + 1) 32767 = s.banishDelay + 1 := by omega
    rw [hann, hexe, hdelay] at hrest
    refine .inr ⟨hflag, ?_⟩
    rcases hrest with hannounce | ⟨hne, ⟨hge, heq⟩ | ⟨hlt', heq⟩⟩
    · exact .inl hannounce
    · exact .inr (.inl ⟨hne, by omega, heq⟩)
    · exact .inr (.inr ⟨hne, hlt', heq⟩)

theorem warTick_of_not_nation (h : s.battleOpen ≠ .nationBattle) :
    s.warTick = (s.banishTick.1, s.banishTick.2.getD .none) := by
  rcases @warTick_cases s with ⟨action, ha, heq⟩ | ⟨hno, ⟨hnation, -⟩ | ⟨-, heq⟩⟩
  · rw [heq, ha]
    rfl
  · exact absurd hnation h
  · rw [heq, hno]
    rfl

def banishAction (s : BattleState) (n : ℕ) : WarTickAction :=
  if (n : ℤ) + 1 = s.banAnnounceThreshold then .announceBanish
  else if (n : ℤ) + 1 = s.banExecuteThreshold then .executeBanish
  else .none

end

/-- Nobody opens a war, and nobody names a winner. -/
def WarEvent.quiet : WarEvent → Bool
  | .openZone _ | .openSnow | .result _ => false
  | _ => true

/-- The actions that close the war when they are carried out; the others of them name a winner. -/
def WarTickAction.closes : WarTickAction → Bool
  | .timeExpired => true
  | .halfTimeResult winner => winner = 0
  | _ => false

/-- After `n` ticks without a war the banishing has waited so long, or is over. -/
structure Server.Lapsed (battleTime : ℤ) (n : ℕ) (w : Server) : Prop where
  battleTime : w.battle.battleTime = battleTime
  battleOpen : w.battle.battleOpen = .noBattle ∨ w.battle.battleOpen = .siegeBattle
  due : w.due.settles = true → w.due.closes = true
  banish : w.battle.banishFlag = true ∧ w.battle.banishDelay = n ∧
      (n : ℤ) < w.battle.banExecuteThreshold ∨
    w.battle.banishFlag = false ∧ w.battle.banExecuteThreshold ≤ n

section

variable {w : Server} {battleTime : ℤ} {n : ℕ}

theorem not_nation_of_lapsed (h : w.Lapsed battleTime n) :
    w.battle.battleOpen ≠ .nationBattle := by
  rcases h.battleOpen with hopen | hopen
  all_goals
    rw [hopen]
    exact BattleOpen.noConfusion

theorem banExecuteThreshold_congr {s s' : BattleState} (h : s'.battleTime = s.battleTime) :
    s'.banExecuteThreshold = s.banExecuteThreshold := by
  rw [BattleState.banExecuteThreshold, BattleState.banExecuteThreshold, h]

theorem banAnnounceThreshold_congr {s s' : BattleState} (h : s'.battleTime = s.battleTime) :
    s'.banAnnounceThreshold = s.banAnnounceThreshold := by
  rw [BattleState.banAnnounceThreshold, BattleState.banAnnounceThreshold, h]

theorem banishAction_congr {s s' : BattleState} (h : s'.battleTime = s.battleTime) (n : ℕ) :
    banishAction s' n = banishAction s n := by
  rw [banishAction, banishAction, banExecuteThreshold_congr h, banAnnounceThreshold_congr h]

theorem lapsed_tick (hT : battleTime < 120 * 32768) (h : w.Lapsed battleTime n) :
    w.battle.warTick.2 = banishAction w.battle n ∧
      Server.Lapsed battleTime (n + 1) { battle := w.battle.warTick.1, due := w.battle.warTick.2 } := by
  have hT' : w.battle.battleTime < 120 * 32768 := h.battleTime.symm ▸ hT
  obtain ⟨-, -, -, horder, -⟩ := ban_thresholds hT'
  have hbanish := h.banish
  have hwait : w.battle.banishFlag = true →
      w.battle.banishDelay = n ∧ (n : ℤ) < w.battle.banExecuteThreshold := by
    intro hflag
    rw [hflag] at hbanish
    rcases hbanish with ⟨-, hdelay⟩ | ⟨hno, -⟩
    · exact hdelay
    · cases hno
  have hwaiting : w.battle.Waiting := by
    intro hflag
    have hdelay := hwait hflag
    omega
  have htick := warTick_of_not_nation (not_nation_of_lapsed h)
  unfold banishAction
  rcases banishTick_of_waiting hT' hwaiting with
    ⟨hflag, heq⟩ | ⟨hflag, ⟨hat, heq⟩ | ⟨hne, hat, heq⟩ | ⟨hne, hlt, heq⟩⟩
  · rw [hflag] at hbanish
    obtain ⟨hno, -⟩ | ⟨-, hover⟩ := hbanish
    · cases hno
    · rw [htick, heq, if_neg (by omega), if_neg (by omega)]
      exact ⟨rfl, h.battleTime, h.battleOpen, nofun, .inr ⟨hflag, by push_cast; omega⟩⟩
  · have hdelay := (hwait hflag).1
    rw [htick, heq, if_pos (by omega)]
    refine ⟨rfl, h.battleTime, h.battleOpen, nofun, .inl ⟨hflag, ?_, ?_⟩⟩
    · dsimp only
      omega
    · change ((n + 1 : ℕ) : ℤ) < w.battle.banExecuteThreshold
      omega
  · have hdelay := (hwait hflag).1
    rw [htick, heq, if_neg (by omega), if_pos (by omega)]
    refine ⟨rfl, h.battleTime, h.battleOpen, nofun, .inr ⟨rfl, ?_⟩⟩
    change w.battle.banExecuteThreshold ≤ ((n + 1 : ℕ) : ℤ)
    omega
  · have hdelay := (hwait hflag).1
    rw [htick, heq, if_neg (by omega), if_neg (by omega)]
    refine ⟨rfl, h.battleTime, h.battleOpen, nofun, .inl ⟨hflag, ?_, ?_⟩⟩
    · dsimp only
      omega
    · change ((n + 1 : ℕ) : ℤ) < w.battle.banExecuteThreshold
      omega

theorem settle_of_closes {s : BattleState} {action : WarTickAction} (h : action.closes = true) :
    s.settle action = s.battleZoneClose.1 := by
  cases action with
  | halfTimeResult winner => exact if_pos (of_decide_eq_true h)
  | timeExpired => rfl
  | _ => cases h

theorem ne_tick_of_ofPlayers {e : WarEvent} (hp : e.ofPlayers = true) : e ≠ .tick := by
  rintro rfl
  cases hp

theorem lapsed_ofPlayers {e : WarEvent} (hp : e.ofPlayers = true) (h : w.Lapsed battleTime n) :
    (w.step e).Lapsed battleTime n := by
  obtain ⟨hdue, hsame⟩ := step_ofPlayers w hp
  refine ⟨hsame.battleTime.trans h.battleTime, hsame.battleOpen.symm ▸ h.battleOpen,
    hdue.symm ▸ h.due, ?_⟩
  rw [hsame.banishFlag, hsame.banishDelay, banExecuteThreshold_congr hsame.battleTime]
  exact h.banish

theorem battleZoneClose_of_lapsed (h : w.Lapsed battleTime n) :
    w.battle.battleZoneClose.1 = w.battle := by
  rcases battleZoneClose_cases w.battle with ⟨hopen | hopen, -⟩ | ⟨-, heq⟩
  · exact absurd hopen (not_nation_of_lapsed h)
  · rcases h.battleOpen with hno | hsiege
    · rw [hno] at hopen
      cases hopen
    · rw [hsiege] at hopen
      cases hopen
  · exact heq

theorem lapsed_step (hT : battleTime < 120 * 32768) {e : WarEvent} (he : e.quiet = true)
    (h : w.Lapsed battleTime n) :
    w.action e = none ∧ (w.step e).Lapsed battleTime n ∨
      w.action e = some (banishAction { battleTime := battleTime } n) ∧
        (w.step e).Lapsed battleTime (n + 1) := by
  have hidle : e ≠ .tick → w.action e = none := fun hne => if_neg fun hboth => hne hboth.1
  have hclosed := battleZoneClose_of_lapsed h
  cases hp : e.ofPlayers with
  | true => exact .inl ⟨hidle (ne_tick_of_ofPlayers hp), lapsed_ofPlayers hp h⟩
  | false =>
    cases e with
    | tick =>
      rcases step_tick_cases w with ⟨hdue, heq⟩ | ⟨hdue, heq⟩
      · obtain ⟨hact, hnext⟩ := lapsed_tick hT h
        refine .inr ⟨?_, heq ▸ hnext⟩
        rw [← banishAction_congr (s := { battleTime := battleTime }) h.battleTime, ← hact]
        exact if_pos ⟨rfl, hdue⟩
      · refine .inl ⟨if_neg fun hboth => hdue hboth.2, ?_⟩
        rw [heq]
        exact h
    | settle =>
      refine .inl ⟨hidle (by simp), ?_⟩
      have heq : (w.step .settle).battle = w.battle := by
        cases hdue : w.due.settles with
        | false => exact settle_of_not_settles hdue
        | true => exact (settle_of_closes (h.due hdue)).trans hclosed
      exact ⟨heq ▸ h.battleTime, heq ▸ h.battleOpen, nofun, heq ▸ h.banish⟩
    | close =>
      refine .inl ⟨hidle (by simp), ?_⟩
      have heq : w.step .close = w := by
        rw [Server.step, Server.on, hclosed]
      rw [heq]
      exact h
    | siegeOpen => exact .inl ⟨hidle (by simp), h.battleTime, .inr rfl, h.due, h.banish⟩
    | siegeClose => exact .inl ⟨hidle (by simp), h.battleTime, .inl rfl, h.due, h.banish⟩
    | openZone | openSnow | result => cases he
    | _ => cases hp

theorem lapsed_of_closed (h : w.battle.battleTime = battleTime)
    (hexecute : 0 < ({ battleTime := battleTime } : BattleState).banExecuteThreshold)
    (hopen : w.battle.battleOpen = .nationBattle ∨ w.battle.battleOpen = .snowBattle)
    {due : WarTickAction} (hdue : due.settles = true → due.closes = true) :
    Server.Lapsed battleTime 0 { battle := w.battle.battleZoneClose.1, due := due } := by
  rcases battleZoneClose_cases w.battle with ⟨-, heq⟩ | ⟨hno, -⟩
  · rw [heq]
    exact ⟨h, .inl rfl, hdue, .inl ⟨rfl, rfl, hexecute.trans_eq
      (banExecuteThreshold_congr (s := { battleTime := battleTime }) h).symm⟩⟩
  · rcases hopen with hopen | hopen
    all_goals
      rw [hopen] at hno
      obtain hno | hno := hno <;> cases hno

end

/-- After the closing of a war, by a command, by its time or by a draw, the ticks announce the banishing
once and carry it out once, each at its threshold, and nothing else, whatever players and the siege do
in between, as long as no war is opened and no winner is named or about to be. -/
theorem banish_trace {battleTime : ℤ} (hT : battleTime < 120 * 32768)
    (before after : List WarEvent) (closing : WarEvent)
    (hopen : let s := ((Server.fresh battleTime).run before).battle
      s.battleOpen = .nationBattle ∨ s.battleOpen = .snowBattle)
    (hclosing : let w := (Server.fresh battleTime).run before
      closing = .close ∧ (w.due.settles = true → w.due.closes = true) ∨
        closing = .settle ∧ w.due.closes = true)
    (hquiet : ∀ e ∈ after, e.quiet = true) :
    let w := ((Server.fresh battleTime).run before).step closing
    let actions := Run.outputs Server.step Server.action w after
    actions =
      (List.range actions.length).map (banishAction { battleTime := battleTime }) := by
  have htime := (sound_run battleTime before).battle.time
  have hthresholds := ban_thresholds (s := { battleTime := battleTime }) hT
  have hexecute : 0 < ({ battleTime := battleTime } : BattleState).banExecuteThreshold := by omega
  have hlapsed : Server.Lapsed battleTime 0
      (((Server.fresh battleTime).run before).step closing) := by
    rcases hclosing with ⟨rfl, hdue⟩ | ⟨rfl, hdue⟩
    · exact lapsed_of_closed htime hexecute hopen hdue
    · have heq : ((Server.fresh battleTime).run before).step .settle =
          { battle := ((Server.fresh battleTime).run before).battle.battleZoneClose.1
            due := .none } := by
        rw [Server.step, settle_of_closes hdue]
      rw [heq]
      exact lapsed_of_closed htime hexecute hopen (by decide)
  intro w actions
  rw [List.range_eq_range']
  exact Run.outputs_eq_range' (Server.Lapsed battleTime)
    (banishAction { battleTime := battleTime })
    (fun n w e h he => lapsed_step hT he h) (Run.along_of_forall w hquiet) hlapsed

theorem banishing_after_a_command :
    let w := ((Server.fresh 4).run [.openZone 1, .death 2]).step .close
    Run.outputs Server.step Server.action w [.tick, .settle, .flag 1, .tick, .settle, .tick] =
      [.announceBanish, .executeBanish, .none] :=
  (banish_trace (by decide) [.openZone 1, .death 2]
    [.tick, .settle, .flag 1, .tick, .settle, .tick] .close (.inl rfl) (.inl ⟨rfl, nofun⟩)
    (by decide)).trans rfl

def ticked (w : Server) (e : WarEvent) : ℕ := if e = .tick ∧ w.due = .none then 1 else 0

/-- A winner that is named, by the clock or by others. -/
def resulted (w : Server) : WarEvent → ℕ
  | .result winner => if winner = 1 ∨ winner = 2 then 1 else 0
  | .settle => if w.due.settles then 1 else 0
  | _ => 0

/-- The ticks that a banishing may still take from the clock. -/
def BattleState.credit (s : BattleState) : ℕ :=
  if s.banishFlag then if s.banishDelay < s.banAnnounceThreshold then 2 else 1 else 0

/-- The ticks that a war may still take. -/
def Server.fuel (w : Server) : ℕ :=
  if w.battle.battleOpen = .nationBattle then
    w.battle.battleRemainingTime.toNat + w.battle.credit
  else 0

/-- A war has time left until its end is about to be carried out. -/
structure Server.Lasting (battleTime : ℤ) (w : Server) : Prop where
  sound : w.Sound battleTime
  waiting : w.battle.Waiting
  time : w.battle.battleOpen = .nationBattle → w.due ≠ .timeExpired →
    1 ≤ w.battle.battleRemainingTime

section

variable {w : Server} {battleTime : ℤ}

theorem credit_le (s : BattleState) : s.credit ≤ 2 := by
  unfold BattleState.credit
  split_ifs
  all_goals omega

theorem fuel_of_nation {s : BattleState} {due : WarTickAction}
    (h : s.battleOpen = .nationBattle) :
    Server.fuel { battle := s, due := due } = s.battleRemainingTime.toNat + s.credit := if_pos h

theorem fuel_of_not_nation {s : BattleState} {due : WarTickAction}
    (h : s.battleOpen ≠ .nationBattle) : Server.fuel { battle := s, due := due } = 0 := if_neg h

theorem credit_sameClock {s s' : BattleState} (ht : s'.battleTime = s.battleTime)
    (h : s.SameClock s') : s'.credit = s.credit := by
  unfold BattleState.credit
  rw [h.banishFlag, h.banishDelay, banAnnounceThreshold_congr ht]

theorem credit_banishTick {s : BattleState} (hT : s.battleTime < 120 * 32768) (h : s.Waiting) :
    s.banishTick.1.Waiting ∧
      s.banishTick.1.battleRemainingTime = s.battleRemainingTime ∧
      s.banishTick.1.credit + (if s.banishTick.2 = none then 0 else 1) ≤ s.credit := by
  obtain ⟨-, -, -, horder, -⟩ := ban_thresholds hT
  unfold BattleState.credit BattleState.Waiting
  rcases banishTick_of_waiting hT h with
    ⟨hflag, heq⟩ | ⟨hflag, ⟨hat, heq⟩ | ⟨hne, hat, heq⟩ | ⟨hne, hlt, heq⟩⟩
  all_goals rw [heq]
  · exact ⟨h, rfl, le_of_eq (by simp [hflag])⟩
  · have hdelay := h hflag
    refine ⟨fun _ => ?_, rfl, ?_⟩
    · change 0 ≤ s.banishDelay + 1 ∧ s.banishDelay + 1 < s.banExecuteThreshold
      omega
    · change (if s.banishFlag = true then
        if s.banishDelay + 1 < s.banAnnounceThreshold then 2 else 1 else 0) + 1 ≤ _
      rw [hflag, if_pos rfl, if_pos rfl, if_neg (by omega), if_pos (by omega)]
  · refine ⟨fun hno => ?_, rfl, ?_⟩
    · cases hno
    · change 0 + 1 ≤ _
      rw [hflag, if_pos rfl]
      split_ifs
      all_goals omega
  · have hdelay := h hflag
    refine ⟨fun _ => ?_, rfl, ?_⟩
    · change 0 ≤ s.banishDelay + 1 ∧ s.banishDelay + 1 < s.banExecuteThreshold
      omega
    · change (if s.banishFlag = true then
        if s.banishDelay + 1 < s.banAnnounceThreshold then 2 else 1 else 0) + 0 ≤ _
      rw [hflag, if_pos rfl, if_pos rfl]
      split_ifs
      all_goals omega

theorem waiting_congr {s s' : BattleState} (ht : s'.battleTime = s.battleTime)
    (hflag : s'.banishFlag = s.banishFlag) (hdelay : s'.banishDelay = s.banishDelay)
    (h : s.Waiting) : s'.Waiting := by
  unfold BattleState.Waiting
  rw [hflag, hdelay, banExecuteThreshold_congr ht]
  exact h

theorem lasting_result {due : WarTickAction} {winner : ℕ} (hT : battleTime < 120 * 32768)
    (h : w.Lasting battleTime)
    (hs : Server.Sound battleTime { battle := w.battle.battleZoneResult winner, due := due })
    (hopen : w.battle.battleOpen = .nationBattle) (htime : due ≠ .timeExpired →
      1 ≤ w.battle.battleRemainingTime) :
    Server.Lasting battleTime { battle := w.battle.battleZoneResult winner, due := due } ∧
      Server.fuel { battle := w.battle.battleZoneResult winner, due := due } ≤ w.fuel + 2 := by
  have hT' : w.battle.battleTime < 120 * 32768 := h.sound.battle.time.symm ▸ hT
  obtain ⟨-, -, hone, horder, -⟩ := ban_thresholds hT'
  rw [battleZoneResult_eq h.sound.battle] at hs ⊢
  refine ⟨⟨hs, fun _ => ?_, fun _ => htime⟩, ?_⟩
  · change 0 ≤ (0 : ℤ) ∧ 0 < w.battle.banExecuteThreshold
    omega
  · have hfuel : w.fuel = w.battle.battleRemainingTime.toNat + w.battle.credit := if_pos hopen
    rw [hfuel]
    refine (if_pos hopen).trans_le ?_
    have hle : w.battle.battleRemainingTime.toNat + 2 ≤
        w.battle.battleRemainingTime.toNat + w.battle.credit + 2 := by omega
    exact (Nat.add_le_add_left (credit_le _) _).trans hle

theorem lasting_closed {s : BattleState} {due : WarTickAction}
    (hs : Server.Sound battleTime { battle := s, due := due }) (hw : s.Waiting)
    (hclosed : s.battleOpen ≠ .nationBattle) :
    Server.Lasting battleTime { battle := s, due := due } ∧
      Server.fuel { battle := s, due := due } = 0 :=
  ⟨⟨hs, hw, fun hopen => absurd hopen hclosed⟩, fuel_of_not_nation hclosed⟩

theorem waiting_battleZoneClose {s : BattleState} (hT : s.battleTime < 120 * 32768)
    (h : s.Waiting) : s.battleZoneClose.1.Waiting := by
  obtain ⟨-, -, hone, horder, -⟩ := ban_thresholds hT
  rcases battleZoneClose_cases s with ⟨-, heq⟩ | ⟨-, heq⟩
  · rw [heq]
    intro _
    change 0 ≤ (0 : ℤ) ∧ 0 < s.banExecuteThreshold
    omega
  · rw [heq]
    exact h

/-- A tick of a war takes a second of the clock, or one of the banishing's two. -/
theorem lasting_tick (hT : battleTime < 120 * 32768) (h : w.Lasting battleTime)
    (hopen : w.battle.battleOpen = .nationBattle) (hdue : w.due = .none) :
    Server.Lasting battleTime { battle := w.battle.warTick.1, due := w.battle.warTick.2 } ∧
      Server.fuel { battle := w.battle.warTick.1, due := w.battle.warTick.2 } + 1 ≤ w.fuel := by
  have hT' : w.battle.battleTime < 120 * 32768 := h.sound.battle.time.symm ▸ hT
  have hsound : Server.Sound battleTime
      { battle := w.battle.warTick.1, due := w.battle.warTick.2 } :=
    ⟨h.sound.battle.same (sameWar_warTick h.sound.battle.resultDelay), sound_warTick h.sound.battle⟩
  have htime := h.time hopen (by simp [hdue])
  have hfuel : w.fuel = w.battle.battleRemainingTime.toNat + w.battle.credit := if_pos hopen
  obtain ⟨hwaiting, hremaining, hcredit⟩ := credit_banishTick hT' h.waiting
  have hsame := sameWar_banishTick w.battle
  have hopen' := hsame.battleOpen.trans hopen
  rcases @warTick_cases w.battle with ⟨action, ha, heq⟩ | ⟨hno, ⟨-, heq⟩ | ⟨hno', -⟩⟩
  · rw [heq] at hsound ⊢
    rw [ha, if_neg (by simp)] at hcredit
    refine ⟨⟨hsound, hwaiting, fun _ _ => hremaining.symm ▸ htime⟩, ?_⟩
    rw [fuel_of_nation hopen', hfuel, hremaining]
    omega
  · rw [heq] at hsound ⊢
    rw [hno, if_pos rfl] at hcredit
    have hdelay : w.battle.banishTick.1.clockTick.resultDelay = false :=
      hsame.resultDelay.trans h.sound.battle.resultDelay
    have hclock := sameClock_battleTick hdelay
    have hwar := sameWar_battleTick hdelay
    have hsecond : w.battle.banishTick.1.clockTick.battleRemainingTime =
        w.battle.battleRemainingTime - 1 := by
      change max (w.battle.banishTick.1.battleRemainingTime - 1) (-2 ^ 31) = _
      omega
    have hpaid : w.battle.banishTick.1.clockTick.battleTick.1.credit =
        w.battle.banishTick.1.credit :=
      (credit_sameClock hwar.battleTime hclock).trans rfl
    refine ⟨⟨hsound, ?_, fun _ hend => ?_⟩, ?_⟩
    · exact waiting_congr hwar.battleTime hclock.banishFlag hclock.banishDelay hwaiting
    · -- the clock has run out, or a second is left
      by_contra hout
      rw [hclock.battleRemainingTime] at hout
      rw [battleTick_eq hdelay, if_pos (by omega)] at hend
      exact hend rfl
    · rw [fuel_of_nation (hwar.battleOpen.trans hopen'), hfuel, hclock.battleRemainingTime, hsecond,
        hpaid]
      omega
  · exact absurd hopen hno'

theorem lasting_settle (hT : battleTime < 120 * 32768) (h : w.Lasting battleTime)
    (hopen : w.battle.battleOpen = .nationBattle) :
    (w.step .settle).Lasting battleTime ∧
      (w.step .settle).fuel ≤ w.fuel + 2 * resulted w .settle := by
  have hT' : w.battle.battleTime < 120 * 32768 := h.sound.battle.time.symm ▸ hT
  have hs := sound_step h.sound .settle
  have htime := h.time hopen
  have hclosed : Server.Lasting battleTime { battle := w.battle.battleZoneClose.1, due := .none } ∧
      Server.fuel { battle := w.battle.battleZoneClose.1, due := .none } = 0 :=
    lasting_closed ⟨sound_battleZoneClose h.sound.battle, trivial⟩
      (waiting_battleZoneClose hT' h.waiting) (battleZoneClose_not_nation w.battle)
  unfold resulted
  cases hd : w.due with
  | halfTimeResult winner =>
    rw [Server.step, hd] at hs ⊢
    by_cases hw : winner = 0
    · simp only [BattleState.settle, if_pos hw]
      exact ⟨hclosed.1, hclosed.2.trans_le (Nat.zero_le _)⟩
    · simp only [BattleState.settle, if_neg hw] at hs ⊢
      exact lasting_result hT h hs hopen fun _ => htime (by simp [hd])
  | timeExpired =>
    rw [Server.step, hd]
    exact ⟨hclosed.1, hclosed.2.trans_le (Nat.zero_le _)⟩
  | resultDelayFired =>
    have hdue := h.sound.due
    rw [hd] at hdue
    exact hdue.elim
  | nereidsQuarterCheck winner =>
    rw [Server.step, hd] at hs ⊢
    exact lasting_result hT h hs hopen fun _ => htime (by simp [hd])
  | _ =>
    rw [Server.step, hd] at hs ⊢
    exact ⟨⟨hs, h.waiting, fun _ _ => htime (by simp [hd])⟩, Nat.le_add_right w.fuel _⟩

theorem lasting_step (hT : battleTime < 120 * 32768) (h : w.Lasting battleTime) (e : WarEvent)
    (hopen : w.battle.battleOpen = .nationBattle) :
    (w.step e).Lasting battleTime ∧
      (w.step e).fuel + ticked w e ≤ w.fuel + 2 * resulted w e := by
  have hT' : w.battle.battleTime < 120 * 32768 := h.sound.battle.time.symm ▸ hT
  have hs := sound_step h.sound e
  have hfuel : w.fuel = w.battle.battleRemainingTime.toNat + w.battle.credit := if_pos hopen
  have hno : e ≠ .tick → ticked w e = 0 := fun hne => if_neg fun hboth => hne hboth.1
  cases hp : e.ofPlayers with
  | true =>
    obtain ⟨hdue, hsame⟩ := step_ofPlayers w hp
    have hclock : w.battle.SameClock (w.step e).battle :=
      ⟨hsame.battleRemainingTime, hsame.banishFlag, hsame.banishDelay⟩
    refine ⟨⟨hs, waiting_congr hsame.battleTime hsame.banishFlag hsame.banishDelay h.waiting, ?_⟩, ?_⟩
    · rw [hdue, hsame.battleRemainingTime]
      exact fun _ => h.time hopen
    · have hfuel' : (w.step e).fuel =
          (w.step e).battle.battleRemainingTime.toNat + (w.step e).battle.credit :=
        if_pos (hsame.battleOpen.trans hopen)
      rw [hno (ne_tick_of_ofPlayers hp), hfuel', hfuel, hsame.battleRemainingTime,
        credit_sameClock hsame.battleTime hclock]
      omega
  | false =>
    have hopened : ∀ kind zone, w.battle.battleZoneOpen kind zone = (w.battle, false) := by
      intro kind zone
      rcases battleZoneOpen_cases w.battle kind zone with ⟨-, heq⟩ | ⟨hclosed, -⟩
      · exact heq
      · rw [hopen] at hclosed
        cases hclosed
    cases e with
    | tick =>
      rcases step_tick_cases w with ⟨hdue, heq⟩ | ⟨hdue, heq⟩
      · obtain ⟨hlasting, htick⟩ := lasting_tick hT h hopen hdue
        rw [heq, ticked, if_pos ⟨rfl, hdue⟩]
        exact ⟨hlasting, htick⟩
      · rw [heq, ticked, if_neg fun hboth => hdue hboth.2]
        exact ⟨h, Nat.le_refl w.fuel⟩
    | settle =>
      rw [hno (by simp)]
      exact lasting_settle hT h hopen
    | openZone zone =>
      have heq : w.step (.openZone zone) = w := by
        rw [Server.step, Server.on, hopened]
      rw [hno (by simp), heq]
      exact ⟨h, Nat.le_refl w.fuel⟩
    | openSnow =>
      have heq : w.step .openSnow = w := by
        rw [Server.step, Server.on, hopened]
      rw [hno (by simp), heq]
      exact ⟨h, Nat.le_refl w.fuel⟩
    | close =>
      obtain ⟨hlasting, hzero⟩ := lasting_closed (s := w.battle.battleZoneClose.1) hs
        (waiting_battleZoneClose hT' h.waiting) (battleZoneClose_not_nation w.battle)
      rw [hno (by simp)]
      exact ⟨hlasting, hzero.trans_le (Nat.zero_le _)⟩
    | result winner =>
      rw [hno (by simp)]
      by_cases hw : winner = 1 ∨ winner = 2
      · rw [step_result hw] at hs ⊢
        rw [resulted, if_pos hw]
        exact lasting_result hT h hs hopen (h.time hopen)
      · have heq : w.step (.result winner) = w := if_neg hw
        rw [heq]
        exact ⟨h, Nat.le_add_right w.fuel _⟩
    | siegeOpen =>
      obtain ⟨hlasting, hzero⟩ := lasting_closed (s := (w.step .siegeOpen).battle) hs h.waiting
        BattleOpen.noConfusion
      rw [hno (by simp)]
      exact ⟨hlasting, hzero.trans_le (Nat.zero_le _)⟩
    | siegeClose =>
      obtain ⟨hlasting, hzero⟩ := lasting_closed (s := (w.step .siegeClose).battle) hs h.waiting
        BattleOpen.noConfusion
      rw [hno (by simp)]
      exact ⟨hlasting, hzero.trans_le (Nat.zero_le _)⟩
    | _ => cases hp

end

/-- While a war of `battleTime` seconds goes on it takes no more ticks than that, and two more for
every winner that is named in it: these go to the banishing. -/
theorem war_length {battleTime : ℤ} (hpos : 1 ≤ battleTime) (hT : battleTime < 120 * 32768)
    (before after : List WarEvent) (zone : ℕ)
    (hclosed : ((Server.fresh battleTime).run before).battle.battleOpen = .noBattle)
    (hgoes : Run.Along Server.step (fun w _ => w.battle.battleOpen = .nationBattle)
      (((Server.fresh battleTime).run before).step (.openZone zone)) after) :
    let w := ((Server.fresh battleTime).run before).step (.openZone zone)
    (Run.total Server.step ticked w after : ℤ) ≤
      battleTime + 2 * Run.total Server.step resulted w after := by
  intro w
  have hsound := sound_run battleTime before
  have hopened : w.battle.battleOpen = .nationBattle ∧ w.battle.battleRemainingTime = battleTime ∧
      w.battle.banishFlag = false := by
    change (BattleState.battleZoneOpen _ _ _).1.battleOpen = _ ∧
      (BattleState.battleZoneOpen _ _ _).1.battleRemainingTime = _ ∧
      (BattleState.battleZoneOpen _ _ _).1.banishFlag = _
    rcases battleZoneOpen_cases ((Server.fresh battleTime).run before).battle .nationBattle zone with
      ⟨hno, -⟩ | ⟨-, _, heq⟩
    · exact absurd hclosed hno
    · rw [heq]
      exact ⟨rfl, hsound.battle.time, rfl⟩
  obtain ⟨hopen, hremaining, hflag⟩ := hopened
  have hlasting : w.Lasting battleTime := by
    refine ⟨sound_step hsound _, fun hyes => ?_, fun _ _ => hremaining.symm ▸ hpos⟩
    rw [hflag] at hyes
    cases hyes
  have hfuel : w.fuel = battleTime.toNat := by
    refine (if_pos hopen).trans ?_
    rw [hremaining, BattleState.credit, hflag, if_neg Bool.false_ne_true, Nat.add_zero]
  have hbudget : (Run.run Server.step w after).fuel + Run.total Server.step ticked w after ≤
      w.fuel + Run.total Server.step (fun w e => 2 * resulted w e) w after :=
    Run.budget_along (Server.Lasting battleTime) Server.fuel
      (fun w e h hopen => lasting_step hT h e hopen) hgoes hlasting
  rw [Run.total_mul, hfuel] at hbudget
  omega

theorem war_of_four_seconds :
    let w := ((Server.fresh 4).run []).step (.openZone 1)
    (Run.total Server.step ticked w [.tick, .settle, .result 2, .tick, .settle] : ℤ) ≤
      4 + 2 * Run.total Server.step resulted w [.tick, .settle, .result 2, .tick, .settle] :=
  war_length (by decide) (by decide) [] [.tick, .settle, .result 2, .tick, .settle] 1 rfl
    ⟨rfl, rfl, rfl, rfl, rfl, trivial⟩

end KoServer.War
