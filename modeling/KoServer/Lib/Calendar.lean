import Mathlib.Data.Nat.Basic
import Mathlib.Logic.Function.Iterate
import Mathlib.Tactic.SplitIfs

/-! The minutes of the calendar, one after the other. -/

structure Moment where
  year : ℕ
  month : ℕ
  day : ℕ
  hour : ℕ
  minute : ℕ
deriving DecidableEq

def isLeapYear (year : ℕ) : Bool := year % 4 = 0 && (year % 100 ≠ 0 || year % 400 = 0)

def daysIn (year month : ℕ) : ℕ :=
  match month with
  | 2 => if isLeapYear year then 29 else 28
  | 4 | 6 | 9 | 11 => 30
  | _ => 31

theorem daysIn_bounds (year month : ℕ) : 28 ≤ daysIn year month ∧ daysIn year month ≤ 31 := by
  unfold daysIn
  split
  · split_ifs <;> omega
  all_goals omega

namespace Moment

variable (m : Moment)

structure Valid : Prop where
  month : 1 ≤ m.month ∧ m.month ≤ 12
  day : 1 ≤ m.day ∧ m.day ≤ daysIn m.year m.month
  hour : m.hour < 24
  minute : m.minute < 60

instance : Decidable m.Valid :=
  decidable_of_iff ((1 ≤ m.month ∧ m.month ≤ 12) ∧ (1 ≤ m.day ∧ m.day ≤ daysIn m.year m.month) ∧
    m.hour < 24 ∧ m.minute < 60) ⟨fun h => ⟨h.1, h.2.1, h.2.2.1, h.2.2.2⟩,
    fun h => ⟨h.month, h.day, h.hour, h.minute⟩⟩

def next : Moment :=
  if m.minute < 59 then { m with minute := m.minute + 1 }
  else if m.hour < 23 then { m with hour := m.hour + 1, minute := 0 }
  else if m.day < daysIn m.year m.month then { m with day := m.day + 1, hour := 0, minute := 0 }
  else if m.month < 12 then ⟨m.year, m.month + 1, 1, 0, 0⟩
  else ⟨m.year + 1, 1, 1, 0, 0⟩

def yesterday : Moment :=
  if 2 ≤ m.day then { m with day := m.day - 1 }
  else if 2 ≤ m.month then
    { m with month := m.month - 1, day := daysIn m.year (m.month - 1) }
  else { m with year := m.year - 1, month := 12, day := 31 }

def monthLater : Moment :=
  if m.month = 12 then { m with year := m.year + 1, month := 1 }
  else { m with month := m.month + 1 }

def date : ℕ := (m.year * 13 + m.month) * 32 + m.day

def key : ℕ := (m.date * 24 + m.hour) * 60 + m.minute

variable {m}

theorem next_valid (h : m.Valid) : m.next.Valid := by
  obtain ⟨hmonth, hday, hhour, hminute⟩ := h
  have hdays := daysIn_bounds m.year (m.month + 1)
  have hdays' := daysIn_bounds (m.year + 1) 1
  unfold next
  split_ifs
  · exact ⟨hmonth, hday, hhour, by dsimp only; omega⟩
  · exact ⟨hmonth, hday, by dsimp only; omega, by dsimp only; omega⟩
  · exact ⟨hmonth, ⟨by dsimp only; omega, by dsimp only; omega⟩, by dsimp only; omega,
      by dsimp only; omega⟩
  · exact ⟨⟨by dsimp only; omega, by dsimp only; omega⟩, ⟨le_refl 1, by dsimp only; omega⟩,
      by dsimp only; omega, by dsimp only; omega⟩
  · exact ⟨⟨le_refl 1, by dsimp only; omega⟩, ⟨le_refl 1, by dsimp only; omega⟩,
      by dsimp only; omega, by dsimp only; omega⟩

theorem lt_next (h : m.Valid) : m.key < m.next.key := by
  obtain ⟨hmonth, hday, hhour, hminute⟩ := h
  have hdays := daysIn_bounds m.year m.month
  unfold next key date
  split_ifs <;> dsimp only <;> omega

theorem date_le_next (h : m.Valid) : m.date ≤ m.next.date := by
  obtain ⟨hmonth, hday, hhour, hminute⟩ := h
  have hdays := daysIn_bounds m.year m.month
  unfold next date
  split_ifs <;> dsimp only <;> omega

theorem next_le {c : Moment} (hc : c.Valid) (h : m.Valid) (hlt : m.key < c.key) :
    m.next.key ≤ c.key := by
  obtain ⟨hmonth, hday, hhour, hminute⟩ := h
  obtain ⟨hmonth', hday', hhour', hminute'⟩ := hc
  have hdays := daysIn_bounds m.year m.month
  have hdays' := daysIn_bounds c.year c.month
  by_cases hsame : c.year = m.year ∧ c.month = m.month
  · rw [hsame.1, hsame.2] at hday'
    unfold key date at hlt
    unfold next key date
    rw [hsame.1, hsame.2] at hlt ⊢
    split_ifs <;> dsimp only <;> omega
  · unfold key date at hlt
    unfold next key date
    split_ifs <;> dsimp only <;> omega

theorem yesterday_twice (h : 3 ≤ m.day) :
    m.yesterday.yesterday = { m with day := m.day - 2 } := by
  have hfirst : m.yesterday = { m with day := m.day - 1 } := if_pos (by omega)
  rw [hfirst]
  unfold yesterday
  dsimp only
  rw [if_pos (by omega), Nat.sub_sub]

theorem day_monthLater : m.monthLater.day = m.day := by
  unfold monthLater
  split_ifs <;> rfl

theorem next_iterate (n : ℕ) (hminute : m.minute < 60)
    (hroom : m.hour * 60 + m.minute + n < 24 * 60) :
    next^[n] m = { m with
      hour := (m.hour * 60 + m.minute + n) / 60, minute := (m.hour * 60 + m.minute + n) % 60 } := by
  induction n with
  | zero =>
    have hh : (m.hour * 60 + m.minute + 0) / 60 = m.hour := by omega
    have hm : (m.hour * 60 + m.minute + 0) % 60 = m.minute := by omega
    rw [hh, hm]
    rfl
  | succ n ih =>
    rw [Function.iterate_succ_apply', ih (by omega)]
    unfold next
    dsimp only
    split_ifs with hm hh
    · simp only [mk.injEq, true_and]
      omega
    · simp only [mk.injEq, true_and]
      omega
    all_goals omega

variable (m) in
def tomorrow : Moment :=
  if m.day < daysIn m.year m.month then { m with day := m.day + 1 }
  else if m.month < 12 then { m with month := m.month + 1, day := 1 }
  else { m with year := m.year + 1, month := 1, day := 1 }

theorem next_day (hhour : m.hour < 24) (hminute : m.minute < 60) :
    next^[24 * 60] m = m.tomorrow := by
  obtain ⟨t, ht⟩ : ∃ t, m.hour * 60 + m.minute = t := ⟨_, rfl⟩
  have hsplit : 24 * 60 = t + (1 + (24 * 60 - 1 - t)) := by omega
  have hlast : next^[24 * 60 - 1 - t] m = { m with hour := 23, minute := 59 } := by
    rw [next_iterate _ hminute (by omega)]
    congr 1 <;> omega
  have hmidnight : next { m with hour := 23, minute := 59 } =
      { m.tomorrow with hour := 0, minute := 0 } := by
    unfold next tomorrow
    dsimp only
    split_ifs <;> first | rfl | omega
  have hdate : { m.tomorrow with hour := m.hour, minute := m.minute } = m.tomorrow := by
    unfold tomorrow
    split_ifs <;> rfl
  rw [hsplit, Function.iterate_add_apply, Function.iterate_add_apply, hlast,
    Function.iterate_one, hmidnight, next_iterate _ (Nat.zero_lt_succ _) (by dsimp only; omega)]
  refine Eq.trans ?_ hdate
  dsimp only
  congr 1 <;> omega

end Moment
