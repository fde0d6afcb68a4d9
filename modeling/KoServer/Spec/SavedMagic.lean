import KoServer.Spec.Buffs
import Mathlib.Logic.Function.Basic

/-! Scrolls that are kept across logouts: what `get_saved_magic_entries` writes into
`user_saved_magic`, what `load_saved_magic` reads from it, and the recast of what it has read. Both
clocks of the source start at one time here. -/

namespace KoServer

def MIN_SAVED_MAGIC_DURATION_SECS : ℕ := 5
def MAX_SAVED_MAGIC_DURATION_SECS : ℕ := 28800
def MAX_SAVED_MAGIC_SLOTS : ℕ := 10

/-- The rows of `user_saved_magic` by slot: the skill and the seconds left. -/
abbrev SavedMagicRows := List (ℕ × ℕ)

/-- `save_saved_magic` replaces the rows. -/
def saveSavedMagic (entries : List (ℕ × ℕ)) : SavedMagicRows :=
  (entries.take MAX_SAVED_MAGIC_SLOTS).filter fun e => 0 < e.1 && 0 < e.2

/-- The rows that the query for a character returns. The column of the skill is an `i32`, which is
negative from 2^31 on. -/
def loadRows (rows : SavedMagicRows) : List (ℕ × ℕ) :=
  rows.filter fun r => 0 < r.1 && r.1 < 2 ^ 31 && MIN_SAVED_MAGIC_DURATION_SECS < r.2 &&
    r.2 < MAX_SAVED_MAGIC_DURATION_SECS

def enteredSession : BuffSession where
  buffs := KeyedList.empty
  effects := {}
  savedMagic := []
  transformationType := 0
  transformSkillId := 0
  transformationStartTime := 0
  transformationDuration := 0
  blinkExpiryTime := 0
  stealthEndTime := 0

namespace BuffSession

variable (t : MagicTables) (k : BuffTick) (h : BuffSession)

/-- The scrolls with time left, for the database. -/
def getSavedMagicEntries (order : Shuffle (ℕ × ℕ)) (nowMs : ℕ) : List (ℕ × ℕ) :=
  (order.order h.savedMagic).filterMap fun entry =>
    if entry.1 = 0 ∨ entry.2 ≤ nowMs then none
    else
      let remaining := min ((entry.2 - nowMs) / 1000) (2 ^ 31 - 1)
      if 0 < remaining then some (entry.1, remaining) else none

def loadSavedMagic (entries : List (ℕ × ℕ)) (nowMs : ℕ) : BuffSession :=
  { h with
    savedMagic := entries.foldl
      (fun saved e =>
        if 0 < e.1 ∧ MIN_SAVED_MAGIC_DURATION_SECS < e.2 ∧ e.2 < MAX_SAVED_MAGIC_DURATION_SECS then
          (e.1, nowMs + e.2 * 1000) :: saved.filter (·.1 ≠ e.1)
        else saved) [] }

def clearAllBuffs : BuffSession := { h with buffs := KeyedList.empty }

/-- A recast without a filter for the buff type, so that the scroll's own type passes. -/
def recastEntry (entry : ℕ × ℕ) : BuffSession :=
  match t.magicType4 entry.1 with
  | none => h
  | some row => h.recastOne t k (row.buffType.getD 0) entry

def recastSavedMagic : BuffSession :=
  if h.isTransformed then h
  else (h.getSavedMagicForRecast k).foldl (fun h entry => h.recastEntry t k entry) h

end BuffSession

/-- What happens to the scrolls of a character. It leaves and enters the game again at three times:
when its scrolls are saved, when they are loaded, and when they are recast. -/
inductive ScrollEvent
  | cast (c : Type4Cast)
  | tick (k : BuffTick)
  | relog (order : Shuffle (ℕ × ℕ)) (saved loaded : ℕ) (recast : BuffTick)

structure ScrollWorld where
  session : BuffSession
  rows : SavedMagicRows
  /-- The time of the last event. -/
  clock : ℕ
  cycles : ℕ
  /-- When the buff runs out that the entry of a skill was saved from. The source does not keep it. -/
  savedFrom : ℕ → ℕ

namespace ScrollWorld

variable (t : MagicTables) (w : ScrollWorld)

/-- `load_and_recast_saved_magic` -/
def enterGame (rows : SavedMagicRows) (loaded : ℕ) (k : BuffTick) : BuffSession :=
  if loadRows rows = [] then enteredSession
  else
    ((enteredSession.loadSavedMagic (loadRows rows) loaded).clearAllBuffs).recastSavedMagic t k

def isSaved (h : BuffSession) (skillId : ℕ) : Bool := h.savedMagic.any (·.1 = skillId)

def cast (c : Type4Cast) : ScrollWorld :=
  let session := w.session.executeType4 t c
  let seconds := (((t.magicType4 c.skillId).bind MagicType4Row.duration).getD 0).toNat
  { w with
    session := session
    clock := c.now
    savedFrom :=
      if isSaved session c.skillId && !isSaved w.session c.skillId then
        Function.update w.savedFrom c.skillId (c.now + seconds * 1000)
      else w.savedFrom }

/-- The time away does not count. -/
def relog (order : Shuffle (ℕ × ℕ)) (saved loaded : ℕ) (k : BuffTick) : ScrollWorld :=
  let rows := saveSavedMagic (w.session.getSavedMagicEntries order saved)
  { session := enterGame t rows loaded k
    rows := rows
    clock := k.now
    cycles := w.cycles + 1
    savedFrom := fun skillId => loaded + (w.savedFrom skillId - saved) }

def step : ScrollEvent → ScrollWorld
  | .cast c => w.cast t c
  | .tick k => { w with session := w.session.processBuffTick t k, clock := k.now }
  | .relog order saved loaded k => w.relog t order saved loaded k

end ScrollWorld

end KoServer
