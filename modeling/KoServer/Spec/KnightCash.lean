import KoServer.Spec.Merchant
import KoServer.Spec.NpcTrade

/-! The Knight Cash balances of one account, from `handler/knight_cash.rs`: five functions that read
both balances, set both, and spawn a task that writes both into `tb_user`. Reads, sets and tasks of
any number of calls happen in any order. -/

namespace KoServer

inductive CashCall
  | giveBalance (cashAmount tlAmount : ℤ)
  | deductKc (amount : ℤ)
  | deductTl (amount : ℤ)
  | cashLose (amount : ℕ)
  | cashGain (amount : ℕ)
  deriving DecidableEq

inductive CashPhase
  | entered (call : CashCall)
  | readKc (call : CashCall) (kc : ℕ)
  | readTl (call : CashCall) (tl : ℕ)
  | ready (call : CashCall) (kc tl : ℕ)
  | returned (call : CashCall) (accepted : Bool)
  deriving DecidableEq

/-- `rows` are `cash_point` and `bonus_cash_point`, both `INT`; `tasks` are the spawned writes. -/
structure CashAccount where
  knightCash : ℕ
  tlBalance : ℕ
  calls : List CashPhase
  tasks : List (ℤ × ℤ)
  rows : ℤ × ℤ
  deriving DecidableEq

/-- `.clamp(0, u32::MAX as i64) as u32` -/
def clampU32 (n : ℤ) : ℕ := min n.toNat (2 ^ 32 - 1)

theorem clampU32_lt (n : ℤ) : clampU32 n < 2 ^ 32 := by
  unfold clampU32
  omega

namespace CashCall

def enter (kc tl : ℕ) : CashCall → CashPhase
  | giveBalance cashAmount tlAmount =>
    if cashAmount = 0 ∧ tlAmount = 0 then .returned (giveBalance cashAmount tlAmount) true
    else .ready (giveBalance cashAmount tlAmount) kc tl
  | deductKc amount =>
    if amount ≤ 0 then .returned (deductKc amount) true
    else if asI32 kc < amount then .returned (deductKc amount) false
    else .readKc (deductKc amount) kc
  | deductTl amount =>
    if amount ≤ 0 then .returned (deductTl amount) true
    else if asI32 tl < amount then .returned (deductTl amount) false
    else .readTl (deductTl amount) tl
  | cashLose amount =>
    if amount = 0 then .returned (cashLose amount) true
    else if kc < amount then .returned (cashLose amount) false
    else .readKc (cashLose amount) kc
  | cashGain amount =>
    if amount = 0 then .returned (cashGain amount) true
    else .readKc (cashGain amount) kc

def balances (kc tl : ℕ) : CashCall → ℕ × ℕ
  | giveBalance cashAmount tlAmount => (clampU32 (kc + cashAmount), clampU32 (tl + tlAmount))
  | deductKc amount => ((max (asI32 kc - amount) 0).toNat, tl)
  | deductTl amount => (kc, (max (asI32 tl - amount) 0).toNat)
  | cashLose amount => (kc - amount, tl)
  | cashGain amount => (min (kc + amount) (2 ^ 32 - 1), tl)

end CashCall

inductive CashEvent
  /-- A call takes its next step. -/
  | advance (i : ℕ)
  /-- A spawned task comes to run. -/
  | persist (i : ℕ)
  deriving DecidableEq

namespace CashAccount

/-- `set_kc_balance`, and the task is spawned with the new balances as `i32`. -/
def set (s : CashAccount) (new : ℕ × ℕ) : CashAccount :=
  { s with
    knightCash := new.1
    tlBalance := new.2
    tasks := s.tasks ++ [(asI32 new.1, asI32 new.2)] }

def setPhase (s : CashAccount) (i : ℕ) (p : CashPhase) : CashAccount :=
  { s with calls := s.calls.set i p }

def step (s : CashAccount) : CashEvent → CashAccount
  | .advance i =>
    match s.calls[i]? with
    | none => s
    | some (.entered call) => s.setPhase i (call.enter s.knightCash s.tlBalance)
    | some (.readKc call kc) => s.setPhase i (.ready call kc s.tlBalance)
    | some (.readTl call tl) => s.setPhase i (.ready call s.knightCash tl)
    | some (.ready call kc tl) => (s.set (call.balances kc tl)).setPhase i (.returned call true)
    | some (.returned _ _) => s
  | .persist i =>
    match s.tasks[i]? with
    | none => s
    | some w => { s with rows := w, tasks := s.tasks.eraseIdx i }

/-- The balances that `load_kc_balances` has put into memory, and nothing has happened since. -/
def start (kc tl : ℕ) (calls : List CashCall) : CashAccount where
  knightCash := kc
  tlBalance := tl
  calls := calls.map .entered
  tasks := []
  rows := (kc, tl)

end CashAccount

namespace CashPhase

def credit : CashPhase → ℤ × ℤ
  | returned (.giveBalance cashAmount tlAmount) _ => (cashAmount, tlAmount)
  | returned (.cashGain amount) _ => (amount, 0)
  | _ => 0

/-- What a call that has returned and was accepted was to take; no positive amount is nothing. -/
def deduction : CashPhase → ℤ × ℤ
  | returned (.deductKc amount) true => (max amount 0, 0)
  | returned (.deductTl amount) true => (0, max amount 0)
  | returned (.cashLose amount) true => (amount, 0)
  | _ => 0

end CashPhase

end KoServer
