import KoServer.Spec.BagItems
import KoServer.Spec.Level
import KoServer.Spec.Packet

/-! The experience seal's switch and its jars: `handler/exp_seal.rs`. What the seal does with a
gain is in `Progress.expChangeInner`. -/

namespace KoServer

def SEALED_JAR : ℕ := 810354000
def SEALED_JAR_100M : ℕ := 810357000
def SEALED_JAR_500M : ℕ := 810355000
def SEALED_JAR_1B : ℕ := 810356000

/-- What the handler reads and writes of a session. -/
structure Sealer where
  inGame : Bool
  isDead : Bool
  progress : Progress
  inventory : Inventory

structure PotionRequest where
  jarItemId : ℕ
  invPos : ℕ
  /-- A `u64`. -/
  sealedExp : ℕ

namespace PotionRequest

def read (reader : PacketReader) : PotionRequest :=
  let (jarItemId, reader) := reader.readU32D
  let (invPos, reader) := reader.readU8D
  let sealedExp :=
    match reader.readU32 with
    | none => 0
    | some (low, reader) =>
      match reader.readU32 with
      | none => 0
      | some (high, _) => low + 2 ^ 32 * high
  { jarItemId, invPos, sealedExp }

def absPos (req : PotionRequest) : ℕ := SLOT_MAX + req.invPos

end PotionRequest

def resultItemId (sealedExp : ℕ) : Option ℕ :=
  if sealedExp = 100000000 then some SEALED_JAR_100M
  else if sealedExp = 500000000 then some SEALED_JAR_500M
  else if sealedExp = 1000000000 then some SEALED_JAR_1B
  else none

inductive ExpSealReply where
  | status (enable : Bool)
  | potionFail
  | potion (resultItemId newPos sealedExp : ℕ)
  deriving DecidableEq

namespace Sealer

variable (table : ItemTable) (serial : ℕ) (s : Sealer)

def updateStatus (enable : Bool) : ExpSealReply × Sealer :=
  (.status enable, { s with progress := { s.progress with expSealStatus := enable } })

def potionJar (req : PotionRequest) : Option ℕ :=
  if req.jarItemId ≠ SEALED_JAR then none
  else if s.inventory.length ≤ req.absPos ∨ (s.inventory.slot req.absPos).itemId ≠ SEALED_JAR then
    none
  else if s.progress.sealedExp < req.sealedExp then none
  else (resultItemId req.sealedExp).filter fun jar => (table jar).isSome

/-- Where the first of the filled jars is, counted from the bag's first slot as a `u8`. -/
def newPos (inv : Inventory) (jar : ℕ) : ℕ :=
  match (inv.drop SLOT_MAX).findIdx? fun slot => slot.itemId = jar with
  | none => 0
  | some i => i % 2 ^ 8

/-- The empty jar is gone before the filled one is given. -/
def sealedPotion (req : PotionRequest) : ExpSealReply × Sealer :=
  match s.potionJar table req with
  | none => (.potionFail, s)
  | some jar =>
    let removed := s.inventory.set req.absPos {}
    match giveItem table serial removed jar 1 with
    | none => (.potionFail, { s with inventory := removed })
    | some inventory =>
      (.potion jar (newPos inventory jar) (req.sealedExp % 2 ^ 32),
        { s with
          inventory
          progress :=
            { s.progress with sealedExp := s.progress.sealedExp - req.sealedExp % 2 ^ 32 } })

/-- `handle`; `none` is no answer. -/
def handleExpSeal (data : PacketReader) : Option ExpSealReply × Sealer :=
  if ¬s.inGame ∨ s.isDead then (none, s)
  else
    let (subOpcode, reader) := data.readU8D
    let answered (answer : ExpSealReply × Sealer) := (some answer.1, answer.2)
    if subOpcode = 1 then answered (s.updateStatus true)
    else if subOpcode = 2 then answered (s.updateStatus false)
    else if subOpcode = 3 then answered (s.sealedPotion table serial (PotionRequest.read reader))
    else (none, s)

end Sealer

end KoServer
