import KoServer.Spec.Trade
import Mathlib.Logic.Function.Basic

/-! The packet limits of a session: `rate_limiter.rs`. Times are in nanoseconds, and a check reads the
clock once here. -/

namespace KoServer

def SOFT_PACKETS_PER_SECOND : ℕ := 100
def CRITICAL_PACKETS_PER_SECOND : ℕ := 300
def MAX_VIOLATIONS : ℕ := 3
def BAN_DURATION : ℕ := 300 * 10 ^ 9
def WINDOW_DURATION : ℕ := 10 ^ 9
def CHAT_GROUP_KEY : ℕ := 0xFF

def WIZ_MOVE : ℕ := 0x06
def WIZ_ATTACK : ℕ := 0x08
def WIZ_CHAT : ℕ := 0x10
def WIZ_NATION_CHAT : ℕ := 0x19
def WIZ_MAGIC_PROCESS : ℕ := 0x31
def WIZ_CHAT_TARGET : ℕ := 0x35

/-- The errors of a packet. An opcode stands as its byte, also one that is not known. -/
inductive RateLimitError
  | globalRateExceeded (sessionId : SessionId) (limit : ℕ)
  | criticalRateExceeded (sessionId : SessionId) (limit : ℕ)
  | opcodeRateExceeded (sessionId : SessionId) (opcode limit : ℕ)
  | temporaryBan (sessionId : SessionId)
deriving DecidableEq

def isChat (opcodeByte : ℕ) : Bool :=
  opcodeByte = WIZ_CHAT || opcodeByte = WIZ_NATION_CHAT || opcodeByte = WIZ_CHAT_TARGET

def opcodeRateLimit (opcodeByte : ℕ) : ℕ :=
  if isChat opcodeByte then 5
  else if opcodeByte = WIZ_MOVE then 20
  else if opcodeByte = WIZ_ATTACK then 10
  else if opcodeByte = WIZ_MAGIC_PROCESS then 10
  else 30

/-- Packets with one key are counted together. -/
def opcodeCounterKey (opcodeByte : ℕ) : ℕ := if isChat opcodeByte then CHAT_GROUP_KEY else opcodeByte

structure RateLimits where
  opcodeRateLimit : ℕ → ℕ
  softPacketsPerSecond : ℕ
  criticalPacketsPerSecond : ℕ

def rateLimits : RateLimits :=
  ⟨opcodeRateLimit, SOFT_PACKETS_PER_SECOND, CRITICAL_PACKETS_PER_SECOND⟩

structure SessionRateState where
  windowStart : ℕ
  globalCount : ℕ
  /-- 0 where there is no entry. -/
  opcodeCounts : ℕ → ℕ
  violationCount : ℕ
  banUntil : Option ℕ

namespace SessionRateState

def new (now : ℕ) : SessionRateState := ⟨now, 0, fun _ => 0, 0, none⟩

variable (s : SessionRateState) (now : ℕ)

def maybeResetWindow : SessionRateState :=
  if s.windowStart + WINDOW_DURATION ≤ now then
    { s with windowStart := now, globalCount := 0, opcodeCounts := fun _ => 0 }
  else s

def recordViolation : Bool × SessionRateState :=
  let s := { s with violationCount := s.violationCount + 1 }
  if MAX_VIOLATIONS ≤ s.violationCount then
    (true, { s with banUntil := some (now + BAN_DURATION) })
  else (false, s)

def isBanned : Bool × SessionRateState :=
  match s.banUntil with
  | some deadline =>
    if deadline ≤ now then (false, { s with banUntil := none, violationCount := 0 }) else (true, s)
  | none => (false, s)

/-- The counting part of `check_rate_limit`. `none` is `Ok`. -/
def countPacket (limits : RateLimits) (sessionId : SessionId) (opcodeByte : ℕ) :
    Option RateLimitError × SessionRateState :=
  let s := { s with globalCount := s.globalCount + 1 }
  if limits.criticalPacketsPerSecond < s.globalCount then
    (some (.criticalRateExceeded sessionId limits.criticalPacketsPerSecond),
      (s.recordViolation now).2)
  else if limits.softPacketsPerSecond < s.globalCount then
    (some (.globalRateExceeded sessionId limits.softPacketsPerSecond), s)
  else
    let counterKey := opcodeCounterKey opcodeByte
    let opcodeCount := s.opcodeCounts counterKey + 1
    let s := { s with opcodeCounts := Function.update s.opcodeCounts counterKey opcodeCount }
    let limit := limits.opcodeRateLimit opcodeByte
    if limit < opcodeCount then
      (some (.opcodeRateExceeded sessionId opcodeByte limit), (s.recordViolation now).2)
    else (none, s)

/-- `check_rate_limit` of a packet that is not a GM's. -/
def checkRateLimit (limits : RateLimits) (sessionId : SessionId) (opcodeByte : ℕ) :
    Option RateLimitError × SessionRateState :=
  let (banned, s) := s.isBanned now
  if banned then (some (.temporaryBan sessionId), s)
  else (s.maybeResetWindow now).countPacket now limits sessionId opcodeByte

end SessionRateState

abbrev RateLimiter := SessionId → Option SessionRateState

structure TimedPacket where
  time : ℕ
  opcodeByte : ℕ
  isGm : Bool
deriving DecidableEq

namespace RateLimiter

variable (limits : RateLimits) (limiter : RateLimiter) (sessionId : SessionId)

def registerSession (now : ℕ) : RateLimiter :=
  Function.update limiter sessionId (some (.new now))

def checkRateLimit (packet : TimedPacket) : Option RateLimitError × RateLimiter :=
  if packet.isGm then (none, limiter)
  else
    match limiter sessionId with
    | none => (none, limiter)
    | some s =>
      let (error, s) := s.checkRateLimit packet.time limits sessionId packet.opcodeByte
      (error, Function.update limiter sessionId (some s))

/-- What becomes of packets of the session that come one after the other. -/
def checkAll : RateLimiter → List TimedPacket → List (TimedPacket × Option RateLimitError)
  | _, [] => []
  | limiter, packet :: packets =>
    let (error, limiter) := checkRateLimit limits limiter sessionId packet
    (packet, error) :: checkAll limiter packets

def afterAll (packets : List TimedPacket) : RateLimiter :=
  packets.foldl (fun limiter packet => (checkRateLimit limits limiter sessionId packet).2) limiter

end RateLimiter

end KoServer
