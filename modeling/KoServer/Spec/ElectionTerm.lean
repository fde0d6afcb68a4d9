import KoServer.Lib.Calendar
import KoServer.Lib.Run
import KoServer.Spec.Election

/-! A term of elections: the server's loop that calls the election timer of both nations once a
minute (`server.rs`), and in between the requests of the electors (`handler/king.rs`). -/

namespace KoServer

/-- `Local::now()` as the timer reads it. -/
def localClock (m : Moment) : ElectionClock := ⟨m.month, m.day, m.hour, m.minute⟩

def countVote (nominee : List Char) : List ElectionListEntry → List ElectionListEntry
  | [] => []
  | c :: candidates =>
    if eqIgnoreAsciiCase c.name nominee then
      { c with votes := (c.votes + 1) % 2 ^ 32 } :: candidates
    else c :: countVote nominee candidates

namespace Election

variable (ks : Election)

/-- What `handle_election_poll` writes once the vote is in the database. -/
def recordVote (nominee : List Char) : Election :=
  { ks with
    candidateList := countVote nominee ks.candidateList
    totalVotes := (ks.totalVotes + 1) % 2 ^ 32 }

def scheduled (year : ℕ) : Moment := ⟨year, ks.month, ks.day, ks.hour, ks.minute⟩

end Election

structure TermWorld where
  elections : ElectionWorld
  now : Moment

inductive TermStep
  /-- The next minute, with the timer. -/
  | minute (env : ElectionEnv)
  | recommend (env : ElectionEnv) (sid : ℕ) (data : List UInt8)
  | resign (env : ElectionEnv) (sid : ℕ)
  /-- A vote that has been let in. The database is waited for, so the phase may have passed. -/
  | vote (nation : ℕ) (nominee : List Char)

namespace TermWorld

variable (w : TermWorld)

def step : TermStep → TermWorld
  | .minute env =>
    let now := w.now.next
    { elections :=
        (w.elections.election (.tick env 1 (localClock now))).election (.tick env 2 (localClock now))
      now := now }
  | .recommend env sid data => { w with elections := w.elections.election (.recommend env sid data) }
  | .resign env sid => { w with elections := w.elections.election (.resign env sid) }
  | .vote nation nominee =>
    { w with elections := w.elections.update nation fun ks => ks.recordVote nominee }

def phase (nation : ℕ) : ℕ := (w.elections nation).elim ELECTION_TYPE_NO_TERM Election.electionType

def Nominated (nation : ℕ) (_ : TermStep) : Prop :=
  w.phase nation = ELECTION_TYPE_PRE_ELECTION →
    (w.elections nation).any (·.candidateList ≠ []) = true

instance (nation : ℕ) (i : TermStep) : Decidable (w.Nominated nation i) :=
  inferInstanceAs (Decidable (_ → _))

end TermWorld

/-- A run of a nation at rest from before the day of nominations, two days before the election,
until the election is over and before the next nominations, with somebody nominated. -/
structure TermRun (nation year : ℕ) (ks : Election) (w : TermWorld) (steps : List TermStep) :
    Prop where
  timed : nation = 1 ∨ nation = 2
  king : w.elections nation = some ks
  resting : ks.electionType = ELECTION_TYPE_NO_TERM
  working : ks.electionUnderProgress = false
  schedule : (ks.scheduled year).Valid
  now : w.now.Valid
  start : w.now.date < (ks.scheduled year).yesterday.yesterday.date
  recent : (ks.scheduled (year - 1)).yesterday.yesterday.date < w.now.date
  finish : (Moment.next^[5] (ks.scheduled year)).key ≤ (Run.run TermWorld.step w steps).now.key
  before : (Run.run TermWorld.step w steps).now.date < (ks.scheduled year).monthLater.yesterday.yesterday.date
  nominated : Run.Along TermWorld.step (TermWorld.Nominated · nation) w steps

def allPhases : List ℕ :=
  [ELECTION_TYPE_NOMINATION, ELECTION_TYPE_PRE_ELECTION, ELECTION_TYPE_ELECTION,
    ELECTION_TYPE_TERM_ENDED, ELECTION_TYPE_NO_TERM]

end KoServer
