import Mathlib.Logic.Function.Basic
import KoServer.Spec.Letter

/-! The election of a king: nominations, resignations and the election timer, from `handler/king.rs`.
The names on the lists are compared without regard to ASCII case. -/

namespace KoServer

def ELECTION_TYPE_NO_TERM : ℕ := 0
def ELECTION_TYPE_NOMINATION : ℕ := 1
def ELECTION_TYPE_PRE_ELECTION : ℕ := 2
def ELECTION_TYPE_ELECTION : ℕ := 3
def ELECTION_TYPE_TERM_ENDED : ℕ := 7

structure ElectionListEntry where
  name : List Char
  knightsId : ℕ
  votes : ℕ
deriving DecidableEq

structure NominationEntry where
  nominator : List Char
  nominee : List Char
deriving DecidableEq

/-- The part of a nation's king record that elections are about. -/
structure Election where
  electionType : ℕ := ELECTION_TYPE_NO_TERM
  month : ℕ
  day : ℕ
  hour : ℕ
  minute : ℕ
  electionUnderProgress : Bool := false
  sentFirstMessage : Bool := false
  top10ClanSet : List ℕ := []
  senatorList : List ElectionListEntry := []
  candidateList : List ElectionListEntry := []
  nominationList : List NominationEntry := []
  /-- Candidates and their texts. -/
  noticeBoard : List (List Char × List Char) := []
  resignedCandidates : List (List Char) := []
  newKingName : List Char := []
  kingVotes : ℕ := 0
  totalVotes : ℕ := 0
  kingName : List Char := []
  kingClanId : ℕ := 0
deriving DecidableEq

structure Elector where
  name : List Char
  nation : ℕ
  fame : ℕ
  knightsId : ℕ
deriving DecidableEq

structure RankedClan where
  id : ℕ
  nation : ℕ
  chief : List Char
  points : ℕ

/-- What a step reads besides the elections. -/
structure ElectionEnv where
  electors : ℕ → Option Elector
  findSessionByName : List Char → Option ℕ
  /-- In the order of the map. -/
  knights : List RankedClan

structure ElectionClock where
  month : ℕ
  day : ℕ
  hour : ℕ
  minute : ℕ
deriving DecidableEq

abbrev ElectionWorld := ℕ → Option Election

namespace ElectionEnv

variable (env : ElectionEnv)

def isSessionClanLeader (sid : ℕ) : Bool :=
  (env.electors sid).any fun c => c.fame = 1 && 0 < c.knightsId

def clanIdOf (name : List Char) : ℕ :=
  ((env.findSessionByName name).bind env.electors).elim 0 Elector.knightsId

def topRankedClans (nation limit : ℕ) : List (ℕ × List Char) :=
  let clans := env.knights.filter fun k => k.nation = nation && k.chief ≠ [] && k.id ≠ 0
  ((clans.mergeSort fun a b => b.points ≤ a.points).take limit).map fun k => (k.id, k.chief)

end ElectionEnv

namespace Election

variable (ks : Election)

def nominationRefused (env : ElectionEnv) (sid : ℕ) (playerName nomineeName : List Char) : Bool :=
  ks.electionType ≠ ELECTION_TYPE_NOMINATION ||
  !env.isSessionClanLeader sid ||
  !ks.senatorList.any (fun e => eqIgnoreAsciiCase e.name playerName) ||
  ks.resignedCandidates.any (fun n => eqIgnoreAsciiCase n playerName) ||
  ks.nominationList.any (fun n => eqIgnoreAsciiCase n.nominator playerName) ||
  ks.nominationList.any (fun n => eqIgnoreAsciiCase n.nominee nomineeName)

def nominate (env : ElectionEnv) (entry : NominationEntry) : Election :=
  { ks with
    candidateList := ks.candidateList ++ [⟨entry.nominee, env.clanIdOf entry.nominee, 0⟩]
    nominationList := ks.nominationList ++ [entry]
    senatorList := ks.senatorList.filter fun e => !eqIgnoreAsciiCase e.name entry.nominator }

def resignRefused (playerName : List Char) : Bool :=
  ks.electionType ≠ ELECTION_TYPE_NOMINATION ||
  !ks.candidateList.any (fun e => eqIgnoreAsciiCase e.name playerName) ||
  !ks.nominationList.any (fun n => eqIgnoreAsciiCase n.nominee playerName)

def resign (playerName : List Char) : Election :=
  { ks with
    candidateList := ks.candidateList.filter fun c => !eqIgnoreAsciiCase c.name playerName
    nominationList := ks.nominationList.filter fun n => !eqIgnoreAsciiCase n.nominee playerName
    noticeBoard := ks.noticeBoard.filter fun n => !eqIgnoreAsciiCase n.1 playerName
    resignedCandidates := ks.resignedCandidates ++ [playerName] }

/-- The day `back` days before the election; there are thirty days to a month. -/
def isDayBefore (back : ℕ) (now : ElectionClock) : Bool :=
  (now.month = if back ≤ ks.day then ks.month else if 1 < ks.month then ks.month - 1 else 12) &&
  now.day = if back ≤ ks.day then ks.day - back else ks.day + (30 - back)

/-- Nominations start two days before the election. -/
def opensNomination (now : ElectionClock) : Bool :=
  ks.electionType = ELECTION_TYPE_NO_TERM && ks.isDayBefore 2 now &&
  now.hour = ks.hour && now.minute = ks.minute

def openNomination (clans : List (ℕ × List Char)) : Election :=
  { ks with
    electionType := ELECTION_TYPE_NOMINATION
    senatorList := clans.map fun clan => ⟨clan.2, clan.1, 0⟩
    candidateList := []
    nominationList := []
    noticeBoard := []
    resignedCandidates := []
    sentFirstMessage := false
    top10ClanSet := clans.map Prod.fst }

def winner (candidates : List ElectionListEntry) : Option ElectionListEntry :=
  candidates.foldl (fun best c =>
    match best with
    | none => some c
    | some b => if b.votes ≤ c.votes then some c else best) none

def endElection : Election :=
  match winner ks.candidateList with
  | none => { ks with electionType := ELECTION_TYPE_TERM_ENDED, sentFirstMessage := false }
  | some c =>
    { ks with
      electionType := ELECTION_TYPE_TERM_ENDED
      newKingName := c.name
      kingVotes := c.votes
      sentFirstMessage := false }

def assignKing (env : ElectionEnv) : Election :=
  { ks with
    kingName := ks.newKingName
    kingClanId := env.clanIdOf ks.newKingName
    electionType := ELECTION_TYPE_NO_TERM
    month := if 12 < (ks.month + 1) % 2 ^ 8 then 1 else (ks.month + 1) % 2 ^ 8
    senatorList := []
    candidateList := []
    nominationList := []
    noticeBoard := []
    resignedCandidates := []
    newKingName := []
    kingVotes := 0
    totalVotes := 0 }

def preHour : ℕ := if 1 ≤ ks.hour then ks.hour - 1 else 23

def assignClock : ElectionClock :=
  let assignMinute := (ks.minute + 5) % 2 ^ 8
  ⟨ks.month, ks.day, (ks.hour + if 60 ≤ assignMinute then 1 else 0) % 2 ^ 8, assignMinute % 60⟩

/-- `check_king_timer`, without the expiry of events. -/
def checkKingTimer (env : ElectionEnv) (nation : ℕ) (now : ElectionClock) : Election :=
  if ks.electionUnderProgress then ks
  else if ks.electionType = ELECTION_TYPE_NO_TERM then
    if ks.opensNomination now then ks.openNomination (env.topRankedClans nation 10) else ks
  else if ks.electionType = ELECTION_TYPE_NOMINATION then
    if ks.isDayBefore 1 now ∧ now.hour = ks.preHour then
      { ks with
        electionType := ELECTION_TYPE_PRE_ELECTION, senatorList := [], sentFirstMessage := false }
    else ks
  else if ks.electionType = ELECTION_TYPE_PRE_ELECTION then
    if ks.isDayBefore 1 now ∧ now.hour = ks.hour ∧ now.minute = ks.minute then
      { ks with electionType := ELECTION_TYPE_ELECTION, sentFirstMessage := false }
    else ks
  else if ks.electionType = ELECTION_TYPE_ELECTION then
    if now = ⟨ks.month, ks.day, ks.hour, ks.minute⟩ then ks.endElection else ks
  else if ks.electionType = ELECTION_TYPE_TERM_ENDED then
    if now = ks.assignClock ∧ ks.newKingName ≠ [] then ks.assignKing env else ks
  else ks

end Election

inductive ElectionStep
  | recommend (env : ElectionEnv) (sid : ℕ) (data : List UInt8)
  | resign (env : ElectionEnv) (sid : ℕ)
  | tick (env : ElectionEnv) (nation : ℕ) (now : ElectionClock)

namespace ElectionWorld

variable (w : ElectionWorld)

def nomination (env : ElectionEnv) (sid : ℕ) (data : List UInt8) : Option (ℕ × NominationEntry) :=
  match env.electors sid, readText 21 (PacketReader.new data) with
  | some c, some (nomineeName, _) =>
    match w c.nation with
    | none => none
    | some ks =>
      if ks.nominationRefused env sid c.name nomineeName then none
      else some (c.nation, ⟨c.name, nomineeName⟩)
  | _, _ => none

def update (nation : ℕ) (f : Election → Election) : ElectionWorld :=
  Function.update w nation ((w nation).map f)

def handleCandidacyRecommend (env : ElectionEnv) (sid : ℕ) (data : List UInt8) : ElectionWorld :=
  match w.nomination env sid data with
  | none => w
  | some (nation, entry) => w.update nation fun ks => ks.nominate env entry

def handleCandidacyResign (env : ElectionEnv) (sid : ℕ) : ElectionWorld :=
  match env.electors sid with
  | none => w
  | some c => w.update c.nation fun ks => if ks.resignRefused c.name then ks else ks.resign c.name

def election : ElectionStep → ElectionWorld
  | .recommend env sid data => w.handleCandidacyRecommend env sid data
  | .resign env sid => w.handleCandidacyResign env sid
  | .tick env nation now => w.update nation fun ks => ks.checkKingTimer env nation now

end ElectionWorld

end KoServer
