import KoServer.Spec.Knights

/-! Alliances of clans, from `handler/knights.rs` and the alliance methods of `world/social.rs`. A
clan names its alliance, and the alliance has the clan in one of its places; the two are written
one after the other. -/

namespace KoServer

structure KnightsAlliance where
  mainClan : ℕ
  subClan : ℕ
  mercenary1 : ℕ
  mercenary2 : ℕ
deriving DecidableEq

namespace KnightsAlliance

variable (a : KnightsAlliance) (clanId : ℕ)

def isFull : Bool := 0 < a.subClan && 0 < a.mercenary1 && 0 < a.mercenary2

def isEmpty : Bool := a.subClan = 0 && a.mercenary1 = 0 && a.mercenary2 = 0

/-- The first free place. -/
def insert : KnightsAlliance :=
  if a.subClan = 0 then { a with subClan := clanId }
  else if a.mercenary1 = 0 then { a with mercenary1 := clanId }
  else if a.mercenary2 = 0 then { a with mercenary2 := clanId }
  else a

/-- Every place of the clan but the main one. -/
def clear : KnightsAlliance :=
  { a with
    subClan := if a.subClan = clanId then 0 else a.subClan
    mercenary1 := if a.mercenary1 = clanId then 0 else a.mercenary1
    mercenary2 := if a.mercenary2 = clanId then 0 else a.mercenary2 }

end KnightsAlliance

structure AllianceWorld extends ClanWorld where
  alliances : ℕ → Option KnightsAlliance

namespace AllianceWorld

variable (s : AllianceWorld)

def updateKnights (clanId : ℕ) (updater : KnightsInfo → KnightsInfo) : AllianceWorld :=
  { s with toClanWorld := s.toClanWorld.updateKnights clanId updater }

def setAlliance (clanId allianceId : ℕ) : AllianceWorld :=
  s.updateKnights clanId fun k => { k with alliance := allianceId }

def insertAlliance (a : KnightsAlliance) : AllianceWorld :=
  { s with alliances := Function.update s.alliances a.mainClan (some a) }

def removeAlliance (mainClanId : ℕ) : AllianceWorld :=
  { s with alliances := Function.update s.alliances mainClanId none }

def updateAlliance (mainClanId : ℕ) (updater : KnightsAlliance → KnightsAlliance) : AllianceWorld :=
  { s with
    alliances := Function.update s.alliances mainClanId ((s.alliances mainClanId).map updater) }

/-- An invitation, to an alliance that is founded with it or to the one there is. -/
def handleAllianceCreate (sid targetSid : ℕ) (isInsert : Bool) : AllianceWorld :=
  match s.sessions sid with
  | none => s
  | some ch =>
    if ch.fame ≠ CHIEF then s
    else
      match s.knights ch.knightsId with
      | none => s
      | some mainClan =>
        if mainClan.flag ≤ 1 then s
        else
          match s.sessions targetSid with
          | none => s
          | some targetCh =>
            match s.knights targetCh.knightsId with
            | none => s
            | some targetClan =>
              if ch.nation ≠ targetCh.nation ∨ targetCh.fame ≠ CHIEF ∨ 0 < targetClan.alliance ∨
                  0 < targetClan.allianceReq then s
              else
                let refused :=
                  if isInsert then ((s.alliances mainClan.id).map KnightsAlliance.isFull).getD true
                  else 0 < mainClan.alliance
                if refused then s
                else s.updateKnights targetClan.id fun k => { k with allianceReq := mainClan.id }

/-- An invitation is accepted: `our` clan comes to the alliance of the main clan. -/
def acceptAlliance (ourClan mainClan : KnightsInfo) : AllianceWorld :=
  match s.alliances mainClan.id with
  | some alliance =>
    if mainClan.alliance = 0 ∨ alliance.mainClan ≠ mainClan.alliance ∨
        alliance.mercenary1 = ourClan.id ∨ alliance.mercenary2 = ourClan.id ∨
        alliance.subClan = ourClan.id then s
    else if alliance.isFull then s
    else
      (s.updateAlliance mainClan.id fun a => a.insert ourClan.id).setAlliance ourClan.id mainClan.id
  | none =>
    ((s.insertAlliance ⟨mainClan.id, ourClan.id, 0, 0⟩).setAlliance mainClan.id mainClan.id).setAlliance
      ourClan.id mainClan.id

def handleAllianceReq (sid decision : ℕ) : AllianceWorld :=
  match s.sessions sid with
  | none => s
  | some ch =>
    if ch.fame ≠ CHIEF then s
    else
      match s.knights ch.knightsId with
      | none => s
      | some ourClan =>
        if ourClan.allianceReq = 0 ∨ 0 < ourClan.alliance then s
        else
          let s := s.updateKnights ourClan.id fun k => { k with allianceReq := 0 }
          if decision ≠ 1 then s
          else
            match s.knights ourClan.allianceReq with
            | none => s
            | some mainClan => if mainClan.flag ≤ 1 then s else s.acceptAlliance ourClan mainClan

/-- A clan that is not the main one goes, and the alliance with it when it was the last. -/
def leaveAlliance (mainClan clanId : ℕ) : AllianceWorld :=
  let s := s.updateAlliance mainClan fun a => a.clear clanId
  let s := s.setAlliance clanId 0
  match s.alliances mainClan with
  | none => s
  | some a => if a.isEmpty then (s.setAlliance mainClan 0).removeAlliance mainClan else s

def handleAllianceRemove (sid : ℕ) : AllianceWorld :=
  match s.sessions sid with
  | none => s
  | some ch =>
    if ch.fame ≠ CHIEF then s
    else
      match s.knights ch.knightsId with
      | none => s
      | some ourClan =>
        if ourClan.alliance = 0 then s
        else
          match s.alliances ourClan.alliance with
          | none => s
          | some a =>
            if ourClan.id = a.mainClan then
              let clanIds := [a.mainClan, a.subClan, a.mercenary1, a.mercenary2]
              (clanIds.foldl (fun s cid => if cid = 0 then s else s.setAlliance cid 0)
                s).removeAlliance a.mainClan
            else s.leaveAlliance a.mainClan ourClan.id

def handleAlliancePunish (sid targetClanId : ℕ) : AllianceWorld :=
  match s.sessions sid with
  | none => s
  | some ch =>
    if ch.fame ≠ CHIEF then s
    else
      match s.knights ch.knightsId, s.knights targetClanId with
      | some ourClan, some targetClan =>
        if ourClan.alliance ≠ ourClan.id then s
        else
          match s.alliances ourClan.id with
          | none => s
          | some a =>
            if targetClanId = a.mainClan then s
            else if targetClan.alliance ≠ a.mainClan ∨ targetClanId ≠ a.subClan ∧
                targetClanId ≠ a.mercenary1 ∧ targetClanId ≠ a.mercenary2 then s
            else s.leaveAlliance a.mainClan targetClanId
      | _, _ => s

end AllianceWorld

inductive AllianceRequest
  | create (targetSid : ℕ)
  | insert (targetSid : ℕ)
  | req (decision : ℕ)
  | remove
  | punish (targetClanId : ℕ)
  | destroy

def AllianceWorld.alliance (s : AllianceWorld) (step : ClanStep AllianceRequest) : AllianceWorld :=
  if step.env.isPlayerDead then s
  else
    match step.request with
    | .create targetSid => s.handleAllianceCreate step.sid targetSid false
    | .insert targetSid => s.handleAllianceCreate step.sid targetSid true
    | .req decision => s.handleAllianceReq step.sid decision
    | .remove => s.handleAllianceRemove step.sid
    | .punish targetClanId => s.handleAlliancePunish step.sid targetClanId
    | .destroy => { s with toClanWorld := s.toClanWorld.handleDestroy step.env step.sid }

end KoServer
