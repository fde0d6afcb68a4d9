import KoServer.Spec.ItemMove
import KoServer.Spec.Party

/-! The quests of a character, from `handler/quest.rs`, and the calls with which its scripts save
an event, from `lua_engine/bindings.rs`. -/

namespace KoServer

/-- The row of `quest_helper`. -/
structure QuestHelperRow where
  nIndex : ℤ
  bLevel : ℤ
  bClass : ℤ
  bNation : ℤ
  sNpcId : ℤ
  sEventDataIndex : ℤ
  bEventStatus : ℤ
  nEventTriggerIndex : ℤ
  nEventCompleteIndex : ℤ
  strLuaFilename : List Char
  deriving DecidableEq

/-- The row of `quest_monster`: `s_num1a` is `sNum 0 0`, and `s_count1` is `sCount 0`. -/
structure QuestMonsterRow where
  sQuestNum : ℤ
  sNum : Fin 4 → Fin 4 → ℤ
  sCount : Fin 4 → ℤ

structure UserQuestInfo where
  questState : ℕ := 0
  killCounts : Fin 4 → ℕ := fun _ => 0

abbrev UserQuests := ℕ → Option UserQuestInfo

structure QuestTables where
  questHelpers : ℕ → Option QuestHelperRow
  questMonsters : ℕ → Option QuestMonsterRow

structure QuestPlayer where
  inGame : Bool
  dead : Bool
  character : Option (ℕ × ℕ × ℕ)
  eventNid : Option ℤ
  npcDead : ℕ → Bool
  npcProto : ℕ → Option ℕ
  inNpcRange : ℕ → Bool

/-- `s_event_data_index as u16`. -/
def QuestHelperRow.questId (helper : QuestHelperRow) : ℕ := (helper.sEventDataIndex % 2 ^ 16).toNat

def jobGroupCheck (playerClass : ℕ) (requiredClass : ℤ) : Bool :=
  if requiredClass = 5 then true
  else if 100 < requiredClass then (playerClass : ℤ) = requiredClass
  else
    let base := playerClass % 100
    if requiredClass = 1 then base ∈ [1, 5, 6]
    else if requiredClass = 2 then base ∈ [2, 7, 8]
    else if requiredClass = 3 then base ∈ [3, 9, 10]
    else if requiredClass = 4 then base ∈ [4, 11, 12]
    else if requiredClass = 13 then base ∈ [13, 14, 15]
    else (base : ℤ) = requiredClass

/-- Nation, level and class, in this order in `character`. -/
def validateQuestPrerequisites (player : QuestPlayer) (helper : QuestHelperRow) : Bool :=
  match player.character with
  | none => false
  | some (nation, level, classId) =>
    (helper.bNation = 3 || helper.bNation = (nation : ℤ)) && helper.bLevel ≤ (level : ℤ) &&
      (helper.bClass = 5 || jobGroupCheck classId helper.bClass)

def validateQuestWithNpc (player : QuestPlayer) (helper : QuestHelperRow) : Bool :=
  if helper.sEventDataIndex = 500 then validateQuestPrerequisites player helper
  else
    match player.eventNid with
    | none => false
    | some nid =>
      if nid < 0 then false
      else if player.npcDead nid.toNat then false
      else if (player.npcProto nid.toNat).any (fun protoId => helper.sNpcId ≠ asI16 protoId) then false
      else player.inNpcRange nid.toNat && validateQuestPrerequisites player helper

/-- `save_event`, on the quests of the session. -/
def saveEvent (quests : UserQuests) (questId questState : ℕ) : UserQuests :=
  if questState = 1 then
    -- The kills of a quest that is there are kept.
    Function.update quests questId
      (some ⟨1, ((quests questId).map (·.killCounts)).getD fun _ => 0⟩)
  else if questState = 2 then
    Function.update quests questId (some { (quests questId).getD {} with questState := 2 })
  else if questState = 4 then Function.update quests questId none
  else
    Function.update quests questId
      ((quests questId).map fun info => { info with questState := questState })

structure ScriptRun where
  helper : QuestHelperRow
  eventId : ℤ
  deriving DecidableEq

def handleAccept (quests : UserQuests) (helper : QuestHelperRow) : UserQuests :=
  if (quests helper.questId).any (·.questState = 1) then quests
  else saveEvent quests helper.questId 1

def handleAbandon (quests : UserQuests) (helper : QuestHelperRow) : UserQuests :=
  if (quests helper.questId).isSome then saveEvent quests helper.questId 4 else quests

def handleExecuteHelper (quests : UserQuests) (helper : QuestHelperRow) : Option ScriptRun :=
  if (quests helper.questId).any (·.questState = 2) then none
  else some ⟨helper, helper.nEventTriggerIndex⟩

def lacksKills (monsters : Option QuestMonsterRow) (killCounts : Fin 4 → ℕ) : Bool :=
  match monsters with
  | none => false
  | some row =>
    row.sQuestNum ≠ 812 && (List.finRange 4).any fun group =>
      0 < row.sCount group && (killCounts group : ℤ) ≠ row.sCount group

def handleCheckFulfill (t : QuestTables) (quests : UserQuests) (helper : QuestHelperRow) :
    Option ScriptRun :=
  let info := (quests helper.questId).getD {}
  if info.questState ≠ 1 then none
  else if lacksKills (t.questMonsters helper.questId) info.killCounts then none
  else some ⟨helper, helper.nEventCompleteIndex⟩

inductive QuestAction
  | nothing
  | accept (helper : QuestHelperRow)
  | abandon (helper : QuestHelperRow)
  | checkFulfill (helper : QuestHelperRow)
  | execute (helper : QuestHelperRow)

def questAction (t : QuestTables) (player : QuestPlayer) (subOpcode questHelperId : ℕ) :
    QuestAction :=
  if !player.inGame || player.dead then .nothing
  else
    match t.questHelpers questHelperId with
    | none => .nothing
    | some helper =>
      if subOpcode = 4 ∨ subOpcode = 5 ∨ subOpcode = 12 then
        if !validateQuestPrerequisites player helper then .nothing
        else if subOpcode = 5 then .abandon helper
        else if subOpcode = 4 then .checkFulfill helper
        else .accept helper
      else if subOpcode = 3 ∨ subOpcode = 7 then
        if !validateQuestWithNpc player helper then .nothing else .execute helper
      else .nothing

def performQuest (t : QuestTables) (quests : UserQuests) :
    QuestAction → UserQuests × Option ScriptRun
  | .nothing => (quests, none)
  | .accept helper => (handleAccept quests helper, none)
  | .abandon helper => (handleAbandon quests helper, none)
  | .checkFulfill helper => (quests, handleCheckFulfill t quests helper)
  | .execute helper => (quests, handleExecuteHelper quests helper)

/-- The monsters of a group, one after the other: the counter, and whether it was counted up. The
counter is a `u8`. -/
def countGroup (npc required : ℤ) (ids : List ℤ) (count : ℕ × Bool) : ℕ × Bool :=
  ids.foldl (fun (count, updated) mobId =>
    if mobId ≠ npc then (count, updated)
    else if required < (count : ℤ) + 1 then (count, updated)
    else ((count + 1) % 256, true)) count

/-- `npc_proto_id as i16`. -/
def questMonsterGroup (row : QuestMonsterRow) (npcProtoId : ℕ) (info : UserQuestInfo)
    (group : Fin 4) : ℕ × Bool :=
  countGroup (asI16 npcProtoId) (row.sCount group) (List.ofFn (row.sNum group))
    (info.killCounts group, false)

def killQuest (row : Option QuestMonsterRow) (npcProtoId : ℕ) (info : UserQuestInfo) :
    UserQuestInfo :=
  if info.questState ≠ 1 then info
  else
    match row with
    | none => info
    | some row =>
      let tracked := questMonsterGroup row npcProtoId info
      if (List.finRange 4).any fun group => (tracked group).2 then
        { killCounts := fun group => (tracked group).1
          questState :=
            if (List.finRange 4).all fun group =>
              row.sCount group ≤ 0 || row.sCount group ≤ ((tracked group).1 : ℤ) then 3
            else info.questState }
      else info

def questMonsterCountAdd (t : QuestTables) (quests : UserQuests) (npcProtoId : ℕ) : UserQuests :=
  fun questId => (quests questId).map (killQuest (t.questMonsters questId) npcProtoId)

/-- `SaveEvent(uid, quest_helper_id)` of a script. -/
def luaSaveEvent (t : QuestTables) (quests : UserQuests) (questHelperId : ℕ) : UserQuests :=
  match t.questHelpers questHelperId with
  | none => quests
  | some helper =>
    let questId := helper.questId
    let status := asU8 helper.bEventStatus
    if status = 1 then Function.update quests questId (some ⟨1, fun _ => 0⟩)
    else if status = 4 then Function.update quests questId none
    else Function.update quests questId (some { (quests questId).getD {} with questState := status })

inductive QuestEvent
  | request (player : QuestPlayer) (subOpcode questHelperId : ℕ)
  | kill (npcProtoId : ℕ)
  /-- A script that a request has started saves an event. -/
  | luaSave (questHelperId : ℕ)

def questEvent (t : QuestTables) (quests : UserQuests) :
    QuestEvent → UserQuests × Option ScriptRun
  | .request player subOpcode questHelperId =>
    performQuest t quests (questAction t player subOpcode questHelperId)
  | .kill npcProtoId => (questMonsterCountAdd t quests npcProtoId, none)
  | .luaSave questHelperId => (luaSaveEvent t quests questHelperId, none)

end KoServer
