import KoServer.Spec.Quest
import KoServer.Lib.Run

/-! The progress of a quest over runs of requests, kills and the saves of the scripts. -/

namespace KoServer

/-- How many monsters of the group the kill counts for. -/
def groupHits (npc : ℤ) (ids : List ℤ) : ℕ := ids.countP (· = npc)

theorem countGroup_cons (npc required : ℤ) (id : ℤ) (ids : List ℤ) (count : ℕ) (updated : Bool) :
    countGroup npc required (id :: ids) (count, updated) =
      countGroup npc required ids
        (if id ≠ npc ∨ required < (count : ℤ) + 1 then (count, updated)
          else ((count + 1) % 256, true)) := by
  change countGroup npc required ids _ = _
  congr 1
  by_cases hid : id = npc
  · by_cases hreq : required < (count : ℤ) + 1
    · simp [hid, hreq]
    · simp [hid, hreq]
  · simp [hid]

theorem groupHits_cons (npc id : ℤ) (ids : List ℤ) :
    groupHits npc (id :: ids) = groupHits npc ids + if id = npc then 1 else 0 := by
  unfold groupHits
  rw [List.countP_cons]
  simp

theorem countGroup_updated {npc required : ℤ} {ids : List ℤ} {count : ℕ} :
    (countGroup npc required ids (count, true)).2 = true := by
  induction ids generalizing count with
  | nil => rfl
  | cons id ids ih =>
    rw [countGroup_cons]
    split_ifs
    · exact ih
    · exact ih

theorem countGroup_same {npc required : ℤ} {ids : List ℤ} {count : ℕ}
    (h : (countGroup npc required ids (count, false)).2 = false) :
    (countGroup npc required ids (count, false)).1 = count := by
  induction ids with
  | nil => rfl
  | cons id ids ih =>
    rw [countGroup_cons] at h ⊢
    split_ifs at h ⊢
    · exact ih h
    · rw [countGroup_updated] at h
      cases h

/-- Without a wrap of the byte a counter climbs, and no further than its requirement. -/
theorem countGroup_climbs {npc required : ℤ} {ids : List ℤ} {count : ℕ} {updated : Bool}
    (hcount : count ≤ 255) (hfits : required ≤ 255 ∨ count + groupHits npc ids ≤ 255) :
    count ≤ (countGroup npc required ids (count, updated)).1 ∧
      (countGroup npc required ids (count, updated)).1 ≤ 255 ∧
      ((countGroup npc required ids (count, updated)).1 = count ∨
        ((countGroup npc required ids (count, updated)).1 : ℤ) ≤ required) := by
  induction ids generalizing count updated with
  | nil => exact ⟨le_rfl, hcount, Or.inl rfl⟩
  | cons id ids ih =>
    have hhits := groupHits_cons npc id ids
    rw [countGroup_cons]
    split_ifs with hskip
    · exact ih hcount (by split_ifs at hhits <;> omega)
    · push Not at hskip
      rw [if_pos hskip.1] at hhits
      have hmod : (count + 1) % 256 = count + 1 := Nat.mod_eq_of_lt (by omega)
      rw [hmod]
      obtain ⟨hle, h255, hbound⟩ := @ih (count + 1) true (by omega) (by omega)
      refine ⟨by omega, h255, Or.inr ?_⟩
      rcases hbound with heq | hbound
      · omega
      · exact hbound

/-- A requirement that no byte reaches: every hit counts, and the counter wraps. -/
theorem countGroup_wraps {npc required : ℤ} {ids : List ℤ} {count : ℕ} {updated : Bool}
    (hcount : count ≤ 255) (hreq : 255 < required) :
    (countGroup npc required ids (count, updated)).1 = (count + groupHits npc ids) % 256 := by
  induction ids generalizing count updated with
  | nil => exact (Nat.mod_eq_of_lt (by change count < 256; omega)).symm
  | cons id ids ih =>
    have hhits := groupHits_cons npc id ids
    rw [countGroup_cons]
    split_ifs with hskip
    · have hid : id ≠ npc := hskip.resolve_right (by omega)
      rw [if_neg hid] at hhits
      rw [ih hcount, hhits, Nat.add_zero]
    · push Not at hskip
      rw [if_pos hskip.1] at hhits
      rw [ih (by omega), hhits]
      omega

def QuestMonsterRow.Met (row : QuestMonsterRow) (kills : Fin 4 → ℕ) : Prop :=
  ∀ group, 0 < row.sCount group → (kills group : ℤ) = row.sCount group

def UserQuestInfo.Active (info : UserQuestInfo) : Prop :=
  info.questState = 1 ∨ info.questState = 3

/-- The entry of a quest: its counters are within their bounds, and it is ready exactly where it
should be. -/
structure SoundEntry (row : QuestMonsterRow) (info : UserQuestInfo) : Prop where
  bytes : ∀ group, info.killCounts group ≤ 255
  bounded : ∀ group, 0 < row.sCount group → (info.killCounts group : ℤ) ≤ row.sCount group
  ready : info.questState = 3 → row.Met info.killCounts
  ongoing : info.questState = 1 → ¬row.Met info.killCounts

structure EntryProgress (row : QuestMonsterRow) (entry entry' : Option UserQuestInfo) : Prop where
  counters : ∀ info info', entry = some info → entry' = some info' → info.questState = 1 →
    info'.Active → ∀ group, info.killCounts group ≤ info'.killCounts group
  bounded : ∀ info', entry' = some info' → info'.Active → ∀ group, 0 < row.sCount group →
    (info'.killCounts group : ℤ) ≤ row.sCount group
  ready : ∀ info', entry' = some info' → info'.Active →
    (info'.questState = 3 ↔ row.Met info'.killCounts)
  completed : ∀ info, entry = some info → info.questState = 2 →
    ∃ info', entry' = some info' ∧ info'.questState = 2

def SoundQuest (row : QuestMonsterRow) (entry : Option UserQuestInfo) : Prop :=
  ∀ info, entry = some info → SoundEntry row info

section entry

variable {row : QuestMonsterRow} {entry : Option UserQuestInfo}

theorem SoundEntry.ready_iff {info : UserQuestInfo} (h : SoundEntry row info)
    (hactive : info.Active) : info.questState = 3 ↔ row.Met info.killCounts := by
  constructor
  · exact h.ready
  · intro hmet
    rcases hactive with hone | hthree
    · exact absurd hmet (h.ongoing hone)
    · exact hthree

theorem entryProgress_refl (h : SoundQuest row entry) : EntryProgress row entry entry where
  counters info info' hi hi' _ _ group := by
    obtain rfl := Option.some.inj (hi.symm.trans hi')
    exact le_rfl
  bounded info' hi' _ := (h info' hi').bounded
  ready info' hi' hactive := (h info' hi').ready_iff hactive
  completed info hi hstate := ⟨info, hi, hstate⟩

/-- No kills meet no requirement. -/
theorem not_met_zero (hreq : ∃ group, 0 < row.sCount group) : ¬row.Met fun _ => 0 := by
  intro hmet
  obtain ⟨group, hgroup⟩ := hreq
  have := hmet group hgroup
  change ((0 : ℕ) : ℤ) = _ at this
  omega

def acceptedEntry (entry : Option UserQuestInfo) : UserQuestInfo :=
  ⟨1, (entry.map (·.killCounts)).getD fun _ => 0⟩

theorem accepted_sound (hreq : ∃ group, 0 < row.sCount group) (h : SoundQuest row entry)
    (hfresh : ∀ info, entry = some info → ¬row.Met info.killCounts) :
    SoundEntry row (acceptedEntry entry) := by
  cases entry with
  | none =>
    exact ⟨fun _ => Nat.zero_le _, fun _ hgroup => hgroup.le, nofun, fun _ => not_met_zero hreq⟩
  | some info =>
    have hi := h info rfl
    exact ⟨hi.bytes, hi.bounded, nofun, fun _ => hfresh info rfl⟩

theorem accepted_progress_iff (hreq : ∃ group, 0 < row.sCount group) (h : SoundQuest row entry) :
    EntryProgress row entry (some (acceptedEntry entry)) ↔
      ∀ info, entry = some info → info.questState ≠ 2 ∧ ¬row.Met info.killCounts := by
  constructor
  · rintro hp info rfl
    refine ⟨fun hstate => ?_, fun hmet => ?_⟩
    · obtain ⟨info', hi', htwo⟩ := hp.completed info rfl hstate
      obtain rfl := Option.some.inj hi'
      cases htwo
    · exact absurd ((hp.ready _ rfl (Or.inl rfl)).mpr hmet) (by change (1 : ℕ) ≠ 3; decide)
  · intro hfresh
    have hs := accepted_sound hreq h fun info hi => (hfresh info hi).2
    exact
      { counters := fun info info' hi hi' _ _ group => by
          obtain rfl := Option.some.inj hi'
          rw [hi]
          exact le_rfl
        bounded := fun info' hi' _ => by
          obtain rfl := Option.some.inj hi'
          exact hs.bounded
        ready := fun info' hi' hactive => by
          obtain rfl := Option.some.inj hi'
          exact hs.ready_iff hactive
        completed := fun info hi hstate => absurd hstate (hfresh info hi).1 }

theorem removed_progress_iff :
    EntryProgress row entry none ↔ ∀ info, entry = some info → info.questState ≠ 2 := by
  constructor
  · intro hp info hi hstate
    obtain ⟨info', hi', -⟩ := hp.completed info hi hstate
    cases hi'
  · intro h
    exact ⟨nofun, nofun, nofun, fun info hi hstate => absurd hstate (h info hi)⟩

variable {npcProtoId : ℕ} {info : UserQuestInfo}

def FitsKill (row : QuestMonsterRow) (npcProtoId : ℕ) (info : UserQuestInfo) : Prop :=
  ∀ group, row.sCount group ≤ 255 ∨
    info.killCounts group + groupHits (asI16 npcProtoId) (List.ofFn (row.sNum group)) ≤ 255

theorem groupHits_le (npc : ℤ) (ids : Fin 4 → ℤ) : groupHits npc (List.ofFn ids) ≤ 4 := by
  refine List.countP_le_length.trans ?_
  rw [List.length_ofFn]

theorem killQuest_of_same (hsame : ∀ group, (questMonsterGroup row npcProtoId info group).2 = false) :
    killQuest (some row) npcProtoId info = info := by
  unfold killQuest
  split_ifs with hstate
  · rfl
  · dsimp only
    rw [if_neg]
    simp [hsame]

theorem questMonsterGroup_same {group : Fin 4}
    (h : (questMonsterGroup row npcProtoId info group).2 = false) :
    (questMonsterGroup row npcProtoId info group).1 = info.killCounts group := countGroup_same h

theorem killQuest_killCounts (hstate : info.questState = 1) (group : Fin 4) :
    (killQuest (some row) npcProtoId info).killCounts group =
      (questMonsterGroup row npcProtoId info group).1 := by
  unfold killQuest
  rw [if_neg (by omega)]
  dsimp only
  by_cases hany : ((List.finRange 4).any fun group =>
      (questMonsterGroup row npcProtoId info group).2) = true
  · rw [if_pos hany]
  · rw [if_neg hany]
    have hsame : (questMonsterGroup row npcProtoId info group).2 = false := by
      by_contra hupd
      exact hany (List.any_eq_true.mpr ⟨group, List.mem_finRange group, by simpa using hupd⟩)
    exact (questMonsterGroup_same hsame).symm

theorem killQuest_state (hstate : info.questState = 1)
    (hany : ∃ group, (questMonsterGroup row npcProtoId info group).2 = true) :
    (killQuest (some row) npcProtoId info).questState =
      if ∀ group, row.sCount group ≤ 0 ∨
        row.sCount group ≤ ((questMonsterGroup row npcProtoId info group).1 : ℤ) then 3 else 1 := by
  obtain ⟨group, hgroup⟩ := hany
  unfold killQuest
  rw [if_neg (by omega)]
  dsimp only
  rw [if_pos (List.any_eq_true.mpr ⟨group, List.mem_finRange group, hgroup⟩), hstate]
  refine if_congr ?_ rfl rfl
  simp [List.all_eq_true]

theorem killQuest_sound (h : SoundEntry row info) (hstate : info.questState = 1)
    (hfits : FitsKill row npcProtoId info) :
    SoundEntry row (killQuest (some row) npcProtoId info) ∧
      (∀ group, info.killCounts group ≤
        (killQuest (some row) npcProtoId info).killCounts group) := by
  have hclimbs : ∀ group, info.killCounts group ≤ (questMonsterGroup row npcProtoId info group).1 ∧
      (questMonsterGroup row npcProtoId info group).1 ≤ 255 ∧
      ((questMonsterGroup row npcProtoId info group).1 = info.killCounts group ∨
        ((questMonsterGroup row npcProtoId info group).1 : ℤ) ≤ row.sCount group) :=
    fun group => countGroup_climbs (h.bytes group) (hfits group)
  have hcounts : ∀ group, (killQuest (some row) npcProtoId info).killCounts group =
      (questMonsterGroup row npcProtoId info group).1 := killQuest_killCounts hstate
  have hbounded : ∀ group, 0 < row.sCount group →
      ((killQuest (some row) npcProtoId info).killCounts group : ℤ) ≤ row.sCount group := by
    intro group hgroup
    rw [hcounts]
    rcases (hclimbs group).2.2 with heq | hle
    · rw [heq]
      exact h.bounded group hgroup
    · exact hle
  refine ⟨⟨fun group => ?_, hbounded, ?_, ?_⟩, fun group => ?_⟩
  · rw [hcounts]
    exact (hclimbs group).2.1
  · intro hthree
    by_cases hany : ∃ group, (questMonsterGroup row npcProtoId info group).2 = true
    · rw [killQuest_state hstate hany] at hthree
      split_ifs at hthree with hall
      · intro group hgroup
        refine le_antisymm (hbounded group hgroup) ?_
        rw [hcounts]
        exact (hall group).resolve_left (by omega)
      · cases hthree
    · push Not at hany
      rw [killQuest_of_same fun group => by simpa using hany group] at hthree
      rw [hstate] at hthree
      cases hthree
  · intro hone hmet
    by_cases hany : ∃ group, (questMonsterGroup row npcProtoId info group).2 = true
    · rw [killQuest_state hstate hany, if_pos] at hone
      · cases hone
      · intro group
        rcases le_or_gt (row.sCount group) 0 with hle | hgt
        · exact Or.inl hle
        · refine Or.inr ?_
          rw [← hcounts, hmet group hgt]
    · push Not at hany
      rw [killQuest_of_same fun group => by simpa using hany group] at hmet
      exact h.ongoing hstate hmet
  · rw [hcounts]
    exact (hclimbs group).1

/-- A requirement beyond a byte: at the 256th kill the counter starts again. -/
theorem killQuest_wraps (h : SoundEntry row info) (hstate : info.questState = 1)
    (hfits : ¬FitsKill row npcProtoId info) :
    (killQuest (some row) npcProtoId info).questState = 1 ∧
      ∃ group, (killQuest (some row) npcProtoId info).killCounts group < info.killCounts group := by
  unfold FitsKill at hfits
  push Not at hfits
  obtain ⟨group, hreq, hover⟩ := hfits
  have hhits := groupHits_le (asI16 npcProtoId) (row.sNum group)
  have hbyte := h.bytes group
  have hcount : (questMonsterGroup row npcProtoId info group).1 =
      (info.killCounts group + groupHits (asI16 npcProtoId) (List.ofFn (row.sNum group))) % 256 :=
    countGroup_wraps hbyte hreq
  have hless : (questMonsterGroup row npcProtoId info group).1 < info.killCounts group := by
    omega
  have hany : ∃ group, (questMonsterGroup row npcProtoId info group).2 = true := by
    refine ⟨group, ?_⟩
    by_contra hsame
    have := questMonsterGroup_same (by simpa using hsame)
    omega
  refine ⟨?_, group, ?_⟩
  · rw [killQuest_state hstate hany, if_neg]
    intro hall
    rcases hall group with hle | hle
    · omega
    · omega
  · rw [killQuest_killCounts hstate]
    exact hless

theorem killed_progress_iff (h : SoundQuest row entry) :
    EntryProgress row entry (entry.map (killQuest (some row) npcProtoId)) ↔
      ∀ info, entry = some info → info.questState = 1 → FitsKill row npcProtoId info := by
  constructor
  · rintro hp info rfl hstate
    by_contra hfits
    obtain ⟨hone, group, hless⟩ := killQuest_wraps (h info rfl) hstate hfits
    exact absurd (hp.counters info _ rfl rfl hstate (Or.inl hone) group) (by omega)
  · intro hfits
    cases entry with
    | none => exact entryProgress_refl h
    | some info =>
      by_cases hstate : info.questState = 1
      · obtain ⟨hs, hle⟩ := killQuest_sound (h info rfl) hstate (hfits info rfl hstate)
        exact
          { counters := fun info₀ info' hi hi' _ _ group => by
              obtain rfl := Option.some.inj hi
              obtain rfl := Option.some.inj hi'
              exact hle group
            bounded := fun info' hi' _ => by
              obtain rfl := Option.some.inj hi'
              exact hs.bounded
            ready := fun info' hi' hactive => by
              obtain rfl := Option.some.inj hi'
              exact hs.ready_iff hactive
            completed := fun info₀ hi htwo => by
              obtain rfl := Option.some.inj hi
              rw [hstate] at htwo
              cases htwo }
      · have hsame : killQuest (some row) npcProtoId info = info := if_pos hstate
        rw [Option.map_some, hsame]
        exact entryProgress_refl h

def savedEntry (status : ℕ) (entry : Option UserQuestInfo) : Option UserQuestInfo :=
  if status = 1 then some ⟨1, fun _ => 0⟩
  else if status = 4 then none
  else some { entry.getD {} with questState := status }

/-- A save that fits the progress of the quest: it starts no quest that has kills or is completed,
it makes no quest ready whose kills are missing, and leaves a completed one completed. -/
def FitsSave (row : QuestMonsterRow) (status : ℕ) (entry : Option UserQuestInfo) : Prop :=
  if status = 1 then
    ∀ info, entry = some info → info.questState ≠ 2 ∧
      (info.questState = 1 → ∀ group, info.killCounts group = 0)
  else if status = 2 then True
  else if status = 3 then
    ∃ info, entry = some info ∧ info.questState ≠ 2 ∧ row.Met info.killCounts
  else ∀ info, entry = some info → info.questState ≠ 2

theorem zero_sound (hreq : ∃ group, 0 < row.sCount group) : SoundEntry row ⟨1, fun _ => 0⟩ :=
  ⟨fun _ => Nat.zero_le _, fun _ hgroup => hgroup.le, nofun, fun _ => not_met_zero hreq⟩

theorem started_progress_iff (hreq : ∃ group, 0 < row.sCount group) :
    EntryProgress row entry (some ⟨1, fun _ => 0⟩) ↔
      ∀ info, entry = some info → info.questState ≠ 2 ∧
        (info.questState = 1 → ∀ group, info.killCounts group = 0) := by
  constructor
  · rintro hp info rfl
    refine ⟨fun htwo => ?_, fun hone group => ?_⟩
    · obtain ⟨info', hi', htwo'⟩ := hp.completed info rfl htwo
      obtain rfl := Option.some.inj hi'
      cases htwo'
    · exact Nat.le_zero.mp (hp.counters info _ rfl rfl hone (Or.inl rfl) group)
  · intro hfits
    exact
      { counters := fun info info' hi hi' hone _ group => by
          rw [(hfits info hi).2 hone group]
          exact Nat.zero_le _
        bounded := fun info' hi' _ => by
          obtain rfl := Option.some.inj hi'
          exact (zero_sound hreq).bounded
        ready := fun info' hi' hactive => by
          obtain rfl := Option.some.inj hi'
          exact (zero_sound hreq).ready_iff hactive
        completed := fun info hi htwo => absurd htwo (hfits info hi).1 }

theorem getD_counts (h : SoundQuest row entry) :
    (∀ group, (entry.getD {}).killCounts group ≤ 255) ∧
      ∀ group, 0 < row.sCount group → ((entry.getD {}).killCounts group : ℤ) ≤ row.sCount group := by
  cases entry with
  | none => exact ⟨fun _ => Nat.zero_le _, fun _ hgroup => hgroup.le⟩
  | some info => exact ⟨(h info rfl).bytes, (h info rfl).bounded⟩

theorem ready_progress_iff (hreq : ∃ group, 0 < row.sCount group) (h : SoundQuest row entry) :
    EntryProgress row entry (some { entry.getD {} with questState := 3 }) ↔
      ∃ info, entry = some info ∧ info.questState ≠ 2 ∧ row.Met info.killCounts := by
  constructor
  · intro hp
    have hmet := (hp.ready _ rfl (Or.inr rfl)).mp rfl
    cases entry with
    | none => exact absurd hmet (not_met_zero hreq)
    | some info =>
      refine ⟨info, rfl, fun htwo => ?_, hmet⟩
      obtain ⟨info', hi', htwo'⟩ := hp.completed info rfl htwo
      obtain rfl := Option.some.inj hi'
      cases htwo'
  · rintro ⟨info, rfl, hne, hmet⟩
    exact
      { counters := fun info₀ info' hi hi' _ _ group => by
          obtain rfl := Option.some.inj hi
          obtain rfl := Option.some.inj hi'
          exact le_rfl
        bounded := fun info' hi' _ => by
          obtain rfl := Option.some.inj hi'
          exact (h info rfl).bounded
        ready := fun info' hi' _ => by
          obtain rfl := Option.some.inj hi'
          exact iff_of_true rfl hmet
        completed := fun info₀ hi htwo => by
          obtain rfl := Option.some.inj hi
          exact absurd htwo hne }

theorem other_progress_iff {status : ℕ} (hone : status ≠ 1) (hthree : status ≠ 3) :
    EntryProgress row entry (some { entry.getD {} with questState := status }) ↔
      (status ≠ 2 → ∀ info, entry = some info → info.questState ≠ 2) := by
  have hactive : ∀ info', some { entry.getD {} with questState := status } = some info' →
      ¬info'.Active := by
    intro info' hi' hactive
    obtain rfl := Option.some.inj hi'
    exact hactive.elim hone hthree
  constructor
  · intro hp htwo info hi hstate
    obtain ⟨info', hi', htwo'⟩ := hp.completed info hi hstate
    obtain rfl := Option.some.inj hi'
    exact htwo htwo'
  · intro hne
    refine ⟨fun info info' _ hi' _ ha => absurd ha (hactive info' hi'),
      fun info' hi' ha => absurd ha (hactive info' hi'),
      fun info' hi' ha => absurd ha (hactive info' hi'), fun info hi hstate => ?_⟩
    refine ⟨_, rfl, ?_⟩
    by_contra htwo
    exact hne htwo info hi hstate

theorem saved_progress_iff {status : ℕ} (hreq : ∃ group, 0 < row.sCount group)
    (h : SoundQuest row entry) :
    EntryProgress row entry (savedEntry status entry) ↔ FitsSave row status entry := by
  unfold savedEntry FitsSave
  by_cases hone : status = 1
  · rw [if_pos hone, if_pos hone]
    exact started_progress_iff hreq
  rw [if_neg hone, if_neg hone]
  by_cases hfour : status = 4
  · subst hfour
    exact removed_progress_iff
  rw [if_neg hfour]
  by_cases hthree : status = 3
  · subst hthree
    exact ready_progress_iff hreq h
  rw [other_progress_iff hone hthree, if_neg hthree]
  by_cases htwo : status = 2
  · simp [htwo]
  · rw [if_neg htwo]
    exact ⟨fun h => h htwo, fun h _ => h⟩

theorem saved_sound {status : ℕ} (hreq : ∃ group, 0 < row.sCount group) (h : SoundQuest row entry)
    (hfits : FitsSave row status entry) : SoundQuest row (savedEntry status entry) := by
  intro info' hi'
  unfold savedEntry at hi'
  split_ifs at hi' with hone hfour
  · obtain rfl := Option.some.inj hi'
    exact zero_sound hreq
  · obtain rfl := Option.some.inj hi'
    obtain ⟨hbytes, hbounded⟩ := getD_counts h
    refine ⟨hbytes, hbounded, fun hthree => ?_, fun hone' => absurd hone' hone⟩
    change status = 3 at hthree
    unfold FitsSave at hfits
    rw [if_neg hone, if_neg (by omega), if_pos hthree] at hfits
    obtain ⟨info, rfl, -, hmet⟩ := hfits
    exact hmet

end entry

section requests

variable {t : QuestTables} {player : QuestPlayer} {subOpcode questHelperId : ℕ}
  {helper : QuestHelperRow}

theorem questAction_checkFulfill :
    questAction t player subOpcode questHelperId = .checkFulfill helper ↔
      player.inGame = true ∧ player.dead = false ∧ t.questHelpers questHelperId = some helper ∧
        subOpcode = 4 ∧ validateQuestPrerequisites player helper = true := by
  unfold questAction
  cases hgame : player.inGame <;> cases hdead : player.dead <;> simp
  cases hhelper : t.questHelpers questHelperId with
  | none => simp
  | some helper' =>
    dsimp only
    constructor
    · intro h
      split_ifs at h with hop hvalid h5 h4
      · simp only [QuestAction.checkFulfill.injEq] at h
        subst h
        exact ⟨rfl, h4, by simpa using hvalid⟩
    · rintro ⟨hsame, rfl, hvalid⟩
      obtain rfl := Option.some.inj hsame
      simp [hvalid]

theorem validateQuestWithNpc_prerequisites (h : validateQuestWithNpc player helper = true) :
    validateQuestPrerequisites player helper = true := by
  unfold validateQuestWithNpc at h
  split_ifs at h with hfree
  · exact h
  · cases hnid : player.eventNid with
    | none => simp [hnid] at h
    | some nid =>
      simp only [hnid] at h
      split_ifs at h
      exact (Bool.and_eq_true_iff.mp h).2

theorem questAction_execute
    (h : questAction t player subOpcode questHelperId = .execute helper) :
    validateQuestPrerequisites player helper = true := by
  unfold questAction at h
  by_cases hplay : (!player.inGame || player.dead) = true
  · rw [if_pos hplay] at h
    cases h
  rw [if_neg hplay] at h
  cases hhelper : t.questHelpers questHelperId with
  | none => simp [hhelper] at h
  | some helper' =>
    simp only [hhelper] at h
    split_ifs at h with hop hvalid h5 h4 hop' hvalid'
    simp only [QuestAction.execute.injEq] at h
    subst h
    exact validateQuestWithNpc_prerequisites (by simpa using hvalid')

variable (quests : UserQuests) (q : ℕ)

theorem saveEvent_accept : saveEvent quests q 1 =
    Function.update quests q (some (acceptedEntry (quests q))) := rfl

theorem saveEvent_abandon : saveEvent quests q 4 = Function.update quests q none := rfl

theorem handleAccept_apply :
    handleAccept quests helper q =
      if q = helper.questId then some (acceptedEntry (quests q)) else quests q := by
  unfold handleAccept
  rw [saveEvent_accept]
  by_cases hq : q = helper.questId
  · subst hq
    rw [if_pos rfl]
    split_ifs with hstate
    · cases hentry : quests helper.questId with
      | none => simp [hentry] at hstate
      | some info =>
        rw [hentry] at hstate
        have hone : info.questState = 1 := by simpa using hstate
        change some info = some (⟨1, info.killCounts⟩ : UserQuestInfo)
        rw [← hone]
    · exact Function.update_self ..
  · rw [if_neg hq]
    split_ifs
    · rfl
    · exact Function.update_of_ne hq ..

theorem handleAbandon_apply :
    handleAbandon quests helper q = if q = helper.questId then none else quests q := by
  unfold handleAbandon
  rw [saveEvent_abandon]
  by_cases hq : q = helper.questId
  · subst hq
    rw [if_pos rfl]
    split_ifs with hsome
    · exact Function.update_self ..
    · simpa using hsome
  · rw [if_neg hq]
    split_ifs
    · exact Function.update_of_ne hq ..
    · rfl

theorem luaSaveEvent_apply (hhelper : t.questHelpers questHelperId = some helper) :
    luaSaveEvent t quests questHelperId q =
      if q = helper.questId then savedEntry (asU8 helper.bEventStatus) (quests q) else quests q := by
  unfold luaSaveEvent savedEntry
  rw [hhelper]
  dsimp only
  by_cases hq : q = helper.questId
  · subst hq
    rw [if_pos rfl]
    split_ifs <;> exact Function.update_self ..
  · rw [if_neg hq]
    split_ifs <;> exact Function.update_of_ne hq ..

end requests

variable (t : QuestTables) (q : ℕ) (row : QuestMonsterRow)

structure QuestProgress (quests : UserQuests) (e : QuestEvent) : Prop where
  entry : EntryProgress row (quests q) ((questEvent t quests e).1 q)
  /-- Who meets all the requirements and asks for it gets the completion script run. -/
  fulfills : ∀ player questHelperId helper info, e = .request player 4 questHelperId →
    player.inGame = true → player.dead = false → t.questHelpers questHelperId = some helper →
      validateQuestPrerequisites player helper = true → helper.questId = q →
        quests q = some info → info.Active → row.Met info.killCounts →
          (questEvent t quests e).2 = some ⟨helper, helper.nEventCompleteIndex⟩
  /-- The completion script runs for no one else. -/
  onlyMet : ∀ player subOpcode questHelperId helper,
    e = .request player subOpcode questHelperId →
      (questEvent t quests e).2 = some ⟨helper, helper.nEventCompleteIndex⟩ → helper.questId = q →
        validateQuestPrerequisites player helper = true ∧
          ∃ info, quests q = some info ∧ info.Active ∧ row.Met info.killCounts

/-- No accept of the quest once its kills are there or it is completed, no abandoning of a
completed one, no turn-in of a ready one nor of quest 812 before it is, and no trigger that is the
completion script while kills lack. -/
def ActionFits (quests : UserQuests) : QuestAction → Prop
  | .nothing => True
  | .accept helper => helper.questId = q → ∀ info, quests q = some info →
      info.questState ≠ 2 ∧ ¬row.Met info.killCounts
  | .abandon helper => helper.questId = q → ∀ info, quests q = some info → info.questState ≠ 2
  | .checkFulfill helper => helper.questId = q → ∀ info, quests q = some info →
      info.questState ≠ 3 ∧ (info.questState = 1 → row.sQuestNum ≠ 812)
  | .execute helper => helper.questId = q →
      helper.nEventTriggerIndex = helper.nEventCompleteIndex →
        ∃ info, quests q = some info ∧ (info.questState = 2 ∨ info.questState = 3)

/-- Besides, no kill that wraps a counter, and no save that does not fit. -/
def QuestFits (quests : UserQuests) : QuestEvent → Prop
  | .request player subOpcode questHelperId =>
    ActionFits q row quests (questAction t player subOpcode questHelperId)
  | .kill npcProtoId => ∀ info, quests q = some info → info.questState = 1 →
      FitsKill row npcProtoId info
  | .luaSave questHelperId => ∀ helper, t.questHelpers questHelperId = some helper →
      helper.questId = q → FitsSave row (asU8 helper.bEventStatus) (quests q)

variable {t q row} {quests : UserQuests}

theorem questEvent_request (player : QuestPlayer) (subOpcode questHelperId : ℕ) :
    questEvent t quests (.request player subOpcode questHelperId) =
      performQuest t quests (questAction t player subOpcode questHelperId) := rfl

/-- A step that runs no script and is no turn-in only has to leave the entry in order. -/
theorem progress_of_silent {e : QuestEvent} (hran : (questEvent t quests e).2 = none)
    (hturn : ∀ player questHelperId helper, e = .request player 4 questHelperId →
      questAction t player 4 questHelperId ≠ .checkFulfill helper) :
    QuestProgress t q row quests e ↔ EntryProgress row (quests q) ((questEvent t quests e).1 q) := by
  constructor
  · exact fun hp => hp.entry
  · intro hentry
    refine ⟨hentry, ?_, ?_⟩
    · rintro player id helper info he hgame hdead hhelper hvalid -
      exact absurd (questAction_checkFulfill.mpr ⟨hgame, hdead, hhelper, rfl, hvalid⟩)
        (hturn player id helper he)
    · rintro player op id helper - hsome
      rw [hran] at hsome
      cases hsome

theorem lacksKills_iff (kills : Fin 4 → ℕ) :
    lacksKills (some row) kills = true ↔ row.sQuestNum ≠ 812 ∧ ¬row.Met kills := by
  unfold lacksKills QuestMonsterRow.Met
  simp only [Bool.and_eq_true, decide_eq_true_eq, List.any_eq_true, List.mem_finRange, true_and,
    not_forall, exists_prop]

theorem turnIn_progress_iff {player : QuestPlayer} {subOpcode questHelperId : ℕ}
    {helper : QuestHelperRow} (hrow : t.questMonsters q = some row) (hs : SoundQuest row (quests q))
    (haction : questAction t player subOpcode questHelperId = .checkFulfill helper) :
    QuestProgress t q row quests (.request player subOpcode questHelperId) ↔
      (helper.questId = q → ∀ info, quests q = some info →
        info.questState ≠ 3 ∧ (info.questState = 1 → row.sQuestNum ≠ 812)) := by
  obtain ⟨hgame, hdead, hhelper, rfl, hvalid⟩ := questAction_checkFulfill.mp haction
  have hevent : questEvent t quests (.request player 4 questHelperId) =
      (quests, handleCheckFulfill t quests helper) := by
    rw [questEvent_request, haction]
    rfl
  have hran : ∀ info, quests q = some info → helper.questId = q → info.questState = 1 →
      (handleCheckFulfill t quests helper = none ↔
        row.sQuestNum ≠ 812 ∧ ¬row.Met info.killCounts) := by
    rintro info hinfo rfl hone
    rw [← lacksKills_iff]
    unfold handleCheckFulfill
    rw [hinfo, hrow]
    dsimp only [Option.getD_some]
    rw [if_neg (by omega)]
    split_ifs with hlacks <;> simp [hlacks]
  constructor
  · rintro hp rfl info hinfo
    refine ⟨fun hthree => ?_, fun hone h812 => ?_⟩
    · -- The quest is ready, and the turn-in is refused.
      have hmet := (hs info hinfo).ready hthree
      have hsome := hp.fulfills player questHelperId helper info rfl hgame hdead hhelper hvalid rfl
        hinfo (Or.inr hthree) hmet
      rw [hevent] at hsome
      unfold handleCheckFulfill at hsome
      rw [hinfo] at hsome
      dsimp only [Option.getD_some] at hsome
      rw [if_pos (by omega)] at hsome
      cases hsome
    · have hmet : ¬row.Met info.killCounts := (hs info hinfo).ongoing hone
      have hne : handleCheckFulfill t quests helper ≠ none :=
        fun hnone => ((hran info hinfo rfl hone).mp hnone).1 h812
      have hsome : handleCheckFulfill t quests helper =
          some ⟨helper, helper.nEventCompleteIndex⟩ := by
        unfold handleCheckFulfill at hne ⊢
        dsimp only at hne ⊢
        split_ifs at hne ⊢
        · exact absurd rfl hne
        · exact absurd rfl hne
        · rfl
      obtain ⟨-, info', hinfo', -, hmet'⟩ := hp.onlyMet player 4 questHelperId helper rfl
        (by rw [hevent, hsome]) rfl
      obtain rfl := Option.some.inj (hinfo.symm.trans hinfo')
      exact hmet hmet'
  · intro hfits
    refine ⟨?_, ?_, ?_⟩
    · rw [hevent]
      exact entryProgress_refl hs
    · rintro player' id' helper' info he - - hhelper' - hq hinfo hactive hmet
      obtain ⟨rfl, -, rfl⟩ := QuestEvent.request.inj he
      obtain rfl := Option.some.inj (hhelper.symm.trans hhelper')
      rcases hactive with hone | hthree
      · exact absurd hmet ((hs info hinfo).ongoing hone)
      · exact absurd hthree (hfits hq info hinfo).1
    · rintro player' op' id' helper' he hsome hq
      obtain ⟨rfl, rfl, rfl⟩ := QuestEvent.request.inj he
      rw [hevent] at hsome
      have hself : helper' = helper := by
        unfold handleCheckFulfill at hsome
        dsimp only at hsome
        split_ifs at hsome
        exact (congrArg ScriptRun.helper (Option.some.inj hsome)).symm
      subst hself
      -- The quest is ongoing, so kills lack and nothing runs.
      have hone : ((quests helper'.questId).getD {}).questState = 1 := by
        by_contra hne
        unfold handleCheckFulfill at hsome
        dsimp only at hsome
        rw [if_pos hne] at hsome
        cases hsome
      rw [hq] at hone
      cases hinfo : quests q with
      | none =>
        rw [hinfo] at hone
        cases hone
      | some info =>
        rw [hinfo] at hone
        have hnone := (hran info hinfo hq hone).mpr
          ⟨(hfits hq info hinfo).2 hone, (hs info hinfo).ongoing hone⟩
        rw [hnone] at hsome
        cases hsome

theorem execute_progress_iff {player : QuestPlayer} {subOpcode questHelperId : ℕ}
    {helper : QuestHelperRow} (hs : SoundQuest row (quests q))
    (haction : questAction t player subOpcode questHelperId = .execute helper) :
    QuestProgress t q row quests (.request player subOpcode questHelperId) ↔
      (helper.questId = q → helper.nEventTriggerIndex = helper.nEventCompleteIndex →
        ∃ info, quests q = some info ∧ (info.questState = 2 ∨ info.questState = 3)) := by
  have hvalid := questAction_execute haction
  have hevent : questEvent t quests (.request player subOpcode questHelperId) =
      (quests, handleExecuteHelper quests helper) := by
    rw [questEvent_request, haction]
    rfl
  have hran : handleExecuteHelper quests helper =
      if (quests helper.questId).any (·.questState = 2) then none
      else some ⟨helper, helper.nEventTriggerIndex⟩ := rfl
  constructor
  · rintro hp rfl hindex
    by_contra hno
    push Not at hno
    have hsome : handleExecuteHelper quests helper =
        some ⟨helper, helper.nEventCompleteIndex⟩ := by
      rw [hran, if_neg, hindex]
      cases hinfo : quests helper.questId with
      | none => simp
      | some info => simpa using (hno info hinfo).1
    obtain ⟨-, info, hinfo, hactive, hmet⟩ := hp.onlyMet player subOpcode questHelperId helper rfl
      (by rw [hevent, hsome]) rfl
    rcases hactive with hone | hthree
    · exact (hs info hinfo).ongoing hone hmet
    · exact (hno info hinfo).2 hthree
  · intro hfits
    refine ⟨?_, ?_, ?_⟩
    · rw [hevent]
      exact entryProgress_refl hs
    · rintro player' id' helper' info he hgame hdead hhelper hvalid' -
      obtain ⟨rfl, rfl, rfl⟩ := QuestEvent.request.inj he
      rw [questAction_checkFulfill.mpr ⟨hgame, hdead, hhelper, rfl, hvalid'⟩] at haction
      cases haction
    · rintro player' op' id' helper' he hsome hq
      obtain ⟨rfl, rfl, rfl⟩ := QuestEvent.request.inj he
      rw [hevent, hran] at hsome
      split_ifs at hsome with htwo
      obtain ⟨rfl, hindex⟩ := ScriptRun.mk.inj (Option.some.inj hsome)
      obtain ⟨info, hinfo, hstate⟩ := hfits hq hindex
      rw [hq, hinfo] at htwo
      have hthree : info.questState = 3 := hstate.resolve_left (by simpa using htwo)
      exact ⟨hvalid, info, hinfo, Or.inr hthree, (hs info hinfo).ready hthree⟩

theorem progress_iff {e : QuestEvent} (hreq : ∃ group, 0 < row.sCount group)
    (hrow : t.questMonsters q = some row) (hs : SoundQuest row (quests q)) :
    QuestProgress t q row quests e ↔ QuestFits t q row quests e := by
  cases e with
  | request player subOpcode questHelperId =>
    change _ ↔ ActionFits q row quests (questAction t player subOpcode questHelperId)
    have hevent : questEvent t quests (.request player subOpcode questHelperId) =
        performQuest t quests (questAction t player subOpcode questHelperId) := rfl
    cases haction : questAction t player subOpcode questHelperId with
    | nothing =>
      rw [haction] at hevent
      rw [progress_of_silent (by rw [hevent]; rfl), hevent]
      · exact iff_of_true (entryProgress_refl hs) trivial
      · rintro player' id' helper' he
        obtain ⟨rfl, rfl, rfl⟩ := QuestEvent.request.inj he
        rw [haction]
        nofun
    | accept helper =>
      rw [haction] at hevent
      rw [progress_of_silent (by rw [hevent]; rfl), hevent]
      · change EntryProgress row (quests q) (handleAccept quests helper q) ↔ _
        rw [handleAccept_apply]
        by_cases hq : q = helper.questId
        · rw [if_pos hq, accepted_progress_iff hreq hs]
          exact ⟨fun h _ => h, fun h => h hq.symm⟩
        · rw [if_neg hq]
          exact iff_of_true (entryProgress_refl hs) fun h => absurd h.symm hq
      · rintro player' id' helper' he
        obtain ⟨rfl, rfl, rfl⟩ := QuestEvent.request.inj he
        rw [haction]
        nofun
    | abandon helper =>
      rw [haction] at hevent
      rw [progress_of_silent (by rw [hevent]; rfl), hevent]
      · change EntryProgress row (quests q) (handleAbandon quests helper q) ↔ _
        rw [handleAbandon_apply]
        by_cases hq : q = helper.questId
        · rw [if_pos hq, removed_progress_iff]
          exact ⟨fun h _ => h, fun h => h hq.symm⟩
        · rw [if_neg hq]
          exact iff_of_true (entryProgress_refl hs) fun h => absurd h.symm hq
      · rintro player' id' helper' he
        obtain ⟨rfl, rfl, rfl⟩ := QuestEvent.request.inj he
        rw [haction]
        nofun
    | checkFulfill helper => exact turnIn_progress_iff hrow hs haction
    | execute helper => exact execute_progress_iff hs haction
  | kill npcProtoId =>
    rw [progress_of_silent (e := .kill npcProtoId) rfl fun _ _ _ he => nomatch he]
    change EntryProgress row (quests q)
      ((quests q).map (killQuest (t.questMonsters q) npcProtoId)) ↔ _
    rw [hrow]
    exact killed_progress_iff hs
  | luaSave questHelperId =>
    rw [progress_of_silent (e := .luaSave questHelperId) rfl fun _ _ _ he => nomatch he]
    change EntryProgress row (quests q) (luaSaveEvent t quests questHelperId q) ↔
      ∀ helper, t.questHelpers questHelperId = some helper → _
    cases hhelper : t.questHelpers questHelperId with
    | none =>
      have hsame : luaSaveEvent t quests questHelperId = quests := by
        unfold luaSaveEvent
        rw [hhelper]
      rw [hsame]
      exact iff_of_true (entryProgress_refl hs) fun _ hhelper => nomatch hhelper
    | some helper =>
      rw [luaSaveEvent_apply quests q hhelper]
      by_cases hq : q = helper.questId
      · rw [if_pos hq, saved_progress_iff hreq hs]
        constructor
        · rintro h helper' hhelper' -
          obtain rfl := Option.some.inj hhelper'
          exact h
        · exact fun h => h helper rfl hq.symm
      · rw [if_neg hq]
        refine iff_of_true (entryProgress_refl hs) fun helper' hhelper' hq' => ?_
        obtain rfl := Option.some.inj hhelper'
        exact absurd hq'.symm hq

/-- A step that fits keeps the entry of the quest sound. -/
theorem fits_sound {e : QuestEvent} (hreq : ∃ group, 0 < row.sCount group)
    (hrow : t.questMonsters q = some row) (hs : SoundQuest row (quests q))
    (hfits : QuestFits t q row quests e) : SoundQuest row ((questEvent t quests e).1 q) := by
  cases e with
  | request player subOpcode questHelperId =>
    change ActionFits q row quests (questAction t player subOpcode questHelperId) at hfits
    rw [questEvent_request]
    cases haction : questAction t player subOpcode questHelperId with
    | nothing => exact hs
    | accept helper =>
      rw [haction] at hfits
      change SoundQuest row (handleAccept quests helper q)
      rw [handleAccept_apply]
      split_ifs with hq
      · intro info hinfo
        obtain rfl := Option.some.inj hinfo
        exact accepted_sound hreq hs fun info hinfo => (hfits hq.symm info hinfo).2
      · exact hs
    | abandon helper =>
      change SoundQuest row (handleAbandon quests helper q)
      rw [handleAbandon_apply]
      split_ifs
      · nofun
      · exact hs
    | checkFulfill helper => exact hs
    | execute helper => exact hs
  | kill npcProtoId =>
    change SoundQuest row ((quests q).map (killQuest (t.questMonsters q) npcProtoId))
    rw [hrow]
    intro info' hinfo'
    obtain ⟨info, hinfo, rfl⟩ := Option.map_eq_some_iff.mp hinfo'
    by_cases hone : info.questState = 1
    · exact (killQuest_sound (hs info hinfo) hone (hfits info hinfo hone)).1
    · have hsame : killQuest (some row) npcProtoId info = info := if_pos hone
      rw [hsame]
      exact hs info hinfo
  | luaSave questHelperId =>
    change SoundQuest row (luaSaveEvent t quests questHelperId q)
    cases hhelper : t.questHelpers questHelperId with
    | none =>
      unfold luaSaveEvent
      rw [hhelper]
      exact hs
    | some helper =>
      rw [luaSaveEvent_apply quests q hhelper]
      split_ifs with hq
      · exact saved_sound hreq hs (hfits helper hhelper hq.symm)
      · exact hs

/-- Along a run the quest makes progress as it should if and only if every step fits it. -/
theorem quest_progress_iff (hreq : ∃ group, 0 < row.sCount group)
    (hrow : t.questMonsters q = some row) (hs : SoundQuest row (quests q)) (events : List QuestEvent) :
    Run.Along (fun quests e => (questEvent t quests e).1) (QuestProgress t q row) quests events ↔
      Run.Along (fun quests e => (questEvent t quests e).1) (QuestFits t q row) quests events :=
  (Run.along_congr (fun quests => SoundQuest row (quests q))
    (fun _ _ hs hfits => fits_sound hreq hrow hs hfits)
    (fun _ _ hs => (progress_iff hreq hrow hs).symm) hs).symm

def oneKillRow : QuestMonsterRow where
  sQuestNum := 7
  sNum group mob := if group = 0 ∧ mob = 0 then 50 else 0
  sCount group := if group = 0 then 1 else 0

def oneKillHelper (status : ℤ) : QuestHelperRow where
  nIndex := status
  bLevel := 1
  bClass := 5
  bNation := 3
  sNpcId := 0
  sEventDataIndex := 7
  bEventStatus := status
  nEventTriggerIndex := 100
  nEventCompleteIndex := 200
  strLuaFilename := []

/-- The helpers are numbered by the state that they save. -/
def oneKillTables : QuestTables where
  questHelpers id := some (oneKillHelper id)
  questMonsters questId := if questId = 7 then some oneKillRow else none

def questHero : QuestPlayer where
  inGame := true
  dead := false
  character := some (1, 60, 101)
  eventNid := none
  npcDead _ := true
  npcProto _ := none
  inNpcRange _ := false

theorem oneKill_progress :
    Run.Along (fun quests e => (questEvent oneKillTables quests e).1)
      (QuestProgress oneKillTables 7 oneKillRow) (fun _ => none)
      [.request questHero 12 1, .kill 50, .luaSave 2] := by
  refine (quest_progress_iff ⟨0, by decide⟩ rfl (fun _ hinfo => by cases hinfo) _).mpr
    ⟨?_, ?_, ?_, trivial⟩
  · exact fun _ info hinfo => by cases hinfo
  · intro info _ _ group
    have hcount : ∀ group, oneKillRow.sCount group ≤ 255 := by decide
    exact Or.inl (hcount group)
  · rintro helper hhelper -
    obtain rfl := Option.some.inj hhelper
    exact trivial

/-- The quests once quest 7 has been accepted and its monster killed. -/
def killedQuests : UserQuests :=
  Run.run (fun quests e => (questEvent oneKillTables quests e).1) (fun _ => none)
    [.request questHero 12 1, .kill 50]

theorem killedQuests_seven : ∃ info, killedQuests 7 = some info ∧ info.questState = 3 ∧
    ∀ group, (info.killCounts group : ℤ) = oneKillRow.sCount group :=
  ⟨_, rfl, by decide, by decide⟩

/-- The kill is there and the turn-in runs nothing; and a completed quest is accepted once more. -/
theorem ready_not_fulfilled_completed_reopens :
    ¬Run.Along (fun quests e => (questEvent oneKillTables quests e).1)
      (QuestProgress oneKillTables 7 oneKillRow) (fun _ => none)
      [.request questHero 12 1, .kill 50, .request questHero 4 1] ∧
    ¬Run.Along (fun quests e => (questEvent oneKillTables quests e).1)
      (QuestProgress oneKillTables 7 oneKillRow) (fun _ => none)
      [.request questHero 12 1, .kill 50, .luaSave 2, .request questHero 12 1] := by
  obtain ⟨info, hinfo, hstate, hmet⟩ := killedQuests_seven
  refine ⟨?_, ?_⟩
  · rintro ⟨-, -, hturnIn, -⟩
    have hran := hturnIn.fulfills questHero 1 (oneKillHelper 1) info rfl rfl rfl rfl (by decide) rfl
      hinfo (Or.inr hstate) fun group _ => hmet group
    have hnone : (questEvent oneKillTables killedQuests (.request questHero 4 1)).2 = none := by
      decide
    exact absurd (hnone.symm.trans hran) (by simp)
  · rintro ⟨-, -, -, hagain, -⟩
    obtain ⟨info', hinfo', htwo⟩ :=
      hagain.entry.completed { info with questState := 2 } (by
        change some { (killedQuests 7).getD {} with questState := 2 } = _
        rw [hinfo]
        rfl) rfl
    have hone : info'.questState = 1 := by
      obtain rfl := Option.some.inj hinfo'
      rfl
    omega

end KoServer
