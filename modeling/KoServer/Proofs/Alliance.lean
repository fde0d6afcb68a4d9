import KoServer.Lib.Grouping
import KoServer.Lib.Roster
import KoServer.Lib.Run
import KoServer.Spec.Alliance

/-! Alliances: the alliance that a clan names against the places of the alliances. An invitation is
accepted on what was checked when it was made, and a clan that is disbanded keeps its place. -/

namespace KoServer

namespace KnightsAlliance

def positions (a : KnightsAlliance) : List ℕ := [a.mainClan, a.subClan, a.mercenary1, a.mercenary2]

def members (a : KnightsAlliance) : List ℕ := a.positions.filter (· ≠ 0)

variable {a : KnightsAlliance} {clanId : ℕ}

theorem mem_members : clanId ∈ a.members ↔ clanId ∈ a.positions ∧ clanId ≠ 0 := by
  unfold members
  rw [List.mem_filter, decide_eq_true_eq]

theorem members_insert (hclan : clanId ≠ 0) (hroom : ¬ a.isFull) :
    (a.insert clanId).members.Perm (clanId :: a.members) := by
  cases a
  unfold isFull at hroom
  unfold insert members positions
  dsimp only at hroom ⊢
  split_ifs with h1 h2 h3
  · subst h1
    exact Roster.taken_perm hclan [_] _
  · subst h2
    exact Roster.taken_perm hclan [_, _] _
  · subst h3
    exact Roster.taken_perm hclan [_, _, _] _
  · refine absurd ?_ hroom
    simp only [Bool.and_eq_true, decide_eq_true_eq]
    omega

theorem mainClan_insert : (a.insert clanId).mainClan = a.mainClan := by
  unfold insert
  split_ifs <;> rfl

theorem members_clear (hmain : clanId ≠ a.mainClan) :
    (a.clear clanId).members = a.members.filter (· ≠ clanId) := by
  unfold members
  rw [← Roster.taken_clear]
  congr 1
  unfold positions clear
  simp only [List.map_cons, List.map_nil, if_neg hmain.symm]

theorem members_of_isEmpty (hempty : a.isEmpty) (hmain : a.mainClan ≠ 0) :
    a.members = [a.mainClan] := by
  unfold isEmpty at hempty
  simp only [Bool.and_eq_true, decide_eq_true_eq, and_assoc] at hempty
  obtain ⟨hsub, hmercenary1, hmercenary2⟩ := hempty
  unfold members positions
  rw [hsub, hmercenary1, hmercenary2]
  simp [hmain]

end KnightsAlliance

namespace AllianceWorld

def groupOf (s : AllianceWorld) (clanId : ℕ) : Option ℕ :=
  (s.knights clanId).bind fun k => if k.alliance = 0 then none else some k.alliance

def lists (s : AllianceWorld) (m : ℕ) : Option (List ℕ) := (s.alliances m).map KnightsAlliance.members

end AllianceWorld

/-- Clans and alliances say the same: a clan names the alliance in one place of which it stands, the
main clan gives the alliance its id, every clan in a place exists, and none is in two alliances. -/
structure AllianceExact (s : AllianceWorld) : Prop where
  member : ∀ id k m, s.knights id = some k → 0 < m →
    (k.alliance = m ↔ ∃ a, s.alliances m = some a ∧ a.positions.count id = 1)
  main : ∀ m a, s.alliances m = some a → a.mainClan = m
  listed : ∀ m a id, s.alliances m = some a → id ∈ a.positions → id ≠ 0 → s.knights id ≠ none
  once : ∀ m a m' a' id, s.alliances m = some a → s.alliances m' = some a' → id ≠ 0 →
    id ∈ a.positions → id ∈ a'.positions → m = m'

/-- The table is keyed by the clans' ids. -/
def Keyed (s : AllianceWorld) : Prop := ∀ id k, s.knights id = some k → k.id = id ∧ id ≠ 0

structure Allied (s : AllianceWorld) : Prop where
  agree : Grouping.Agree s.groupOf s.lists
  main : ∀ m a, s.alliances m = some a → a.mainClan = m ∧ m ≠ 0
  keyed : Keyed s

variable {s s' : AllianceWorld} {id m : ℕ} {k : KnightsInfo} {a : KnightsAlliance}
  {x : Option KnightsAlliance}

theorem groupOf_eq_some (hk : s.knights id = some k) (hm : m ≠ 0) :
    s.groupOf id = some m ↔ k.alliance = m := by
  unfold AllianceWorld.groupOf
  rw [hk, Option.bind_some]
  split_ifs with hzero
  · exact iff_of_false (fun h => by cases h) fun h => hm (h.symm.trans hzero)
  · exact Option.some_inj

theorem groupOf_eq_none (hk : s.knights id = some k) : s.groupOf id = none ↔ k.alliance = 0 := by
  unfold AllianceWorld.groupOf
  rw [hk, Option.bind_some, ite_eq_left_iff]
  exact ⟨fun h => by_contra fun hne => absurd (h hne) (Option.some_ne_none _), fun h hne => absurd h hne⟩

theorem lists_eq_some (ha : s.alliances m = some a) : s.lists m = some a.members := by
  unfold AllianceWorld.lists
  rw [ha]
  rfl

theorem Allied.mem_iff (h : Allied s) (hk : s.knights id = some k) (ha : s.alliances m = some a) :
    id ∈ a.positions ↔ k.alliance = m := by
  have hid := (h.keyed id k hk).2
  have hm := (h.main m a ha).2
  rw [← groupOf_eq_some hk hm, h.agree.iff, lists_eq_some ha]
  simp only [Option.some.injEq, exists_eq_left', KnightsAlliance.mem_members]
  exact (and_iff_left hid).symm

theorem Allied.exact (h : Allied s) : AllianceExact s := by
  have hlisted : ∀ m a id, s.alliances m = some a → id ∈ a.positions → id ≠ 0 →
      s.groupOf id = some m := fun m a id ha hmem hid =>
    h.agree.of_mem (lists_eq_some ha) (KnightsAlliance.mem_members.mpr ⟨hmem, hid⟩)
  refine ⟨fun id k m hk hm => ?_, fun m a ha => (h.main m a ha).1, fun m a id ha hmem hid => ?_,
    fun m a m' a' id ha ha' hid hmem hmem' => ?_⟩
  · constructor
    · intro halliance
      obtain ⟨l, hl, hmem⟩ := (h.agree.iff id m).mp ((groupOf_eq_some hk hm.ne').mpr halliance)
      obtain ⟨a, ha, rfl⟩ := Option.map_eq_some_iff.mp hl
      refine ⟨a, ha, ?_⟩
      have hcount := List.count_eq_one_of_mem (h.agree.nodup m _ hl) hmem
      unfold KnightsAlliance.members at hcount
      have hid : (fun x : ℕ => decide (x ≠ 0)) id = true := decide_eq_true (h.keyed id k hk).2
      rwa [List.count_filter (p := fun x => decide (x ≠ 0)) hid] at hcount
    · rintro ⟨a, ha, hcount⟩
      refine (h.mem_iff hk ha).mp (List.count_pos_iff.mp ?_)
      omega
  · intro hnone
    have hgroup := hlisted m a id ha hmem hid
    unfold AllianceWorld.groupOf at hgroup
    rw [hnone] at hgroup
    cases hgroup
  · exact Option.some.inj ((hlisted m a id ha hmem hid).symm.trans (hlisted m' a' id ha' hmem' hid))

theorem groupOf_updateKnights (f : KnightsInfo → KnightsInfo) :
    (s.updateKnights id f).groupOf = Function.update s.groupOf id ((s.knights id).bind fun k =>
      if (f k).alliance = 0 then none else some (f k).alliance) := by
  funext id'
  unfold AllianceWorld.groupOf AllianceWorld.updateKnights ClanWorld.updateKnights
  dsimp only
  by_cases hid : id' = id
  · rw [hid, Function.update_self, Function.update_self, Option.bind_map]
    rfl
  · rw [Function.update_of_ne hid, Function.update_of_ne hid]

theorem groupOf_setAlliance (hk : s.knights id ≠ none) (hm : m ≠ 0) :
    (s.setAlliance id m).groupOf = Function.update s.groupOf id (some m) := by
  obtain ⟨k, hk⟩ := Option.ne_none_iff_exists'.mp hk
  refine (groupOf_updateKnights _).trans ?_
  rw [hk, Option.bind_some, if_neg hm]

theorem groupOf_setAlliance_zero :
    (s.setAlliance id 0).groupOf = Function.update s.groupOf id none := by
  refine (groupOf_updateKnights _).trans ?_
  cases hk : s.knights id with
  | none => rfl
  | some k => rfl

/-- One entry of the alliance table is written. -/
theorem lists_update (hs' : s'.alliances = Function.update s.alliances m x) :
    s'.lists = Function.update s.lists m (x.map KnightsAlliance.members) := by
  funext m'
  unfold AllianceWorld.lists
  rw [hs']
  exact Function.apply_update (fun _ => Option.map KnightsAlliance.members) _ _ _ _

theorem main_update (h : ∀ m a, s.alliances m = some a → a.mainClan = m ∧ m ≠ 0)
    (hs' : s'.alliances = Function.update s.alliances m x)
    (hx : ∀ a, x = some a → a.mainClan = m ∧ m ≠ 0) (m' : ℕ) (a : KnightsAlliance)
    (ha : s'.alliances m' = some a) : a.mainClan = m' ∧ m' ≠ 0 := by
  rw [hs'] at ha
  by_cases hm : m' = m
  · rw [hm, Function.update_self] at ha
    rw [hm]
    exact hx a ha
  · rw [Function.update_of_ne hm] at ha
    exact h m' a ha

theorem Keyed.updateKnights (h : Keyed s) (id : ℕ) {f : KnightsInfo → KnightsInfo}
    (hf : ∀ k, (f k).id = k.id) : Keyed (s.updateKnights id f) := by
  intro id' k hk
  unfold AllianceWorld.updateKnights ClanWorld.updateKnights at hk
  dsimp only at hk
  by_cases hid : id' = id
  · rw [hid, Function.update_self] at hk
    obtain ⟨k₀, hk₀, rfl⟩ := Option.map_eq_some_iff.mp hk
    rw [hf, hid]
    exact h id k₀ hk₀
  · rw [Function.update_of_ne hid] at hk
    exact h id' k hk

/-- A write that leaves the alliance of a clan alone. -/
theorem Allied.updateKnights (h : Allied s) {f : KnightsInfo → KnightsInfo}
    (hf : ∀ k, (f k).id = k.id ∧ (f k).alliance = k.alliance) : Allied (s.updateKnights id f) := by
  have hgroup : (s.updateKnights id f).groupOf = s.groupOf := by
    rw [groupOf_updateKnights]
    simp only [(hf _).2]
    exact Function.update_eq_self id s.groupOf
  refine ⟨?_, h.main, h.keyed.updateKnights id fun k => (hf k).1⟩
  rw [hgroup]
  exact h.agree

/-- What has to hold where an invitation is accepted: the main clan is another one, and in no
alliance but its own. -/
def MayAccept (ourClan mainClan : KnightsInfo) : Prop :=
  mainClan.id ≠ ourClan.id ∧ (mainClan.alliance = 0 ∨ mainClan.alliance = mainClan.id)

theorem Allied.accept (h : Allied s) {mainId : ℕ} {ourClan mainClan : KnightsInfo}
    (hour : s.knights ourClan.id = some k) (hfree : k.alliance = 0)
    (hmain : s.knights mainId = some mainClan) (hok : MayAccept ourClan mainClan) :
    Allied (s.acceptAlliance ourClan mainClan) := by
  have hour0 : ourClan.id ≠ 0 := (h.keyed ourClan.id k hour).2
  obtain ⟨rfl, hmain0⟩ := h.keyed mainId mainClan hmain
  obtain ⟨hother, halliance⟩ := hok
  have hnone : s.groupOf ourClan.id = none := (groupOf_eq_none hour).mpr hfree
  unfold AllianceWorld.acceptAlliance
  cases ha : s.alliances mainClan.id with
  | some a =>
    dsimp only
    split_ifs with hrefused hfull
    · exact h
    · exact h
    have halliances : ((s.updateAlliance mainClan.id fun a => a.insert ourClan.id).setAlliance
        ourClan.id mainClan.id).alliances =
        Function.update s.alliances mainClan.id (some (a.insert ourClan.id)) := by
      change Function.update s.alliances mainClan.id ((s.alliances mainClan.id).map _) = _
      rw [ha]
      rfl
    refine ⟨?_, main_update h.main halliances fun a' ha' => ?_,
      h.keyed.updateKnights _ fun _ => rfl⟩
    · rw [lists_update halliances, groupOf_setAlliance (hour ▸ Option.some_ne_none _) hmain0]
      exact h.agree.enter hnone (lists_eq_some ha) (KnightsAlliance.members_insert hour0 hfull)
    · obtain rfl := Option.some.inj ha'
      rw [KnightsAlliance.mainClan_insert]
      exact h.main _ a ha
  | none =>
    dsimp only
    set s₁ := s.insertAlliance ⟨mainClan.id, ourClan.id, 0, 0⟩ with hs₁
    set s₂ := s₁.setAlliance mainClan.id mainClan.id with hs₂
    have hlists : s.lists mainClan.id = none := by
      unfold AllianceWorld.lists
      rw [ha]
      rfl
    have hnone' : s.groupOf mainClan.id = none := by
      rw [groupOf_eq_none hmain]
      refine halliance.resolve_right fun heq => ?_
      obtain ⟨l, hl, -⟩ := (h.agree.iff _ _).mp ((groupOf_eq_some hmain hmain0).mpr heq)
      rw [hlists] at hl
      cases hl
    have halliances : (s₂.setAlliance ourClan.id mainClan.id).alliances =
        Function.update s.alliances mainClan.id (some ⟨mainClan.id, ourClan.id, 0, 0⟩) := rfl
    have hkeyed₂ : Keyed s₂ := Keyed.updateKnights (show Keyed s₁ from h.keyed) _ fun _ => rfl
    have hour₂ : s₂.knights ourClan.id ≠ none := by
      change Function.update s.knights mainClan.id _ ourClan.id ≠ none
      rw [Function.update_of_ne hother.symm, hour]
      exact Option.some_ne_none _
    have hgroup : (s₂.setAlliance ourClan.id mainClan.id).groupOf = Function.update
        (Function.update s.groupOf mainClan.id (some mainClan.id)) ourClan.id (some mainClan.id) := by
      rw [groupOf_setAlliance hour₂ hmain0, hs₂, groupOf_setAlliance (s := s₁) ?_ hmain0]
      · rfl
      · exact hmain ▸ Option.some_ne_none _
    have hmembers : (⟨mainClan.id, ourClan.id, 0, 0⟩ : KnightsAlliance).members =
        [mainClan.id, ourClan.id] := by
      unfold KnightsAlliance.members KnightsAlliance.positions
      simp [hmain0, hour0]
    have hfounded := (((h.agree.empty hlists).enter hnone' (Function.update_self _ _ _)
      (.refl [mainClan.id])).enter (Function.update_of_ne hother.symm _ _ |>.trans hnone)
      (Function.update_self _ _ _) (.swap _ _ _))
    simp only [Function.update_idem] at hfounded
    refine ⟨?_, main_update h.main halliances fun a' ha' => ?_, hkeyed₂.updateKnights _ fun _ => rfl⟩
    · rw [lists_update halliances, hgroup, Option.map_some, hmembers]
      exact hfounded
    · obtain rfl := Option.some.inj ha'
      exact ⟨rfl, hmain0⟩

theorem Allied.create (h : Allied s) (sid targetSid : ℕ) (isInsert : Bool) :
    Allied (s.handleAllianceCreate sid targetSid isInsert) := by
  fun_cases AllianceWorld.handleAllianceCreate s sid targetSid isInsert
  any_goals exact h
  exact h.updateKnights fun _ => ⟨rfl, rfl⟩

def Accepts (s : AllianceWorld) (ch : Clansman) (ourClan mainClan : KnightsInfo) : Prop :=
  ch.fame = CHIEF ∧ s.knights ch.knightsId = some ourClan ∧ ourClan.allianceReq ≠ 0 ∧
    ourClan.alliance = 0 ∧ s.knights ourClan.allianceReq = some mainClan ∧ 1 < mainClan.flag

/-- The main clan is looked up when the request of the answering clan is gone. -/
theorem knights_answered {id' : ℕ} {k' : KnightsInfo}
    (hk' : (s.updateKnights id fun k => { k with allianceReq := 0 }).knights id' = some k') :
    ∃ k, s.knights id' = some k ∧ k'.id = k.id ∧ k'.flag = k.flag ∧ k'.alliance = k.alliance := by
  unfold AllianceWorld.updateKnights ClanWorld.updateKnights at hk'
  dsimp only at hk'
  by_cases hid : id' = id
  · rw [hid, Function.update_self] at hk'
    obtain ⟨k, hk, rfl⟩ := Option.map_eq_some_iff.mp hk'
    exact ⟨k, hid ▸ hk, rfl, rfl, rfl⟩
  · rw [Function.update_of_ne hid] at hk'
    exact ⟨k', hk', rfl, rfl, rfl⟩

theorem Allied.req (h : Allied s) (sid decision : ℕ)
    (hok : decision = 1 → ∀ ch ourClan mainClan, s.sessions sid = some ch →
      Accepts s ch ourClan mainClan → MayAccept ourClan mainClan) :
    Allied (s.handleAllianceReq sid decision) := by
  unfold AllianceWorld.handleAllianceReq
  cases hch : s.sessions sid with
  | none => exact h
  | some ch =>
    dsimp only
    by_cases hfame : ch.fame ≠ CHIEF
    · rwa [if_pos hfame]
    rw [if_neg hfame]
    cases hour : s.knights ch.knightsId with
    | none => exact h
    | some ourClan =>
      dsimp only
      by_cases hreq : ourClan.allianceReq = 0 ∨ 0 < ourClan.alliance
      · rwa [if_pos hreq]
      rw [if_neg hreq]
      push Not at hreq
      obtain ⟨hreq, hfree⟩ := hreq
      have hfree : ourClan.alliance = 0 := Nat.le_zero.mp hfree
      have hanswered : Allied (s.updateKnights ourClan.id fun k => { k with allianceReq := 0 }) :=
        h.updateKnights fun _ => ⟨rfl, rfl⟩
      by_cases hdecision : decision ≠ 1
      · rwa [if_pos hdecision]
      rw [if_neg hdecision]
      cases hmain : (s.updateKnights ourClan.id fun k => { k with allianceReq := 0 }).knights
        ourClan.allianceReq with
      | none => exact hanswered
      | some mainClan =>
        dsimp only
        by_cases hflag : mainClan.flag ≤ 1
        · rwa [if_pos hflag]
        rw [if_neg hflag]
        obtain ⟨mainClan₀, hmain₀, hid, hflag₀, halliance⟩ := knights_answered hmain
        obtain ⟨hother, hplace⟩ := hok (not_not.mp hdecision) ch ourClan mainClan₀ hch
          ⟨not_not.mp hfame, hour, hreq, hfree, hmain₀, hflag₀ ▸ Nat.lt_of_not_le hflag⟩
        have hour' : s.knights ourClan.id = some ourClan := by
          rw [(h.keyed _ _ hour).1, hour]
        refine hanswered.accept (k := { ourClan with allianceReq := 0 }) ?_ hfree hmain
          ⟨hid ▸ hother, ?_⟩
        · change Function.update s.knights ourClan.id _ ourClan.id = _
          rw [Function.update_self, hour']
          rfl
        · rwa [hid, halliance]

theorem Allied.leaveAlliance (h : Allied s) (ha : s.alliances m = some a)
    (hk : s.knights id = some k) (halliance : k.alliance = m) (hother : id ≠ m) :
    Allied (s.leaveAlliance m id) := by
  obtain ⟨hmain, hm⟩ := h.main m a ha
  set s₁ := (s.updateAlliance m fun a => a.clear id).setAlliance id 0 with hs₁
  have halliances : s₁.alliances = Function.update s.alliances m (some (a.clear id)) := by
    change Function.update s.alliances m ((s.alliances m).map _) = _
    rw [ha]
    rfl
  have hmem : id ∈ a.members :=
    KnightsAlliance.mem_members.mpr ⟨(h.mem_iff hk ha).mpr halliance, (h.keyed id k hk).2⟩
  have hleft : a.members.Perm (id :: (a.clear id).members) := by
    have herase : (a.clear id).members = a.members.erase id := by
      rw [KnightsAlliance.members_clear (hmain ▸ hother),
        (h.agree.nodup m _ (lists_eq_some ha)).erase_eq_filter]
      exact List.filter_congr fun i _ => by rw [bne, beq_eq_decide, decide_not]
    rw [herase]
    exact List.perm_cons_erase hmem
  have h₁ : Allied s₁ := by
    refine ⟨?_, main_update h.main halliances fun a' ha' => ?_, h.keyed.updateKnights _ fun _ => rfl⟩
    · rw [lists_update halliances, hs₁, groupOf_setAlliance_zero]
      exact h.agree.leave (lists_eq_some ha) hleft
    · obtain rfl := Option.some.inj ha'
      exact ⟨hmain, hm⟩
  have ha₁ : s₁.alliances m = some (a.clear id) := by
    rw [halliances, Function.update_self]
  unfold AllianceWorld.leaveAlliance
  dsimp only
  rw [← hs₁, ha₁]
  dsimp only
  split_ifs with hempty
  · have halliances' : ((s₁.setAlliance m 0).removeAlliance m).alliances =
        Function.update s₁.alliances m none := rfl
    refine ⟨?_, main_update h₁.main halliances' fun _ heq => (by cases heq),
      h₁.keyed.updateKnights _ fun _ => rfl⟩
    rw [lists_update halliances']
    have hgroup : ((s₁.setAlliance m 0).removeAlliance m).groupOf =
        fun i => if i ∈ (a.clear id).members then none else s₁.groupOf i := by
      refine groupOf_setAlliance_zero.trans ?_
      rw [KnightsAlliance.members_of_isEmpty hempty (hmain ▸ hm : (a.clear id).mainClan ≠ 0)]
      funext i
      simp only [Function.update_apply, List.mem_singleton]
      rw [show (a.clear id).mainClan = m from hmain]
    rw [hgroup]
    exact h₁.agree.dissolve (lists_eq_some ha₁)
  · exact h₁

theorem groupOf_foldl (clanIds : List ℕ) :
    (clanIds.foldl (fun s cid => if cid = 0 then s else s.setAlliance cid 0) s).groupOf =
      fun i => if i ∈ clanIds.filter (· ≠ 0) then none else s.groupOf i := by
  induction clanIds generalizing s with
  | nil => rfl
  | cons cid clanIds ih =>
    rw [List.foldl_cons, ih]
    funext i
    by_cases hcid : cid = 0
    · rw [if_pos hcid, List.filter_cons_of_neg (by simpa using hcid)]
    · rw [if_neg hcid, List.filter_cons_of_pos (by simpa using hcid), groupOf_setAlliance_zero]
      by_cases hi : i = cid
      · subst hi
        simp
      · simp only [List.mem_cons, hi, false_or, Function.update_of_ne hi]

theorem foldl_setAlliance (hkeyed : Keyed s) (clanIds : List ℕ) :
    Keyed (clanIds.foldl (fun s cid => if cid = 0 then s else s.setAlliance cid 0) s) ∧
      (clanIds.foldl (fun s cid => if cid = 0 then s else s.setAlliance cid 0) s).alliances =
        s.alliances := by
  induction clanIds generalizing s with
  | nil => exact ⟨hkeyed, rfl⟩
  | cons cid clanIds ih =>
    rw [List.foldl_cons]
    split_ifs
    · exact ih hkeyed
    · exact ih (s := s.setAlliance cid 0) (hkeyed.updateKnights cid fun _ => rfl)

theorem Allied.dissolve (h : Allied s) (ha : s.alliances m = some a) :
    Allied (([a.mainClan, a.subClan, a.mercenary1, a.mercenary2].foldl
      (fun s cid => if cid = 0 then s else s.setAlliance cid 0) s).removeAlliance a.mainClan) := by
  obtain ⟨hmain, hm⟩ := h.main m a ha
  obtain ⟨hkeyed, hsame⟩ := foldl_setAlliance h.keyed a.positions
  set s₁ := a.positions.foldl (fun s cid => if cid = 0 then s else s.setAlliance cid 0) s with hs₁
  have halliances : (s₁.removeAlliance a.mainClan).alliances =
      Function.update s.alliances a.mainClan none := by
    rw [← hsame]
    rfl
  refine ⟨?_, main_update h.main halliances fun _ heq => (by cases heq), hkeyed⟩
  change Grouping.Agree (s₁.removeAlliance a.mainClan).groupOf (s₁.removeAlliance a.mainClan).lists
  rw [lists_update halliances, hmain]
  have hgroup : (s₁.removeAlliance m).groupOf =
      fun i => if i ∈ a.members then none else s.groupOf i := groupOf_foldl a.positions
  rw [hgroup]
  exact h.agree.dissolve (lists_eq_some ha)

theorem Allied.remove (h : Allied s) (sid : ℕ) : Allied (s.handleAllianceRemove sid) := by
  unfold AllianceWorld.handleAllianceRemove
  cases s.sessions sid with
  | none => exact h
  | some ch =>
    dsimp only
    split_ifs
    · exact h
    cases hour : s.knights ch.knightsId with
    | none => exact h
    | some ourClan =>
      dsimp only
      split_ifs with hfree
      · exact h
      cases ha : s.alliances ourClan.alliance with
      | none => exact h
      | some a =>
        have hid : ourClan.id = ch.knightsId := (h.keyed _ _ hour).1
        have hmain := (h.main _ a ha).1
        dsimp only
        split_ifs with hown
        · exact h.dissolve ha
        · exact h.leaveAlliance (hmain ▸ ha) (hid ▸ hour) hmain.symm hown

theorem Allied.punish (h : Allied s) (sid targetClanId : ℕ) :
    Allied (s.handleAlliancePunish sid targetClanId) := by
  unfold AllianceWorld.handleAlliancePunish
  cases s.sessions sid with
  | none => exact h
  | some ch =>
    dsimp only
    split_ifs
    · exact h
    cases s.knights ch.knightsId with
    | none => exact h
    | some ourClan =>
      cases htarget : s.knights targetClanId with
      | none => exact h
      | some targetClan =>
        dsimp only
        split_ifs
        · exact h
        cases ha : s.alliances ourClan.id with
        | none => exact h
        | some a =>
          have hmain := (h.main _ a ha).1
          dsimp only
          split_ifs with hother hplace
          · exact h
          · exact h
          push Not at hplace
          exact h.leaveAlliance (by rwa [hmain]) htarget hplace.1 hother

/-- A clan without alliance is disbanded. -/
theorem Allied.destroy (h : Allied s) (env : KnightsEnv) (sid : ℕ)
    (hok : ∀ ch k, s.sessions sid = some ch → ch.fame = CHIEF → env.clanUpdates →
      s.knights ch.knightsId = some k → k.alliance = 0) :
    Allied { s with toClanWorld := s.toClanWorld.handleDestroy env sid } := by
  unfold ClanWorld.handleDestroy
  cases hch : s.sessions sid with
  | none => exact h
  | some ch =>
    dsimp only
    by_cases hfame : ch.fame ≠ CHIEF
    · rwa [if_pos hfame]
    by_cases hclan : ch.knightsId = 0
    · rwa [if_neg hfame, if_pos hclan]
    by_cases hupdates : ¬ env.clanUpdates
    · rwa [if_neg hfame, if_neg hclan, if_pos hupdates]
    rw [if_neg hfame, if_neg hclan, if_neg hupdates]
    set s₁ : AllianceWorld := { s with toClanWorld := _ } with hs₁
    have hgroup : s₁.groupOf = s.groupOf := by
      funext id
      unfold AllianceWorld.groupOf
      change (Function.update s.knights ch.knightsId none id).bind _ = _
      by_cases hid : id = ch.knightsId
      · rw [hid, Function.update_self]
        cases hk : s.knights ch.knightsId with
        | none => rfl
        | some k =>
          rw [Option.bind_some, if_pos (hok ch k hch (not_not.mp hfame) (not_not.mp hupdates) hk)]
          rfl
      · rw [Function.update_of_ne hid]
    have hkeyed : Keyed s₁ := by
      intro id k hk
      change Function.update s.knights ch.knightsId none id = some k at hk
      by_cases hid : id = ch.knightsId
      · rw [hid, Function.update_self] at hk
        cases hk
      · rw [Function.update_of_ne hid] at hk
        exact h.keyed id k hk
    exact ⟨hgroup ▸ h.agree, h.main, hkeyed⟩

/-- A clan is disbanded only when it is in no alliance, and an invitation is accepted only where it
may be. -/
def AllianceKept (s : AllianceWorld) (step : ClanStep AllianceRequest) : Prop :=
  step.env.isPlayerDead = false → ∀ ch, s.sessions step.sid = some ch →
    match step.request with
    | .req decision => decision = 1 → ∀ ourClan mainClan, Accepts s ch ourClan mainClan →
      MayAccept ourClan mainClan
    | .destroy => ch.fame = CHIEF → step.env.clanUpdates → ∀ k,
      s.knights ch.knightsId = some k → k.alliance = 0
    | _ => True

theorem Allied.step (h : Allied s) {step : ClanStep AllianceRequest} (hok : AllianceKept s step) :
    Allied (s.alliance step) := by
  unfold AllianceWorld.alliance
  by_cases hdead : step.env.isPlayerDead
  · rwa [if_pos hdead]
  rw [if_neg hdead]
  replace hok := hok (Bool.not_eq_true _ ▸ hdead)
  cases hrequest : step.request with
  | create targetSid => exact h.create step.sid targetSid false
  | insert targetSid => exact h.create step.sid targetSid true
  | req decision =>
    simp only [hrequest] at hok
    exact h.req step.sid decision fun hdecision ch ourClan mainClan hch =>
      hok ch hch hdecision ourClan mainClan
  | remove => exact h.remove step.sid
  | punish targetClanId => exact h.punish step.sid targetClanId
  | destroy =>
    simp only [hrequest] at hok
    exact h.destroy step.env step.sid fun ch k hch hfame hupdates => hok ch hch hfame hupdates k

/-- Clans and alliances say the same after every step of a run that keeps the alliances. -/
theorem allianceExact_run (h : Allied s) {steps : List (ClanStep AllianceRequest)}
    (hok : Run.Along AllianceWorld.alliance AllianceKept s steps) :
    Run.Along AllianceWorld.alliance (fun s step => AllianceExact (s.alliance step)) s steps :=
  Run.along_of_invariant Allied (fun _ _ h hok => ⟨h.step hok, (h.step hok).exact⟩) hok h

theorem Allied.of_none (hkeyed : Keyed s) (halliances : ∀ m, s.alliances m = none)
    (hfree : ∀ id k, s.knights id = some k → k.alliance = 0) : Allied s := by
  have hlists : ∀ m, s.lists m = none := fun m => by
    unfold AllianceWorld.lists
    rw [halliances]
    rfl
  refine ⟨⟨fun id m => ?_, fun m l hl => ?_⟩, fun m a ha => ?_, hkeyed⟩
  · refine iff_of_false ?_ fun ⟨l, hl, _⟩ => by rw [hlists] at hl; cases hl
    unfold AllianceWorld.groupOf
    cases hk : s.knights id with
    | none => exact fun heq => by cases heq
    | some k =>
      rw [Option.bind_some, if_pos (hfree id k hk)]
      exact fun heq => by cases heq
  · rw [hlists] at hl
    cases hl
  · rw [halliances] at ha
    cases ha

def clanOf (id : ℕ) : KnightsInfo := ⟨id, 2, 1, [], [], [], [], [], 1, 0, 0⟩

def chiefOf (id : ℕ) : Clansman := ⟨[], 1, 30, 0, id, CHIEF, 0⟩

def neighbours : AllianceWorld where
  users := []
  rows := []
  sessions := fun sid => if sid = 1 ∨ sid = 2 then some (chiefOf sid) else none
  nameToSession := fun _ => none
  knights := fun id => if id = 1 ∨ id = 2 then some (clanOf id) else none
  alliances := fun _ => none

def peace : KnightsEnv := ⟨false, false, true, false, false⟩

theorem allied_neighbours : Allied neighbours := by
  have hclan : ∀ id k, neighbours.knights id = some k → (id = 1 ∨ id = 2) ∧ clanOf id = k := by
    intro id k hk
    change (if id = 1 ∨ id = 2 then some (clanOf id) else none) = some k at hk
    split_ifs at hk with hid
    exact ⟨hid, Option.some.inj hk⟩
  refine Allied.of_none (fun id k hk => ?_) (fun _ => rfl) fun id k hk => ?_
  · obtain ⟨hid, rfl⟩ := hclan id k hk
    refine ⟨rfl, ?_⟩
    omega
  · obtain ⟨-, rfl⟩ := hclan id k hk
    rfl

/-- The clan 2 is invited and comes, and goes again before it is disbanded. -/
theorem allianceExact_neighbours :
    Run.Along AllianceWorld.alliance (fun s step => AllianceExact (s.alliance step)) neighbours
      [⟨1, peace, .create 2⟩, ⟨2, peace, .req 1⟩, ⟨2, peace, .remove⟩, ⟨2, peace, .destroy⟩] := by
  refine allianceExact_run allied_neighbours ⟨fun _ _ _ => trivial, fun _ ch hch _ ourClan mainClan
    hreq => ?_, fun _ _ _ => trivial, fun _ ch hch _ _ k hk => ?_, trivial⟩
  · obtain rfl := Option.some.inj hch
    obtain ⟨-, hour, -, -, hmain, -⟩ := hreq
    obtain rfl := Option.some.inj hour
    obtain rfl := Option.some.inj hmain
    unfold MayAccept
    decide +kernel
  · obtain rfl := Option.some.inj hch
    obtain rfl := Option.some.inj hk
    decide +kernel

/-- The clan 2 is disbanded in the alliance, and keeps its place. -/
theorem not_allianceExact_destroy :
    ¬ Run.Along AllianceWorld.alliance (fun s step => AllianceExact (s.alliance step)) neighbours
      [⟨1, peace, .create 2⟩, ⟨2, peace, .req 1⟩, ⟨2, peace, .destroy⟩] := by
  rintro ⟨-, -, h, -⟩
  exact h.listed 1 ⟨1, 2, 0, 0⟩ 2 (by decide +kernel) (by decide) (by decide) (by decide +kernel)

end KoServer
