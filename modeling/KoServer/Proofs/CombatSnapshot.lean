import Mathlib.Algebra.Order.Group.Abs
import Mathlib.Data.Fintype.Basic
import Mathlib.Tactic.FinCases
import KoServer.Lib.SaturatingSum
import KoServer.Spec.CombatSnapshot

/-! The combat snapshot and the single lookups agree exactly while its plain additions stay off the
ends of `i32`, and whatever the two orders are exactly where no saturating one depends on them. -/

namespace KoServer

open Saturating (rise fall)

def i32Range : Saturating where
  lo := -2 ^ 31
  hi := 2 ^ 31 - 1
  lo_neg := by decide
  hi_pos := by decide

theorem i32Range_sum (l : List ℤ) : l.foldl saturatingAddI32 0 = i32Range.sum l := rfl

theorem i32Range_clamp (a : ℤ) : i32Range.clamp a = max (-2 ^ 31) (min a (2 ^ 31 - 1)) := rfl

theorem i32Range_inI32 (l : List ℤ) : InI32 (i32Range.sum l) := by
  have h : -2 ^ 31 ≤ i32Range.sum l ∧ i32Range.sum l ≤ 2 ^ 31 - 1 := Saturating.sum_mem l
  unfold InI32
  omega

/-- Plain additions wrap around once in effect. -/
theorem foldl_plain (l : List ℤ) (a : ℤ) :
    l.foldl (fun a x => asI32 (a + x)) (asI32 a) = asI32 (a + l.sum) := by
  induction l generalizing a with
  | nil => simp
  | cons x l ih =>
    have hstep : asI32 (asI32 a + x) = asI32 (a + x) := Int.bmod_add_bmod
    rw [List.foldl_cons, hstep, ih, List.sum_cons, add_assoc]

/-- No order of the plain and of the saturating additions tells them apart: if the exact sum leaves
`i32`, it wraps to the very end that it passes. -/
def PlainFits (l : List ℤ) : Prop :=
  i32Range.OrderFree l ∧ (l.sum ≤ 2 ^ 31 - 1 ∨ (l.sum - (2 ^ 31 - 1)) % 2 ^ 32 = 0) ∧
    (-2 ^ 31 ≤ l.sum ∨ (l.sum + 2 ^ 31) % 2 ^ 32 = 0)

theorem plain_iff {l : List ℤ} :
    (∀ l', l'.Perm l → asI32 l.sum = i32Range.sum l') ↔ PlainFits l := by
  constructor
  · intro h
    have hfree : i32Range.OrderFree l :=
      Saturating.orderFree_iff.mp fun l' l'' hl' hl'' => (h l' hl').symm.trans (h l'' hl'')
    have hsum := h l (List.Perm.refl l)
    rw [hfree.sum_eq_clamp, i32Range_clamp, asI32_eq] at hsum
    refine ⟨hfree, ?_, ?_⟩
    all_goals omega
  · rintro ⟨hfree, hhi, hlo⟩ l' hl'
    rw [(hfree.perm hl').sum_eq_clamp, hl'.sum_eq, i32Range_clamp, asI32_eq]
    omega

/-- The same for a sum that 100 is added to and that counts only above zero: the attack amount is
zero on both sides, or nothing wraps. -/
def AttackFits (l : List ℤ) : Prop :=
  rise l ≤ 2 ^ 31 - 1 ∧ -2 ^ 31 ≤ fall l ∨
    ((100 + l.sum) % 2 ^ 32 = 0 ∨ 2 ^ 31 ≤ (100 + l.sum) % 2 ^ 32) ∧
      (2 ^ 31 - 1 < rise l ∧ -100 < fall l ∨ fall l < -2 ^ 31 ∧ rise l ≤ 2 ^ 31 - 100)

def attackOf (sum : ℤ) : ℤ := max (asI32 (100 + sum)) 0

theorem attackOf_asI32 (n : ℤ) : attackOf (asI32 n) = max (asI32 (100 + n)) 0 := by
  have h : asI32 (100 + asI32 n) = asI32 (100 + n) := Int.add_bmod_bmod
  rw [attackOf, h]

theorem attackOf_eq {n : ℤ} (h : InI32 n) :
    attackOf n = if -100 < n ∧ n ≤ 2 ^ 31 - 101 then 100 + n else 0 := by
  obtain ⟨hlow, hhigh⟩ := h
  rw [attackOf, asI32_eq]
  split
  all_goals omega

theorem attack_of_fits {l l' : List ℤ} (h : AttackFits l) (hl' : l'.Perm l) :
    attackOf (asI32 l.sum) = attackOf (i32Range.sum l') := by
  obtain ⟨hrise, hfall⟩ | ⟨hzero, hend⟩ := h
  · have hexact : i32Range.sum l' = l'.sum := by
      apply Saturating.sum_exact
      · rw [Saturating.rise_perm hl']
        exact hrise
      · rw [Saturating.fall_perm hl']
        exact hfall
    have hin := i32Range_inI32 l'
    rw [hexact] at hin
    rw [hexact, ← hl'.sum_eq, asI32_of_range hin]
  · -- both amounts are zero: the exact one wraps, the other stays close to its end
    have hsum := Saturating.sum_eq l
    have hge : min l'.sum (2 ^ 31 - 1 + fall l') ≤ i32Range.sum l' := Saturating.le_sum l'
    have hle : i32Range.sum l' ≤ max l'.sum (-2 ^ 31 + rise l') := Saturating.sum_le l'
    rw [hl'.sum_eq, Saturating.fall_perm hl'] at hge
    rw [hl'.sum_eq, Saturating.rise_perm hl'] at hle
    rw [attackOf_asI32, attackOf_eq (i32Range_inI32 l'), asI32_eq]
    split
    all_goals omega

/-- The amount that an order of the saturating additions gives, in one of the three orders below. -/
theorem attack_zero {l l' : List ℤ} {n : ℤ} (hn : i32Range.sum l' = n)
    (h : attackOf (asI32 l.sum) = attackOf (i32Range.sum l'))
    (hzero : attackOf (asI32 l.sum) = 0) : n ≤ -100 ∨ 2 ^ 31 - 101 < n := by
  have hin := i32Range_inI32 l'
  rw [hn] at hin h
  rw [hzero, attackOf_eq hin] at h
  split at h
  all_goals omega

theorem fits_of_attack {l : List ℤ} (hb : ∀ x ∈ l, -1000100 ≤ x)
    (h : ∀ l', l'.Perm l → attackOf (asI32 l.sum) = attackOf (i32Range.sum l')) :
    AttackFits l := by
  by_cases hfits : rise l ≤ 2 ^ 31 - 1 ∧ -2 ^ 31 ≤ fall l
  · exact Or.inl hfits
  have hsum := Saturating.sum_eq l
  have hrise := Saturating.rise_nonneg l
  have hfall := Saturating.fall_nonpos l
  have hfirst := h _ (Saturating.risesFirst_perm l)
  have hlast := h _ (Saturating.fallsFirst_perm l)
  have hin := i32Range_inI32 (Saturating.risesFirst l)
  have hin' := i32Range_inI32 (Saturating.fallsFirst l)
  have hv := Saturating.sum_risesFirst (s := i32Range) l
  have hv' := Saturating.sum_fallsFirst (s := i32Range) l
  rw [i32Range_clamp, i32Range_clamp] at hv hv'
  have hzero : attackOf (asI32 l.sum) = 0 := by
    -- a positive amount would be that of two orders, which then end at the same sum
    rw [attackOf_eq hin] at hfirst
    rw [attackOf_eq hin'] at hlast
    split at hfirst
    all_goals split at hlast
    all_goals omega
  have hexact : (100 + l.sum) % 2 ^ 32 = 0 ∨ 2 ^ 31 ≤ (100 + l.sum) % 2 ^ 32 := by
    rw [attackOf_asI32, asI32_eq] at hzero
    omega
  have hfirst0 := attack_zero hv hfirst hzero
  have hlast0 := attack_zero hv' hlast hzero
  refine Or.inr ⟨hexact, ?_⟩
  by_cases hover : 2 ^ 31 - 1 < rise l
  · refine Or.inl ⟨hover, ?_⟩
    by_contra hlow
    -- a fall of a little more than 100 at the end leaves the upper end by just as much
    obtain ⟨l', r, hl', hr, hr', hv''⟩ := Saturating.sum_fallLast (s := i32Range) (d := 100)
      (b := 1000100) (by omega) (by omega) hb (by omega)
    rw [i32Range_clamp, i32Range_clamp, i32Range_clamp] at hv''
    have hheld0 := attack_zero hv'' (h l' hl') hzero
    omega
  · refine Or.inr ⟨?_, ?_⟩
    all_goals omega

theorem attack_iff {l : List ℤ} (hb : ∀ x ∈ l, -1000100 ≤ x) :
    (∀ l', l'.Perm l → attackOf (asI32 l.sum) = attackOf (i32Range.sum l')) ↔ AttackFits l :=
  ⟨fits_of_attack hb, fun h _ hl' => attack_of_fits h hl'⟩

namespace BuffSums

section

variable (read : BuffSums → ℤ) (keep : CombatBuff → Bool) (value : CombatBuff → ℤ)
  (l : List CombatBuff)

/-- What the pass makes of one of its sums is the fold of the values that are kept for it. -/
theorem read_foldl (g : ℤ → ℤ → ℤ)
    (h : ∀ s b, read (visit s b) = if keep b then g (read s) (value b) else read s)
    (s : BuffSums) :
    read (l.foldl visit s) = ((l.filter keep).map value).foldl g (read s) := by
  induction l generalizing s with
  | nil => rfl
  | cons b l ih =>
    rw [List.foldl_cons, ih, h]
    by_cases hb : keep b
    · simp [hb]
    · simp [hb]

theorem read_plain
    (h : ∀ s b, read (visit s b) = if keep b then asI32 (read s + value b) else read s)
    (hstart : read start = asI32 0) :
    read (l.foldl visit start) = asI32 ((l.filter keep).map value).sum := by
  rw [read_foldl read keep value l (fun a x => asI32 (a + x)) h, hstart, foldl_plain, zero_add]

theorem read_saturating
    (h : ∀ s b, read (visit s b) = if keep b then saturatingAddI32 (read s) (value b) else read s)
    (hstart : read start = 0) :
    read (l.foldl visit start) = i32Range.sum ((l.filter keep).map value) := by
  rw [read_foldl read keep value l saturatingAddI32 h, hstart, i32Range_sum]

end

theorem sum_zeros {l : List ℤ} (h : ∀ x ∈ l, x = 0) : i32Range.sum l = 0 := by
  have hrise := Saturating.rise_of_nonpos fun x hx => (h x hx).le
  have hfall := Saturating.fall_of_nonneg fun x hx => (h x hx).ge
  have hsum := Saturating.sum_eq l
  rw [Saturating.sum_exact, hsum, hrise, hfall, add_zero]
  · rw [hrise]
    exact i32Range.hi_pos.le
  · rw [hfall]
    exact i32Range.lo_neg.le

theorem elemRAdd_eq (l : List CombatBuff) (i : Fin 7) :
    (l.foldl visit start).elemRAdd i =
      i32Range.sum ((l.filter fun _ => true).map fun b => b.elemental i) := by
  by_cases hi : i = 0
  · subst hi
    -- no buff adds to the first place, and none has an element zero
    rw [sum_zeros (by simp [CombatBuff.elemental])]
    have hkeep := read_foldl (fun s => s.elemRAdd 0) (fun _ => false) (fun _ => 0) l
      (fun a _ => a) (fun s b => rfl) start
    simpa [start] using hkeep
  · refine read_saturating (fun s => s.elemRAdd i) (fun _ => true) (fun b => b.elemental i) l
      (fun s b => ?_) rfl
    fin_cases i
    · contradiction
    all_goals rfl

/-- The type of the doubled attack has one buff at most, so the last is the first. -/
theorem playerAttack_eq (m : KeyedList CombatBuff.buffType) (o o' : Shuffle CombatBuff) :
    ((o.order m.entries).foldl visit start).playerAttackAmount =
      (((o'.order m.entries).find? fun b => b.buffType = 19 && b.attack ≠ 0).map
        fun b => b.attack).getD 100 := by
  have hwalk : (o.order m.entries).foldl
      (fun v b => if b.buffType = 19 && b.attack ≠ 0 then b.attack else v)
        start.playerAttackAmount =
      ((o.order m.entries).foldl visit start).playerAttackAmount :=
    @List.foldl_hom _ _ _ BuffSums.playerAttackAmount visit _ _ _ fun s b => rfl
  rw [← hwalk]
  cases hfind : (o'.order m.entries).find? fun b => b.buffType = 19 && b.attack ≠ 0 with
  | none =>
    refine KeyedList.foldl_of_none fun b hb => ?_
    have hnone := List.find?_eq_none.mp hfind b ((Shuffle.mem_order o').mpr
      ((Shuffle.mem_order o).mp hb))
    exact Bool.eq_false_iff.mpr hnone
  | some b =>
    have hb : b ∈ m.entries := (Shuffle.mem_order o').mp (List.mem_of_find?_eq_some hfind)
    have hdouble := List.find?_some hfind
    refine KeyedList.foldl_of_unique ((Shuffle.mem_order o).mpr hb) hdouble fun c hc hdouble' => ?_
    simp only [Bool.and_eq_true, decide_eq_true_eq] at hdouble hdouble'
    exact KeyedList.eq_of_key ((Shuffle.mem_order o).mp hc) hb
      (hdouble'.1.trans hdouble.1.symm)

end BuffSums

/-- The fields of a snapshot are what the lookups say. -/
structure SnapshotAgrees (o : Shuffle CombatBuff) (session : Option CombatSession)
    (snap : CombatSnapshot) : Prop where
  attack : snap.attackAmount = getBuffAttackAmount o session
  playerAttack : snap.playerAttackAmount = getBuffPlayerAttackAmount o session
  ac : snap.acAmount = getBuffAcAmount o session
  acPct : snap.acPct = getBuffAcPct o session
  acSour : snap.acSour = getBuffAcSourAmount o session
  magicAttack : snap.magicAttackAmount = getBuffMagicAttackAmount o session
  elemental : ∀ attr, snap.buffR attr = getBuffElementalResistance o session attr

/-- A snapshot in the first order agrees with the lookups in the second. -/
def SnapshotMatches (h : CombatSession) (o o' : Shuffle CombatBuff) : Prop :=
  ∃ snap, snapshotCombat o (some h) = some snap ∧ SnapshotAgrees o' (some h) snap

/-- The fields that the sums read are within a million of zero. -/
def CombatBuff.Bounded (b : CombatBuff) : Prop :=
  ∀ x ∈ [b.attack, b.ac, b.acPct, b.acSour, b.magicAttack, b.fireR, b.coldR, b.lightningR,
    b.magicR, b.diseaseR, b.poisonR], |x| ≤ 1000000

namespace CombatSession

variable (h : CombatSession)

/-- What the buffs add to the attack amount. -/
def attackChanges : List ℤ :=
  (h.buffs.entries.filter fun b => b.buffType ≠ 19 && b.attack ≠ 0).map fun b => b.attack - 100

def acChanges : List ℤ := (h.buffs.entries.filter fun b => b.buffType ≠ 14).map fun b => b.ac

def acPctChanges : List ℤ :=
  (h.buffs.entries.filter fun b => b.acPct ≠ 0 && b.buffType ≠ 14).map fun b => b.acPct - 100

def magicAttackChanges : List ℤ :=
  (h.buffs.entries.filter fun b => b.magicAttack ≠ 0).map fun b => b.magicAttack - 100

/-- The three sums of plain additions come out as the saturating ones do. -/
structure PlainSumsFit : Prop where
  attack : AttackFits h.attackChanges
  acPct : PlainFits h.acPctChanges
  magicAttack : PlainFits h.magicAttackChanges

/-- No saturating sum depends on the order of the buffs. -/
structure SumsOrderFree : Prop where
  ac : i32Range.OrderFree h.acChanges
  acSour : i32Range.OrderFree (h.buffs.entries.map fun b => b.acSour)
  elemental : ∀ attr, i32Range.OrderFree (h.buffs.entries.map fun b => b.elemental attr)

variable {h}

theorem exact_of_bounded {x : ℤ} (hx : |x| ≤ 1000000) : asI32 (x - 100) = x - 100 := by
  obtain ⟨hlow, hhigh⟩ := abs_le.mp hx
  apply asI32_of_range
  constructor
  all_goals omega

section

variable (hb : ∀ b ∈ h.buffs.entries, b.Bounded)

include hb

theorem attackChanges_eq :
    (h.buffs.entries.filter fun b => b.buffType ≠ 19 && b.attack ≠ 0).map
      (fun b => asI32 (b.attack - 100)) = h.attackChanges := by
  refine List.map_congr_left fun b hmem => exact_of_bounded ?_
  exact hb b (List.mem_of_mem_filter hmem) _ (by simp)

theorem acPctChanges_eq :
    (h.buffs.entries.filter fun b => b.acPct ≠ 0 && b.buffType ≠ 14).map
      (fun b => asI32 (b.acPct - 100)) = h.acPctChanges := by
  refine List.map_congr_left fun b hmem => exact_of_bounded ?_
  exact hb b (List.mem_of_mem_filter hmem) _ (by simp)

theorem magicAttackChanges_eq :
    (h.buffs.entries.filter fun b => b.magicAttack ≠ 0).map
      (fun b => asI32 (b.magicAttack - 100)) = h.magicAttackChanges := by
  refine List.map_congr_left fun b hmem => exact_of_bounded ?_
  exact hb b (List.mem_of_mem_filter hmem) _ (by simp)

theorem attackChanges_ge : ∀ x ∈ h.attackChanges, -1000100 ≤ x := by
  intro x hx
  obtain ⟨b, hmem, rfl⟩ := List.mem_map.mp hx
  have hbound := hb b (List.mem_of_mem_filter hmem) b.attack (by simp)
  obtain ⟨hlow, -⟩ := abs_le.mp hbound
  omega

end

theorem values_sum (o : Shuffle CombatBuff) (keep : CombatBuff → Bool) (value : CombatBuff → ℤ) :
    (h.values o keep value).sum = ((h.buffs.entries.filter keep).map value).sum :=
  (((o.perm _).filter keep).map value).sum_eq

/-- The plain sums, in whatever order, are what the saturating ones are in the given one. -/
structure PlainSumsAgree (h : CombatSession) (o : Shuffle CombatBuff) : Prop where
  attack : attackOf (asI32 h.attackChanges.sum) =
    attackOf (i32Range.sum (h.values o (fun b => b.buffType ≠ 19 && b.attack ≠ 0)
      fun b => asI32 (b.attack - 100)))
  acPct : asI32 h.acPctChanges.sum =
    i32Range.sum (h.values o (fun b => b.acPct ≠ 0 && b.buffType ≠ 14)
      fun b => asI32 (b.acPct - 100))
  magicAttack : asI32 h.magicAttackChanges.sum =
    i32Range.sum (h.values o (fun b => b.magicAttack ≠ 0) fun b => asI32 (b.magicAttack - 100))

structure SaturatingSumsAgree (h : CombatSession) (o o' : Shuffle CombatBuff) : Prop where
  ac : i32Range.sum (h.values o (fun b => b.buffType ≠ 14) fun b => b.ac) =
    i32Range.sum (h.values o' (fun b => b.buffType ≠ 14) fun b => b.ac)
  acSour : i32Range.sum (h.values o (fun _ => true) fun b => b.acSour) =
    i32Range.sum (h.values o' (fun _ => true) fun b => b.acSour)
  elemental : ∀ attr, i32Range.sum (h.values o (fun _ => true) fun b => b.elemental attr) =
    i32Range.sum (h.values o' (fun _ => true) fun b => b.elemental attr)

theorem plainSumsAgree_iff (hb : ∀ b ∈ h.buffs.entries, b.Bounded) :
    (∀ o, h.PlainSumsAgree o) ↔ h.PlainSumsFit := by
  have hattack := attack_iff (attackChanges_ge hb)
  have hacPct := plain_iff (l := h.acPctChanges)
  have hmagic := plain_iff (l := h.magicAttackChanges)
  rw [← attackChanges_eq hb] at hattack
  rw [← acPctChanges_eq hb] at hacPct
  rw [← magicAttackChanges_eq hb] at hmagic
  rw [← Shuffle.forall_read_iff, attackChanges_eq hb] at hattack
  rw [← Shuffle.forall_read_iff, acPctChanges_eq hb] at hacPct
  rw [← Shuffle.forall_read_iff, magicAttackChanges_eq hb] at hmagic
  constructor
  · intro hall
    exact ⟨hattack.mp fun o => (hall o).attack, hacPct.mp fun o => (hall o).acPct,
      hmagic.mp fun o => (hall o).magicAttack⟩
  · intro hfit o
    exact ⟨hattack.mpr hfit.attack o, hacPct.mpr hfit.acPct o, hmagic.mpr hfit.magicAttack o⟩

theorem orderFree_values_iff (keep : CombatBuff → Bool) (value : CombatBuff → ℤ) :
    (∀ o o', i32Range.sum (h.values o keep value) = i32Range.sum (h.values o' keep value)) ↔
      i32Range.OrderFree ((h.buffs.entries.filter keep).map value) := by
  rw [← Saturating.orderFree_iff]
  constructor
  · intro hall l' l'' hl' hl''
    obtain ⟨o, rfl⟩ := Shuffle.exists_read hl'
    obtain ⟨o', rfl⟩ := Shuffle.exists_read hl''
    exact hall o o'
  · intro hall o o'
    exact hall _ _ (((o.perm _).filter keep).map value) (((o'.perm _).filter keep).map value)

theorem saturatingSumsAgree_iff : (∀ o o', h.SaturatingSumsAgree o o') ↔ h.SumsOrderFree := by
  have hac := orderFree_values_iff (h := h) (fun b => b.buffType ≠ 14) fun b => b.ac
  have hacSour := orderFree_values_iff (h := h) (fun _ => true) fun b => b.acSour
  have helemental := fun attr =>
    orderFree_values_iff (h := h) (fun _ => true) fun b => b.elemental attr
  rw [List.filter_true] at hacSour
  constructor
  · intro hall
    exact ⟨hac.mp fun o o' => (hall o o').ac, hacSour.mp fun o o' => (hall o o').acSour,
      fun attr => by
        have h := (helemental attr).mp fun o o' => (hall o o').elemental attr
        rwa [List.filter_true] at h⟩
  · intro hfree o o'
    exact ⟨hac.mpr hfree.ac o o', hacSour.mpr hfree.acSour o o', fun attr => by
      apply (helemental attr).mpr
      rw [List.filter_true]
      exact hfree.elemental attr⟩

theorem buffR_eq {o : Shuffle CombatBuff} {snap : CombatSnapshot}
    (hsnap : snapshotCombat o (some h) = some snap) (attr : ℕ) :
    snap.buffR attr = i32Range.sum (h.values o (fun _ => true) fun b => b.elemental attr) := by
  obtain rfl := Option.some.inj hsnap
  unfold CombatSnapshot.buffR
  split
  · exact BuffSums.elemRAdd_eq _ _
  next hattr =>
    rw [BuffSums.sum_zeros]
    intro x hx
    obtain ⟨b, -, rfl⟩ := List.mem_map.mp hx
    unfold CombatBuff.elemental
    split
    all_goals omega

/-- Two snapshots of a session whose sums do not depend on the order resist alike. -/
theorem totalResistance_eq {o o' : Shuffle CombatBuff} {snap snap' : CombatSnapshot}
    (hfree : h.SumsOrderFree) (hsnap : snapshotCombat o (some h) = some snap)
    (hsnap' : snapshotCombat o' (some h) = some snap') (attr : ℕ) :
    snap.totalResistance attr = snap'.totalResistance attr := by
  have hagree := saturatingSumsAgree_iff.mpr hfree o o'
  have hbuff : snap.buffR attr = snap'.buffR attr := by
    rw [buffR_eq hsnap, buffR_eq hsnap']
    exact hagree.elemental attr
  obtain rfl := Option.some.inj hsnap
  obtain rfl := Option.some.inj hsnap'
  unfold CombatSnapshot.totalResistance
  rw [hbuff]

theorem multiplier_inj {a b : ℤ} (ha : InI32 a) (hb : InI32 b) :
    asI32 (100 + a) = asI32 (100 + b) ↔ a = b := by
  obtain ⟨halow, hahigh⟩ := ha
  obtain ⟨hblow, hbhigh⟩ := hb
  rw [asI32_eq, asI32_eq]
  omega

theorem snapshotMatches_iff (hb : ∀ b ∈ h.buffs.entries, b.Bounded) (o o' : Shuffle CombatBuff) :
    SnapshotMatches h o o' ↔ h.PlainSumsAgree o' ∧ h.SaturatingSumsAgree o o' := by
  have hattack : ((o.order h.buffs.entries).foldl BuffSums.visit BuffSums.start).attackSum =
      asI32 h.attackChanges.sum := by
    rw [← attackChanges_eq hb, ← values_sum o]
    exact BuffSums.read_plain BuffSums.attackSum _ _ _ (fun s b => rfl) rfl
  have hacPct : ((o.order h.buffs.entries).foldl BuffSums.visit BuffSums.start).acPctMod =
      asI32 h.acPctChanges.sum := by
    rw [← acPctChanges_eq hb, ← values_sum o]
    exact BuffSums.read_plain BuffSums.acPctMod _ _ _ (fun s b => rfl) rfl
  have hmagic : ((o.order h.buffs.entries).foldl BuffSums.visit BuffSums.start).magicAttackSum =
      asI32 h.magicAttackChanges.sum := by
    rw [← magicAttackChanges_eq hb, ← values_sum o]
    exact BuffSums.read_plain BuffSums.magicAttackSum _ _ _ (fun s b => by simp [BuffSums.visit]) rfl
  have hac : ((o.order h.buffs.entries).foldl BuffSums.visit BuffSums.start).acAmount =
      i32Range.sum (h.values o (fun b => b.buffType ≠ 14) fun b => b.ac) :=
    BuffSums.read_saturating BuffSums.acAmount _ _ _ (fun s b => by simp [BuffSums.visit]) rfl
  have hacSour : ((o.order h.buffs.entries).foldl BuffSums.visit BuffSums.start).acSour =
      i32Range.sum (h.values o (fun _ => true) fun b => b.acSour) :=
    BuffSums.read_saturating BuffSums.acSour _ _ _ (fun s b => rfl) rfl
  constructor
  · rintro ⟨snap, hsnap, hagree⟩
    have helemental := fun attr => (buffR_eq hsnap attr).symm.trans (hagree.elemental attr)
    obtain rfl := Option.some.inj hsnap
    refine ⟨⟨?_, ?_, ?_⟩, ⟨?_, ?_, helemental⟩⟩
    · rw [← hattack]
      exact hagree.attack
    · have hpct := hagree.acPct
      apply (multiplier_inj (asI32_range _) (i32Range_inI32 _)).mp
      rw [← hacPct]
      exact hpct
    · rw [← hmagic]
      exact hagree.magicAttack
    · rw [← hac]
      exact hagree.ac
    · rw [← hacSour]
      exact hagree.acSour
  · rintro ⟨hplain, hsaturating⟩
    refine ⟨_, rfl, ?_, BuffSums.playerAttack_eq h.buffs o o', hac.trans hsaturating.ac, ?_,
      hacSour.trans hsaturating.acSour, hmagic.trans hplain.magicAttack, ?_⟩
    · exact (congrArg attackOf hattack).trans hplain.attack
    · exact congrArg (fun a => asI32 (100 + a)) (hacPct.trans hplain.acPct)
    · intro attr
      exact (buffR_eq rfl attr).trans (hsaturating.elemental attr)

end CombatSession

open CombatSession

/-- With one order for the snapshot and the lookups they agree exactly where the plain sums fit;
with any two, where moreover no saturating sum depends on the order. -/
theorem snapshot_matches_iff (h : CombatSession) (hb : ∀ b ∈ h.buffs.entries, b.Bounded) :
    ((∀ o, SnapshotMatches h o o) ↔ h.PlainSumsFit) ∧
      ((∀ o o', SnapshotMatches h o o') ↔ h.PlainSumsFit ∧ h.SumsOrderFree) := by
  have hplain := plainSumsAgree_iff hb
  have hsaturating := saturatingSumsAgree_iff (h := h)
  constructor
  · rw [← hplain]
    constructor
    · intro hall o
      exact ((snapshotMatches_iff hb o o).mp (hall o)).1
    · intro hall o
      exact (snapshotMatches_iff hb o o).mpr ⟨hall o, rfl, rfl, fun attr => rfl⟩
  · rw [← hplain, ← hsaturating]
    constructor
    · intro hall
      exact ⟨fun o => ((snapshotMatches_iff hb o o).mp (hall o o)).1,
        fun o o' => ((snapshotMatches_iff hb o o').mp (hall o o')).2⟩
    · rintro ⟨hfit, hfree⟩ o o'
      exact (snapshotMatches_iff hb o o').mpr ⟨hfit o', hfree o o'⟩

/-- A session without gear or stats, with the buffs of a list. -/
def buffedSession (buffs : KeyedList CombatBuff.buffType) : CombatSession where
  equippedStats := ⟨0, 0, 0, 0, 0, 0, 0⟩
  buffs := buffs
  inventory := []
  blockPhysical := false
  daggerRAmount := 0
  bowRAmount := 0
  mirrorDamage := false
  mirrorDamageType := false
  mirrorAmount := 0
  perkLevels := List.replicate 13 0
  pctFireR := 100
  pctColdR := 100
  pctLightningR := 100
  pctMagicR := 100
  pctDiseaseR := 100
  pctPoisonR := 100

def plainBuff (buffType : ℤ) : CombatBuff where
  buffType := buffType
  attack := 0
  ac := 0
  acPct := 0
  acSour := 0
  magicAttack := 0
  fireR := 0
  coldR := 0
  lightningR := 0
  magicR := 0
  diseaseR := 0
  poisonR := 0

/-- An attack scroll next to a curse on the armour. -/
def cursedFighter : CombatSession := buffedSession
  ⟨[{ plainBuff 4 with attack := 120, fireR := 30 }, { plainBuff 2 with ac := -50, acPct := 80 }],
    by decide⟩

theorem cursedFighter_matches :
    SnapshotMatches cursedFighter Shuffle.id ⟨List.reverse, List.reverse_perm⟩ := by
  refine (snapshot_matches_iff cursedFighter ?_).2.mpr ⟨⟨?_, ?_, ?_⟩, ⟨?_, ?_, fun attr => ?_⟩⟩ _ _
  · unfold CombatBuff.Bounded
    decide
  · exact Or.inl (by decide)
  · exact ⟨⟨by decide, by decide⟩, by decide, by decide⟩
  · exact ⟨⟨by decide, by decide⟩, by decide, by decide⟩
  · exact ⟨by decide, by decide⟩
  · exact ⟨by decide, by decide⟩
  · match attr with
    | 0 | 1 | 2 | 3 | 4 | 5 | 6 => exact ⟨by decide, by decide⟩
    | n + 7 => exact ⟨Or.inr rfl, Or.inr rfl⟩

/-- The magic attack goes up by the most that a buff of the type can give. -/
def charm (n : ℕ) : CombatBuff := { plainBuff n with magicAttack := 1000000 }

def charmed (n : ℕ) : CombatSession := buffedSession
  ⟨(List.range n).map charm, by
    rw [List.map_map]
    exact List.Nodup.map Nat.cast_injective List.nodup_range⟩

theorem charmed_changes (n : ℕ) : (charmed n).magicAttackChanges = List.replicate n 999900 := by
  unfold CombatSession.magicAttackChanges charmed buffedSession
  rw [List.filter_eq_self.mpr (by simp [charm]), List.map_map, List.eq_replicate_iff]
  simp [charm]

theorem charmed_bounded {n : ℕ} : ∀ b ∈ (charmed n).buffs.entries, b.Bounded := by
  intro b hb
  obtain ⟨i, -, rfl⟩ := List.mem_map.mp hb
  intro x hx
  have hvalue : x = 0 ∨ x = 1000000 ∨ x = 0 := by simpa [charm, plainBuff] using hx
  obtain rfl | rfl | rfl := hvalue
  all_goals decide

theorem charms_wrap_around : ¬ ∀ h : CombatSession, (∀ b ∈ h.buffs.entries, b.Bounded) →
    ∀ o, SnapshotMatches h o o := by
  intro hall
  have hfit := (plainSumsAgree_iff charmed_bounded).mp fun o =>
    ((snapshotMatches_iff charmed_bounded o o).mp (hall (charmed 2200) charmed_bounded o)).1
  -- 2200 charms come to 2199780000, which wraps below zero
  have hmagic := hfit.magicAttack
  rw [charmed_changes] at hmagic
  obtain ⟨-, hhi, -⟩ := hmagic
  rw [List.sum_replicate, nsmul_eq_mul] at hhi
  omega

end KoServer
