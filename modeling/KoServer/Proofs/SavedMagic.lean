import KoServer.Proofs.Buffs
import KoServer.Spec.SavedMagic

/-! The saved entries of scrolls follow their buffs as long as each cast that is accepted gets an entry
of its own, with the duration of the buff, and takes the place of no other scroll that still has one. -/

namespace KoServer

structure BuffRun where
  skillId : ℕ
  buffType : ℤ
  startTime : ℕ
  durationSecs : ℕ

def BuffRun.endTime (r : BuffRun) : ℕ := r.startTime + r.durationSecs * 1000

def BuffRun.isExpired (r : BuffRun) (now : ℕ) : Bool :=
  r.durationSecs ≠ 0 && r.durationSecs ≤ (now - r.startTime) / 1000

def ActiveBuff.run (b : ActiveBuff) : BuffRun := ⟨b.skillId, b.buffType, b.startTime, b.durationSecs⟩

theorem ActiveBuff.run_applyType4Stats (row : MagicType4Row) (skillId : ℕ) (b : ActiveBuff) :
    (b.applyType4Stats row skillId).run = b.run := by
  unfold ActiveBuff.applyType4Stats
  dsimp only
  split_ifs
  all_goals rfl

/-- Debuffs are not saved. -/
def CastReach.keepsScroll : CastReach → Bool
  | .enemy _ _ => false
  | .reflected => false
  | _ => true

namespace BuffSession

variable {t : MagicTables} {h h' : BuffSession} {c : Type4Cast} {k : BuffTick} {r r' : BuffRun}

def Runs (h : BuffSession) (r : BuffRun) : Prop := ∃ b ∈ h.buffs.entries, b.run = r

theorem Runs.eq (hr : h.Runs r) (hr' : h.Runs r') (htype : r.buffType = r'.buffType) : r = r' := by
  obtain ⟨b, hb, rfl⟩ := hr
  obtain ⟨b', hb', rfl⟩ := hr'
  rw [KeyedList.eq_of_key hb hb' htype]

theorem runs_applyType4Stats (row : MagicType4Row) (sSkill : ℤ) (skillId : ℕ) (roll : ℤ) :
    (h.applyType4Stats row sSkill skillId roll).Runs r ↔ h.Runs r := by
  have hrun := ActiveBuff.run_applyType4Stats row skillId
  unfold Runs applyType4Stats KeyedList.adjust
  simp [hrun]

theorem runs_applyBuff (b : ActiveBuff) :
    (h.applyBuff b).Runs r ↔ r = b.run ∨ h.Runs r ∧ r.buffType ≠ b.buffType := by
  unfold Runs applyBuff
  constructor
  · rintro ⟨b', hb', rfl⟩
    rcases KeyedList.mem_insert.mp hb' with rfl | ⟨hmem, htype⟩
    · exact Or.inl rfl
    · exact Or.inr ⟨⟨b', hmem, rfl⟩, htype⟩
  · rintro (rfl | ⟨⟨b', hmem, rfl⟩, htype⟩)
    · exact ⟨b, KeyedList.mem_insert.mpr (Or.inl rfl), rfl⟩
    · exact ⟨b', KeyedList.mem_insert.mpr (Or.inr ⟨hmem, htype⟩), rfl⟩

theorem runs_removeBuff (bt : ℤ) : (h.removeBuff bt).Runs r ↔ h.Runs r ∧ r.buffType ≠ bt := by
  unfold Runs removeBuff
  constructor
  · rintro ⟨b, hb, rfl⟩
    obtain ⟨hmem, htype⟩ := KeyedList.mem_erase.mp hb
    exact ⟨⟨b, hmem, rfl⟩, htype⟩
  · rintro ⟨⟨b, hmem, rfl⟩, htype⟩
    exact ⟨b, KeyedList.mem_erase.mpr ⟨hmem, htype⟩, rfl⟩

theorem runs_insertSavedMagic (skillId duration nowMs : ℕ) :
    (h.insertSavedMagic skillId duration nowMs).Runs r ↔ h.Runs r := by
  unfold insertSavedMagic
  split_ifs
  all_goals exact Iff.rfl

theorem runs_recastEntry {row : MagicType4Row} {entry : ℕ × ℕ}
    (hrow : t.magicType4 entry.1 = some row) :
    (h.recastEntry t k entry).Runs r ↔
      r = ⟨entry.1, row.buffType.getD 0, k.now, entry.2⟩ ∨
        h.Runs r ∧ r.buffType ≠ row.buffType.getD 0 := by
  unfold recastEntry recastOne
  rw [hrow]
  dsimp only
  rw [if_neg (not_not.mpr rfl), runs_applyType4Stats, runs_applyBuff]
  rfl

def castRun (c : Type4Cast) (row : MagicType4Row) : BuffRun :=
  ⟨c.skillId, row.buffType.getD 0, c.now, (row.duration.getD 0).toNat⟩

theorem exposed_of_visible (hvisible : h.effects.invisibilityType = 0) : h.exposed c = h := by
  unfold exposed
  split
  · unfold removeStealth
    rw [if_pos hvisible]
  · rfl

theorem runs_receive (hvisible : h.effects.invisibilityType = 0) (row : MagicType4Row)
    (moral sSkill : ℤ) :
    (h.receive c row moral sSkill).Runs r ↔
      r = castRun c row ∨ h.Runs r ∧ r.buffType ≠ row.buffType.getD 0 := by
  have hcast : ∀ isBuff, (((h.exposed c).applyBuff
      (createActiveBuff c.skillId c.caster row c.now isBuff)).applyType4Stats row sSkill c.skillId
        c.roll).Runs r ↔ r = castRun c row ∨ h.Runs r ∧ r.buffType ≠ row.buffType.getD 0 := by
    intro isBuff
    rw [runs_applyType4Stats, runs_applyBuff, exposed_of_visible hvisible]
    rfl
  unfold receive
  cases c.reach <;>
    first | exact hcast _ | exact (runs_insertSavedMagic _ _ _).trans (hcast _)

theorem savedMagic_insertSavedMagic (skillId duration nowMs : ℕ) :
    (h.insertSavedMagic skillId duration nowMs).savedMagic =
      if SAVED_MAGIC_MIN_SKILL_ID < skillId ∧ (∀ e ∈ h.savedMagic, e.1 ≠ skillId) ∧
          h.savedMagic.length < MAX_SAVED_MAGIC then
        (skillId, nowMs + duration * 1000) :: h.savedMagic
      else h.savedMagic := by
  have hany : h.savedMagic.any (·.1 = skillId) = true ↔ ¬ ∀ e ∈ h.savedMagic, e.1 ≠ skillId := by
    simp
  unfold insertSavedMagic
  by_cases hid : SAVED_MAGIC_MIN_SKILL_ID < skillId
  · rw [if_neg (Nat.not_le.mpr hid)]
    by_cases hfree : ∀ e ∈ h.savedMagic, e.1 ≠ skillId
    · rw [if_neg (fun hsaved => hany.mp hsaved hfree)]
      by_cases hroom : h.savedMagic.length < MAX_SAVED_MAGIC
      · rw [if_neg (Nat.not_le.mpr hroom), if_pos ⟨hid, hfree, hroom⟩]
      · rw [if_pos (Nat.not_lt.mp hroom), if_neg (fun hkeeps => hroom hkeeps.2.2)]
    · rw [if_pos (hany.mpr hfree), if_neg (fun hkeeps => hfree hkeeps.2.1)]
  · rw [if_pos (Nat.not_lt.mp hid), if_neg (fun hkeeps => hid hkeeps.1)]

theorem savedMagic_receive (hvisible : h.effects.invisibilityType = 0) (row : MagicType4Row)
    (moral sSkill : ℤ) :
    (h.receive c row moral sSkill).savedMagic =
      if c.reach.keepsScroll then
        (h.insertSavedMagic c.skillId ((row.duration.getD 0).toNat % 2 ^ 16) c.nowMs).savedMagic
      else h.savedMagic := by
  have hsame : ∀ isBuff, (((h.exposed c).applyBuff
      (createActiveBuff c.skillId c.caster row c.now isBuff)).applyType4Stats row sSkill c.skillId
        c.roll).savedMagic = h.savedMagic := by
    intro isBuff
    rw [exposed_of_visible hvisible]
    rfl
  unfold receive
  cases c.reach <;>
    first
    | exact hsame _
    | (rw [savedMagic_insertSavedMagic, savedMagic_insertSavedMagic, hsame]; rfl)

theorem transformationType_receive (hvisible : h.effects.invisibilityType = 0) (row : MagicType4Row)
    (moral sSkill : ℤ) :
    (h.receive c row moral sSkill).transformationType = h.transformationType := by
  have hinsert : ∀ (h' : BuffSession) (skillId duration nowMs : ℕ),
      (h'.insertSavedMagic skillId duration nowMs).transformationType = h'.transformationType := by
    intro h' skillId duration nowMs
    unfold insertSavedMagic
    split_ifs
    all_goals rfl
  unfold receive
  rw [exposed_of_visible hvisible]
  cases c.reach <;> first | rfl | exact hinsert _ _ _ _

theorem mem_getSavedMagicForRecast {e : ℕ × ℕ} :
    e ∈ h.getSavedMagicForRecast k ↔ ∃ expiry, (e.1, expiry) ∈ h.savedMagic ∧ e.1 ≠ 0 ∧
      e.2 = min ((expiry - k.nowMs) / 1000) 65535 ∧ 0 < e.2 := by
  unfold getSavedMagicForRecast
  rw [List.mem_filterMap]
  constructor
  · rintro ⟨saved, hmem, hsome⟩
    dsimp only at hsome
    split_ifs at hsome with hnone hpos
    obtain rfl := Option.some.inj hsome
    exact ⟨saved.2, (k.savedOrder.mem_order).mp hmem, fun h0 => hnone (Or.inl h0), rfl, hpos⟩
  · rintro ⟨expiry, hmem, hid, hleft, hpos⟩
    refine ⟨(e.1, expiry), (k.savedOrder.mem_order).mpr hmem, ?_⟩
    have hlive : ¬ (e.1 = 0 ∨ expiry ≤ k.nowMs) := by omega
    dsimp only
    rw [if_neg hlive, if_pos (by omega), ← hleft]

/-- An entry that is returned for a recast has at least a second left. -/
theorem live_of_recast {e : ℕ × ℕ} (he : e ∈ h.getSavedMagicForRecast k) :
    ∃ expiry, (e.1, expiry) ∈ h.savedMagic ∧ k.nowMs + e.2 * 1000 ≤ expiry ∧ 0 < e.2 := by
  obtain ⟨expiry, hmem, -, hleft, hpos⟩ := mem_getSavedMagicForRecast.mp he
  exact ⟨expiry, hmem, by omega, hpos⟩

theorem recastOne_of_ne {bt : ℤ} {entry : ℕ × ℕ}
    (hne : ∀ row, t.magicType4 entry.1 = some row → row.buffType.getD 0 ≠ bt) :
    h.recastOne t k bt entry = h := by
  unfold recastOne
  cases hrow : t.magicType4 entry.1 with
  | none => rfl
  | some row => exact if_pos (hne row hrow)

/-- A type of which no scroll is left to recast. -/
def NothingToRecast (t : MagicTables) (h : BuffSession) (k : BuffTick) (bt : ℤ) : Prop :=
  ∀ e ∈ h.getSavedMagicForRecast k, ∀ row, t.magicType4 e.1 = some row → row.buffType.getD 0 ≠ bt

theorem recastLockableScrolls_eq {bt : ℤ} (hnothing : NothingToRecast t h k bt) :
    h.recastLockableScrolls t k bt = h.removeBuff bt := by
  have hfold : ∀ (entries : List (ℕ × ℕ)) (h' : BuffSession),
      (∀ e ∈ entries, ∀ row, t.magicType4 e.1 = some row → row.buffType.getD 0 ≠ bt) →
        entries.foldl (fun h entry => h.recastOne t k bt entry) h' = h' := by
    intro entries
    induction entries with
    | nil => exact fun _ _ => rfl
    | cons e entries ih =>
      intro h' hne
      obtain ⟨hfirst, hrest⟩ := List.forall_mem_cons.mp hne
      rw [List.foldl_cons, recastOne_of_ne hfirst, ih h' hrest]
  unfold recastLockableScrolls
  dsimp only
  split
  · rfl
  · exact hfold _ _ hnothing

/-- What the end of some buffs leaves: the same buffs, and the entries of the other skills. -/
structure Ended (h : BuffSession) (skills : List ℕ) (h' : BuffSession) : Prop where
  runs : ∀ r, h'.Runs r ↔ h.Runs r
  saved : ∀ e, e ∈ h'.savedMagic ↔ e ∈ h.savedMagic ∧ e.1 ∉ skills
  shape : h'.transformationType = h.transformationType
  stealth : h.effects.invisibilityType = 0 → h'.effects.invisibilityType = 0

theorem expireBuff_ended {b : ActiveBuff} (hgone : ∀ r, h.Runs r → r.buffType ≠ b.buffType)
    (hnothing : NothingToRecast t (h.removeSavedMagic b.skillId) k b.buffType) :
    Ended h [b.skillId] (h.expireBuff t k b) := by
  have hstealth : h.effects.invisibilityType = 0 →
      (h.effects.buffTypeCleanup b.buffType).invisibilityType = 0 := by
    intro hzero
    unfold SessionEffects.buffTypeCleanup
    dsimp only
    rw [hzero, ite_self]
  have hsaved : ∀ e, e ∈ (h.removeSavedMagic b.skillId).savedMagic ↔
      e ∈ h.savedMagic ∧ e.1 ∉ [b.skillId] := by
    intro e
    simp [removeSavedMagic]
  unfold expireBuff
  extract_lets h' h''
  split
  · have hrecast : h''.recastLockableScrolls t k b.buffType = h''.removeBuff b.buffType :=
      recastLockableScrolls_eq hnothing
    rw [hrecast]
    refine ⟨fun r => ?_, hsaved, rfl, hstealth⟩
    rw [runs_removeBuff]
    exact and_iff_left_of_imp (hgone r)
  · exact ⟨fun r => Iff.rfl, hsaved, rfl, hstealth⟩

theorem expireBuffs_ended (expired : List ActiveBuff)
    (hgone : ∀ b ∈ expired, ∀ r, h.Runs r → r.buffType ≠ b.buffType)
    (hown : ∀ b ∈ expired, ∀ e ∈ h.getSavedMagicForRecast k, ∀ row,
      t.magicType4 e.1 = some row → row.buffType.getD 0 = b.buffType → e.1 = b.skillId) :
    Ended h (expired.map ActiveBuff.skillId)
      (expired.foldl (fun h b => h.expireBuff t k b) h) := by
  induction expired generalizing h with
  | nil =>
    refine ⟨fun _ => Iff.rfl, fun e => ?_, rfl, fun hzero => hzero⟩
    exact (and_iff_left List.not_mem_nil).symm
  | cons b expired ih =>
    obtain ⟨hgoneb, hgones⟩ := List.forall_mem_cons.mp hgone
    obtain ⟨hownb, howns⟩ := List.forall_mem_cons.mp hown
    have hnothing : NothingToRecast t (h.removeSavedMagic b.skillId) k b.buffType := by
      intro e he row hrow htype
      obtain ⟨expiry, hmem, hid, hleft⟩ := mem_getSavedMagicForRecast.mp he
      have hkept := List.mem_filter.mp hmem
      have hreturned := mem_getSavedMagicForRecast.mpr ⟨expiry, hkept.1, hid, hleft⟩
      exact of_decide_eq_true hkept.2 (hownb e hreturned row hrow htype)
    have hfirst := expireBuff_ended hgoneb hnothing
    have hrest := @ih (h.expireBuff t k b) (fun b' hb' r hr => hgones b' hb' r ((hfirst.runs r).mp hr))
      (fun b' hb' e he => by
        obtain ⟨expiry, hmem, hid, hleft⟩ := mem_getSavedMagicForRecast.mp he
        have hkept := (hfirst.saved _).mp hmem
        exact howns b' hb' e (mem_getSavedMagicForRecast.mpr ⟨expiry, hkept.1, hid, hleft⟩))
    rw [List.foldl_cons]
    refine ⟨fun r => (hrest.runs r).trans (hfirst.runs r), fun e => ?_, hrest.shape.trans hfirst.shape,
      fun hzero => hrest.stealth (hfirst.stealth hzero)⟩
    rw [hrest.saved, hfirst.saved]
    simp only [List.map_cons, List.mem_cons, List.not_mem_nil, or_false, not_or, and_assoc]

theorem runs_filter (now : ℕ) :
    BuffSession.Runs { h with buffs := h.buffs.filter (!·.isExpired now) } r ↔
      h.Runs r ∧ r.isExpired now = false := by
  unfold Runs
  constructor
  · rintro ⟨b, hb, rfl⟩
    obtain ⟨hmem, hkept⟩ := KeyedList.mem_filter.mp hb
    have hkept' : b.isExpired now = false := by simpa using hkept
    exact ⟨⟨b, hmem, rfl⟩, hkept'⟩
  · rintro ⟨⟨b, hmem, rfl⟩, hkept⟩
    have hkept' : b.isExpired now = false := hkept
    exact ⟨b, KeyedList.mem_filter.mpr ⟨hmem, by simp [hkept']⟩, rfl⟩

/-- What is left of a session after a tick, where its saved scrolls belong to its buffs. -/
structure TickLeaves (h : BuffSession) (k : BuffTick) (h' : BuffSession) : Prop where
  runs : ∀ r, h'.Runs r ↔ h.Runs r ∧ r.isExpired k.now = false
  saved : ∀ e, e ∈ h'.savedMagic ↔ e ∈ h.savedMagic ∧
    ∀ r, h.Runs r → r.isExpired k.now = true → r.skillId ≠ e.1
  shape : h'.transformationType = 0
  stealth : h'.effects.invisibilityType = 0

theorem processBuffTick_leaves (hshape : h.transformationType = 0)
    (hstealth : h.effects.invisibilityType = 0)
    (hown : ∀ r, h.Runs r → ∀ e ∈ h.getSavedMagicForRecast k, ∀ row,
      t.magicType4 e.1 = some row → row.buffType.getD 0 = r.buffType → e.1 = r.skillId) :
    TickLeaves h k (h.processBuffTick t k) := by
  set expired := k.order.order (h.buffs.entries.filter (·.isExpired k.now)) with hexpired
  have hmem : ∀ b, b ∈ expired ↔ b ∈ h.buffs.entries ∧ b.isExpired k.now = true := by
    intro b
    rw [hexpired, Shuffle.mem_order, List.mem_filter]
  have hended := @expireBuffs_ended t { h with buffs := h.buffs.filter (!·.isExpired k.now) } k expired
    (fun b hb r hr htype => by
      obtain ⟨hruns, hkept⟩ := (runs_filter k.now).mp hr
      obtain ⟨hbmem, hbexpired⟩ := (hmem b).mp hb
      have hsame : r = b.run := hruns.eq ⟨b, hbmem, rfl⟩ htype
      rw [hsame] at hkept
      exact absurd (hkept.symm.trans hbexpired) (by decide))
    (fun b hb e he row hrow htype => hown b.run ⟨b, ((hmem b).mp hb).1, rfl⟩ e he row hrow htype)
  set h₂ := expired.foldl (fun h b => h.expireBuff t k b)
    { h with buffs := h.buffs.filter (!·.isExpired k.now) } with hh₂
  have hleaves : TickLeaves h k h₂ := by
    refine ⟨fun r => (hended.runs r).trans (runs_filter k.now), fun e => ?_, hended.shape.trans hshape,
      hended.stealth hstealth⟩
    refine (hended.saved e).trans (and_congr_right' ?_)
    constructor
    · rintro hnot _ ⟨b, hb, rfl⟩ hexp heq
      exact hnot (List.mem_map.mpr ⟨b, (hmem b).mpr ⟨hb, hexp⟩, heq⟩)
    · intro hnone hskill
      obtain ⟨b, hb, heq⟩ := List.mem_map.mp hskill
      exact hnone b.run ⟨b, ((hmem b).mp hb).1, rfl⟩ ((hmem b).mp hb).2 heq
  have hplain : ¬ (h.transformationExpired k = true) := by
    unfold transformationExpired
    rw [hshape]
    simp
  have hvisible : ¬ (h.stealthExpired k = true) := by
    unfold stealthExpired
    rw [hstealth]
    simp
  unfold processBuffTick
  dsimp only
  rw [← hexpired, ← hh₂, if_neg hplain, if_neg hvisible]
  split_ifs
  all_goals exact ⟨hleaves.runs, hleaves.saved, hleaves.shape, hleaves.stealth⟩

theorem mem_getSavedMagicEntries {order : Shuffle (ℕ × ℕ)} {now : ℕ} {e : ℕ × ℕ}
    (he : e ∈ h.getSavedMagicEntries order now) :
    ∃ expiry, (e.1, expiry) ∈ h.savedMagic ∧ now + e.2 * 1000 ≤ expiry := by
  unfold getSavedMagicEntries at he
  obtain ⟨saved, hmem, hsome⟩ := List.mem_filterMap.mp he
  dsimp only at hsome
  split_ifs at hsome with hnone hpos
  obtain rfl := Option.some.inj hsome
  exact ⟨saved.2, order.mem_order.mp hmem, by dsimp only; omega⟩

theorem mem_loadSavedMagic {entries : List (ℕ × ℕ)} {now : ℕ} {e : ℕ × ℕ}
    (he : e ∈ (h.loadSavedMagic entries now).savedMagic) :
    ∃ d, (e.1, d) ∈ entries ∧ e.2 = now + d * 1000 ∧ d < MAX_SAVED_MAGIC_DURATION_SECS ∧
      MIN_SAVED_MAGIC_DURATION_SECS < d := by
  have hfold : ∀ (entries saved : List (ℕ × ℕ)),
      e ∈ entries.foldl (fun saved e =>
        if 0 < e.1 ∧ MIN_SAVED_MAGIC_DURATION_SECS < e.2 ∧ e.2 < MAX_SAVED_MAGIC_DURATION_SECS then
          (e.1, now + e.2 * 1000) :: saved.filter (·.1 ≠ e.1)
        else saved) saved →
      e ∈ saved ∨ ∃ d, (e.1, d) ∈ entries ∧ e.2 = now + d * 1000 ∧
        d < MAX_SAVED_MAGIC_DURATION_SECS ∧ MIN_SAVED_MAGIC_DURATION_SECS < d := by
    intro entries
    induction entries with
    | nil => exact fun _ hmem => Or.inl hmem
    | cons first entries ih =>
      intro saved hmem
      rcases ih _ hmem with hsaved | ⟨d, hd, hrest⟩
      · dsimp only at hsaved
        split_ifs at hsaved with hkept
        · rcases List.mem_cons.mp hsaved with rfl | hold
          · exact Or.inr ⟨first.2, List.mem_cons_self, rfl, hkept.2.2, hkept.2.1⟩
          · exact Or.inl (List.mem_filter.mp hold).1
        · exact Or.inl hsaved
      · exact Or.inr ⟨d, List.mem_cons_of_mem _ hd, hrest⟩
  exact (hfold entries [] he).resolve_left List.not_mem_nil

structure Recast (h h' : BuffSession) : Prop where
  saved : h'.savedMagic = h.savedMagic
  shape : h'.transformationType = h.transformationType
  stealth : h'.effects.invisibilityType = h.effects.invisibilityType

theorem recastEntry_recast (entry : ℕ × ℕ) : Recast h (h.recastEntry t k entry) := by
  unfold recastEntry recastOne
  cases t.magicType4 entry.1 with
  | none => exact ⟨rfl, rfl, rfl⟩
  | some row =>
    dsimp only
    rw [if_neg (not_not.mpr rfl)]
    exact ⟨rfl, rfl, rfl⟩

structure OwnTypes (t : MagicTables) (skills : ℕ → Prop) : Prop where
  known : ∀ s, skills s → ∃ row, t.magicType4 s = some row
  apart : ∀ s s' row row', skills s → skills s' → t.magicType4 s = some row →
    t.magicType4 s' = some row' → row.buffType.getD 0 = row'.buffType.getD 0 → s = s'

def RunsOf (t : MagicTables) (skills : ℕ → Prop) (h : BuffSession) : Prop :=
  ∀ r, h.Runs r → skills r.skillId ∧
    ∃ row, t.magicType4 r.skillId = some row ∧ row.buffType.getD 0 = r.buffType

theorem recastEntry_runsOf {skills : ℕ → Prop} {entry : ℕ × ℕ} (hown : OwnTypes t skills)
    (hentry : skills entry.1) (hruns : RunsOf t skills h) :
    RunsOf t skills (h.recastEntry t k entry) := by
  intro r hr
  obtain ⟨row, hrow⟩ := hown.known _ hentry
  rcases (runs_recastEntry hrow).mp hr with rfl | ⟨hr, -⟩
  · exact ⟨hentry, row, hrow, rfl⟩
  · exact hruns r hr

/-- A recast ends no buff of another skill. -/
theorem recastEntry_active {skills : ℕ → Prop} {entry : ℕ × ℕ} {s : ℕ} (hown : OwnTypes t skills)
    (hentry : skills entry.1) (hruns : RunsOf t skills h)
    (hs : s = entry.1 ∨ ∃ r, h.Runs r ∧ r.skillId = s) :
    ∃ r, (h.recastEntry t k entry).Runs r ∧ r.skillId = s := by
  obtain ⟨row, hrow⟩ := hown.known _ hentry
  have hnew := (@runs_recastEntry t h k ⟨entry.1, row.buffType.getD 0, k.now, entry.2⟩ row entry
    hrow).mpr (Or.inl rfl)
  rcases hs with rfl | ⟨r, hr, rfl⟩
  · exact ⟨_, hnew, rfl⟩
  · by_cases htype : r.buffType = row.buffType.getD 0
    · obtain ⟨hskill, row', hrow', htype'⟩ := hruns r hr
      exact ⟨_, hnew, hown.apart _ _ _ _ hentry hskill hrow hrow' (htype.symm.trans htype'.symm)⟩
    · exact ⟨r, (runs_recastEntry hrow).mpr (Or.inr ⟨hr, htype⟩), rfl⟩

/-- Each scroll of a list is active after its recast, and nothing else that was not before. -/
theorem recastEntries_runs {skills : ℕ → Prop} (hown : OwnTypes t skills) (entries : List (ℕ × ℕ))
    (hentries : ∀ e ∈ entries, skills e.1) (hruns : RunsOf t skills h) :
    Recast h (entries.foldl (fun h entry => h.recastEntry t k entry) h) ∧
      (∀ r, (entries.foldl (fun h entry => h.recastEntry t k entry) h).Runs r → h.Runs r ∨
        ∃ e ∈ entries, r.skillId = e.1 ∧ r.startTime = k.now ∧ r.durationSecs = e.2) ∧
      RunsOf t skills (entries.foldl (fun h entry => h.recastEntry t k entry) h) ∧
      ∀ s, ((∃ e ∈ entries, e.1 = s) ∨ ∃ r, h.Runs r ∧ r.skillId = s) →
        ∃ r, (entries.foldl (fun h entry => h.recastEntry t k entry) h).Runs r ∧ r.skillId = s := by
  induction entries generalizing h with
  | nil =>
    refine ⟨⟨rfl, rfl, rfl⟩, fun r hr => Or.inl hr, hruns, fun s hs => ?_⟩
    exact hs.resolve_left (fun ⟨_, he, _⟩ => List.not_mem_nil he)
  | cons e entries ih =>
    obtain ⟨hfirst, hrest⟩ := List.forall_mem_cons.mp hentries
    obtain ⟨row, hrow⟩ := hown.known _ hfirst
    obtain ⟨hrecast, hback, hof, hactive⟩ :=
      @ih (h.recastEntry t k e) hrest (recastEntry_runsOf hown hfirst hruns)
    have hkeeps := @recastEntry_recast t h k e
    rw [List.foldl_cons]
    refine ⟨⟨hrecast.saved.trans hkeeps.saved, hrecast.shape.trans hkeeps.shape,
      hrecast.stealth.trans hkeeps.stealth⟩, fun r hr => ?_, hof, fun s hs => ?_⟩
    · rcases hback r hr with hbefore | ⟨e', he', hr'⟩
      · rcases (runs_recastEntry hrow).mp hbefore with rfl | ⟨hold, -⟩
        · exact Or.inr ⟨e, List.mem_cons_self, rfl, rfl, rfl⟩
        · exact Or.inl hold
      · exact Or.inr ⟨e', List.mem_cons_of_mem _ he', hr'⟩
    · apply hactive
      rcases hs with ⟨e', he', rfl⟩ | hold
      · rcases List.mem_cons.mp he' with rfl | he'
        · exact Or.inr (recastEntry_active hown hfirst hruns (Or.inl rfl))
        · exact Or.inl ⟨e', he', rfl⟩
      · exact Or.inr (recastEntry_active hown hfirst hruns (Or.inr hold))

end BuffSession

def MagicType4Row.seconds (row : MagicType4Row) : ℕ := (row.duration.getD 0).toNat

/-- A cast with a duration whose buff, if it lasts more than five seconds, gets an entry of its own for
all of it. It takes the place of no other scroll whose entry has a second left. -/
structure CastFits (h : BuffSession) (c : Type4Cast) (row : MagicType4Row) : Prop where
  lasts : row.seconds ≠ 0
  entry : row.seconds ≤ 5 ∨ row.seconds < 2 ^ 16 ∧ c.reach.keepsScroll = true ∧
    (∀ e ∈ h.savedMagic, e.1 ≠ c.skillId) ∧ h.savedMagic.length < MAX_SAVED_MAGIC
  slot : ∀ b ∈ h.buffs.entries, b.buffType = row.buffType.getD 0 → b.skillId ≠ c.skillId →
    ∀ e ∈ h.savedMagic, e.1 = b.skillId → e.2 < c.nowMs + 1000

namespace ScrollWorld

variable {t : MagicTables} {w : ScrollWorld} {c : Type4Cast} {k : BuffTick}

def InOrder (w : ScrollWorld) : ScrollEvent → Prop
  | .cast c => SAVED_MAGIC_MIN_SKILL_ID < c.skillId ∧ w.clock ≤ c.now ∧ c.nowMs = c.now
  | .tick k => w.clock ≤ k.now ∧ k.nowMs = k.now
  | .relog _ saved loaded k =>
    w.clock ≤ saved ∧ saved ≤ loaded ∧ loaded ≤ k.now ∧ k.nowMs = k.now

def ScrollFits (t : MagicTables) (w : ScrollWorld) : ScrollEvent → Prop
  | .cast c => ∀ row skill, t.magicType4 c.skillId = some row → t.magic c.skillId = some skill →
    w.session.reached c (skill.moral.getD 0) (row.buffType.getD 0) = true →
      CastFits w.session c row
  | _ => True

/-- Every buff of a scroll with more than five seconds left at a time has an entry that ends with it,
up to a second for each cycle. An entry that is returned for a recast is that of an active buff, and
ends no later than the one it was saved from. -/
structure ScrollsKept (w : ScrollWorld) (now : ℕ) : Prop where
  saved : ∀ b ∈ w.session.buffs.entries, SAVED_MAGIC_MIN_SKILL_ID < b.skillId →
    b.durationSecs = 0 ∨ now + 5000 < b.run.endTime →
      b.durationSecs ≠ 0 ∧ ∃ e ∈ w.session.savedMagic, e.1 = b.skillId ∧
        e.2 ≤ b.run.endTime + 1000 * w.cycles ∧ b.run.endTime ≤ e.2 + 1000 * w.cycles
  recast : ∀ k : BuffTick, k.nowMs = now → ∀ e ∈ w.session.getSavedMagicForRecast k,
    (∃ b ∈ w.session.buffs.entries, b.skillId = e.1) ∧ now + e.2 * 1000 ≤ w.savedFrom e.1

structure ScrollInvariant (t : MagicTables) (w : ScrollWorld) : Prop where
  stealth : w.session.effects.invisibilityType = 0
  shape : w.session.transformationType = 0
  known : ∀ r, w.session.Runs r → SAVED_MAGIC_MIN_SKILL_ID < r.skillId ∧
    ∃ row, t.magicType4 r.skillId = some row ∧ row.buffType.getD 0 = r.buffType
  started : ∀ r, w.session.Runs r → r.startTime ≤ w.clock
  lasts : ∀ r, w.session.Runs r → r.durationSecs ≠ 0
  kept : ∀ r, w.session.Runs r → r.durationSecs ≤ 5 ∨
    ∃ e ∈ w.session.savedMagic, e.1 = r.skillId ∧ r.endTime ≤ e.2 ∧
      e.2 ≤ r.endTime + 1000 * w.cycles
  running : ∀ e ∈ w.session.savedMagic, e.2 < w.clock + 1000 ∨
    ∃ r, w.session.Runs r ∧ r.skillId = e.1
  source : ∀ e ∈ w.session.savedMagic, e.2 ≤ w.savedFrom e.1

theorem ScrollInvariant.scrollsKept (hinv : ScrollInvariant t w) {now : ℕ} (hnow : w.clock ≤ now) :
    ScrollsKept w now := by
  constructor
  · intro b hb _ hleft
    have hruns : w.session.Runs b.run := ⟨b, hb, rfl⟩
    have hlasts := hinv.lasts _ hruns
    refine ⟨hlasts, ?_⟩
    have hend := hleft.resolve_left hlasts
    have hlong : ¬ b.run.durationSecs ≤ 5 := by
      have hstart := hinv.started _ hruns
      unfold BuffRun.endTime at hend
      omega
    obtain ⟨e, he, hskill, hfrom, hto⟩ := (hinv.kept _ hruns).resolve_left hlong
    exact ⟨e, he, hskill, hto, Nat.le_trans hfrom (Nat.le_add_right _ _)⟩
  · rintro k rfl e he
    obtain ⟨expiry, hmem, hleft, hpos⟩ := BuffSession.live_of_recast he
    have hsource := hinv.source _ hmem
    refine ⟨?_, Nat.le_trans hleft hsource⟩
    rcases hinv.running _ hmem with hshort | ⟨_, ⟨b, hb, rfl⟩, hskill⟩
    · dsimp only at hshort
      omega
    · exact ⟨b, hb, hskill⟩

theorem ScrollInvariant.run_eq (hinv : ScrollInvariant t w) {r r' : BuffRun}
    {row : MagicType4Row} (hr : w.session.Runs r) (hr' : w.session.Runs r')
    (hrow : t.magicType4 r.skillId = some row) (htype : row.buffType.getD 0 = r'.buffType) :
    r = r' := by
  obtain ⟨-, row', hrow', htype'⟩ := hinv.known r hr
  obtain rfl := Option.some.inj (hrow.symm.trans hrow')
  exact hr.eq hr' (htype'.symm.trans htype)

theorem ScrollInvariant.tick (hinv : ScrollInvariant t w) (horder : InOrder w (.tick k)) :
    ScrollInvariant t (w.step t (.tick k)) := by
  obtain ⟨hclock, hms⟩ := horder
  have hleaves : BuffSession.TickLeaves w.session k (w.session.processBuffTick t k) := by
    apply BuffSession.processBuffTick_leaves hinv.shape hinv.stealth
    intro r hr e he row hrow htype
    obtain ⟨expiry, hmem, hleft, hpos⟩ := BuffSession.live_of_recast he
    rcases hinv.running _ hmem with hshort | ⟨r', hr', hskill⟩
    · dsimp only at hshort
      omega
    · dsimp only at hskill
      rw [← hskill] at hrow ⊢
      rw [hinv.run_eq hr' hr hrow htype]
  refine ⟨hleaves.stealth, hleaves.shape, fun r hr => ?_, fun r hr => ?_, fun r hr => ?_,
    fun r hr => ?_, fun e he => ?_, fun e he => ?_⟩
  · exact hinv.known r ((hleaves.runs r).mp hr).1
  · exact Nat.le_trans (hinv.started r ((hleaves.runs r).mp hr).1) hclock
  · exact hinv.lasts r ((hleaves.runs r).mp hr).1
  · obtain ⟨hr, hlive⟩ := (hleaves.runs r).mp hr
    refine (hinv.kept r hr).imp_right ?_
    rintro ⟨e, he, hskill, hends⟩
    refine ⟨e, (hleaves.saved e).mpr ⟨he, fun r' hr' hexpired hsame => ?_⟩, hskill, hends⟩
    obtain ⟨-, row, hrow, htype⟩ := hinv.known r hr
    rw [← hskill, ← hsame] at hrow
    rw [hinv.run_eq hr' hr hrow htype, hlive] at hexpired
    cases hexpired
  · obtain ⟨he, hnone⟩ := (hleaves.saved e).mp he
    rcases hinv.running e he with hshort | ⟨r, hr, hskill⟩
    · left
      show e.2 < k.now + 1000
      omega
    · right
      refine ⟨r, (hleaves.runs r).mpr ⟨hr, ?_⟩, hskill⟩
      exact eq_false_of_ne_true (fun hexpired => hnone r hr hexpired hskill)
  · exact hinv.source e ((hleaves.saved e).mp he).1

/-- A cast that reaches nobody only moves the clock. -/
theorem ScrollInvariant.missed (hinv : ScrollInvariant t w) (hclock : w.clock ≤ c.now)
    (hmissed : w.session.executeType4 t c = w.session) : ScrollInvariant t (w.cast t c) := by
  have hsource : (w.cast t c).savedFrom = w.savedFrom := by
    unfold cast
    dsimp only
    rw [hmissed, Bool.and_not_self]
    rfl
  have hsession : (w.cast t c).session = w.session := hmissed
  constructor
  · rw [hsession]
    exact hinv.stealth
  · rw [hsession]
    exact hinv.shape
  · rw [hsession]
    exact hinv.known
  · rw [hsession]
    exact fun r hr => Nat.le_trans (hinv.started r hr) hclock
  · rw [hsession]
    exact hinv.lasts
  · rw [hsession]
    exact hinv.kept
  · rw [hsession]
    intro e he
    refine (hinv.running e he).imp_left fun hshort => ?_
    show e.2 < c.now + 1000
    omega
  · rw [hsession, hsource]
    exact hinv.source

theorem isSaved_iff {h : BuffSession} {skillId : ℕ} :
    isSaved h skillId = true ↔ ∃ e ∈ h.savedMagic, e.1 = skillId := by
  simp [isSaved]

theorem cast_source (hinv : ScrollInvariant t w) {row : MagicType4Row}
    (hrow : t.magicType4 c.skillId = some row) (hms : c.nowMs = c.now)
    (hnew : ∀ e ∈ (w.session.executeType4 t c).savedMagic, e ∈ w.session.savedMagic ∨
      e = (c.skillId, c.nowMs + row.seconds % 2 ^ 16 * 1000) ∧
        ∀ e ∈ w.session.savedMagic, e.1 ≠ c.skillId) :
    ∀ e ∈ (w.cast t c).session.savedMagic, e.2 ≤ (w.cast t c).savedFrom e.1 := by
  have hseconds : (((t.magicType4 c.skillId).bind MagicType4Row.duration).getD 0).toNat =
      row.seconds := by
    rw [hrow]
    rfl
  intro e he
  unfold cast
  dsimp only
  rw [hseconds]
  rcases hnew e he with hold | ⟨rfl, hfree⟩
  · have hsource := hinv.source e hold
    split_ifs with hsaved
    · have hother : e.1 ≠ c.skillId := by
        intro hsame
        have hbefore : isSaved w.session c.skillId = true := isSaved_iff.mpr ⟨e, hold, hsame⟩
        rw [hbefore] at hsaved
        simp at hsaved
      rw [Function.update_of_ne hother]
      exact hsource
    · exact hsource
  · have hafter : isSaved (w.session.executeType4 t c) c.skillId = true :=
      isSaved_iff.mpr ⟨_, he, rfl⟩
    have hbefore : ¬ isSaved w.session c.skillId = true := fun hsaved => by
      obtain ⟨e, hmem, hsame⟩ := isSaved_iff.mp hsaved
      exact hfree e hmem hsame
    rw [if_pos (by simp [hafter, hbefore]), Function.update_self, hms]
    have hmod := Nat.mod_le row.seconds (2 ^ 16)
    omega

/-- What a cast that is accepted leaves: its buff in its slot, and perhaps an entry more. -/
structure Accepted (t : MagicTables) (w : ScrollWorld) (c : Type4Cast) (row : MagicType4Row) : Prop where
  runs : ∀ r, (w.session.executeType4 t c).Runs r ↔ r = BuffSession.castRun c row ∨
    w.session.Runs r ∧ r.buffType ≠ row.buffType.getD 0
  old : ∀ e ∈ w.session.savedMagic, e ∈ (w.session.executeType4 t c).savedMagic
  new : ∀ e ∈ (w.session.executeType4 t c).savedMagic, e ∈ w.session.savedMagic ∨
    e = (c.skillId, c.nowMs + row.seconds % 2 ^ 16 * 1000) ∧
      ∀ e ∈ w.session.savedMagic, e.1 ≠ c.skillId
  entry : c.reach.keepsScroll = true → (∀ e ∈ w.session.savedMagic, e.1 ≠ c.skillId) →
    w.session.savedMagic.length < MAX_SAVED_MAGIC →
      (c.skillId, c.nowMs + row.seconds % 2 ^ 16 * 1000) ∈
        (w.session.executeType4 t c).savedMagic
  shape : (w.session.executeType4 t c).transformationType = w.session.transformationType
  stealth : (w.session.executeType4 t c).effects.invisibilityType = 0

theorem accepted_of_receive {row : MagicType4Row} {moral sSkill : ℤ}
    (hstealth : w.session.effects.invisibilityType = 0)
    (hscroll : SAVED_MAGIC_MIN_SKILL_ID < c.skillId)
    (hreceive : w.session.executeType4 t c = w.session.receive c row moral sSkill) :
    Accepted t w c row := by
  have hsaved := @BuffSession.savedMagic_receive w.session c hstealth row moral sSkill
  rw [← hreceive, BuffSession.savedMagic_insertSavedMagic] at hsaved
  refine ⟨fun r => ?_, fun e he => ?_, fun e he => ?_, fun hkeeps hfree hroom => ?_, ?_, ?_⟩
  · rw [hreceive]
    exact BuffSession.runs_receive hstealth row _ _
  · rw [hsaved]
    split_ifs
    · exact List.mem_cons_of_mem _ he
    · exact he
    · exact he
  · rw [hsaved] at he
    split_ifs at he with hkeeps hinserts
    · rcases List.mem_cons.mp he with rfl | he
      · exact Or.inr ⟨rfl, hinserts.2.1⟩
      · exact Or.inl he
    · exact Or.inl he
    · exact Or.inl he
  · rw [hsaved, if_pos hkeeps, if_pos ⟨hscroll, hfree, hroom⟩]
    exact List.mem_cons_self
  · rw [hreceive]
    exact BuffSession.transformationType_receive hstealth row _ _
  · rw [hreceive, BuffSession.effects_receive, BuffSession.exposed_of_visible hstealth]
    exact hstealth

theorem ScrollInvariant.cast (hinv : ScrollInvariant t w) (horder : InOrder w (.cast c))
    (hfits : ScrollFits t w (.cast c)) : ScrollInvariant t (w.step t (.cast c)) := by
  obtain ⟨hscroll, hclock, hms⟩ := horder
  rcases BuffSession.executeType4_cases t w.session c with
    ⟨row, skill, hrow, hskill, hreached, hreceive⟩ | ⟨hmissed, -⟩
  swap
  · exact hinv.missed hclock hmissed
  have hcast := hfits row skill hrow hskill hreached
  have haccepted := accepted_of_receive hinv.stealth hscroll hreceive
  have hnew : (w.session.executeType4 t c).Runs (BuffSession.castRun c row) :=
    (haccepted.runs _).mpr (Or.inl rfl)
  refine ⟨haccepted.stealth, haccepted.shape.trans hinv.shape, fun r hr => ?_, fun r hr => ?_,
    fun r hr => ?_, fun r hr => ?_, fun e he => ?_, cast_source hinv hrow hms haccepted.new⟩
  · rcases (haccepted.runs r).mp hr with rfl | ⟨hr, -⟩
    · exact ⟨hscroll, row, hrow, rfl⟩
    · exact hinv.known r hr
  · rcases (haccepted.runs r).mp hr with rfl | ⟨hr, -⟩
    · exact Nat.le_refl _
    · exact Nat.le_trans (hinv.started r hr) hclock
  · rcases (haccepted.runs r).mp hr with rfl | ⟨hr, -⟩
    · exact hcast.lasts
    · exact hinv.lasts r hr
  · rcases (haccepted.runs r).mp hr with rfl | ⟨hr, -⟩
    · refine hcast.entry.imp_right ?_
      rintro ⟨hshort, hkeeps, hfree, hroom⟩
      have hentry := haccepted.entry hkeeps hfree hroom
      rw [Nat.mod_eq_of_lt hshort, hms] at hentry
      exact ⟨_, hentry, rfl, Nat.le_refl _, Nat.le_add_right _ _⟩
    · refine (hinv.kept r hr).imp_right ?_
      rintro ⟨e, he, hends⟩
      exact ⟨e, haccepted.old e he, hends⟩
  · rcases haccepted.new e he with hold | ⟨rfl, -⟩
    · rcases hinv.running e hold with hshort | ⟨r, hr, hskill⟩
      · left
        show e.2 < c.now + 1000
        omega
      · by_cases htype : r.buffType = row.buffType.getD 0
        · -- the buff of this entry gives way to the new one
          by_cases hsame : r.skillId = c.skillId
          · exact Or.inr ⟨_, hnew, hsame.symm.trans hskill⟩
          · obtain ⟨b, hb, rfl⟩ := hr
            have hshort := hcast.slot b hb htype hsame e hold hskill.symm
            left
            show e.2 < c.now + 1000
            omega
        · exact Or.inr ⟨r, (haccepted.runs r).mpr (Or.inr ⟨hr, htype⟩), hskill⟩
    · exact Or.inr ⟨_, hnew, rfl⟩

def ActiveSkills (w : ScrollWorld) (s : ℕ) : Prop := ∃ r, w.session.Runs r ∧ r.skillId = s

theorem ScrollInvariant.ownTypes (hinv : ScrollInvariant t w) :
    BuffSession.OwnTypes t w.ActiveSkills := by
  constructor
  · rintro _ ⟨r, hr, rfl⟩
    obtain ⟨-, row, hrow, -⟩ := hinv.known r hr
    exact ⟨row, hrow⟩
  · rintro _ _ row row' ⟨r, hr, rfl⟩ ⟨r', hr', rfl⟩ hrow hrow' hsame
    obtain ⟨-, row'', hrow'', htype⟩ := hinv.known r' hr'
    obtain rfl := Option.some.inj (hrow'.symm.trans hrow'')
    rw [hinv.run_eq hr hr' hrow (hsame.trans htype)]

/-- What is loaded was saved from an entry with at least as long to go, and more than five seconds. -/
theorem mem_loaded {order : Shuffle (ℕ × ℕ)} {saved loaded : ℕ} {e : ℕ × ℕ} {h : BuffSession}
    (he : e ∈ (h.loadSavedMagic
      (loadRows (saveSavedMagic (w.session.getSavedMagicEntries order saved))) loaded).savedMagic) :
    ∃ expiry d, (e.1, expiry) ∈ w.session.savedMagic ∧ saved + d * 1000 ≤ expiry ∧
      e.2 = loaded + d * 1000 ∧ d < 28800 ∧ 5 < d := by
  obtain ⟨d, hd, hexpiry, hshort, hlong⟩ := BuffSession.mem_loadSavedMagic he
  have hsaved := List.mem_of_mem_take (List.mem_filter.mp (List.mem_filter.mp hd).1).1
  obtain ⟨expiry, hmem, hleft⟩ := BuffSession.mem_getSavedMagicEntries hsaved
  exact ⟨expiry, d, hmem, hleft, hexpiry, hshort, hlong⟩

structure Entered (w : ScrollWorld) (t : MagicTables) (saved loaded : ℕ) (k : BuffTick)
    (h : BuffSession) : Prop where
  stealth : h.effects.invisibilityType = 0
  shape : h.transformationType = 0
  saved : ∀ e ∈ h.savedMagic, ∃ expiry d, (e.1, expiry) ∈ w.session.savedMagic ∧
    saved + d * 1000 ≤ expiry ∧ e.2 = loaded + d * 1000 ∧ d < 28800 ∧ 5 < d
  known : BuffSession.RunsOf t w.ActiveSkills h
  runs : ∀ r, h.Runs r → r.startTime = k.now ∧ ∃ e ∈ h.savedMagic, e.1 = r.skillId ∧
    0 < r.durationSecs ∧ r.durationSecs = min ((e.2 - k.now) / 1000) 65535
  active : ∀ e ∈ h.savedMagic, e.2 < k.now + 1000 ∨ ∃ r, h.Runs r ∧ r.skillId = e.1

theorem ScrollInvariant.activeSkills_of_long (hinv : ScrollInvariant t w) {skillId expiry : ℕ}
    (hmem : (skillId, expiry) ∈ w.session.savedMagic) (hlong : w.clock + 1000 ≤ expiry) :
    w.ActiveSkills skillId := (hinv.running _ hmem).resolve_left (Nat.not_lt.mpr hlong)

theorem enterGame_entered (hinv : ScrollInvariant t w) {order : Shuffle (ℕ × ℕ)}
    {saved loaded : ℕ} (horder : InOrder w (.relog order saved loaded k)) :
    Entered w t saved loaded k
      (enterGame t (saveSavedMagic (w.session.getSavedMagicEntries order saved)) loaded k) := by
  obtain ⟨hclock, hsaved, hloaded, hms⟩ := horder
  unfold enterGame
  split
  · refine ⟨rfl, rfl, nofun, ?_, ?_, nofun⟩
    · rintro r ⟨b, hb, -⟩
      cases hb
    · rintro r ⟨b, hb, -⟩
      cases hb
  · generalize hbase : (enteredSession.loadSavedMagic (loadRows (saveSavedMagic
      (w.session.getSavedMagicEntries order saved))) loaded).clearAllBuffs = base
    have hmem : ∀ e ∈ base.savedMagic, ∃ expiry d, (e.1, expiry) ∈ w.session.savedMagic ∧
        saved + d * 1000 ≤ expiry ∧ e.2 = loaded + d * 1000 ∧ d < 28800 ∧ 5 < d := by
      intro e he
      rw [← hbase] at he
      exact @mem_loaded w order saved loaded e enteredSession he
    have hskills : ∀ e ∈ base.savedMagic, w.ActiveSkills e.1 := by
      intro e he
      obtain ⟨expiry, d, hold, hleft, -, -, hlong⟩ := hmem e he
      exact hinv.activeSkills_of_long hold (by omega)
    have hempty : ∀ r, ¬ base.Runs r := by
      rintro r ⟨b, hb, -⟩
      rw [← hbase] at hb
      cases hb
    have hshape : base.transformationType = 0 := by rw [← hbase]; rfl
    have hstealth : base.effects.invisibilityType = 0 := by rw [← hbase]; rfl
    have hplain : base.isTransformed = false := by
      unfold BuffSession.isTransformed
      rw [hshape]
      rfl
    have hrecast : ∀ e ∈ base.getSavedMagicForRecast k, w.ActiveSkills e.1 := by
      intro e he
      obtain ⟨expiry, hold, -⟩ := BuffSession.mem_getSavedMagicForRecast.mp he
      exact hskills (e.1, expiry) hold
    obtain ⟨hkeeps, hback, hof, hactive⟩ := @BuffSession.recastEntries_runs t base k w.ActiveSkills
      hinv.ownTypes (base.getSavedMagicForRecast k) hrecast (fun r hr => absurd hr (hempty r))
    unfold BuffSession.recastSavedMagic
    rw [hplain, if_neg (by decide)]
    refine ⟨hkeeps.stealth.trans hstealth, hkeeps.shape.trans hshape, fun e he => ?_, hof,
      fun r hr => ?_, fun e he => ?_⟩
    · rw [hkeeps.saved] at he
      exact hmem e he
    · obtain ⟨e, he, hskill, hstart, hduration⟩ := (hback r hr).resolve_left (hempty r)
      obtain ⟨expiry, hold, -, hleft, hpos⟩ := BuffSession.mem_getSavedMagicForRecast.mp he
      refine ⟨hstart, (e.1, expiry), ?_, hskill.symm, ?_, ?_⟩
      · rw [hkeeps.saved]
        exact hold
      · rw [hduration]
        exact hpos
      · rw [hduration, hleft, hms]
    · rw [hkeeps.saved] at he
      by_cases hshort : e.2 < k.now + 1000
      · exact Or.inl hshort
      · right
        obtain ⟨r, hr, hskill⟩ := hskills e he
        have hscroll := (hinv.known r hr).1
        rw [hskill] at hscroll
        apply hactive
        left
        refine ⟨(e.1, min ((e.2 - k.nowMs) / 1000) 65535), ?_, rfl⟩
        apply BuffSession.mem_getSavedMagicForRecast.mpr
        exact ⟨e.2, he, Nat.ne_of_gt (Nat.zero_lt_of_lt hscroll), rfl, by dsimp only; omega⟩

theorem ScrollInvariant.relog (hinv : ScrollInvariant t w) {order : Shuffle (ℕ × ℕ)}
    {saved loaded : ℕ} (horder : InOrder w (.relog order saved loaded k)) :
    ScrollInvariant t (w.step t (.relog order saved loaded k)) := by
  have hentered := enterGame_entered hinv horder
  obtain ⟨hclock, hsaved, hloaded, hms⟩ := horder
  refine ⟨hentered.stealth, hentered.shape, fun r hr => ?_, fun r hr => ?_, fun r hr => ?_,
    fun r hr => ?_, hentered.active, fun e he => ?_⟩
  · obtain ⟨⟨r', hr', hskill⟩, hrow⟩ := hentered.known r hr
    rw [← hskill]
    refine ⟨(hinv.known r' hr').1, ?_⟩
    rw [hskill]
    exact hrow
  · exact Nat.le_of_eq (hentered.runs r hr).1
  · obtain ⟨-, e, he, hskill, hpos, -⟩ := hentered.runs r hr
    exact Nat.ne_of_gt hpos
  · right
    obtain ⟨hstart, e, he, hskill, hpos, hduration⟩ := hentered.runs r hr
    obtain ⟨expiry, d, -, -, hexpiry, hshort, -⟩ := hentered.saved e he
    refine ⟨e, he, hskill, ?_, ?_⟩
    · unfold BuffRun.endTime
      omega
    · show e.2 ≤ r.endTime + 1000 * (w.cycles + 1)
      unfold BuffRun.endTime
      omega
  · obtain ⟨expiry, d, hold, hleft, hexpiry, -⟩ := hentered.saved e he
    have hsource := hinv.source _ hold
    show e.2 ≤ loaded + (w.savedFrom e.1 - saved)
    dsimp only at hsource
    omega

theorem ScrollInvariant.step (hinv : ScrollInvariant t w) {e : ScrollEvent}
    (horder : InOrder w e) (hfits : ScrollFits t w e) : ScrollInvariant t (w.step t e) := by
  cases e with
  | cast c => exact hinv.cast horder hfits
  | tick k => exact hinv.tick horder
  | relog order saved loaded k => exact hinv.relog horder

structure Unscrolled (w : ScrollWorld) : Prop where
  stealth : w.session.effects.invisibilityType = 0
  shape : w.session.transformationType = 0
  buffs : w.session.buffs.entries = []
  saved : w.session.savedMagic = []

theorem Unscrolled.invariant (hw : Unscrolled w) : ScrollInvariant t w := by
  have hnone : ∀ r, ¬ w.session.Runs r := by
    rintro r ⟨b, hb, -⟩
    rw [hw.buffs] at hb
    cases hb
  have hempty : ∀ e, e ∉ w.session.savedMagic := by
    intro e he
    rw [hw.saved] at he
    cases he
  exact ⟨hw.stealth, hw.shape, fun r hr => absurd hr (hnone r), fun r hr => absurd hr (hnone r),
    fun r hr => absurd hr (hnone r), fun r hr => absurd hr (hnone r),
    fun e he => absurd he (hempty e), fun e he => absurd he (hempty e)⟩

/-- In a run whose casts fit, the scrolls and their entries agree at every time after each event. -/
theorem saved_scrolls_agree (t : MagicTables) {w : ScrollWorld} (hw : Unscrolled w)
    {events : List ScrollEvent} (horder : Run.Along (step t) InOrder w events)
    (hfits : Run.Along (step t) (ScrollFits t) w events) :
    Run.Along (step t) (fun w e => ∀ now, (w.step t e).clock ≤ now → ScrollsKept (w.step t e) now)
      w events := by
  refine Run.along_of_invariant (ScrollInvariant t) ?_ (Run.along_and.mpr ⟨horder, hfits⟩)
    hw.invariant
  rintro w e hinv ⟨hin, hfit⟩
  have hnext := hinv.step hin hfit
  exact ⟨hnext, fun now hnow => hnext.scrollsKept hnow⟩

open BuffSession (scrollTables expScroll)

def newcomer : ScrollWorld := ⟨enteredSession, [], 0, 0, fun _ => 0⟩

def readScroll (now : ℕ) : ScrollEvent :=
  .cast { skillId := 500100, caster := 1, reach := .self, now := now, nowUnix := now / 1000
          nowMs := now, roll := 0 }

def tickTime (now : ℕ) : BuffTick where
  sid := 1
  now := now
  nowUnix := now / 1000
  nowMs := now
  order := Shuffle.id
  savedOrder := Shuffle.id
  roll := 0

theorem newcomer_unscrolled : Unscrolled newcomer := ⟨rfl, rfl, rfl, rfl⟩

/-- The scroll is read, and its character leaves for an hour. -/
theorem saved_scroll_agrees :
    Run.Along (step scrollTables)
      (fun w e => ∀ now, (w.step scrollTables e).clock ≤ now →
        ScrollsKept (w.step scrollTables e) now)
      newcomer [readScroll 0, .tick (tickTime 1000), .relog .id 2500 3602500 (tickTime 3602500)] := by
  refine saved_scrolls_agree scrollTables newcomer_unscrolled ?_ ?_
  · exact ⟨⟨by decide, Nat.le_refl _, rfl⟩, ⟨by decide, rfl⟩,
      ⟨by decide, by decide, Nat.le_refl _, rfl⟩, trivial⟩
  · refine ⟨?_, trivial, trivial, trivial⟩
    intro row skill hrow _ _
    obtain rfl : expScroll = row := Option.some.inj hrow
    exact ⟨by decide, Or.inr ⟨by decide, rfl, nofun, by decide⟩, nofun⟩

/-- The scroll is read again when half of it is left: its buff starts anew, and its entry does not. -/
theorem scroll_read_again :
    Unscrolled newcomer ∧
      Run.Along (step scrollTables) InOrder newcomer [readScroll 0, readScroll 30000] ∧
      ¬ Run.Along (step scrollTables)
        (fun w e => ∀ now, (w.step scrollTables e).clock ≤ now →
          ScrollsKept (w.step scrollTables e) now)
        newcomer [readScroll 0, readScroll 30000] := by
  refine ⟨newcomer_unscrolled, ⟨⟨by decide, Nat.le_refl _, rfl⟩, ⟨by decide, by decide, rfl⟩, trivial⟩,
    ?_⟩
  rintro ⟨-, hkept, -⟩
  have hlong : (((newcomer.step scrollTables (readScroll 0)).step scrollTables
      (readScroll 30000)).session.buffs.entries.any fun b =>
        500000 < b.skillId && 35000 < b.run.endTime &&
          ((newcomer.step scrollTables (readScroll 0)).step scrollTables
            (readScroll 30000)).session.savedMagic.all fun e => e.2 < b.run.endTime) = true := by
    decide +kernel
  obtain ⟨b, hb, hlong⟩ := List.any_eq_true.mp hlong
  simp only [Bool.and_eq_true, decide_eq_true_eq, List.all_eq_true] at hlong
  obtain ⟨⟨hscroll, hends⟩, hentries⟩ := hlong
  obtain ⟨-, e, he, -, -, hlast⟩ := (hkept 30000 (Nat.le_refl _)).saved b hb hscroll (Or.inr hends)
  exact absurd (hentries e he) (Nat.not_lt.mpr hlast)

end ScrollWorld

end KoServer
