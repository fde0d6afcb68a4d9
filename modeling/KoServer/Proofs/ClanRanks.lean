import KoServer.Lib.Roster
import KoServer.Proofs.ClanMembers

/-! The ranks of a clan: the rank of a user's row against the chief and the three vice chiefs that
the clan names. Appointments write both sides, leaving and some appointments only one. -/

namespace KoServer

def KnightsInfo.viceChiefs (k : KnightsInfo) : List (List Char) :=
  [k.viceChief1, k.viceChief2, k.viceChief3].filter (· ≠ [])

/-- The ranks of the members of clan `id` are those that the clan names. -/
structure RanksOf (users : List UserRow) (id : ℕ) (k : KnightsInfo) : Prop where
  chief_mem : ∃ u ∈ users, u.knights = id ∧ u.name = k.chief
  chief : ∀ u ∈ users, u.knights = id → (u.fame = CHIEF ↔ u.name = k.chief)
  vice : ∀ u ∈ users, u.knights = id → (u.fame = VICECHIEF ↔ u.name ∈ k.viceChiefs)
  nodup : k.viceChiefs.Nodup
  vice_mem : ∀ n ∈ k.viceChiefs, ∃ u ∈ users, u.knights = id ∧ u.name = n

/-- One chief, whom the clan names; vice chiefs are the members in the slots; no name is in two
slots, and every name there is a member's. -/
structure RanksConsistent (s : ClanWorld) (id : ℕ) (k : KnightsInfo) : Prop where
  chief : ∃! u, u ∈ s.users ∧ u.knights = id ∧ u.fame = CHIEF
  chief_name : ∀ u ∈ s.users, u.knights = id → u.fame = CHIEF → u.name = k.chief
  vice : ∀ u ∈ s.users, u.knights = id → (u.fame = VICECHIEF ↔ u.name ∈ k.viceChiefs)
  nodup : k.viceChiefs.Nodup
  vice_mem : ∀ n ∈ k.viceChiefs, ∃ u ∈ s.users, u.knights = id ∧ u.name = n

def Ranked (s : ClanWorld) : Prop := ∀ id k, s.knights id = some k → RanksOf s.users id k

structure RankBooks (s : ClanWorld) : Prop where
  registered : Registered s
  tabled : Tabled s
  noneAstray : NoneAstray s
  ranked : Ranked s

variable {s s' : ClanWorld} {users users' : List UserRow} {id : ℕ} {k k' : KnightsInfo}

theorem RankBooks.consistent (h : RankBooks s) (hk : s.knights id = some k) :
    RanksConsistent s id k := by
  have hr := h.ranked id k hk
  refine ⟨?_, fun u hu hclan => (hr.chief u hu hclan).mp, hr.vice, hr.nodup, hr.vice_mem⟩
  obtain ⟨u, hu, hclan, hname⟩ := hr.chief_mem
  refine ⟨u, ⟨hu, hclan, (hr.chief u hu hclan).mpr hname⟩, ?_⟩
  rintro v ⟨hv, hclan', hchief⟩
  exact Rows.eq_of_key h.registered.nodup hv hu (((hr.chief v hv hclan').mp hchief).trans hname.symm)

/-- Ranks are about the members and the names of the clan. -/
theorem RanksOf.congr (h : RanksOf users id k)
    (hmem : ∀ u, u.knights = id → (u ∈ users' ↔ u ∈ users)) (hchief : k'.chief = k.chief)
    (hvice : k'.viceChiefs = k.viceChiefs) : RanksOf users' id k' := by
  refine ⟨?_, fun u hu hclan => ?_, fun u hu hclan => ?_, ?_, fun n hn => ?_⟩
  · obtain ⟨u, hu, hclan, hname⟩ := h.chief_mem
    exact ⟨u, (hmem u hclan).mpr hu, hclan, hname.trans hchief.symm⟩
  · rw [hchief]
    exact h.chief u ((hmem u hclan).mp hu) hclan
  · rw [hvice]
    exact h.vice u ((hmem u hclan).mp hu) hclan
  · rw [hvice]
    exact h.nodup
  · rw [hvice] at hn
    obtain ⟨u, hu, hclan, hname⟩ := h.vice_mem n hn
    exact ⟨u, (hmem u hclan).mpr hu, hclan, hname⟩

def Assigned (users users' : List UserRow) (u u' : UserRow) : Prop :=
  ∀ r, r ∈ users' ↔ r ∈ users ∧ r.name ≠ u.name ∨ r = u'

section

variable {u u' : UserRow} (hnodup : (users.map UserRow.name).Nodup) (hu : u ∈ users)
  (ha : Assigned users users' u u')
include hnodup hu ha

/-- A clan that the user neither leaves nor enters. -/
theorem RanksOf.outside (h : RanksOf users id k) (hold : u.knights ≠ id) (hnew : u'.knights ≠ id) :
    RanksOf users' id k := by
  refine h.congr (fun r hclan => ?_) rfl rfl
  rw [ha, or_iff_left fun heq : r = u' => hnew ((congrArg UserRow.knights heq).symm.trans hclan)]
  refine and_iff_left_of_imp fun hr hname => hold ?_
  rw [← Rows.eq_of_key hnodup hr hu hname]
  exact hclan

omit hnodup in
/-- Somebody without office leaves. -/
theorem RanksOf.leave (h : RanksOf users id k) (hold : u.knights = id) (hnew : u'.knights ≠ id)
    (hchief : u.fame ≠ CHIEF) (hvice : u.fame ≠ VICECHIEF) : RanksOf users' id k := by
  have hkeep : ∀ r ∈ users, r.name ≠ u.name → r ∈ users' := fun r hr hname =>
    (ha r).mpr (Or.inl ⟨hr, hname⟩)
  have hback : ∀ r ∈ users', r.knights = id → r ∈ users := by
    intro r hr hclan
    rcases (ha r).mp hr with ⟨hr, -⟩ | rfl
    · exact hr
    · exact absurd hclan hnew
  refine ⟨?_, fun r hr hclan => h.chief r (hback r hr hclan) hclan,
    fun r hr hclan => h.vice r (hback r hr hclan) hclan, h.nodup, fun n hn => ?_⟩
  · obtain ⟨r, hr, hclan, hname⟩ := h.chief_mem
    refine ⟨r, hkeep r hr fun hsame => hchief ?_, hclan, hname⟩
    exact (h.chief u hu hold).mpr (hsame.symm.trans hname)
  · obtain ⟨r, hr, hclan, hname⟩ := h.vice_mem n hn
    refine ⟨r, hkeep r hr fun hsame => hvice ?_, hclan, hname⟩
    exact (h.vice u hu hold).mpr (hsame ▸ hname.symm ▸ hn)

/-- Somebody enters, or is given another rank, and no office is involved. -/
theorem RanksOf.plain (h : RanksOf users id k) (hname : u'.name = u.name) (hnew : u'.knights = id)
    (hfree : u.knights = id → u.fame ≠ CHIEF ∧ u.fame ≠ VICECHIEF) (hchief : u'.fame ≠ CHIEF)
    (hvice : u'.fame ≠ VICECHIEF) : RanksOf users' id k := by
  have hother : ∀ n, (∃ r ∈ users, r.knights = id ∧ r.name = n) → n = u.name → u.knights = id := by
    rintro n ⟨r, hr, hclan, rfl⟩ hsame
    rw [← Rows.eq_of_key hnodup hr hu hsame]
    exact hclan
  have hnoChief : u.name ≠ k.chief := fun hsame => by
    have hclan := hother _ h.chief_mem hsame.symm
    exact (hfree hclan).1 ((h.chief u hu hclan).mpr hsame)
  have hnoVice : u.name ∉ k.viceChiefs := fun hn => by
    have hclan := hother _ (h.vice_mem _ hn) rfl
    exact (hfree hclan).2 ((h.vice u hu hclan).mpr hn)
  have hkeep : ∀ n, n ≠ u.name → (∃ r ∈ users, r.knights = id ∧ r.name = n) →
      ∃ r ∈ users', r.knights = id ∧ r.name = n := by
    rintro n hne ⟨r, hr, hclan, rfl⟩
    exact ⟨r, (ha r).mpr (Or.inl ⟨hr, hne⟩), hclan, rfl⟩
  refine ⟨hkeep _ (Ne.symm hnoChief) h.chief_mem, fun r hr hclan => ?_, fun r hr hclan => ?_, h.nodup,
    fun n hn => hkeep n (fun hsame => hnoVice (hsame ▸ hn)) (h.vice_mem n hn)⟩
  · rcases (ha r).mp hr with ⟨hr, -⟩ | rfl
    · exact h.chief r hr hclan
    · exact iff_of_false hchief fun hsame => hnoChief (hname.symm.trans hsame)
  · rcases (ha r).mp hr with ⟨hr, -⟩ | rfl
    · exact h.vice r hr hclan
    · exact iff_of_false hvice fun hn => hnoVice (hname ▸ hn)

omit hnodup in
/-- A member without office gets a slot. -/
theorem RanksOf.appoint (h : RanksOf users id k) (hname : u'.name = u.name) (hold : u.knights = id)
    (hnew : u'.knights = id) (hchief : u.fame ≠ CHIEF) (hvice : u.fame ≠ VICECHIEF)
    (hoffice : u'.fame = VICECHIEF) (hchief' : k'.chief = k.chief)
    (hslots : k'.viceChiefs.Perm (u.name :: k.viceChiefs)) : RanksOf users' id k' := by
  have hnoChief : u.name ≠ k.chief := fun hsame => hchief ((h.chief u hu hold).mpr hsame)
  have hnoVice : u.name ∉ k.viceChiefs := fun hn => hvice ((h.vice u hu hold).mpr hn)
  refine ⟨?_, fun r hr hclan => ?_, fun r hr hclan => ?_, ?_, fun n hn => ?_⟩
  · obtain ⟨r, hr, hclan, hsame⟩ := h.chief_mem
    refine ⟨r, (ha r).mpr (Or.inl ⟨hr, fun heq => hnoChief (heq.symm.trans hsame)⟩), hclan, ?_⟩
    exact hsame.trans hchief'.symm
  · rw [hchief']
    rcases (ha r).mp hr with ⟨hr, -⟩ | rfl
    · exact h.chief r hr hclan
    · rw [hoffice, hname]
      exact iff_of_false (by decide) hnoChief
  · rw [hslots.mem_iff, List.mem_cons]
    rcases (ha r).mp hr with ⟨hr, hne⟩ | rfl
    · rw [or_iff_right hne]
      exact h.vice r hr hclan
    · exact iff_of_true hoffice (Or.inl hname)
  · exact hslots.nodup_iff.mpr (List.nodup_cons.mpr ⟨hnoVice, h.nodup⟩)
  · rw [hslots.mem_iff, List.mem_cons] at hn
    by_cases heq : n = u.name
    · exact ⟨u', (ha u').mpr (Or.inr rfl), hnew, hname.trans heq.symm⟩
    · obtain ⟨r, hr, hclan, rfl⟩ := h.vice_mem n (hn.resolve_left heq)
      exact ⟨r, (ha r).mpr (Or.inl ⟨hr, heq⟩), hclan, rfl⟩

end

/-- The chief hands over to a member, who gives up a slot if it has one. -/
theorem RanksOf.transfer {u t : UserRow} (h : RanksOf users id k) (hu : u ∈ users) (hclan : u.knights = id)
    (hchief : u.fame = CHIEF)
    (ha : ∀ r, r ∈ users' ↔ r ∈ users ∧ r.name ≠ u.name ∧ r.name ≠ t.name ∨
      r = ⟨u.name, id, TRAINEE⟩ ∧ u.name ≠ t.name ∨ r = ⟨t.name, id, CHIEF⟩)
    (hchief' : k'.chief = t.name) (hnodup' : k'.viceChiefs.Nodup)
    (hslots : ∀ n, n ∈ k'.viceChiefs ↔ n ∈ k.viceChiefs ∧ n ≠ t.name) : RanksOf users' id k' := by
  have hname : u.name = k.chief := (h.chief u hu hclan).mp hchief
  have hnoVice : u.name ∉ k.viceChiefs := fun hn => by
    have := (h.vice u hu hclan).mpr hn
    rw [hchief] at this
    exact absurd this (by decide)
  refine ⟨⟨_, (ha _).mpr (Or.inr (Or.inr rfl)), rfl, hchief'.symm⟩, fun r hr hmember => ?_,
    fun r hr hmember => ?_, hnodup', fun n hn => ?_⟩
  · rw [hchief']
    rcases (ha r).mp hr with ⟨hr, hne, hne'⟩ | ⟨rfl, hne⟩ | rfl
    · refine iff_of_false (fun hoffice => hne ?_) hne'
      exact ((h.chief r hr hmember).mp hoffice).trans hname.symm
    · exact iff_of_false (by decide : TRAINEE ≠ CHIEF) hne
    · exact iff_of_true rfl rfl
  · rw [hslots]
    rcases (ha r).mp hr with ⟨hr, hne, hne'⟩ | ⟨rfl, hne⟩ | rfl
    · rw [and_iff_left hne']
      exact h.vice r hr hmember
    · exact iff_of_false (by decide : TRAINEE ≠ VICECHIEF) fun hn => hnoVice hn.1
    · exact iff_of_false (by decide : CHIEF ≠ VICECHIEF) fun hn => hn.2 rfl
  · obtain ⟨hn, hne⟩ := (hslots n).mp hn
    obtain ⟨r, hr, hmember, rfl⟩ := h.vice_mem n hn
    refine ⟨r, (ha r).mpr (Or.inl ⟨hr, fun hsame => hnoVice ?_, hne⟩), hmember, rfl⟩
    exact hsame ▸ hn

theorem viceChiefs_addViceChief {n : List Char} (hn : n ≠ [])
    (hfree : k.viceChief1 = [] ∨ k.viceChief2 = [] ∨ k.viceChief3 = []) :
    (k.addViceChief n).viceChiefs.Perm (n :: k.viceChiefs) := by
  cases k
  unfold KnightsInfo.addViceChief KnightsInfo.viceChiefs
  dsimp only at hfree ⊢
  split_ifs with h1 h2 h3
  · subst h1
    exact Roster.taken_perm hn [] _
  · subst h2
    exact Roster.taken_perm hn [_] _
  · subst h3
    exact Roster.taken_perm hn [_, _] _
  · exact absurd hfree (by tauto)

/-- A slot is given back, when no other name there has the same capitals. -/
theorem viceChiefs_clearViceChief {names : CaseMaps} {n : List Char} (hn : n ∈ k.viceChiefs)
    (hcapitals : ∀ m ∈ [k.viceChief1, k.viceChief2, k.viceChief3],
      names.toUppercase m = names.toUppercase n → m = n) :
    k.viceChiefs.Perm (n :: (k.clearViceChief names n).viceChiefs) := by
  obtain ⟨hslot, hne⟩ := List.mem_filter.mp hn
  replace hne : n ≠ [] := of_decide_eq_true hne
  cases k
  unfold KnightsInfo.clearViceChief KnightsInfo.viceChiefs
  dsimp only at hslot hcapitals ⊢
  split_ifs with h1 h2 h3
  · obtain rfl := hcapitals _ (by simp) h1
    exact Roster.taken_perm hne [] _
  · obtain rfl := hcapitals _ (by simp) h2
    exact Roster.taken_perm hne [_] _
  · obtain rfl := hcapitals _ (by simp) h3
    exact Roster.taken_perm hne [_, _] _
  · simp only [List.mem_cons, List.not_mem_nil, or_false] at hslot
    rcases hslot with rfl | rfl | rfl
    · exact absurd rfl h1
    · exact absurd rfl h2
    · exact absurd rfl h3

theorem chief_addViceChief (n : List Char) : (k.addViceChief n).chief = k.chief := by
  unfold KnightsInfo.addViceChief
  split_ifs <;> rfl

variable {names : CaseMaps} {sid targetSid : ℕ} {c tc : Clansman} {targetName : List Char}

/-- A rank is written to the row and to the session of a member. -/
theorem Registered.follows_rank (h : Registered s) (hc : s.sessions sid = some c) (fame : ℕ) :
    Follows s ((s.updateUserKnights c.name c.knightsId fame).updateCharacterStats sid
      fun c => { c with fame := fame }) (assign c.name c.knightsId fame) :=
  ⟨name_assign _ _ _, rfl, h.online_update hc (assign_of_eq rfl) fun _ => assign_of_ne⟩

/-- The ranks of two members of a clan are written, the second after the first. -/
theorem Registered.follows_ranks (h : Registered s) (hc : s.sessions sid = some c)
    (htc : s.sessions targetSid = some tc) (hclan : tc.knightsId = c.knightsId) {fame fame' : ℕ}
    (husers : s'.users = s.users.map (assign tc.name c.knightsId fame' ∘ assign c.name c.knightsId fame))
    (hsessions : s'.sessions = ((s.updateCharacterStats sid fun c =>
      { c with fame := fame }).updateCharacterStats targetSid fun c => { c with fame := fame' }).sessions) :
    Follows s s' (assign tc.name c.knightsId fame' ∘ assign c.name c.knightsId fame) := by
  set s₁ := (s.updateUserKnights c.name c.knightsId fame).updateCharacterStats sid
    fun c => { c with fame := fame } with hs₁
  have hf₁ : Follows s s₁ (assign c.name c.knightsId fame) := h.follows_rank hc fame
  obtain ⟨tc₁, htc₁, hname, hclan₁⟩ : ∃ tc₁, s₁.sessions targetSid = some tc₁ ∧ tc₁.name = tc.name ∧
      tc₁.knightsId = c.knightsId := by
    rw [hs₁]
    unfold ClanWorld.updateCharacterStats
    dsimp only
    by_cases hsid : targetSid = sid
    · subst hsid
      obtain rfl : c = tc := Option.some.inj (hc.symm.trans htc)
      exact ⟨{ c with fame := fame }, by rw [Function.update_self]; exact congrArg _ hc, rfl, rfl⟩
    · exact ⟨tc, by rw [Function.update_of_ne hsid]; exact htc, rfl, hclan⟩
  have hf₂ := (h.follows hf₁).follows_rank htc₁ fame'
  rw [hname, hclan₁] at hf₂
  refine ⟨fun r => (name_assign _ _ _ _).trans (name_assign _ _ _ r), husers, fun sid' => ?_⟩
  rw [← Option.map_map, ← hf₁.online, ← hf₂.online]
  unfold ClanWorld.online
  rw [hsessions]
  rfl

theorem handleChief_cases (h : Registered s) (env : KnightsEnv) (sid : ℕ) (targetName : List Char) :
    s.handleChief names env sid targetName = s ∨
    ∃ c targetSid tc, s.sessions sid = some c ∧ c.fame = CHIEF ∧ c.knightsId ≠ 0 ∧
      env.clanUpdates = true ∧ s.findSessionByName names targetName = some targetSid ∧
      s.sessions targetSid = some tc ∧ tc.knightsId = c.knightsId ∧
      (s.handleChief names env sid targetName).rows = s.rows ∧
      (s.handleChief names env sid targetName).knights = Function.update s.knights c.knightsId
        ((s.knights c.knightsId).map fun k => { k with chief := tc.name }) ∧
      Follows s (s.handleChief names env sid targetName)
        (assign tc.name c.knightsId CHIEF ∘ assign c.name c.knightsId TRAINEE) := by
  unfold ClanWorld.handleChief
  cases hc : s.sessions sid with
  | none => exact Or.inl rfl
  | some c =>
    dsimp only
    by_cases hchief : c.fame ≠ CHIEF
    · exact Or.inl (if_pos hchief)
    rw [if_neg hchief]
    by_cases hclan : c.knightsId = 0
    · exact Or.inl (if_pos hclan)
    rw [if_neg hclan]
    by_cases hzone : ¬ env.clanUpdates
    · exact Or.inl (if_pos hzone)
    rw [if_neg hzone]
    cases hfound : s.findSessionByName names targetName with
    | none => exact Or.inl rfl
    | some targetSid =>
      dsimp only
      cases htc : s.sessions targetSid with
      | none => exact Or.inl rfl
      | some tc =>
        dsimp only
        by_cases hother : tc.knightsId ≠ c.knightsId
        · exact Or.inl (if_pos hother)
        rw [if_neg hother]
        refine Or.inr ⟨c, targetSid, tc, rfl, not_not.mp hchief, hclan, not_not.mp hzone, rfl, htc,
          not_not.mp hother, rfl, rfl, h.follows_ranks hc htc (not_not.mp hother) ?_ rfl⟩
        exact List.map_map

structure Appoints (names : CaseMaps) (s : ClanWorld) (c : Clansman) (targetSid : ℕ)
    (targetName : List Char) : Prop where
  chief : c.fame = CHIEF
  clan : c.knightsId ≠ 0
  found : s.findSessionByName names targetName = some targetSid
  allowed : s.targetRefused names c targetName = false

theorem Appoints.clan_eq (h : Appoints names s c targetSid targetName)
    (htc : s.sessions targetSid = some tc) : tc.knightsId = c.knightsId := by
  have hallowed := h.allowed
  unfold ClanWorld.targetRefused at hallowed
  rw [h.found, Option.bind_some, htc] at hallowed
  simp only [Bool.or_eq_false_iff, decide_eq_false_iff_not, not_not] at hallowed
  exact hallowed.2.symm

theorem handleVicechief_cases (sid : ℕ) (targetName : List Char) :
    s.handleVicechief names sid targetName = s ∨
    ∃ c targetSid, s.sessions sid = some c ∧ targetName ≠ [] ∧ Appoints names s c targetSid targetName ∧
      s.handleVicechief names sid targetName =
        ((s.updateUserKnights targetName c.knightsId VICECHIEF).updateCharacterStats targetSid
          fun c => { c with fame := VICECHIEF }).updateKnights c.knightsId
            fun k => k.addViceChief targetName := by
  unfold ClanWorld.handleVicechief
  cases hc : s.sessions sid with
  | none => exact Or.inl rfl
  | some c =>
    dsimp only
    by_cases hname : targetName = []
    · exact Or.inl (if_pos hname)
    rw [if_neg hname]
    by_cases hchief : c.fame ≠ CHIEF
    · exact Or.inl (if_pos hchief)
    rw [if_neg hchief]
    by_cases hclan : c.knightsId = 0
    · exact Or.inl (if_pos hclan)
    rw [if_neg hclan]
    cases hfound : s.findSessionByName names targetName with
    | none => exact Or.inl rfl
    | some targetSid =>
      dsimp only
      by_cases hrefused : s.targetRefused names c targetName
      · exact Or.inl (if_pos hrefused)
      rw [if_neg hrefused]
      exact Or.inr ⟨c, targetSid, rfl, hname,
        ⟨not_not.mp hchief, hclan, hfound, Bool.not_eq_true _ ▸ hrefused⟩, rfl⟩

theorem handleOfficer_cases (sid : ℕ) (targetName : List Char) :
    s.handleOfficer names sid targetName = s ∨
    ∃ c targetSid, s.sessions sid = some c ∧ Appoints names s c targetSid targetName ∧
      s.handleOfficer names sid targetName =
        (s.updateUserKnights targetName c.knightsId OFFICER).updateCharacterStats targetSid
          fun c => { c with fame := OFFICER } := by
  unfold ClanWorld.handleOfficer
  cases hc : s.sessions sid with
  | none => exact Or.inl rfl
  | some c =>
    dsimp only
    by_cases hchief : c.fame ≠ CHIEF
    · exact Or.inl (if_pos hchief)
    rw [if_neg hchief]
    by_cases hclan : c.knightsId = 0
    · exact Or.inl (if_pos hclan)
    rw [if_neg hclan]
    cases hfound : s.findSessionByName names targetName with
    | none => exact Or.inl rfl
    | some targetSid =>
      dsimp only
      by_cases hrefused : s.targetRefused names c targetName
      · exact Or.inl (if_pos hrefused)
      rw [if_neg hrefused]
      exact Or.inr ⟨c, targetSid, rfl,
        ⟨not_not.mp hchief, hclan, hfound, Bool.not_eq_true _ ▸ hrefused⟩, rfl⟩

/-- With the right name the two updates of a handover are those of a change of chief. -/
theorem users_handover (h : Registered s) (hc : s.sessions sid = some c)
    (htc : s.sessions targetSid = some tc) (hclan : tc.knightsId = c.knightsId)
    (hname : tc.name ≠ c.name) :
    (s.handoverLeadership c.knightsId tc.name c.name).users =
      s.users.map (assign tc.name c.knightsId CHIEF ∘ assign c.name c.knightsId TRAINEE) := by
  unfold ClanWorld.handoverLeadership Rows.update
  dsimp only
  rw [List.map_map]
  refine List.map_congr_left fun r hr => ?_
  rw [Function.comp_apply, Function.comp_apply]
  by_cases hr₁ : r.name = tc.name
  · obtain rfl := Rows.eq_of_key h.nodup hr (h.row_mem htc) hr₁
    have hne : tc.row.name ≠ c.name := hname
    have hclan' : tc.row.knights = c.knightsId := hclan
    rw [if_pos hr₁, if_pos hclan', if_neg hne, assign_of_ne hne, assign_of_eq hr₁, ← hclan']
  · rw [if_neg hr₁]
    by_cases hr₂ : r.name = c.name
    · obtain rfl := Rows.eq_of_key h.nodup hr (h.row_mem hc) hr₂
      have hclan' : c.row.knights = c.knightsId := rfl
      rw [if_pos hr₂, if_pos hclan', assign_of_eq hr₂, assign_of_ne (Ne.symm hname)]
      rfl
    · rw [if_neg hr₂, assign_of_ne hr₂, assign_of_ne hr₁]

theorem handleHandoverReq_cases (h : Registered s) (sid : ℕ) (targetName : List Char) :
    s.handleHandoverReq names sid targetName = s ∨
    ∃ c targetSid tc k, s.sessions sid = some c ∧ c.fame = CHIEF ∧ c.knightsId ≠ 0 ∧
      s.knights c.knightsId = some k ∧ s.findSessionByName names targetName = some targetSid ∧
      s.sessions targetSid = some tc ∧ tc.fame = VICECHIEF ∧ tc.knightsId = c.knightsId ∧
      (s.handleHandoverReq names sid targetName).rows = s.rows ∧
      (s.handleHandoverReq names sid targetName).knights = Function.update s.knights c.knightsId
        (some { k.clearViceChief names targetName with chief := targetName }) ∧
      (tc.name = targetName → Follows s (s.handleHandoverReq names sid targetName)
        (assign tc.name c.knightsId CHIEF ∘ assign c.name c.knightsId TRAINEE)) := by
  unfold ClanWorld.handleHandoverReq
  cases hc : s.sessions sid with
  | none => exact Or.inl rfl
  | some c =>
    dsimp only
    by_cases hchief : c.fame ≠ CHIEF ∨ c.knightsId = 0
    · exact Or.inl (if_pos hchief)
    rw [if_neg hchief]
    obtain ⟨hchief, hclan⟩ := not_or.mp hchief
    cases hk : s.knights c.knightsId with
    | none => exact Or.inl (if_pos rfl)
    | some k =>
      rw [if_neg (Option.some_ne_none k)]
      cases hfound : s.findSessionByName names targetName with
      | none => exact Or.inl rfl
      | some targetSid =>
        dsimp only
        cases htc : s.sessions targetSid with
        | none => exact Or.inl rfl
        | some tc =>
          dsimp only
          by_cases hother : tc.fame ≠ VICECHIEF ∨ tc.knightsId ≠ c.knightsId
          · exact Or.inl (if_pos hother)
          rw [if_neg hother]
          obtain ⟨hvice, hsame⟩ := not_or.mp hother
          have hknights : Function.update s.knights c.knightsId ((s.knights c.knightsId).map fun k =>
              { k.clearViceChief names targetName with chief := targetName }) =
              Function.update s.knights c.knightsId
                (some { k.clearViceChief names targetName with chief := targetName }) := by
            rw [hk]
            rfl
          refine Or.inr ⟨c, targetSid, tc, k, rfl, not_not.mp hchief, hclan, hk, rfl, htc,
            not_not.mp hvice, not_not.mp hsame, rfl, hknights, ?_⟩
          rintro rfl
          refine h.follows_ranks hc htc (not_not.mp hsame) ?_ rfl
          refine users_handover h hc htc (not_not.mp hsame) fun hname => ?_
          have hrow := Rows.eq_of_key h.nodup (h.row_mem htc) (h.row_mem hc) hname
          have hfame : tc.fame = c.fame := congrArg UserRow.fame hrow
          rw [not_not.mp hvice, not_not.mp hchief] at hfame
          exact absurd hfame (by decide)

theorem RankBooks.quiet (h : RankBooks s) (hq : Quiet s s') : RankBooks s' := by
  have husers : s'.users = s.users := by rw [hq.follows.users, List.map_id]
  refine ⟨h.registered.follows hq.follows, h.tabled.quiet hq, ?_, fun id => ?_⟩
  · unfold NoneAstray
    rw [hq.knights, husers]
    exact h.noneAstray
  · rw [hq.knights, husers]
    exact h.ranked id

theorem RankBooks.create (h : RankBooks s) (env : KnightsEnv) (sid : ℕ) (clanName : List Char) :
    RankBooks (s.handleCreate env sid clanName) := by
  rcases handleCreate_cases h.registered env sid clanName with
    hsame | ⟨c, info, hc, hfree, hfounded, hnew, hrows, hknights, hf⟩
  · rw [hsame]
    exact h
  have hu := h.registered.row_mem hc
  have hfree' : c.row.knights = 0 := hfree
  obtain ⟨ht, hkeep, hsome⟩ := founded_table h.tabled hfounded hrows hknights
  have hnone : s.knights info.id = none := by
    by_contra hne
    exact hnew (h.tabled.row _ hne)
  refine ⟨h.registered.follows hf, ht, h.noneAstray.assign hu hf (fun _ => hsome) hkeep,
    fun id k' hk' => ?_⟩
  have ha : Assigned _ _ c.row ⟨c.row.name, info.id, CHIEF⟩ := fun _ => mem_assign hu hf
  have hne := ht.ne_zero (hk' ▸ Option.some_ne_none k')
  rw [hknights] at hk'
  by_cases hid : id = info.id
  · subst hid
    rw [Function.update_self, Option.some.injEq] at hk'
    subst hk'
    have honly : ∀ r ∈ (s.handleCreate env sid clanName).users, r.knights = info.id →
        r = ⟨c.row.name, info.id, CHIEF⟩ := by
      intro r hr hclan
      rcases (ha r).mp hr with ⟨hr, -⟩ | rfl
      · exact absurd (hclan ▸ hnone) (h.noneAstray r hr (hclan.trans_ne hne))
      · rfl
    have hslots : info.viceChiefs = [] := by
      unfold KnightsInfo.viceChiefs
      rw [hfounded.viceChief1, hfounded.viceChief2, hfounded.viceChief3]
      rfl
    refine ⟨⟨_, (ha _).mpr (Or.inr rfl), rfl, hfounded.chief.symm⟩, fun r hr hclan => ?_,
      fun r hr hclan => ?_, hslots ▸ List.nodup_nil, fun n hn => ?_⟩
    · rw [honly r hr hclan]
      exact iff_of_true rfl hfounded.chief.symm
    · rw [honly r hr hclan, hslots]
      exact iff_of_false (by decide : CHIEF ≠ VICECHIEF) List.not_mem_nil
    · rw [hslots] at hn
      cases hn
  · rw [Function.update_of_ne hid] at hk'
    exact (h.ranked id k' hk').outside h.registered.nodup hu ha (hfree'.trans_ne hne.symm)
      (Ne.symm hid)

theorem RankBooks.joinReq (h : RankBooks s) (sid response clanId : ℕ) :
    RankBooks (s.handleJoinReq sid response clanId) := by
  rcases handleJoinReq_cases h.registered sid response clanId with
    hquiet | ⟨c, clan, hc, hfree, hclan, hroom, hrows, hknights, hf⟩
  · exact h.quiet hquiet
  have hu := h.registered.row_mem hc
  have hfree' : c.row.knights = 0 := hfree
  have hsome : s.knights clanId ≠ none := hclan ▸ Option.some_ne_none clan
  have hkeep := knights_update_iff hknights hsome
  have ha : Assigned _ _ c.row ⟨c.row.name, clanId, TRAINEE⟩ := fun _ => mem_assign hu hf
  refine ⟨h.registered.follows hf, h.tabled.update hrows hknights hsome,
    h.noneAstray.assign hu hf (fun _ => (hkeep clanId).mp hsome) fun id => (hkeep id).mp,
    fun id k' hk' => ?_⟩
  have hne := h.tabled.ne_zero ((hkeep id).mpr (hk' ▸ Option.some_ne_none k'))
  rw [hknights] at hk'
  by_cases hid : id = clanId
  · subst hid
    rw [Function.update_self, Option.some.injEq] at hk'
    subst hk'
    refine RanksOf.congr ((h.ranked id clan hclan).plain h.registered.nodup hu ha rfl rfl
      (fun heq => absurd (heq.symm.trans hfree') hne) (by decide : TRAINEE ≠ CHIEF)
      (by decide : TRAINEE ≠ VICECHIEF)) (fun _ _ => Iff.rfl) rfl rfl
  · rw [Function.update_of_ne hid] at hk'
    exact (h.ranked id k' hk').outside h.registered.nodup hu ha (hfree'.trans_ne hne.symm)
      (Ne.symm hid)

/-- A member without office leaves. -/
theorem RankBooks.leave (h : RankBooks s) {u : UserRow} (hu : u ∈ s.users) (hne : u.knights ≠ 0)
    (hf : Follows s s' (assign u.name 0 0)) (hrows : s'.rows = s.rows)
    (hknights : s'.knights = (s.dropMember u.knights).knights) (hchief : u.fame ≠ CHIEF)
    (hvice : u.fame ≠ VICECHIEF) : RankBooks s' := by
  obtain ⟨k, hk⟩ := Option.ne_none_iff_exists'.mp (h.noneAstray u hu hne)
  have hknights' : s'.knights =
      Function.update s.knights u.knights (some { k with members := k.members - 1 }) := by
    rw [hknights, knights_dropMember, hk]
    rfl
  have hsome : s.knights u.knights ≠ none := hk ▸ Option.some_ne_none k
  have hkeep := knights_update_iff hknights' hsome
  have ha : Assigned _ _ u ⟨u.name, 0, 0⟩ := fun _ => mem_assign hu hf
  have ht := h.tabled.update hrows hknights' hsome
  refine ⟨h.registered.follows hf, ht, h.noneAstray.assign hu hf (fun hzero => absurd rfl hzero)
    fun id => (hkeep id).mp, fun id k' hk' => ?_⟩
  have hne' := ht.ne_zero (hk' ▸ Option.some_ne_none k')
  rw [hknights'] at hk'
  by_cases hid : id = u.knights
  · subst hid
    rw [Function.update_self, Option.some.injEq] at hk'
    subst hk'
    exact RanksOf.congr ((h.ranked _ k hk).leave hu ha rfl hne.symm hchief hvice)
      (fun _ _ => Iff.rfl) rfl rfl
  · rw [Function.update_of_ne hid] at hk'
    exact (h.ranked id k' hk').outside h.registered.nodup hu ha (Ne.symm hid) hne'.symm

theorem RankBooks.destroy (h : RankBooks s) (env : KnightsEnv) (sid : ℕ) :
    RankBooks (s.handleDestroy env sid) := by
  rcases handleDestroy_cases env sid with hsame | ⟨c, hc, hchief, hclan, hrows, hknights, hf⟩
  · rw [hsame]
    exact h
  obtain ⟨ht, hastray, hstay⟩ := destroyed h.tabled h.noneAstray hrows hknights hf
  refine ⟨h.registered.follows hf, ht, hastray, fun id k' hk' => ?_⟩
  obtain ⟨-, hk, hmem⟩ := hstay id k' hk'
  exact (h.ranked id k' hk).congr hmem rfl rfl

theorem RankBooks.withdraw (h : RankBooks s) (env : KnightsEnv) (sid : ℕ)
    (hok : ∀ c, s.sessions sid = some c → c.knightsId ≠ 0 → env.clanUpdates = true →
      c.fame ≠ VICECHIEF) :
    RankBooks (s.handleWithdraw env sid) := by
  rcases handleWithdraw_cases h.registered env sid with
    hsame | hsame | ⟨c, hc, hchief, hclan, hzone, hrows, hknights, hf⟩
  · rw [hsame]
    exact h
  · rw [hsame]
    exact h.destroy env sid
  exact h.leave (h.registered.row_mem hc) hclan hf hrows hknights hchief (hok c hc hclan hzone)

theorem RankBooks.remove (h : RankBooks s) {env : KnightsEnv} (halive : env.isPlayerDead = false)
    (sid : ℕ) (targetName : List Char)
    (hok : ∀ c, s.sessions sid = some c → RemoveGoes names env s c targetName →
      s.Finds names targetName ∧
      ∀ u ∈ s.users, u.name = targetName → u.knights = c.knightsId → u.fame ≠ VICECHIEF) :
    RankBooks (s.handleRemove names env sid targetName) := by
  rcases handleRemove_cases names halive sid targetName with
    hsame | ⟨c, hc, hgoes, hrows, hknights, -, hf⟩
  · rw [hsame]
    exact h
  obtain ⟨hfinds, hvice⟩ := hok c hc hgoes
  have hf' := hf h.registered hfinds
  have hu := h.registered.row_mem hc
  obtain ⟨k, hk⟩ := Option.ne_none_iff_exists'.mp (h.noneAstray c.row hu hgoes.clan)
  by_cases hmember : ∃ u ∈ s.users, u.name = targetName ∧ u.knights = c.knightsId
  · obtain ⟨u, hu', rfl, hclan⟩ := hmember
    refine h.leave hu' (hclan.trans_ne hgoes.clan) (h.registered.strike_eq_assign hu' (hclan ▸ hf'))
      hrows (hclan ▸ hknights) (fun hchief => hgoes.other ?_) (hvice u hu' rfl hclan)
    have hr := h.ranked _ k hk
    have hname := ((hr.chief u hu' hclan).mp hchief).trans ((hr.chief c.row hu rfl).mp hgoes.chief).symm
    exact congrArg names.toUppercase hname
  · -- no row is rewritten, and no session either
    have hquiet : Follows s (s.handleRemove names env sid targetName) fun r => r := by
      refine hf'.congr h.registered (fun _ => rfl) fun r hr => ?_
      unfold strike expel
      split_ifs with hname hclan
      · exact absurd ⟨r, hr, hname, hclan⟩ hmember
      · rfl
      · rfl
    have hknights' : (s.handleRemove names env sid targetName).knights =
        Function.update s.knights c.knightsId (some { k with members := k.members - 1 }) := by
      rw [hknights, knights_dropMember, show s.knights c.knightsId = some k from hk]
      rfl
    have hsome : s.knights c.knightsId ≠ none := fun hnone => Option.some_ne_none k (hk.symm.trans hnone)
    have hkeep := knights_update_iff hknights' hsome
    have husers : (s.handleRemove names env sid targetName).users = s.users := by
      rw [hquiet.users, List.map_id']
    refine ⟨h.registered.follows hquiet, h.tabled.update hrows hknights' hsome, fun u hu hne => ?_,
      fun id k' hk' => ?_⟩
    · rw [husers] at hu
      exact (hkeep _).mp (h.noneAstray u hu hne)
    · rw [husers]
      rw [hknights'] at hk'
      by_cases hid : id = c.knightsId
      · subst hid
        rw [Function.update_self, Option.some.injEq] at hk'
        subst hk'
        exact (h.ranked _ k hk).congr (fun _ _ => Iff.rfl) rfl rfl
      · rw [Function.update_of_ne hid] at hk'
        exact h.ranked id k' hk'

/-- The rows after the ranks of a chief and a successor were written. -/
theorem mem_assign_two {u t : UserRow} (hu : u ∈ s.users) (ht : t ∈ s.users)
    (hf : Follows s s' (assign t.name id CHIEF ∘ assign u.name id TRAINEE)) (r : UserRow) :
    r ∈ s'.users ↔ r ∈ s.users ∧ r.name ≠ u.name ∧ r.name ≠ t.name ∨
      r = ⟨u.name, id, TRAINEE⟩ ∧ u.name ≠ t.name ∨ r = ⟨t.name, id, CHIEF⟩ := by
  rw [hf.users, List.mem_map]
  constructor
  · rintro ⟨q, hq, rfl⟩
    rw [Function.comp_apply]
    by_cases hqt : q.name = t.name
    · have hname : (assign u.name id TRAINEE q).name = t.name := (name_assign _ _ _ q).trans hqt
      rw [assign_of_eq hname, hname]
      exact Or.inr (Or.inr rfl)
    · by_cases hqu : q.name = u.name
      · have hname : (assign u.name id TRAINEE q).name ≠ t.name := by rwa [name_assign]
        rw [assign_of_ne hname, assign_of_eq hqu, hqu]
        exact Or.inr (Or.inl ⟨rfl, hqu ▸ hqt⟩)
      · rw [assign_of_ne hqu, assign_of_ne hqt]
        exact Or.inl ⟨hq, hqu, hqt⟩
  · rintro (⟨hr, hru, hrt⟩ | ⟨rfl, hne⟩ | rfl)
    · refine ⟨r, hr, ?_⟩
      rw [Function.comp_apply, assign_of_ne hru, assign_of_ne hrt]
    · refine ⟨u, hu, ?_⟩
      have hname : (assign u.name id TRAINEE u).name ≠ t.name := by rwa [name_assign]
      rw [Function.comp_apply, assign_of_ne hname, assign_of_eq rfl]
    · refine ⟨t, ht, ?_⟩
      have hname : (assign u.name id TRAINEE t).name = t.name := name_assign _ _ _ t
      rw [Function.comp_apply, assign_of_eq hname, hname]

/-- The chief of a clan hands over to a member. -/
theorem RankBooks.transfer (h : RankBooks s) {u t : UserRow} (hu : u ∈ s.users) (ht : t ∈ s.users)
    (hclan : t.knights = u.knights) (hchief : u.fame = CHIEF) (hk : s.knights u.knights = some k)
    (hf : Follows s s' (assign t.name u.knights CHIEF ∘ assign u.name u.knights TRAINEE))
    (hrows : s'.rows = s.rows) (hknights : s'.knights = Function.update s.knights u.knights (some k'))
    (hchief' : k'.chief = t.name) (hnodup : k'.viceChiefs.Nodup)
    (hslots : ∀ n, n ∈ k'.viceChiefs ↔ n ∈ k.viceChiefs ∧ n ≠ t.name) : RankBooks s' := by
  have hsome : s.knights u.knights ≠ none := hk ▸ Option.some_ne_none k
  have hkeep := knights_update_iff hknights hsome
  have ha := mem_assign_two hu ht hf
  have hother : ∀ r, r.knights ≠ u.knights → (r ∈ s'.users ↔ r ∈ s.users) := by
    intro r hr
    rw [ha, or_iff_left]
    · refine and_iff_left_of_imp fun hmem => ⟨fun hname => hr ?_, fun hname => hr ?_⟩
      · rw [Rows.eq_of_key h.registered.nodup hmem hu hname]
      · rw [Rows.eq_of_key h.registered.nodup hmem ht hname, hclan]
    · rintro (⟨rfl, -⟩ | rfl)
      · exact hr rfl
      · exact hr rfl
  refine ⟨h.registered.follows hf, h.tabled.update hrows hknights hsome, fun r hr hne' => ?_,
    fun id k'' hk'' => ?_⟩
  · by_cases hr' : r.knights = u.knights
    · rw [hr']
      exact (hkeep _).mp hsome
    · exact (hkeep _).mp (h.noneAstray r ((hother r hr').mp hr) hne')
  · rw [hknights] at hk''
    by_cases hid : id = u.knights
    · subst hid
      rw [Function.update_self, Option.some.injEq] at hk''
      subst hk''
      exact (h.ranked _ k hk).transfer hu rfl hchief ha hchief' hnodup hslots
    · rw [Function.update_of_ne hid] at hk''
      exact (h.ranked id k'' hk'').congr (fun r hr => hother r (hr.trans_ne hid)) rfl rfl

theorem RankBooks.chief (h : RankBooks s) (env : KnightsEnv) (sid : ℕ) (targetName : List Char)
    (hok : ∀ c, s.sessions sid = some c → c.fame = CHIEF → c.knightsId ≠ 0 →
      env.clanUpdates = true → ∀ targetSid tc,
      s.findSessionByName names targetName = some targetSid → s.sessions targetSid = some tc →
      tc.knightsId = c.knightsId → tc.fame ≠ VICECHIEF) :
    RankBooks (s.handleChief names env sid targetName) := by
  rcases handleChief_cases h.registered env sid targetName with
    hsame | ⟨c, targetSid, tc, hc, hchief, hne, hzone, hfound, htc, hclan, hrows, hknights, hf⟩
  · rw [hsame]
    exact h
  have hu := h.registered.row_mem hc
  have ht := h.registered.row_mem htc
  obtain ⟨k, hk⟩ := Option.ne_none_iff_exists'.mp (h.noneAstray c.row hu hne)
  have hr := h.ranked _ k hk
  have hfree : tc.name ∉ k.viceChiefs := fun hn =>
    hok c hc hchief hne hzone targetSid tc hfound htc hclan ((hr.vice tc.row ht hclan).mpr hn)
  rw [show s.knights c.knightsId = some k from hk, Option.map_some] at hknights
  refine h.transfer hu ht hclan hchief hk hf hrows hknights rfl hr.nodup fun n => ?_
  refine (and_iff_left_of_imp ?_).symm
  rintro hn rfl
  exact hfree hn

/-- The rank of one member is written, and one clan. -/
theorem RankBooks.appointed (h : RankBooks s) (htc : s.sessions targetSid = some tc)
    {fame : ℕ} (hf : Follows s s' (assign tc.name tc.knightsId fame)) (hrows : s'.rows = s.rows)
    (hk : s.knights tc.knightsId = some k)
    (hknights : s'.knights = Function.update s.knights tc.knightsId (some k'))
    (hranks : Assigned s.users s'.users tc.row ⟨tc.name, tc.knightsId, fame⟩ →
      RanksOf s'.users tc.knightsId k') : RankBooks s' := by
  have hsome : s.knights tc.knightsId ≠ none := hk ▸ Option.some_ne_none k
  have hkeep := knights_update_iff hknights hsome
  have ht := h.registered.row_mem htc
  have ha : Assigned s.users s'.users tc.row ⟨tc.name, tc.knightsId, fame⟩ := fun _ => mem_assign ht hf
  refine ⟨h.registered.follows hf, h.tabled.update hrows hknights hsome,
    h.noneAstray.assign ht hf (fun _ => (hkeep _).mp hsome) fun id => (hkeep id).mp,
    fun id k'' hk'' => ?_⟩
  rw [hknights] at hk''
  by_cases hid : id = tc.knightsId
  · subst hid
    rw [Function.update_self, Option.some.injEq] at hk''
    subst hk''
    exact hranks ha
  · rw [Function.update_of_ne hid] at hk''
    exact (h.ranked id k'' hk'').outside h.registered.nodup ht ha (Ne.symm hid) (Ne.symm hid)

theorem RankBooks.vicechief (h : RankBooks s) (sid : ℕ) (targetName : List Char)
    (hok : ∀ c targetSid, s.sessions sid = some c → Appoints names s c targetSid targetName →
      ∃ tc k, s.sessions targetSid = some tc ∧ tc.name = targetName ∧ tc.fame ≠ CHIEF ∧
        tc.fame ≠ VICECHIEF ∧ s.knights c.knightsId = some k ∧
          (k.viceChief1 = [] ∨ k.viceChief2 = [] ∨ k.viceChief3 = [])) :
    RankBooks (s.handleVicechief names sid targetName) := by
  rcases @handleVicechief_cases s names sid targetName with
    hsame | ⟨c, targetSid, hc, hname, happoints, heq⟩
  · rw [hsame]
    exact h
  obtain ⟨tc, k, htc, rfl, hchief, hvice, hk, hfree⟩ := hok c targetSid hc happoints
  have hclan := happoints.clan_eq htc
  rw [← hclan] at hk heq
  have hf := h.registered.follows_rank htc VICECHIEF
  have hu := h.registered.row_mem htc
  have hknights : Function.update s.knights tc.knightsId
      ((s.knights tc.knightsId).map fun k => k.addViceChief tc.name) =
      Function.update s.knights tc.knightsId (some (k.addViceChief tc.name)) := by
    rw [hk]
    rfl
  rw [heq]
  refine h.appointed htc ⟨hf.name, hf.users, hf.online⟩ rfl hk hknights fun ha => ?_
  exact (h.ranked _ k hk).appoint hu ha rfl rfl rfl hchief hvice rfl (chief_addViceChief _)
    (viceChiefs_addViceChief hname hfree)

theorem RankBooks.officer (h : RankBooks s) (sid : ℕ) (targetName : List Char)
    (hok : ∀ c targetSid, s.sessions sid = some c → Appoints names s c targetSid targetName →
      ∃ tc, s.sessions targetSid = some tc ∧ tc.name = targetName ∧ tc.fame ≠ CHIEF ∧
        tc.fame ≠ VICECHIEF) :
    RankBooks (s.handleOfficer names sid targetName) := by
  rcases @handleOfficer_cases s names sid targetName with hsame | ⟨c, targetSid, hc, happoints, heq⟩
  · rw [hsame]
    exact h
  obtain ⟨tc, htc, rfl, hchief, hvice⟩ := hok c targetSid hc happoints
  have hclan := happoints.clan_eq htc
  rw [← hclan] at heq
  have hf := h.registered.follows_rank htc OFFICER
  have hu := h.registered.row_mem htc
  obtain ⟨k, hk⟩ := Option.ne_none_iff_exists'.mp
    (h.noneAstray tc.row hu (hclan.trans_ne happoints.clan))
  have hknights : s.knights = Function.update s.knights tc.knightsId (some k) := by
    rw [← show s.knights tc.knightsId = some k from hk, Function.update_eq_self]
  rw [heq]
  refine h.appointed htc ⟨hf.name, hf.users, hf.online⟩ rfl hk hknights fun ha => ?_
  exact (h.ranked _ k hk).plain h.registered.nodup hu ha rfl rfl (fun _ => ⟨hchief, hvice⟩)
    (by decide : OFFICER ≠ CHIEF) (by decide : OFFICER ≠ VICECHIEF)

theorem RankBooks.handoverReq (h : RankBooks s) (sid : ℕ) (targetName : List Char)
    (hok : ∀ c, s.sessions sid = some c → c.fame = CHIEF → c.knightsId ≠ 0 → ∀ targetSid tc k,
      s.findSessionByName names targetName = some targetSid → s.sessions targetSid = some tc →
      s.knights c.knightsId = some k → tc.fame = VICECHIEF → tc.knightsId = c.knightsId →
      tc.name = targetName ∧ ∀ m ∈ [k.viceChief1, k.viceChief2, k.viceChief3],
        names.toUppercase m = names.toUppercase targetName → m = targetName) :
    RankBooks (s.handleHandoverReq names sid targetName) := by
  rcases @handleHandoverReq_cases s names h.registered sid targetName with
    hsame | ⟨c, targetSid, tc, k, hc, hchief, hne, hk, hfound, htc, hvice, hclan, hrows, hknights, hf⟩
  · rw [hsame]
    exact h
  obtain ⟨rfl, hcapitals⟩ := hok c hc hchief hne targetSid tc k hfound htc hk hvice hclan
  have ht := h.registered.row_mem htc
  have hr := h.ranked _ k hk
  have hn : tc.name ∈ k.viceChiefs := (hr.vice tc.row ht hclan).mp hvice
  have hslots := viceChiefs_clearViceChief hn hcapitals
  obtain ⟨hgone, hnodup⟩ := List.nodup_cons.mp (hslots.nodup_iff.mp hr.nodup)
  refine h.transfer (h.registered.row_mem hc) ht hclan hchief hk (hf rfl) hrows hknights rfl hnodup
    fun n => ?_
  rw [hslots.mem_iff, List.mem_cons]
  constructor
  · intro hmem
    refine ⟨Or.inr hmem, fun heq => hgone ?_⟩
    rw [heq] at hmem
    exact hmem
  · rintro ⟨rfl | hmem, hother⟩
    · exact absurd rfl hother
    · exact hmem

/-- No office is left behind in a clan or given out twice: vice chiefs neither leave, nor are
removed, nor are made chief by `KNIGHTS_CHIEF`; only members without office become vice chief, while
a slot is free, or officer; and where the session is looked up by a name, the name is the
character's letter for letter. -/
def OfficesKept (names : CaseMaps) (s : ClanWorld) (step : ClanStep RankRequest) : Prop :=
  step.env.isPlayerDead = false → ∀ c, s.sessions step.sid = some c →
    match step.request with
    | .membership .withdraw => c.knightsId ≠ 0 → step.env.clanUpdates = true → c.fame ≠ VICECHIEF
    | .membership (.remove targetName) => RemoveGoes names step.env s c targetName →
      s.Finds names targetName ∧
      ∀ u ∈ s.users, u.name = targetName → u.knights = c.knightsId → u.fame ≠ VICECHIEF
    | .membership _ => True
    | .chief targetName => c.fame = CHIEF → c.knightsId ≠ 0 → step.env.clanUpdates = true →
      ∀ targetSid tc, s.findSessionByName names targetName = some targetSid →
      s.sessions targetSid = some tc → tc.knightsId = c.knightsId → tc.fame ≠ VICECHIEF
    | .vicechief targetName => ∀ targetSid, Appoints names s c targetSid targetName →
      ∃ tc k, s.sessions targetSid = some tc ∧ tc.name = targetName ∧ tc.fame ≠ CHIEF ∧
        tc.fame ≠ VICECHIEF ∧ s.knights c.knightsId = some k ∧
          (k.viceChief1 = [] ∨ k.viceChief2 = [] ∨ k.viceChief3 = [])
    | .officer targetName => ∀ targetSid, Appoints names s c targetSid targetName →
      ∃ tc, s.sessions targetSid = some tc ∧ tc.name = targetName ∧ tc.fame ≠ CHIEF ∧
        tc.fame ≠ VICECHIEF
    | .handoverReq targetName => c.fame = CHIEF → c.knightsId ≠ 0 → ∀ targetSid tc k,
      s.findSessionByName names targetName = some targetSid → s.sessions targetSid = some tc →
      s.knights c.knightsId = some k → tc.fame = VICECHIEF → tc.knightsId = c.knightsId →
      tc.name = targetName ∧ ∀ m ∈ [k.viceChief1, k.viceChief2, k.viceChief3],
        names.toUppercase m = names.toUppercase targetName → m = targetName

theorem RankBooks.step (h : RankBooks s) {step : ClanStep RankRequest}
    (hok : OfficesKept names s step) : RankBooks (s.ranks names step) := by
  unfold ClanWorld.ranks
  by_cases hdead : step.env.isPlayerDead
  · rwa [if_pos hdead]
  rw [if_neg hdead]
  have halive : step.env.isPlayerDead = false := Bool.not_eq_true _ ▸ hdead
  replace hok := hok halive
  cases hrequest : step.request with
  | chief targetName =>
    simp only [hrequest] at hok
    exact h.chief step.env step.sid targetName hok
  | vicechief targetName =>
    simp only [hrequest] at hok
    exact h.vicechief step.sid targetName fun c targetSid hc => hok c hc targetSid
  | officer targetName =>
    simp only [hrequest] at hok
    exact h.officer step.sid targetName fun c targetSid hc => hok c hc targetSid
  | handoverReq targetName =>
    simp only [hrequest] at hok
    exact h.handoverReq step.sid targetName hok
  | membership request =>
    dsimp only
    unfold ClanWorld.membership
    dsimp only
    rw [if_neg hdead]
    cases request with
    | create clanName => exact h.create step.env step.sid clanName
    | join target => exact h.quiet (handleJoin_quiet step.env step.sid target)
    | joinReq response clanId => exact h.joinReq step.sid response clanId
    | withdraw =>
      simp only [hrequest] at hok
      exact h.withdraw step.env step.sid hok
    | remove targetName =>
      simp only [hrequest] at hok
      exact h.remove halive step.sid targetName hok
    | destroy => exact h.destroy step.env step.sid

/-- Ranks stay consistent in a run that keeps the offices. -/
theorem ranksConsistent_run (h : RankBooks s) {steps : List (ClanStep RankRequest)}
    (hok : Run.Along (ClanWorld.ranks names) (OfficesKept names) s steps) :
    Run.Along (ClanWorld.ranks names) (fun s step => ∀ id k, (s.ranks names step).knights id = some k →
      RanksConsistent (s.ranks names step) id k) s steps :=
  Run.along_of_invariant RankBooks
    (fun _ _ h hok => ⟨h.step hok, fun _ _ => (h.step hok).consistent⟩) hok h

theorem rankBooks_village : RankBooks village :=
  ⟨clanBooks_village.registered, clanBooks_village.tabled, clanBooks_village.exact.noneAstray,
    fun _ _ hk => by cases hk⟩

theorem ranksConsistent_village :
    Run.Along (ClanWorld.ranks asciiCase) (fun s step => ∀ id k,
        (s.ranks asciiCase step).knights id = some k →
          RanksConsistent (s.ranks asciiCase step) id k) village
      [⟨1, calm, .membership (.create ['L'])⟩, ⟨1, calm, .membership .withdraw⟩] := by
  refine ranksConsistent_run rankBooks_village ⟨fun _ _ _ => trivial, fun _ c hc => ?_, trivial⟩
  obtain rfl := Option.some.inj hc
  decide +kernel

/-- Ann founds a clan and appoints herself vice chief: the clan has no chief. -/
theorem not_ranksConsistent_vicechief :
    ¬ Run.Along (ClanWorld.ranks asciiCase) (fun s step => ∀ id k,
        (s.ranks asciiCase step).knights id = some k →
          RanksConsistent (s.ranks asciiCase step) id k) village
      [⟨1, calm, .membership (.create ['L'])⟩, ⟨1, calm, .vicechief ['A', 'n', 'n']⟩] := by
  rintro ⟨-, h, -⟩
  let s := (village.ranks asciiCase ⟨1, calm, .membership (.create ['L'])⟩).ranks asciiCase
    ⟨1, calm, .vicechief ['A', 'n', 'n']⟩
  have hclan : s.knights 1 ≠ none := by decide +kernel
  obtain ⟨k, hk⟩ := Option.ne_none_iff_exists'.mp hclan
  obtain ⟨u, ⟨hu, -, hchief⟩, -⟩ := (h 1 k hk).chief
  have hnobody : ∀ u ∈ s.users, u.fame ≠ CHIEF := by decide +kernel
  exact hnobody u hu hchief

end KoServer
