import KoServer.Lib.Run
import KoServer.Spec.Knights

/-! The member count of a clan. A request rewrites the users' rows and the sessions by the same
function, so that they keep saying the same; the count is written apart, and a removal writes it
whether or not a row was rewritten. -/

namespace KoServer

def Clansman.row (c : Clansman) : UserRow := ⟨c.name, c.knightsId, c.fame⟩

namespace ClanWorld

def online (s : ClanWorld) (sid : ℕ) : Option UserRow := (s.sessions sid).map Clansman.row

def memberCount (s : ClanWorld) (clanId : ℕ) : ℕ := s.users.countP fun u => u.knights = clanId

end ClanWorld

/-- Names are unique, and every session plays the character of its row, alone. -/
structure Registered (s : ClanWorld) : Prop where
  nodup : (s.users.map UserRow.name).Nodup
  mem : ∀ sid r, s.online sid = some r → r ∈ s.users
  alone : ∀ sid sid' r r', s.online sid = some r → s.online sid' = some r' → r.name = r'.name →
    sid = sid'

/-- Rows and sessions are rewritten alike. -/
structure Follows (s s' : ClanWorld) (g : UserRow → UserRow) : Prop where
  name : ∀ r, (g r).name = r.name
  users : s'.users = s.users.map g
  online : ∀ sid, s'.online sid = (s.online sid).map g

/-- Clan ids in the table have a row, and 0 is none of them. -/
structure Tabled (s : ClanWorld) : Prop where
  zero : s.knights 0 = none
  row : ∀ id, s.knights id ≠ none → id ∈ s.rows.map KnightsRow.idNum

def Led (s : ClanWorld) : Prop :=
  ∀ id k, s.knights id = some k → ∃ u ∈ s.users, u.knights = id ∧ u.fame = CHIEF

def NoneAstray (s : ClanWorld) : Prop :=
  ∀ u ∈ s.users, u.knights ≠ 0 → s.knights u.knights ≠ none

structure MembersExact (s : ClanWorld) : Prop where
  count : ∀ id k, s.knights id = some k →
    k.members = s.memberCount id ∧ 1 ≤ k.members ∧ k.members ≤ MAX_CLAN_USERS
  noneAstray : NoneAstray s

variable {s s' : ClanWorld} {g : UserRow → UserRow} {sid : ℕ} {c : Clansman}

theorem Registered.follows (h : Registered s) (hf : Follows s s' g) : Registered s' := by
  have hback : ∀ sid r, s'.online sid = some r → ∃ r', s.online sid = some r' ∧ g r' = r := by
    intro sid r hr
    rw [hf.online] at hr
    exact Option.map_eq_some_iff.mp hr
  refine ⟨?_, ?_, ?_⟩
  · have hnames : s'.users.map UserRow.name = s.users.map UserRow.name := by
      rw [hf.users, List.map_map]
      exact List.map_congr_left fun r _ => hf.name r
    rw [hnames]
    exact h.nodup
  · intro sid r hr
    obtain ⟨r', hr', rfl⟩ := hback sid r hr
    rw [hf.users]
    exact List.mem_map_of_mem (h.mem sid r' hr')
  · intro sid sid' r r' hr hr' hname
    obtain ⟨q, hq, rfl⟩ := hback sid r hr
    obtain ⟨q', hq', rfl⟩ := hback sid' r' hr'
    rw [hf.name, hf.name] at hname
    exact h.alone sid sid' q q' hq hq' hname

theorem online_of_session (hc : s.sessions sid = some c) : s.online sid = some c.row := by
  unfold ClanWorld.online
  rw [hc]
  rfl

theorem Registered.row_mem (h : Registered s) (hc : s.sessions sid = some c) : c.row ∈ s.users :=
  h.mem sid _ (online_of_session hc)

/-- A session whose character follows, while nobody else is rewritten. -/
theorem Registered.online_update (h : Registered s) (hc : s.sessions sid = some c)
    {updater : Clansman → Clansman} (hrow : g c.row = (updater c).row)
    (hother : ∀ r, r.name ≠ c.name → g r = r) (sid' : ℕ) :
    (s.updateCharacterStats sid updater).online sid' = (s.online sid').map g := by
  unfold ClanWorld.updateCharacterStats ClanWorld.online
  dsimp only
  by_cases hsid : sid' = sid
  · subst hsid
    rw [Function.update_self, hc, Option.map_some, Option.map_some, Option.map_some, Option.map_some,
      hrow]
  · rw [Function.update_of_ne hsid]
    cases hc' : s.sessions sid' with
    | none => rfl
    | some c' =>
      have hname : c'.row.name ≠ c.name := fun hname =>
        hsid (h.alone sid' sid _ _ (online_of_session hc') (online_of_session hc) hname)
      rw [Option.map_some, Option.map_some, hother _ hname]

/-- One user is given a clan and a rank. -/
def assign (name : List Char) (clanId fame : ℕ) (r : UserRow) : UserRow :=
  if r.name = name then { r with knights := clanId, fame := fame } else r

theorem assign_of_eq {name : List Char} {clanId fame : ℕ} {r : UserRow} (h : r.name = name) :
    assign name clanId fame r = { r with knights := clanId, fame := fame } := if_pos h

theorem assign_of_ne {name : List Char} {clanId fame : ℕ} {r : UserRow} (h : r.name ≠ name) :
    assign name clanId fame r = r := if_neg h

theorem name_assign (name : List Char) (clanId fame : ℕ) (r : UserRow) :
    (assign name clanId fame r).name = r.name := by
  unfold assign
  split_ifs <;> rfl

theorem Registered.count_assign (h : Registered s) {u : UserRow} (hu : u ∈ s.users)
    {clanId fame : ℕ} (hf : Follows s s' (assign u.name clanId fame)) (id : ℕ) :
    s'.memberCount id + (if u.knights = id then 1 else 0) =
      s.memberCount id + if clanId = id then 1 else 0 := by
  have hcount := Rows.countP_update (f := fun r => { r with knights := clanId, fame := fame })
    h.nodup hu fun u => u.knights = id
  unfold ClanWorld.memberCount
  rw [hf.users]
  simp only [decide_eq_true_eq] at hcount
  exact hcount

theorem mem_assign {u : UserRow} (hu : u ∈ s.users)
    {clanId fame : ℕ} (hf : Follows s s' (assign u.name clanId fame)) {r : UserRow} :
    r ∈ s'.users ↔ r ∈ s.users ∧ r.name ≠ u.name ∨ r = ⟨u.name, clanId, fame⟩ := by
  rw [hf.users]
  change r ∈ Rows.update UserRow.name u.name (fun r => { r with knights := clanId, fame := fame })
    s.users ↔ _
  rw [Rows.mem_update]
  refine or_congr_right ⟨?_, ?_⟩
  · rintro ⟨r', -, hname, rfl⟩
    rw [← hname]
  · rintro rfl
    exact ⟨u, hu, rfl, rfl⟩

theorem nextClanId_pos (nation : ℕ) : 0 < s.nextClanId nation := by
  unfold ClanWorld.nextClanId
  by_cases hnation : nation = 2
  · rw [if_pos hnation]
    dsimp only
    split_ifs <;> omega
  · rw [if_neg hnation]
    dsimp only
    split_ifs <;> omega

structure Founded (c : Clansman) (info : KnightsInfo) : Prop where
  id_pos : 0 < info.id
  chief : info.chief = c.name
  viceChief1 : info.viceChief1 = []
  viceChief2 : info.viceChief2 = []
  viceChief3 : info.viceChief3 = []
  members : info.members = 1

theorem handleCreate_cases (h : Registered s) (env : KnightsEnv) (sid : ℕ) (clanName : List Char) :
    s.handleCreate env sid clanName = s ∨
    ∃ c info, s.sessions sid = some c ∧ c.knightsId = 0 ∧ Founded c info ∧
      info.id ∉ s.rows.map KnightsRow.idNum ∧
      (s.handleCreate env sid clanName).rows = ⟨info.id, clanName⟩ :: s.rows ∧
      (s.handleCreate env sid clanName).knights = Function.update s.knights info.id (some info) ∧
      Follows s (s.handleCreate env sid clanName) (assign c.name info.id CHIEF) := by
  unfold ClanWorld.handleCreate
  cases hc : s.sessions sid with
  | none => exact Or.inl rfl
  | some c =>
    dsimp only
    generalize (if env.autoRoyal then CLAN_TYPE_ROYAL1 else CLAN_TYPE_TRAINING) = flag
    by_cases htrading : env.isTrading = true
    · exact Or.inl (if_pos htrading)
    rw [if_neg htrading]
    by_cases hname : clanName = [] ∨ MAX_ID_SIZE < (asBytes clanName).length
    · exact Or.inl (if_pos hname)
    rw [if_neg hname]
    by_cases hclan : 0 < c.knightsId
    · exact Or.inl (if_pos hclan)
    rw [if_neg hclan]
    by_cases hlevel : c.level < CLAN_LEVEL_REQUIREMENT
    · exact Or.inl (if_pos hlevel)
    rw [if_neg hlevel]
    by_cases hgold : c.gold < CLAN_COIN_REQUIREMENT
    · exact Or.inl (if_pos hgold)
    rw [if_neg hgold]
    by_cases hupdates : ¬ env.clanUpdates
    · exact Or.inl (if_pos hupdates)
    rw [if_neg hupdates]
    by_cases htaken : clanName ∈ s.rows.map KnightsRow.idName
    · exact Or.inl (if_pos htaken)
    rw [if_neg htaken]
    by_cases hrow : s.nextClanId c.nation ∈ s.rows.map KnightsRow.idNum
    · exact Or.inl (if_pos hrow)
    rw [if_neg hrow]
    refine Or.inr ⟨c, _, rfl, by omega, ⟨nextClanId_pos c.nation, rfl, rfl, rfl, rfl, rfl⟩, hrow, rfl,
      rfl, name_assign _ _ _, rfl, ?_⟩
    exact h.online_update hc (assign_of_eq rfl) fun r => assign_of_ne

structure Quiet (s s' : ClanWorld) : Prop where
  follows : Follows s s' id
  rows : s'.rows = s.rows
  knights : s'.knights = s.knights

theorem Quiet.refl (s : ClanWorld) : Quiet s s :=
  ⟨⟨fun _ => rfl, (List.map_id _).symm, fun _ => (Option.map_id_apply).symm⟩, rfl, rfl⟩

/-- A session is written, but not its name, clan or rank. -/
theorem quiet_update (s : ClanWorld) (sid : ℕ) {updater : Clansman → Clansman}
    (hrow : ∀ c, (updater c).row = c.row) : Quiet s (s.updateCharacterStats sid updater) := by
  refine ⟨⟨fun _ => rfl, (List.map_id _).symm, fun sid' => ?_⟩, rfl, rfl⟩
  unfold ClanWorld.updateCharacterStats ClanWorld.online
  dsimp only
  rw [Option.map_id_apply]
  by_cases hsid : sid' = sid
  · subst hsid
    rw [Function.update_self, Option.map_map]
    exact congrArg (Option.map · _) (funext hrow)
  · rw [Function.update_of_ne hsid]

theorem Follows.trans {s'' : ClanWorld} {g' : UserRow → UserRow} (h : Follows s s' g)
    (h' : Follows s' s'' g') : Follows s s'' (g' ∘ g) := by
  refine ⟨fun r => (h'.name _).trans (h.name r), ?_, fun sid => ?_⟩
  · rw [h'.users, h.users, List.map_map]
  · rw [h'.online, h.online, Option.map_map]

theorem handleJoin_quiet (env : KnightsEnv) (sid target : ℕ) :
    Quiet s (s.handleJoin env sid target) := by
  unfold ClanWorld.handleJoin
  split
  · exact .refl s
  split
  · exact .refl s
  split
  · exact .refl s
  split
  · split
    · exact .refl s
    split
    · exact .refl s
    split
    · exact .refl s
    · exact quiet_update s target fun _ => rfl
  · exact .refl s

theorem handleJoinReq_cases (h : Registered s) (sid response clanId : ℕ) :
    Quiet s (s.handleJoinReq sid response clanId) ∨
    ∃ c clan, s.sessions sid = some c ∧ c.knightsId = 0 ∧ s.knights clanId = some clan ∧
      clan.members < MAX_CLAN_USERS ∧
      (s.handleJoinReq sid response clanId).rows = s.rows ∧
      (s.handleJoinReq sid response clanId).knights =
        Function.update s.knights clanId (some { clan with members := clan.members + 1 }) ∧
      Follows s (s.handleJoinReq sid response clanId) (assign c.name clanId TRAINEE) := by
  unfold ClanWorld.handleJoinReq
  by_cases hresponse : response ≠ 1
  · rw [if_pos hresponse]
    exact Or.inl (quiet_update s sid fun _ => rfl)
  rw [if_neg hresponse]
  cases hc : s.sessions sid with
  | none => exact Or.inl (.refl s)
  | some c =>
    dsimp only
    by_cases hinvited : c.pendingKnightsInvite = 0 ∨ c.pendingKnightsInvite ≠ clanId
    · rw [if_pos hinvited]
      exact Or.inl (.refl s)
    rw [if_neg hinvited]
    set s₁ := s.updateCharacterStats sid fun c => { c with pendingKnightsInvite := 0 } with hs₁
    have hquiet : Quiet s s₁ := quiet_update s sid fun _ => rfl
    have hc₁ : s₁.sessions sid = some { c with pendingKnightsInvite := 0 } := by
      rw [hs₁]
      unfold ClanWorld.updateCharacterStats
      dsimp only
      rw [Function.update_self, hc]
      rfl
    by_cases hclan : 0 < c.knightsId
    · rw [if_pos hclan]
      exact Or.inl hquiet
    rw [if_neg hclan]
    split
    · exact Or.inl hquiet
    · next clan hknights =>
      by_cases hfull : MAX_CLAN_USERS ≤ clan.members
      · rw [if_pos hfull]
        exact Or.inl hquiet
      rw [if_neg hfull]
      refine Or.inr ⟨c, clan, rfl, by omega, hknights, by omega, rfl, ?_, ?_⟩
      · change Function.update s.knights clanId ((s.knights clanId).map _) = _
        rw [show s.knights clanId = some clan from hknights]
        rfl
      · refine hquiet.follows.trans ⟨name_assign _ _ _, rfl, ?_⟩
        exact (h.follows hquiet.follows).online_update hc₁ (assign_of_eq rfl) fun r =>
          assign_of_ne

/-- A clan and its rank are taken from the members of a clan. -/
def expel (clanId : ℕ) (r : UserRow) : UserRow :=
  if r.knights = clanId then { r with knights := 0, fame := 0 } else r

theorem name_expel (clanId : ℕ) (r : UserRow) : (expel clanId r).name = r.name := by
  unfold expel
  split_ifs <;> rfl

theorem handleDestroy_cases (env : KnightsEnv) (sid : ℕ) :
    s.handleDestroy env sid = s ∨
    ∃ c, s.sessions sid = some c ∧ c.fame = CHIEF ∧ c.knightsId ≠ 0 ∧
      (s.handleDestroy env sid).rows = s.rows.filter (fun row => row.idNum ≠ c.knightsId) ∧
      (s.handleDestroy env sid).knights = Function.update s.knights c.knightsId none ∧
      Follows s (s.handleDestroy env sid) (expel c.knightsId) := by
  unfold ClanWorld.handleDestroy
  cases hc : s.sessions sid with
  | none => exact Or.inl rfl
  | some c =>
    dsimp only
    by_cases hchief : c.fame ≠ CHIEF
    · exact Or.inl (if_pos hchief)
    rw [if_neg hchief]
    by_cases hclan : c.knightsId = 0
    · exact Or.inl (if_pos hclan)
    rw [if_neg hclan]
    by_cases hzone : ¬ env.clanUpdates
    · exact Or.inl (if_pos hzone)
    rw [if_neg hzone]
    refine Or.inr ⟨c, rfl, not_not.mp hchief, hclan, rfl, rfl, name_expel _, rfl, fun sid' => ?_⟩
    change ((s.sessions sid').map _).map Clansman.row = ((s.sessions sid').map _).map _
    rw [Option.map_map, Option.map_map]
    refine congrArg (Option.map · _) (funext fun c' => ?_)
    rw [Function.comp_apply, Function.comp_apply]
    unfold expel
    by_cases hmember : c'.knightsId = c.knightsId
    · rw [if_pos hmember]
      exact (if_pos hmember).symm
    · rw [if_neg hmember]
      exact (if_neg hmember).symm

theorem knights_dropMember (clanId : ℕ) :
    (s.dropMember clanId).knights = Function.update s.knights clanId
      ((s.knights clanId).map fun k => { k with members := k.members - 1 }) := by
  unfold ClanWorld.dropMember
  cases hk : s.knights clanId with
  | none =>
    dsimp only
    rw [Option.map_none, ← hk, Function.update_eq_self]
  | some clan =>
    dsimp only
    unfold ClanWorld.updateKnights
    dsimp only
    rw [hk]
    rfl

theorem dropMember_same (clanId : ℕ) : (s.dropMember clanId).users = s.users ∧
    (s.dropMember clanId).rows = s.rows ∧ (s.dropMember clanId).sessions = s.sessions ∧
      (s.dropMember clanId).nameToSession = s.nameToSession := by
  unfold ClanWorld.dropMember
  split <;> exact ⟨rfl, rfl, rfl, rfl⟩

theorem handleWithdraw_cases (h : Registered s) (env : KnightsEnv) (sid : ℕ) :
    s.handleWithdraw env sid = s ∨ s.handleWithdraw env sid = s.handleDestroy env sid ∨
    ∃ c, s.sessions sid = some c ∧ c.fame ≠ CHIEF ∧ c.knightsId ≠ 0 ∧ env.clanUpdates = true ∧
      (s.handleWithdraw env sid).rows = s.rows ∧
      (s.handleWithdraw env sid).knights = (s.dropMember c.knightsId).knights ∧
      Follows s (s.handleWithdraw env sid) (assign c.name 0 0) := by
  unfold ClanWorld.handleWithdraw
  cases hc : s.sessions sid with
  | none => exact Or.inl rfl
  | some c =>
    dsimp only
    by_cases hchief : c.fame = CHIEF
    · exact Or.inr (Or.inl (if_pos hchief))
    rw [if_neg hchief]
    by_cases hclan : c.knightsId = 0
    · exact Or.inl (if_pos hclan)
    rw [if_neg hclan]
    by_cases hcaptain : c.fame = COMMAND_CAPTAIN
    · exact Or.inl (if_pos hcaptain)
    rw [if_neg hcaptain]
    by_cases hzone : ¬ env.clanUpdates
    · exact Or.inl (if_pos hzone)
    rw [if_neg hzone]
    set s₁ := s.updateUserKnights c.name 0 0 with hs₁
    obtain ⟨husers, hrows, hsessions, -⟩ := @dropMember_same s₁ c.knightsId
    refine Or.inr (Or.inr ⟨c, rfl, hchief, hclan, not_not.mp hzone, hrows, ?_, name_assign _ _ _,
      husers, fun sid' => ?_⟩)
    · change (s₁.dropMember c.knightsId).knights = _
      rw [knights_dropMember, knights_dropMember]
      rfl
    · have honline : (s.updateCharacterStats sid fun c => { c with knightsId := 0, fame := 0 }).online
          sid' = (s.online sid').map (assign c.name 0 0) :=
        h.online_update hc (assign_of_eq rfl) (fun r => assign_of_ne) sid'
      unfold ClanWorld.updateCharacterStats ClanWorld.online at honline ⊢
      dsimp only at honline ⊢
      rwa [hsessions]

/-- The session that is found under the name, if any, is that of the character. -/
def ClanWorld.Finds (names : CaseMaps) (s : ClanWorld) (name : List Char) : Prop :=
  ∀ sid c, s.sessions sid = some c → (s.findSessionByName names name = some sid ↔ c.name = name)

structure RemoveGoes (names : CaseMaps) (env : KnightsEnv) (s : ClanWorld) (c : Clansman)
    (targetName : List Char) : Prop where
  alive : env.isPlayerDead = false
  clan : c.knightsId ≠ 0
  chief : c.fame = CHIEF
  other : names.toUppercase targetName ≠ names.toUppercase c.name
  allowed : s.targetRefused names c targetName = false
  zone : env.clanUpdates = true

def strike (name : List Char) (clanId : ℕ) (r : UserRow) : UserRow :=
  if r.name = name then expel clanId r else r

theorem strike_of_eq {name : List Char} {clanId : ℕ} {r : UserRow} (h : r.name = name)
    (h' : r.knights = clanId) : strike name clanId r = { r with knights := 0, fame := 0 } := by
  rw [strike, if_pos h, expel, if_pos h']

theorem strike_of_ne {name : List Char} {clanId : ℕ} {r : UserRow} (h : r.name ≠ name) :
    strike name clanId r = r := if_neg h

theorem name_strike (name : List Char) (clanId : ℕ) (r : UserRow) :
    (strike name clanId r).name = r.name := by
  unfold strike
  split_ifs
  · exact name_expel _ _
  · rfl

theorem online_removed (h : Registered s) {names : CaseMaps} {targetName : List Char}
    (hfinds : s.Finds names targetName) (hallowed : s.targetRefused names c targetName = false)
    (sid : ℕ) :
    (match s.findSessionByName names targetName with
      | none => s
      | some targetSid =>
        s.updateCharacterStats targetSid fun c => { c with knightsId := 0, fame := 0 }).online sid =
      (s.online sid).map (strike targetName c.knightsId) := by
  have hother : (∀ sid tc, s.sessions sid = some tc → tc.name ≠ targetName) →
      s.online sid = (s.online sid).map (strike targetName c.knightsId) := by
    intro hnobody
    unfold ClanWorld.online
    cases htc : s.sessions sid with
    | none => rfl
    | some tc => exact congrArg some (strike_of_ne (hnobody sid tc htc)).symm
  cases hfound : s.findSessionByName names targetName with
  | none =>
    refine hother fun sid' tc htc hname => ?_
    have := (hfinds sid' tc htc).mpr hname
    rw [hfound] at this
    cases this
  | some targetSid =>
    dsimp only
    cases htc : s.sessions targetSid with
    | none =>
      have hsame : s.updateCharacterStats targetSid (fun c => { c with knightsId := 0, fame := 0 }) =
          s := by
        unfold ClanWorld.updateCharacterStats
        rw [htc, Option.map_none, ← htc, Function.update_eq_self]
      rw [hsame]
      refine hother fun sid' tc htc' hname => ?_
      have hsid := (hfinds sid' tc htc').mpr hname
      rw [hfound, Option.some.injEq] at hsid
      rw [← hsid, htc] at htc'
      cases htc'
    | some tc =>
      have hname : tc.name = targetName := (hfinds targetSid tc htc).mp hfound
      have hclan : c.knightsId = tc.knightsId := by
        unfold ClanWorld.targetRefused at hallowed
        rw [hfound, Option.bind_some, htc] at hallowed
        simp only [Bool.or_eq_false_iff, decide_eq_false_iff_not, not_not] at hallowed
        exact hallowed.2
      exact h.online_update htc (strike_of_eq hname hclan.symm)
        (fun r hr => strike_of_ne (hname ▸ hr)) sid

theorem handleRemove_cases (names : CaseMaps) {env : KnightsEnv} (halive : env.isPlayerDead = false)
    (sid : ℕ) (targetName : List Char) :
    s.handleRemove names env sid targetName = s ∨
    ∃ c, s.sessions sid = some c ∧ RemoveGoes names env s c targetName ∧
      (s.handleRemove names env sid targetName).rows = s.rows ∧
      (s.handleRemove names env sid targetName).knights = (s.dropMember c.knightsId).knights ∧
      (s.handleRemove names env sid targetName).users = s.users.map (strike targetName c.knightsId) ∧
      (Registered s → s.Finds names targetName →
        Follows s (s.handleRemove names env sid targetName) (strike targetName c.knightsId)) := by
  unfold ClanWorld.handleRemove
  cases hc : s.sessions sid with
  | none => exact Or.inl rfl
  | some c =>
    dsimp only
    by_cases hclan : c.knightsId = 0
    · exact Or.inl (if_pos hclan)
    rw [if_neg hclan]
    by_cases hchief : c.fame ≠ CHIEF
    · exact Or.inl (if_pos hchief)
    rw [if_neg hchief]
    by_cases hself : names.toUppercase targetName = names.toUppercase c.name
    · exact Or.inl (if_pos hself)
    rw [if_neg hself]
    by_cases hrefused : s.targetRefused names c targetName
    · exact Or.inl (if_pos hrefused)
    rw [if_neg hrefused]
    by_cases hzone : ¬ env.clanUpdates
    · exact Or.inl (if_pos hzone)
    rw [if_neg hzone]
    set s₁ := s.removeFromKnights targetName c.knightsId with hs₁
    have hallowed : s.targetRefused names c targetName = false := Bool.not_eq_true _ ▸ hrefused
    obtain ⟨husers, hrows, hsessions, hindex⟩ := @dropMember_same s₁ c.knightsId
    have hfound : (s₁.dropMember c.knightsId).findSessionByName names targetName =
        s.findSessionByName names targetName := congrFun hindex _
    have hgoes : RemoveGoes names env s c targetName :=
      ⟨halive, hclan, not_not.mp hchief, hself, hallowed, not_not.mp hzone⟩
    have hdropped : (s₁.dropMember c.knightsId).knights = (s.dropMember c.knightsId).knights := by
      rw [knights_dropMember, knights_dropMember]
      rfl
    rw [hfound]
    refine Or.inr ⟨c, rfl, hgoes, ?_⟩
    cases htarget : s.findSessionByName names targetName with
    | none =>
      refine ⟨hrows, hdropped, husers, fun h hfinds => ⟨name_strike _ _, husers, fun sid' => ?_⟩⟩
      have honline := online_removed h hfinds hallowed sid'
      rw [htarget] at honline
      unfold ClanWorld.online at honline ⊢
      dsimp only at honline ⊢
      rwa [hsessions]
    | some targetSid =>
      refine ⟨hrows, hdropped, husers, fun h hfinds => ⟨name_strike _ _, husers, fun sid' => ?_⟩⟩
      have honline := online_removed h hfinds hallowed sid'
      rw [htarget] at honline
      unfold ClanWorld.updateCharacterStats ClanWorld.online at honline ⊢
      dsimp only at honline ⊢
      rwa [hsessions]

structure ClanBooks (s : ClanWorld) : Prop where
  registered : Registered s
  tabled : Tabled s
  led : Led s
  exact : MembersExact s

theorem Follows.congr (h : Registered s) (hf : Follows s s' g) {g' : UserRow → UserRow}
    (hname : ∀ r, (g' r).name = r.name) (hg : ∀ r ∈ s.users, g r = g' r) : Follows s s' g' := by
  refine ⟨hname, ?_, fun sid => ?_⟩
  · rw [hf.users]
    exact List.map_congr_left hg
  · rw [hf.online]
    cases hr : s.online sid with
    | none => rfl
    | some r => exact congrArg some (hg r (h.mem sid r hr))

/-- The target of a removal is a member: its row, and only that, goes. -/
theorem Registered.strike_eq_assign (h : Registered s) {u : UserRow} (hu : u ∈ s.users)
    (hf : Follows s s' (strike u.name u.knights)) : Follows s s' (assign u.name 0 0) := by
  refine hf.congr h (name_assign _ _ _) fun r hr => ?_
  by_cases hname : r.name = u.name
  · obtain rfl := Rows.eq_of_key h.nodup hr hu hname
    rw [strike_of_eq rfl rfl, assign_of_eq rfl]
  · rw [strike_of_ne hname, assign_of_ne hname]

theorem Tabled.quiet (h : Tabled s) (hq : Quiet s s') : Tabled s' := by
  refine ⟨?_, fun id => ?_⟩
  · rw [hq.knights]
    exact h.zero
  · rw [hq.knights, hq.rows]
    exact h.row id

theorem ClanBooks.quiet (h : ClanBooks s) (hq : Quiet s s') : ClanBooks s' := by
  have husers : s'.users = s.users := by rw [hq.follows.users, List.map_id]
  refine ⟨h.registered.follows hq.follows, h.tabled.quiet hq, fun id => ?_, fun id => ?_, ?_⟩
  · rw [hq.knights, husers]
    exact h.led id
  · rw [hq.knights]
    unfold ClanWorld.memberCount
    rw [husers]
    exact h.exact.count id
  · unfold NoneAstray
    rw [hq.knights, husers]
    exact h.exact.noneAstray

theorem Tabled.ne_zero (h : Tabled s) {id : ℕ} (hk : s.knights id ≠ none) : id ≠ 0 := by
  rintro rfl
  exact hk h.zero

/-- A clan of the table is rewritten. -/
theorem knights_update_iff {id : ℕ} {k : KnightsInfo}
    (hknights : s'.knights = Function.update s.knights id (some k)) (hk : s.knights id ≠ none)
    (id' : ℕ) : s.knights id' ≠ none ↔ s'.knights id' ≠ none := by
  rw [hknights]
  by_cases heq : id' = id
  · rw [heq, Function.update_self]
    exact iff_of_true hk (Option.some_ne_none k)
  · rw [Function.update_of_ne heq]

theorem Tabled.update (h : Tabled s) (hrows : s'.rows = s.rows) {id : ℕ} {k : KnightsInfo}
    (hknights : s'.knights = Function.update s.knights id (some k)) (hk : s.knights id ≠ none) :
    Tabled s' := by
  have hiff := knights_update_iff hknights hk
  refine ⟨?_, fun id' hid' => ?_⟩
  · by_contra hzero
    exact h.ne_zero ((hiff 0).mpr hzero) rfl
  · rw [hrows]
    exact h.row id' ((hiff id').mpr hid')

theorem NoneAstray.assign (h : NoneAstray s) {u : UserRow} (hu : u ∈ s.users) {clanId fame : ℕ}
    (hf : Follows s s' (assign u.name clanId fame)) (hclan : clanId ≠ 0 → s'.knights clanId ≠ none)
    (hkeep : ∀ id, s.knights id ≠ none → s'.knights id ≠ none) : NoneAstray s' := by
  intro r hr hne
  rcases (mem_assign hu hf).mp hr with ⟨hr, -⟩ | rfl
  · exact hkeep _ (h r hr hne)
  · exact hclan hne

theorem ClanBooks.assign (h : ClanBooks s) {u : UserRow} (hu : u ∈ s.users) {clanId fame : ℕ}
    (hf : Follows s s' (assign u.name clanId fame)) (ht : Tabled s')
    (hcount : ∀ id k', s'.knights id = some k' → 1 ≤ k'.members ∧ k'.members ≤ MAX_CLAN_USERS ∧
      k'.members + (if u.knights = id then 1 else 0) =
        s.memberCount id + if clanId = id then 1 else 0)
    (hled : ∀ id k', s'.knights id = some k' → clanId = id ∧ fame = CHIEF ∨
      ∃ v ∈ s.users, v.name ≠ u.name ∧ v.knights = id ∧ v.fame = CHIEF)
    (hclan : clanId ≠ 0 → s'.knights clanId ≠ none)
    (hkeep : ∀ id, s.knights id ≠ none → s'.knights id ≠ none) : ClanBooks s' := by
  have hmem := @mem_assign s s' u hu clanId fame hf
  refine ⟨h.registered.follows hf, ht, fun id k' hk' => ?_, fun id k' hk' => ?_,
    h.exact.noneAstray.assign hu hf hclan hkeep⟩
  · rcases hled id k' hk' with ⟨rfl, rfl⟩ | ⟨v, hv, hname, hid, hchief⟩
    · exact ⟨_, hmem.mpr (Or.inr rfl), rfl, rfl⟩
    · exact ⟨v, hmem.mpr (Or.inl ⟨hv, hname⟩), hid, hchief⟩
  · obtain ⟨hpos, hle, hmoved⟩ := hcount id k' hk'
    have hcount' := h.registered.count_assign hu hf id
    exact ⟨by omega, hpos, hle⟩

theorem founded_table (h : Tabled s) {info : KnightsInfo} (hfounded : Founded c info)
    {clanName : List Char}
    (hrows : s'.rows = ⟨info.id, clanName⟩ :: s.rows)
    (hknights : s'.knights = Function.update s.knights info.id (some info)) :
    Tabled s' ∧ (∀ id, s.knights id ≠ none → s'.knights id ≠ none) ∧ s'.knights info.id ≠ none := by
  have hsome : s'.knights info.id ≠ none := by
    rw [hknights, Function.update_self]
    exact Option.some_ne_none _
  refine ⟨⟨?_, fun id hid => ?_⟩, fun id hid => ?_, hsome⟩
  · rw [hknights, Function.update_of_ne hfounded.id_pos.ne]
    exact h.zero
  · rw [hrows, List.map_cons, List.mem_cons]
    by_cases heq : id = info.id
    · exact Or.inl heq
    · rw [hknights, Function.update_of_ne heq] at hid
      exact Or.inr (h.row id hid)
  · by_cases heq : id = info.id
    · rwa [heq]
    · rwa [hknights, Function.update_of_ne heq]

theorem ClanBooks.create (h : ClanBooks s) (env : KnightsEnv) (sid : ℕ) (clanName : List Char) :
    ClanBooks (s.handleCreate env sid clanName) := by
  rcases handleCreate_cases h.registered env sid clanName with
    hsame | ⟨c, info, hc, hfree, hfounded, hnew, hrows, hknights, hf⟩
  · rw [hsame]
    exact h
  have hfree' : c.row.knights = 0 := hfree
  have hnone : s.knights info.id = none := by
    by_contra hne
    exact hnew (h.tabled.row _ hne)
  have hzero : s.memberCount info.id = 0 := by
    refine List.countP_eq_zero.mpr fun u hu => ?_
    rw [decide_eq_true_eq]
    intro hid
    have := hfounded.id_pos
    exact h.exact.noneAstray u hu (by omega) (hid ▸ hnone)
  obtain ⟨ht, hkeep, hsome⟩ := founded_table h.tabled hfounded hrows hknights
  refine h.assign (h.registered.row_mem hc) hf ht ?_ ?_ (fun _ => hsome) hkeep <;> rw [hknights]
  · intro id k' hk'
    by_cases hid : id = info.id
    · subst hid
      rw [Function.update_self, Option.some.injEq] at hk'
      subst hk'
      rw [hfounded.members, hzero, if_pos rfl, if_neg (hfree'.trans_ne hfounded.id_pos.ne)]
      exact ⟨le_rfl, by decide, rfl⟩
    · rw [Function.update_of_ne hid] at hk'
      obtain ⟨hcount, hpos, hle⟩ := h.exact.count id k' hk'
      have hne := h.tabled.ne_zero (hk' ▸ Option.some_ne_none k')
      rw [if_neg (Ne.symm hid), if_neg (hfree'.trans_ne hne.symm)]
      exact ⟨hpos, hle, hcount⟩
  · intro id k' hk'
    by_cases hid : id = info.id
    · exact Or.inl ⟨hid.symm, rfl⟩
    · rw [Function.update_of_ne hid] at hk'
      obtain ⟨v, hv, hclan, hchief⟩ := h.led id k' hk'
      refine Or.inr ⟨v, hv, fun hname => ?_, hclan, hchief⟩
      have hsame := Rows.eq_of_key h.registered.nodup hv (h.registered.row_mem hc) hname
      rw [hsame] at hclan
      exact h.tabled.ne_zero (hk' ▸ Option.some_ne_none k') (hclan.symm.trans hfree)

theorem ClanBooks.joinReq (h : ClanBooks s) (sid response clanId : ℕ) :
    ClanBooks (s.handleJoinReq sid response clanId) := by
  rcases handleJoinReq_cases h.registered sid response clanId with
    hquiet | ⟨c, clan, hc, hfree, hclan, hroom, hrows, hknights, hf⟩
  · exact h.quiet hquiet
  have hfree' : c.row.knights = 0 := hfree
  have hne : clanId ≠ 0 := h.tabled.ne_zero (hclan ▸ Option.some_ne_none clan)
  have hsome : s.knights clanId ≠ none := hclan ▸ Option.some_ne_none clan
  have hkeep := knights_update_iff hknights hsome
  refine h.assign (h.registered.row_mem hc) hf (h.tabled.update hrows hknights hsome) ?_ ?_ ?_ fun id =>
    (hkeep id).mp
  · intro id k' hk'
    rw [hknights] at hk'
    by_cases hid : id = clanId
    · subst hid
      rw [Function.update_self, Option.some.injEq] at hk'
      subst hk'
      obtain ⟨hcount, hpos, hle⟩ := h.exact.count id clan hclan
      rw [if_pos rfl, if_neg (hfree'.trans_ne hne.symm)]
      dsimp only
      omega
    · rw [Function.update_of_ne hid] at hk'
      obtain ⟨hcount, hpos, hle⟩ := h.exact.count id k' hk'
      have hne' := h.tabled.ne_zero (hk' ▸ Option.some_ne_none k')
      rw [if_neg (Ne.symm hid), if_neg (hfree'.trans_ne hne'.symm)]
      exact ⟨hpos, hle, hcount⟩
  · intro id k' hk'
    have hold : s.knights id ≠ none := (hkeep id).mpr (hk' ▸ Option.some_ne_none k')
    obtain ⟨k, hk⟩ := Option.ne_none_iff_exists'.mp hold
    obtain ⟨v, hv, hmember, hchief⟩ := h.led id k hk
    refine Or.inr ⟨v, hv, fun hname => ?_, hmember, hchief⟩
    have hsame := Rows.eq_of_key h.registered.nodup hv (h.registered.row_mem hc) hname
    rw [hsame] at hmember
    exact h.tabled.ne_zero hold (hmember.symm.trans hfree)
  · intro _
    exact (hkeep clanId).mp hsome

/-- A member leaves whom the chief outlives. -/
theorem ClanBooks.leave (h : ClanBooks s) {u : UserRow} (hu : u ∈ s.users) (hne : u.knights ≠ 0)
    (hf : Follows s s' (KoServer.assign u.name 0 0)) (hrows : s'.rows = s.rows)
    (hknights : s'.knights = (s.dropMember u.knights).knights)
    (hother : ∃ v ∈ s.users, v.name ≠ u.name ∧ v.knights = u.knights ∧ v.fame = CHIEF) :
    ClanBooks s' := by
  obtain ⟨k, hk⟩ := Option.ne_none_iff_exists'.mp (h.exact.noneAstray u hu hne)
  obtain ⟨v, hv, hname, hclan, hchief⟩ := hother
  have hknights' : s'.knights =
      Function.update s.knights u.knights (some { k with members := k.members - 1 }) := by
    rw [hknights, knights_dropMember, hk]
    rfl
  have hsome : s.knights u.knights ≠ none := hk ▸ Option.some_ne_none k
  have hkeep := knights_update_iff hknights' hsome
  have hleft : 1 ≤ s'.memberCount u.knights := by
    refine List.countP_pos_iff.mpr ⟨v, ?_, decide_eq_true hclan⟩
    exact (mem_assign hu hf).mpr (Or.inl ⟨hv, hname⟩)
  have hcount' := h.registered.count_assign hu hf u.knights
  rw [if_pos rfl, if_neg hne.symm] at hcount'
  refine h.assign hu hf (h.tabled.update hrows hknights' hsome) ?_ ?_
    (fun hzero => absurd rfl hzero) fun id => (hkeep id).mp
  · intro id k' hk'
    have hne' : (0 : ℕ) ≠ id := fun heq => by
      rw [hknights', ← heq, Function.update_of_ne hne.symm, h.tabled.zero] at hk'
      cases hk'
    rw [hknights'] at hk'
    rw [if_neg hne']
    by_cases hid : id = u.knights
    · subst hid
      rw [Function.update_self, Option.some.injEq] at hk'
      subst hk'
      obtain ⟨hcount, hpos, hle⟩ := h.exact.count _ k hk
      rw [if_pos rfl]
      dsimp only
      omega
    · rw [Function.update_of_ne hid] at hk'
      obtain ⟨hcount, hpos, hle⟩ := h.exact.count id k' hk'
      rw [if_neg (Ne.symm hid)]
      exact ⟨hpos, hle, hcount⟩
  · intro id k' hk'
    refine Or.inr ?_
    by_cases hid : id = u.knights
    · exact ⟨v, hv, hname, hclan.trans hid.symm, hchief⟩
    · rw [hknights', Function.update_of_ne hid] at hk'
      obtain ⟨w, hw, hmember, hchief'⟩ := h.led id k' hk'
      refine ⟨w, hw, fun hsame => hid ?_, hmember, hchief'⟩
      rw [← hmember, Rows.eq_of_key h.registered.nodup hw hu hsame]

/-- What is left of the table and the rows once a clan is gone. -/
theorem destroyed (ht : Tabled s) (hastray : NoneAstray s) {clanId : ℕ}
    (hrows : s'.rows = s.rows.filter fun row => row.idNum ≠ clanId)
    (hknights : s'.knights = Function.update s.knights clanId none)
    (hf : Follows s s' (expel clanId)) :
    Tabled s' ∧ NoneAstray s' ∧ ∀ id k', s'.knights id = some k' →
      id ≠ clanId ∧ s.knights id = some k' ∧ ∀ r, r.knights = id → (r ∈ s'.users ↔ r ∈ s.users) := by
  have hstay : ∀ id k', s'.knights id = some k' → id ≠ clanId ∧ s.knights id = some k' := by
    intro id k' hk'
    rw [hknights] at hk'
    by_cases hid : id = clanId
    · rw [hid, Function.update_self] at hk'
      cases hk'
    · rw [Function.update_of_ne hid] at hk'
      exact ⟨hid, hk'⟩
  refine ⟨⟨?_, fun id hid => ?_⟩, fun r hr hne => ?_, fun id k' hk' => ?_⟩
  · rw [hknights]
    by_cases hzero : 0 = clanId
    · rw [← hzero, Function.update_self]
    · rw [Function.update_of_ne hzero]
      exact ht.zero
  · obtain ⟨k', hk'⟩ := Option.ne_none_iff_exists'.mp hid
    obtain ⟨hother, hk⟩ := hstay id k' hk'
    obtain ⟨row, hrow, rfl⟩ := List.mem_map.mp (ht.row id (hk ▸ Option.some_ne_none k'))
    rw [hrows]
    exact List.mem_map_of_mem (List.mem_filter.mpr ⟨hrow, decide_eq_true hother⟩)
  · rw [hf.users] at hr
    obtain ⟨r', hr', rfl⟩ := List.mem_map.mp hr
    unfold expel at hne ⊢
    split_ifs at hne ⊢ with hmember
    · exact absurd rfl hne
    · rw [hknights, Function.update_of_ne hmember]
      exact hastray r' hr' hne
  · obtain ⟨hother, hk⟩ := hstay id k' hk'
    refine ⟨hother, hk, fun r hclan => ?_⟩
    rw [hf.users, List.mem_map]
    constructor
    · rintro ⟨r', hr', rfl⟩
      unfold expel at hclan ⊢
      split_ifs at hclan ⊢
      · exact absurd hclan.symm (ht.ne_zero (hk ▸ Option.some_ne_none k'))
      · exact hr'
    · intro hr
      exact ⟨r, hr, if_neg fun heq => hother (hclan.symm.trans heq)⟩

theorem ClanBooks.destroy (h : ClanBooks s) (env : KnightsEnv) (sid : ℕ) :
    ClanBooks (s.handleDestroy env sid) := by
  rcases handleDestroy_cases env sid with hsame | ⟨c, hc, hchief, hclan, hrows, hknights, hf⟩
  · rw [hsame]
    exact h
  obtain ⟨ht, hastray, hstay⟩ := destroyed h.tabled h.exact.noneAstray hrows hknights hf
  refine ⟨h.registered.follows hf, ht, fun id k' hk' => ?_, fun id k' hk' => ?_, hastray⟩
  · obtain ⟨-, hk, hmem⟩ := hstay id k' hk'
    obtain ⟨v, hv, rfl, hchief'⟩ := h.led id k' hk
    exact ⟨v, (hmem v rfl).mpr hv, rfl, hchief'⟩
  · obtain ⟨hother, hk, -⟩ := hstay id k' hk'
    obtain ⟨hcount, hpos, hle⟩ := h.exact.count id k' hk
    have hzero := h.tabled.ne_zero (hk ▸ Option.some_ne_none k')
    refine ⟨hcount.trans ?_, hpos, hle⟩
    unfold ClanWorld.memberCount
    rw [hf.users, List.countP_map]
    refine List.countP_congr fun r _ => ?_
    rw [Function.comp_apply, decide_eq_true_eq, decide_eq_true_eq]
    unfold expel
    split_ifs with hmember
    · exact iff_of_false (fun heq => hother (heq.symm.trans hmember)) hzero.symm
    · exact Iff.rfl

theorem ClanBooks.withdraw (h : ClanBooks s) (env : KnightsEnv) (sid : ℕ) :
    ClanBooks (s.handleWithdraw env sid) := by
  rcases handleWithdraw_cases h.registered env sid with
    hsame | hsame | ⟨c, hc, hchief, hclan, -, hrows, hknights, hf⟩
  · rw [hsame]
    exact h
  · rw [hsame]
    exact h.destroy env sid
  have hu := h.registered.row_mem hc
  refine h.leave hu hclan hf hrows hknights ?_
  obtain ⟨k, hk⟩ := Option.ne_none_iff_exists'.mp (h.exact.noneAstray c.row hu hclan)
  obtain ⟨v, hv, hmember, hchief'⟩ := h.led _ k hk
  refine ⟨v, hv, fun hname => hchief ?_, hmember, hchief'⟩
  rw [Rows.eq_of_key h.registered.nodup hv hu hname] at hchief'
  exact hchief'

/-- A removal that passes its checks names a member of the clan, letter for letter, and the session
that is found under the name, if any, is the member's. -/
def NamesMember (names : CaseMaps) (s : ClanWorld) (step : ClanStep MembershipRequest) : Prop :=
  match step.request with
  | .remove targetName => ∀ c, s.sessions step.sid = some c → RemoveGoes names step.env s c targetName →
    (∃ u ∈ s.users, u.name = targetName ∧ u.knights = c.knightsId) ∧ s.Finds names targetName
  | _ => True

theorem ClanBooks.membership (h : ClanBooks s) {names : CaseMaps} {step : ClanStep MembershipRequest}
    (hok : NamesMember names s step) : ClanBooks (s.membership names step) := by
  unfold ClanWorld.membership
  by_cases hdead : step.env.isPlayerDead
  · rwa [if_pos hdead]
  rw [if_neg hdead]
  unfold NamesMember at hok
  cases hrequest : step.request with
  | create clanName => exact h.create step.env step.sid clanName
  | join target => exact h.quiet (handleJoin_quiet step.env step.sid target)
  | joinReq response clanId => exact h.joinReq step.sid response clanId
  | withdraw => exact h.withdraw step.env step.sid
  | destroy => exact h.destroy step.env step.sid
  | remove targetName =>
    rw [hrequest] at hok
    dsimp only at hok ⊢
    rcases handleRemove_cases names (Bool.not_eq_true _ ▸ hdead) step.sid targetName with
      hsame | ⟨c, hc, hgoes, hrows, hknights, -, hf⟩
    · rw [hsame]
      exact h
    obtain ⟨⟨u, hu, rfl, hclan⟩, hfinds⟩ := hok c hc hgoes
    have hf' := hf h.registered hfinds
    rw [← hclan] at hf' hknights
    refine h.leave hu (hclan.trans_ne hgoes.clan) (h.registered.strike_eq_assign hu hf') hrows
      hknights ⟨c.row, h.registered.row_mem hc, fun hname => hgoes.other ?_, hclan.symm, hgoes.chief⟩
    exact congrArg names.toUppercase hname.symm

/-- The count of every clan stays exact in a run whose removals name members. -/
theorem membersExact_run {names : CaseMaps} (h : ClanBooks s)
    {steps : List (ClanStep MembershipRequest)}
    (hok : Run.Along (ClanWorld.membership names) (NamesMember names) s steps) :
    Run.Along (ClanWorld.membership names)
      (fun s step => MembersExact (s.membership names step)) s steps :=
  Run.along_of_invariant ClanBooks
    (fun _ _ h hok => ⟨h.membership hok, (h.membership hok).exact⟩) hok h

def asciiCase : CaseMaps := ⟨(·.map Char.toLower), (·.map Char.toUpper)⟩

/-- A living player in an open zone, with nothing else under way. -/
def calm : KnightsEnv := ⟨false, false, true, false, false⟩

def ann : Clansman := ⟨['A', 'n', 'n'], 1, 30, 500000, 0, 0, 0⟩

/-- Ann is online and Cid is not; nobody is in a clan. -/
def village : ClanWorld where
  users := [⟨['A', 'n', 'n'], 0, 0⟩, ⟨['C', 'i', 'd'], 0, 0⟩]
  rows := []
  sessions := fun sid => if sid = 1 then some ann else none
  nameToSession := fun name => if name = ['a', 'n', 'n'] then some 1 else none
  knights := fun _ => none

theorem clanBooks_village : ClanBooks village := by
  have honline : ∀ sid r, village.online sid = some r → sid = 1 ∧ r = ⟨['A', 'n', 'n'], 0, 0⟩ := by
    intro sid r hr
    unfold ClanWorld.online village at hr
    dsimp only at hr
    split_ifs at hr with hsid
    · exact ⟨hsid, (Option.some.inj hr).symm⟩
    · cases hr
  refine ⟨⟨by decide, fun sid r hr => ?_, fun sid sid' r r' hr hr' _ => ?_⟩, ⟨rfl, fun id hid => ?_⟩,
    fun id k hk => ?_, fun id k hk => ?_, fun r hr hne => ?_⟩
  · rw [(honline sid r hr).2]
    exact List.mem_cons_self
  · rw [(honline sid r hr).1, (honline sid' r' hr').1]
  · exact absurd rfl hid
  · cases hk
  · cases hk
  · have hfree : ∀ r ∈ village.users, r.knights = 0 := by decide
    exact absurd (hfree r hr) hne

theorem membersExact_village :
    Run.Along (ClanWorld.membership asciiCase)
      (fun s step => MembersExact (s.membership asciiCase step)) village
      [⟨1, calm, .create ['L']⟩, ⟨1, calm, .withdraw⟩] :=
  membersExact_run clanBooks_village ⟨trivial, trivial, trivial⟩

/-- Cid is in no clan, and Ann's clan counts nobody after his removal. -/
theorem not_membersExact_remove :
    ¬ Run.Along (ClanWorld.membership asciiCase)
      (fun s step => MembersExact (s.membership asciiCase step)) village
      [⟨1, calm, .create ['L']⟩, ⟨1, calm, .remove ['C', 'i', 'd']⟩] := by
  rintro ⟨-, h, -⟩
  let s := (village.membership asciiCase ⟨1, calm, .create ['L']⟩).membership asciiCase
    ⟨1, calm, .remove ['C', 'i', 'd']⟩
  have hclan : (s.knights 1).map KnightsInfo.members = some 0 := by decide +kernel
  obtain ⟨k, hk, hmembers⟩ := Option.map_eq_some_iff.mp hclan
  have hpos := (h.count 1 k hk).2.1
  omega

end KoServer
