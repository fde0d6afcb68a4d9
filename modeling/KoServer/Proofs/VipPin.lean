import KoServer.Proofs.VipWarehouse

/-! Whether the PIN protects the vault. No request but ENTER_PASSWORD compares it with what it
carries, and ENTER_PASSWORD opens nothing. -/

namespace KoServer

variable {table : ItemTable} {env : VipEnv} {s : VipSession} {item : Item}
  {src dst : UserItemSlot} {req : VipItemRequest}

def VipRequest.password : VipRequest → Option (List Char)
  | .open _ password => some password
  | .setPassword password => some password
  | .changePassword password => some password
  | .enterPassword password => some password
  | _ => none

def Locked (s : VipSession) (i : VipEnv × VipRequest) : Prop :=
  i.2.password ≠ some s.vipPassword

instance (s : VipSession) (i : VipEnv × VipRequest) : Decidable (Locked s i) :=
  inferInstanceAs (Decidable (i.2.password ≠ some s.vipPassword))

/-- No unit leaves the vault, and PIN and request flag stay. -/
structure Protects (table : ItemTable) (s : VipSession) (i : VipEnv × VipRequest) : Prop where
  kept : ∀ id ≠ 0, s.inVault (stack id) ≤ (vipStep table s i).inVault (stack id)
  pin : (vipStep table s i).vipPassword = s.vipPassword
  request : (vipStep table s i).vipPasswordRequest = s.vipPasswordRequest

/-- A transfer to the bag, a CANCEL, and a SET or a CHANGE with a well-formed PIN are turned away,
and no transfer to the vault finds a stack past the limit. -/
def PinHolds (table : ItemTable) (s : VipSession) (i : VipEnv × VipRequest) : Prop :=
  match i.2 with
  | .invenToStorage req => ∀ item src, StoreAllowed table i.1 s req item src →
      (s.vipSlot (req.referencePos + req.dstPos)).itemId ≠ 0 →
      (s.vipSlot (req.referencePos + req.dstPos)).count ≤ ITEMCOUNT_MAX
  | .storageToInven req => ∀ item dst, FetchAllowed table i.1 s req item dst → req.itemId = 0
  | .setPassword password => ¬ (i.1.admits ∧ isValidPin password = true)
  | .cancelPassword => ¬ i.1.admits
  | .changePassword password => ¬ (i.1.admits ∧ isValidPin password = true)
  | _ => True

theorem storeDone_keeps (h : StoreAllowed table env s req item src) :
    (∀ id ≠ 0, s.inVault (stack id) ≤ (storeDone env s req item src).inVault (stack id)) ↔
      ((s.vipSlot (req.referencePos + req.dstPos)).itemId ≠ 0 →
        (s.vipSlot (req.referencePos + req.dstPos)).count ≤ ITEMCOUNT_MAX) := by
  have hset := fun id => inVault_setItems (s := s) (stack id)
    (s.inventory.set (SLOT_MAX + req.srcPos) (vipSource item req.count src)) h.vipIdx_lt
    (storedItem item req.count env.nextItemSerial src
      (vipCleared (s.vipSlot (req.referencePos + req.dstPos))))
  have hcount := @storedItem_count item src (vipCleared (s.vipSlot (req.referencePos + req.dstPos)))
    req.count env.nextItemSerial
  have hfree := of_destinationTaken h.free
  unfold storeDone
  dsimp only
  generalize s.vipSlot (req.referencePos + req.dstPos) = dst at *
  constructor
  · intro hkept hid
    obtain ⟨hpos, hsame⟩ := hfree.resolve_left hid
    have hle := hkept dst.itemId hid
    have heq := hset dst.itemId
    have harrived : stack dst.itemId (storedItem item req.count env.nextItemSerial src
        (vipCleared dst)) = _ := stack_of_same hsame.symm
    rw [stack_of_same rfl, harrived, hcount, unitsLanded, if_pos hpos, vipCleared_count hid] at heq
    omega
  · intro hlimit id hid
    have heq := hset id
    by_cases hdst : dst.itemId = id
    · subst hdst
      obtain ⟨hpos, hsame⟩ := hfree.resolve_left hid
      have := hlimit hid
      have harrived : stack dst.itemId (storedItem item req.count env.nextItemSerial src
          (vipCleared dst)) = _ := stack_of_same hsame.symm
      rw [stack_of_same rfl, harrived, hcount, unitsLanded, if_pos hpos,
        vipCleared_count hid] at heq
      omega
    · rw [stack_of_other rfl (Ne.symm hdst)] at heq
      omega

theorem fetchDone_keeps (h : FetchAllowed table env s req item dst) :
    (∀ id ≠ 0, s.inVault (stack id) ≤ (fetchDone env s req item dst).inVault (stack id)) ↔
      req.itemId = 0 := by
  have hset := fun id => inVault_setItems (s := s) (stack id)
    (s.inventory.set (SLOT_MAX + req.dstPos) (storedItem item req.count env.nextItemSerial
      (s.vipSlot (req.referencePos + req.srcPos)) dst)) h.vipIdx_lt
    (vipSource item req.count (vipCleared (s.vipSlot (req.referencePos + req.srcPos))))
  have hholds := h.holds
  have henough := h.enough
  have hcounted := h.counted
  unfold fetchDone
  dsimp only
  generalize s.vipSlot (req.referencePos + req.srcPos) = src at *
  constructor
  · intro hkept
    by_contra hid
    have hle := hkept req.itemId hid
    have heq := hset req.itemId
    have hcleared : vipCleared src = src := vipCleared_of_count (hholds ▸ hid) (by omega)
    have hless : stack req.itemId (vipSource item req.count (vipCleared src)) < src.count := by
      rw [hcleared, vipSource_eq henough]
      split_ifs
      · have hleft : stack req.itemId { src with count := src.count - req.count } =
            src.count - req.count := stack_of_same hholds
        omega
      · rw [stack_of_other rfl hid]
        omega
    rw [stack_of_same hholds] at heq
    omega
  · intro hzero id hid
    have heq := hset id
    rw [stack_of_other hholds (hzero ▸ hid)] at heq
    omega

theorem protects_iff (hpin : isValidPin s.vipPassword = true) {i : VipEnv × VipRequest}
    (hlocked : Locked s i) : Protects table s i ↔ PinHolds table s i := by
  obtain ⟨env, req⟩ := i
  have heffect := handleVip_effect table env s req
  have hstep : vipStep table s (env, req) = (handleVip table env s req).2 := rfl
  rw [Locked] at hlocked
  generalize handleVip table env s req = result at heffect hstep
  cases heffect with
  | unchanged answer h =>
    refine iff_of_true ⟨fun id _ => by rw [hstep], by rw [hstep], by rw [hstep]⟩ ?_
    cases req with
    | invenToStorage req => exact fun item src hallowed => absurd ⟨item, src, hallowed⟩ h
    | storageToInven req => exact fun item dst hallowed => absurd ⟨item, dst, hallowed⟩ h
    | setPassword password => exact h
    | cancelPassword => exact h
    | changePassword password => exact h
    | _ => trivial
  | @stored req item src h =>
    have hkeeps := storeDone_keeps h
    constructor
    · rintro ⟨hkept, -, -⟩ item' src' h' hid
      rw [hstep] at hkept
      exact hkeeps.mp hkept hid
    · intro hholds
      refine ⟨?_, by rw [hstep]; rfl, by rw [hstep]; rfl⟩
      rw [hstep]
      exact hkeeps.mpr (hholds item src h)
  | @fetched req item dst h =>
    have hkeeps := fetchDone_keeps h
    constructor
    · rintro ⟨hkept, -, -⟩ item' dst' h'
      rw [hstep] at hkept
      exact hkeeps.mp hkept
    · intro hholds
      refine ⟨?_, by rw [hstep]; rfl, by rw [hstep]; rfl⟩
      rw [hstep]
      exact hkeeps.mpr (hholds item dst h)
  | moved hsrc hdst hempty =>
    refine iff_of_true ⟨fun id hid => ?_, by rw [hstep]; rfl, by rw [hstep]; rfl⟩ trivial
    rw [hstep]
    exact (inVault_moved (fun a ha => stack_of_other ha hid) _ _ hsrc hdst hempty).ge
  | swapped hsrc hdst =>
    exact iff_of_true ⟨fun id _ => by rw [hstep]; exact le_rfl, by rw [hstep], by rw [hstep]⟩
      trivial
  | keyed inventory expiry =>
    exact iff_of_true ⟨fun id _ => by rw [hstep]; exact le_rfl, by rw [hstep], by rw [hstep]⟩
      trivial
  | @set password h hvalid =>
    refine iff_of_false (fun hprotects => ?_) (not_not.mpr ⟨h, hvalid⟩)
    have hsame := hprotects.pin
    rw [hstep] at hsame
    exact hlocked (congrArg some hsame)
  | cancelled h =>
    refine iff_of_false (fun hprotects => ?_) (not_not.mpr h)
    have hsame := hprotects.pin
    rw [hstep] at hsame
    have hempty : s.vipPassword = [] := hsame.symm
    rw [hempty] at hpin
    exact absurd hpin (by decide)
  | @changed password h hvalid =>
    refine iff_of_false (fun hprotects => ?_) (not_not.mpr ⟨h, hvalid⟩)
    have hsame := hprotects.pin
    rw [hstep] at hsame
    exact hlocked (congrArg some hsame)

/-- Without the PIN, a run of requests leaves the vault and the PIN alone just where each of its
requests meets the condition. -/
theorem vault_protected_iff (table : ItemTable) {s : VipSession}
    {steps : List (VipEnv × VipRequest)} (hpin : isValidPin s.vipPassword = true)
    (hrequest : s.vipPasswordRequest ≠ 0)
    (hlocked : Run.Along (vipStep table) Locked s steps) :
    Run.Along (vipStep table) (Protects table) s steps ↔
      Run.Along (vipStep table) (PinHolds table) s steps := by
  have hcongr : Run.Along (vipStep table) (fun s i => Protects table s i ∧ Locked s i) s steps ↔
      Run.Along (vipStep table) (fun s i => PinHolds table s i ∧ Locked s i) s steps :=
    Run.along_congr (fun s => isValidPin s.vipPassword = true ∧ s.vipPasswordRequest ≠ 0)
      (fun s i h hi => by rw [hi.1.pin, hi.1.request]; exact h)
      (fun s i h => and_congr_left (protects_iff h.1)) ⟨hpin, hrequest⟩
  rw [Run.along_and, Run.along_and] at hcongr
  exact ⟨fun h => (hcongr.mp ⟨h, hlocked⟩).1, fun h => (hcongr.mpr ⟨h, hlocked⟩).1⟩

/-- A vault with a PIN and its request flag set, and five potions in its first slot. -/
def potionVault : VipSession where
  inventory := List.replicate INVENTORY_TOTAL {}
  vipWarehouse :=
    { itemId := 389010000, count := 5, serialNum := 7 } :: List.replicate 47 ({} : UserItemSlot)
  vipWarehouse_length := by rw [List.length_cons, List.length_replicate]; rfl
  vipPassword := ['1', '2', '3', '4']
  vipPasswordRequest := 1
  vipVaultExpiry := 0

theorem vault_protected_guess :
    Run.Along (vipStep potionTable) (Protects potionTable) potionVault
      [(idleVip, .open 1 []), (idleVip, .enterPassword ['0', '0', '0', '0'])] :=
  (@vault_protected_iff potionTable potionVault
    [(idleVip, .open 1 []), (idleVip, .enterPassword ['0', '0', '0', '0'])]
    (by decide) (by decide) ⟨by decide, by decide, trivial⟩).mpr ⟨trivial, trivial, trivial⟩

/-- The potions are taken out without the PIN. -/
theorem vault_opens_without_pin :
    ¬ ∀ (table : ItemTable) (s : VipSession) (steps : List (VipEnv × VipRequest)),
      isValidPin s.vipPassword = true → s.vipPasswordRequest ≠ 0 →
      Run.Along (vipStep table) Locked s steps →
        Run.Along (vipStep table) (Protects table) s steps := by
  intro h
  obtain ⟨hprotects, -⟩ := h potionTable potionVault
    [(idleVip, .storageToInven
      { itemId := 389010000, page := 0, srcPos := 0, dstPos := 0, count := 5 })]
    (by decide) (by decide) ⟨nofun, trivial⟩
  have hkept := hprotects.kept 389010000 (by decide)
  exact absurd hkept (by decide +kernel)

end KoServer
