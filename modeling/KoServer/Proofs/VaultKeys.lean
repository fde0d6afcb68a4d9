import KoServer.Proofs.VipWarehouse

/-! Uses of vault keys. A use empties the slot of the key and counts the days of the key from now, so
that it takes one key and keeps the vault open at least as long only for a single key with no fewer
days than the vault still has. -/

namespace KoServer

variable {table : ItemTable} {env : VipEnv} {s : VipSession} {req : VipItemRequest} {days : ℕ}

def VipItemRequest.keySlot (req : VipItemRequest) : ℕ := SLOT_MAX + req.srcPos

structure KeyAllowed (env : VipEnv) (s : VipSession) (req : VipItemRequest) (days : ℕ) : Prop where
  admitted : env.admits
  pin : byteLen s.vipPassword = 4
  extensible : ¬ (env.now < s.vipVaultExpiry ∧
    MAX_VAULT_EXTENSION_SECS < s.vipVaultExpiry - env.now)
  key : vipKeyDays req.itemId = some days
  srcPos_lt : req.srcPos < HAVE_MAX
  holds : (s.inventory.slot req.keySlot).itemId = req.itemId
  unlocked : ¬ ((s.inventory.slot req.keySlot).flag = ITEM_FLAG_RENTED ∨
    (s.inventory.slot req.keySlot).flag = ITEM_FLAG_DUPLICATE)
  tradable : ¬ (ITEM_NO_TRADE_MIN ≤ req.itemId ∧ req.itemId ≤ ITEM_NO_TRADE_MAX)

/-- When the vault runs out after a key of so many days. -/
def keyExpiry (env : VipEnv) (days : ℕ) : ℕ := (env.now + 60 * 60 * 24 * days) % 2 ^ 32

def keyUsed (env : VipEnv) (s : VipSession) (req : VipItemRequest) (days : ℕ) : VipSession :=
  { s with
    inventory := s.inventory.set req.keySlot {}
    vipVaultExpiry := keyExpiry env days }

def keyAccepted : VipAnswer := some (VIP_USE_VAULT, 1)

theorem vipKeyDays_pos {itemId : ℕ} (h : vipKeyDays itemId = some days) : itemId ≠ 0 := by
  rintro rfl
  cases h

theorem safe_key_7_rejected (h : req.itemId = VIP_SAFE_KEY_7) : ¬ KeyAllowed env s req days := by
  intro hallowed
  apply hallowed.tradable
  rw [h]
  decide

theorem vipUseVault_cases (hadmits : env.admits) :
    (∃ days, KeyAllowed env s req days ∧ vipUseVault env s req = (1, keyUsed env s req days)) ∨
      (¬ ∃ days, KeyAllowed env s req days) ∧
        ∃ code, vipUseVault env s req = (code, s) ∧ code ≠ 1 := by
  unfold vipUseVault
  dsimp only
  cases hdays : vipKeyDays req.itemId with
  | none =>
    refine Or.inr ⟨?_, ?_⟩
    · rintro ⟨days, hallowed⟩
      cases hdays.symm.trans hallowed.key
    · dsimp only
      split_ifs
      · exact ⟨2, rfl, by decide⟩
      · exact ⟨5, rfl, by decide⟩
      · exact ⟨2, rfl, by decide⟩
  | some days =>
    dsimp only
    split_ifs with hpin hextended hpos hholds hlocked htrade
    · refine Or.inr ⟨?_, 2, rfl, by decide⟩
      rintro ⟨_, hallowed⟩
      exact hpin hallowed.pin
    · refine Or.inr ⟨?_, 5, rfl, by decide⟩
      rintro ⟨_, hallowed⟩
      exact hallowed.extensible hextended
    · refine Or.inr ⟨?_, 2, rfl, by decide⟩
      rintro ⟨_, hallowed⟩
      exact Nat.not_le.mpr hallowed.srcPos_lt hpos
    · refine Or.inr ⟨?_, 2, rfl, by decide⟩
      rintro ⟨_, hallowed⟩
      exact hholds hallowed.holds
    · refine Or.inr ⟨?_, 2, rfl, by decide⟩
      rintro ⟨_, hallowed⟩
      exact hallowed.unlocked hlocked
    · refine Or.inr ⟨?_, 2, rfl, by decide⟩
      rintro ⟨_, hallowed⟩
      exact hallowed.tradable htrade
    · refine Or.inl ⟨days, ⟨hadmits, ?_, hextended, hdays, Nat.not_le.mp hpos, ?_, hlocked, htrade⟩,
        rfl⟩
      · exact not_not.mp hpin
      · exact not_not.mp hholds

/-- A request to use a key either uses it or leaves everything as it is. -/
theorem handleVip_useVault :
    (∃ days, KeyAllowed env s req days ∧
        handleVip table env s (.useVault req) = (keyAccepted, keyUsed env s req days)) ∨
      (¬ ∃ days, KeyAllowed env s req days) ∧
        ∃ answer, handleVip table env s (.useVault req) = (answer, s) ∧ answer ≠ keyAccepted := by
  by_cases hadmits : env.admits
  · obtain ⟨hgame, halive, hidle⟩ := hadmits
    have hhandled : handleVip table env s (.useVault req) =
        (some (VIP_USE_VAULT, (vipUseVault env s req).1), (vipUseVault env s req).2) := by
      unfold handleVip
      rw [hgame, halive, hidle]
      have hopcode : ¬ ((s.vipVaultExpiry = 0 ∨ s.vipVaultExpiry < env.now) ∧
          ((VipRequest.useVault req).opcode = VIP_INVEN_TO_STORAGE ∨
            (VipRequest.useVault req).opcode = VIP_STORAGE_TO_STORE)) := by
        rintro ⟨-, h | h⟩
        all_goals cases h
      dsimp only
      rw [if_neg hopcode]
      rfl
    rw [hhandled]
    rcases @vipUseVault_cases env s req ⟨hgame, halive, hidle⟩ with
      ⟨days, hallowed, hused⟩ | ⟨hnot, code, hrefused, hcode⟩
    · rw [hused]
      exact Or.inl ⟨days, hallowed, rfl⟩
    · rw [hrefused]
      refine Or.inr ⟨hnot, _, rfl, ?_⟩
      intro haccepted
      unfold keyAccepted at haccepted
      simp only [Option.some.injEq, Prod.mk.injEq, true_and] at haccepted
      exact hcode haccepted
  · refine Or.inr ⟨fun ⟨_, hallowed⟩ => hadmits hallowed.admitted, ?_⟩
    unfold VipEnv.admits at hadmits
    unfold handleVip
    dsimp only
    split_ifs with hgame hbusy hexpired
    · exact ⟨none, rfl, nofun⟩
    · exact ⟨_, rfl, nofun⟩
    · exact ⟨_, rfl, nofun⟩
    · simp at hgame hbusy
      exact absurd ⟨hgame.1, hgame.2, hbusy⟩ hadmits

structure TakesOne (req : VipItemRequest) (s after : VipSession) : Prop where
  one : stack req.itemId (s.inventory.slot req.keySlot) =
    stack req.itemId (after.inventory.slot req.keySlot) + 1
  others : ∀ j, j ≠ req.keySlot → after.inventory.slot j = s.inventory.slot j

def keyStep (table : ItemTable) (s : VipSession) (i : VipEnv × VipItemRequest) : VipSession :=
  (handleVip table i.1 s (.useVault i.2)).2

/-- An accepted key is taken and does not shorten the time of the vault, and a rejected one changes
neither the bag nor the time. -/
structure KeyCounts (table : ItemTable) (s : VipSession) (i : VipEnv × VipItemRequest) : Prop where
  accepted : (handleVip table i.1 s (.useVault i.2)).1 = keyAccepted →
    TakesOne i.2 s (keyStep table s i) ∧ s.vipVaultExpiry ≤ (keyStep table s i).vipVaultExpiry
  rejected : (handleVip table i.1 s (.useVault i.2)).1 ≠ keyAccepted →
    (keyStep table s i).inventory = s.inventory ∧
      (keyStep table s i).vipVaultExpiry = s.vipVaultExpiry

/-- A key that passes the checks is a single one, and the vault has no more than its days left. -/
def KeyFits (s : VipSession) (i : VipEnv × VipItemRequest) : Prop :=
  ∀ days, KeyAllowed i.1 s i.2 days →
    (s.inventory.slot i.2.keySlot).count = 1 ∧
      s.vipVaultExpiry ≤ (i.1.now + 60 * 60 * 24 * days) % 2 ^ 32

theorem keySlot_lt (h : KeyAllowed env s req days) : req.keySlot < s.inventory.length := by
  by_contra hbeyond
  have hempty : s.inventory.slot req.keySlot = {} :=
    List.getD_eq_default _ _ (Nat.not_lt.mp hbeyond)
  have hholds := h.holds
  rw [hempty] at hholds
  exact vipKeyDays_pos h.key hholds.symm

theorem takesOne_iff (h : KeyAllowed env s req days) :
    TakesOne req s (keyUsed env s req days) ↔ (s.inventory.slot req.keySlot).count = 1 := by
  have hemptied : stack req.itemId ((keyUsed env s req days).inventory.slot req.keySlot) = 0 := by
    unfold keyUsed
    rw [Inventory.slot_set_self (keySlot_lt h)]
    exact if_neg (vipKeyDays_pos h.key).symm
  have hbefore := stack_of_same h.holds
  constructor
  · intro htakes
    have hone := htakes.one
    rw [hemptied, hbefore] at hone
    exact hone
  · intro hcount
    refine ⟨?_, fun j hj => ?_⟩
    · rw [hemptied, hbefore, hcount]
    · exact Inventory.slot_set_ne (Ne.symm hj) _

theorem keyCounts_iff (i : VipEnv × VipItemRequest) : KeyCounts table s i ↔ KeyFits s i := by
  obtain ⟨env, req⟩ := i
  rcases @handleVip_useVault table env s req with
    ⟨days, hallowed, hused⟩ | ⟨hnot, answer, hrefused, hanswer⟩
  · have hafter : keyStep table s (env, req) = keyUsed env s req days := congrArg Prod.snd hused
    have hsame : ∀ days', KeyAllowed env s req days' → days' = days := fun days' h' =>
      Option.some.inj (h'.key.symm.trans hallowed.key)
    constructor
    · rintro ⟨haccepted, -⟩ days' h'
      obtain ⟨htakes, hlater⟩ := haccepted (congrArg Prod.fst hused)
      rw [hafter] at htakes hlater
      cases hsame days' h'
      exact ⟨(takesOne_iff hallowed).mp htakes, hlater⟩
    · intro hfits
      obtain ⟨hcount, hlater⟩ := hfits days hallowed
      refine ⟨fun _ => ?_, fun hrejected => absurd (congrArg Prod.fst hused) hrejected⟩
      rw [hafter]
      exact ⟨(takesOne_iff hallowed).mpr hcount, hlater⟩
  · have hafter : keyStep table s (env, req) = s := congrArg Prod.snd hrefused
    constructor
    · intro _ days hallowed
      exact absurd ⟨days, hallowed⟩ hnot
    · intro _
      refine ⟨fun haccepted => ?_, fun _ => ?_⟩
      · exact absurd ((congrArg Prod.fst hrefused).symm.trans haccepted) hanswer
      · rw [hafter]
        exact ⟨rfl, rfl⟩

/-- The keys of a run add up exactly where each that is used is a single one with no fewer days than
the vault has left. -/
theorem vault_keys_iff (table : ItemTable) (s : VipSession) (uses : List (VipEnv × VipItemRequest)) :
    Run.Along (keyStep table) (KeyCounts table) s uses ↔
      Run.Along (keyStep table) KeyFits s uses :=
  Run.along_congr (fun _ => True) (fun _ _ _ _ => trivial) (fun _ i _ => keyCounts_iff i) trivial

/-- In a run of keys that fit, the vault stays open at least as long as before. -/
theorem vault_open_along {uses : List (VipEnv × VipItemRequest)}
    (h : Run.Along (keyStep table) KeyFits s uses) :
    s.vipVaultExpiry ≤ (Run.run (keyStep table) s uses).vipVaultExpiry := by
  have hcounts := (vault_keys_iff table s uses).mpr h
  apply Run.invariant (fun s' => s.vipVaultExpiry ≤ s'.vipVaultExpiry) ?_ hcounts (Nat.le_refl _)
  intro s' i hle hi
  by_cases haccepted : (handleVip table i.1 s' (.useVault i.2)).1 = keyAccepted
  · exact Nat.le_trans hle (hi.accepted haccepted).2
  · rw [(hi.rejected haccepted).2]
    exact hle

/-- A bag with a key of 30 days in its first slot and one of a day in its second. -/
def keyBag : VipSession where
  inventory :=
    Inventory.padded (List.replicate SLOT_MAX ({} : UserItemSlot) ++
      [{ itemId := VIP_VAULT_KEY, count := 1 }, { itemId := VIP_SAFE_KEY_1, count := 1 }])
  vipWarehouse := List.replicate VIPWAREHOUSE_MAX {}
  vipWarehouse_length := List.length_replicate
  vipPassword := ['1', '2', '3', '4']
  vipPasswordRequest := 1
  vipVaultExpiry := 0

def useKey (itemId srcPos : ℕ) : VipEnv × VipItemRequest :=
  (idleVip, ⟨itemId, 0, srcPos, 0, 0⟩)

/-- The long key is used, and the short one then leaves a day of it. -/
theorem short_key_shortens :
    ¬ ∀ (table : ItemTable) (s : VipSession) (uses : List (VipEnv × VipItemRequest)),
      uses.Pairwise (fun i j => i.1.now ≤ j.1.now) →
        Run.Along (keyStep table) (KeyCounts table) s uses := by
  intro hall
  have hruns := hall (fun _ => none) keyBag [useKey VIP_VAULT_KEY 0, useKey VIP_SAFE_KEY_1 1]
    (by simp [useKey])
  obtain ⟨-, hshort, -⟩ := hruns
  have hlater := (hshort.accepted (by decide +kernel)).2
  revert hlater
  decide +kernel

end KoServer
