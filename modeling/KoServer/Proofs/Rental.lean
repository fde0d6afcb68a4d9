import KoServer.Lib.Run
import KoServer.Proofs.Letter
import KoServer.Spec.Rental

/-! What the listings of `handler/rental.rs` keep up over a run: one borrower for a listing, the
slot of the lender stays marked until a cancel, and nobody holds a second usable copy. -/

namespace KoServer

/-- The item of the row lies in a slot that is not marked as rented. -/
def Renter.Usable (r : Renter) (row : RentalItemRow) : Prop :=
  ∃ s ∈ r.inventory, row.isItem s ∧ s.flag ≠ ITEM_FLAG_RENTED

def RentalWorld.HoldsUsable (s : RentalWorld) (name : RenterName) (row : RentalItemRow) : Prop :=
  ∃ r, s.renters name = some r ∧ r.Usable row

def RentalWorld.goldOf (s : RentalWorld) (name : RenterName) : ℕ :=
  ((s.renters name).map Renter.gold).getD 0

section Usable

variable {r : Renter} {row row' : RentalItemRow} {k : ℕ} {slot : UserItemSlot}

theorem itemIndex_ne (h : row.isItem slot) (hslot : slot.itemId ≠ 0) : asU32 row.itemIndex ≠ 0 := by
  simp only [RentalItemRow.isItem, Bool.and_eq_true, decide_eq_true_eq] at h
  rw [← h.1]
  exact hslot

theorem usable_mark (h : (r.setFlag k ITEM_FLAG_RENTED).Usable row) : r.Usable row := by
  obtain ⟨s, hs, hitem, hflag⟩ := h
  obtain ⟨i, s, hi, rfl⟩ := Rows.mem_modify.mp hs
  split_ifs at hitem hflag with hk
  · exact absurd rfl hflag
  · exact ⟨s, List.mem_of_getElem? hi, hitem, hflag⟩

/-- A copy that is delivered is marked; the slot it goes into was empty. -/
theorem usable_receive (hslot : r.inventory[k]? = some slot) (hfree : slot.itemId = 0)
    (hrow : asU32 row'.itemIndex ≠ 0) : (r.receive k row).Usable row' ↔ r.Usable row' := by
  constructor
  · rintro ⟨s, hs, hitem, hflag⟩
    obtain ⟨i, s, hi, rfl⟩ := Rows.mem_modify.mp hs
    split_ifs at hitem hflag with hk
    · exact absurd rfl hflag
    · exact ⟨s, List.mem_of_getElem? hi, hitem, hflag⟩
  · rintro ⟨s, hs, hitem, hflag⟩
    obtain ⟨i, hi⟩ := List.mem_iff_getElem?.mp hs
    refine ⟨s, Rows.mem_modify.mpr ⟨i, s, hi, ?_⟩, hitem, hflag⟩
    have hik : k ≠ i := by
      rintro rfl
      rw [hslot] at hi
      obtain rfl := Option.some.inj hi
      simp only [RentalItemRow.isItem, Bool.and_eq_true, decide_eq_true_eq] at hitem
      exact hrow (hitem.1.symm.trans hfree)
    rw [if_neg hik]

/-- A marked slot that is released makes its own item usable and no other. -/
theorem usable_release (hslot : r.inventory[k]? = some slot) (hflag : slot.flag = ITEM_FLAG_RENTED) :
    (r.setFlag k 0).Usable row ↔ r.Usable row ∨ row.isItem slot := by
  constructor
  · rintro ⟨s, hs, hitem, hs'⟩
    obtain ⟨i, s, hi, rfl⟩ := Rows.mem_modify.mp hs
    split_ifs at hitem hs' with hk
    · subst hk
      rw [hslot] at hi
      obtain rfl := Option.some.inj hi
      exact Or.inr hitem
    · exact Or.inl ⟨s, List.mem_of_getElem? hi, hitem, hs'⟩
  · rintro (⟨s, hs, hitem, hs'⟩ | hitem)
    · obtain ⟨i, hi⟩ := List.mem_iff_getElem?.mp hs
      refine ⟨s, Rows.mem_modify.mpr ⟨i, s, hi, ?_⟩, hitem, hs'⟩
      have hik : k ≠ i := by
        rintro rfl
        rw [hslot] at hi
        obtain rfl := Option.some.inj hi
        exact hs' hflag
      rw [if_neg hik]
    · exact ⟨{ slot with flag := 0 }, Rows.mem_modify.mpr ⟨k, slot, hslot, (if_pos rfl).symm⟩, hitem,
        Nat.zero_ne_one⟩

def Renter.Marks (r : Renter) (k : ℕ) (row : RentalItemRow) : Prop :=
  ∃ slot, r.inventory[k]? = some slot ∧ slot.itemId ≠ 0 ∧ row.isRented slot

variable {i : ℕ}

theorem getElem?_modify_of_some {α : Type*} {xs : List α} {x : α} (hi : xs[i]? = some x)
    (f : α → α) (k : ℕ) : (xs.modify k f)[i]? = some (if k = i then f x else x) := by
  rw [List.getElem?_modify, hi]
  rfl

theorem marks_mark (h : r.Marks i row) : (r.setFlag k ITEM_FLAG_RENTED).Marks i row := by
  obtain ⟨s, hi, hid, hrented⟩ := h
  refine ⟨_, getElem?_modify_of_some hi _ k, ?_, ?_⟩
  · split_ifs
    exacts [hid, hid]
  · split_ifs
    · simp only [RentalItemRow.isRented, Bool.and_eq_true] at hrented ⊢
      exact ⟨hrented.1, by simp⟩
    · exact hrented

theorem marks_self (hi : r.inventory[k]? = some slot) (hid : slot.itemId ≠ 0)
    (hitem : row.isItem slot) : (r.setFlag k ITEM_FLAG_RENTED).Marks k row := by
  refine ⟨{ slot with flag := ITEM_FLAG_RENTED }, ?_, hid, ?_⟩
  · rw [show (r.setFlag k ITEM_FLAG_RENTED).inventory = r.inventory.modify k _ from rfl,
      getElem?_modify_of_some hi, if_pos rfl]
  · simp only [RentalItemRow.isRented, Bool.and_eq_true]
    exact ⟨hitem, by simp⟩

theorem marks_of_ne {r' : Renter} {f : UserItemSlot → UserItemSlot}
    (hr' : r'.inventory = r.inventory.modify k f) (hk : k ≠ i) (h : r.Marks i row) :
    r'.Marks i row := by
  obtain ⟨s, hi, hid, hrented⟩ := h
  refine ⟨s, ?_, hid, hrented⟩
  rw [hr', getElem?_modify_of_some hi, if_neg hk]

theorem marks_receive (hslot : r.inventory[k]? = some slot) (hfree : slot.itemId = 0)
    (h : r.Marks i row) : (r.receive k row').Marks i row := by
  refine marks_of_ne (f := row'.lentInto) rfl ?_ h
  rintro rfl
  obtain ⟨s, hi, hid, -⟩ := h
  rw [hslot] at hi
  obtain rfl := Option.some.inj hi
  exact hid hfree

end Usable

namespace RentalWorld

variable {s : RentalWorld} {name : RenterName} {hasAccount : Bool} {index : ℕ}
  {row : RentalItemRow} {r : Renter} {slot : ℕ}

structure Lends (s : RentalWorld) (name : RenterName) (hasAccount : Bool) (index : ℕ)
    (row : RentalItemRow) (r : Renter) (slot : ℕ) : Prop where
  row_eq : s.rentalItems (asI32 index) = some row
  unborrowed : row.borrowerCharId = []
  renter_eq : s.renters name = some r
  account : hasAccount = true
  not_own : name.val ≠ row.lenderCharId
  affords : asU32 row.rentalMoney ≤ r.gold
  free : bagSlots.find? (freeSlot r.inventory) = some slot

/-- The world after a successful `rental_lend`. -/
def lent (s : RentalWorld) (name : RenterName) (index : ℕ) (row : RentalItemRow) (r : Renter)
    (slot : ℕ) : RentalWorld :=
  (s.setRenter name ((r.receive slot row).pay (asU32 row.rentalMoney))).setRow (asI32 index)
    (some { row with borrowerCharId := name })

theorem rentalLend_of_lends (h : s.Lends name hasAccount index row r slot) :
    s.rentalLend name hasAccount index = (s.lent name index row r slot, .succeeded) := by
  unfold rentalLend
  simp only [h.row_eq, h.unborrowed, h.renter_eq, h.account, h.free, ne_eq, not_true_eq_false,
    if_false, Bool.not_true, Bool.false_eq_true, if_neg h.not_own, if_neg (not_lt.mpr h.affords)]
  rfl

theorem rentalLend_cases (s : RentalWorld) (name : RenterName) (hasAccount : Bool) (index : ℕ) :
    (∃ row r slot, s.Lends name hasAccount index row r slot) ∨
      s.rentalLend name hasAccount index = (s, .failed) := by
  unfold rentalLend
  dsimp only
  cases hrow : s.rentalItems (asI32 index) with
  | none => exact Or.inr rfl
  | some row =>
  dsimp only
  by_cases hborrowed : row.borrowerCharId ≠ []
  · exact Or.inr (if_pos hborrowed)
  rw [if_neg hborrowed]
  cases hr : s.renters name with
  | none => exact Or.inr rfl
  | some r =>
  dsimp only
  cases hfree : bagSlots.find? (freeSlot r.inventory) with
  | none => split_ifs <;> exact Or.inr rfl
  | some slot =>
    dsimp only
    split_ifs with hacc hown hgold
    · exact Or.inr rfl
    · exact Or.inr rfl
    · exact Or.inr rfl
    · exact Or.inl ⟨row, r, slot, hrow, not_not.mp hborrowed, hr, by simpa using hacc, hown,
        not_lt.mp hgold, hfree⟩

structure Cancels (s : RentalWorld) (name : RenterName) (index : ℕ) (row : RentalItemRow)
    (r : Renter) : Prop where
  renter_eq : s.renters name = some r
  row_eq : s.rentalItems (asI32 index) = some row
  own : row.lenderCharId = name.val
  unborrowed : row.borrowerCharId = []

def cancelled (s : RentalWorld) (name : RenterName) (index : ℕ) (row : RentalItemRow)
    (r : Renter) : RentalWorld :=
  (s.setRenter name (r.release row)).setRow (asI32 index) none

theorem rentalItemCancel_of_cancels (h : s.Cancels name index row r) :
    s.rentalItemCancel name index = (s.cancelled name index row r, .succeeded) := by
  unfold rentalItemCancel
  simp only [h.renter_eq, h.row_eq, h.own, h.unborrowed, ne_eq, not_true_eq_false, or_self,
    if_false]
  rfl

theorem rentalItemCancel_cases (s : RentalWorld) (name : RenterName) (index : ℕ) :
    (∃ row r, s.Cancels name index row r) ∨ s.rentalItemCancel name index = (s, .failed) := by
  unfold rentalItemCancel
  dsimp only
  cases hr : s.renters name with
  | none => exact Or.inr rfl
  | some r =>
  dsimp only
  cases hrow : s.rentalItems (asI32 index) with
  | none => exact Or.inr rfl
  | some row =>
  dsimp only
  split_ifs with hother
  · exact Or.inr rfl
  · push Not at hother
    exact Or.inl ⟨row, r, hr, hrow, hother.1, hother.2⟩

/-- What a request that waits has found. -/
structure Awaits (s : RentalWorld) (name : RenterName) (p : PendingRegister) : Prop where
  item : ∃ r, s.renters name = some r ∧ r.inventory[p.slot]? = some p.item
  itemId_ne : p.item.itemId ≠ 0
  flag : p.item.flag = 0
  price_lt : p.rentalMoney < 2 ^ 32

theorem rentalRegister_cases (s : RentalWorld) (name : RenterName) (hasAccount : Bool)
    (req : RegisterRequest) :
    s.rentalRegister name hasAccount req = (s, .failed) ∨
      ∃ p, s.Awaits name p ∧
        s.rentalRegister name hasAccount req = (s.setPending name (some p), .silent) := by
  unfold rentalRegister
  cases hitem : (s.renters name).bind (·.inventory[req.slot]?) with
  | none => split_ifs <;> exact Or.inl rfl
  | some item =>
  dsimp only
  split_ifs with hslot hid hflag hacc
  · exact Or.inl rfl
  · exact Or.inl rfl
  · exact Or.inl rfl
  · exact Or.inl rfl
  · exact Or.inr ⟨_, ⟨Option.bind_eq_some_iff.mp hitem, hid, not_not.mp hflag,
      req.rentalMoney_lt⟩, rfl⟩

def listed (s : RentalWorld) (name : RenterName) (p : PendingRegister) (r : Renter) : RentalWorld :=
  (({ s with rentalIndexCounter := s.nextRentalIndex }).setRenter name
    (r.setFlag p.slot ITEM_FLAG_RENTED)).setRow s.nextRentalIndex
      (some (catalogRow s.nextRentalIndex name p))

theorem rentalListed_cases (table : ItemTable) (s : RentalWorld) (name : RenterName)
    (p : PendingRegister) (count : CountByUser) :
    (∃ c, rentalListed table s name p count = ({ s with rentalIndexCounter := c }, .failed)) ∨
      ∃ r, s.renters name = some r ∧
        rentalListed table s name p count = (s.listed name p r, .succeeded) := by
  unfold rentalListed
  by_cases hcount : countRefused count
  · exact Or.inl ⟨s.rentalIndexCounter, if_pos hcount⟩
  rw [if_neg hcount]
  dsimp only
  cases table p.item.itemId with
  | none => exact Or.inl ⟨_, rfl⟩
  | some item =>
  dsimp only
  cases hr : s.renters name with
  | none => exact Or.inl ⟨_, rfl⟩
  | some r =>
  dsimp only
  cases r.inventory[p.slot]? with
  | none => exact Or.inl ⟨_, rfl⟩
  | some slot =>
  dsimp only
  split_ifs with hsame
  · exact Or.inr ⟨r, rfl, rfl⟩
  · exact Or.inl ⟨_, rfl⟩

end RentalWorld

end KoServer
