import KoServer.Proofs.Rental

/-! Renting over whole runs: when every listing is borrowed once, paid to its lender and given
back as it was. -/

namespace KoServer

def RentalItemRow.SameItem (row row' : RentalItemRow) : Prop :=
  asU32 row.itemIndex = asU32 row'.itemIndex ∧ asU64 row.serialNumber = asU64 row'.serialNumber

/-- No lender and borrower of one listing both hold a usable copy of its item. -/
def RentalWorld.Apart (s : RentalWorld) : Prop :=
  ∀ i row (lender borrower : RenterName), s.rentalItems i = some row → row.lenderCharId = lender →
    row.borrowerCharId = borrower → ¬(s.HoldsUsable lender row ∧ s.HoldsUsable borrower row)

/-- The borrower pays the price of the listing and its lender gets it; nobody else's gold moves. -/
structure Listing.Paid (l : Listing) (s s' : RentalWorld) (borrower : RenterName) : Prop where
  affords : l.price ≤ s.goldOf borrower
  taken : s'.goldOf borrower = s.goldOf borrower - l.price
  credited : s'.goldOf l.lender = s.goldOf l.lender + l.price
  others : ∀ name, name ≠ borrower → name ≠ l.lender → s'.goldOf name = s.goldOf name

def Listing.Restored (l : Listing) (s' : RentalWorld) : Prop :=
  ∃ r slot, s'.renters l.lender = some r ∧ r.inventory[l.slot]? = some slot ∧ slot.flag = l.flag

namespace RentalHistory

/-- Two listings are never of one slot of one lender. -/
def OneListing (h : RentalHistory) : Prop :=
  ∀ i j l m, h.listings i = some l → h.listings j = some m → l.lender = m.lender →
    l.slot = m.slot → i = j

structure Orderly (table : ItemTable) (h : RentalHistory) (e : RentalEvent) : Prop where
  oneTaker : ∀ i l, (h.step table e).listings i = some l → l.takers.length ≤ 1
  oneListing : (h.step table e).OneListing
  paid : ∀ name admitted hasAccount index, e = .lend name admitted hasAccount index →
    (h.world.step table e).2 = .succeeded →
      ∃ l, h.listings (asI32 index) = some l ∧ l.Paid h.world (h.step table e).world name
  apart : (h.step table e).world.Apart
  restored : ∀ name admitted index, e = .cancel name admitted index →
    (h.world.step table e).2 = .succeeded →
      ∃ l, h.listings (asI32 index) = some l ∧ l.lender = name ∧ l.Restored (h.step table e).world
  unchanged : (h.world.step table e).2 = .failed →
    (h.step table e).world.renters = h.world.renters ∧
      (h.step table e).world.rentalItems = h.world.rentalItems

/-- A listing that is free of charge, and at most one of the two has a usable copy of it. -/
def LendCondition (s : RentalWorld) (name : RenterName) (row : RentalItemRow) : Prop :=
  asU32 row.rentalMoney = 0 ∧ ∀ lender : RenterName, row.lenderCharId = lender →
    ¬(s.HoldsUsable lender row ∧ s.HoldsUsable name row)

/-- The listed slot is the first one that is marked and holds the item, and where the lender is a
party to another borrowed listing of the same item, the other party has no usable copy of it. -/
def CancelCondition (h : RentalHistory) (name : RenterName) (index : ℕ) (row : RentalItemRow)
    (r : Renter) : Prop :=
  (∀ l, h.listings (asI32 index) = some l →
    r.inventory.findIdx? row.isRented = some l.slot) ∧
  ∀ j row' (lender borrower : RenterName), h.world.rentalItems j = some row' →
    row'.SameItem row → row'.lenderCharId = lender → row'.borrowerCharId = borrower →
      (lender = name → ¬h.world.HoldsUsable borrower row') ∧
        (borrower = name → ¬h.world.HoldsUsable lender row')

def Condition (h : RentalHistory) : RentalEvent → Prop
  | .lend name admitted hasAccount index =>
    admitted = true → h.world.pending name = none → ∀ row r slot,
      h.world.Lends name hasAccount index row r slot → LendCondition h.world name row
  | .cancel name admitted index =>
    admitted = true → h.world.pending name = none → ∀ row r,
      h.world.Cancels name index row r → h.CancelCondition name index row r
  | .register .. | .counted .. => True

end RentalHistory

/-- The row of the catalog says what the listing says, and the lender's slot is marked. -/
structure Listing.Stands (s : RentalWorld) (l : Listing) (row : RentalItemRow) : Prop where
  lender : row.lenderCharId = l.lender
  price : asU32 row.rentalMoney = l.price
  flag : l.flag = 0
  takers : row.borrowerCharId = [] ∧ l.takers = [] ∨
    ∃ b : RenterName, row.borrowerCharId = b ∧ l.takers = [b]
  notOwn : row.borrowerCharId ≠ row.lenderCharId
  marked : ∃ r, s.renters l.lender = some r ∧ r.Marks l.slot row

namespace RentalHistory

structure Sound (h : RentalHistory) : Prop where
  both : ∀ i, h.listings i = none ↔ h.world.rentalItems i = none
  stands : ∀ i l row, h.listings i = some l → h.world.rentalItems i = some row →
    l.Stands h.world row
  oneListing : h.OneListing
  awaits : ∀ name p, h.world.pending name = some p → h.world.Awaits name p
  apart : h.world.Apart

variable {h : RentalHistory} {table : ItemTable}

theorem Start.sound (hstart : h.Start) : h.Sound where
  both i := by rw [hstart.listings, hstart.rentalItems]; simp
  stands i l row hl := by rw [hstart.listings] at hl; cases hl
  oneListing i j l m hl := by rw [hstart.listings] at hl; cases hl
  awaits name p hp := by rw [hstart.pending] at hp; cases hp
  apart i row lender borrower hrow := by rw [hstart.rentalItems] at hrow; cases hrow

theorem Sound.listing (hs : h.Sound) {i : ℤ} {row : RentalItemRow}
    (hrow : h.world.rentalItems i = some row) :
    ∃ l, h.listings i = some l ∧ l.Stands h.world row := by
  cases hl : h.listings i with
  | none =>
    rw [(hs.both i).mp hl] at hrow
    cases hrow
  | some l => exact ⟨l, rfl, hs.stands i l row hl hrow⟩

theorem Sound.row (hs : h.Sound) {i : ℤ} {l : Listing} (hl : h.listings i = some l) :
    ∃ row, h.world.rentalItems i = some row ∧ l.Stands h.world row := by
  cases hrow : h.world.rentalItems i with
  | none =>
    rw [(hs.both i).mpr hrow] at hl
    cases hl
  | some row => exact ⟨row, rfl, hs.stands i l row hl hrow⟩

theorem Stands.takers_le {s : RentalWorld} {l : Listing} {row : RentalItemRow}
    (hl : l.Stands s row) : l.takers.length ≤ 1 := by
  rcases hl.takers with ⟨-, htakers⟩ | ⟨b, -, htakers⟩ <;> simp [htakers]

theorem Sound.oneTaker (hs : h.Sound) {i : ℤ} {l : Listing} (hl : h.listings i = some l) :
    l.takers.length ≤ 1 := by
  obtain ⟨row, -, hstands⟩ := hs.row hl
  exact Stands.takers_le hstands

/-- The characters and the listings stay, and what waits waits with reason. -/
structure Idle (h h' : RentalHistory) : Prop where
  renters : h'.world.renters = h.world.renters
  rentalItems : h'.world.rentalItems = h.world.rentalItems
  listings : h'.listings = h.listings
  pending : ∀ name p, h'.world.pending name = some p →
    h.world.pending name = some p ∨ h.world.Awaits name p

theorem Idle.sound {h' : RentalHistory} (hi : Idle h h') (hs : h.Sound) : h'.Sound where
  both i := by rw [hi.listings, hi.rentalItems]; exact hs.both i
  stands i l row hl hrow := by
    rw [hi.listings] at hl
    rw [hi.rentalItems] at hrow
    obtain ⟨hlender, hprice, hflag, htakers, hown, hmarked⟩ := hs.stands i l row hl hrow
    exact ⟨hlender, hprice, hflag, htakers, hown, by rw [hi.renters]; exact hmarked⟩
  oneListing := by
    unfold OneListing
    rw [hi.listings]
    exact hs.oneListing
  awaits name p hp := by
    obtain ⟨hitem, hid, hflag, hprice⟩ := (hi.pending name p hp).elim (hs.awaits name p) id
    exact ⟨by rw [hi.renters]; exact hitem, hid, hflag, hprice⟩
  apart := by
    unfold RentalWorld.Apart RentalWorld.HoldsUsable
    rw [hi.renters, hi.rentalItems]
    exact hs.apart

theorem Idle.orderly {e : RentalEvent} (hi : Idle h (h.step table e))
    (ha : (h.world.step table e).2 ≠ .succeeded) (hs : h.Sound) : h.Orderly table e where
  oneTaker _ _ hl := (hi.sound hs).oneTaker hl
  oneListing := (hi.sound hs).oneListing
  paid _ _ _ _ _ h := absurd h ha
  apart := (hi.sound hs).apart
  restored _ _ _ _ h := absurd h ha
  unchanged _ := ⟨hi.renters, hi.rentalItems⟩

section Served

variable {h' : RentalHistory} {name : RenterName} {idx : ℤ} {r r' : Renter}
  {newRow : Option RentalItemRow} {newListing : Option Listing}

/-- One character and one listing change. -/
structure Served (h h' : RentalHistory) (name : RenterName) (idx : ℤ) (r r' : Renter)
    (newRow : Option RentalItemRow) (newListing : Option Listing) : Prop where
  renter : h.world.renters name = some r
  renters : h'.world.renters = Function.update h.world.renters name (some r')
  rentalItems : h'.world.rentalItems = Function.update h.world.rentalItems idx newRow
  listings : h'.listings = Function.update h.listings idx newListing
  pending : ∀ n p, h'.world.pending n = some p → n ≠ name ∧ h.world.pending n = some p

theorem Served.renters_ne (hv : Served h h' name idx r r' newRow newListing) {n : RenterName}
    (hn : n ≠ name) : h'.world.renters n = h.world.renters n := by
  rw [hv.renters, Function.update_of_ne hn]

theorem Served.renters_self (hv : Served h h' name idx r r' newRow newListing) :
    h'.world.renters name = some r' := by
  rw [hv.renters, Function.update_self]

theorem Served.row_ne (hv : Served h h' name idx r r' newRow newListing) {i : ℤ} (hi : i ≠ idx) :
    h'.world.rentalItems i = h.world.rentalItems i := by
  rw [hv.rentalItems, Function.update_of_ne hi]

theorem Served.row_self (hv : Served h h' name idx r r' newRow newListing) :
    h'.world.rentalItems idx = newRow := by
  rw [hv.rentalItems, Function.update_self]

theorem Served.listing_ne (hv : Served h h' name idx r r' newRow newListing) {i : ℤ}
    (hi : i ≠ idx) : h'.listings i = h.listings i := by
  rw [hv.listings, Function.update_of_ne hi]

theorem Served.listing_self (hv : Served h h' name idx r r' newRow newListing) :
    h'.listings idx = newListing := by
  rw [hv.listings, Function.update_self]

theorem Served.holdsUsable_ne (hv : Served h h' name idx r r' newRow newListing) {n : RenterName}
    (hn : n ≠ name) (row : RentalItemRow) :
    h'.world.HoldsUsable n row ↔ h.world.HoldsUsable n row := by
  unfold RentalWorld.HoldsUsable
  rw [hv.renters_ne hn]

theorem Served.holdsUsable_self (hv : Served h h' name idx r r' newRow newListing)
    (row : RentalItemRow) : h'.world.HoldsUsable name row ↔ r'.Usable row := by
  simp [RentalWorld.HoldsUsable, hv.renters_self]

theorem Served.holdsUsable_before (hv : Served h h' name idx r r' newRow newListing)
    (row : RentalItemRow) : h.world.HoldsUsable name row ↔ r.Usable row := by
  simp [RentalWorld.HoldsUsable, hv.renter]

/-- Nobody gets a usable copy where the one character does not. -/
theorem Served.holdsUsable_of (hv : Served h h' name idx r r' newRow newListing)
    {row : RentalItemRow} (hrow : r'.Usable row → r.Usable row) {n : RenterName}
    (hn : h'.world.HoldsUsable n row) : h.world.HoldsUsable n row := by
  by_cases hname : n = name
  · subst hname
    exact (hv.holdsUsable_before row).mpr (hrow ((hv.holdsUsable_self row).mp hn))
  · exact (hv.holdsUsable_ne hname row).mp hn

theorem Served.stands (hv : Served h h' name idx r r' newRow newListing) {l : Listing}
    {row : RentalItemRow} (hl : l.Stands h.world row)
    (hkeep : l.lender = name → r.Marks l.slot row → r'.Marks l.slot row) :
    l.Stands h'.world row := by
  obtain ⟨hlender, hprice, hflag, htakers, hown, r₀, hr₀, hmarks⟩ := hl
  refine ⟨hlender, hprice, hflag, htakers, hown, ?_⟩
  by_cases hname : l.lender = name
  · rw [hname, hv.renter] at hr₀
    obtain rfl := Option.some.inj hr₀
    exact ⟨r', by rw [hname, hv.renters_self], hkeep hname hmarks⟩
  · exact ⟨r₀, by rw [hv.renters_ne hname, hr₀], hmarks⟩

theorem Served.sound (hv : Served h h' name idx r r' newRow newListing) (hs : h.Sound)
    (hboth : newListing = none ↔ newRow = none)
    (hnew : ∀ l row, newListing = some l → newRow = some row → l.Stands h'.world row)
    (hkeep : ∀ i l row, i ≠ idx → h.listings i = some l → l.lender = name → r.Marks l.slot row →
      r'.Marks l.slot row)
    (hone : ∀ i l m, i ≠ idx → newListing = some l → h.listings i = some m →
      l.lender = m.lender → l.slot ≠ m.slot)
    (hapart : h'.world.Apart) : h'.Sound where
  both i := by
    by_cases hi : i = idx
    · subst hi
      rw [hv.listing_self, hv.row_self]
      exact hboth
    · rw [hv.listing_ne hi, hv.row_ne hi]
      exact hs.both i
  stands i l row hl hrow := by
    by_cases hi : i = idx
    · subst hi
      rw [hv.listing_self] at hl
      rw [hv.row_self] at hrow
      exact hnew l row hl hrow
    · rw [hv.listing_ne hi] at hl
      rw [hv.row_ne hi] at hrow
      exact hv.stands (hs.stands i l row hl hrow) (hkeep i l row hi hl)
  oneListing i j l m hl hm hlender hslot := by
    by_cases hi : i = idx <;> by_cases hj : j = idx
    · rw [hi, hj]
    · subst hi
      rw [hv.listing_self] at hl
      rw [hv.listing_ne hj] at hm
      exact absurd hslot (hone j l m hj hl hm hlender)
    · subst hj
      rw [hv.listing_ne hi] at hl
      rw [hv.listing_self] at hm
      exact absurd hslot.symm (hone i m l hi hm hl hlender.symm)
    · rw [hv.listing_ne hi] at hl
      rw [hv.listing_ne hj] at hm
      exact hs.oneListing i j l m hl hm hlender hslot
  awaits n p hp := by
    obtain ⟨hn, hp⟩ := hv.pending n p hp
    obtain ⟨hitem, hid, hflag, hprice⟩ := hs.awaits n p hp
    exact ⟨by rw [hv.renters_ne hn]; exact hitem, hid, hflag, hprice⟩
  apart := hapart

end Served

theorem idle_of {e : RentalEvent} {s : RentalWorld} {a : RentalAnswer}
    (hstep : h.world.step table e = (s, a)) (ha : a ≠ .succeeded)
    (hrenters : s.renters = h.world.renters) (hitems : s.rentalItems = h.world.rentalItems)
    (hpending : ∀ n p, s.pending n = some p →
      h.world.pending n = some p ∨ h.world.Awaits n p) :
    Idle h (h.step table e) ∧ (h.world.step table e).2 ≠ .succeeded := by
  have hworld : (h.step table e).world = s := congrArg Prod.fst hstep
  have hanswer : (h.world.step table e).2 = a := congrArg Prod.snd hstep
  refine ⟨⟨by rw [hworld, hrenters], by rw [hworld, hitems], ?_, fun n p hp => ?_⟩,
    by rw [hanswer]; exact ha⟩
  · exact if_neg (by rw [hanswer]; exact ha)
  · rw [hworld] at hp
    exact hpending n p hp

theorem idle_of_same {e : RentalEvent} {a : RentalAnswer}
    (hstep : h.world.step table e = (h.world, a)) (ha : a ≠ .succeeded) :
    Idle h (h.step table e) ∧ (h.world.step table e).2 ≠ .succeeded :=
  idle_of hstep ha rfl rfl fun _ _ hp => Or.inl hp

theorem step_of_succeeded {e : RentalEvent} {s : RentalWorld}
    (hstep : h.world.step table e = (s, .succeeded)) : h.step table e = ⟨s, h.record e⟩ := by
  unfold RentalHistory.step
  rw [hstep, if_pos rfl]

theorem idle_register (h : RentalHistory) (table : ItemTable) (name : RenterName)
    (admitted hasAccount : Bool) (req : RegisterRequest) :
    Idle h (h.step table (.register name admitted hasAccount req)) ∧
      (h.world.step table (.register name admitted hasAccount req)).2 ≠ .succeeded := by
  have hstep : h.world.step table (.register name admitted hasAccount req) =
      if !admitted || (h.world.pending name).isSome then (h.world, .silent)
      else h.world.rentalRegister name hasAccount req := rfl
  by_cases hbusy : (!admitted || (h.world.pending name).isSome) = true
  · exact idle_of_same (hstep.trans (if_pos hbusy)) nofun
  rw [if_neg hbusy] at hstep
  rcases h.world.rentalRegister_cases name hasAccount req with heq | ⟨p, hp, heq⟩
  · exact idle_of_same (hstep.trans heq) nofun
  · refine idle_of (hstep.trans heq) nofun rfl rfl fun n q hq => ?_
    by_cases hn : n = name
    · subst hn
      simp only [RentalWorld.setPending, Function.update_self, Option.some.injEq] at hq
      exact Or.inr (hq ▸ hp)
    · simp only [RentalWorld.setPending, Function.update_of_ne hn] at hq
      exact Or.inl hq

/-- What `count_by_user` lets through is listed, in the slot it was found in. -/
theorem counted_cases (h : RentalHistory) (table : ItemTable) (name : RenterName)
    (count : CountByUser) :
    (Idle h (h.step table (.counted name count)) ∧
      (h.world.step table (.counted name count)).2 ≠ .succeeded) ∨
    ∃ p r, h.world.pending name = some p ∧
      (h.world.step table (.counted name count)).2 = .succeeded ∧
      Served h (h.step table (.counted name count)) name h.world.nextRentalIndex r
        (r.setFlag p.slot ITEM_FLAG_RENTED)
        (some (RentalWorld.catalogRow h.world.nextRentalIndex name p))
        (some ⟨name, p.slot, p.item.flag, p.rentalMoney, []⟩) := by
  have hsettled : ∀ n p, (h.world.setPending name none).pending n = some p →
      n ≠ name ∧ h.world.pending n = some p := by
    intro n p hp
    by_cases hn : n = name
    · subst hn
      simp [RentalWorld.setPending] at hp
    · simp only [RentalWorld.setPending, Function.update_of_ne hn] at hp
      exact ⟨hn, hp⟩
  cases hpending : h.world.pending name with
  | none =>
    have hstep : h.world.step table (.counted name count) = (h.world, .silent) := by
      simp only [RentalWorld.step, hpending]
    exact Or.inl (idle_of_same hstep (by simp))
  | some p =>
  have hstep : h.world.step table (.counted name count) =
      RentalWorld.rentalListed table (h.world.setPending name none) name p count := by
    simp only [RentalWorld.step, hpending]
  rcases RentalWorld.rentalListed_cases table (h.world.setPending name none) name p count with
    ⟨c, heq⟩ | ⟨r, hr, heq⟩
  · exact Or.inl (idle_of (hstep.trans heq) (by simp) rfl rfl fun n q hq =>
      Or.inl (hsettled n q hq).2)
  · refine Or.inr ⟨p, r, rfl, congrArg Prod.snd (hstep.trans heq), ?_⟩
    rw [step_of_succeeded (hstep.trans heq)]
    refine ⟨hr, rfl, rfl, ?_, hsettled⟩
    simp only [record, hpending]

theorem isItem_catalogRow (i : ℤ) (name : RenterName) (p : PendingRegister)
    (hid : p.item.itemId < 2 ^ 32) (hserial : p.item.serialNum < 2 ^ 64) :
    (RentalWorld.catalogRow i name p).isItem p.item = true := by
  have hid' : p.item.itemId = asU32 (asI32 p.item.itemId) := (asU32_asI32 hid).symm
  have hserial' : p.item.serialNum = asU64 (asI64 p.item.serialNum) := (asU64_asI64 hserial).symm
  unfold RentalItemRow.isItem RentalWorld.catalogRow
  rw [← hid', ← hserial']
  simp

theorem rentalMoney_catalogRow (i : ℤ) (name : RenterName) (p : PendingRegister)
    (hprice : p.rentalMoney < 2 ^ 32) :
    asU32 (RentalWorld.catalogRow i name p).rentalMoney = p.rentalMoney := by
  unfold RentalWorld.catalogRow
  dsimp only
  rw [asU32_asI32 hprice]

theorem Sound.listed (hs : h.Sound) {name : RenterName} {count : CountByUser} {p : PendingRegister}
    {r : Renter} (hp : h.world.pending name = some p)
    (hv : Served h (h.step table (.counted name count)) name h.world.nextRentalIndex r
      (r.setFlag p.slot ITEM_FLAG_RENTED)
      (some (RentalWorld.catalogRow h.world.nextRentalIndex name p))
      (some ⟨name, p.slot, p.item.flag, p.rentalMoney, []⟩)) :
    (h.step table (.counted name count)).Sound := by
  obtain ⟨⟨r₀, hr₀, hitem⟩, hid, hflag, hprice⟩ := hs.awaits name p hp
  rw [hv.renter] at hr₀
  obtain rfl := Option.some.inj hr₀
  have hrange := r.inRange p.item (List.mem_of_getElem? hitem)
  refine hv.sound hs (by simp) ?_ (fun _ _ _ _ _ _ hmarks => marks_mark hmarks) ?_ ?_
  · rintro l row ⟨rfl⟩ ⟨rfl⟩
    have hitem' := isItem_catalogRow h.world.nextRentalIndex name p hrange.1 hrange.2
    have hprice' := rentalMoney_catalogRow h.world.nextRentalIndex name p hprice
    exact ⟨rfl, hprice', hflag, Or.inl ⟨rfl, rfl⟩, fun heq => name.2 heq.symm,
      _, hv.renters_self, marks_self hitem hid hitem'⟩
  · -- a slot that is listed already is marked, and the one found was not
    rintro i l m - ⟨rfl⟩ hm hlender hslot
    obtain ⟨row, -, hstands⟩ := hs.row hm
    obtain ⟨r₁, hr₁, s, hs₁, -, hrented⟩ := hstands.marked
    rw [← hlender, hv.renter] at hr₁
    obtain rfl := Option.some.inj hr₁
    rw [← hslot, hitem] at hs₁
    obtain rfl := Option.some.inj hs₁
    simp [RentalItemRow.isRented, hflag, ITEM_FLAG_RENTED] at hrented
  · rintro i row lender borrower hrow hlender hborrower ⟨husable, husable'⟩
    by_cases hi : i = h.world.nextRentalIndex
    · subst hi
      rw [hv.row_self] at hrow
      obtain rfl := Option.some.inj hrow
      exact borrower.2 hborrower.symm
    · rw [hv.row_ne hi] at hrow
      exact hs.apart i row lender borrower hrow hlender hborrower
        ⟨hv.holdsUsable_of usable_mark husable, hv.holdsUsable_of usable_mark husable'⟩

theorem Sound.orderly {e : RentalEvent} (hs' : (h.step table e).Sound)
    (ha : (h.world.step table e).2 = .succeeded)
    (hlend : ∀ name admitted hasAccount index, e = .lend name admitted hasAccount index →
      ∃ l, h.listings (asI32 index) = some l ∧ l.Paid h.world (h.step table e).world name)
    (hcancel : ∀ name admitted index, e = .cancel name admitted index →
      ∃ l, h.listings (asI32 index) = some l ∧ l.lender = name ∧
        l.Restored (h.step table e).world) : h.Orderly table e where
  oneTaker _ _ hl := hs'.oneTaker hl
  oneListing := hs'.oneListing
  paid name admitted hasAccount index he _ := hlend name admitted hasAccount index he
  apart := hs'.apart
  restored name admitted index he _ := hcancel name admitted index he
  unchanged hfailed := by rw [ha] at hfailed; cases hfailed

section Lend

variable {name : RenterName} {admitted hasAccount : Bool} {index : ℕ} {row : RentalItemRow}
  {r : Renter} {slot : ℕ}

theorem lend_cases (h : RentalHistory) (table : ItemTable) (name : RenterName)
    (admitted hasAccount : Bool) (index : ℕ) :
    ((Idle h (h.step table (.lend name admitted hasAccount index)) ∧
        (h.world.step table (.lend name admitted hasAccount index)).2 ≠ .succeeded) ∧
      h.Condition (.lend name admitted hasAccount index)) ∨
    ∃ row r slot, admitted = true ∧ h.world.pending name = none ∧
      h.world.Lends name hasAccount index row r slot ∧
      (h.world.step table (.lend name admitted hasAccount index)).2 = .succeeded ∧
      Served h (h.step table (.lend name admitted hasAccount index)) name (asI32 index) r
        ((r.receive slot row).pay (asU32 row.rentalMoney))
        (some { row with borrowerCharId := name })
        ((h.listings (asI32 index)).map fun l => { l with takers := l.takers ++ [name] }) := by
  have hstep : h.world.step table (.lend name admitted hasAccount index) =
      if !admitted || (h.world.pending name).isSome then (h.world, .silent)
      else h.world.rentalLend name hasAccount index := rfl
  by_cases hbusy : (!admitted || (h.world.pending name).isSome) = true
  · refine Or.inl ⟨idle_of_same (hstep.trans (if_pos hbusy)) nofun, fun hadm hfree => ?_⟩
    simp [hadm, hfree] at hbusy
  rw [if_neg hbusy] at hstep
  simp only [Bool.or_eq_true, Bool.not_eq_true', not_or, Bool.not_eq_false,
    Bool.not_eq_true, Option.isSome_eq_false_iff, Option.isNone_iff_eq_none] at hbusy
  by_cases hlends : ∃ row r slot, h.world.Lends name hasAccount index row r slot
  · obtain ⟨row, r, slot, hlends⟩ := hlends
    have heq := hstep.trans (RentalWorld.rentalLend_of_lends hlends)
    refine Or.inr ⟨row, r, slot, hbusy.1, hbusy.2, hlends, congrArg Prod.snd heq, ?_⟩
    rw [step_of_succeeded heq]
    refine ⟨hlends.renter_eq, rfl, rfl, rfl, fun n p hp => ⟨?_, hp⟩⟩
    rintro rfl
    have hp' : h.world.pending n = some p := hp
    rw [hbusy.2] at hp'
    cases hp'
  · have heq := (h.world.rentalLend_cases name hasAccount index).resolve_left hlends
    exact Or.inl ⟨idle_of_same (hstep.trans heq) nofun, fun _ _ row r slot hl =>
      absurd ⟨row, r, slot, hl⟩ hlends⟩

theorem free_spec {inv : Inventory} (hfree : bagSlots.find? (freeSlot inv) = some slot) :
    ∃ s, inv[slot]? = some s ∧ s.itemId = 0 := by
  have hslot := List.find?_some hfree
  simp only [freeSlot, Bool.and_eq_true, decide_eq_true_eq] at hslot
  refine ⟨inv[slot], List.getElem?_eq_getElem hslot.1, ?_⟩
  have hempty := hslot.2
  rw [Inventory.slot, List.getD_eq_getElem _ _ hslot.1] at hempty
  exact hempty

theorem Sound.itemIndex_ne (hs : h.Sound) {i : ℤ} (hrow : h.world.rentalItems i = some row) :
    asU32 row.itemIndex ≠ 0 := by
  obtain ⟨l, -, hstands⟩ := hs.listing hrow
  obtain ⟨r, -, s, -, hid, hrented⟩ := hstands.marked
  rw [RentalItemRow.isRented, Bool.and_eq_true] at hrented
  exact KoServer.itemIndex_ne hrented.1 hid

variable {h' : RentalHistory} {newListing : Option Listing}

/-- A delivery makes nobody's copy usable and none unusable. -/
theorem holdsUsable_lent (hlends : h.world.Lends name hasAccount index row r slot)
    (hv : Served h h' name (asI32 index) r ((r.receive slot row).pay (asU32 row.rentalMoney))
      (some { row with borrowerCharId := name }) newListing) (n : RenterName)
    {row' : RentalItemRow} (hrow' : asU32 row'.itemIndex ≠ 0) :
    h'.world.HoldsUsable n row' ↔ h.world.HoldsUsable n row' := by
  obtain ⟨s, hslot, hempty⟩ := free_spec hlends.free
  by_cases hn : n = name
  · subst hn
    rw [hv.holdsUsable_self, hv.holdsUsable_before]
    exact usable_receive hslot hempty hrow'
  · exact hv.holdsUsable_ne hn row'

theorem Sound.apart_lent (hs : h.Sound) (hlends : h.world.Lends name hasAccount index row r slot)
    (hv : Served h h' name (asI32 index) r ((r.receive slot row).pay (asU32 row.rentalMoney))
      (some { row with borrowerCharId := name }) newListing) :
    h'.world.Apart ↔ ∀ lender : RenterName, row.lenderCharId = lender →
      ¬(h.world.HoldsUsable lender row ∧ h.world.HoldsUsable name row) := by
  have hrow_ne := hs.itemIndex_ne hlends.row_eq
  constructor
  · intro hapart lender hlender hboth
    exact hapart (asI32 index) _ lender name hv.row_self hlender rfl
      ⟨(holdsUsable_lent hlends hv lender hrow_ne).mpr hboth.1,
        (holdsUsable_lent hlends hv name hrow_ne).mpr hboth.2⟩
  · rintro hnone i row' lender borrower hrow' hlender hborrower ⟨hu, hu'⟩
    by_cases hi : i = asI32 index
    · rw [hi, hv.row_self] at hrow'
      obtain rfl := Option.some.inj hrow'
      obtain rfl : name = borrower := Subtype.ext hborrower
      exact hnone lender hlender ⟨(holdsUsable_lent hlends hv lender hrow_ne).mp hu,
        (holdsUsable_lent hlends hv name hrow_ne).mp hu'⟩
    · rw [hv.row_ne hi] at hrow'
      have hne := hs.itemIndex_ne hrow'
      exact hs.apart i row' lender borrower hrow' hlender hborrower
        ⟨(holdsUsable_lent hlends hv lender hne).mp hu,
          (holdsUsable_lent hlends hv borrower hne).mp hu'⟩

theorem Sound.lent (hs : h.Sound) (hlends : h.world.Lends name hasAccount index row r slot)
    (hv : Served h h' name (asI32 index) r ((r.receive slot row).pay (asU32 row.rentalMoney))
      (some { row with borrowerCharId := name })
      ((h.listings (asI32 index)).map fun l => { l with takers := l.takers ++ [name] }))
    (hapart : h'.world.Apart) : h'.Sound := by
  obtain ⟨l, hl, hstands⟩ := hs.listing hlends.row_eq
  obtain ⟨s, hslot, hempty⟩ := free_spec hlends.free
  have hkeep : ∀ k row', r.Marks k row' →
      ((r.receive slot row).pay (asU32 row.rentalMoney)).Marks k row' :=
    fun k row' hmarks => marks_receive hslot hempty hmarks
  refine hv.sound hs (by simp [hl]) ?_ (fun _ _ _ _ _ _ hmarks => hkeep _ _ hmarks) ?_ hapart
  · rintro l' row' hl' ⟨rfl⟩
    rw [hl] at hl'
    obtain rfl := Option.some.inj hl'
    obtain ⟨hlender, hprice, hflag, -, -, hmarked⟩ :=
      hv.stands hstands fun _ hmarks => hkeep _ _ hmarks
    refine ⟨hlender, hprice, hflag, Or.inr ⟨name, rfl, ?_⟩, hlends.not_own, hmarked⟩
    rcases hstands.takers with ⟨-, htakers⟩ | ⟨b, hb, -⟩
    · simp [htakers]
    · exact absurd (hb.symm.trans hlends.unborrowed) b.2
  · rintro i l' m hi hl' hm hlender hlslot
    rw [hl] at hl'
    obtain rfl := Option.some.inj hl'
    exact hi (hs.oneListing i (asI32 index) m l hm hl hlender.symm hlslot.symm)

/-- Only the borrower's gold changes, so the lender is paid where there is nothing to pay. -/
theorem paid_lent {l : Listing} (hl : l.Stands h.world row)
    (hlends : h.world.Lends name hasAccount index row r slot)
    (hv : Served h h' name (asI32 index) r ((r.receive slot row).pay (asU32 row.rentalMoney))
      (some { row with borrowerCharId := name }) newListing) :
    l.Paid h.world h'.world name ↔ asU32 row.rentalMoney = 0 := by
  have hother : l.lender ≠ name := fun heq => hlends.not_own (by rw [hl.lender, heq])
  have hothers : ∀ n, n ≠ name → h'.world.goldOf n = h.world.goldOf n := by
    intro n hn
    unfold RentalWorld.goldOf
    rw [hv.renters_ne hn]
  have hself : h.world.goldOf name = r.gold := by simp [RentalWorld.goldOf, hlends.renter_eq]
  have hself' : h'.world.goldOf name = r.gold - asU32 row.rentalMoney := by
    simp [RentalWorld.goldOf, hv.renters_self, Renter.pay, Renter.receive]
  rw [hl.price] at hself' ⊢
  have haffords := hlends.affords
  rw [hl.price] at haffords
  constructor
  · intro hpaid
    have hcredited := hpaid.credited
    rw [hothers l.lender hother] at hcredited
    omega
  · intro hzero
    refine ⟨by rw [hself]; exact haffords, by rw [hself, hself'], ?_, fun n hn _ => hothers n hn⟩
    rw [hothers l.lender hother, hzero, Nat.add_zero]

/-- A borrowing goes as asked exactly where its listing is free and one of the two has no copy. -/
theorem Sound.orderly_lent (hs : h.Sound)
    (hlends : h.world.Lends name hasAccount index row r slot)
    (ha : (h.world.step table (.lend name admitted hasAccount index)).2 = .succeeded)
    (hv : Served h (h.step table (.lend name admitted hasAccount index)) name (asI32 index) r
      ((r.receive slot row).pay (asU32 row.rentalMoney))
      (some { row with borrowerCharId := name })
      ((h.listings (asI32 index)).map fun l => { l with takers := l.takers ++ [name] })) :
    h.Orderly table (.lend name admitted hasAccount index) ↔ LendCondition h.world name row := by
  obtain ⟨l, hl, hstands⟩ := hs.listing hlends.row_eq
  have hpaid := paid_lent hstands hlends hv
  have happart := hs.apart_lent hlends hv
  constructor
  · intro horderly
    obtain ⟨l', hl', hl'paid⟩ := horderly.paid name admitted hasAccount index rfl ha
    rw [hl] at hl'
    obtain rfl := Option.some.inj hl'
    exact ⟨hpaid.mp hl'paid, happart.mp horderly.apart⟩
  · rintro ⟨hzero, hnone⟩
    refine (hs.lent hlends hv (happart.mpr hnone)).orderly ha ?_ nofun
    rintro _ _ _ _ ⟨rfl, rfl, rfl, rfl⟩
    exact ⟨l, hl, hpaid.mpr hzero⟩

end Lend

section Cancel

variable {name : RenterName} {admitted : Bool} {index : ℕ} {row : RentalItemRow} {r : Renter}
  {k : ℕ} {s : UserItemSlot} {h' : RentalHistory}

theorem cancel_cases (h : RentalHistory) (table : ItemTable) (name : RenterName)
    (admitted : Bool) (index : ℕ) :
    ((Idle h (h.step table (.cancel name admitted index)) ∧
        (h.world.step table (.cancel name admitted index)).2 ≠ .succeeded) ∧
      h.Condition (.cancel name admitted index)) ∨
    ∃ row r, admitted = true ∧ h.world.pending name = none ∧
      h.world.Cancels name index row r ∧
      (h.world.step table (.cancel name admitted index)).2 = .succeeded ∧
      Served h (h.step table (.cancel name admitted index)) name (asI32 index) r (r.release row)
        none none := by
  have hstep : h.world.step table (.cancel name admitted index) =
      if !admitted || (h.world.pending name).isSome then (h.world, .silent)
      else h.world.rentalItemCancel name index := rfl
  by_cases hbusy : (!admitted || (h.world.pending name).isSome) = true
  · refine Or.inl ⟨idle_of_same (hstep.trans (if_pos hbusy)) nofun, fun hadm hfree => ?_⟩
    simp [hadm, hfree] at hbusy
  rw [if_neg hbusy] at hstep
  simp only [Bool.or_eq_true, Bool.not_eq_true', not_or, Bool.not_eq_false,
    Bool.not_eq_true, Option.isSome_eq_false_iff, Option.isNone_iff_eq_none] at hbusy
  by_cases hcancels : ∃ row r, h.world.Cancels name index row r
  · obtain ⟨row, r, hcancels⟩ := hcancels
    have heq := hstep.trans (RentalWorld.rentalItemCancel_of_cancels hcancels)
    refine Or.inr ⟨row, r, hbusy.1, hbusy.2, hcancels, congrArg Prod.snd heq, ?_⟩
    rw [step_of_succeeded heq]
    refine ⟨hcancels.renter_eq, rfl, rfl, rfl, fun n p hp => ⟨?_, hp⟩⟩
    rintro rfl
    have hp' : h.world.pending n = some p := hp
    rw [hbusy.2] at hp'
    cases hp'
  · have heq := (h.world.rentalItemCancel_cases name index).resolve_left hcancels
    exact Or.inl ⟨idle_of_same (hstep.trans heq) nofun, fun _ _ row r hc =>
      absurd ⟨row, r, hc⟩ hcancels⟩

/-- The slot that a cancel releases: the first one that is marked and holds the item. -/
structure Releases (r : Renter) (row : RentalItemRow) (k : ℕ) (s : UserItemSlot) : Prop where
  found : r.inventory.findIdx? row.isRented = some k
  slot_eq : r.inventory[k]? = some s
  rented : row.isRented s

theorem Releases.release_eq (hr : Releases r row k s) : r.release row = r.setFlag k 0 := by
  unfold Renter.release
  rw [hr.found]

theorem Releases.flag (hr : Releases r row k s) : s.flag = ITEM_FLAG_RENTED := by
  have hrented := hr.rented
  simp only [RentalItemRow.isRented, Bool.and_eq_true, decide_eq_true_eq] at hrented
  exact hrented.2

theorem Releases.isItem_iff (hr : Releases r row k s) (row' : RentalItemRow) :
    row'.isItem s ↔ row'.SameItem row := by
  have hrented := hr.rented
  simp only [RentalItemRow.isRented, RentalItemRow.isItem, Bool.and_eq_true,
    decide_eq_true_eq] at hrented
  simp only [RentalItemRow.isItem, RentalItemRow.SameItem, Bool.and_eq_true, decide_eq_true_eq]
  rw [hrented.1.1, hrented.1.2, eq_comm, @eq_comm _ (asU64 row.serialNumber)]

theorem Releases.usable_iff (hr : Releases r row k s) (row' : RentalItemRow) :
    (r.release row).Usable row' ↔ r.Usable row' ∨ row'.SameItem row := by
  rw [hr.release_eq, usable_release hr.slot_eq hr.flag, hr.isItem_iff]

theorem exists_releases {l : ℕ} (hmarks : r.Marks l row) : ∃ k s, Releases r row k s := by
  obtain ⟨slot, hslot, -, hrented⟩ := hmarks
  cases hfound : r.inventory.findIdx? row.isRented with
  | none =>
    rw [List.findIdx?_eq_none_iff] at hfound
    have := hfound slot (List.mem_of_getElem? hslot)
    rw [hrented] at this
    cases this
  | some k =>
    obtain ⟨hk, hrented', -⟩ := List.findIdx?_eq_some_iff_getElem.mp hfound
    exact ⟨k, r.inventory[k], hfound, List.getElem?_eq_getElem hk, hrented'⟩

theorem Sound.apart_cancelled (hs : h.Sound) (hc : h.world.Cancels name index row r)
    (hr : Releases r row k s)
    (hv : Served h h' name (asI32 index) r (r.release row) none none) :
    h'.world.Apart ↔
      ∀ j row' (lender borrower : RenterName), h.world.rentalItems j = some row' →
        row'.SameItem row → row'.lenderCharId = lender → row'.borrowerCharId = borrower →
          (lender = name → ¬h.world.HoldsUsable borrower row') ∧
            (borrower = name → ¬h.world.HoldsUsable lender row') := by
  -- the canceller may hold a usable copy that was not one before
  have hself : ∀ row', h'.world.HoldsUsable name row' ↔
      h.world.HoldsUsable name row' ∨ row'.SameItem row := by
    intro row'
    rw [hv.holdsUsable_self, hv.holdsUsable_before, hr.usable_iff]
  constructor
  · intro hapart j row' lender borrower hrow' hsame hlender hborrower
    have hj : j ≠ asI32 index := by
      intro hj
      rw [hj, hc.row_eq] at hrow'
      obtain rfl := Option.some.inj hrow'
      exact borrower.2 (hborrower.symm.trans hc.unborrowed)
    obtain ⟨l, -, hstands⟩ := hs.listing hrow'
    have hne : lender ≠ borrower := by
      rintro rfl
      exact hstands.notOwn (hborrower.trans hlender.symm)
    have hnot := hapart j row' lender borrower (by rw [hv.row_ne hj]; exact hrow') hlender hborrower
    constructor
    · rintro rfl husable
      exact hnot ⟨(hself row').mpr (Or.inr hsame), (hv.holdsUsable_ne hne.symm row').mpr husable⟩
    · rintro rfl husable
      exact hnot ⟨(hv.holdsUsable_ne hne row').mpr husable, (hself row').mpr (Or.inr hsame)⟩
  · rintro hnone j row' lender borrower hrow' hlender hborrower ⟨hu, hu'⟩
    have hj : j ≠ asI32 index := by
      intro hj
      rw [hj, hv.row_self] at hrow'
      cases hrow'
    rw [hv.row_ne hj] at hrow'
    obtain ⟨l, -, hstands⟩ := hs.listing hrow'
    have hne : lender ≠ borrower := by
      rintro rfl
      exact hstands.notOwn (hborrower.trans hlender.symm)
    have hnot := hs.apart j row' lender borrower hrow' hlender hborrower
    by_cases hl : lender = name
    · subst hl
      have hu' := (hv.holdsUsable_ne hne.symm row').mp hu'
      rcases (hself row').mp hu with hu | hsame
      · exact hnot ⟨hu, hu'⟩
      · exact (hnone j row' lender borrower hrow' hsame hlender hborrower).1 rfl hu'
    · have hu := (hv.holdsUsable_ne hl row').mp hu
      by_cases hb : borrower = name
      · subst hb
        rcases (hself row').mp hu' with hu' | hsame
        · exact hnot ⟨hu, hu'⟩
        · exact (hnone j row' lender borrower hrow' hsame hlender hborrower).2 rfl hu
      · exact hnot ⟨hu, (hv.holdsUsable_ne hb row').mp hu'⟩

theorem Sound.cancelled (hs : h.Sound) (hc : h.world.Cancels name index row r)
    (hr : Releases r row k s)
    (hv : Served h h' name (asI32 index) r (r.release row) none none)
    (hfirst : ∀ l, h.listings (asI32 index) = some l → k = l.slot) (hapart : h'.world.Apart) :
    h'.Sound := by
  obtain ⟨l, hl, hstands⟩ := hs.listing hc.row_eq
  have hlender : l.lender = name := Subtype.ext (hstands.lender.symm.trans hc.own)
  refine hv.sound hs (by simp) nofun ?_ nofun hapart
  -- the slots of the other listings are others
  intro i m row' hi hm hname hmarks
  refine marks_of_ne (by rw [hr.release_eq]; rfl) ?_ hmarks
  rw [hfirst l hl]
  exact fun hslot => hi (hs.oneListing i _ m l hm hl (hname.trans hlender.symm) hslot.symm)

/-- The lender's slot is unmarked exactly where it is the one that the loop comes to first. -/
theorem Sound.restored_iff (hs : h.Sound) (hc : h.world.Cancels name index row r)
    (hr : Releases r row k s)
    (hv : Served h h' name (asI32 index) r (r.release row) none none) {l : Listing}
    (hl : h.listings (asI32 index) = some l) : l.Restored h'.world ↔ k = l.slot := by
  have hstands := hs.stands _ l row hl hc.row_eq
  have hlender : l.lender = name := Subtype.ext (hstands.lender.symm.trans hc.own)
  obtain ⟨r₀, hr₀, slot, hslot, -, hrented⟩ := hstands.marked
  rw [hlender, hc.renter_eq] at hr₀
  obtain rfl := Option.some.inj hr₀
  have hafter : (r.release row).inventory[l.slot]? =
      some (if k = l.slot then { slot with flag := 0 } else slot) := by
    rw [hr.release_eq]
    exact getElem?_modify_of_some hslot _ k
  constructor
  · rintro ⟨r', slot', hr', hslot', hflag⟩
    rw [hlender, hv.renters_self] at hr'
    obtain rfl := Option.some.inj hr'
    rw [hafter] at hslot'
    obtain rfl := Option.some.inj hslot'
    by_contra hk
    rw [if_neg hk, hstands.flag] at hflag
    simp [RentalItemRow.isRented, hflag, ITEM_FLAG_RENTED] at hrented
  · intro hk
    refine ⟨r.release row, _, by rw [hlender, hv.renters_self], hafter, ?_⟩
    rw [if_pos hk, hstands.flag]

theorem Sound.orderly_cancelled (hs : h.Sound) (hc : h.world.Cancels name index row r)
    (ha : (h.world.step table (.cancel name admitted index)).2 = .succeeded)
    (hv : Served h (h.step table (.cancel name admitted index)) name (asI32 index) r
      (r.release row) none none) :
    (h.Orderly table (.cancel name admitted index) ↔ h.CancelCondition name index row r) ∧
      (h.CancelCondition name index row r →
        (h.step table (.cancel name admitted index)).Sound) := by
  obtain ⟨l, hl, hstands⟩ := hs.listing hc.row_eq
  have hlender : l.lender = name := Subtype.ext (hstands.lender.symm.trans hc.own)
  obtain ⟨r₀, hr₀, hmarks⟩ := hstands.marked
  rw [hlender, hc.renter_eq] at hr₀
  obtain rfl := Option.some.inj hr₀
  obtain ⟨k, s, hr⟩ := exists_releases hmarks
  have hrestored := hs.restored_iff hc hr hv hl
  have happart := hs.apart_cancelled hc hr hv
  have hfirst : (∀ m, h.listings (asI32 index) = some m →
      r.inventory.findIdx? row.isRented = some m.slot) ↔ k = l.slot := by
    rw [hr.found, hl]
    simp
  have hsound : h.CancelCondition name index row r →
      (h.step table (.cancel name admitted index)).Sound := by
    rintro ⟨hcond, hcond'⟩
    refine hs.cancelled hc hr hv (fun m hm => ?_) (happart.mpr hcond')
    rw [hl] at hm
    obtain rfl := Option.some.inj hm
    exact hfirst.mp hcond
  refine ⟨⟨fun horderly => ?_, fun hcond => ?_⟩, hsound⟩
  · obtain ⟨m, hm, -, hm'⟩ := horderly.restored name admitted index rfl ha
    rw [hl] at hm
    obtain rfl := Option.some.inj hm
    exact ⟨hfirst.mpr (hrestored.mp hm'), happart.mp horderly.apart⟩
  · refine (hsound hcond).orderly ha nofun ?_
    rintro _ _ _ ⟨rfl, rfl, rfl⟩
    exact ⟨l, hl, hlender, hrestored.mpr (hfirst.mp hcond.1)⟩

end Cancel

/-- One step: it goes as asked exactly where the condition holds, and is sound then. -/
theorem Sound.step_iff (hs : h.Sound) (table : ItemTable) (e : RentalEvent) :
    (h.Orderly table e ↔ h.Condition e) ∧ (h.Condition e → (h.step table e).Sound) := by
  cases e with
  | register name admitted hasAccount req =>
    obtain ⟨hidle, ha⟩ := idle_register h table name admitted hasAccount req
    exact ⟨iff_of_true (hidle.orderly ha hs) trivial, fun _ => hidle.sound hs⟩
  | counted name count =>
    rcases counted_cases h table name count with ⟨hidle, ha⟩ | ⟨p, r, hp, ha, hv⟩
    · exact ⟨iff_of_true (hidle.orderly ha hs) trivial, fun _ => hidle.sound hs⟩
    · have hs' := hs.listed hp hv
      exact ⟨iff_of_true (hs'.orderly ha nofun nofun) trivial, fun _ => hs'⟩
  | lend name admitted hasAccount index =>
    rcases lend_cases h table name admitted hasAccount index with
      ⟨⟨hidle, ha⟩, hcond⟩ | ⟨row, r, slot, hadm, hfree, hlends, ha, hv⟩
    · exact ⟨iff_of_true (hidle.orderly ha hs) hcond, fun _ => hidle.sound hs⟩
    · have hiff := hs.orderly_lent hlends ha hv
      have hcond : h.Condition (.lend name admitted hasAccount index) ↔
          LendCondition h.world name row := by
        constructor
        · exact fun hcond => hcond hadm hfree row r slot hlends
        · rintro hcond - - row' r' slot' hlends'
          have hrow := hlends.row_eq.symm.trans hlends'.row_eq
          obtain rfl := Option.some.inj hrow
          exact hcond
      exact ⟨hiff.trans hcond.symm, fun hc =>
        hs.lent hlends hv ((hs.apart_lent hlends hv).mpr (hcond.mp hc).2)⟩
  | cancel name admitted index =>
    rcases cancel_cases h table name admitted index with
      ⟨⟨hidle, ha⟩, hcond⟩ | ⟨row, r, hadm, hfree, hc, ha, hv⟩
    · exact ⟨iff_of_true (hidle.orderly ha hs) hcond, fun _ => hidle.sound hs⟩
    · obtain ⟨hiff, hsound⟩ := hs.orderly_cancelled hc ha hv
      have hcond : h.Condition (.cancel name admitted index) ↔
          h.CancelCondition name index row r := by
        constructor
        · exact fun hcond => hcond hadm hfree row r hc
        · rintro hcond - - row' r' hc'
          have hrow := hc.row_eq.symm.trans hc'.row_eq
          have hrenter := hc.renter_eq.symm.trans hc'.renter_eq
          obtain rfl := Option.some.inj hrow
          obtain rfl := Option.some.inj hrenter
          exact hcond
      exact ⟨hiff.trans hcond.symm, fun hc => hsound (hcond.mp hc)⟩

/-- Every request of a run goes as asked exactly where every request meets the condition. -/
theorem rentals_orderly_iff (table : ItemTable) (h : RentalHistory) (hstart : h.Start)
    (events : List RentalEvent) :
    Run.Along (RentalHistory.step table) (Orderly table) h events ↔
      Run.Along (RentalHistory.step table) Condition h events := by
  refine Run.along_congr Sound (fun h e hs horderly => ?_)
    (fun h e hs => (hs.step_iff table e).1) hstart.sound
  exact (hs.step_iff table e).2 ((hs.step_iff table e).1.mp horderly)

end RentalHistory

namespace RentalHistory

def lenderName : RenterName := ⟨['A'], nofun⟩
def borrowerName : RenterName := ⟨['B'], nofun⟩

def swordBag : Inventory :=
  Inventory.padded
    (List.replicate SLOT_MAX ({} : UserItemSlot) ++ [{ itemId := 120050, count := 1, serialNum := 7 }])

/-- The first character has the sword, the second a free slot and 100 coins. -/
def market : RentalHistory where
  world :=
    { renters := fun name =>
        if name = lenderName then some ⟨0, swordBag, by decide⟩
        else if name = borrowerName then
          some ⟨100, List.replicate (SLOT_MAX + 1) ({} : UserItemSlot), by decide⟩
        else none
      rentalItems := fun _ => none
      rentalIndexCounter := 0
      pending := fun _ => none }
  listings := fun _ => none

def rentSword (price : ℕ) (hprice : price < 2 ^ 32) : List RentalEvent :=
  [.register lenderName true true ⟨SLOT_MAX, 24, price, hprice⟩, .counted lenderName .noPool,
    .lend borrowerName true true 1]

theorem market_start : market.Start := ⟨fun _ => rfl, fun _ => rfl, fun _ => rfl⟩

theorem freePrice_lt : 0 < 2 ^ 32 := by decide

/-- The world in which the sword is listed for nothing. -/
def freeSword : RentalHistory :=
  Run.run (step fun _ => some {}) market
    [.register lenderName true true ⟨SLOT_MAX, 24, 0, freePrice_lt⟩, .counted lenderName .noPool]

theorem freeSword_row : freeSword.world.rentalItems (asI32 1) =
    some ⟨1, 120050, 0, 7, 24, 0, ['A'], []⟩ := by decide +kernel

theorem rentSword_orderly : Run.Along (RentalHistory.step fun _ => some {})
    (Orderly fun _ => some {}) market (rentSword 0 (by decide)) := by
  refine (rentals_orderly_iff _ market market_start _).mpr ⟨trivial, trivial, ?_, trivial⟩
  intro _ _ row r slot hlends
  have hrow : some row = some _ := hlends.row_eq.symm.trans freeSword_row
  obtain rfl := Option.some.inj hrow
  refine ⟨by decide +kernel, fun lender _ hboth => ?_⟩
  obtain ⟨-, r', hr', s, hs, hitem, -⟩ := hboth
  have hbag : r'.inventory = List.replicate (SLOT_MAX + 1) ({} : UserItemSlot) := by
    have hbag' : (freeSword.world.renters borrowerName).map Renter.inventory =
      some (List.replicate (SLOT_MAX + 1) ({} : UserItemSlot)) := by decide +kernel
    have hr'' : freeSword.world.renters borrowerName = some r' := hr'
    rw [hr''] at hbag'
    exact Option.some.inj hbag'
  rw [hbag] at hs
  rw [List.eq_of_mem_replicate hs] at hitem
  revert hitem
  decide +kernel

/-- The borrower of a sword listed for 100 coins pays them, and the lender has none of them. -/
theorem rentSword_unpaid : ¬Run.Along (RentalHistory.step fun _ => some {})
    (Orderly fun _ => some {}) market (rentSword 100 (by decide)) := by
  rintro ⟨-, -, hlend, -⟩
  obtain ⟨l, hl, hpaid⟩ := hlend.paid borrowerName true true 1 rfl (by decide +kernel)
  have hl' : (Run.run (step fun _ => some {}) market
      [.register lenderName true true ⟨SLOT_MAX, 24, 100, by decide⟩,
        .counted lenderName .noPool]).listings (asI32 1) =
      some ⟨lenderName, SLOT_MAX, 0, 100, []⟩ := by decide +kernel
  have hl'' : some l = some _ := hl.symm.trans hl'
  obtain rfl := Option.some.inj hl''
  have hcredited := hpaid.credited
  revert hcredited
  decide +kernel

end RentalHistory

end KoServer
