import KoServer.Proofs.TradeGoesThrough
import KoServer.Spec.TradeEnd

/-! Every end of a trade but its execution. A packet that ends it gives both players back what
their entries can carry; a zone change, a logout and a lost connection give nothing back. -/

namespace KoServer

open Ledger

/-- What was taken for the entry, as far as its counter can tell. -/
def Counted (d : ℕ) (ex : ExchangeItem) : Prop :=
  asU16 ex.count = d % 2 ^ 16 ∨ ex.count = 2 ^ 32 - 1

/-- The `d` units that were taken for the entry find their place in its slot. -/
def Rejoins (d : ℕ) (inv : Inventory) (ex : ExchangeItem) : Prop :=
  if inv.length ≤ ex.srcPos then d = 0
  else if (inv.slot ex.srcPos).itemId = ex.itemId then
    (inv.slot ex.srcPos).count + d ≤ ITEMCOUNT_MAX ∧
      (ex.count ≠ 2 ^ 32 - 1 ∨ (inv.slot ex.srcPos).count = 0)
  else if (inv.slot ex.srcPos).itemId = 0 then d < 2 ^ 16
  else d = 0

def ComesBack (taken : ℕ → ℕ) (d : ExchangeItem → ℕ) : Inventory → List ExchangeItem → Prop
  | _, [] => True
  | inv, ex :: items =>
    (taken ex.itemId ≠ 0 → Rejoins (d ex) inv ex) ∧ ComesBack taken d (returnItem inv ex) items

instance (d : ℕ) (inv : Inventory) (ex : ExchangeItem) : Decidable (Rejoins d inv ex) :=
  inferInstanceAs (Decidable (ite _ _ _))

instance decidableComesBack (taken : ℕ → ℕ) (d : ExchangeItem → ℕ) :
    ∀ (inv : Inventory) (items : List ExchangeItem), Decidable (ComesBack taken d inv items)
  | _, [] => inferInstanceAs (Decidable True)
  | inv, ex :: items =>
    have := decidableComesBack taken d (returnItem inv ex) items
    inferInstanceAs (Decidable ((taken ex.itemId ≠ 0 → Rejoins (d ex) inv ex) ∧
      ComesBack taken d (returnItem inv ex) items))

def entryShare (d : ExchangeItem → ℕ) (id : ℕ) (ex : ExchangeItem) : ℕ :=
  if ex.itemId = id then d ex else 0

section

variable {table : ItemTable} {inv : Inventory} {ex : ExchangeItem} {items : List ExchangeItem}
  {taken : ℕ → ℕ} {d : ExchangeItem → ℕ} {n id : ℕ}

theorem entryShare_self : entryShare d ex.itemId ex = d ex := if_pos rfl

theorem entryShare_ne (hid : ex.itemId ≠ id) : entryShare d id ex = 0 := if_neg hid

/-- The slot takes the entry: it has the item still, or has nothing. -/
structure TakesBack (inv : Inventory) (ex : ExchangeItem) (count : ℕ) : Prop where
  inRange : ex.srcPos < inv.length
  before : (inv.slot ex.srcPos).itemId = ex.itemId ∨ (inv.slot ex.srcPos).itemId = 0
  after : ∃ s, s.itemId = ex.itemId ∧ s.count = count ∧ returnItem inv ex = inv.set ex.srcPos s

theorem takesBack_same (hlen : ex.srcPos < inv.length)
    (hsame : (inv.slot ex.srcPos).itemId = ex.itemId) :
    TakesBack inv ex (min (((inv.slot ex.srcPos).count + asU16 ex.count) % 2 ^ 16) ITEMCOUNT_MAX) := by
  refine ⟨hlen, .inl hsame, ?_⟩
  unfold returnItem
  rw [if_neg (not_le.mpr hlen), if_pos hsame]
  refine ⟨_, ?_, ?_, rfl⟩
  · exact hsame
  · rfl

theorem takesBack_empty (hlen : ex.srcPos < inv.length) (hid : ex.itemId ≠ 0)
    (hempty : (inv.slot ex.srcPos).itemId = 0) : TakesBack inv ex (asU16 ex.count) := by
  refine ⟨hlen, .inr hempty, ?_⟩
  unfold returnItem
  rw [if_neg (not_le.mpr hlen), if_neg (by rw [hempty]; exact hid.symm), if_pos hempty]
  exact ⟨_, rfl, rfl, rfl⟩

theorem TakesBack.total_self {count : ℕ} (ha : TakesBack inv ex count) :
    Tally.total (stack ex.itemId) (returnItem inv ex) + stack ex.itemId (inv.slot ex.srcPos) =
      Tally.total (stack ex.itemId) inv + count := by
  obtain ⟨s, hs, rfl, hset⟩ := ha.after
  rw [hset, ← stack_of_same hs]
  exact Tally.total_set (stack ex.itemId) ha.inRange s {}

theorem TakesBack.total_ne {count : ℕ} (ha : TakesBack inv ex count) (hid : id ≠ 0)
    (hne : id ≠ ex.itemId) :
    Tally.total (stack id) (returnItem inv ex) = Tally.total (stack id) inv := by
  obtain ⟨s, hs, -, hset⟩ := ha.after
  have hsum := Tally.total_set (stack id) ha.inRange s ({} : UserItemSlot)
  have hold : stack id (inv.getD ex.srcPos {}) = 0 := by
    rcases ha.before with hbefore | hbefore
    · exact stack_of_other hbefore hne
    · exact stack_of_other hbefore hid
  rw [hold, stack_of_other hs hne] at hsum
  rw [hset]
  exact hsum

theorem returnItem_other (hsame : (inv.slot ex.srcPos).itemId ≠ ex.itemId)
    (hempty : (inv.slot ex.srcPos).itemId ≠ 0) : returnItem inv ex = inv := by
  unfold returnItem
  rw [if_neg hsame, if_neg hempty, ite_self]

theorem returnItem_cases (inv : Inventory) (hid : ex.itemId ≠ 0) :
    (∃ count, TakesBack inv ex count) ∨ returnItem inv ex = inv := by
  rcases Nat.lt_or_ge ex.srcPos inv.length with hlen | hlen
  · by_cases hsame : (inv.slot ex.srcPos).itemId = ex.itemId
    · exact .inl ⟨_, takesBack_same hlen hsame⟩
    by_cases hempty : (inv.slot ex.srcPos).itemId = 0
    · exact .inl ⟨_, takesBack_empty hlen hid hempty⟩
    · exact .inr (returnItem_other hsame hempty)
  · exact .inr (if_pos hlen)

theorem total_returnItem_ne (hid : ex.itemId ≠ 0) (hid' : id ≠ 0) (hne : id ≠ ex.itemId) :
    Tally.total (stack id) (returnItem inv ex) = Tally.total (stack id) inv := by
  rcases returnItem_cases inv hid with ⟨count, ha⟩ | hsame
  · exact ha.total_ne hid' hne
  · rw [hsame]

/-- Never more than the low half of the counter. -/
theorem total_returnItem_le (inv : Inventory) (hid : ex.itemId ≠ 0) :
    Tally.total (stack ex.itemId) (returnItem inv ex) ≤
      Tally.total (stack ex.itemId) inv + asU16 ex.count := by
  rcases Nat.lt_or_ge ex.srcPos inv.length with hlen | hlen
  · by_cases hsame : (inv.slot ex.srcPos).itemId = ex.itemId
    · have hsum := (takesBack_same hlen hsame).total_self
      rw [stack_of_same hsame] at hsum
      omega
    by_cases hempty : (inv.slot ex.srcPos).itemId = 0
    · have hsum := (takesBack_empty hlen hid hempty).total_self
      omega
    · rw [returnItem_other hsame hempty]
      exact Nat.le_add_right _ _
  · rw [show returnItem inv ex = inv from if_pos hlen]
    exact Nat.le_add_right _ _

theorem rejoins_iff (inv : Inventory) (hid : ex.itemId ≠ 0) (hc : Counted n ex) :
    Tally.total (stack ex.itemId) inv + n ≤ Tally.total (stack ex.itemId) (returnItem inv ex) ↔
      Rejoins n inv ex := by
  have hmax : ITEMCOUNT_MAX = 9999 := rfl
  unfold Counted asU16 at hc
  unfold Rejoins
  split_ifs with hlen hsame hempty
  · rw [show returnItem inv ex = inv from if_pos hlen]
    omega
  · have hsum := (takesBack_same (not_le.mp hlen) hsame).total_self
    rw [stack_of_same hsame] at hsum
    unfold asU16 at hsum
    omega
  · have hsum := (takesBack_empty (not_le.mp hlen) hid hempty).total_self
    rw [stack_of_other hempty hid] at hsum
    unfold asU16 at hsum
    omega
  · rw [returnItem_other hsame hempty]
    omega

/-- The entries of a list and what was taken for them: an item that stacks has one entry. -/
structure Shares (table : ItemTable) (d : ExchangeItem → ℕ) (items : List ExchangeItem) : Prop where
  itemId_ne : ∀ ex ∈ items, ex.itemId ≠ 0
  single : items.Pairwise fun e e' => e.itemId = e'.itemId → countableOf table e.itemId ≤ 0
  loose : ∀ ex ∈ items, countableOf table ex.itemId ≤ 0 → d ex = asU16 ex.count
  counted : ∀ ex ∈ items, Counted (d ex) ex

theorem Shares.tail (hs : Shares table d (ex :: items)) : Shares table d items :=
  ⟨fun e he => hs.itemId_ne e (List.mem_cons_of_mem ex he), hs.single.of_cons,
    fun e he => hs.loose e (List.mem_cons_of_mem ex he),
    fun e he => hs.counted e (List.mem_cons_of_mem ex he)⟩

theorem total_returnItems_ne (hids : ∀ ex ∈ items, ex.itemId ≠ 0) (hid : id ≠ 0)
    (hno : ∀ ex ∈ items, ex.itemId ≠ id) :
    Tally.total (stack id) (items.foldl returnItem inv) = Tally.total (stack id) inv := by
  induction items generalizing inv with
  | nil => rfl
  | cons ex items ih =>
    obtain ⟨hex, hids⟩ := List.forall_mem_cons.mp hids
    obtain ⟨hne, hno⟩ := List.forall_mem_cons.mp hno
    rw [List.foldl_cons, ih hids hno]
    exact total_returnItem_ne hex hid hne.symm

/-- Entries that are not joined never give back more than was taken for them. -/
theorem total_returnItems_le (inv : Inventory) (hs : Shares table d items) (hid : id ≠ 0)
    (hloose : countableOf table id ≤ 0) :
    Tally.total (stack id) (items.foldl returnItem inv) ≤
      Tally.total (stack id) inv + Tally.total (entryShare d id) items := by
  induction items generalizing inv with
  | nil => exact Nat.le_add_right _ _
  | cons ex items ih =>
    have hex := hs.itemId_ne ex List.mem_cons_self
    have hrest := ih (returnItem inv ex) hs.tail
    rw [List.foldl_cons, Tally.total_cons]
    rcases eq_or_ne ex.itemId id with rfl | hne
    · have hle := total_returnItem_le inv hex
      rw [entryShare_self, hs.loose ex List.mem_cons_self hloose]
      omega
    · rw [entryShare_ne hne]
      rw [total_returnItem_ne hex hid hne.symm] at hrest
      omega

theorem total_entryShare_none (hno : ∀ ex ∈ items, ex.itemId ≠ id) :
    Tally.total (entryShare d id) items = 0 := by
  induction items with
  | nil => rfl
  | cons ex items ih =>
    obtain ⟨hne, hno⟩ := List.forall_mem_cons.mp hno
    rw [Tally.total_cons, entryShare_ne hne, ih hno]

/-- The entry of an item that stacks is the last one of the item. -/
theorem Shares.others_ne (hs : Shares table d (ex :: items))
    (hcountable : 0 < countableOf table ex.itemId) : ∀ e ∈ items, e.itemId ≠ ex.itemId :=
  fun _ he hid => absurd (List.rel_of_pairwise_cons hs.single he hid.symm) (not_le.mpr hcountable)

/-- All units come back if and only if each entry's do: what one entry loses no other makes up. -/
theorem comesBack_iff (inv : Inventory) (hs : Shares table d items) :
    (∀ id, id ≠ 0 → taken id ≠ 0 → Tally.total (stack id) inv + Tally.total (entryShare d id) items ≤
      Tally.total (stack id) (items.foldl returnItem inv)) ↔ ComesBack taken d inv items := by
  induction items generalizing inv with
  | nil => exact ⟨fun _ => trivial, fun _ _ _ _ => le_rfl⟩
  | cons ex items ih =>
    have hex := hs.itemId_ne ex List.mem_cons_self
    have hrejoins := rejoins_iff inv hex (hs.counted ex List.mem_cons_self)
    change _ ↔ (taken ex.itemId ≠ 0 → Rejoins (d ex) inv ex) ∧
      ComesBack taken d (returnItem inv ex) items
    rw [← hrejoins, ← ih (returnItem inv ex) hs.tail]
    simp only [List.foldl_cons, Tally.total_cons]
    constructor
    · intro hall
      have hmine : taken ex.itemId ≠ 0 →
          Tally.total (stack ex.itemId) inv + d ex ≤
              Tally.total (stack ex.itemId) (returnItem inv ex) ∧
            Tally.total (stack ex.itemId) (returnItem inv ex) +
                Tally.total (entryShare d ex.itemId) items ≤
              Tally.total (stack ex.itemId) (items.foldl returnItem (returnItem inv ex)) := by
        intro hasked
        have hboth := hall ex.itemId hex hasked
        rw [entryShare_self] at hboth
        rcases le_or_gt (countableOf table ex.itemId) 0 with hloose | hcountable
        · have hrest := total_returnItems_le (returnItem inv ex) hs.tail hex hloose
          have hle := total_returnItem_le inv hex
          rw [← hs.loose ex List.mem_cons_self hloose] at hle
          omega
        · have hno := hs.others_ne hcountable
          rw [total_returnItems_ne hs.tail.itemId_ne hex hno, total_entryShare_none hno] at hboth ⊢
          omega
      refine ⟨fun hasked => (hmine hasked).1, fun id hid hasked => ?_⟩
      rcases eq_or_ne id ex.itemId with rfl | hne
      · exact (hmine hasked).2
      · have hother := hall id hid hasked
        rw [entryShare_ne hne.symm] at hother
        rw [total_returnItem_ne hex hid hne]
        omega
    · rintro ⟨hmine, hrest⟩ id hid hasked
      have hothers := hrest id hid hasked
      rcases eq_or_ne id ex.itemId with rfl | hne
      · have := hmine hasked
        rw [entryShare_self]
        omega
      · rw [total_returnItem_ne hex hid hne] at hothers
        rw [entryShare_ne hne.symm]
        omega

end

def Belongings.amount (g : Belongings) (id : ℕ) : ℕ :=
  if id = ITEM_GOLD then g.gold else Tally.total (stack id) g.inventory

def Session.belongings (h : Session) : Belongings := ⟨h.inventory, h.gold⟩

/-- The trade of `s` is open, and its list is as it was, whatever happened to what `s` holds. -/
def SameOffers (w w' : World) (s : SessionId) : Prop :=
  ∃ h h', w s = some h ∧ w' s = some h' ∧ h'.tradeState.isOpen = true ∧
    h'.exchangeUser = h.exchangeUser ∧ h'.exchangeItems = h.exchangeItems ∧
    h'.inventory.length = h.inventory.length

/-- An open trade, with what the accepted offers have taken of each item from each side. Beside
them anything else may happen, as that a side decides. -/
inductive Bargain (table : ItemTable) (a b : SessionId) : World → (SessionId → ℕ → ℕ) → Prop where
  | opened {w : World} (h : TradeOpened w a b) : Bargain table a b w fun _ _ => 0
  | offer {w : World} {taken : SessionId → ℕ → ℕ} {s : TradeStep} (h : Bargain table a b w taken)
      (hs : TakesOffer table a b w s) : Bargain table a b (tradeStep table w s) fun t id =>
        taken t id + ((w.session t).belongings.amount id -
          ((tradeStep table w s).session t).belongings.amount id)
  | elsewhere {w w' : World} {taken : SessionId → ℕ → ℕ} (h : Bargain table a b w taken)
      (ha : SameOffers w w' a) (hb : SameOffers w w' b) : Bargain table a b w' taken

def takenFor (table : ItemTable) (taken : ℕ → ℕ) (ex : ExchangeItem) : ℕ :=
  if 0 < countableOf table ex.itemId then taken ex.itemId else asU16 ex.count

structure Accounted (table : ItemTable) (taken : ℕ → ℕ) (items : List ExchangeItem) : Prop where
  offers : Offers table items
  gold : taken ITEM_GOLD < 2 ^ 32 - 1 → Tally.total offeredGold items = taken ITEM_GOLD
  loose : ∀ id, id ≠ ITEM_GOLD → countableOf table id ≤ 0 →
    taken id = Tally.total (entryShare (fun ex => asU16 ex.count) id) items
  counted : ∀ ex ∈ items, ex.itemId ≠ ITEM_GOLD → 0 < countableOf table ex.itemId →
    Counted (taken ex.itemId) ex
  unlisted : ∀ id, (∀ ex ∈ items, ex.itemId ≠ id) → taken id = 0

section

variable {table : ItemTable} {h h' : Session} {ex : ExchangeItem} {items items' : List ExchangeItem}
  {taken : ℕ → ℕ} {id itemId count : ℕ} {req : ExchangeAdd}

theorem amount_gold (h : Session) : h.belongings.amount ITEM_GOLD = h.gold := if_pos rfl

theorem amount_item (hgold : id ≠ ITEM_GOLD) (h : Session) :
    h.belongings.amount id = Tally.total (stack id) h.inventory := if_neg hgold

theorem amount_offerGold (hcount : count ≤ h.gold) :
    h.belongings.amount id - (h.offerGold count).belongings.amount id =
      if id = ITEM_GOLD then count else 0 := by
  have hgold : (h.offerGold count).gold = h.gold - count ∧
      (h.offerGold count).inventory = h.inventory := by
    unfold Session.offerGold Session.goldLose Session.addExchangeItem
    split <;> exact ⟨if_pos hcount, rfl⟩
  split_ifs with hcoins
  · rw [hcoins, amount_gold, amount_gold, hgold.1]
    omega
  · rw [amount_item hcoins, amount_item hcoins, hgold.2]
    omega

theorem total_takeOffered (id : ℕ) {inv : Inventory} {i : ℕ} (hrange : i < inv.length)
    (hcount : asU16 count ≤ (inv.slot i).count) :
    Tally.total (stack id) (Session.takeOffered inv i count) +
        (if id = (inv.slot i).itemId then asU16 count else 0) =
      Tally.total (stack id) inv := by
  have htake : Session.takeOffered inv i count = Session.takeOffered inv i (asU16 count) := by
    unfold Session.takeOffered asU16
    rw [Nat.mod_mod]
  have hcut : asU16 count < 2 ^ 16 := Nat.mod_lt _ (by decide)
  obtain ⟨s, hs, hscount, hsid⟩ := takeOffered_eq hrange hcut
  have hsum := Tally.total_set (stack id) hrange s ({} : UserItemSlot)
  have hstack : stack id s + (if id = (inv.slot i).itemId then asU16 count else 0) =
      stack id (inv.slot i) := by
    unfold stack
    rw [hsid, hscount]
    split_ifs <;> omega
  rw [htake, hs]
  change _ + stack id (inv.slot i) = _ at hsum
  omega

theorem amount_offerItem (ho : Offerable h req) :
    h.belongings.amount id - (h.offerItem table req).belongings.amount id =
      if id = req.itemId then asU16 req.count else 0 := by
  obtain ⟨hinv, hgold⟩ := inventory_offerItem table h req
  rcases eq_or_ne id ITEM_GOLD with rfl | hcoins
  · rw [if_neg ho.not_gold.symm, amount_gold, amount_gold, hgold]
    omega
  · have hsum := total_takeOffered id ho.inRange ho.enough
    rw [ho.sameItem] at hsum
    rw [amount_item hcoins, amount_item hcoins, hinv]
    omega

theorem update_entry (hupdate : updateExchangeItemCount itemId count items = some items') :
    ∃ e ∈ items, e.itemId = itemId ∧
      { e with count := min (e.count + count) (2 ^ 32 - 1) } ∈ items' ∧
      ∀ ex ∈ items', ex.itemId ≠ itemId → ex ∈ items := by
  induction items generalizing items' with
  | nil => cases hupdate
  | cons ex items ih =>
    unfold updateExchangeItemCount at hupdate
    split_ifs at hupdate with hid
    · obtain rfl := Option.some.inj hupdate
      refine ⟨ex, List.mem_cons_self, hid, List.mem_cons_self, ?_⟩
      exact List.forall_mem_cons.mpr ⟨fun hne => absurd hid hne,
        fun e he _ => List.mem_cons_of_mem ex he⟩
    · obtain ⟨rest, hrest, rfl⟩ := Option.map_eq_some_iff.mp hupdate
      obtain ⟨e, he, heid, hgrown, hothers⟩ := ih hrest
      refine ⟨e, List.mem_cons_of_mem ex he, heid, List.mem_cons_of_mem ex hgrown, ?_⟩
      exact List.forall_mem_cons.mpr ⟨fun _ => List.mem_cons_self,
        fun e' he' hne => List.mem_cons_of_mem ex (hothers e' he' hne)⟩

theorem accounted_nil : Accounted table (fun _ => 0) [] := by
  refine ⟨offers_nil, fun _ => rfl, fun _ _ _ => rfl, ?_, fun _ _ => rfl⟩
  intro ex hex
  cases hex

theorem unlisted_update (hr : Accounted table taken items)
    (hupdate : updateExchangeItemCount itemId count items = some items')
    (hno : ∀ ex ∈ items', ex.itemId ≠ id) : taken id = 0 ∧ id ≠ itemId := by
  obtain ⟨e, he, heid, hgrown, -⟩ := update_entry hupdate
  refine ⟨hr.unlisted id fun ex hex hid => ?_, fun hid => hno _ hgrown (by exact heid.trans hid.symm)⟩
  have hmem : id ∈ items'.map ExchangeItem.itemId := by
    rw [update_itemIds hupdate, ← hid]
    exact List.mem_map_of_mem hex
  obtain ⟨ex', hex', hid'⟩ := List.mem_map.mp hmem
  exact hno ex' hex' hid'

/-- Gold that joins the gold already on the list. -/
theorem Accounted.goldUpdate (hr : Accounted table taken items)
    (hupdate : updateExchangeItemCount ITEM_GOLD count items = some items') :
    Accounted table (fun id => taken id + if id = ITEM_GOLD then count else 0) items' := by
  obtain ⟨e, he, heid, htotal⟩ := update_total hupdate
  obtain ⟨-, -, -, -, hothers⟩ := update_entry hupdate
  refine ⟨hr.offers.update hupdate, fun hlt => ?_, fun id hid hloose => ?_, fun ex hex hne hcount => ?_,
    fun id hno => ?_⟩
  · rw [if_pos rfl] at hlt ⊢
    have hsum := htotal offeredGold
    have hle := Tally.le_total offeredGold he
    have hgold := hr.gold (by omega)
    rw [offeredGold_gold heid] at hsum hle
    rw [offeredGold_gold (by exact heid)] at hsum
    dsimp only at hsum
    omega
  · have hsum := htotal (entryShare (fun ex => asU16 ex.count) id)
    have hother : e.itemId ≠ id := fun hsame => hid (hsame.symm.trans heid)
    rw [entryShare_ne hother, entryShare_ne (by exact hother)] at hsum
    rw [if_neg hid, hr.loose id hid hloose]
    omega
  · rw [if_neg hne]
    exact hr.counted ex (hothers ex hex hne) hne hcount
  · obtain ⟨hzero, hne⟩ := unlisted_update hr hupdate hno
    rw [hzero, if_neg hne]

theorem Accounted.itemUpdate (hr : Accounted table taken items) (hgold : itemId ≠ ITEM_GOLD)
    (hcountable : 0 < countableOf table itemId)
    (hupdate : updateExchangeItemCount itemId count items = some items') :
    Accounted table (fun id => taken id + if id = itemId then asU16 count else 0) items' := by
  obtain ⟨e, he, heid, htotal⟩ := update_total hupdate
  obtain ⟨e', he', heid', hgrown, hothers⟩ := update_entry hupdate
  have hne : e.itemId ≠ ITEM_GOLD := heid ▸ hgold
  have hoffers := hr.offers.update hupdate
  refine ⟨hoffers, fun hlt => ?_, fun id hid hloose => ?_, fun ex hex hex' hcount => ?_,
    fun id hno => ?_⟩
  · rw [if_neg hgold.symm] at hlt ⊢
    have hsum := htotal offeredGold
    rw [offeredGold_item hne, offeredGold_item (by exact hne)] at hsum
    exact hsum.trans (hr.gold hlt)
  · have hsum := htotal (entryShare (fun ex => asU16 ex.count) id)
    have hother : id ≠ itemId := fun hsame => absurd hloose (not_le.mpr (hsame ▸ hcountable))
    rw [entryShare_ne (heid ▸ hother.symm), entryShare_ne (by exact heid ▸ hother.symm)] at hsum
    rw [if_neg hother, hr.loose id hid hloose]
    omega
  · rcases eq_or_ne ex.itemId itemId with hid | hid
    · -- of an item that stacks the grown entry is the only one
      obtain rfl := hoffers.unique hex hgrown (by exact hid.trans heid'.symm) hcount
      have hbefore := hr.counted e' he' (heid' ▸ hgold) (heid' ▸ hcountable)
      dsimp only
      rw [heid'] at hbefore ⊢
      rw [if_pos rfl]
      unfold Counted asU16 at hbefore ⊢
      dsimp only
      omega
    · rw [if_neg hid]
      exact hr.counted ex (hothers ex hex hid) hex' hcount
  · obtain ⟨hzero, hne⟩ := unlisted_update hr hupdate hno
    rw [hzero, if_neg hne]

theorem Accounted.goldAppend (ex : ExchangeItem) (hr : Accounted table taken items)
    (hno : ∀ ex ∈ items, ex.itemId ≠ ITEM_GOLD) (hid : ex.itemId = ITEM_GOLD) :
    Accounted table (fun id => taken id + if id = ITEM_GOLD then ex.count else 0) (items ++ [ex]) := by
  refine ⟨hr.offers.append (fun hne => absurd hid hne) (.inr (hid ▸ hno)), fun hlt => ?_,
    fun id hne hloose => ?_, fun e he hne hcount => ?_, fun id hnone => ?_⟩
  · have hzero := hr.unlisted ITEM_GOLD hno
    rw [if_pos rfl, Tally.total_append, Tally.total_cons, offeredGold_gold hid,
      hr.gold (by omega)]
    rfl
  · have hother : ex.itemId ≠ id := fun hsame => hne (hsame.symm.trans hid)
    rw [if_neg hne, Tally.total_append, Tally.total_cons, entryShare_ne hother, hr.loose id hne hloose]
    rfl
  · rw [if_neg hne]
    rcases List.mem_append.mp he with he | he
    · exact hr.counted e he hne hcount
    · exact absurd ((List.mem_singleton.mp he) ▸ hid) hne
  · rw [List.forall_mem_append] at hnone
    have hother := hnone.2 ex (List.mem_singleton_self ex)
    rw [hr.unlisted id hnone.1, if_neg fun hsame => hother (hid.trans hsame.symm)]

theorem Accounted.itemAppend (ex : ExchangeItem) (hr : Accounted table taken items) (hgold : ex.itemId ≠ ITEM_GOLD)
    (hex : (table ex.itemId).isSome ∧ ex.itemId ≠ 0 ∧ 0 < ex.count)
    (hnew : countableOf table ex.itemId ≤ 0 ∨ ∀ e ∈ items, e.itemId ≠ ex.itemId) :
    Accounted table (fun id => taken id + if id = ex.itemId then asU16 ex.count else 0)
      (items ++ [ex]) := by
  refine ⟨hr.offers.append (fun _ => hex) hnew, fun hlt => ?_, fun id hne hloose => ?_,
    fun e he hne hcount => ?_, fun id hnone => ?_⟩
  · rw [if_neg hgold.symm] at hlt ⊢
    rw [Tally.total_append, Tally.total_cons, offeredGold_item hgold, hr.gold hlt]
    rfl
  · rw [Tally.total_append, Tally.total_cons, Tally.total_nil, hr.loose id hne hloose]
    congr 1
    unfold entryShare
    split_ifs <;> first | rfl | omega
  · rcases List.mem_append.mp he with he | he
    · have hother : e.itemId ≠ ex.itemId := fun hsame =>
        hnew.elim (fun hle => absurd hle (not_le.mpr (hsame ▸ hcount))) fun hno => hno e he hsame
      rw [if_neg hother]
      exact hr.counted e he hne hcount
    · obtain rfl := List.mem_singleton.mp he
      have hno := hnew.resolve_left (not_le.mpr hcount)
      rw [hr.unlisted e.itemId hno, if_pos rfl, Nat.zero_add]
      exact .inl (Nat.mod_mod _ _).symm
  · rw [List.forall_mem_append] at hnone
    have hother := hnone.2 ex (List.mem_singleton_self ex)
    rw [hr.unlisted id hnone.1, if_neg hother.symm]

theorem Accounted.offerGold (hr : Accounted table taken h.exchangeItems) (hcount : count ≤ h.gold) :
    Accounted table (fun id => taken id + (h.belongings.amount id - (h.offerGold count).belongings.amount id))
      (h.offerGold count).exchangeItems := by
  simp only [amount_offerGold hcount]
  unfold Session.offerGold
  split
  · next items hupdate => exact hr.goldUpdate hupdate
  · next hupdate =>
    exact Accounted.goldAppend ⟨ITEM_GOLD, count, 0, 0, 255⟩ hr (update_none hupdate) rfl

theorem Accounted.offerItem (hr : Accounted table taken h.exchangeItems) (ho : Offerable h req)
    (hknown : (table req.itemId).isSome) (hcount : 0 < req.count) :
    Accounted table
      (fun id => taken id + (h.belongings.amount id - (h.offerItem table req).belongings.amount id))
      (h.offerItem table req).exchangeItems := by
  simp only [amount_offerItem ho]
  rcases exchangeItems_offerItem table h req with ⟨items, hcountable, hupdate, heq⟩ | ⟨hnew, heq⟩
  · rw [heq]
    exact hr.itemUpdate ho.not_gold hcountable hupdate
  · rw [heq]
    exact Accounted.itemAppend ⟨req.itemId, req.count, _, _, _⟩ hr ho.not_gold
      ⟨hknown, ho.itemId_ne, hcount⟩ hnew

end

def Side (table : ItemTable) (w : World) (taken : ℕ → ℕ) (s p : SessionId) : Prop :=
  ∃ h, w s = some h ∧ h.exchangeUser = some p ∧ h.tradeState.isOpen = true ∧
    Accounted table taken h.exchangeItems ∧
    (h.inventory = [] → ∀ id, id ≠ ITEM_GOLD → taken id = 0)

section

variable {table : ItemTable} {w w' : World} {taken : ℕ → ℕ} {a b sid p : SessionId}
  {s : TradeStep} {req : ExchangeAdd} {h k : Session} {items : List ExchangeItem}

theorem Side.offer (hs : Side table w taken s.sid p) (hmsg : s.msg = .add req)
    (hbusy : s.env.busy s.sid = false)
    (hv : addVerdict table s.env w s.sid req = .gold ∨
      addVerdict table s.env w s.sid req = .item) :
    Side table (tradeStep table w s) (fun id => taken id + ((w.session s.sid).belongings.amount id -
        ((tradeStep table w s).session s.sid).belongings.amount id)) s.sid p ∧
      ∀ t, t ≠ s.sid → tradeStep table w s t = w t := by
  obtain ⟨h, hh, huser, hopen, hr, hnone⟩ := hs
  obtain ⟨h', hh', htaken, huser', hstate', hother⟩ := tradeStep_taken hh hmsg hbusy hv
  refine ⟨⟨h', hh', huser'.trans huser, hstate' ▸ hopen, ?_, ?_⟩, hother⟩
  · rw [session_eq hh, session_eq hh']
    cases htaken with
    | gold _ hcount _ => exact hr.offerGold hcount
    | item ho hknown hcount _ => exact hr.offerItem ho hknown hcount
  · rw [session_eq hh, session_eq hh']
    cases htaken with
    | gold _ hcount _ =>
      intro hempty id hid
      have hsame : (h.offerGold req.count).inventory = h.inventory := by
        unfold Session.offerGold Session.goldLose Session.addExchangeItem
        split <;> rfl
      rw [hsame] at hempty
      simp only [amount_offerGold hcount, if_neg hid, hnone hempty id hid]
    | item ho _ _ _ =>
      intro hempty
      have hlen := congrArg List.length (inventory_offerItem table h req).1
      unfold Session.takeOffered at hlen
      rw [hempty, if_pos ho.inRange] at hlen
      have hrange := ho.inRange
      dsimp only at hlen
      split_ifs at hlen <;> rw [List.length_set] at hlen <;> simp only [List.length_nil] at hlen <;>
        omega

theorem Side.of_eq (hs : Side table w taken sid p) (heq : w' sid = w sid) :
    Side table w' taken sid p := by
  obtain ⟨h, hh, hrest⟩ := hs
  exact ⟨h, heq.trans hh, hrest⟩

/-- The ledger of a side that a step has left alone. -/
theorem Side.untouched (hs : Side table w taken sid p) (heq : w' sid = w sid) :
    Side table w' (fun id => taken id + ((w.session sid).belongings.amount id -
      (w'.session sid).belongings.amount id)) sid p := by
  have hsame : w'.session sid = w.session sid := by rw [World.session, heq, World.session]
  simp only [hsame, Nat.sub_self, Nat.add_zero]
  exact hs.of_eq heq

theorem Side.elsewhere (hs : Side table w taken sid p) (hsame : SameOffers w w' sid) :
    Side table w' taken sid p := by
  obtain ⟨h, hh, huser, -, hr, hnone⟩ := hs
  obtain ⟨g, g', hg, hg', hopen, huser', hitems, hlen⟩ := hsame
  obtain rfl := Option.some.inj (hh.symm.trans hg)
  refine ⟨g', hg', huser'.trans huser, hopen, hitems ▸ hr, fun hempty => hnone ?_⟩
  rw [hempty] at hlen
  exact List.length_eq_zero_iff.mp hlen.symm

theorem Bargain.sides {taken : SessionId → ℕ → ℕ} (hw : Bargain table a b w taken) :
    a ≠ b ∧ Side table w (taken a) a b ∧ Side table w (taken b) b a := by
  induction hw with
  | opened hopened =>
    obtain ⟨hab, ⟨h, hh, huser, hstate, hno⟩, ⟨k, hk, huser', hstate', hno'⟩⟩ := hopened
    exact ⟨hab, ⟨h, hh, huser, by rw [hstate]; rfl, hno ▸ accounted_nil, fun _ _ _ => rfl⟩,
      ⟨k, hk, huser', by rw [hstate']; rfl, hno' ▸ accounted_nil, fun _ _ _ => rfl⟩⟩
  | offer _ hs ih =>
    obtain ⟨hab, ha, hb⟩ := ih
    obtain ⟨hsid, req, hmsg, hbusy, hv⟩ := hs
    rcases hsid with rfl | rfl
    · obtain ⟨hmine, hother⟩ := ha.offer hmsg hbusy hv
      exact ⟨hab, hmine, hb.untouched (hother b hab.symm)⟩
    · obtain ⟨hmine, hother⟩ := hb.offer hmsg hbusy hv
      exact ⟨hab, ha.untouched (hother a hab), hmine⟩
  | elsewhere _ ha hb ih => exact ⟨ih.1, ih.2.1.elsewhere ha, ih.2.2.elsewhere hb⟩

end

def KeepsAll (g g' : Belongings) (taken : ℕ → ℕ) : Prop :=
  ∀ id, id ≠ 0 → taken id ≠ 0 → g.amount id + taken id ≤ g'.amount id

structure Restorable (table : ItemTable) (taken : ℕ → ℕ) (h : Session) : Prop where
  gold : taken ITEM_GOLD = 0 ∨ h.gold + taken ITEM_GOLD ≤ COIN_MAX
  items : ComesBack taken (takenFor table taken) h.inventory (goods h.exchangeItems)

section

variable {table : ItemTable} {w : World} {taken : ℕ → ℕ} {a b : SessionId} {h k : Session}
  {items : List ExchangeItem} {ex : ExchangeItem} {d : ExchangeItem → ℕ} {id : ℕ} {env : TradeEnv}

theorem inventory_giveBack : (items.foldl Session.giveItemBack h).inventory =
    (goods items).foldl returnItem h.inventory := by
  induction items generalizing h with
  | nil => rfl
  | cons ex items ih =>
    rw [List.foldl_cons, ih]
    unfold Session.giveItemBack
    split_ifs with hgold
    · rw [goods_gold hgold]
      rfl
    · rw [goods_item hgold, List.foldl_cons]

theorem gold_goldGain (h : Session) (amount : ℕ) :
    (h.goldGain amount).gold = min (h.gold + amount) COIN_MAX := by
  change goldGain h.gold amount = _
  unfold goldGain
  split_ifs <;> omega

/-- Gold that comes back stops at the cap. A list without gold leaves it, even above the cap. -/
theorem gold_giveBack : (items.foldl Session.giveItemBack h).gold =
    if ∃ ex ∈ items, ex.itemId = ITEM_GOLD then
      min (h.gold + Tally.total offeredGold items) COIN_MAX
    else h.gold := by
  induction items generalizing h with
  | nil => exact (if_neg (by simp)).symm
  | cons ex items ih =>
    rw [List.foldl_cons, ih, Tally.total_cons]
    unfold Session.giveItemBack
    by_cases hgold : ex.itemId = ITEM_GOLD
    · have hany : ∃ e ∈ ex :: items, e.itemId = ITEM_GOLD := ⟨ex, List.mem_cons_self, hgold⟩
      rw [if_pos hgold, if_pos hany, offeredGold_gold hgold, gold_goldGain]
      by_cases hothers : ∃ e ∈ items, e.itemId = ITEM_GOLD
      · rw [if_pos hothers]
        omega
      · rw [if_neg hothers, total_offeredGold_none (by simpa using hothers), Nat.add_zero]
    · have hany : (∃ e ∈ ex :: items, e.itemId = ITEM_GOLD) ↔
          ∃ e ∈ items, e.itemId = ITEM_GOLD := by
        simp [hgold]
      rw [if_neg hgold, offeredGold_item hgold, Nat.zero_add]
      exact if_congr hany.symm rfl rfl

theorem shares_goods (hr : Accounted table taken items) :
    Shares table (takenFor table taken) (goods items) := by
  refine ⟨fun ex hex => ?_, hr.offers.single.filter _, fun ex _ hloose => ?_, fun ex hex => ?_⟩
  · obtain ⟨hmem, hgold⟩ := mem_goods.mp hex
    exact (hr.offers.each ex hmem hgold).2.1
  · exact if_neg (not_lt.mpr hloose)
  · obtain ⟨hmem, hgold⟩ := mem_goods.mp hex
    unfold takenFor
    split_ifs with hcountable
    · exact hr.counted ex hmem hgold hcountable
    · exact .inl (Nat.mod_mod _ _).symm

theorem total_goods (hgold : id ≠ ITEM_GOLD) :
    Tally.total (entryShare d id) (goods items) = Tally.total (entryShare d id) items := by
  induction items with
  | nil => rfl
  | cons ex items ih =>
    rw [Tally.total_cons]
    by_cases hcoins : ex.itemId = ITEM_GOLD
    · rw [goods_gold hcoins, ih, entryShare_ne (by rw [hcoins]; exact hgold.symm), Nat.zero_add]
    · rw [goods_item hcoins, Tally.total_cons, ih]

theorem Shares.total_single (hs : Shares table d items) (hex : ex ∈ items)
    (hcountable : 0 < countableOf table ex.itemId) :
    Tally.total (entryShare d ex.itemId) items = d ex := by
  induction items with
  | nil => cases hex
  | cons e items ih =>
    rw [Tally.total_cons]
    rcases List.mem_cons.mp hex with rfl | hmem
    · rw [entryShare_self, total_entryShare_none (hs.others_ne hcountable), Nat.add_zero]
    · have hne : e.itemId ≠ ex.itemId := fun hid =>
        hs.others_ne (hid ▸ hcountable) ex hmem hid.symm
      rw [entryShare_ne hne, ih hs.tail hmem, Nat.zero_add]

theorem taken_eq (hr : Accounted table taken items) (hgold : id ≠ ITEM_GOLD) :
    taken id = Tally.total (entryShare (takenFor table taken) id) (goods items) := by
  rcases le_or_gt (countableOf table id) 0 with hloose | hcountable
  · rw [hr.loose id hgold hloose, total_goods hgold]
    refine Tally.total_congr _ fun ex _ => ?_
    unfold entryShare takenFor
    split_ifs with hid hcount
    · exact absurd hloose (not_le.mpr (hid ▸ hcount))
    · rfl
    · rfl
  · by_cases hlisted : ∃ ex ∈ items, ex.itemId = id
    · obtain ⟨ex, hex, rfl⟩ := hlisted
      rw [(shares_goods hr).total_single (mem_goods.mpr ⟨hex, hgold⟩) hcountable]
      exact (if_pos hcountable).symm
    · have hno : ∀ ex ∈ items, ex.itemId ≠ id := fun ex hex hid => hlisted ⟨ex, hex, hid⟩
      rw [hr.unlisted id hno, total_goods hgold, total_entryShare_none hno]

theorem inventory_settle (h : Session) :
    h.settle.inventory = (goods h.exchangeItems).foldl returnItem h.inventory := inventory_giveBack

theorem gold_settle (h : Session) :
    h.settle.gold =
      if ∃ ex ∈ h.exchangeItems, ex.itemId = ITEM_GOLD then
        min (h.gold + Tally.total offeredGold h.exchangeItems) COIN_MAX
      else h.gold := gold_giveBack

theorem Accounted.gold_listed (hr : Accounted table taken items) (htaken : taken ITEM_GOLD ≠ 0) :
    ∃ ex ∈ items, ex.itemId = ITEM_GOLD := by
  by_contra hnone
  exact htaken (hr.unlisted ITEM_GOLD fun ex hex hid => hnone ⟨ex, hex, hid⟩)

theorem settle_keeps_gold_iff (hr : Accounted table taken h.exchangeItems) :
    (taken ITEM_GOLD ≠ 0 → h.gold + taken ITEM_GOLD ≤ h.settle.gold) ↔
      taken ITEM_GOLD = 0 ∨ h.gold + taken ITEM_GOLD ≤ COIN_MAX := by
  have hcoin : COIN_MAX = 2100000000 := rfl
  by_cases htaken : taken ITEM_GOLD = 0
  · exact iff_of_true (fun hne => absurd htaken hne) (.inl htaken)
  · have hpaid := hr.gold
    rw [gold_settle, if_pos (hr.gold_listed htaken)]
    omega

theorem settle_keeps_iff (hr : Accounted table taken h.exchangeItems) :
    KeepsAll h.belongings h.settle.belongings taken ↔ Restorable table taken h := by
  have hgold := settle_keeps_gold_iff hr
  have hitems : _ ↔ ComesBack taken _ _ _ := comesBack_iff h.inventory (shares_goods hr)
  have hinv := inventory_settle h
  constructor
  · intro hall
    refine ⟨hgold.mp fun htaken => ?_, hitems.mp fun id hid htaken => ?_⟩
    · exact hall ITEM_GOLD (by decide) htaken
    · rcases eq_or_ne id ITEM_GOLD with rfl | hne
      · have hno : ∀ ex ∈ goods h.exchangeItems, ex.itemId ≠ ITEM_GOLD :=
          fun ex hex => (mem_goods.mp hex).2
        rw [total_returnItems_ne (shares_goods hr).itemId_ne hid hno, total_entryShare_none hno]
        exact le_rfl
      · have hunits := hall id hid htaken
        rw [amount_item hne, amount_item hne, hinv, taken_eq hr hne] at hunits
        exact hunits
  · rintro ⟨hroom, hback⟩ id hid htaken
    rcases eq_or_ne id ITEM_GOLD with rfl | hne
    · exact hgold.mpr hroom htaken
    · rw [amount_item hne, amount_item hne, hinv, taken_eq hr hne]
      exact hitems.mpr hback id hid htaken

theorem goods_settle_setTradeState (state : TradeState) (h : Session) :
    (h.setTradeState state).settle.belongings = h.settle.belongings :=
  congrArg₂ Belongings.mk ((inventory_settle _).trans (inventory_settle h).symm)
    ((gold_settle _).trans (gold_settle h).symm)

/-- Both sides are out of the trade and have back what could go back. -/
def SettlesBoth (w w' : World) (a b : SessionId) : Prop :=
  ∃ h' k', w' = rewrite w a b h' k' ∧ h'.belongings = (w.session a).settle.belongings ∧
    k'.belongings = (w.session b).settle.belongings

theorem SettlesBoth.symm {w' : World} (hab : a ≠ b) (hs : SettlesBoth w w' a b) :
    SettlesBoth w w' b a := by
  obtain ⟨h', k', hw', hgoods, hgoods'⟩ := hs
  exact ⟨k', h', hw'.trans (rewrite_comm hab).symm, hgoods', hgoods⟩

def ExecutesTrade (table : ItemTable) (env : TradeEnv) (w : World) (sid : SessionId) :
    TradeMsg → Prop
  | .decide => ∃ p, w.exchangeUser sid = some p ∧ decideVerdict table env w sid p = .execute
  | _ => False

def StillOpen (w : World) (a b : SessionId) : Prop :=
  w.tradeState a ≠ .none ∧ w.tradeState b ≠ .none

theorem stillOpen_modify (hab : a ≠ b) (hh : w a = some h) (hk : w b = some k)
    (hopen' : k.tradeState.isOpen = true) {f : Session → Session}
    (hopen : (f h).tradeState.isOpen = true) : StillOpen (w.modify a f) a b := by
  have hother : w.modify a f b = some k := (modify_other hab.symm).trans hk
  unfold StillOpen World.tradeState
  rw [session_eq (modify_self hh), session_eq hother]
  exact ⟨ne_none_of_isOpen hopen, ne_none_of_isOpen hopen'⟩

/-- A packet of either side gives both their offers back, or executes the trade, or the trade
goes on. -/
theorem packet_cases (msg : TradeMsg) (hab : a ≠ b) (hh : w a = some h) (hk : w b = some k)
    (huser : h.exchangeUser = some b) (hopen : h.tradeState.isOpen = true)
    (hopen' : k.tradeState.isOpen = true) (hnot : ¬ ExecutesTrade table env w a msg) :
    SettlesBoth w (handleExchange table env w a msg) a b ∨
      StillOpen (handleExchange table env w a msg) a b := by
  have hstay : StillOpen w a b := by
    unfold StillOpen World.tradeState
    rw [session_eq hh, session_eq hk]
    exact ⟨ne_none_of_isOpen hopen, ne_none_of_isOpen hopen'⟩
  have hcancel : SettlesBoth w (exchangeCancel w a) a b := by
    refine ⟨h.settle, k.settle, ?_, by rw [session_eq hh], by rw [session_eq hk]⟩
    exact exchangeCancel_eq hab hh hk (ne_none_of_isOpen hopen) (ne_none_of_isOpen hopen') huser
  have hpartner : w.exchangeUser a = some b := by rw [World.exchangeUser, session_eq hh, huser]
  unfold handleExchange
  split_ifs with hbusy
  · exact .inr hstay
  cases msg with
  | req target =>
    left
    dsimp only
    unfold exchangeReq
    rw [if_pos (by rw [isTrading_eq hh, huser]; rfl)]
    exact hcancel
  | agree accepted =>
    right
    dsimp only
    unfold exchangeAgree
    rw [hpartner]
    dsimp only
    rw [if_pos ?_]
    · exact hstay
    · rw [World.tradeState, session_eq hh]
      rintro htarget
      rw [htarget] at hopen
      cases hopen
  | add req =>
    dsimp only
    unfold exchangeAdd
    cases addVerdict table env w a req with
    | refused => exact .inr hstay
    | cancel => exact .inl hcancel
    | gold =>
      right
      refine stillOpen_modify hab hh hk hopen' ?_
      rw [(offerGold_part req.count h).2]
      exact hopen
    | item =>
      right
      refine stillOpen_modify hab hh hk hopen' ?_
      rw [(offerItem_part table req h).2]
      exact hopen
  | decide =>
    dsimp only
    unfold exchangeDecide
    split_ifs with hstate
    · exact .inr hstay
    rw [hpartner]
    dsimp only
    cases hverdict : decideVerdict table env w a b with
    | ignored => exact .inr hstay
    | wait => exact .inr (stillOpen_modify hab hh hk hopen' rfl)
    | fail =>
      left
      have hh' : w.modify a (Session.setTradeState .deciding) a = some (h.setTradeState .deciding) :=
        modify_self hh
      have hk' : w.modify a (Session.setTradeState .deciding) b = some k :=
        (modify_other hab.symm).trans hk
      refine ⟨(h.setTradeState .deciding).settle, k.settle, ?_, ?_, by rw [session_eq hk]⟩
      · refine (failExchange_eq hab hh' hk').trans ?_
        rw [modify_pair hab hh hk, rewrite_rewrite hab]
      · rw [session_eq hh, goods_settle_setTradeState]
    | execute => exact absurd ⟨b, hpartner, hverdict⟩ hnot
  | cancel => exact .inl hcancel

theorem dropTrade_eq (hab : a ≠ b) (hh : w a = some h) (hk : w b = some k)
    (huser : h.exchangeUser = some b) :
    w.dropTrade a = rewrite w a b h.resetTrade k.resetTrade := by
  unfold World.dropTrade World.resetTrade
  rw [isTrading_eq hh, World.exchangeUser, session_eq hh, huser, Option.isSome_some, if_pos rfl]
  exact modify_modify hab hh hk

end

/-- What is the player's from now on: what he has in game, and else his row. -/
def TradeServer.holdings (v : TradeServer) (s : SessionId) : Belongings :=
  match v.world s with
  | some h => h.belongings
  | none => (v.rows s).belongings

structure EndsTrade (table : ItemTable) (v : TradeServer) (a b : SessionId) (e : TradeEvent) :
    Prop where
  side : e.sid = a ∨ e.sid = b
  ended : (v.handle table e).world.tradeState a = .none
  notExecuted : ∀ env sid msg, e = .packet env sid msg → ¬ ExecutesTrade table env v.world sid msg

/-- Where the event gives back, what was taken can be restored; where it does not, nothing was
taken. -/
def Spared (table : ItemTable) (w : World) (taken : ℕ → ℕ) (s : SessionId) : TradeEvent → Prop
  | .packet .. => Restorable table taken (w.session s)
  | _ => ∀ id, id ≠ 0 → taken id = 0

section

variable {table : ItemTable} {v v' : TradeServer} {taken : ℕ → ℕ} {a b s p : SessionId}
  {h : Session} {e : TradeEvent}

theorem holdings_eq (hh : v.world s = some h) : v.holdings s = h.belongings := by
  rw [TradeServer.holdings, hh]

theorem keepsAll_same {g : Belongings} : KeepsAll g g taken ↔ ∀ id, id ≠ 0 → taken id = 0 := by
  refine ⟨fun hall id hid => ?_, fun hnone id hid htaken => absurd (hnone id hid) htaken⟩
  by_contra htaken
  have := hall id hid htaken
  omega

theorem Side.keeps_settled (hs : Side table v.world taken s p)
    (hafter : ∃ h', v'.world s = some h' ∧ h'.belongings = (v.world.session s).settle.belongings) :
    KeepsAll (v.holdings s) (v'.holdings s) taken ↔
      Restorable table taken (v.world.session s) := by
  obtain ⟨h, hh, -, -, hr, -⟩ := hs
  obtain ⟨h', hh', hgoods⟩ := hafter
  rw [holdings_eq hh, holdings_eq hh', hgoods, session_eq hh]
  exact settle_keeps_iff hr

theorem Side.keeps_dropped (hs : Side table v.world taken s p)
    (hafter : v'.world s = (v.world s).map Session.resetTrade) :
    KeepsAll (v.holdings s) (v'.holdings s) taken ↔ ∀ id, id ≠ 0 → taken id = 0 := by
  obtain ⟨h, hh, -⟩ := hs
  rw [hh] at hafter
  rw [holdings_eq hh, holdings_eq hafter]
  exact keepsAll_same

structure SavesBelow (save : CharacterRow → Session → CharacterRow) : Prop where
  inventory : ∀ row h, (save row h).inventory = row.savedItems h
  gold : ∀ row h, ((save row h).gold : ℕ) ≤ h.gold

theorem saveAtLogout_below : SavesBelow CharacterRow.saveAtLogout where
  inventory _ _ := rfl
  gold _ _ := Nat.min_le_left _ _

theorem saveAtCleanup_below : SavesBelow CharacterRow.saveAtCleanup where
  inventory _ _ := rfl
  gold row h := by
    unfold CharacterRow.saveAtCleanup
    dsimp only
    split_ifs with hlt
    · exact le_rfl
    · exact (row.gold.isLt.trans_le (not_lt.mp hlt)).le

theorem Side.keeps_saved {save : CharacterRow → Session → CharacterRow} (hsave : SavesBelow save)
    (hs : Side table v.world taken s p) (hgone : v'.world s = none)
    (hrow : v'.rows s = save (v.rows s) (v.world.session s)) :
    KeepsAll (v.holdings s) (v'.holdings s) taken ↔ ∀ id, id ≠ 0 → taken id = 0 := by
  obtain ⟨h, hh, -, -, -, hempty⟩ := hs
  rw [session_eq hh] at hrow
  rw [holdings_eq hh, show v'.holdings s = (v'.rows s).belongings by
    rw [TradeServer.holdings, hgone], hrow]
  refine ⟨fun hall id hid => ?_, fun hnone id hid htaken => absurd (hnone id hid) htaken⟩
  by_contra htaken
  have hkept := hall id hid htaken
  rcases eq_or_ne id ITEM_GOLD with rfl | hne
  · have hle := hsave.gold (v.rows s) h
    rw [amount_gold] at hkept
    change h.gold + _ ≤ ((save (v.rows s) h).gold : ℕ) at hkept
    omega
  · have hfilled : h.inventory.isEmpty = false := by
      rw [Bool.eq_false_iff, Ne, List.isEmpty_iff]
      exact fun hnil => htaken (hempty hnil id hne)
    have hsame : (save (v.rows s) h).belongings.amount id = h.belongings.amount id := by
      unfold Belongings.amount CharacterRow.belongings
      rw [if_neg hne, if_neg hne, hsave.inventory, CharacterRow.savedItems, hfilled,
        if_neg Bool.false_ne_true]
      rfl
    rw [hsame] at hkept
    omega

theorem Side.dropped {w : World} (hab : a ≠ b) {t u : ℕ → ℕ} (ha : Side table w t a b)
    (hb : Side table w u b a) {sid : SessionId} (hsid : sid = a ∨ sid = b) (hs : s = a ∨ s = b) :
    w.dropTrade sid s = (w s).map Session.resetTrade := by
  obtain ⟨h, hh, huser, -⟩ := ha
  obtain ⟨k, hk, huser', -⟩ := hb
  have hdrop : w.dropTrade sid = rewrite w a b h.resetTrade k.resetTrade := by
    rcases hsid with rfl | rfl
    · exact dropTrade_eq hab hh hk huser
    · exact (dropTrade_eq hab.symm hk hh huser').trans (rewrite_comm hab)
  rw [hdrop]
  rcases hs with rfl | rfl
  · rw [rewrite_left hab, hh]
    rfl
  · rw [rewrite_right, hk]
    rfl

theorem Side.settled {w : World} (hab : a ≠ b) {t u : ℕ → ℕ} (ha : Side table w t a b)
    (hb : Side table w u b a) {env : TradeEnv} {sid : SessionId} {msg : TradeMsg}
    (hsid : sid = a ∨ sid = b) (hnot : ¬ ExecutesTrade table env w sid msg)
    (hended : (handleExchange table env w sid msg).tradeState a = .none) :
    SettlesBoth w (handleExchange table env w sid msg) a b := by
  obtain ⟨h, hh, huser, hopen, -⟩ := ha
  obtain ⟨k, hk, huser', hopen', -⟩ := hb
  rcases hsid with rfl | rfl
  · exact (packet_cases msg hab hh hk huser hopen hopen' hnot).resolve_right fun h => h.1 hended
  · exact ((packet_cases msg hab.symm hk hh huser' hopen' hopen hnot).resolve_right
      fun h => h.2 hended).symm hab.symm

theorem SettlesBoth.after {w w' : World} (hab : a ≠ b) (hw : SettlesBoth w w' a b)
    (hs : s = a ∨ s = b) : ∃ h', w' s = some h' ∧ h'.belongings = (w.session s).settle.belongings := by
  obtain ⟨h', k', rfl, hgoods, hgoods'⟩ := hw
  rcases hs with rfl | rfl
  · exact ⟨h', rewrite_left hab, hgoods⟩
  · exact ⟨k', rewrite_right, hgoods'⟩

end

/-- However the trade ends, both keep all they have offered exactly when the event gives offers
back and these fit, or there are none. -/
theorem nothing_lost_iff {table : ItemTable} {v : TradeServer} {a b : SessionId}
    {taken : SessionId → ℕ → ℕ} {e : TradeEvent} (hoffers : Bargain table a b v.world taken)
    (hends : EndsTrade table v a b e) :
    (∀ s, s = a ∨ s = b → KeepsAll (v.holdings s) ((v.handle table e).holdings s) (taken s)) ↔
      ∀ s, s = a ∨ s = b → Spared table v.world (taken s) s e := by
  obtain ⟨hab, ha, hb⟩ := hoffers.sides
  obtain ⟨hsid, hended, hnot⟩ := hends
  have hside : ∀ s, s = a ∨ s = b → ∃ p, Side table v.world (taken s) s p := by
    rintro s (rfl | rfl)
    · exact ⟨b, ha⟩
    · exact ⟨a, hb⟩
  refine forall₂_congr fun s hs => ?_
  obtain ⟨p, hp⟩ := hside s hs
  have hleft : ∀ {sid save}, sid = a ∨ sid = b → SavesBelow save → (KeepsAll (v.holdings s)
      ((v.leaveGame sid save).holdings s) (taken s) ↔ ∀ id, id ≠ 0 → taken s id = 0) := by
    intro sid save hsid hsave
    have hin : (v.world sid).isNone = false := by
      obtain ⟨q, g, hg, -⟩ := hside sid hsid
      rw [hg]
      rfl
    unfold TradeServer.leaveGame
    rw [hin]
    rcases eq_or_ne s sid with rfl | hne
    · exact hp.keeps_saved hsave (if_pos rfl) (if_pos rfl)
    · exact hp.keeps_dropped ((if_neg hne).trans (Side.dropped hab ha hb hsid hs))
  cases e with
  | packet env sid msg =>
    have hsettled := Side.settled hab ha hb hsid (hnot env sid msg rfl) hended
    exact hp.keeps_settled (hsettled.after hab hs)
  | zoneChange sid => exact hp.keeps_dropped (Side.dropped hab ha hb hsid hs)
  | logout sid => exact hleft hsid saveAtLogout_below
  | connectionLost sid offlineMerchant =>
    cases offlineMerchant with
    | false => exact hleft hsid saveAtCleanup_below
    | true =>
      -- a shop that goes on offline ends no trade
      obtain ⟨h, hh, -, hopen, -⟩ := ha
      have hstate : v.world.tradeState a = .none := hended
      rw [World.tradeState, session_eq hh] at hstate
      exact absurd hstate (ne_none_of_isOpen hopen)

/-- Five of the potions of player 1 are on the list. -/
def fiveOffered : TradeServer where
  world := tradeStep tradeTable openedTrade ⟨quietEnv, 1, .add ⟨0, 389010000, 5⟩⟩
  rows := fun _ => ⟨[], 0⟩

def fiveTaken (t : SessionId) (id : ℕ) : ℕ :=
  0 + ((openedTrade.session t).belongings.amount id - (fiveOffered.world.session t).belongings.amount id)

theorem bargain_fiveOffered : Bargain tradeTable 1 2 fiveOffered.world fiveTaken := by
  have htakes : TakesOffer tradeTable 1 2 openedTrade ⟨quietEnv, 1, .add ⟨0, 389010000, 5⟩⟩ :=
    ⟨.inl rfl, _, rfl, rfl, .inr (by decide +kernel)⟩
  exact (Bargain.opened opened_openedTrade).offer htakes

theorem nothing_lost_iff_cancel : KeepsAll (fiveOffered.holdings 1)
    ((fiveOffered.handle tradeTable (.packet quietEnv 2 .cancel)).holdings 1) (fiveTaken 1) := by
  have hends : EndsTrade tradeTable fiveOffered 1 2 (.packet quietEnv 2 .cancel) := by
    refine ⟨.inr rfl, by decide +kernel, fun env sid msg heq => ?_⟩
    cases heq
    exact id
  refine (nothing_lost_iff bargain_fiveOffered hends).mpr ?_ 1 (.inl rfl)
  rintro s (rfl | rfl)
  · exact ⟨by decide +kernel, by decide +kernel⟩
  · exact ⟨by decide +kernel, by decide +kernel⟩

/-- The connection of player 2 is lost, and player 1 is five potions short. -/
theorem potions_gone : Bargain tradeTable 1 2 fiveOffered.world fiveTaken ∧
    EndsTrade tradeTable fiveOffered 1 2 (.connectionLost 2 false) ∧
    ¬ KeepsAll (fiveOffered.holdings 1)
      ((fiveOffered.handle tradeTable (.connectionLost 2 false)).holdings 1) (fiveTaken 1) := by
  refine ⟨bargain_fiveOffered, ⟨.inr rfl, by decide +kernel, fun env sid msg heq => ?_⟩, fun h => ?_⟩
  · cases heq
  · have hpotions := h 389010000 (by decide)
    revert hpotions
    decide +kernel

end KoServer
