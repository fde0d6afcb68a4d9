import KoServer.Lib.Run
import KoServer.Proofs.Merchant
import KoServer.Proofs.Packet
import KoServer.Proofs.TradeSession
import KoServer.Spec.Letter

/-! Items and coins in the mail, with database calls that fail. A letter is stored before its
sender pays for it and before the goods leave the bag; a letter is emptied into the bag before
it is marked as taken. -/

namespace KoServer

open Run (run Along)

section Casts

theorem toNat_asI32_le (n : ℕ) : (asI32 n).toNat ≤ n := by
  unfold asI32
  rw [Int.bmod_def]
  split_ifs <;> omega

theorem asU32_asI32 {n : ℕ} (h : n < 2 ^ 32) : asU32 (asI32 n) = n := by
  unfold asU32 asI32
  rw [Int.bmod_def]
  split_ifs <;> omega

theorem toNat_asI16_le (n : ℕ) : (asI16 n).toNat ≤ n := by
  unfold asI16
  split_ifs <;> omega

theorem asI16_of_le {n : ℕ} (h : n ≤ ITEMCOUNT_MAX) : asI16 n = n := by
  have hmax : ITEMCOUNT_MAX = 9999 := rfl
  unfold asI16
  split_ifs <;> omega

end Casts

section Worth

def letterUnits (id : ℕ) (l : LetterRow) : ℕ :=
  if l.itemTaken then 0 else if asU32 l.itemId = id then l.itemCount.toNat else 0

def letterCoins (l : LetterRow) : ℕ := if l.itemTaken then 0 else l.coins.toNat

def MailState.worth (f : MailCharacter → ℕ) (g : LetterRow → ℕ) (s : MailState) : ℕ :=
  Tally.total f s.characters + Tally.total g s.letters

def MailState.units (id : ℕ) (s : MailState) : ℕ :=
  s.worth (fun c => stock id c.inventory) (letterUnits id)

def MailState.coins (s : MailState) : ℕ := s.worth (fun c => c.gold) letterCoins

structure Untaken (g : LetterRow → ℕ) : Prop where
  taken : ∀ l : LetterRow, g { l with itemTaken := true } = 0
  deleted : ∀ l : LetterRow, g { l with bDeleted := true } = g l

theorem untaken_letterUnits (id : ℕ) : Untaken (letterUnits id) := ⟨fun _ => rfl, fun _ => rfl⟩

theorem untaken_letterCoins : Untaken letterCoins := ⟨fun _ => rfl, fun _ => rfl⟩

variable {f : MailCharacter → ℕ} {g : LetterRow → ℕ} {letters : List LetterRow}
  {recipient : List Char} {letterId : ℕ} {l : LetterRow}

theorem letterAt_spec (h : letterAt letters letterId = some l) : letters[letterId]? = some l := by
  unfold letterAt at h
  split_ifs at h
  exact h

theorem getItemFromLetter_spec (h : getItemFromLetter letters recipient letterId = some l) :
    letterAt letters letterId = some l ∧ l.recipientName = recipient ∧ l.itemTaken = false := by
  obtain ⟨hat, hl⟩ := Option.filter_eq_some_iff.mp h
  simp only [Bool.and_eq_true, decide_eq_true_eq, Bool.not_eq_true'] at hl
  exact ⟨hat, hl.1.1, hl.2⟩

theorem updateLetter_cases (letters : List LetterRow) (recipient : List Char) (letterId : ℕ)
    (u : LetterRow → LetterRow) :
    updateLetter letters recipient letterId u = letters ∨
      ∃ l, letters[letterId]? = some l ∧
        updateLetter letters recipient letterId u = letters.set letterId (u l) := by
  unfold updateLetter
  cases hat : letterAt letters letterId with
  | none => exact Or.inl rfl
  | some l =>
    dsimp only
    split_ifs
    · exact Or.inr ⟨l, letterAt_spec hat, rfl⟩
    · exact Or.inl rfl

theorem total_updateLetter {u : LetterRow → LetterRow} (hu : ∀ l, g (u l) = g l) :
    Tally.total g (updateLetter letters recipient letterId u) = Tally.total g letters := by
  rcases updateLetter_cases letters recipient letterId u with heq | ⟨l, hl, heq⟩
  · rw [heq]
  · obtain ⟨hlt, hget⟩ := List.getElem?_eq_some_iff.mp hl
    have hset := Tally.total_set g hlt (u l) l
    rw [List.getD_eq_getElem _ _ hlt, hget, hu l] at hset
    rw [heq]
    omega

theorem total_markItemTaken (hg : Untaken g)
    (h : getItemFromLetter letters recipient letterId = some l) :
    Tally.total g (markItemTaken letters recipient letterId) + g l = Tally.total g letters := by
  obtain ⟨hat, hname, -⟩ := getItemFromLetter_spec h
  obtain ⟨hlt, hget⟩ := List.getElem?_eq_some_iff.mp (letterAt_spec hat)
  have hset := Tally.total_set g hlt { l with itemTaken := true } l
  rw [List.getD_eq_getElem _ _ hlt, hget, hg.taken] at hset
  unfold markItemTaken updateLetter
  rw [hat]
  dsimp only
  rw [if_pos hname]
  exact hset

theorem total_deleteLetters (hg : Untaken g) (fails : DbFaults) (k : ℕ) (ids : List ℕ) :
    Tally.total g (deleteLetters fails recipient k ids letters).2 = Tally.total g letters := by
  induction ids generalizing k letters with
  | nil => rfl
  | cons id ids ih =>
    unfold deleteLetters
    split_ifs
    · rfl
    · rw [ih, total_updateLetter hg.deleted]

/-- What holds of the rows, taken and deleted ones included, when the update keeps it. -/
theorem forall_updateLetter {p : LetterRow → Prop} {u : LetterRow → LetterRow}
    (hu : ∀ l, p l → p (u l)) (h : ∀ l ∈ letters, p l) :
    ∀ l ∈ updateLetter letters recipient letterId u, p l := by
  rcases updateLetter_cases letters recipient letterId u with heq | ⟨l, hl, heq⟩
  · rwa [heq]
  · rw [heq]
    intro l' hl'
    rcases List.mem_or_eq_of_mem_set hl' with hmem | rfl
    · exact h l' hmem
    · exact hu l (h l (List.mem_of_getElem? hl))

theorem forall_deleteLetters {p : LetterRow → Prop}
    (hp : ∀ l, p l → p { l with bDeleted := true }) (fails : DbFaults) (k : ℕ) (ids : List ℕ)
    (h : ∀ l ∈ letters, p l) : ∀ l ∈ (deleteLetters fails recipient k ids letters).2, p l := by
  induction ids generalizing k letters with
  | nil => exact h
  | cons id ids ih =>
    unfold deleteLetters
    split_ifs
    · exact h
    · exact ih _ (forall_updateLetter hp h)

theorem worth_setCharacter {s : MailState} {who : ℕ} {c : MailCharacter}
    (hc : s.characters[who]? = some c) (c' : MailCharacter) (letters : List LetterRow) (n : ℕ) :
    MailState.worth f g { s.setCharacter who c' with letters := letters, nextItemSerial := n } +
        f c + Tally.total g s.letters =
      s.worth f g + f c' + Tally.total g letters := by
  obtain ⟨hlt, hget⟩ := List.getElem?_eq_some_iff.mp hc
  have hset := Tally.total_set f hlt c' c
  rw [List.getD_eq_getElem _ _ hlt, hget] at hset
  show Tally.total f (s.characters.set who c') + Tally.total g letters + f c +
    Tally.total g s.letters = Tally.total f s.characters + Tally.total g s.letters + f c' +
    Tally.total g letters
  omega

end Worth

section Sending

def Clean (inv : Inventory) : Prop := ∀ i, (inv.slot i).itemId = 0 → (inv.slot i).count = 0

theorem Tidy.clean {inv : Inventory} (h : Tidy inv) : Clean inv := fun i => (h i).empty

theorem Clean.set {inv : Inventory} (h : Clean inv) {i : ℕ} (hi : i < inv.length)
    {slot : UserItemSlot} (hslot : slot.itemId = 0 → slot.count = 0) : Clean (inv.set i slot) := by
  intro j
  rcases eq_or_ne i j with rfl | hne
  · rwa [Inventory.slot_set_self hi]
  · rw [Inventory.slot_set_ne hne]
    exact h j

variable {table : ItemTable} {env : LetterEnv} {fails : DbFaults} {s : MailState} {who : ℕ}
  {c : MailCharacter} {reader : PacketReader}

structure Attached (c : MailCharacter) (att : Attachment) : Prop where
  slot_lt : SLOT_MAX + att.srcPos < c.inventory.length
  itemId : (c.inventory.slot (SLOT_MAX + att.srcPos)).itemId = att.itemId
  count : (c.inventory.slot (SLOT_MAX + att.srcPos)).count = att.itemCount
  itemId_lt : att.itemId < 2 ^ 32
  coins_lt : att.coins < 2 ^ 32

theorem readAttachment_spec {att : Attachment} {rest : PacketReader}
    (h : readAttachment table c reader = .ok (att, rest)) : Attached c att := by
  unfold readAttachment at h
  dsimp only at h
  by_cases hpos : HAVE_MAX ≤ reader.readU32D.2.readU8D.1
  · rw [if_pos hpos] at h
    cases h
  rw [if_neg hpos] at h
  cases hitem : table reader.readU32D.1 with
  | none => simp only [hitem, reduceCtorEq] at h
  | some itemDef =>
    cases hslot : c.inventory[SLOT_MAX + reader.readU32D.2.readU8D.1]? with
    | none => simp only [hitem, hslot, reduceCtorEq] at h
    | some slot =>
      simp only [hitem, hslot] at h
      split_ifs at h with hid hlock
      obtain ⟨rfl, -⟩ := Prod.mk.inj (Except.ok.inj h)
      have hread := Inventory.slot_of_getElem? hslot
      refine ⟨(List.getElem?_eq_some_iff.mp hslot).1, ?_, ?_, reader.readU32D_lt,
        PacketReader.readU32D_lt _⟩
      · exact (congrArg UserItemSlot.itemId hread).trans (not_not.mp hid)
      · exact congrArg UserItemSlot.count hread

theorem readSend_spec {req : SendRequest} (h : readSend table c reader = .ok req) :
    req.bType = 2 ∧ Attached c req.attachment ∨ req.attachment = {} := by
  unfold readSend at h
  split at h
  · cases h
  · split at h
    · cases h
    · next subject rest _ =>
      dsimp only at h
      split_ifs at h with htype hself h2
      · cases hatt : readAttachment table c rest.readU8D.2 with
        | error code => simp only [hatt, reduceCtorEq] at h
        | ok read =>
          obtain ⟨att, rest'⟩ := read
          simp only [hatt] at h
          split at h
          · cases h
          · obtain rfl := Except.ok.inj h
            exact Or.inl ⟨h2, readAttachment_spec hatt⟩
      · dsimp only at h
        split at h
        · cases h
        · obtain rfl := Except.ok.inj h
          exact Or.inr rfl

def sendGoldCost (req : SendRequest) : ℕ :=
  if req.bType = 2 ∧ req.attachment.itemId ≠ 0 then LETTER_COST_ITEM else LETTER_COST_TEXT

/-- The sender after the letter: the price and the coins are paid, the goods gone. -/
def sentBy (c : MailCharacter) (req : SendRequest) : MailCharacter :=
  let att := req.attachment
  { c with
    inventory :=
      if req.bType = 2 ∧ att.itemId ≠ 0 then
        removeAttached c.inventory (SLOT_MAX + att.srcPos) att.itemId
      else c.inventory
    gold := c.gold -
      if 0 < att.coins then saturatingAdd32 (sendGoldCost req) att.coins else sendGoldCost req }

/-- A letter is stored and its sender pays, or nothing happens. The purse was checked before
the letter was stored, so the price cannot be missing after it. -/
theorem handleSend_cases (table : ItemTable) (env : LetterEnv) (fails : DbFaults) (s : MailState)
    (who : ℕ) (c : MailCharacter) (reader : PacketReader) :
    (handleSend table env fails s who c reader).2 = s ∨
      ∃ req, readSend table c reader = .ok req ∧ sendGoldCost req ≤ c.gold ∧
        saturatingAdd32 (sendGoldCost req) req.attachment.coins ≤ c.gold ∧
        (handleSend table env fails s who c reader).2 =
          { s.setCharacter who (sentBy c req) with
            letters := s.letters ++ [newLetter env c req] } := by
  unfold handleSend
  by_cases hbusy : (!env.inGame || env.isMerchanting || env.isTrading || env.isMining ||
      env.isFishing) = true
  · exact Or.inl (by rw [if_pos hbusy])
  by_cases hzone : env.zoneId = ZONE_KNIGHT_ROYALE
  · exact Or.inl (by rw [if_neg hbusy, if_pos hzone])
  rw [if_neg hbusy, if_neg hzone]
  cases hread : readSend table c reader with
  | error code => exact Or.inl rfl
  | ok req =>
    dsimp only
    rw [show (if req.bType = 2 ∧ req.attachment.itemId ≠ 0 then LETTER_COST_ITEM
      else LETTER_COST_TEXT) = sendGoldCost req from rfl]
    by_cases hpurse : c.gold < sendGoldCost req ∨
        c.gold < saturatingAdd32 (sendGoldCost req) req.attachment.coins
    · exact Or.inl (by rw [if_pos hpurse])
    rw [if_neg hpurse]
    obtain ⟨hcost, hcoins⟩ := not_or.mp hpurse
    by_cases hselect : fails 0 = true
    · exact Or.inl (by rw [if_pos hselect])
    rw [if_neg hselect]
    by_cases hknown : req.recipient ∉ s.userdata
    · exact Or.inl (by rw [if_pos hknown])
    rw [if_neg hknown]
    by_cases hinsert : fails 1 = true
    · exact Or.inl (by rw [if_pos hinsert])
    rw [if_neg hinsert]
    refine Or.inr ⟨req, rfl, not_lt.mp hcost, not_lt.mp hcoins, ?_⟩
    have hpaid : goldLose c.gold (if 0 < req.attachment.coins then
        saturatingAdd32 (sendGoldCost req) req.attachment.coins else sendGoldCost req) =
          some (sentBy c req).gold := by
      unfold goldLose
      rw [if_pos (by split_ifs <;> omega)]
      rfl
    rw [hpaid]
    rfl

structure Posted (c c' : MailCharacter) (l : LetterRow) : Prop where
  units_le : ∀ id, id ≠ 0 → stock id c'.inventory + letterUnits id l ≤ stock id c.inventory
  coins_le : c'.gold + letterCoins l ≤ c.gold
  clean : Clean c.inventory → Clean c'.inventory
  tidy : Tidy c.inventory → Tidy c'.inventory
  count_le : Tidy c.inventory → l.itemCount ≤ ITEMCOUNT_MAX
  units : Tidy c.inventory → ∀ id, id ≠ 0 →
    stock id c'.inventory + letterUnits id l = stock id c.inventory

theorem letterUnits_newLetter (id : ℕ) {req : SendRequest} (h : req.attachment.itemId < 2 ^ 32) :
    letterUnits id (newLetter env c req) =
      if req.attachment.itemId = id then (asI16 req.attachment.itemCount).toNat else 0 := by
  simp only [letterUnits, newLetter, Bool.false_eq_true, if_false, asU32_asI32 h]

theorem letterCoins_newLetter (req : SendRequest) :
    letterCoins (newLetter env c req) = (asI32 req.attachment.coins).toNat := by
  simp only [letterCoins, newLetter, Bool.false_eq_true, if_false]

theorem coins_sentBy {req : SendRequest} (hcoins : req.attachment.coins < 2 ^ 32)
    (hpurse : saturatingAdd32 (sendGoldCost req) req.attachment.coins ≤ c.gold) :
    (sentBy c req).gold + letterCoins (newLetter env c req) ≤ c.gold := by
  have hletter := toNat_asI32_le req.attachment.coins
  have hsat : req.attachment.coins ≤ saturatingAdd32 (sendGoldCost req) req.attachment.coins := by
    unfold saturatingAdd32
    omega
  rw [letterCoins_newLetter]
  unfold sentBy
  dsimp only
  split_ifs <;> omega

/-- With goods, the slot of the bag goes into the letter. -/
theorem posted_goods {req : SendRequest} (hatt : Attached c req.attachment)
    (hgoods : req.bType = 2 ∧ req.attachment.itemId ≠ 0)
    (hpurse : saturatingAdd32 (sendGoldCost req) req.attachment.coins ≤ c.gold) :
    Posted c (sentBy c req) (newLetter env c req) := by
  have hinv : (sentBy c req).inventory = c.inventory.set (SLOT_MAX + req.attachment.srcPos) {} := by
    unfold sentBy removeAttached
    dsimp only
    rw [if_pos hgoods, if_pos ⟨hatt.slot_lt, hatt.itemId⟩]
  have hset : ∀ id, id ≠ 0 → stock id (sentBy c req).inventory +
      (if req.attachment.itemId = id then req.attachment.itemCount else 0) =
        stock id c.inventory := by
    intro id hne
    have hset := Tally.total_set (stack id) hatt.slot_lt {} {}
    have hold : stack id (c.inventory.slot (SLOT_MAX + req.attachment.srcPos)) =
        if req.attachment.itemId = id then req.attachment.itemCount else 0 := by
      unfold stack
      rw [hatt.itemId, hatt.count]
    have hnew : stack id {} = 0 := stack_of_other rfl hne
    rw [hnew, Nat.add_zero] at hset
    rw [hinv, ← hold]
    exact hset
  have hcount : Tidy c.inventory → req.attachment.itemCount ≤ ITEMCOUNT_MAX := by
    intro htidy
    rw [← hatt.count]
    exact (htidy _).count_le
  refine ⟨fun id hne => ?_, coins_sentBy hatt.coins_lt hpurse, fun hclean => ?_,
    fun htidy => ?_, fun htidy => ?_, fun htidy id hne => ?_⟩
  · have := hset id hne
    have hcast := toNat_asI16_le req.attachment.itemCount
    rw [letterUnits_newLetter id hatt.itemId_lt]
    split_ifs at this ⊢ <;> omega
  · rw [hinv]
    exact hclean.set hatt.slot_lt fun _ => rfl
  · rw [hinv]
    exact htidy.set _ tidySlot_default
  · show asI16 req.attachment.itemCount ≤ ITEMCOUNT_MAX
    rw [asI16_of_le (hcount htidy)]
    exact Int.ofNat_le.mpr (hcount htidy)
  · have := hset id hne
    rw [letterUnits_newLetter id hatt.itemId_lt, asI16_of_le (hcount htidy), Int.toNat_natCast]
    exact this

/-- Without goods the bag stays as it is, and no item is in the letter. -/
theorem posted_text {req : SendRequest}
    (hnone : ¬ (req.bType = 2 ∧ req.attachment.itemId ≠ 0)) (hid : req.attachment.itemId = 0)
    (hcount : Tidy c.inventory → req.attachment.itemCount = 0)
    (hcoins : req.attachment.coins < 2 ^ 32)
    (hpurse : saturatingAdd32 (sendGoldCost req) req.attachment.coins ≤ c.gold) :
    Posted c (sentBy c req) (newLetter env c req) := by
  have hinv : (sentBy c req).inventory = c.inventory := if_neg hnone
  have hletter : ∀ id, id ≠ 0 → letterUnits id (newLetter env c req) = 0 := by
    intro id hne
    rw [letterUnits_newLetter id (by omega), hid, if_neg hne.symm]
  refine ⟨fun id hne => ?_, coins_sentBy hcoins hpurse, fun hclean => ?_,
    fun htidy => ?_, fun htidy => ?_, fun htidy id hne => ?_⟩
  · rw [hinv, hletter id hne, Nat.add_zero]
  · rwa [hinv]
  · rwa [hinv]
  · show asI16 req.attachment.itemCount ≤ ITEMCOUNT_MAX
    rw [hcount htidy]
    decide
  · rw [hinv, hletter id hne, Nat.add_zero]

theorem posted_sentBy {req : SendRequest} (h : readSend table c reader = .ok req)
    (hpurse : saturatingAdd32 (sendGoldCost req) req.attachment.coins ≤ c.gold) :
    Posted c (sentBy c req) (newLetter env c req) := by
  by_cases hgoods : req.bType = 2 ∧ req.attachment.itemId ≠ 0
  · have hatt : Attached c req.attachment := by
      rcases readSend_spec h with ⟨-, hatt⟩ | hempty
      · exact hatt
      · exact absurd (congrArg Attachment.itemId hempty) hgoods.2
    exact posted_goods hatt hgoods hpurse
  · rcases readSend_spec h with ⟨h2, hatt⟩ | hempty
    · have hid : req.attachment.itemId = 0 := by
        by_contra hne
        exact hgoods ⟨h2, hne⟩
      refine posted_text hgoods hid (fun htidy => ?_) hatt.coins_lt hpurse
      rw [← hatt.count]
      exact (htidy _).empty (hatt.itemId.trans hid)
    · refine posted_text hgoods (congrArg Attachment.itemId hempty) (fun _ => ?_) ?_ hpurse
      · exact congrArg Attachment.itemCount hempty
      · rw [hempty]
        decide

end Sending

section Taking

variable {table : ItemTable} {env : LetterEnv} {c c' : MailCharacter} {l : LetterRow} {n n' : ℕ}

def Takes (inv : Inventory) (pos itemId count : ℕ) : Prop :=
  pos < inv.length ∧ ((inv.slot pos).itemId = 0 ∨
    (inv.slot pos).itemId = itemId ∧ ((inv.slot pos).count + count) % 2 ^ 16 ≤ ITEMCOUNT_MAX)

theorem grantLetter_cases (h : grantLetter table env n c l = .ok (c', n')) :
    c'.gold ≤ c.gold + l.coins.toNat ∧
      (asU32 l.itemId = 0 ∧ c'.inventory = c.inventory ∨
        asU32 l.itemId ≠ 0 ∧ ∃ pos serial,
          Takes c.inventory pos (asU32 l.itemId) l.itemCount.toNat ∧
          c'.inventory =
            c.inventory.set pos (receivedSlot env l serial (c.inventory.slot pos))) := by
  have hgold : (if 0 < l.coins.toNat then goldGain c.gold l.coins.toNat else c.gold) ≤
      c.gold + l.coins.toNat := by
    unfold goldGain
    split_ifs <;> omega
  unfold grantLetter at h
  dsimp only at h
  generalize (if 0 < l.coins.toNat then goldGain c.gold l.coins.toNat else c.gold) = gold at h hgold
  by_cases hnothing : asU32 l.itemId = 0 ∧ l.coins.toNat = 0
  · rw [if_pos hnothing] at h
    cases h
  rw [if_neg hnothing] at h
  by_cases hid : asU32 l.itemId = 0
  · rw [if_neg (not_not.mpr hid)] at h
    split_ifs at h
    all_goals
      obtain ⟨rfl, -⟩ := Prod.mk.inj (Except.ok.inj h)
      exact ⟨hgold, Or.inl ⟨hid, rfl⟩⟩
  · rw [if_pos hid] at h
    cases hitem : table (asU32 l.itemId) with
    | none => simp only [hitem, reduceCtorEq] at h
    | some itemDef =>
      cases hfind : findSlotForItem table c.inventory (asU32 l.itemId) l.itemCount.toNat with
      | none => simp only [hitem, hfind, reduceCtorEq] at h
      | some pos =>
        simp only [hitem, hfind] at h
        split_ifs at h
        all_goals
          obtain ⟨rfl, -⟩ := Prod.mk.inj (Except.ok.inj h)
          exact ⟨hgold, Or.inr ⟨hid, pos, _, findSlotForItem_spec hfind, rfl⟩⟩

/-- What a letter gives to the player that takes it. -/
structure Collected (c c' : MailCharacter) (l : LetterRow) : Prop where
  units_le : Clean c.inventory → ∀ id, id ≠ 0 →
    stock id c'.inventory ≤ stock id c.inventory + letterUnits id l
  coins_le : c'.gold ≤ c.gold + letterCoins l
  clean : Clean c.inventory → Clean c'.inventory
  tidy : Tidy c.inventory → Tidy c'.inventory
  units : Tidy c.inventory → l.itemCount ≤ ITEMCOUNT_MAX → ∀ id, id ≠ 0 →
    stock id c'.inventory = stock id c.inventory + letterUnits id l

/-- The counter of the slot is cut at the limit of a stack, so units may go but never come. -/
theorem stack_receivedSlot (env : LetterEnv) (serial : ℕ) {slot : UserItemSlot}
    (htaken : l.itemTaken = false)
    (hslot : slot.itemId = 0 ∨ slot.itemId = asU32 l.itemId ∧
      (slot.count + l.itemCount.toNat) % 2 ^ 16 ≤ ITEMCOUNT_MAX)
    (hempty : slot.itemId = 0 → slot.count = 0) {id : ℕ} (hne : id ≠ 0) :
    stack id (receivedSlot env l serial slot) ≤ stack id slot + letterUnits id l ∧
      (slot.count ≤ ITEMCOUNT_MAX → l.itemCount ≤ ITEMCOUNT_MAX →
        stack id (receivedSlot env l serial slot) = stack id slot + letterUnits id l) := by
  have hmax : ITEMCOUNT_MAX = 9999 := rfl
  have hnew : stack id (receivedSlot env l serial slot) =
      if asU32 l.itemId = id then
        min ((slot.count + l.itemCount.toNat) % 2 ^ 16) ITEMCOUNT_MAX
      else 0 := rfl
  have hletter : letterUnits id l = if asU32 l.itemId = id then l.itemCount.toNat else 0 := by
    unfold letterUnits
    rw [htaken, if_neg Bool.false_ne_true]
  rw [hnew, hletter]
  rcases hslot with hfree | ⟨hsame, hfits⟩
  · have hold : stack id slot = 0 := stack_of_other hfree hne
    have hzero := hempty hfree
    rw [hold]
    split_ifs <;> omega
  · have hold : stack id slot = if asU32 l.itemId = id then slot.count else 0 := by
      unfold stack
      rw [hsame]
    rw [hold]
    split_ifs <;> omega

theorem collected_grantLetter (htaken : l.itemTaken = false)
    (h : grantLetter table env n c l = .ok (c', n')) : Collected c c' l := by
  have hcoins : letterCoins l = l.coins.toNat := by
    unfold letterCoins
    rw [htaken, if_neg Bool.false_ne_true]
  obtain ⟨hgold, hgoods⟩ := grantLetter_cases h
  rw [← hcoins] at hgold
  rcases hgoods with ⟨hid, hinv⟩ | ⟨hid, pos, serial, ⟨hlt, hslot⟩, hinv⟩
  · have hletter : ∀ id, id ≠ 0 → letterUnits id l = 0 := by
      intro id hne
      unfold letterUnits
      rw [hid, if_neg hne.symm, ite_self]
    refine ⟨fun _ id hne => ?_, hgold, fun hclean => ?_, fun htidy => ?_, fun _ _ id hne => ?_⟩
    · rw [hinv, hletter id hne, Nat.add_zero]
    · rwa [hinv]
    · rwa [hinv]
    · rw [hinv, hletter id hne, Nat.add_zero]
  · have hset : ∀ id, stock id c'.inventory + stack id (c.inventory.slot pos) =
        stock id c.inventory + stack id (receivedSlot env l serial (c.inventory.slot pos)) := by
      intro id
      rw [hinv]
      exact Tally.total_set (stack id) hlt _ {}
    refine ⟨fun hclean id hne => ?_, hgold, fun hclean => ?_, fun htidy => ?_,
      fun htidy hcount id hne => ?_⟩
    · obtain ⟨hle, -⟩ := stack_receivedSlot env serial htaken hslot
        (hclean pos) hne
      have := hset id
      omega
    · rw [hinv]
      exact hclean.set hlt fun hzero => absurd hzero hid
    · rw [hinv]
      exact htidy.set pos ⟨Nat.min_le_right _ _, fun hzero => absurd hzero hid⟩
    · obtain ⟨-, heq⟩ := stack_receivedSlot env serial htaken hslot
        (htidy pos).empty hne
      have := hset id
      have := heq (htidy pos).count_le hcount
      omega

end Taking

section Runs

variable {table : ItemTable} {s s' : MailState}

/-- What a request can come to while marks succeed. -/
inductive MailMove (s : MailState) : MailState → Prop
  | stays : MailMove s s
  | posted {who : ℕ} {c c' : MailCharacter} {l : LetterRow} (hc : s.characters[who]? = some c)
      (h : Posted c c' l) : MailMove s { s.setCharacter who c' with letters := s.letters ++ [l] }
  | collected {who letterId n : ℕ} {c c' : MailCharacter} {l : LetterRow}
      (hc : s.characters[who]? = some c)
      (hl : getItemFromLetter s.letters c.name letterId = some l) (h : Collected c c' l) :
      MailMove s { s.setCharacter who c' with
        letters := markItemTaken s.letters c.name letterId, nextItemSerial := n }
  | deleted (fails : DbFaults) (recipient : List Char) (k : ℕ) (ids : List ℕ) :
      MailMove s { s with letters := (deleteLetters fails recipient k ids s.letters).2 }

theorem mailMove_getItem {env : LetterEnv} {fails : DbFaults} {who : ℕ} {c : MailCharacter}
    (hc : s.characters[who]? = some c) (hmark : fails 1 = false) (reader : PacketReader) :
    MailMove s (handleGetItem table env fails s who c reader).2 := by
  unfold handleGetItem
  by_cases hbusy : (env.isMerchanting || env.isTrading) = true
  · rw [if_pos hbusy]
    exact .stays
  by_cases hzone : env.zoneId ∈ [ZONE_KNIGHT_ROYALE, ZONE_CHAOS_DUNGEON, ZONE_DUNGEON_DEFENCE]
  · rw [if_neg hbusy, if_pos hzone]
    exact .stays
  rw [if_neg hbusy, if_neg hzone]
  dsimp only
  by_cases hselect : fails 0 = true
  · rw [if_pos hselect]
    exact .stays
  rw [if_neg hselect]
  cases hl : getItemFromLetter s.letters c.name reader.readU32D.1 with
  | none => exact .stays
  | some l =>
    dsimp only
    cases hgrant : grantLetter table env s.nextItemSerial c l with
    | error code => exact .stays
    | ok granted =>
      dsimp only
      rw [hmark, if_neg Bool.false_ne_true]
      exact .collected hc hl (collected_grantLetter (getItemFromLetter_spec hl).2.2 hgrant)

/-- The call that marks a letter as taken, the second of a LETTER_GET_ITEM, does not fail. -/
def MailStep.Marks (i : MailStep) : Prop :=
  (PacketReader.new i.data).readU8D.1 = LETTER_GET_ITEM → i.fails 1 = false

instance (i : MailStep) : Decidable i.Marks :=
  inferInstanceAs (Decidable ((PacketReader.new i.data).readU8D.1 = LETTER_GET_ITEM →
    i.fails 1 = false))

theorem mailStep_move {i : MailStep} (hmark : i.Marks) : MailMove s (mailStep table s i) := by
  unfold mailStep handleLetter
  by_cases hout : (!i.env.inGame || i.env.isPlayerDead) = true
  · rw [if_pos hout]
    exact .stays
  rw [if_neg hout]
  dsimp only
  cases hc : s.characters[i.who]? with
  | none => exact .stays
  | some c =>
    dsimp only
    by_cases hsend : (PacketReader.new i.data).readU8D.1 = LETTER_SEND
    · rw [if_pos hsend]
      rcases handleSend_cases table i.env i.fails s i.who c (PacketReader.new i.data).readU8D.2 with
        heq | ⟨req, hread, -, hpurse, heq⟩
      · rw [heq]
        exact .stays
      · rw [heq]
        exact .posted hc (posted_sentBy hread hpurse)
    rw [if_neg hsend]
    by_cases hget : (PacketReader.new i.data).readU8D.1 = LETTER_GET_ITEM
    · rw [if_pos hget]
      exact mailMove_getItem hc (hmark hget) _
    rw [if_neg hget]
    by_cases hdelete : (PacketReader.new i.data).readU8D.1 = LETTER_DELETE
    · rw [if_pos hdelete]
      unfold handleDelete
      dsimp only
      by_cases hcount : MAX_DELETE_COUNT < (PacketReader.new i.data).readU8D.2.readU8D.1
      · rw [if_pos hcount]
        exact .stays
      · rw [if_neg hcount]
        exact .deleted _ _ _ _
    · rw [if_neg hdelete]
      exact .stays

/-- No empty slot of any character has anything on its counter. -/
def MailState.Clean (s : MailState) : Prop := ∀ c ∈ s.characters, KoServer.Clean c.inventory

/-- Besides, no stack is over its limit, in a bag or in a letter. -/
structure MailState.Stacked (s : MailState) : Prop where
  tidy : ∀ c ∈ s.characters, Tidy c.inventory
  letters : ∀ l ∈ s.letters, l.itemTaken = false → l.itemCount ≤ ITEMCOUNT_MAX

theorem forall_setCharacter {p : MailCharacter → Prop} {who : ℕ} {c c' : MailCharacter}
    (hc : s.characters[who]? = some c) (hp : p c → p c') (h : ∀ c ∈ s.characters, p c) :
    ∀ d ∈ (s.setCharacter who c').characters, p d := by
  intro d hd
  rcases List.mem_or_eq_of_mem_set hd with hmem | rfl
  · exact h d hmem
  · exact hp (h c (List.mem_of_getElem? hc))

theorem MailMove.clean (h : MailMove s s') (hs : s.Clean) : s'.Clean := by
  cases h with
  | stays => exact hs
  | posted hc h => exact forall_setCharacter hc h.clean hs
  | collected hc hl h => exact forall_setCharacter hc h.clean hs
  | deleted fails recipient k ids => exact hs

theorem MailMove.stacked (h : MailMove s s') (hs : s.Stacked) : s'.Stacked := by
  cases h with
  | stays => exact hs
  | @posted who c c' l hc h =>
    refine ⟨forall_setCharacter hc h.tidy hs.tidy, fun l' hl' => ?_⟩
    rcases List.mem_append.mp hl' with hmem | hnew
    · exact hs.letters l' hmem
    · rw [List.mem_singleton.mp hnew]
      exact fun _ => h.count_le (hs.tidy c (List.mem_of_getElem? hc))
  | collected hc hl h =>
    exact ⟨forall_setCharacter hc h.tidy hs.tidy,
      forall_updateLetter (fun _ _ htaken => nomatch htaken) hs.letters⟩
  | deleted fails recipient k ids =>
    exact ⟨hs.tidy, forall_deleteLetters (fun _ hp => hp) fails k ids hs.letters⟩

/-- What a move does to a measure: a letter takes from its sender, or gives to its receiver. -/
theorem MailMove.worth_cases (f : MailCharacter → ℕ) {g : LetterRow → ℕ} (hg : Untaken g)
    (h : MailMove s s') :
    s'.worth f g = s.worth f g ∨
      (∃ c ∈ s.characters, ∃ c' l, Posted c c' l ∧
        s'.worth f g + f c = s.worth f g + (f c' + g l)) ∨
      ∃ c ∈ s.characters, ∃ c', ∃ l ∈ s.letters, l.itemTaken = false ∧ Collected c c' l ∧
        s'.worth f g + (f c + g l) = s.worth f g + f c' := by
  cases h with
  | stays => exact Or.inl rfl
  | @posted who c c' l hc h =>
    refine Or.inr (Or.inl ⟨c, List.mem_of_getElem? hc, c', l, h, ?_⟩)
    have hmove := worth_setCharacter (f := f) (g := g) hc c' (s.letters ++ [l]) s.nextItemSerial
    rw [Tally.total_append, Tally.total_cons, Tally.total_nil, Nat.add_zero] at hmove
    show MailState.worth f g { s.setCharacter who c' with
      letters := s.letters ++ [l], nextItemSerial := s.nextItemSerial } + f c = _
    omega
  | @collected who letterId n c c' l hc hl h =>
    obtain ⟨hat, -, htaken⟩ := getItemFromLetter_spec hl
    have hrow := List.mem_of_getElem? (letterAt_spec hat)
    refine Or.inr (Or.inr ⟨c, List.mem_of_getElem? hc, c', l, hrow, htaken, h, ?_⟩)
    have hmove := worth_setCharacter (f := f) (g := g) hc c'
      (markItemTaken s.letters c.name letterId) n
    have hmark := total_markItemTaken hg hl
    omega
  | deleted fails recipient k ids =>
    left
    exact congrArg (Tally.total f s.characters + ·) (total_deleteLetters hg fails k ids)

theorem MailMove.units_le (h : MailMove s s') (hs : s.Clean) {id : ℕ} (hne : id ≠ 0) :
    s'.units id ≤ s.units id := by
  unfold MailState.units
  rcases h.worth_cases (fun c => stock id c.inventory) (untaken_letterUnits id) with
    heq | ⟨c, -, c', l, hpost, heq⟩ | ⟨c, hc, c', l, -, -, hcollect, heq⟩
  · exact heq.le
  · have := hpost.units_le id hne
    omega
  · have := hcollect.units_le (hs c hc) id hne
    omega

theorem MailMove.units_eq (h : MailMove s s') (hs : s.Stacked) {id : ℕ} (hne : id ≠ 0) :
    s'.units id = s.units id := by
  unfold MailState.units
  rcases h.worth_cases (fun c => stock id c.inventory) (untaken_letterUnits id) with
    heq | ⟨c, hc, c', l, hpost, heq⟩ | ⟨c, hc, c', l, hl, htaken, hcollect, heq⟩
  · exact heq
  · have := hpost.units (hs.tidy c hc) id hne
    omega
  · have := hcollect.units (hs.tidy c hc) (hs.letters l hl htaken) id hne
    omega

theorem MailMove.coins_le (h : MailMove s s') : s'.coins ≤ s.coins := by
  unfold MailState.coins
  rcases h.worth_cases (fun c => c.gold) untaken_letterCoins with
    heq | ⟨c, -, c', l, hpost, heq⟩ | ⟨c, -, c', l, -, -, hcollect, heq⟩
  · exact heq.le
  · have := hpost.coins_le
    omega
  · have := hcollect.coins_le
    omega

/-- Whatever other calls fail, no run comes to more units or coins than there were, and none
loses units unless a stack was over its limit. -/
theorem mail_conserves (table : ItemTable) (s : MailState) (hclean : s.Clean)
    (steps : List MailStep) (hmarks : ∀ i ∈ steps, i.Marks) :
    (∀ id, id ≠ 0 → (run (mailStep table) s steps).units id ≤ s.units id) ∧
      (run (mailStep table) s steps).coins ≤ s.coins ∧
      (s.Stacked → ∀ id, id ≠ 0 → (run (mailStep table) s steps).units id = s.units id) := by
  have hok : Along (mailStep table) (fun _ => MailStep.Marks) s steps :=
    Run.along_of_forall s hmarks
  have hle : (run (mailStep table) s steps).Clean ∧
      (∀ id, id ≠ 0 → (run (mailStep table) s steps).units id ≤ s.units id) ∧
      (run (mailStep table) s steps).coins ≤ s.coins := by
    refine Run.invariant (fun t : MailState => t.Clean ∧
      (∀ id, id ≠ 0 → t.units id ≤ s.units id) ∧ t.coins ≤ s.coins)
      (fun t i ht hi => ?_) hok ⟨hclean, fun _ _ => le_rfl, le_rfl⟩
    obtain ⟨hc, hunits, hcoins⟩ := ht
    have hmove : MailMove t (mailStep table t i) := mailStep_move hi
    exact ⟨hmove.clean hc, fun id hne => (hmove.units_le hc hne).trans (hunits id hne),
      hmove.coins_le.trans hcoins⟩
  refine ⟨hle.2.1, hle.2.2, fun hstacked id hne => ?_⟩
  refine Run.conserved MailState.Stacked (MailState.units id) (fun t i ht hi => ?_) hok hstacked
  have hmove : MailMove t (mailStep table t i) := mailStep_move hi
  exact ⟨hmove.stacked ht, hmove.units_eq ht hne⟩

end Runs

/-! Alice has three potions and sends them to Bob. -/

def mailTable : ItemTable := fun id =>
  if id = 389010000 then some { countable := some 1, weight := some 1 } else none

def threePotionsByMail : MailState where
  characters :=
    [{ name := ['a', 'l', 'i', 'c', 'e']
       inventory := (List.replicate INVENTORY_TOTAL {}).set SLOT_MAX
         { itemId := 389010000, count := 3 }
       gold := 20000 },
     { name := ['b', 'o', 'b'], inventory := List.replicate INVENTORY_TOTAL {}, gold := 0 }]
  letters := []
  userdata := [['a', 'l', 'i', 'c', 'e'], ['b', 'o', 'b']]
  nextItemSerial := 1

def atTheMailbox : LetterEnv where
  inGame := true
  isPlayerDead := false
  isMerchanting := false
  isTrading := false
  isMining := false
  isFishing := false
  zoneId := 21
  itemWeight := 0
  maxWeight := 1000
  now := 0
  sendDate := 260101

/-- Alice's request, with 500 coins besides. -/
def sendPotions (fails : DbFaults) : MailStep where
  who := 0
  env := atTheMailbox
  data := [6, 3, 98, 111, 98, 2, 104, 105, 2] ++ Bytes.le 4 389010000 ++ [0] ++ Bytes.le 4 500 ++
    [2, 104, 105]
  fails := fails

/-- Bob's request for the item of the first letter. -/
def takePotions (fails : DbFaults) : MailStep where
  who := 1
  env := atTheMailbox
  data := [4] ++ Bytes.le 4 0
  fails := fails

theorem threePotionsByMail_stacked : threePotionsByMail.Stacked := by
  have hslots : ∀ c ∈ threePotionsByMail.characters, ∀ slot ∈ c.inventory,
      slot.count ≤ ITEMCOUNT_MAX ∧ (slot.itemId = 0 → slot.count = 0) := by decide +kernel
  refine ⟨fun c hc => ?_, fun l hl => nomatch hl⟩
  exact Inventory.forall_slot (fun slot hslot => ⟨(hslots c hc slot hslot).1,
    (hslots c hc slot hslot).2⟩) tidySlot_default

/-- A letter that could not be stored, a second try, a lookup that failed, and the potions are
with Bob. -/
theorem mail_conserves_potions :
    (run (mailStep mailTable) threePotionsByMail
      [sendPotions fun k => k = 1, sendPotions fun _ => false, takePotions fun k => k = 0,
        takePotions fun _ => false]).units 389010000 = threePotionsByMail.units 389010000 :=
  (mail_conserves mailTable threePotionsByMail
    (fun c hc => (threePotionsByMail_stacked.tidy c hc).clean) _ (by decide)).2.2
    threePotionsByMail_stacked 389010000 (by decide)

/-- Bob has the potions, the mark fails, and the letter still has them. -/
theorem potions_taken_unmarked :
    ¬ ∀ id, id ≠ 0 → (run (mailStep mailTable) threePotionsByMail
      [sendPotions fun _ => false, takePotions fun k => k = 1]).units id ≤
        threePotionsByMail.units id := by
  intro h
  exact absurd (h 389010000 (by decide)) (by decide +kernel)

end KoServer
