import Mathlib.Data.List.Forall2
import Mathlib.Data.List.Basic

/-! Readers that take values off the front of a byte string, and three ways to say what one
does: what it reads, what it refuses, and what the bytes it accepted looked like. -/

namespace Wire

variable {E α β ι κ : Type}

abbrev Reader (E α : Type) := StateT (List UInt8) (Except E) α

def readExact (e : E) (n : ℕ) : Reader E (List UInt8) := fun data =>
  if n ≤ data.length then .ok (data.take n, data.drop n) else .error e

/-- The reader with its error put through `f`. -/
def onError (f : E → E) (r : Reader E α) : Reader E α := fun data => (r data).mapError f

def fail (e : E) : Reader E α := fun _ => .error e

/-- `seek(SeekFrom::Current(n))`: nothing stops it at the end. -/
def skip (n : ℕ) : Reader E Unit := fun data => .ok ((), data.drop n)

def ensure (c : Prop) [Decidable c] (e : E) : Reader E Unit := if c then pure () else fail e

theorem bind_ok {r : Reader E α} {k : α → Reader E β} {data rest : List UInt8} {a : α}
    (h : r data = .ok (a, rest)) : (r >>= k) data = k a rest := by
  simp [bind, StateT.bind, Except.bind, h]

theorem bind_error {r : Reader E α} {k : α → Reader E β} {data : List UInt8} {e : E}
    (h : r data = .error e) : (r >>= k) data = .error e := by
  simp [bind, StateT.bind, Except.bind, h]

theorem pure_eq_ok {a b : α} {data rest : List UInt8}
    (h : (pure a : Reader E α) data = .ok (b, rest)) : a = b ∧ data = rest := by
  have hok : (Except.ok (a, data) : Except E (α × List UInt8)) = .ok (b, rest) := h
  simpa using hok

theorem bind_eq_ok {r : Reader E α} {k : α → Reader E β} {data rest : List UInt8} {b : β}
    (h : (r >>= k) data = .ok (b, rest)) :
    ∃ a mid, r data = .ok (a, mid) ∧ k a mid = .ok (b, rest) := by
  cases hr : r data with
  | error e => simp [bind_error hr] at h
  | ok p =>
    obtain ⟨a, mid⟩ := p
    exact ⟨a, mid, rfl, by rwa [bind_ok hr] at h⟩

theorem onError_ok {f : E → E} {r : Reader E α} {data rest : List UInt8} {a : α} :
    onError f r data = .ok (a, rest) ↔ r data = .ok (a, rest) := by
  unfold onError
  cases r data <;> simp [Except.mapError]

/-- The bytes are read as `a`, whatever follows them. -/
def Reads (r : Reader E α) (bytes : List UInt8) (a : α) : Prop :=
  ∀ rest, r (bytes ++ rest) = .ok (a, rest)

def Refuses (r : Reader E α) (bytes : List UInt8) : Prop :=
  ∀ rest, ∃ e, r (bytes ++ rest) = .error e

/-- The bytes are read as `a` if `P` holds, and refused otherwise. -/
structure ReadsIf (r : Reader E α) (bytes : List UInt8) (P : Prop) (a : α) : Prop where
  reads : P → Reads r bytes a
  refuses : ¬ P → Refuses r bytes

theorem reads_pure (a : α) : Reads (pure a : Reader E α) [] a := fun _ => rfl

theorem Reads.bind {r : Reader E α} {k : α → Reader E β} {b₁ b₂ : List UInt8} {a : α} {b : β}
    (hr : Reads r b₁ a) (hk : Reads (k a) b₂ b) : Reads (r >>= k) (b₁ ++ b₂) b := by
  intro rest
  rw [List.append_assoc, bind_ok (hr (b₂ ++ rest))]
  exact hk rest

theorem Reads.map {r : Reader E α} {bytes : List UInt8} {a : α} (h : Reads r bytes a) (f : α → β) :
    Reads (f <$> r) bytes (f a) := by
  intro rest
  rw [← bind_pure_comp, bind_ok (h rest)]
  rfl

theorem Reads.onError {r : Reader E α} {bytes : List UInt8} {a : α} (h : Reads r bytes a)
    (f : E → E) : Reads (onError f r) bytes a :=
  fun rest => onError_ok.mpr (h rest)

theorem reads_readExact {e : E} (bytes : List UInt8) :
    Reads (readExact e bytes.length) bytes bytes := by
  intro rest
  simp [readExact]

theorem reads_ensure {c : Prop} [Decidable c] (hc : c) (e : E) : Reads (ensure c e) [] () := by
  rw [ensure, if_pos hc]
  exact reads_pure ()

theorem reads_ofExcept (a : α) : Reads (ofExcept (.ok a) : Reader E α) [] a := fun _ => rfl

theorem refuses_fail (e : E) (bytes : List UInt8) : Refuses (fail e : Reader E α) bytes :=
  fun _ => ⟨e, rfl⟩

theorem Refuses.bind {r : Reader E α} {b₁ : List UInt8} (hr : Refuses r b₁) (k : α → Reader E β)
    (b₂ : List UInt8) : Refuses (r >>= k) (b₁ ++ b₂) := by
  intro rest
  obtain ⟨e, he⟩ := hr (b₂ ++ rest)
  exact ⟨e, by rw [List.append_assoc, bind_error he]⟩

theorem Reads.bind_refuses {r : Reader E α} {k : α → Reader E β} {b₁ b₂ : List UInt8} {a : α}
    (hr : Reads r b₁ a) (hk : Refuses (k a) b₂) : Refuses (r >>= k) (b₁ ++ b₂) := by
  intro rest
  obtain ⟨e, he⟩ := hk rest
  exact ⟨e, by rw [List.append_assoc, bind_ok (hr (b₂ ++ rest)), he]⟩

theorem Reads.readsIf {r : Reader E α} {bytes : List UInt8} {a : α} {P : Prop} (hP : P)
    (h : Reads r bytes a) : ReadsIf r bytes P a :=
  ⟨fun _ => h, fun hn => absurd hP hn⟩

theorem Reads.bind_readsIf {r : Reader E α} {k : α → Reader E β} {b₁ b₂ : List UInt8} {a : α}
    {b : β} {P : Prop} (hr : Reads r b₁ a) (hk : ReadsIf (k a) b₂ P b) :
    ReadsIf (r >>= k) (b₁ ++ b₂) P b :=
  ⟨fun hP => hr.bind (hk.reads hP), fun hP => hr.bind_refuses (hk.refuses hP)⟩

theorem Reads.nil_bind_readsIf {r : Reader E α} {k : α → Reader E β} {bytes : List UInt8} {a : α}
    {b : β} {P : Prop} (hr : Reads r [] a) (hk : ReadsIf (k a) bytes P b) :
    ReadsIf (r >>= k) bytes P b :=
  hr.bind_readsIf hk

theorem ReadsIf.map {r : Reader E α} {bytes : List UInt8} {a : α} {P : Prop}
    (h : ReadsIf r bytes P a) (f : α → β) : ReadsIf (f <$> r) bytes P (f a) := by
  refine ⟨fun hP => (h.reads hP).map f, fun hP => ?_⟩
  have := (h.refuses hP).bind (fun a => (pure (f a) : Reader E β)) []
  rwa [List.append_nil, bind_pure_comp] at this

/-- A list of readers reads what each of them reads, and refuses if one of them does. -/
theorem readsIf_mapM {f : ι → Reader E α} {enc : κ → List UInt8} {P : κ → Prop} {val : κ → α}
    {xs : List ι} {ys : List κ}
    (h : List.Forall₂ (fun x y => ReadsIf (f x) (enc y) (P y) (val y)) xs ys) :
    ReadsIf (xs.mapM f) (ys.flatMap enc) (∀ y ∈ ys, P y) (ys.map val) := by
  induction h with
  | nil => exact (reads_pure []).readsIf (by simp)
  | @cons x y xs ys hxy _ ih =>
    rw [List.mapM_cons, List.flatMap_cons, List.map_cons]
    by_cases hy : P y
    · have htail := ih.map (val y :: ·)
      refine ⟨fun hall => (hxy.reads hy).bind ?_, fun hall => (hxy.reads hy).bind_refuses ?_⟩
      · exact (htail.reads fun z hz => hall z (List.mem_cons_of_mem _ hz))
      · refine htail.refuses fun htail => hall fun z hz => ?_
        rcases List.mem_cons.mp hz with rfl | hz
        · exact hy
        · exact htail z hz
    · refine ⟨fun hall => absurd (hall y List.mem_cons_self) hy, fun _ => ?_⟩
      exact (hxy.refuses hy).bind _ _

theorem reads_mapM {f : ι → Reader E α} {enc : α → List UInt8} (h : ∀ x a, Reads (f x) (enc a) a)
    {xs : List ι} {as : List α} (hlen : xs.length = as.length) :
    Reads (xs.mapM f) (as.flatMap enc) as := by
  have hall : List.Forall₂ (fun x a => ReadsIf (f x) (enc a) True (id a)) xs as :=
    List.forall₂_iff_get.mpr ⟨hlen, fun _ _ _ => (h _ _).readsIf trivial⟩
  have := (readsIf_mapM (P := fun _ => True) hall).reads fun _ _ => trivial
  rwa [List.map_id] at this

/-- A condition on the bytes that are left, kept when more come in front. -/
structure Tail where
  holds : List UInt8 → Prop
  append : ∀ bytes rest, holds rest → holds (bytes ++ rest)

def Tail.any : Tail := ⟨fun _ => True, fun _ _ _ => trivial⟩

def Tail.nonempty : Tail := ⟨(· ≠ []), fun _ _ h => List.append_ne_nil_of_right_ne_nil _ h⟩

variable {L : Tail}

/-- Whatever the reader accepts starts with bytes of the given shape, and the rest is left. -/
def Accepts (L : Tail) (r : Reader E α) (shape : α → List UInt8 → Prop) : Prop :=
  ∀ data a rest, r data = .ok (a, rest) → L.holds rest →
    ∃ bytes, data = bytes ++ rest ∧ shape a bytes

theorem Accepts.mono {r : Reader E α} {S T : α → List UInt8 → Prop} (h : Accepts L r S)
    (hST : ∀ a bytes, S a bytes → T a bytes) : Accepts L r T := by
  intro data a rest hr hrest
  obtain ⟨bytes, hdata, hS⟩ := h data a rest hr hrest
  exact ⟨bytes, hdata, hST a bytes hS⟩

theorem accepts_readExact (e : E) (n : ℕ) :
    Accepts L (readExact e n) fun a bytes => a = bytes ∧ bytes.length = n := by
  intro data a rest h _
  unfold readExact at h
  split_ifs at h with hn
  obtain ⟨rfl, rfl⟩ : data.take n = a ∧ data.drop n = rest := by simpa using h
  exact ⟨data.take n, (List.take_append_drop n data).symm, rfl, by simp [hn]⟩

theorem accepts_pure (a : α) :
    Accepts L (pure a : Reader E α) fun b bytes => b = a ∧ bytes = [] := by
  intro data b rest h _
  obtain ⟨rfl, rfl⟩ := pure_eq_ok h
  exact ⟨[], rfl, rfl, rfl⟩

theorem accepts_fail (e : E) (S : α → List UInt8 → Prop) :
    Accepts L (fail e : Reader E α) S := by
  intro data a rest h _
  simp [fail] at h

theorem accepts_ensure (c : Prop) [Decidable c] (e : E) :
    Accepts L (ensure c e) fun _ bytes => c ∧ bytes = [] := by
  unfold ensure
  split_ifs with hc
  · exact (accepts_pure ()).mono fun _ _ h => ⟨hc, h.2⟩
  · exact accepts_fail e _

theorem accepts_ofExcept (x : Except E α) :
    Accepts L (ofExcept x : Reader E α) fun a bytes => x = .ok a ∧ bytes = [] := by
  intro data a rest h _
  cases x with
  | error e => exact absurd h (by rintro ⟨⟩)
  | ok b =>
    obtain ⟨rfl, rfl⟩ := pure_eq_ok h
    exact ⟨[], rfl, rfl, rfl⟩

/-- A skip past the end goes unnoticed until something is left to be read. -/
theorem accepts_skip (n : ℕ) :
    Accepts .nonempty (skip n : Reader E Unit) fun _ bytes => bytes.length = n := by
  intro data a rest h hrest
  obtain rfl : data.drop n = rest := by simpa [skip] using h
  have hlong : n < data.length := by simpa [Tail.nonempty] using hrest
  exact ⟨data.take n, (List.take_append_drop n data).symm, by simp; omega⟩

theorem Accepts.onError {r : Reader E α} {S : α → List UInt8 → Prop} (h : Accepts L r S)
    (f : E → E) : Accepts L (onError f r) S :=
  fun data a rest hr => h data a rest (onError_ok.mp hr)

theorem Accepts.bind {r : Reader E α} {k : α → Reader E β} {S : α → List UInt8 → Prop}
    {T : α → β → List UInt8 → Prop} (hr : Accepts L r S) (hk : ∀ a, Accepts L (k a) (T a)) :
    Accepts L (r >>= k) fun b bytes =>
      ∃ a b₁ b₂, bytes = b₁ ++ b₂ ∧ S a b₁ ∧ T a b b₂ := by
  intro data b rest h hrest
  obtain ⟨a, mid, hra, hkb⟩ := bind_eq_ok h
  obtain ⟨b₂, rfl, hT⟩ := hk a mid b rest hkb hrest
  obtain ⟨b₁, rfl, hS⟩ := hr data a _ hra (L.append _ _ hrest)
  exact ⟨b₁ ++ b₂, by simp, a, b₁, b₂, rfl, hS, hT⟩

/-- What is read after a skip shows that the skip stayed inside. -/
theorem Accepts.bind_read {r : Reader E α} {k : α → Reader E β} {S : α → List UInt8 → Prop}
    {T : α → β → List UInt8 → Prop} (hr : Accepts .nonempty r S)
    (hk : ∀ a, Accepts .any (k a) (T a)) (hT : ∀ a b bytes, T a b bytes → bytes ≠ []) :
    Accepts .any (r >>= k) fun b bytes =>
      ∃ a b₁ b₂, bytes = b₁ ++ b₂ ∧ S a b₁ ∧ T a b b₂ := by
  intro data b rest h _
  obtain ⟨a, mid, hra, hkb⟩ := bind_eq_ok h
  obtain ⟨b₂, rfl, hshape⟩ := hk a mid b rest hkb trivial
  obtain ⟨b₁, rfl, hS⟩ := hr data a _ hra (by simp [Tail.nonempty, hT a b b₂ hshape])
  exact ⟨b₁ ++ b₂, by simp, a, b₁, b₂, rfl, hS, hshape⟩

theorem Accepts.map {r : Reader E α} {S : α → List UInt8 → Prop} (h : Accepts L r S) (f : α → β) :
    Accepts L (f <$> r) fun b bytes => ∃ a, b = f a ∧ S a bytes := by
  rw [← bind_pure_comp]
  refine (h.bind fun a => accepts_pure (f a)).mono ?_
  rintro b bytes ⟨a, b₁, b₂, rfl, hS, rfl, rfl⟩
  exact ⟨a, rfl, by simpa using hS⟩

def Pieces (S : ι → α → List UInt8 → Prop) (xs : List ι) (as : List α) (bytes : List UInt8) : Prop :=
  ∃ pieces : List (α × List UInt8), as = pieces.map Prod.fst ∧ bytes = pieces.flatMap Prod.snd ∧
    List.Forall₂ (fun x piece => S x piece.1 piece.2) xs pieces

theorem accepts_mapM {f : ι → Reader E α} {S : ι → α → List UInt8 → Prop}
    (hf : ∀ x, Accepts L (f x) (S x)) (xs : List ι) :
    Accepts L (xs.mapM f) (Pieces S xs) := by
  induction xs with
  | nil =>
    refine (accepts_pure []).mono ?_
    rintro as bytes ⟨rfl, rfl⟩
    exact ⟨[], rfl, rfl, List.Forall₂.nil⟩
  | cons x xs ih =>
    rw [List.mapM_cons]
    refine ((hf x).bind fun a => ih.map (a :: ·)).mono ?_
    rintro as bytes ⟨a, b₁, b₂, rfl, hS, tail, rfl, pieces, rfl, rfl, hpieces⟩
    exact ⟨(a, b₁) :: pieces, by simp, by simp, List.Forall₂.cons hS hpieces⟩

/-- The reader takes exactly the bytes of the given shape off the front. -/
structure Format (L : Tail) (r : Reader E α) (shape : α → List UInt8 → Prop) : Prop where
  reads : ∀ a bytes, shape a bytes → Reads r bytes a
  accepts : Accepts L r shape

theorem Format.congr {r : Reader E α} {S T : α → List UInt8 → Prop} (h : Format L r S)
    (hST : ∀ a bytes, S a bytes ↔ T a bytes) : Format L r T :=
  ⟨fun a bytes hT => h.reads a bytes ((hST a bytes).mpr hT),
    h.accepts.mono fun a bytes => (hST a bytes).mp⟩

theorem format_readExact (e : E) (n : ℕ) :
    Format L (readExact e n) fun a bytes => a = bytes ∧ bytes.length = n := by
  refine ⟨?_, accepts_readExact e n⟩
  rintro _ bytes ⟨rfl, rfl⟩
  exact reads_readExact _

theorem format_pure (a : α) : Format L (pure a : Reader E α) fun b bytes => b = a ∧ bytes = [] := by
  refine ⟨?_, accepts_pure a⟩
  rintro b bytes ⟨rfl, rfl⟩
  exact reads_pure b

theorem format_ensure (c : Prop) [Decidable c] (e : E) :
    Format L (ensure c e) fun _ bytes => c ∧ bytes = [] := by
  refine ⟨?_, accepts_ensure c e⟩
  rintro _ _ ⟨hc, rfl⟩
  exact reads_ensure hc e

theorem format_skip (n : ℕ) :
    Format .nonempty (skip n : Reader E Unit) fun _ bytes => bytes.length = n := by
  refine ⟨?_, accepts_skip n⟩
  rintro _ bytes rfl rest
  simp [skip]

theorem Format.bind {r : Reader E α} {k : α → Reader E β} {S : α → List UInt8 → Prop}
    {T : α → β → List UInt8 → Prop} (hr : Format L r S) (hk : ∀ a, Format L (k a) (T a)) :
    Format L (r >>= k) fun b bytes => ∃ a b₁ b₂, bytes = b₁ ++ b₂ ∧ S a b₁ ∧ T a b b₂ := by
  refine ⟨?_, hr.accepts.bind fun a => (hk a).accepts⟩
  rintro b _ ⟨a, b₁, b₂, rfl, hS, hT⟩
  exact (hr.reads a b₁ hS).bind ((hk a).reads b b₂ hT)

theorem Format.bind_read {r : Reader E α} {k : α → Reader E β} {S : α → List UInt8 → Prop}
    {T : α → β → List UInt8 → Prop} (hr : Format .nonempty r S)
    (hk : ∀ a, Format .any (k a) (T a)) (hT : ∀ a b bytes, T a b bytes → bytes ≠ []) :
    Format .any (r >>= k) fun b bytes => ∃ a b₁ b₂, bytes = b₁ ++ b₂ ∧ S a b₁ ∧ T a b b₂ := by
  refine ⟨?_, hr.accepts.bind_read (fun a => (hk a).accepts) hT⟩
  rintro b _ ⟨a, b₁, b₂, rfl, hS, hshape⟩
  exact (hr.reads a b₁ hS).bind ((hk a).reads b b₂ hshape)

theorem Format.map {r : Reader E α} {S : α → List UInt8 → Prop} (h : Format L r S) (f : α → β) :
    Format L (f <$> r) fun b bytes => ∃ a, b = f a ∧ S a bytes := by
  refine ⟨?_, h.accepts.map f⟩
  rintro _ bytes ⟨a, rfl, hS⟩
  exact (h.reads a bytes hS).map f

theorem format_mapM {f : ι → Reader E α} {S : ι → α → List UInt8 → Prop}
    (hf : ∀ x, Format L (f x) (S x)) (xs : List ι) :
    Format L (xs.mapM f) (Pieces S xs) := by
  refine ⟨?_, accepts_mapM (fun x => (hf x).accepts) xs⟩
  rintro _ _ ⟨pieces, rfl, rfl, hpieces⟩
  have hall : List.Forall₂ (fun x piece => ReadsIf (f x) piece.2 True piece.1) xs pieces :=
    hpieces.imp fun x piece hS => ((hf x).reads piece.1 piece.2 hS).readsIf trivial
  exact (readsIf_mapM (P := fun _ => True) hall).reads fun _ _ => trivial

/-- Readers in a row whose bytes their values spell. -/
theorem format_spelled {f : ℕ → Reader E α} {Q : ℕ → α → Prop} {enc : α → List UInt8}
    (hf : ∀ i, Format L (f i) fun a bytes => Q i a ∧ bytes = enc a) (n : ℕ) :
    Format L ((List.range n).mapM f) fun as bytes =>
      as.length = n ∧ (∀ i a, as[i]? = some a → Q i a) ∧ bytes = as.flatMap enc := by
  refine (format_mapM hf (List.range n)).congr fun as bytes => ⟨?_, ?_⟩
  · rintro ⟨pieces, rfl, rfl, hpieces⟩
    obtain ⟨hlen, hget⟩ := List.forall₂_iff_get.mp hpieces
    rw [List.length_range] at hlen
    refine ⟨by simp [← hlen], fun i a ha => ?_, ?_⟩
    · obtain ⟨hi, rfl⟩ := List.getElem?_eq_some_iff.mp ha
      rw [List.length_map] at hi
      simpa using (hget i (by simpa [hlen] using hi) hi).1
    · rw [List.flatMap_map]
      apply List.flatMap_congr
      intro piece hmem
      obtain ⟨i, hi, rfl⟩ := List.getElem_of_mem hmem
      exact (hget i (by simpa [hlen] using hi) hi).2
  · rintro ⟨hlen, hQ, rfl⟩
    refine ⟨as.map fun a => (a, enc a), by simp [Function.comp_def], by simp [List.flatMap_map], ?_⟩
    refine List.forall₂_iff_get.mpr ⟨by simp [hlen], fun i hi hi' => ?_⟩
    rw [List.length_map] at hi'
    simpa using hQ i as[i] (List.getElem?_eq_getElem hi')

theorem format_repeat {r : Reader E Unit} {P : List UInt8 → Prop}
    (hr : Format L r fun _ bytes => P bytes) (n : ℕ) :
    Format L ((List.range n).mapM fun _ => r) fun as bytes =>
      as.length = n ∧ ∃ parts : List (List UInt8),
        bytes = parts.flatten ∧ parts.length = n ∧ ∀ part ∈ parts, P part := by
  refine (format_mapM (fun _ => hr) (List.range n)).congr fun as bytes => ⟨?_, ?_⟩
  · rintro ⟨pieces, rfl, rfl, hpieces⟩
    obtain ⟨hlen, hget⟩ := List.forall₂_iff_get.mp hpieces
    rw [List.length_range] at hlen
    refine ⟨by simp [← hlen], pieces.map Prod.snd, by simp [List.flatMap], by simp [← hlen], ?_⟩
    intro part hpart
    obtain ⟨piece, hmem, rfl⟩ := List.mem_map.mp hpart
    obtain ⟨i, hi, rfl⟩ := List.getElem_of_mem hmem
    exact hget i (by simpa [hlen] using hi) hi
  · rintro ⟨hlen, parts, rfl, hparts, hP⟩
    refine ⟨parts.map fun part => ((), part), ?_, by simp [List.flatMap_map, List.flatMap_id'], ?_⟩
    · apply List.ext_getElem (by simp [hlen, hparts])
      intro i hi hi'
      rfl
    · refine List.forall₂_iff_get.mpr ⟨by simp [hparts], fun i hi hi' => ?_⟩
      simpa using hP _ (List.getElem_mem _)

end Wire
