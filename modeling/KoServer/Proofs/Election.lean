import KoServer.Lib.Run
import KoServer.Spec.Election

/-! Who can be elected. Each candidate is one senator's, and nobody is on the list twice; that a
nominee exists and has not resigned is checked nowhere. -/

namespace KoServer

/-- Two names are the same to the lists where these agree. -/
def caseless (name : List Char) : List Char := name.map Char.toLower

theorem eqIgnoreAsciiCase_iff {a b : List Char} :
    eqIgnoreAsciiCase a b = true ↔ caseless a = caseless b := by
  unfold eqIgnoreAsciiCase caseless
  exact decide_eq_true_iff

theorem not_eqIgnoreAsciiCase_iff {a b : List Char} :
    (!eqIgnoreAsciiCase a b) = true ↔ caseless a ≠ caseless b := by
  rw [Bool.not_eq_true', ← Bool.not_eq_true, eqIgnoreAsciiCase_iff]

/-- The senators that the election began with, and all nominations since, the withdrawn ones too. -/
structure ElectionRecord where
  senate : List (List Char) := []
  backed : List NominationEntry := []
deriving DecidableEq

structure ElectionWatch where
  world : ElectionWorld
  record : ℕ → ElectionRecord

namespace ElectionWatch

variable (w : ElectionWatch)

def recorded : ElectionStep → ℕ → ElectionRecord
  | .recommend env sid data =>
    match w.world.nomination env sid data with
    | none => w.record
    | some (nation, entry) =>
      Function.update w.record nation
        { w.record nation with backed := entry :: (w.record nation).backed }
  | .resign _ _ => w.record
  | .tick env nation now =>
    if (w.world nation).any fun ks => !ks.electionUnderProgress && ks.opensNomination now then
      Function.update w.record nation ⟨(env.topRankedClans nation 10).map Prod.snd, []⟩
    else w.record

def step (i : ElectionStep) : ElectionWatch := ⟨w.world.election i, w.recorded i⟩

/-- No nation has begun an election. -/
def Unopened : Prop :=
  (∀ n ks, w.world n = some ks → ks.senatorList = [] ∧ ks.candidateList = [] ∧
    ks.nominationList = [] ∧ ks.resignedCandidates = []) ∧ ∀ n, w.record n = {}

end ElectionWatch

structure Integrity (userdata : List Char → Option ℕ) (nation : ℕ) (ks : Election)
    (r : ElectionRecord) : Prop where
  distinct : (ks.candidateList.map fun c => caseless c.name).Nodup
  nominated : ∀ c ∈ ks.candidateList, ∃ e ∈ r.backed, e.nominee = c.name ∧
    ∃ s ∈ r.senate, eqIgnoreAsciiCase s e.nominator = true
  backsOne : (r.backed.map fun e => caseless e.nominator).Nodup
  notResigned : ∀ c ∈ ks.candidateList, ∀ n ∈ ks.resignedCandidates,
    eqIgnoreAsciiCase n c.name = false
  exist : ∀ c ∈ ks.candidateList, userdata c.name = some nation

def ElectionWatch.Integrity (userdata : List Char → Option ℕ) (w : ElectionWatch) : Prop :=
  ∀ n ks, w.world n = some ks → KoServer.Integrity userdata n ks (w.record n)

def ElectionWatch.Nominates (w : ElectionWatch) (i : ElectionStep) (nation : ℕ)
    (e : NominationEntry) : Prop :=
  match i with
  | .recommend env sid data => w.world.nomination env sid data = some (nation, e)
  | _ => False

/-- A nominee is named as a character of the nation is, and has not resigned. -/
def FairNomination (userdata : List Char → Option ℕ) (w : ElectionWatch) (i : ElectionStep) : Prop :=
  ∀ n e, w.Nominates i n e → userdata e.nominee = some n ∧
    ∀ ks, w.world n = some ks → ∀ x ∈ ks.resignedCandidates, eqIgnoreAsciiCase x e.nominee = false

/-- How the lists hang together, whoever is nominated. -/
structure Election.Orderly (ks : Election) (r : ElectionRecord) : Prop where
  candidates : ks.candidateList.map ElectionListEntry.name =
    ks.nominationList.map NominationEntry.nominee
  listed : ∀ e ∈ ks.nominationList, e ∈ r.backed
  nominees : (ks.nominationList.map fun e => caseless e.nominee).Nodup
  nominators : (r.backed.map fun e => caseless e.nominator).Nodup
  spent : ∀ e ∈ r.backed, ∀ s ∈ ks.senatorList, caseless s.name ≠ caseless e.nominator
  senate : ∀ s ∈ ks.senatorList, s.name ∈ r.senate
  backers : ∀ e ∈ r.backed, ∃ s ∈ r.senate, caseless s = caseless e.nominator

section Steps

variable {userdata : List Char → Option ℕ} {w : ElectionWatch} {n : ℕ} {ks ks' : Election}
  {r r' : ElectionRecord} {e : NominationEntry} {env : ElectionEnv} {sid : ℕ} {data : List UInt8}
  {nominated : NominationEntry → Prop}

structure Election.Admits (ks : Election) (e : NominationEntry) : Prop where
  senator : ∃ s ∈ ks.senatorList, caseless s.name = caseless e.nominator
  new : ∀ x ∈ ks.nominationList, caseless x.nominee ≠ caseless e.nominee

theorem nomination_spec (h : w.world.nomination env sid data = some (n, e)) :
    ∃ ks, w.world n = some ks ∧ ks.Admits e := by
  unfold ElectionWorld.nomination at h
  split at h
  case h_2 => cases h
  next c nomineeName _ _ _ =>
  split at h
  · cases h
  next ks hks =>
  split_ifs at h with hrefused
  obtain ⟨rfl, rfl⟩ := Prod.mk.inj (Option.some.inj h)
  refine ⟨ks, hks, ?_, ?_⟩
  all_goals
    simp only [Election.nominationRefused, Bool.or_eq_true, not_or, Bool.not_eq_true',
      Bool.not_eq_false, List.any_eq_true, eqIgnoreAsciiCase_iff, not_exists, not_and] at hrefused
    obtain ⟨⟨⟨⟨-, hsenator⟩, -⟩, -⟩, hnew⟩ := hrefused
  · exact hsenator
  · exact hnew

inductive Election.Change (nominated : NominationEntry → Prop) (ks : Election) (r : ElectionRecord) :
    Election → ElectionRecord → Prop
  /-- Only senators may go. -/
  | passes (ks' : Election) (hcandidates : ks'.candidateList = ks.candidateList)
      (hnominations : ks'.nominationList = ks.nominationList)
      (hresigned : ks'.resignedCandidates = ks.resignedCandidates)
      (hsenators : ∀ s ∈ ks'.senatorList, s ∈ ks.senatorList) : Change nominated ks r ks' r
  | nominates (env : ElectionEnv) (e : NominationEntry) (h : ks.Admits e) (he : nominated e) :
      Change nominated ks r (ks.nominate env e) { r with backed := e :: r.backed }
  | resigns (name : List Char) : Change nominated ks r (ks.resign name) r
  | opens (clans : List (ℕ × List Char)) :
      Change nominated ks r (ks.openNomination clans) ⟨clans.map Prod.snd, []⟩
  | closes (env : ElectionEnv) : Change nominated ks r (ks.assignKing env) r

theorem Election.Change.refl (ks : Election) (r : ElectionRecord) : Change nominated ks r ks r :=
  .passes ks rfl rfl rfl fun _ hs => hs

theorem change_checkKingTimer (env : ElectionEnv) (nation : ℕ) (now : ElectionClock)
    (ks : Election) (r : ElectionRecord) :
    Election.Change nominated ks r (ks.checkKingTimer env nation now)
      (if !ks.electionUnderProgress && ks.opensNomination now then
        ⟨(env.topRankedClans nation 10).map Prod.snd, []⟩ else r) := by
  unfold Election.checkKingTimer
  by_cases hbusy : ks.electionUnderProgress
  · rw [if_pos hbusy, hbusy]
    exact .refl ks r
  rw [if_neg hbusy, Bool.eq_false_of_not_eq_true hbusy, Bool.not_false, Bool.true_and]
  by_cases hopens : ks.opensNomination now
  · have hterm : ks.electionType = ELECTION_TYPE_NO_TERM := by
      unfold Election.opensNomination at hopens
      simp only [Bool.and_eq_true, decide_eq_true_eq] at hopens
      exact hopens.1.1.1
    rw [if_pos hterm, if_pos hopens, if_pos hopens]
    exact .opens _
  rw [if_neg hopens, if_neg hopens]
  split_ifs
  · exact .refl ks r
  · exact .passes _ rfl rfl rfl fun s hs => absurd hs List.not_mem_nil
  · exact .refl ks r
  · exact .passes _ rfl rfl rfl fun _ hs => hs
  · exact .refl ks r
  · unfold Election.endElection
    split <;> exact .passes _ rfl rfl rfl fun _ hs => hs
  · exact .refl ks r
  · exact .closes env
  · exact .refl ks r
  · exact .refl ks r

theorem update_eq_some {v : ElectionWorld} {nation : ℕ} {f : Election → Election}
    (h : v.update nation f n = some ks') :
    n = nation ∧ (∃ ks, v n = some ks ∧ ks' = f ks) ∨ n ≠ nation ∧ v n = some ks' := by
  unfold ElectionWorld.update at h
  rcases eq_or_ne n nation with rfl | hne
  · rw [Function.update_self] at h
    obtain ⟨ks, hks, heq⟩ := Option.map_eq_some_iff.mp h
    exact .inl ⟨rfl, ks, hks, heq.symm⟩
  · rw [Function.update_of_ne hne] at h
    exact .inr ⟨hne, h⟩

theorem step_change (w : ElectionWatch) (i : ElectionStep) (h : (w.step i).world n = some ks') :
    ∃ ks, w.world n = some ks ∧
      Election.Change (w.Nominates i n) ks (w.record n) ks' ((w.step i).record n) := by
  cases i with
  | recommend env sid data =>
    unfold ElectionWatch.step ElectionWorld.election ElectionWorld.handleCandidacyRecommend at h
    unfold ElectionWatch.step ElectionWatch.recorded
    dsimp only at h ⊢
    cases hnomination : w.world.nomination env sid data with
    | none =>
      rw [hnomination] at h
      exact ⟨ks', h, .refl ks' _⟩
    | some entry =>
      obtain ⟨nation, e⟩ := entry
      obtain ⟨ks₀, hks₀, hadmits⟩ := nomination_spec hnomination
      rw [hnomination] at h
      dsimp only at h ⊢
      obtain ⟨rfl, ks, hks, rfl⟩ | ⟨hne, hks⟩ := update_eq_some h
      · obtain rfl : ks₀ = ks := Option.some.inj (hks₀.symm.trans hks)
        rw [Function.update_self]
        exact ⟨ks₀, hks, .nominates env e hadmits hnomination⟩
      · rw [Function.update_of_ne hne]
        exact ⟨ks', hks, .refl ks' _⟩
  | resign env sid =>
    unfold ElectionWatch.step ElectionWorld.election ElectionWorld.handleCandidacyResign at h
    change ∃ ks, w.world n = some ks ∧ Election.Change _ ks (w.record n) ks' (w.record n)
    dsimp only at h
    cases helector : env.electors sid with
    | none =>
      rw [helector] at h
      exact ⟨ks', h, .refl ks' _⟩
    | some c =>
      rw [helector] at h
      obtain ⟨rfl, ks, hks, rfl⟩ | ⟨-, hks⟩ := update_eq_some h
      · refine ⟨ks, hks, ?_⟩
        split_ifs
        · exact .refl ks _
        · exact .resigns c.name
      · exact ⟨ks', hks, .refl ks' _⟩
  | tick env nation now =>
    unfold ElectionWatch.step ElectionWorld.election at h
    unfold ElectionWatch.step ElectionWatch.recorded
    dsimp only at h ⊢
    obtain ⟨rfl, ks, hks, rfl⟩ | ⟨hne, hks⟩ := update_eq_some h
    · have hchange := @change_checkKingTimer (w.Nominates (.tick env n now) n) env n now ks (w.record n)
      refine ⟨ks, hks, ?_⟩
      rw [hks, Option.any_some]
      split_ifs at hchange ⊢ with hopens
      · rw [Function.update_self]
        exact hchange
      · exact hchange
    · refine ⟨ks', hks, ?_⟩
      split_ifs
      · rw [Function.update_of_ne hne]
        exact .refl ks' _
      · exact .refl ks' _

theorem caseless_nodup_append {α : Type} {f : α → List Char} {l : List α} {a : α}
    (hl : (l.map f).Nodup) (hnew : ∀ x ∈ l, f x ≠ f a) : ((l ++ [a]).map f).Nodup := by
  rw [List.map_append, List.nodup_append]
  refine ⟨hl, List.nodup_cons.mpr ⟨List.not_mem_nil, List.nodup_nil⟩, ?_⟩
  rintro b hb c hc rfl
  obtain ⟨x, hx, rfl⟩ := List.mem_map.mp hb
  exact hnew x hx (List.mem_singleton.mp hc)

theorem Election.Orderly.change (h : ks.Orderly r)
    (hc : Election.Change nominated ks r ks' r') : ks'.Orderly r' := by
  cases hc with
  | passes _ hcandidates hnominations _ hsenators =>
    refine ⟨?_, ?_, ?_, h.nominators, fun e he s hs => h.spent e he s (hsenators s hs),
      fun s hs => h.senate s (hsenators s hs), h.backers⟩
    · rw [hcandidates, hnominations]
      exact h.candidates
    · rw [hnominations]
      exact h.listed
    · rw [hnominations]
      exact h.nominees
  | nominates env e hadmits =>
    obtain ⟨s₀, hs₀, hsame⟩ := hadmits.senator
    have hunspent : ∀ x ∈ r.backed, caseless x.nominator ≠ caseless e.nominator := fun x hx heq =>
      h.spent x hx s₀ hs₀ (hsame.trans heq.symm)
    have hleft : ∀ s ∈ (ks.nominate env e).senatorList, s ∈ ks.senatorList ∧
        caseless s.name ≠ caseless e.nominator := fun s hs => by
      obtain ⟨hmem, hother⟩ := List.mem_filter.mp hs
      exact ⟨hmem, not_eqIgnoreAsciiCase_iff.mp hother⟩
    refine ⟨?_, fun x hx => ?_, caseless_nodup_append h.nominees hadmits.new, ?_, ?_,
      fun s hs => h.senate s (hleft s hs).1, ?_⟩
    · unfold Election.nominate
      rw [List.map_append, List.map_append, h.candidates]
      rfl
    · rcases List.mem_append.mp hx with hx | hx
      · exact List.mem_cons_of_mem e (h.listed x hx)
      · exact List.mem_cons.mpr (.inl (List.mem_singleton.mp hx))
    · refine List.nodup_cons.mpr ⟨fun hmem => ?_, h.nominators⟩
      obtain ⟨x, hx, heq⟩ := List.mem_map.mp hmem
      exact hunspent x hx heq
    · exact List.forall_mem_cons.mpr ⟨fun s hs => (hleft s hs).2,
        fun x hx s hs => h.spent x hx s (hleft s hs).1⟩
    · exact List.forall_mem_cons.mpr ⟨⟨s₀.name, h.senate s₀ hs₀, hsame⟩, h.backers⟩
  | resigns name =>
    refine ⟨?_, fun e he => h.listed e (List.mem_of_mem_filter he), ?_, h.nominators, h.spent,
      h.senate, h.backers⟩
    · -- both lists lose the same names
      unfold Election.resign
      dsimp only
      have hleft := congrArg (List.filter fun n => !eqIgnoreAsciiCase n name) h.candidates
      rw [List.filter_map, List.filter_map] at hleft
      exact hleft
    · exact h.nominees.sublist (List.filter_sublist.map _)
  | opens clans =>
    refine ⟨rfl, List.forall_mem_nil _, List.nodup_nil, List.nodup_nil, List.forall_mem_nil _,
      fun s hs => ?_, List.forall_mem_nil _⟩
    obtain ⟨clan, hclan, rfl⟩ := List.mem_map.mp hs
    exact List.mem_map.mpr ⟨clan, hclan, rfl⟩
  | closes env =>
    exact ⟨rfl, List.forall_mem_nil _, List.nodup_nil, h.nominators,
      fun _ _ => List.forall_mem_nil _, List.forall_mem_nil _, h.backers⟩

theorem integrity_iff (h : ks.Orderly r) : Integrity userdata n ks r ↔
    ∀ c ∈ ks.candidateList, userdata c.name = some n ∧
      ∀ x ∈ ks.resignedCandidates, eqIgnoreAsciiCase x c.name = false := by
  refine ⟨fun hi c hc => ⟨hi.exist c hc, hi.notResigned c hc⟩, fun hc => ⟨?_, fun c hmem => ?_,
    h.nominators, fun c hmem => (hc c hmem).2, fun c hmem => (hc c hmem).1⟩⟩
  · have hnames := congrArg (List.map caseless) h.candidates
    rw [List.map_map, List.map_map] at hnames
    exact hnames ▸ h.nominees
  · have hname : c.name ∈ ks.nominationList.map NominationEntry.nominee :=
      h.candidates ▸ List.mem_map_of_mem hmem
    obtain ⟨e, he, hnominee⟩ := List.mem_map.mp hname
    obtain ⟨s, hs, hsame⟩ := h.backers e (h.listed e he)
    exact ⟨e, h.listed e he, hnominee, s, hs, eqIgnoreAsciiCase_iff.mpr hsame⟩

theorem integrity_step_iff (w : ElectionWatch) (i : ElectionStep)
    (h : ∀ n ks, w.world n = some ks → ks.Orderly (w.record n) ∧ Integrity userdata n ks (w.record n)) :
    (w.step i).Integrity userdata ↔ FairNomination userdata w i := by
  constructor
  · intro hi n e hnominates
    cases i with
    | recommend env sid data =>
      obtain ⟨ks, hks, -⟩ := nomination_spec hnominates
      have hnext : (w.step (.recommend env sid data)).world n = some (ks.nominate env e) := by
        unfold ElectionWatch.step ElectionWorld.election ElectionWorld.handleCandidacyRecommend
        dsimp only
        unfold ElectionWatch.Nominates at hnominates
        dsimp only at hnominates
        rw [hnominates]
        dsimp only
        unfold ElectionWorld.update
        rw [Function.update_self, hks]
        rfl
      have hfair := hi n _ hnext
      have hmem : (⟨e.nominee, env.clanIdOf e.nominee, 0⟩ : ElectionListEntry) ∈
        (ks.nominate env e).candidateList := List.mem_append_right _ (List.mem_singleton.mpr rfl)
      refine ⟨hfair.exist _ hmem, fun ks' hks' x hx => ?_⟩
      obtain rfl : ks = ks' := Option.some.inj (hks.symm.trans hks')
      exact hfair.notResigned _ hmem x hx
    | resign env sid => exact hnominates.elim
    | tick env nation now => exact hnominates.elim
  · intro hfair n ks' hks'
    obtain ⟨ks, hks, hchange⟩ := step_change w i hks'
    obtain ⟨horderly, hintegrity⟩ := h n ks hks
    have hold := (integrity_iff horderly).mp hintegrity
    refine (integrity_iff (horderly.change hchange)).mpr fun c hc => ?_
    generalize (w.step i).record n = r' at hchange
    cases hchange with
    | passes _ hcandidates _ hresigned =>
      rw [hcandidates] at hc
      rw [hresigned]
      exact hold c hc
    | nominates env e _ he =>
      obtain ⟨hexists, hnot⟩ := hfair n e he
      rcases List.mem_append.mp hc with hc | hc
      · exact hold c hc
      · obtain rfl := List.mem_singleton.mp hc
        exact ⟨hexists, hnot ks hks⟩
    | resigns name =>
      obtain ⟨hc, hother⟩ := List.mem_filter.mp hc
      refine ⟨(hold c hc).1, fun x hx => ?_⟩
      rcases List.mem_append.mp hx with hx | hx
      · exact (hold c hc).2 x hx
      · obtain rfl := List.mem_singleton.mp hx
        rw [← Bool.not_eq_true, eqIgnoreAsciiCase_iff]
        exact (not_eqIgnoreAsciiCase_iff.mp hother).symm
    | opens clans => cases hc
    | closes env => cases hc

end Steps

/-- Every state of a run is as claimed just where every nomination that is let through is of a
character of the nation who has not resigned. -/
theorem election_integrity_iff (userdata : List Char → Option ℕ) {w : ElectionWatch}
    (hw : w.Unopened) (steps : List ElectionStep) :
    Run.Along ElectionWatch.step (fun w i => (w.step i).Integrity userdata) w steps ↔
      Run.Along ElectionWatch.step (FairNomination userdata) w steps := by
  refine Run.along_congr (fun w => ∀ n ks, w.world n = some ks →
    ks.Orderly (w.record n) ∧ Integrity userdata n ks (w.record n)) (fun w i h hi n ks' hks' => ?_)
    (fun w i h => integrity_step_iff w i h) fun n ks hks => ?_
  · obtain ⟨ks, hks, hchange⟩ := step_change w i hks'
    exact ⟨(h n ks hks).1.change hchange, hi n ks' hks'⟩
  · obtain ⟨hsenators, hcandidates, hnominations, hresigned⟩ := hw.1 n ks hks
    have horderly : ks.Orderly (w.record n) := by
      rw [hw.2 n]
      refine ⟨?_, ?_, ?_, List.nodup_nil, List.forall_mem_nil _, ?_, List.forall_mem_nil _⟩
      · rw [hcandidates, hnominations]
        rfl
      · rw [hnominations]
        exact List.forall_mem_nil _
      · rw [hnominations]
        exact List.nodup_nil
      · rw [hsenators]
        exact List.forall_mem_nil _
    refine ⟨horderly, (integrity_iff horderly).mpr ?_⟩
    rw [hcandidates]
    exact List.forall_mem_nil _

/-! One nation, whose only clan has a chief of the name of Chief. -/

def restingNation : ElectionWatch where
  world := fun n => if n = 1 then some { month := 5, day := 10, hour := 12, minute := 0 } else none
  record := fun _ => {}

def chiefAlone : ElectionEnv where
  electors := fun sid => if sid = 1 then some ⟨"Chief".toList, 1, 1, 7⟩ else none
  findSessionByName := fun name => if name = "chief".toList then some 1 else none
  knights := [⟨7, 1, "Chief".toList, 100⟩]

def onlyChief : List Char → Option ℕ := fun name => if name = "Chief".toList then some 1 else none

/-- Nominations begin, and Chief names somebody. -/
def naming (name : String) : List ElectionStep :=
  [.tick chiefAlone 1 ⟨5, 8, 12, 0⟩,
    .recommend chiefAlone 1 (UInt8.ofNat name.length :: asBytes name.toList)]

theorem restingNation_unopened : restingNation.Unopened := by
  refine ⟨fun n ks hks => ?_, fun _ => rfl⟩
  unfold restingNation at hks
  dsimp only at hks
  split_ifs at hks
  obtain rfl := Option.some.inj hks
  exact ⟨rfl, rfl, rfl, rfl⟩

theorem election_integrity_iff_chief : Run.Along ElectionWatch.step
    (fun w i => (w.step i).Integrity onlyChief) restingNation (naming "Chief") := by
  refine (election_integrity_iff onlyChief restingNation_unopened _).mpr
    ⟨fun _ _ hnominates => hnominates.elim, fun n e hnominates => ?_, trivial⟩
  have hentry : ((restingNation.step (.tick chiefAlone 1 ⟨5, 8, 12, 0⟩)).world.nomination chiefAlone 1
      (UInt8.ofNat "Chief".length :: asBytes "Chief".toList)) =
      some (1, ⟨"Chief".toList, "Chief".toList⟩) := by decide +kernel
  obtain ⟨rfl, rfl⟩ := Prod.mk.inj (Option.some.inj (hentry.symm.trans hnominates))
  refine ⟨rfl, fun ks hks => ?_⟩
  have hopened : ∀ ks ∈ (restingNation.step (.tick chiefAlone 1 ⟨5, 8, 12, 0⟩)).world 1,
      ks.resignedCandidates = [] := by decide +kernel
  rw [hopened ks hks]
  exact List.forall_mem_nil _

/-- A name that nobody has is on the list. -/
theorem nobody_nominated : restingNation.Unopened ∧
    ¬ (Run.run ElectionWatch.step restingNation (naming "Nobody")).Integrity onlyChief := by
  refine ⟨restingNation_unopened, fun h => ?_⟩
  have hlisted : ∃ ks ∈ (Run.run ElectionWatch.step restingNation (naming "Nobody")).world 1,
      ∃ c ∈ ks.candidateList, onlyChief c.name = none := by decide +kernel
  obtain ⟨ks, hks, c, hc, hunknown⟩ := hlisted
  exact absurd (hunknown.symm.trans ((h 1 ks hks).exist c hc)) (by decide)

end KoServer
