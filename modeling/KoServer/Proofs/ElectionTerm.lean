import KoServer.Lib.Phases
import KoServer.Proofs.Election
import KoServer.Spec.ElectionTerm
import Mathlib.Tactic.IntervalCases

/-! The phases of an election: which schedules the timer takes through all of them. -/

namespace KoServer

/-- What electors may change: lists and counts, no phase and no time. -/
structure Election.Canvass (ks ks' : Election) : Prop where
  electionType : ks'.electionType = ks.electionType
  underProgress : ks'.electionUnderProgress = ks.electionUnderProgress
  schedule : ∀ year, ks'.scheduled year = ks.scheduled year
  newKingName : ks'.newKingName = ks.newKingName
  names : (∀ c ∈ ks.candidateList, c.name ≠ []) → ∀ c ∈ ks'.candidateList, c.name ≠ []
  candidates : ks.electionType ≠ ELECTION_TYPE_NOMINATION →
    ks.candidateList ≠ [] → ks'.candidateList ≠ []

section

variable {w : TermWorld} {nation n : ℕ} {ks ks' : Election} {env : ElectionEnv} {sid : ℕ}
  {data : List UInt8}

theorem Election.Canvass.refl : ks.Canvass ks :=
  ⟨rfl, rfl, fun _ => rfl, rfl, fun h => h, fun _ h => h⟩

theorem names_countVote (nominee : List Char) (candidates : List ElectionListEntry) :
    (countVote nominee candidates).map ElectionListEntry.name =
      candidates.map ElectionListEntry.name := by
  induction candidates with
  | nil => rfl
  | cons c candidates ih =>
    unfold countVote
    split_ifs
    · rfl
    · rw [List.map_cons, ih, List.map_cons]

theorem canvass_recordVote (nominee : List Char) : ks.Canvass (ks.recordVote nominee) := by
  have hnames := names_countVote nominee ks.candidateList
  refine ⟨rfl, rfl, fun _ => rfl, rfl, fun h c hc => ?_, fun _ h hnil => ?_⟩
  · have hmem : c.name ∈ (countVote nominee ks.candidateList).map ElectionListEntry.name :=
      List.mem_map_of_mem hc
    rw [hnames] at hmem
    obtain ⟨c₀, hc₀, heq⟩ := List.mem_map.mp hmem
    exact heq ▸ h c₀ hc₀
  · rw [show countVote nominee ks.candidateList = [] from hnil, List.map_nil] at hnames
    exact h (List.map_eq_nil_iff.mp hnames.symm)

theorem canvass_nominate (e : NominationEntry) (hname : e.nominee ≠ []) :
    ks.Canvass (ks.nominate env e) := by
  refine ⟨rfl, rfl, fun _ => rfl, rfl, fun h c hc => ?_, fun _ _ => ?_⟩
  · rcases List.mem_append.mp hc with hc | hc
    · exact h c hc
    · rw [List.mem_singleton.mp hc]
      exact hname
  · exact List.append_ne_nil_of_right_ne_nil _ (List.cons_ne_nil _ _)

theorem canvass_resign (name : List Char) (hphase : ks.electionType = ELECTION_TYPE_NOMINATION) :
    ks.Canvass (ks.resign name) :=
  ⟨rfl, rfl, fun _ => rfl, rfl, fun h c hc => h c (List.mem_filter.mp hc).1,
    fun hne => absurd hphase hne⟩

theorem readText_ne_nil {limit : ℕ} {reader rest : PacketReader} {text : List Char}
    (h : readText limit reader = some (text, rest)) : text ≠ [] := by
  unfold readText at h
  split at h
  · cases h
  · split_ifs at h with htext
    obtain ⟨rfl, -⟩ := Prod.mk.inj (Option.some.inj h)
    exact htext.1

theorem nominee_ne_nil {v : ElectionWorld} {e : NominationEntry}
    (h : v.nomination env sid data = some (n, e)) : e.nominee ≠ [] := by
  unfold ElectionWorld.nomination at h
  split at h
  case h_2 => cases h
  next c nomineeName _ _ hread =>
  split at h
  · cases h
  · split_ifs at h
    obtain ⟨-, rfl⟩ := Prod.mk.inj (Option.some.inj h)
    exact readText_ne_nil hread

theorem update_canvass {v : ElectionWorld} {f : Election → Election} (hking : v n = some ks)
    (hf : nation = n → ks.Canvass (f ks)) :
    ∃ ks', (v.update nation f) n = some ks' ∧ ks.Canvass ks' := by
  unfold ElectionWorld.update
  rcases eq_or_ne n nation with rfl | hne
  · rw [Function.update_self, hking]
    exact ⟨f ks, rfl, hf rfl⟩
  · rw [Function.update_of_ne hne]
    exact ⟨ks, hking, .refl⟩

theorem step_canvass (i : TermStep) (hi : ∀ env, i ≠ .minute env)
    (hking : w.elections nation = some ks) :
    (w.step i).now = w.now ∧
      ∃ ks', (w.step i).elections nation = some ks' ∧ ks.Canvass ks' := by
  cases i with
  | minute env => exact absurd rfl (hi env)
  | vote n nominee => exact ⟨rfl, update_canvass hking fun _ => canvass_recordVote nominee⟩
  | recommend env sid data =>
    refine ⟨rfl, ?_⟩
    change ∃ ks', w.elections.handleCandidacyRecommend env sid data nation = some ks' ∧ _
    unfold ElectionWorld.handleCandidacyRecommend
    cases hnomination : w.elections.nomination env sid data with
    | none => exact ⟨ks, hking, .refl⟩
    | some entry => exact update_canvass hking fun _ => canvass_nominate _ (nominee_ne_nil hnomination)
  | resign env sid =>
    refine ⟨rfl, ?_⟩
    change ∃ ks', w.elections.handleCandidacyResign env sid nation = some ks' ∧ _
    unfold ElectionWorld.handleCandidacyResign
    cases env.electors sid with
    | none => exact ⟨ks, hking, .refl⟩
    | some c =>
      refine update_canvass hking fun _ => ?_
      split_ifs with hrefused
      · exact .refl
      · refine canvass_resign c.name ?_
        simp only [Election.resignRefused, Bool.or_eq_true, not_or, decide_eq_true_eq,
          not_not] at hrefused
        exact hrefused.1.1

theorem step_minute (hnation : nation = 1 ∨ nation = 2) (hking : w.elections nation = some ks) :
    (w.step (.minute env)).now = w.now.next ∧
      (w.step (.minute env)).elections nation =
        some (ks.checkKingTimer env nation (localClock w.now.next)) := by
  refine ⟨rfl, ?_⟩
  change ((w.elections.update 1 _).update 2 _) nation = _
  unfold ElectionWorld.update
  rcases hnation with rfl | rfl
  · rw [Function.update_of_ne (by decide), Function.update_self, hking]
    rfl
  · rw [Function.update_self, Function.update_of_ne (by decide), hking]
    rfl

end

/-- The schedules that the timer takes through all phases: not in the first two days of a month, not
in the first hour of a day, and not in its last five minutes. -/
def Election.Timely (ks : Election) : Prop :=
  3 ≤ ks.day ∧ 1 ≤ ks.hour ∧ (ks.hour < 23 ∨ ks.minute < 55)

instance (ks : Election) : Decidable ks.Timely := inferInstanceAs (Decidable (_ ∧ _))

/-- Where the phases after the first begin for an election that ends at `S`. -/
def bound (S : Moment) : ℕ → Moment
  | 0 => { S with day := S.day - 2 }
  | 1 => { S with day := S.day - 1, hour := S.hour - 1, minute := 0 }
  | 2 => { S with day := S.day - 1 }
  | 3 => S
  | _ + 4 => { S with
      hour := (S.hour * 60 + S.minute + 5) / 60, minute := (S.hour * 60 + S.minute + 5) % 60 }

/-- How many of the boundaries are passed. -/
def stage (S m : Moment) : ℕ :=
  if m.key < (bound S 0).key then 0
  else if m.key < (bound S 1).key then 1
  else if m.key < (bound S 2).key then 2
  else if m.key < (bound S 3).key then 3
  else if m.key < (bound S 4).key then 4
  else 5

/-- A schedule inside the month and the day. -/
structure Inner (S : Moment) : Prop where
  valid : S.Valid
  day : 3 ≤ S.day
  hour : 1 ≤ S.hour
  assign : S.hour * 60 + S.minute + 5 < 24 * 60

section

variable {S m : Moment} {k : ℕ}

theorem Inner.rising (h : Inner S) (hk : k < 4) : (bound S k).key < (bound S (k + 1)).key := by
  obtain ⟨⟨_, hdays, hhour, hminute⟩, hday, hpre, hassign⟩ := h
  match k, hk with
  | 0, _ | 1, _ | 2, _ | 3, _ =>
    simp only [bound, Moment.key, Moment.date]
    omega

theorem Inner.bound_valid (h : Inner S) (k : ℕ) : (bound S k).Valid := by
  obtain ⟨⟨hmonth, hdays, hhour, hminute⟩, hday, hpre, hassign⟩ := h
  match k with
  | 0 => exact ⟨hmonth, by simp only [bound]; omega, hhour, hminute⟩
  | 1 => exact ⟨hmonth, by simp only [bound]; omega, by simp only [bound]; omega,
      by simp only [bound]; omega⟩
  | 2 => exact ⟨hmonth, by simp only [bound]; omega, hhour, hminute⟩
  | 3 => exact ⟨hmonth, hdays, hhour, hminute⟩
  | _ + 4 => exact ⟨hmonth, hdays, by simp only [bound]; omega, by simp only [bound]; omega⟩

theorem stage_spec (hk : k < 5) (hstage : stage S m = k) :
    m.key < (bound S k).key ∧ ∀ j < k, (bound S j).key ≤ m.key := by
  unfold stage at hstage
  split_ifs at hstage <;> subst hstage <;> first | exact absurd hk (by decide) | skip
  all_goals
    refine ⟨by assumption, fun j hj => ?_⟩
    interval_cases j <;> omega

/-- The next minute passes the next boundary or none. -/
theorem stage_next (h : Inner S) (hm : m.Valid) (hk : k < 5) (hstage : stage S m = k) :
    m.next.key ≤ (bound S k).key ∧
      stage S m.next = if (bound S k).key ≤ m.next.key then k + 1 else k := by
  obtain ⟨hbefore, hafter⟩ := stage_spec hk hstage
  have hnext := Moment.next_le (h.bound_valid k) hm hbefore
  have hlt := Moment.lt_next hm
  refine ⟨hnext, ?_⟩
  have h0 : (bound S 0).key < (bound S 1).key := h.rising (by decide)
  have h1 : (bound S 1).key < (bound S 2).key := h.rising (by decide)
  have h2 : (bound S 2).key < (bound S 3).key := h.rising (by decide)
  have h3 : (bound S 3).key < (bound S 4).key := h.rising (by decide)
  unfold stage
  interval_cases k
  · split_ifs <;> omega
  · have hpast := hafter 0 (by decide)
    split_ifs <;> omega
  · have hpast := hafter 1 (by decide)
    split_ifs <;> omega
  · have hpast := hafter 2 (by decide)
    split_ifs <;> omega
  · have hpast := hafter 3 (by decide)
    split_ifs <;> omega

theorem past_of_stage_last (hstage : stage S m = 5) : (bound S 4).key ≤ m.key := by
  unfold stage at hstage
  split_ifs at hstage <;> omega

theorem stage_last (h : Inner S) (hpast : (bound S 4).key ≤ m.key) : stage S m = 5 := by
  have h0 : (bound S 0).key < (bound S 1).key := h.rising (by decide)
  have h1 : (bound S 1).key < (bound S 2).key := h.rising (by decide)
  have h2 : (bound S 2).key < (bound S 3).key := h.rising (by decide)
  have h3 : (bound S 3).key < (bound S 4).key := h.rising (by decide)
  unfold stage
  split_ifs <;> omega

theorem stage_le (S m : Moment) : stage S m ≤ 5 := by
  unfold stage
  split_ifs <;> omega

theorem stage_climbs (h : Inner S) (hm : m.Valid) :
    stage S m.next = stage S m ∨ stage S m.next = stage S m + 1 ∧ stage S m < 5 := by
  rcases Nat.lt_or_eq_of_le (stage_le S m) with hlt | hlast
  · obtain ⟨-, hstage⟩ := stage_next h hm hlt rfl
    split_ifs at hstage
    · exact .inr ⟨hstage, hlt⟩
    · exact .inl hstage
  · have hpast := (past_of_stage_last hlast).trans (Moment.lt_next hm).le
    exact .inl ((stage_last h hpast).trans hlast.symm)

end

/-- The dates between the last nominations and the next. -/
structure InTerm (S m : Moment) : Prop where
  after : ({ S with year := S.year - 1, day := S.day - 2 } : Moment).date < m.date
  before : m.date < ({ S.monthLater with day := S.day - 2 } : Moment).date

theorem isDayBefore_iff {ks : Election} {back : ℕ} (hback : back ≤ ks.day) (now : ElectionClock) :
    ks.isDayBefore back now = true ↔ now.month = ks.month ∧ now.day = ks.day - back := by
  unfold Election.isDayBefore
  rw [if_pos hback, if_pos hback, Bool.and_eq_true, decide_eq_true_eq, decide_eq_true_eq]

section

variable {S m : Moment} {ks : Election} {year : ℕ}

theorem opensNomination_iff (hks : ks.scheduled year = S) (h : Inner S)
    (hphase : ks.electionType = ELECTION_TYPE_NO_TERM) (hm : m.Valid)
    (hterm : InTerm S m) (hle : m.key ≤ (bound S 0).key) :
    ks.opensNomination (localClock m) = true ↔ (bound S 0).key ≤ m.key := by
  subst hks
  obtain ⟨⟨hmonth, hdays, hhour, hminute⟩, hday, hpre, hassign⟩ := h
  obtain ⟨hmonth', hdays', hhour', hminute'⟩ := hm
  have hd := daysIn_bounds year ks.month
  have hd' := daysIn_bounds m.year m.month
  have hafter := hterm.after
  unfold Election.opensNomination
  simp only [Bool.and_eq_true, decide_eq_true_eq]
  rw [isDayBefore_iff ((Nat.le_succ 2).trans hday)]
  simp only [Election.scheduled, bound, Moment.key, Moment.date, localClock] at *
  constructor
  · rintro ⟨⟨⟨-, h1, h2⟩, h3⟩, h4⟩
    omega
  · intro hge
    refine ⟨⟨⟨hphase, ?_, ?_⟩, ?_⟩, ?_⟩ <;> omega

theorem closesNomination_iff (hks : ks.scheduled year = S) (h : Inner S) (hm : m.Valid)
    (hpast : (bound S 0).key ≤ m.key)
    (hle : m.key ≤ (bound S 1).key) :
    (ks.isDayBefore 1 (localClock m) = true ∧ (localClock m).hour = ks.preHour) ↔
      (bound S 1).key ≤ m.key := by
  subst hks
  obtain ⟨⟨hmonth, hdays, hhour, hminute⟩, hday, hpre, hassign⟩ := h
  obtain ⟨hmonth', hdays', hhour', hminute'⟩ := hm
  have hd := daysIn_bounds year ks.month
  have hd' := daysIn_bounds m.year m.month
  have hpreHour : ks.preHour = ks.hour - 1 := if_pos hpre
  rw [isDayBefore_iff ((by decide : 1 ≤ 3).trans hday), hpreHour]
  simp only [Election.scheduled, bound, Moment.key, Moment.date, localClock] at *
  constructor
  · rintro ⟨⟨h1, h2⟩, h3⟩
    omega
  · intro hge
    refine ⟨⟨?_, ?_⟩, ?_⟩ <;> omega

theorem opensPoll_iff (hks : ks.scheduled year = S) (h : Inner S) (hm : m.Valid)
    (hpast : (bound S 0).key ≤ m.key)
    (hle : m.key ≤ (bound S 2).key) :
    (ks.isDayBefore 1 (localClock m) = true ∧ (localClock m).hour = ks.hour ∧
      (localClock m).minute = ks.minute) ↔ (bound S 2).key ≤ m.key := by
  subst hks
  obtain ⟨⟨hmonth, hdays, hhour, hminute⟩, hday, hpre, hassign⟩ := h
  obtain ⟨hmonth', hdays', hhour', hminute'⟩ := hm
  have hd := daysIn_bounds year ks.month
  have hd' := daysIn_bounds m.year m.month
  rw [isDayBefore_iff ((by decide : 1 ≤ 3).trans hday)]
  simp only [Election.scheduled, bound, Moment.key, Moment.date, localClock] at *
  constructor
  · rintro ⟨⟨h1, h2⟩, h3, h4⟩
    omega
  · intro hge
    refine ⟨⟨?_, ?_⟩, ?_, ?_⟩ <;> omega

theorem ends_iff (hks : ks.scheduled year = S) (h : Inner S) (hm : m.Valid)
    (hpast : (bound S 0).key ≤ m.key)
    (hle : m.key ≤ (bound S 3).key) :
    localClock m = ⟨ks.month, ks.day, ks.hour, ks.minute⟩ ↔
      (bound S 3).key ≤ m.key := by
  subst hks
  obtain ⟨⟨hmonth, hdays, hhour, hminute⟩, hday, hpre, hassign⟩ := h
  obtain ⟨hmonth', hdays', hhour', hminute'⟩ := hm
  have hd := daysIn_bounds year ks.month
  have hd' := daysIn_bounds m.year m.month
  simp only [Election.scheduled, bound, Moment.key, Moment.date, localClock,
    ElectionClock.mk.injEq] at *
  constructor
  · rintro ⟨h1, h2, h3, h4⟩
    omega
  · intro hge
    refine ⟨?_, ?_, ?_, ?_⟩ <;> omega

theorem assigns_iff (hks : ks.scheduled year = S) (h : Inner S) (hm : m.Valid)
    (hpast : (bound S 0).key ≤ m.key)
    (hle : m.key ≤ (bound S 4).key) :
    localClock m = ks.assignClock ↔ (bound S 4).key ≤ m.key := by
  subst hks
  obtain ⟨⟨hmonth, hdays, hhour, hminute⟩, hday, hpre, hassign⟩ := h
  obtain ⟨hmonth', hdays', hhour', hminute'⟩ := hm
  have hd := daysIn_bounds year ks.month
  have hd' := daysIn_bounds m.year m.month
  unfold Election.assignClock
  simp only [Election.scheduled, bound, Moment.key, Moment.date, localClock,
    ElectionClock.mk.injEq] at *
  constructor
  · rintro ⟨h1, h2, h3, h4⟩
    split_ifs at h3 <;> omega
  · intro hge
    refine ⟨?_, ?_, ?_, ?_⟩
    · omega
    · omega
    · split_ifs <;> omega
    · omega

/-- After the new king is assigned the timer waits for the month after. -/
theorem not_opensNomination (h : Inner S)
    (hks : ks.scheduled S.monthLater.year = S.monthLater) (hm : m.Valid) (hterm : InTerm S m)
    (hpast : (bound S 4).key ≤ m.key) : ks.opensNomination (localClock m) = false := by
  obtain ⟨⟨hmonth, hdays, hhour, hminute⟩, hday, hpre, hassign⟩ := h
  obtain ⟨hmonth', hdays', hhour', hminute'⟩ := hm
  have hd := daysIn_bounds S.year S.month
  have hd' := daysIn_bounds m.year m.month
  have hbefore := hterm.before
  have hksDay : ks.day = S.day := (congrArg Moment.day hks).trans Moment.day_monthLater
  have hksMonth : ks.month = S.monthLater.month := congrArg Moment.month hks
  refine eq_false_of_ne_true fun hopens => ?_
  unfold Election.opensNomination at hopens
  simp only [Bool.and_eq_true, decide_eq_true_eq] at hopens
  rw [isDayBefore_iff (hksDay ▸ (Nat.le_succ 2).trans hday), hksDay, hksMonth] at hopens
  obtain ⟨⟨⟨-, h1, h2⟩, -⟩, -⟩ := hopens
  unfold Moment.monthLater at hbefore h1
  simp only [bound, Moment.key, Moment.date, localClock] at *
  split_ifs at hbefore h1 <;> dsimp only at hbefore h1 <;> omega

end

def phaseOf : ℕ → ℕ
  | 0 => ELECTION_TYPE_NO_TERM
  | 1 => ELECTION_TYPE_NOMINATION
  | 2 => ELECTION_TYPE_PRE_ELECTION
  | 3 => ELECTION_TYPE_ELECTION
  | 4 => ELECTION_TYPE_TERM_ENDED
  | _ + 5 => ELECTION_TYPE_NO_TERM

/-- The schedule that the record shows at a stage. -/
def timetable (S : Moment) (k : ℕ) : Moment := if k < 5 then S else S.monthLater

/-- A record at a stage of the election that ends at `S`. -/
structure Election.At (S : Moment) (k : ℕ) (ks : Election) : Prop where
  working : ks.electionUnderProgress = false
  phase : ks.electionType = phaseOf k
  schedule : ks.scheduled (timetable S k).year = timetable S k
  names : 1 ≤ k → k ≤ 3 → ∀ c ∈ ks.candidateList, c.name ≠ []
  candidates : k = 3 → ks.candidateList ≠ []
  king : k = 4 → ks.newKingName ≠ []

section

variable {S m : Moment} {ks ks' : Election} {k nation now : ℕ} {env : ElectionEnv}

theorem Election.Canvass.at_stage (h : ks.Canvass ks') (hat : ks.At S k) : ks'.At S k where
  working := h.underProgress.trans hat.working
  phase := h.electionType.trans hat.phase
  schedule := (h.schedule _).trans hat.schedule
  names := fun hlow hhigh => h.names (hat.names hlow hhigh)
  candidates := fun hk => by
    refine h.candidates ?_ (hat.candidates hk)
    rw [hat.phase, hk]
    decide
  king := fun hk => h.newKingName ▸ hat.king hk

theorem winner_mem {candidates : List ElectionListEntry} (h : candidates ≠ []) :
    ∃ c ∈ candidates, Election.winner candidates = some c := by
  have hnext : ∀ (l : List ElectionListEntry) (a b : ElectionListEntry),
      Election.winner (b :: a :: l) =
        Election.winner ((if b.votes ≤ a.votes then a else b) :: l) := by
    intro l a b
    unfold Election.winner
    rw [List.foldl_cons, List.foldl_cons, List.foldl_cons]
    dsimp only
    split_ifs
    all_goals rfl
  have hfold : ∀ (l : List ElectionListEntry) (b : ElectionListEntry),
      ∃ c, (c = b ∨ c ∈ l) ∧ Election.winner (b :: l) = some c := by
    intro l
    induction l with
    | nil =>
      intro b
      exact ⟨b, .inl rfl, rfl⟩
    | cons a l ih =>
      intro b
      rw [hnext]
      split_ifs
      · obtain ⟨c, hc, heq⟩ := ih a
        exact ⟨c, .inr (List.mem_cons.mpr hc), heq⟩
      · obtain ⟨c, hc, heq⟩ := ih b
        exact ⟨c, hc.imp_right (List.mem_cons_of_mem a), heq⟩
  cases candidates with
  | nil => exact absurd rfl h
  | cons a candidates =>
    obtain ⟨c, hc, heq⟩ := hfold candidates a
    exact ⟨c, List.mem_cons.mpr hc, heq⟩

theorem at_nomination (hat : ks.At S 0) (clans : List (ℕ × List Char)) :
    (ks.openNomination clans).At S 1 where
  working := hat.working
  phase := rfl
  schedule := hat.schedule
  names := fun _ _ c hc => absurd hc List.not_mem_nil
  candidates := fun h => absurd h (by decide)
  king := fun h => absurd h (by decide)

theorem at_preElection (hat : ks.At S 1) :
    ({ ks with electionType := ELECTION_TYPE_PRE_ELECTION, senatorList := [],
               sentFirstMessage := false } : Election).At S 2 where
  working := hat.working
  phase := rfl
  schedule := hat.schedule
  names := fun _ _ => hat.names (by decide) (by decide)
  candidates := fun h => absurd h (by decide)
  king := fun h => absurd h (by decide)

theorem at_election (hat : ks.At S 2) (hsome : ks.candidateList ≠ []) :
    ({ ks with electionType := ELECTION_TYPE_ELECTION, sentFirstMessage := false } :
      Election).At S 3 where
  working := hat.working
  phase := rfl
  schedule := hat.schedule
  names := fun _ _ => hat.names (by decide) (by decide)
  candidates := fun _ => hsome
  king := fun h => absurd h (by decide)

theorem at_termEnded (hat : ks.At S 3) : ks.endElection.At S 4 := by
  obtain ⟨c, hc, hwinner⟩ := winner_mem (hat.candidates rfl)
  unfold Election.endElection
  rw [hwinner]
  exact {
    working := hat.working
    phase := rfl
    schedule := hat.schedule
    names := fun _ h => absurd h (by decide)
    candidates := fun h => absurd h (by decide)
    king := fun _ => hat.names (by decide) (by decide) c hc }

theorem at_rest (hS : Inner S) (hat : ks.At S 4) (env : ElectionEnv) :
    (ks.assignKing env).At S 5 where
  working := hat.working
  phase := rfl
  schedule := by
    have hschedule : ks.scheduled S.year = S := hat.schedule
    have hmonth := hS.valid.month
    rw [← hschedule] at hmonth ⊢
    change ks.month ≥ 1 ∧ ks.month ≤ 12 at hmonth
    change (ks.assignKing env).scheduled (ks.scheduled S.year).monthLater.year =
      (ks.scheduled S.year).monthLater
    unfold Moment.monthLater Election.scheduled Election.assignKing
    dsimp only
    split_ifs <;> dsimp only <;> congr 1 <;> omega
  names := fun _ h => absurd h (by decide)
  candidates := fun h => absurd h (by decide)
  king := fun h => absurd h (by decide)

theorem timer_of_phase (hworking : ks.electionUnderProgress = false) (clock : ElectionClock) :
    (ks.electionType = ELECTION_TYPE_NO_TERM → ks.checkKingTimer env nation clock =
      if ks.opensNomination clock then ks.openNomination (env.topRankedClans nation 10) else ks) ∧
    (ks.electionType = ELECTION_TYPE_NOMINATION → ks.checkKingTimer env nation clock =
      if ks.isDayBefore 1 clock ∧ clock.hour = ks.preHour then
        { ks with electionType := ELECTION_TYPE_PRE_ELECTION, senatorList := [],
                  sentFirstMessage := false }
      else ks) ∧
    (ks.electionType = ELECTION_TYPE_PRE_ELECTION → ks.checkKingTimer env nation clock =
      if ks.isDayBefore 1 clock ∧ clock.hour = ks.hour ∧ clock.minute = ks.minute then
        { ks with electionType := ELECTION_TYPE_ELECTION, sentFirstMessage := false }
      else ks) ∧
    (ks.electionType = ELECTION_TYPE_ELECTION → ks.checkKingTimer env nation clock =
      if clock = ⟨ks.month, ks.day, ks.hour, ks.minute⟩ then ks.endElection else ks) ∧
    (ks.electionType = ELECTION_TYPE_TERM_ENDED → ks.checkKingTimer env nation clock =
      if clock = ks.assignClock ∧ ks.newKingName ≠ [] then ks.assignKing env else ks) := by
  unfold Election.checkKingTimer
  rw [if_neg (by rw [hworking]; decide)]
  refine ⟨fun h => ?_, fun h => ?_, fun h => ?_, fun h => ?_, fun h => ?_⟩ <;> rw [h] <;> rfl

/-- A minute takes the record from one stage to the next just where a boundary is passed. -/
theorem timer_at (hS : Inner S) (hm : m.Valid) (hterm : InTerm S m.next)
    (hat : ks.At S (stage S m)) (hnominated : stage S m = 2 → ks.candidateList ≠ []) :
    (ks.checkKingTimer env nation (localClock m.next)).At S (stage S m.next) := by
  have hvalid := Moment.next_valid hm
  have hlt := Moment.lt_next hm
  obtain ⟨hrest, hnomination, hpre, helection, hended⟩ :=
    @timer_of_phase ks nation env hat.working (localClock m.next)
  generalize hk : stage S m = k at hat hnominated
  have hle : k ≤ 5 := hk ▸ stage_le S m
  rcases Nat.lt_or_eq_of_le hle with hk5 | rfl
  · obtain ⟨-, hpast⟩ := stage_spec hk5 hk
    obtain ⟨hnext, hstage⟩ := stage_next hS hm hk5 hk
    have hsched : ks.scheduled S.year = S := by
      have h := hat.schedule
      unfold timetable at h
      rwa [if_pos hk5] at h
    have hopen : 0 < k → (bound S 0).key ≤ m.next.key := fun hpos => (hpast 0 hpos).trans hlt.le
    interval_cases k
    · rw [hstage, hrest hat.phase]
      have hiff := opensNomination_iff hsched hS hat.phase hvalid hterm hnext
      by_cases hbound : (bound S 0).key ≤ m.next.key
      · rw [if_pos hbound, if_pos (hiff.mpr hbound)]
        exact at_nomination hat _
      · rw [if_neg hbound, if_neg (mt hiff.mp hbound)]
        exact hat
    · rw [hstage, hnomination hat.phase]
      have hiff := closesNomination_iff hsched hS hvalid (hopen (by decide)) hnext
      by_cases hbound : (bound S 1).key ≤ m.next.key
      · rw [if_pos hbound, if_pos (hiff.mpr hbound)]
        exact at_preElection hat
      · rw [if_neg hbound, if_neg (mt hiff.mp hbound)]
        exact hat
    · rw [hstage, hpre hat.phase]
      have hiff := opensPoll_iff hsched hS hvalid (hopen (by decide)) hnext
      by_cases hbound : (bound S 2).key ≤ m.next.key
      · rw [if_pos hbound, if_pos (hiff.mpr hbound)]
        exact at_election hat (hnominated rfl)
      · rw [if_neg hbound, if_neg (mt hiff.mp hbound)]
        exact hat
    · rw [hstage, helection hat.phase]
      have hiff := ends_iff hsched hS hvalid (hopen (by decide)) hnext
      by_cases hbound : (bound S 3).key ≤ m.next.key
      · rw [if_pos hbound, if_pos (hiff.mpr hbound)]
        exact at_termEnded hat
      · rw [if_neg hbound, if_neg (mt hiff.mp hbound)]
        exact hat
    · rw [hstage, hended hat.phase]
      have hiff := assigns_iff hsched hS hvalid (hopen (by decide)) hnext
      by_cases hbound : (bound S 4).key ≤ m.next.key
      · rw [if_pos hbound, if_pos ⟨hiff.mpr hbound, hat.king rfl⟩]
        exact at_rest hS hat env
      · rw [if_neg hbound, if_neg fun h => hbound (hiff.mp h.1)]
        exact hat
  · have hpast := past_of_stage_last hk
    have hstage := stage_last hS (hpast.trans hlt.le)
    have hclosed := not_opensNomination hS hat.schedule hvalid hterm (hpast.trans hlt.le)
    rw [hrest hat.phase, if_neg (by rw [hclosed]; decide), hstage]
    exact hat

end

section

variable {S : Moment} {ks : Election} {w : TermWorld} {nation year : ℕ} {steps : List TermStep}

/-- Either a minute passes and the timer is called, or some electors do something. -/
theorem term_step (htimed : nation = 1 ∨ nation = 2) (hking : w.elections nation = some ks)
    (i : TermStep) :
    ((w.step i).now = w.now ∧
        ∃ ks', (w.step i).elections nation = some ks' ∧ ks.Canvass ks') ∨
      (w.step i).now = w.now.next ∧ ∃ env, (w.step i).elections nation =
        some (ks.checkKingTimer env nation (localClock w.now.next)) := by
  by_cases hminute : ∃ env, i = .minute env
  · obtain ⟨env, rfl⟩ := hminute
    obtain ⟨hnow, helection⟩ := step_minute htimed hking
    exact .inr ⟨hnow, env, helection⟩
  · exact .inl (step_canvass i (fun env h => hminute ⟨env, h⟩) hking)

theorem phase_of_king (hking : w.elections nation = some ks) :
    w.phase nation = ks.electionType := by
  unfold TermWorld.phase
  rw [hking]
  rfl

theorem clock_step (i : TermStep) (h : w.now.Valid) :
    (w.step i).now.Valid ∧ w.now.date ≤ (w.step i).now.date := by
  cases i with
  | minute env => exact ⟨Moment.next_valid h, Moment.date_le_next h⟩
  | recommend env sid data => exact ⟨h, le_refl _⟩
  | resign env sid => exact ⟨h, le_refl _⟩
  | vote n nominee => exact ⟨h, le_refl _⟩

theorem along_dates {upper : ℕ} (hnow : w.now.Valid)
    (hbefore : (Run.run TermWorld.step w steps).now.date < upper) :
    Run.Along TermWorld.step (fun w i => (w.step i).now.date < upper) w steps :=
  Run.along_of_end (fun w : TermWorld => w.now.Valid) (fun w => w.now.date)
    (fun _ i hw => clock_step i hw) hnow hbefore

def WithinTerm (nation upper : ℕ) (w : TermWorld) (i : TermStep) : Prop :=
  w.Nominated nation i ∧ (w.step i).now.date < upper

theorem TermRun.within (h : TermRun nation year ks w steps) :
    Run.Along TermWorld.step
      (WithinTerm nation (ks.scheduled year).monthLater.yesterday.yesterday.date) w steps := by
  exact Run.along_and.mpr ⟨h.nominated, along_dates h.now h.before⟩

theorem TermRun.inner (h : TermRun nation year ks w steps) (htimely : ks.Timely) :
    Inner (ks.scheduled year) where
  valid := h.schedule
  day := htimely.1
  hour := htimely.2.1
  assign := by
    have hminute := h.schedule.minute
    have hhour := h.schedule.hour
    have hlate := htimely.2.2
    change ks.minute < 60 at hminute
    change ks.hour < 24 at hhour
    change ks.hour * 60 + ks.minute + 5 < 24 * 60
    omega

structure OnTime (S : Moment) (nation : ℕ) (w : TermWorld) : Prop where
  now : w.now.Valid
  recent : ({ S with year := S.year - 1, day := S.day - 2 } : Moment).date < w.now.date
  king : ∃ ks, w.elections nation = some ks ∧ ks.At S (stage S w.now)

theorem OnTime.step (hS : Inner S) (htimed : nation = 1 ∨ nation = 2) (h : OnTime S nation w)
    (i : TermStep)
    (hi : WithinTerm nation ({ S.monthLater with day := S.day - 2 } : Moment).date w i) :
    OnTime S nation (w.step i) ∧
      (stage S (w.step i).now = stage S w.now ∨ stage S (w.step i).now = stage S w.now + 1 ∧
        phaseOf (stage S w.now + 1) ≠ phaseOf (stage S w.now)) := by
  obtain ⟨ks, hking, hat⟩ := h.king
  obtain ⟨hvalid, hdate⟩ := clock_step i h.now
  have hrecent := h.recent.trans_le hdate
  obtain ⟨hnow, ks', hking', hcanvass⟩ | ⟨hnow, env, hking'⟩ := term_step htimed hking i
  · refine ⟨⟨hvalid, hrecent, ks', hking', ?_⟩, .inl (by rw [hnow])⟩
    rw [hnow]
    exact hcanvass.at_stage hat
  · have hterm : InTerm S w.now.next := ⟨hnow ▸ hrecent, hnow ▸ hi.2⟩
    have hnominated : stage S w.now = 2 → ks.candidateList ≠ [] := by
      intro hstage
      have hphase : w.phase nation = ELECTION_TYPE_PRE_ELECTION := by
        rw [phase_of_king hking, hat.phase, hstage]
        rfl
      have hsome := hi.1 hphase
      rw [hking] at hsome
      exact of_decide_eq_true hsome
    have hat' := @timer_at _ _ _ nation env hS h.now hterm hat hnominated
    refine ⟨⟨hvalid, hrecent, _, hking', hnow ▸ hat'⟩, ?_⟩
    rw [hnow]
    refine (stage_climbs hS h.now).imp_right fun ⟨hup, hlt⟩ => ⟨hup, ?_⟩
    generalize stage S w.now = k at hlt
    interval_cases k <;> decide

theorem yesterday_monthLater (h : 3 ≤ S.day) :
    S.monthLater.yesterday.yesterday = { S.monthLater with day := S.day - 2 } := by
  rw [Moment.yesterday_twice (by rw [Moment.day_monthLater]; exact h), Moment.day_monthLater]

/-- A schedule that fits is taken through every phase. -/
theorem all_phases (h : TermRun nation year ks w steps) (htimely : ks.Timely) :
    Run.changes TermWorld.step (·.phase nation) w steps = allPhases := by
  have hS := h.inner htimely
  have hlower : (ks.scheduled (year - 1)).yesterday.yesterday =
      { ks.scheduled year with year := year - 1, day := ks.day - 2 } :=
    Moment.yesterday_twice htimely.1
  have hupper : (ks.scheduled year).monthLater.yesterday.yesterday =
      { (ks.scheduled year).monthLater with day := ks.day - 2 } :=
    yesterday_monthLater htimely.1
  have hfirst : stage (ks.scheduled year) w.now = 0 := by
    have hstart := h.start
    rw [Moment.yesterday_twice htimely.1] at hstart
    have hnow := h.now.hour
    have hminute := h.now.minute
    refine if_pos ?_
    simp only [bound, Moment.key, Moment.date] at hstart ⊢
    omega
  have hstart : OnTime (ks.scheduled year) nation w :=
    { now := h.now
      recent := hlower ▸ h.recent
      king := by
        refine ⟨ks, h.king, ?_⟩
        rw [hfirst]
        exact {
          working := h.working
          phase := h.resting
          schedule := rfl
          names := fun hle => absurd hle (by decide)
          candidates := fun hk => absurd hk (by decide)
          king := fun hk => absurd hk (by decide) } }
  have hlast : stage (ks.scheduled year) (Run.run TermWorld.step w steps).now = 5 := by
    refine stage_last hS ?_
    have hfinish := h.finish
    rw [Moment.next_iterate 5 hS.valid.minute hS.assign] at hfinish
    exact hfinish
  have hwithin := h.within
  rw [hupper] at hwithin
  obtain ⟨-, hchanges⟩ := Run.changes_eq_of_climb (OnTime (ks.scheduled year) nation)
    (fun w => stage (ks.scheduled year) w.now) phaseOf
    (fun w hw => by
      obtain ⟨ks', hking, hat⟩ := hw.king
      exact (phase_of_king hking).trans hat.phase)
    (fun w i hw hi => hw.step hS h.timed i hi) hwithin hstart
  rw [hchanges, hlast, hfirst]
  rfl

end

/-- The phase that the timer enters, and when, but for the last. -/
inductive Election.Enters (ks : Election) (clock : ElectionClock) : ℕ → Prop
  | nomination (hphase : ks.electionType = ELECTION_TYPE_NO_TERM)
      (hday : ks.isDayBefore 2 clock = true) (hhour : clock.hour = ks.hour)
      (hminute : clock.minute = ks.minute) : Enters ks clock ELECTION_TYPE_NOMINATION
  | preElection (hphase : ks.electionType = ELECTION_TYPE_NOMINATION)
      (hday : ks.isDayBefore 1 clock = true) (hhour : clock.hour = ks.preHour) :
      Enters ks clock ELECTION_TYPE_PRE_ELECTION
  | election (hphase : ks.electionType = ELECTION_TYPE_PRE_ELECTION)
      (hday : ks.isDayBefore 1 clock = true) (hhour : clock.hour = ks.hour) :
      Enters ks clock ELECTION_TYPE_ELECTION
  | termEnded (hphase : ks.electionType = ELECTION_TYPE_ELECTION) :
      Enters ks clock ELECTION_TYPE_TERM_ENDED

section

variable {S m : Moment} {ks : Election} {w : TermWorld} {nation year : ℕ} {steps : List TermStep}
  {env : ElectionEnv} {clock : ElectionClock}

/-- The timer leaves the record, assigns the king or enters one of the other phases. -/
theorem timer_enters (hworking : ks.electionUnderProgress = false) :
    ks.checkKingTimer env nation clock = ks ∨
      ks.electionType = ELECTION_TYPE_TERM_ENDED ∧ clock = ks.assignClock ∨
      (ks.checkKingTimer env nation clock).electionUnderProgress = false ∧
        (ks.checkKingTimer env nation clock).scheduled year = ks.scheduled year ∧
        ks.Enters clock (ks.checkKingTimer env nation clock).electionType := by
  unfold Election.checkKingTimer
  rw [if_neg (by rw [hworking]; decide)]
  split_ifs with h0 hopen h1 hpre h2 hpoll h3 hend h4 hassign
  · refine .inr (.inr ⟨hworking, rfl, ?_⟩)
    unfold Election.opensNomination at hopen
    simp only [Bool.and_eq_true, decide_eq_true_eq] at hopen
    exact .nomination h0 hopen.1.1.2 hopen.1.2 hopen.2
  · exact .inl rfl
  · exact .inr (.inr ⟨hworking, rfl, .preElection h1 hpre.1 hpre.2⟩)
  · exact .inl rfl
  · exact .inr (.inr ⟨hworking, rfl, .election h2 hpoll.1 hpoll.2.1⟩)
  · exact .inl rfl
  · refine .inr (.inr ?_)
    unfold Election.endElection
    split
    · exact ⟨hworking, rfl, .termEnded h3⟩
    · exact ⟨hworking, rfl, .termEnded h3⟩
  · exact .inl rfl
  · exact .inr (.inl ⟨h4, hassign.1⟩)
  · exact .inl rfl
  · exact .inl rfl

theorem not_isDayBefore {back : ℕ} (hback : ks.day = back) (hm : m.Valid) :
    ¬ks.isDayBefore back (localClock m) = true := by
  intro h
  have hday := ((isDayBefore_iff hback.ge _).mp h).2
  have hfirst := hm.day.1
  change m.day = ks.day - back at hday
  omega

/-- An invariant on the time and the phase of a nation whose king is never assigned. -/
structure Held (year : ℕ) (S : Moment) (lower upper : ℕ) (I : Moment → ℕ → Prop) : Prop where
  enters : ∀ (m : Moment) (ks : Election) phase, m.Valid → lower < m.next.date → m.next.date < upper →
    ks.scheduled year = S → I m ks.electionType → ks.Enters (localClock m.next) phase →
    I m.next phase
  waits : ∀ (m : Moment) phase, m.Valid → I m phase → I m.next phase
  unassigned : ∀ (m : Moment) (ks : Election), m.Valid → ks.scheduled year = S → I m ks.electionType →
    ¬(ks.electionType = ELECTION_TYPE_TERM_ENDED ∧ localClock m.next = ks.assignClock)

/-- The invariant holds along a run, and where the king is never assigned the nation does not come
to rest again. -/
theorem Held.along {I : Moment → ℕ → Prop} {lower upper : ℕ} (hheld : Held year S lower upper I)
    (htimed : nation = 1 ∨ nation = 2) (hking : w.elections nation = some ks)
    (hworking : ks.electionUnderProgress = false) (hschedule : ks.scheduled year = S)
    (hnow : w.now.Valid) (hrecent : lower < w.now.date)
    (hbefore : (Run.run TermWorld.step w steps).now.date < upper)
    (hstart : I w.now ks.electionType) :
    Run.Along TermWorld.step (fun v i => I v.now (v.phase nation) ∧
      ((v.step i).phase nation = ELECTION_TYPE_NO_TERM →
        v.phase nation = ELECTION_TYPE_NO_TERM)) w steps := by
  refine Run.along_of_invariant
    (fun v => v.now.Valid ∧ lower < v.now.date ∧
      ∃ ks', v.elections nation = some ks' ∧ ks'.electionUnderProgress = false ∧
        ks'.scheduled year = S ∧ I v.now ks'.electionType)
    (fun v i hv hi => ?_) (along_dates hnow hbefore)
    ⟨hnow, hrecent, ks, hking, hworking, hschedule, hstart⟩
  obtain ⟨hvalid, hrecent, ks₀, hking, hworking, hschedule, hI⟩ := hv
  obtain ⟨hvalid', hdate⟩ := clock_step i hvalid
  have hrecent' := hrecent.trans_le hdate
  rw [phase_of_king hking]
  obtain ⟨hnow, ks', hking', hcanvass⟩ | ⟨hnow, env, hking'⟩ := term_step htimed hking i
  · rw [phase_of_king hking', hcanvass.electionType]
    refine ⟨⟨hvalid', hrecent', ks', hking', hcanvass.underProgress.trans hworking,
      (hcanvass.schedule year).trans hschedule, ?_⟩, hI, fun hphase => hphase⟩
    rw [hnow, hcanvass.electionType]
    exact hI
  · rw [phase_of_king hking']
    obtain hsame | hassign | ⟨hworking', hschedule', henters⟩ :=
      @timer_enters ks₀ nation year env (localClock v.now.next) hworking
    · rw [hsame] at hking' ⊢
      refine ⟨⟨hvalid', hrecent', ks₀, hking', hworking, hschedule, ?_⟩, hI, fun hphase => hphase⟩
      rw [hnow]
      exact hheld.waits _ _ hvalid hI
    · exact absurd hassign (hheld.unassigned _ _ hvalid hschedule hI)
    · have hI' := hheld.enters _ _ _ hvalid (hnow ▸ hrecent') (hnow ▸ hi) hschedule hI henters
      refine ⟨⟨hvalid', hrecent', _, hking', hworking', hschedule'.trans hschedule, hnow ▸ hI'⟩, hI,
        fun hphase => ?_⟩
      rw [hphase] at henters
      cases henters

theorem Held.never_rests {I : Moment → ℕ → Prop} (h : TermRun nation year ks w steps)
    (hheld : Held year (ks.scheduled year) (ks.scheduled (year - 1)).yesterday.yesterday.date
      (ks.scheduled year).monthLater.yesterday.yesterday.date I)
    (hstart : I w.now ELECTION_TYPE_NO_TERM) :
    ELECTION_TYPE_NO_TERM ∉ Run.changes TermWorld.step (·.phase nation) w steps :=
  Run.not_mem_changes (fun _ => True) (fun _ _ _ hi => ⟨trivial, hi.2⟩)
    (hheld.along h.timed h.king h.working rfl h.now h.recent h.before (h.resting ▸ hstart)) trivial

/-- On the first two days of a month the nominations do not open, or do not close. -/
theorem held_first_days {lower upper : ℕ} (hday : S.day = 1 ∨ S.day = 2) :
    Held year S lower upper fun _ phase =>
      phase = ELECTION_TYPE_NO_TERM ∨ phase = ELECTION_TYPE_NOMINATION ∧ S.day = 1 where
  enters := fun m ks phase hm _ _ hschedule hI henters => by
    have hks : ks.day = S.day := congrArg Moment.day hschedule
    cases henters with
    | nomination hphase hbefore =>
      rcases hday with hday | hday
      · exact .inr ⟨rfl, hday⟩
      · exact absurd hbefore (not_isDayBefore (hks.trans hday) (Moment.next_valid hm))
    | preElection hphase hbefore =>
      rcases hI with hI | ⟨-, hday⟩
      · exact absurd (hphase.symm.trans hI) (by decide)
      · exact absurd hbefore (not_isDayBefore (hks.trans hday) (Moment.next_valid hm))
    | election hphase =>
      rcases hI with hI | ⟨hI, -⟩ <;> exact absurd (hphase.symm.trans hI) (by decide)
    | termEnded hphase =>
      rcases hI with hI | ⟨hI, -⟩ <;> exact absurd (hphase.symm.trans hI) (by decide)
  waits := fun _ _ _ hI => hI
  unassigned := fun _ _ _ _ hI hended => by
    rcases hI with hI | ⟨hI, -⟩ <;> exact absurd (hended.1.symm.trans hI) (by decide)

/-- In the first hour the nominations close when the poll of that day is past. -/
theorem held_first_hour (hS : S.Valid) (hday : 3 ≤ S.day) (hhour : S.hour = 0) :
    Held year S ({ S with year := S.year - 1, day := S.day - 2 } : Moment).date
      ({ S.monthLater with day := S.day - 2 } : Moment).date fun m phase =>
      phase = ELECTION_TYPE_NO_TERM ∨
        phase = ELECTION_TYPE_NOMINATION ∧ (bound S 0).key ≤ m.key ∨
        phase = ELECTION_TYPE_PRE_ELECTION ∧
          ({ S with day := S.day - 1, hour := 23, minute := 0 } : Moment).key ≤ m.key where
  enters := fun m ks phase hm hlower hupper hschedule hI henters => by
    obtain ⟨hmonth', hdays', hhour', hminute'⟩ := Moment.next_valid hm
    have hd' := daysIn_bounds m.next.year m.next.month
    have hd := daysIn_bounds S.year S.month
    have hlt := Moment.lt_next hm
    obtain ⟨hmonth, hdays, -, hminute⟩ := hS
    have hksDay : ks.day = S.day := congrArg Moment.day hschedule
    have hksMonth : ks.month = S.month := congrArg Moment.month hschedule
    have hksHour : ks.hour = S.hour := congrArg Moment.hour hschedule
    have hksMinute : ks.minute = S.minute := congrArg Moment.minute hschedule
    cases henters with
    | nomination hphase hbefore hclock hclock' =>
      rw [isDayBefore_iff (by omega)] at hbefore
      refine .inr (.inl ⟨rfl, ?_⟩)
      simp only [bound, Moment.key, Moment.date, localClock] at *
      omega
    | preElection hphase hbefore hclock =>
      rcases hI with hI | ⟨-, hI⟩ | ⟨hI, -⟩
      · exact absurd (hphase.symm.trans hI) (by decide)
      · rw [isDayBefore_iff (by omega)] at hbefore
        have hpre : ks.preHour = 23 := if_neg (by omega)
        rw [hpre] at hclock
        refine .inr (.inr ⟨rfl, ?_⟩)
        simp only [bound, Moment.key, Moment.date, localClock] at *
        omega
      · exact absurd (hphase.symm.trans hI) (by decide)
    | election hphase hbefore hclock =>
      rcases hI with hI | ⟨hI, -⟩ | ⟨-, hI⟩
      · exact absurd (hphase.symm.trans hI) (by decide)
      · exact absurd (hphase.symm.trans hI) (by decide)
      · rw [isDayBefore_iff (by omega)] at hbefore
        unfold Moment.monthLater at hupper
        simp only [bound, Moment.key, Moment.date, localClock] at *
        split_ifs at hupper <;> dsimp only at hupper <;> omega
    | termEnded hphase =>
      rcases hI with hI | ⟨hI, -⟩ | ⟨hI, -⟩ <;> exact absurd (hphase.symm.trans hI) (by decide)
  waits := fun m phase hm hI => by
    have hlt := Moment.lt_next hm
    exact hI.imp_right (Or.imp (And.imp_right fun h => h.trans hlt.le)
      (And.imp_right fun h => h.trans hlt.le))
  unassigned := fun _ _ _ _ hI hended => by
    rcases hI with hI | ⟨hI, -⟩ | ⟨hI, -⟩ <;> exact absurd (hended.1.symm.trans hI) (by decide)

/-- In the last five minutes of a day the king would be assigned in an hour that there is not. -/
theorem held_last_minutes {lower upper : ℕ} (hS : S.Valid) (hhour : S.hour = 23)
    (hminute : 55 ≤ S.minute) : Held year S lower upper fun _ _ => True where
  enters := fun _ _ _ _ _ _ _ _ _ => trivial
  waits := fun _ _ _ _ => trivial
  unassigned := fun m ks hm hschedule _ hended => by
    have hvalid := Moment.next_valid hm
    have hhour' := hvalid.hour
    have hlast := hS.minute
    have hksHour : ks.hour = S.hour := congrArg Moment.hour hschedule
    have hksMinute : ks.minute = S.minute := congrArg Moment.minute hschedule
    have hclock := congrArg ElectionClock.hour hended.2
    unfold Election.assignClock at hclock
    rw [hksHour, hksMinute, hhour] at hclock
    change m.next.hour = _ at hclock
    dsimp only at hclock
    rw [if_pos (by omega)] at hclock
    omega

theorem never_rests (h : TermRun nation year ks w steps) (htimely : ¬ks.Timely) :
    ELECTION_TYPE_NO_TERM ∉ Run.changes TermWorld.step (·.phase nation) w steps := by
  have hfirst := h.schedule.day.1
  have hhour := h.schedule.hour
  change 1 ≤ ks.day at hfirst
  change ks.hour < 24 at hhour
  by_cases hday : 3 ≤ ks.day
  · by_cases hzero : ks.hour = 0
    · have hheld := @held_first_hour _ year h.schedule hday hzero
      have hlower : (ks.scheduled (year - 1)).yesterday.yesterday =
          { ks.scheduled year with year := year - 1, day := ks.day - 2 } :=
        Moment.yesterday_twice hday
      have hupper : (ks.scheduled year).monthLater.yesterday.yesterday =
          { (ks.scheduled year).monthLater with day := ks.day - 2 } :=
        yesterday_monthLater hday
      have hrests := @Held.never_rests ks w nation year steps
      rw [hlower, hupper] at hrests
      refine hrests h hheld ?_
      exact .inl rfl
    · have hlate : ks.hour = 23 ∧ 55 ≤ ks.minute := by
        by_contra hnot
        exact htimely ⟨hday, by omega, by omega⟩
      exact Held.never_rests h (held_last_minutes h.schedule hlate.1 hlate.2) trivial
  · have hday' : (ks.scheduled year).day = 1 ∨ (ks.scheduled year).day = 2 := by
      change ks.day = 1 ∨ ks.day = 2
      omega
    refine Held.never_rests h (held_first_days hday') ?_
    exact .inl rfl

/-- The timer takes an election through all its phases just where the schedule fits. -/
theorem election_phases_iff (nation year : ℕ) (ks : Election) (w : TermWorld)
    (steps : List TermStep) (h : TermRun nation year ks w steps) :
    Run.changes TermWorld.step (·.phase nation) w steps = allPhases ↔ ks.Timely := by
  refine ⟨fun hall => ?_, all_phases h⟩
  by_contra htimely
  refine never_rests h htimely ?_
  rw [hall]
  decide

end

/-- A day without requests. -/
def dayOf (env : ElectionEnv) : List TermStep := List.replicate (24 * 60) (.minute env)

theorem now_minutes (env : ElectionEnv) (k : ℕ) (w : TermWorld) :
    (Run.run TermWorld.step w (List.replicate k (.minute env))).now = Moment.next^[k] w.now := by
  induction k generalizing w with
  | zero => rfl
  | succ k ih => exact ih (w.step (.minute env))

theorem now_day (env : ElectionEnv) {w : TermWorld} (h : w.now.Valid) :
    (Run.run TermWorld.step w (dayOf env)).now = w.now.tomorrow :=
  (now_minutes env _ w).trans (Moment.next_day h.hour h.minute)

theorem now_recommend (w : TermWorld) (env : ElectionEnv) (sid : ℕ) (data : List UInt8) :
    (w.step (.recommend env sid data)).now = w.now := rfl

/-- A nation of one clan, whose chief is there. -/
def chiefOnly : ElectionEnv where
  electors := fun sid => if sid = 1 then some ⟨"Chief".toList, 1, 1, 7⟩ else none
  findSessionByName := fun name => if name = "Chief".toList then some 1 else none
  knights := [⟨7, 1, "Chief".toList, 100⟩]

def firstOfJune : Election := { month := 6, day := 1, hour := 12, minute := 0 }

def beforeJune : TermWorld where
  elections := fun n => if n = 1 then some firstOfJune else none
  now := ⟨2026, 5, 28, 12, 0⟩

/-- Two days, the chief nominates himself, and three days. -/
def juneSteps : List TermStep :=
  dayOf chiefOnly ++ dayOf chiefOnly ++
    [.recommend chiefOnly 1 (5 :: asBytes "Chief".toList)] ++
    dayOf chiefOnly ++ dayOf chiefOnly ++ dayOf chiefOnly

theorem juneSteps_now : (Run.run TermWorld.step beforeJune juneSteps).now = ⟨2026, 6, 2, 12, 0⟩ := by
  have hfirst : (Run.run TermWorld.step beforeJune (dayOf chiefOnly)).now = ⟨2026, 5, 29, 12, 0⟩ :=
    now_day _ (by decide)
  have hstep : ∀ (w : TermWorld) (m m' : Moment), w.now = m → m.Valid → m.tomorrow = m' →
      (Run.run TermWorld.step w (dayOf chiefOnly)).now = m' := by
    intro w m m' hw hm htomorrow
    rw [now_day _ (hw ▸ hm), hw, htomorrow]
  unfold juneSteps
  simp only [Run.run_append]
  refine hstep _ ⟨2026, 6, 1, 12, 0⟩ _ (hstep _ ⟨2026, 5, 31, 12, 0⟩ _
    (hstep _ ⟨2026, 5, 30, 12, 0⟩ _ ?_ ?_ ?_) ?_ ?_) ?_ ?_
  · rw [Run.run_cons, Run.run_nil, now_recommend]
    exact hstep _ _ _ hfirst (by decide) (by decide)
  all_goals decide

theorem juneTerm : TermRun 1 2026 firstOfJune beforeJune juneSteps where
  timed := .inl rfl
  king := rfl
  resting := rfl
  working := rfl
  schedule := by decide
  now := by decide
  start := by decide
  recent := by decide
  finish := by
    rw [juneSteps_now, Moment.next_iterate 5 (by decide) (by decide)]
    decide
  before := by
    rw [juneSteps_now]
    decide
  nominated := by
    have hheld : Held 2026 (firstOfJune.scheduled 2026) 0 (⟨2026, 6, 3, 0, 0⟩ : Moment).date _ :=
      held_first_days (.inl rfl)
    have halong : Run.Along TermWorld.step _ beforeJune juneSteps :=
      hheld.along (.inl rfl) rfl rfl rfl (by decide) (by decide) (by rw [juneSteps_now]; decide)
        (.inl rfl)
    refine Run.along_of_invariant (fun _ => True) (fun w i _ hi => ⟨trivial, fun hphase => ?_⟩)
      halong trivial
    rcases hi.1 with hrest | ⟨hnomination, -⟩
    · exact absurd (hphase.symm.trans hrest) (by decide)
    · exact absurd (hphase.symm.trans hnomination) (by decide)

/-- The nominations of this election do not close. -/
theorem firstOfJune_stuck : TermRun 1 2026 firstOfJune beforeJune juneSteps ∧
    Run.changes TermWorld.step (·.phase 1) beforeJune juneSteps ≠ allPhases := by
  refine ⟨juneTerm, fun hall => never_rests juneTerm (by decide) ?_⟩
  rw [hall]
  decide

section

variable {S : Moment} {ks : Election} {w : TermWorld} {nation upper : ℕ} {steps : List TermStep}
  {env : ElectionEnv} {clock : ElectionClock}

theorem quiet_minutes (hS : Inner S) (htimed : nation = 1 ∨ nation = 2) (h : OnTime S nation w)
    (hking : w.elections nation = some ks)
    (hminutes : ∀ i ∈ steps, ∃ env, i = TermStep.minute env)
    (hlast : (Run.run TermWorld.step w steps).now.key < (bound S 0).key)
    (hbefore : (Run.run TermWorld.step w steps).now.date <
      ({ S.monthLater with day := S.day - 2 } : Moment).date) :
    (Run.run TermWorld.step w steps).elections nation = some ks ∧
      OnTime S nation (Run.run TermWorld.step w steps) ∧
      Run.Along TermWorld.step (TermWorld.Nominated · nation) w steps := by
  have hkeys : Run.Along TermWorld.step (fun v i => (v.step i).now.key < (bound S 0).key) w steps := by
    refine Run.along_of_end (fun v : TermWorld => v.now.Valid) (fun v => v.now.key)
      (fun v i hv => ⟨(clock_step i hv).1, ?_⟩) h.now hlast
    cases i with
    | minute env => exact (Moment.lt_next hv).le
    | recommend env sid data => exact le_refl _
    | resign env sid => exact le_refl _
    | vote n nominee => exact le_refl _
  have hok := Run.along_and.mpr ⟨@Run.along_of_forall _ _ TermWorld.step _ w _ hminutes,
    Run.along_and.mpr ⟨hkeys, along_dates h.now hbefore⟩⟩
  have hstep : ∀ v i, (v.elections nation = some ks ∧ OnTime S nation v) →
      ((∃ env, i = .minute env) ∧ (v.step i).now.key < (bound S 0).key ∧
        (v.step i).now.date < ({ S.monthLater with day := S.day - 2 } : Moment).date) →
      ((v.step i).elections nation = some ks ∧ OnTime S nation (v.step i)) ∧
        v.Nominated nation i := by
    rintro v i ⟨hking, hv⟩ ⟨⟨env, rfl⟩, hkey, hdate⟩
    have hstage : stage S v.now = 0 := if_pos ((Moment.lt_next hv.now).trans hkey)
    obtain ⟨ks', hking', hat⟩ := hv.king
    obtain rfl : ks = ks' := Option.some.inj (hking.symm.trans hking')
    rw [hstage] at hat
    have hnominated : v.Nominated nation (.minute env) := fun hphase => by
      rw [phase_of_king hking, hat.phase] at hphase
      exact absurd hphase (by decide)
    have hvalid := Moment.next_valid hv.now
    have hrecent := hv.recent.trans_le (Moment.date_le_next hv.now)
    have hclosed := mt (opensNomination_iff hat.schedule hS hat.phase hvalid ⟨hrecent, hdate⟩
      hkey.le).mp (Nat.not_le.mpr hkey)
    obtain ⟨-, helections⟩ := @step_minute _ _ _ env htimed hking
    rw [(@timer_of_phase ks nation env hat.working _).1 hat.phase, if_neg hclosed] at helections
    exact ⟨⟨helections, (hv.step hS htimed _ ⟨hnominated, hdate⟩).1⟩, hnominated⟩
  obtain ⟨hking', htime⟩ := Run.invariant (fun v : TermWorld => v.elections nation = some ks ∧
    OnTime S nation v) (fun v i hv hi => (hstep v i hv hi).1) hok ⟨hking, h⟩
  exact ⟨hking', htime, Run.along_of_invariant _ hstep hok ⟨hking, h⟩⟩

theorem timer_candidates (hworking : ks.electionUnderProgress = false)
    (hphase : ks.electionType ≠ ELECTION_TYPE_NO_TERM)
    (hphase' : (ks.checkKingTimer env nation clock).electionType ≠ ELECTION_TYPE_NO_TERM) :
    (ks.checkKingTimer env nation clock).candidateList = ks.candidateList := by
  unfold Election.checkKingTimer at hphase' ⊢
  rw [if_neg (by rw [hworking]; decide), if_neg hphase] at hphase' ⊢
  split_ifs at hphase' ⊢
  · rfl
  · rfl
  · rfl
  · rfl
  · unfold Election.endElection
    split <;> rfl
  · rfl
  · exact absurd rfl hphase'
  · rfl
  · rfl

/-- Somebody who has been nominated stays so while only minutes pass. -/
theorem nominated_minutes (hS : Inner S) (htimed : nation = 1 ∨ nation = 2)
    (h : OnTime S nation w) (hopen : 0 < stage S w.now)
    (hsome : ∀ ks, w.elections nation = some ks → ks.candidateList ≠ [])
    (hminutes : ∀ i ∈ steps, ∃ env, i = TermStep.minute env)
    (hbefore : (Run.run TermWorld.step w steps).now.date <
      ({ S.monthLater with day := S.day - 2 } : Moment).date) :
    Run.Along TermWorld.step (TermWorld.Nominated · nation) w steps := by
  have hok := Run.along_and.mpr ⟨@Run.along_of_forall _ _ TermWorld.step _ w _ hminutes,
    along_dates h.now hbefore⟩
  refine Run.along_of_invariant
    (fun v => OnTime S nation v ∧ 0 < stage S v.now ∧
      ∀ ks, v.elections nation = some ks → stage S v.now ≤ 3 → ks.candidateList ≠ [])
    ?_ hok ⟨h, hopen, fun ks hking _ => hsome ks hking⟩
  rintro v i ⟨hv, hpos, hcandidates⟩ ⟨⟨env, rfl⟩, hdate⟩
  obtain ⟨ks, hking, hat⟩ := hv.king
  have hphases : ∀ k, 0 < k → k ≤ 4 → phaseOf k ≠ ELECTION_TYPE_NO_TERM := by
    intro k hpos hle
    interval_cases k <;> decide
  have hnominated : v.Nominated nation (.minute env) := fun hphase => by
    have hstage : stage S v.now ≤ 3 := by
      by_contra hlate
      have hphase' := (phase_of_king hking).symm.trans hphase
      rw [hat.phase] at hphase'
      have hlast := stage_le S v.now
      generalize stage S v.now = k at hphase' hlate hlast
      interval_cases k <;> exact absurd hphase' (by decide)
    rw [hking]
    exact decide_eq_true (hcandidates ks hking hstage)
  obtain ⟨hv', hclimb⟩ := hv.step hS htimed _ ⟨hnominated, hdate⟩
  refine ⟨⟨hv', by omega, fun ks' hking' hle => ?_⟩, hnominated⟩
  obtain ⟨ks'', hking'', hat'⟩ := hv'.king
  obtain rfl : ks' = ks'' := Option.some.inj (hking'.symm.trans hking'')
  obtain ⟨-, helections⟩ := @step_minute _ _ _ env htimed hking
  obtain rfl := Option.some.inj (hking'.symm.trans helections)
  rw [timer_candidates hat.working (hat.phase ▸ hphases _ hpos (by omega))
    (hat'.phase ▸ hphases _ (by omega) (by omega))]
  exact hcandidates ks hking (by omega)

end

/-- Only the elector's own nation matters to a nomination. -/
theorem recommend_congr {v v' : ElectionWorld} {env : ElectionEnv} {sid : ℕ} {c : Elector}
    (data : List UInt8) (hc : env.electors sid = some c) (h : v c.nation = v' c.nation) :
    v.handleCandidacyRecommend env sid data c.nation =
      v'.handleCandidacyRecommend env sid data c.nation := by
  have hsame : v.nomination env sid data = v'.nomination env sid data := by
    unfold ElectionWorld.nomination
    rw [hc]
    cases readText 21 (PacketReader.new data) with
    | none => rfl
    | some text =>
      dsimp only
      rw [h]
  unfold ElectionWorld.handleCandidacyRecommend
  rw [hsame]
  cases v'.nomination env sid data with
  | none => exact h
  | some entry =>
    dsimp only
    unfold ElectionWorld.update
    rcases eq_or_ne c.nation entry.1 with heq | hne
    · rw [← heq, Function.update_self, Function.update_self, h]
    · rw [Function.update_of_ne hne, Function.update_of_ne hne, h]

def midJune : Election := { month := 6, day := 15, hour := 12, minute := 0 }

def beforeMidJune : TermWorld where
  elections := fun n => if n = 1 then some midJune else none
  now := ⟨2026, 6, 12, 23, 59⟩

theorem midJune_inner : Inner (midJune.scheduled 2026) := ⟨by decide, by decide, by decide, by decide⟩

theorem midJune_onTime : OnTime (midJune.scheduled 2026) 1 beforeMidJune where
  now := by decide
  recent := by decide
  king := ⟨midJune, rfl, rfl, by decide, by decide, fun h => absurd h (by decide),
    fun h => absurd h (by decide), fun h => absurd h (by decide)⟩

def midJuneOpened : Election := midJune.openNomination [(7, "Chief".toList)]

theorem now_halfDay : (Run.run TermWorld.step beforeMidJune
    (List.replicate (12 * 60) (.minute chiefOnly))).now = ⟨2026, 6, 13, 11, 59⟩ := by
  have hfirst : (beforeMidJune.now).next = ⟨2026, 6, 13, 0, 0⟩ := by decide
  rw [now_minutes, show 12 * 60 = (12 * 60 - 1) + 1 from rfl, Function.iterate_add_apply,
    Function.iterate_one, hfirst, Moment.next_iterate _ (by decide) (by decide)]
  rfl

def chiefNominates : TermStep := .recommend chiefOnly 1 (5 :: asBytes "Chief".toList)

section

variable {v : TermWorld}

theorem opened_elections (hking : v.elections 1 = some midJune)
    (hnow : v.now = ⟨2026, 6, 13, 11, 59⟩) :
    (v.step (.minute chiefOnly)).elections 1 = some midJuneOpened := by
  rw [(step_minute (.inl rfl) hking).2, hnow]
  decide +kernel

theorem chief_nominated (hking : v.elections 1 = some midJuneOpened) :
    ∀ ks, (v.step chiefNominates).elections 1 = some ks → ks.candidateList ≠ [] := by
  have hsame : (v.step chiefNominates).elections 1 =
      ElectionWorld.handleCandidacyRecommend (fun n => if n = 1 then some midJuneOpened else none)
        chiefOnly 1 (5 :: asBytes "Chief".toList) 1 :=
    recommend_congr (c := ⟨"Chief".toList, 1, 1, 7⟩) _ rfl hking
  have hvalue : ((ElectionWorld.handleCandidacyRecommend
      (fun n => if n = 1 then some midJuneOpened else none) chiefOnly 1
      (5 :: asBytes "Chief".toList) 1).all fun ks => ks.candidateList ≠ []) = true := by
    decide +kernel
  intro ks hks
  rw [← hsame, hks] at hvalue
  exact of_decide_eq_true hvalue

theorem opening_onTime (hking : v.elections 1 = some midJune)
    (hnow : v.now = ⟨2026, 6, 13, 11, 59⟩) (htime : OnTime (midJune.scheduled 2026) 1 v) :
    OnTime (midJune.scheduled 2026) 1 ((v.step (.minute chiefOnly)).step chiefNominates) ∧
      Run.Along TermWorld.step (TermWorld.Nominated · 1) v [.minute chiefOnly, chiefNominates] := by
  have hfirst : v.Nominated 1 (.minute chiefOnly) := fun hphase => by
    rw [phase_of_king hking] at hphase
    exact absurd hphase (by decide)
  have hsecond : (v.step (.minute chiefOnly)).Nominated 1 chiefNominates := fun hphase => by
    rw [phase_of_king (opened_elections hking hnow)] at hphase
    exact absurd hphase (by decide)
  have hdate : v.now.next.date <
      ({ (midJune.scheduled 2026).monthLater with day := midJune.day - 2 } : Moment).date := by
    rw [hnow]
    decide
  have hopened := (htime.step midJune_inner (.inl rfl) (.minute chiefOnly) ⟨hfirst, hdate⟩).1
  exact ⟨(hopened.step midJune_inner (.inl rfl) chiefNominates ⟨hsecond, hdate⟩).1,
    hfirst, hsecond, trivial⟩

theorem now_threeDays (hnow : v.now = ⟨2026, 6, 13, 12, 0⟩) :
    (Run.run TermWorld.step v (dayOf chiefOnly ++ dayOf chiefOnly ++ dayOf chiefOnly)).now =
      ⟨2026, 6, 16, 12, 0⟩ := by
  rw [Run.run_append, Run.run_append]
  have hstep : ∀ (w : TermWorld) (m m' : Moment), w.now = m → m.Valid → m.tomorrow = m' →
      (Run.run TermWorld.step w (dayOf chiefOnly)).now = m' := by
    intro w m m' hw hm htomorrow
    rw [now_day _ (hw ▸ hm), hw, htomorrow]
  refine hstep _ ⟨2026, 6, 15, 12, 0⟩ _ (hstep _ ⟨2026, 6, 14, 12, 0⟩ _
    (hstep _ _ _ hnow ?_ ?_) ?_ ?_) ?_ ?_
  all_goals decide

end

/-- Half a day, the nominations open, the chief nominates himself, and three days. -/
def midJuneSteps : List TermStep :=
  List.replicate (12 * 60) (.minute chiefOnly) ++ [.minute chiefOnly, chiefNominates] ++
    (dayOf chiefOnly ++ dayOf chiefOnly ++ dayOf chiefOnly)

theorem midJuneSteps_run :
    (Run.run TermWorld.step beforeMidJune midJuneSteps).now = ⟨2026, 6, 16, 12, 0⟩ ∧
      Run.Along TermWorld.step (TermWorld.Nominated · 1) beforeMidJune midJuneSteps := by
  obtain ⟨hking, htime, halong⟩ := quiet_minutes midJune_inner (.inl rfl) midJune_onTime rfl
    (fun i hi => ⟨chiefOnly, List.eq_of_mem_replicate hi⟩) (by rw [now_halfDay]; decide)
    (by rw [now_halfDay]; decide)
  have hnow := now_halfDay
  unfold midJuneSteps
  rw [Run.along_append, Run.along_append, Run.run_append,
    Run.run_append beforeMidJune (List.replicate (12 * 60) (TermStep.minute chiefOnly))]
  generalize Run.run TermWorld.step beforeMidJune
    (List.replicate (12 * 60) (.minute chiefOnly)) = v at *
  rw [Run.run_cons, Run.run_cons, Run.run_nil]
  obtain ⟨htime', halong'⟩ := opening_onTime hking hnow htime
  have hcandidates := chief_nominated (opened_elections hking hnow)
  have hnow' : ((v.step (.minute chiefOnly)).step chiefNominates).now = ⟨2026, 6, 13, 12, 0⟩ := by
    change v.now.next = _
    rw [hnow]
    decide
  generalize (v.step (.minute chiefOnly)).step chiefNominates = v' at *
  have hend := now_threeDays hnow'
  refine ⟨hend, ⟨halong, halong'⟩, nominated_minutes midJune_inner (.inl rfl) htime' ?_ hcandidates
    (fun i hi => ⟨chiefOnly, ?_⟩) (by rw [hend]; decide)⟩
  · rw [hnow']
    decide
  · simp only [List.mem_append, dayOf, List.mem_replicate] at hi
    obtain (⟨-, rfl⟩ | ⟨-, rfl⟩) | ⟨-, rfl⟩ := hi <;> rfl

theorem midJuneTerm : TermRun 1 2026 midJune beforeMidJune midJuneSteps where
  timed := .inl rfl
  king := rfl
  resting := rfl
  working := rfl
  schedule := by decide
  now := by decide
  start := by decide
  recent := by decide
  finish := by
    rw [midJuneSteps_run.1, Moment.next_iterate 5 (by decide) (by decide)]
    decide
  before := by
    rw [midJuneSteps_run.1]
    decide
  nominated := midJuneSteps_run.2

theorem midJune_all_phases :
    Run.changes TermWorld.step (·.phase 1) beforeMidJune midJuneSteps = allPhases :=
  (election_phases_iff 1 2026 midJune beforeMidJune midJuneSteps midJuneTerm).mpr (by decide)

end KoServer
