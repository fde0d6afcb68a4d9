import KoServer.Lib.Pairing
import KoServer.Spec.Challenge

/-! Challenges in pairs: while no packet does what it should not, each requester and the one that
is challenged name each other, and the end of a challenge frees both. -/

namespace KoServer

open Function Ledger

namespace DuelWorld

def Outgoing (w : DuelWorld) (a b : UInt16) (k : ChallengeKind) : Prop :=
  ∃ c, w.challenges a = some c ∧ c.requestingChallenge = k.cancelCode ∧
    c.challengeUser = b.toInt16

def Incoming (w : DuelWorld) (b a : UInt16) (k : ChallengeKind) : Prop :=
  ∃ d, w.challenges b = some d ∧ d.challengeRequested = k.rejectCode ∧
    d.challengeUser = a.toInt16

def Unchallenged (w : DuelWorld) (s : UInt16) : Prop :=
  ∀ c, w.challenges s = some c → c.requestingChallenge = 0 ∧ c.challengeRequested = 0

structure Proper (w : DuelWorld) : Prop where
  both : ∀ a b k, w.Outgoing a b k ↔ w.Incoming b a k
  single : ∀ s c, w.challenges s = some c → c.requestingChallenge = 0 ∨ c.challengeRequested = 0
  free : ∀ s c, w.challenges s = some c → w.Unchallenged s → c.challengeUser = -1

/-- The packet accepts, refuses or takes back a challenge of `b` by `a`. -/
def Ends (w : DuelWorld) (a b : UInt16) : DuelEvent → Prop
  | .packet sid opcode _ _ => w.mayChallenge sid ∧
    (sid = b ∧ (∃ k : ChallengeKind, opcode = k.acceptCode ∨ opcode = k.rejectCode) ∨
      sid = a ∧ ∃ k : ChallengeKind, opcode = k.cancelCode)
  | _ => False

structure Orderly (w : DuelWorld) (e : DuelEvent) : Prop where
  proper : (w.step e).Proper
  pending : ∀ sid k name arrives, e = .packet sid (ChallengeKind.acceptCode k) name arrives →
    (w.handle e).moved ≠ [] → ∃ a, w.Incoming sid a k
  duel : ∀ sid a name arrives, e = .packet sid CHALLENGE_PVP_ACCEPT name arrives →
    w.mayChallenge sid → w.Incoming sid a .pvp → (w.handle e).moved = [sid, a]
  settled : ∀ a b k, w.Outgoing a b k → w.Ends a b e →
    (w.step e).Unchallenged a ∧ (w.step e).Unchallenged b

/-- The checks of a request of `sid` all pass, and the name is that of `target`. -/
structure Requests (w : DuelWorld) (sid target : UInt16) (kind : ChallengeKind)
    (name : Option String) (p q : DuelPlayer) : Prop where
  sender : w.players sid = some p
  idle : p.challenge.requestingChallenge = 0 ∧ p.challenge.challengeRequested = 0
  zone : p.around.zoneId ≠ ZONE_ARENA ∧ w.noChallengeZone p.around.zoneId = false
  busy : p.around.busy = false
  leader : kind = .cvc → w.isSessionClanLeader sid = true ∧ w.isSessionClanLeader target = true
  found : ∃ n, name = some n ∧ w.findSessionByName n = some target
  target : w.players target = some q
  targetIdle : q.challenge.requestingChallenge = 0 ∧ q.challenge.challengeRequested = 0
  targetAlive : q.around.resHpType ≠ USER_DEAD
  targetZone : q.around.zoneId = p.around.zoneId
  targetBusy : q.around.busy = false

/-- Once the two are free, nobody of either clan in the zone of the accepter may be warped. -/
def NobodyEligible (w : DuelWorld) (sid requester : UInt16) : Prop :=
  let w' := (w.clearRequested sid).clearRequesting requester
  let zone := ((w.players sid).map fun p => p.around.zoneId).getD 0
  w'.getCvcEligibleClanMembers (w.getSessionClanId sid) zone = [] ∧
    w'.getCvcEligibleClanMembers (w.getSessionClanId requester) zone = []

/-- Nobody challenges himself; an accepted challenge is one of the kind accepted, a duel that the
accepter may leave for, or one of two players in clans; and whoever changes the zone while a
challenge is pending has a partner whose session number is not negative as an `i16`. -/
def Condition (w : DuelWorld) : DuelEvent → Prop
  | .packet sid opcode name arrives => w.mayChallenge sid →
    (∀ k : ChallengeKind, opcode = k.requestCode → ∀ p q, ¬ w.Requests sid sid k name p q) ∧
    ∀ a k, w.Incoming sid a k →
      (opcode = CHALLENGE_PVP_ACCEPT → k = .pvp ∧ arrives) ∧
      (opcode = CHALLENGE_CVC_ACCEPT → w.getSessionClanId sid ≠ 0 ∧ w.getSessionClanId a ≠ 0 ∧
        (k = .cvc ∨ w.NobodyEligible sid a))
  | .zoneChange sid dest => ∀ p, w.players sid = some p → p.around.zoneId ≠ dest →
      (w.Unchallenged sid ∨ 0 ≤ p.challenge.challengeUser)
  | .around _ _ => True

end DuelWorld

namespace ChallengeState

def partner (c : ChallengeState) : Option UInt16 :=
  if c.requestingChallenge = 0 ∧ c.challengeRequested = 0 then none
  else some c.challengeUser.toUInt16

def requester (k : ChallengeKind) (b : UInt16) : ChallengeState :=
  { requestingChallenge := k.cancelCode, challengeUser := b.toInt16 }

def challenged (k : ChallengeKind) (a : UInt16) : ChallengeState :=
  { challengeRequested := k.rejectCode, challengeUser := a.toInt16 }

/-- One of the two asks the other. -/
def Opposite (c d : ChallengeState) : Prop :=
  ∃ a b k, c = requester k b ∧ d = challenged k a ∨ c = challenged k a ∧ d = requester k b

end ChallengeState

@[simp] theorem ChallengeKind.cancelCode_ne_zero (k : ChallengeKind) : k.cancelCode ≠ 0 := by
  cases k <;> decide

@[simp] theorem ChallengeKind.rejectCode_ne_zero (k : ChallengeKind) : k.rejectCode ≠ 0 := by
  cases k <;> decide

theorem ChallengeKind.cancelCode_inj {k l : ChallengeKind} (h : k.cancelCode = l.cancelCode) :
    k = l := by
  revert h
  cases k <;> cases l <;> decide

theorem ChallengeKind.rejectCode_inj {k l : ChallengeKind} (h : k.rejectCode = l.rejectCode) :
    k = l := by
  revert h
  cases k <;> cases l <;> decide

theorem toInt16_inj {a b : UInt16} (h : a.toInt16 = b.toInt16) : a = b := by
  have h' := congrArg Int16.toUInt16 h
  rwa [UInt16.toUInt16_toInt16, UInt16.toUInt16_toInt16] at h'

namespace ChallengeState

@[simp] theorem partner_idle : ({} : ChallengeState).partner = none := rfl

@[simp] theorem partner_requester (k : ChallengeKind) (b : UInt16) :
    (requester k b).partner = some b := by
  simp [partner, requester]

@[simp] theorem partner_challenged (k : ChallengeKind) (a : UInt16) :
    (challenged k a).partner = some a := by
  simp [partner, challenged]

theorem partner_eq_none {c : ChallengeState} :
    c.partner = none ↔ c.requestingChallenge = 0 ∧ c.challengeRequested = 0 := by
  simp [partner]

theorem Opposite.symm {c d : ChallengeState} : Opposite c d → Opposite d c := by
  rintro ⟨a, b, k, ⟨hc, hd⟩ | ⟨hc, hd⟩⟩
  · exact ⟨a, b, k, Or.inr ⟨hd, hc⟩⟩
  · exact ⟨a, b, k, Or.inl ⟨hd, hc⟩⟩

theorem requester_inj {k l : ChallengeKind} {a b : UInt16} (h : requester k a = requester l b) :
    k = l ∧ a = b := by
  obtain ⟨hk, -, hu⟩ := ChallengeState.mk.inj h
  exact ⟨ChallengeKind.cancelCode_inj hk, toInt16_inj hu⟩

theorem challenged_inj {k l : ChallengeKind} {a b : UInt16} (h : challenged k a = challenged l b) :
    k = l ∧ a = b := by
  obtain ⟨-, hk, hu⟩ := ChallengeState.mk.inj h
  exact ⟨ChallengeKind.rejectCode_inj hk, toInt16_inj hu⟩

theorem requester_ne_challenged {k l : ChallengeKind} {a b : UInt16} :
    requester k b ≠ challenged l a := by
  intro h
  obtain ⟨hk, -, -⟩ := ChallengeState.mk.inj h
  exact k.cancelCode_ne_zero hk

end ChallengeState

namespace DuelWorld

open ChallengeState

structure Pending (w : DuelWorld) (a b : UInt16) (k : ChallengeKind) : Prop where
  ne : a ≠ b
  asks : w.challenges a = some (requester k b)
  asked : w.challenges b = some (challenged k a)

/-- Players are in pending challenges, each in one, or free. -/
structure Sound (w : DuelWorld) : Prop where
  paired : Pairing.Paired ChallengeState.partner ChallengeState.Opposite w.challenges
  free : ∀ s c, w.challenges s = some c → c.partner = none → c = {}

variable {w w' : DuelWorld} {a b s : UInt16} {k : ChallengeKind} {c d : ChallengeState}

theorem Sound.congr (hw : Sound w) (h : w'.challenges = w.challenges) : Sound w' := by
  constructor
  · rw [h]
    exact hw.paired
  · rw [h]
    exact hw.free

theorem Idle.sound (h : w.Idle) : Sound w := by
  constructor
  · intro s c p hs hp
    rw [h s c hs] at hp
    cases hp
  · intro s c hs _
    exact h s c hs

/-- Whoever is not free is in a pending challenge. -/
theorem Sound.pending (hw : Sound w) (hs : w.challenges s = some c) (hc : c.partner ≠ none) :
    (∃ b k, w.Pending s b k) ∨ ∃ a k, w.Pending a s k := by
  obtain ⟨p, hp⟩ := Option.ne_none_iff_exists'.mp hc
  obtain ⟨hne, d, hd, hback, a, b, k, ⟨hcr, hdc⟩ | ⟨hcc, hdr⟩⟩ := hw.paired.partner_spec hs hp
  · rw [hcr, partner_requester] at hp
    rw [hdc, partner_challenged] at hback
    obtain rfl := Option.some.inj hp
    obtain rfl := Option.some.inj hback
    exact Or.inl ⟨b, k, hne, by rw [hs, hcr], by rw [hd, hdc]⟩
  · rw [hcc, partner_challenged] at hp
    rw [hdr, partner_requester] at hback
    obtain rfl := Option.some.inj hp
    obtain rfl := Option.some.inj hback
    exact Or.inr ⟨a, k, hne.symm, by rw [hd, hdr], by rw [hs, hcc]⟩

theorem Pending.unique_asked {a' : UInt16} {k' : ChallengeKind} (h : w.Pending a b k)
    (h' : w.Pending a' b k') : a' = a ∧ k' = k := by
  obtain ⟨hk, ha⟩ := challenged_inj (Option.some.inj (h'.asked.symm.trans h.asked))
  exact ⟨ha, hk⟩

theorem Pending.unique_asks {b' : UInt16} {k' : ChallengeKind} (h : w.Pending a b k)
    (h' : w.Pending a b' k') : b' = b ∧ k' = k := by
  obtain ⟨hk, hb⟩ := requester_inj (Option.some.inj (h'.asks.symm.trans h.asks))
  exact ⟨hb, hk⟩

/-- Nobody asks while being asked. -/
theorem Pending.not_asked {k' : ChallengeKind} (h : w.Pending a b k) : ¬ w.Pending s a k' := by
  intro h'
  exact requester_ne_challenged (Option.some.inj (h.asks.symm.trans h'.asked))

theorem Sound.outgoing_iff (hw : Sound w) : w.Outgoing a b k ↔ w.Pending a b k := by
  constructor
  · rintro ⟨c, hc, hk, hu⟩
    have hne : c.partner ≠ none := by
      intro h
      exact k.cancelCode_ne_zero (hk.symm.trans (partner_eq_none.mp h).1)
    rcases hw.pending hc hne with ⟨b', k', hp⟩ | ⟨a', k', hp⟩
    · obtain rfl := Option.some.inj (hc.symm.trans hp.asks)
      obtain rfl := ChallengeKind.cancelCode_inj hk
      obtain rfl := toInt16_inj hu
      exact hp
    · obtain rfl := Option.some.inj (hc.symm.trans hp.asked)
      exact absurd hk.symm k.cancelCode_ne_zero
  · intro hp
    exact ⟨_, hp.asks, rfl, rfl⟩

theorem Sound.incoming_iff (hw : Sound w) : w.Incoming b a k ↔ w.Pending a b k := by
  constructor
  · rintro ⟨d, hd, hk, hu⟩
    have hne : d.partner ≠ none := by
      intro h
      exact k.rejectCode_ne_zero (hk.symm.trans (partner_eq_none.mp h).2)
    rcases hw.pending hd hne with ⟨b', k', hp⟩ | ⟨a', k', hp⟩
    · obtain rfl := Option.some.inj (hd.symm.trans hp.asks)
      exact absurd hk.symm k.rejectCode_ne_zero
    · obtain rfl := Option.some.inj (hd.symm.trans hp.asked)
      obtain rfl := ChallengeKind.rejectCode_inj hk
      obtain rfl := toInt16_inj hu
      exact hp
  · intro hp
    exact ⟨_, hp.asked, rfl, rfl⟩

theorem Sound.proper (hw : Sound w) : w.Proper := by
  constructor
  · intro a b k
    rw [hw.outgoing_iff, hw.incoming_iff]
  · intro s c hs
    by_cases hc : c.partner = none
    · exact Or.inl (partner_eq_none.mp hc).1
    rcases hw.pending hs hc with ⟨b, k, hp⟩ | ⟨a, k, hp⟩
    · obtain rfl := Option.some.inj (hs.symm.trans hp.asks)
      exact Or.inr rfl
    · obtain rfl := Option.some.inj (hs.symm.trans hp.asked)
      exact Or.inl rfl
  · intro s c hs hfree
    rw [hw.free s c hs (partner_eq_none.mpr (hfree c hs))]

/-- A pair, or two free players, become a pair or free. -/
theorem Sound.rewrite (hw : Sound w) {c' d' : ChallengeState} (hab : a ≠ b)
    (ha : w.challenges a = some c) (hb : w.challenges b = some d)
    (hl : Pairing.Linked ChallengeState.partner Opposite a b c d)
    (hl' : Pairing.Linked ChallengeState.partner Opposite a b c' d')
    (hc : c'.partner = none → c' = {}) (hd : d'.partner = none → d' = {})
    (h : w'.challenges = Ledger.rewrite w.challenges a b c' d') : Sound w' := by
  constructor
  · rw [h]
    exact hw.paired.rewrite (fun _ _ => Opposite.symm) hab ha hb hl hl'
  · rw [h]
    intro s e hs he
    rcases eq_or_ne s b with rfl | hsb
    · obtain rfl := Option.some.inj (rewrite_right.symm.trans hs)
      exact hd he
    rcases eq_or_ne s a with rfl | hsa
    · obtain rfl := Option.some.inj ((rewrite_left hab).symm.trans hs)
      exact hc he
    · rw [rewrite_other hsa hsb] at hs
      exact hw.free s e hs he

theorem linked_pending (a b : UInt16) (k : ChallengeKind) :
    Pairing.Linked ChallengeState.partner Opposite a b (requester k b) (challenged k a) :=
  Or.inr ⟨partner_requester k b, partner_challenged k a, a, b, k, Or.inl ⟨rfl, rfl⟩⟩

theorem Sound.settle (hw : Sound w) (hp : w.Pending a b k)
    (h : w'.challenges = Ledger.rewrite w.challenges a b {} {}) : Sound w' :=
  hw.rewrite hp.ne hp.asks hp.asked (linked_pending a b k) (Or.inl ⟨rfl, rfl⟩) (fun _ => rfl) (fun _ => rfl) h

theorem Sound.asks (hw : Sound w) (hab : a ≠ b) (ha : w.challenges a = some {})
    (hb : w.challenges b = some {})
    (h : w'.challenges = Ledger.rewrite w.challenges a b (requester k b) (challenged k a)) :
    Sound w' := by
  refine hw.rewrite hab ha hb (Or.inl ⟨rfl, rfl⟩)
    (Or.inr ⟨partner_requester k b, partner_challenged k a, a, b, k, Or.inl ⟨rfl, rfl⟩⟩) ?_ ?_ h
  · intro hn
    rw [partner_requester] at hn
    cases hn
  · intro hn
    rw [partner_challenged] at hn
    cases hn

end DuelWorld

end KoServer
