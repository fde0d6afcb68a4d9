import KoServer.Lib.Ledger

/-! Accounts that come in pairs: each may name another one as its partner, and is then named by
it. Rewriting the two accounts of a pair, or two that have no partner, leaves pairs. -/

namespace Pairing

open Ledger

variable {ι α : Type*} (partner : α → Option ι) (R : α → α → Prop)

/-- Two accounts are each other's partner and stand in the relation, or neither has one. -/
def Linked (a b : ι) (h k : α) : Prop :=
  partner h = none ∧ partner k = none ∨ partner h = some b ∧ partner k = some a ∧ R h k

def Paired (w : ι → Option α) : Prop :=
  ∀ s h p, w s = some h → partner h = some p →
    s ≠ p ∧ ∃ k, w p = some k ∧ Linked partner R s p h k

variable {partner R} {a b : ι} {h k h' k' : α} {w : ι → Option α}

theorem Linked.symm (hR : ∀ h k, R h k → R k h) (hl : Linked partner R a b h k) :
    Linked partner R b a k h := by
  rcases hl with ⟨hh, hk⟩ | ⟨hh, hk, hr⟩
  · exact Or.inl ⟨hk, hh⟩
  · exact Or.inr ⟨hk, hh, hR h k hr⟩

theorem Linked.eq_right (hl : Linked partner R a b h k) {p : ι} (hp : partner h = some p) :
    p = b := by
  rcases hl with ⟨hnone, -⟩ | ⟨hsome, -⟩
  · rw [hp] at hnone
    cases hnone
  · exact Option.some.inj (hp.symm.trans hsome)

theorem Paired.partner_spec (hw : Paired partner R w) {p : ι} (hh : w a = some h)
    (hp : partner h = some p) :
    a ≠ p ∧ ∃ k, w p = some k ∧ partner k = some a ∧ R h k := by
  obtain ⟨hap, k, hk, hl⟩ := hw a h p hh hp
  refine ⟨hap, k, hk, ?_⟩
  rcases hl with ⟨hnone, -⟩ | ⟨-, hback, hr⟩
  · rw [hp] at hnone
    cases hnone
  · exact ⟨hback, hr⟩

theorem Paired.outside (hw : Paired partner R w) {s p : ι} {g : α} (hh : w a = some h)
    (hl : Linked partner R a b h k) (hs : w s = some g) (hp : partner g = some p) (hsb : s ≠ b) :
    p ≠ a := by
  rintro rfl
  obtain ⟨-, h₀, hh₀, hback, -⟩ := hw.partner_spec hs hp
  obtain rfl := Option.some.inj (hh.symm.trans hh₀)
  exact hsb (hl.eq_right hback)

theorem Paired.rewrite [DecidableEq ι] (hw : Paired partner R w) (hR : ∀ h k, R h k → R k h)
    (hab : a ≠ b) (hh : w a = some h) (hk : w b = some k) (hl : Linked partner R a b h k)
    (hl' : Linked partner R a b h' k') : Paired partner R (rewrite w a b h' k') := by
  have hleft : Ledger.rewrite w a b h' k' a = some h' := rewrite_left hab
  have hright : Ledger.rewrite w a b h' k' b = some k' := rewrite_right
  intro s g p hs hp
  rcases eq_or_ne s a with rfl | hsa
  · obtain rfl := Option.some.inj (hleft.symm.trans hs)
    obtain rfl := hl'.eq_right hp
    exact ⟨hab, k', hright, hl'⟩
  rcases eq_or_ne s b with rfl | hsb
  · obtain rfl := Option.some.inj (hright.symm.trans hs)
    obtain rfl := (hl'.symm hR).eq_right hp
    exact ⟨hab.symm, h', hleft, hl'.symm hR⟩
  · rw [rewrite_other hsa hsb] at hs
    obtain ⟨hsp, g', hg', hlg⟩ := hw s g p hs hp
    have hpa : p ≠ a := hw.outside hh hl hs hp hsb
    have hpb : p ≠ b := hw.outside hk (hl.symm hR) hs hp hsa
    exact ⟨hsp, g', by rwa [rewrite_other hpa hpb], hlg⟩

end Pairing
