import Mathlib.Order.Basic

/-! Versioned content. An object renews another if its version is no smaller and the same version
stands for the same content; collections descend from each other if every later object renews an
earlier one. Both compose, so a version that is seen twice along a history names one content. -/
namespace Nmux.Lib

variable {α β ν : Type} [PartialOrder ν] (version : α → ν) (content : α → β)

structure Renews (earlier later : α) : Prop where
  le : version earlier ≤ version later
  same : version later = version earlier → content later = content earlier

namespace Renews

variable {version content} {a b c : α}

theorem refl (a : α) : Renews version content a a := ⟨le_rfl, fun _ => rfl⟩

/-- A larger version may stand for any content. -/
theorem of_lt (h : version a < version b) : Renews version content a b :=
  ⟨h.le, fun hsame => absurd hsame h.ne'⟩

theorem trans (hab : Renews version content a b) (hbc : Renews version content b c) :
    Renews version content a c where
  le := hab.le.trans hbc.le
  same hca := by
    have hb : version b = version a := le_antisymm (hca ▸ hbc.le) hab.le
    exact (hbc.same (hca.trans hb.symm)).trans (hab.same hb)

end Renews

/-- Every later object renews an earlier one. -/
def Descends (earlier later : List α) : Prop :=
  ∀ b ∈ later, ∃ a ∈ earlier, Renews version content a b

namespace Descends

variable {version content} {first second third : List α}

theorem of_subset (h : second ⊆ first) : Descends version content first second :=
  fun b hb => ⟨b, h hb, .refl b⟩

theorem trans (hfirst : Descends version content first second)
    (hsecond : Descends version content second third) : Descends version content first third := by
  intro c hc
  obtain ⟨b, hb, hbc⟩ := hsecond c hc
  obtain ⟨a, ha, hab⟩ := hfirst b hb
  exact ⟨a, ha, hab.trans hbc⟩

/-- **A version names one content.** If there was only one object to descend from, an object of the
same version has the same content. -/
theorem content_eq {a b : α} (h : Descends version content [a] second) (hb : b ∈ second)
    (hversion : version b = version a) : content b = content a := by
  obtain ⟨a', ha', hrenews⟩ := h b hb
  obtain rfl := List.mem_singleton.mp ha'
  exact hrenews.same hversion

end Descends

end Nmux.Lib
