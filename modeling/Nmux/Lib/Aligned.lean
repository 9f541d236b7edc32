import Mathlib.Data.List.Forall2
import Mathlib.Data.List.Basic

/-! Lists that are the same but for elements that do not matter. Each list may have such elements
wherever it likes; the others stand in the same order and are related, one by one. -/
namespace Nmux.Lib

variable {α β : Type*}

/-- The elements that matter are related in order. -/
inductive Aligned (skip : α → Prop) (R : α → α → Prop) : List α → List α → Prop
  | nil : Aligned skip R [] []
  | left {a : α} {as bs : List α} : skip a → Aligned skip R as bs → Aligned skip R (a :: as) bs
  | right {b : α} {as bs : List α} : skip b → Aligned skip R as bs → Aligned skip R as (b :: bs)
  | both {a b : α} {as bs : List α} : R a b → Aligned skip R as bs → Aligned skip R (a :: as) (b :: bs)

namespace Aligned

variable {skip : α → Prop} {R : α → α → Prop} {as bs : List α}

theorem append {cs ds : List α} (h : Aligned skip R as bs) (h' : Aligned skip R cs ds) :
    Aligned skip R (as ++ cs) (bs ++ ds) := by
  induction h with
  | nil => exact h'
  | left hskip _ ih => exact .left hskip ih
  | right hskip _ ih => exact .right hskip ih
  | both hrel _ ih => exact .both hrel ih

/-- What becomes of each element of either list leaves them aligned if it leaves elements that do not
matter so, and related ones related. -/
theorem forall₂ {as' bs' : List β} {skip' : β → Prop} {R' : β → β → Prop} {S T : α → β → Prop}
    (h : Aligned skip R as bs) (hleft : List.Forall₂ S as as') (hright : List.Forall₂ T bs bs')
    (hskip : ∀ a b, skip a → S a b → skip' b) (hskip' : ∀ a b, skip a → T a b → skip' b)
    (hrel : ∀ a b a' b', R a b → S a a' → T b b' → R' a' b') : Aligned skip' R' as' bs' := by
  induction h generalizing as' bs' with
  | nil =>
    cases hleft
    cases hright
    exact .nil
  | left ha _ ih =>
    obtain ⟨a', rest, hfirst, hrest, rfl⟩ := List.forall₂_cons_left_iff.mp hleft
    exact .left (hskip _ _ ha hfirst) (ih hrest hright)
  | right hb _ ih =>
    obtain ⟨b', rest, hfirst, hrest, rfl⟩ := List.forall₂_cons_left_iff.mp hright
    exact .right (hskip' _ _ hb hfirst) (ih hleft hrest)
  | both hab _ ih =>
    obtain ⟨a', rest, hfirst, hrest, rfl⟩ := List.forall₂_cons_left_iff.mp hleft
    obtain ⟨b', rest', hfirst', hrest', rfl⟩ := List.forall₂_cons_left_iff.mp hright
    exact .both (hrel _ _ _ _ hab hfirst hfirst') (ih hrest hrest')

theorem map {skip' : β → Prop} {R' : β → β → Prop} {f g : α → β} (h : Aligned skip R as bs)
    (hskip : ∀ a, skip a → skip' (f a) ∧ skip' (g a)) (hrel : ∀ a b, R a b → R' (f a) (g b)) :
    Aligned skip' R' (as.map f) (bs.map g) := by
  induction h with
  | nil => exact .nil
  | left ha _ ih => exact .left (hskip _ ha).1 ih
  | right hb _ ih => exact .right (hskip _ hb).2 ih
  | both hab _ ih => exact .both (hrel _ _ hab) ih

/-- A test that related elements pass alike picks aligned lists. -/
theorem filter {p : α → Bool} (h : Aligned skip R as bs) (hrel : ∀ a b, R a b → p a = p b) :
    Aligned skip R (as.filter p) (bs.filter p) := by
  induction h with
  | nil => exact .nil
  | left ha _ ih =>
    rw [List.filter_cons]
    split
    · exact .left ha ih
    · exact ih
  | right hb _ ih =>
    rw [List.filter_cons]
    split
    · exact .right hb ih
    · exact ih
  | both hab _ ih =>
    rw [List.filter_cons, List.filter_cons, hrel _ _ hab]
    split
    · exact .both hab ih
    · exact ih

/-- What elements that do not matter contribute nothing to is the same of both. -/
theorem flatMap_eq {f : α → List β} (h : Aligned skip R as bs) (hskip : ∀ a, skip a → f a = [])
    (hrel : ∀ a b, R a b → f a = f b) : as.flatMap f = bs.flatMap f := by
  induction h with
  | nil => rfl
  | left ha _ ih => rw [List.flatMap_cons, hskip _ ha, List.nil_append, ih]
  | right hb _ ih => rw [List.flatMap_cons, hskip _ hb, List.nil_append, ih]
  | both hab _ ih => rw [List.flatMap_cons, List.flatMap_cons, hrel _ _ hab, ih]

/-- Two lists are aligned if the elements that matter, as far as they matter, are the same. -/
theorem of_filterMap_eq {f : α → Option β} (h : as.filterMap f = bs.filterMap f) :
    Aligned (fun a => f a = none) (fun a b => f a = f b) as bs := by
  induction as generalizing bs with
  | nil =>
    induction bs with
    | nil => exact .nil
    | cons b bs ih =>
      have hnone := (List.filterMap_eq_nil_iff.mp h.symm)
      obtain ⟨hb, hrest⟩ := List.forall_mem_cons.mp hnone
      exact .right hb (ih (List.filterMap_eq_nil_iff.mpr hrest).symm)
  | cons a as ih =>
    cases ha : f a with
    | none => exact .left ha (ih (by rwa [List.filterMap_cons_none ha] at h))
    | some x =>
      induction bs with
      | nil => rw [List.filterMap_cons_some ha] at h; cases h
      | cons b bs ihb =>
        cases hb : f b with
        | none => exact .right hb (ihb (by rwa [List.filterMap_cons_none hb] at h))
        | some y =>
          rw [List.filterMap_cons_some ha, List.filterMap_cons_some hb, List.cons.injEq] at h
          exact .both (ha.trans (h.1 ▸ hb.symm)) (ih h.2)

theorem filterMap_eq {f : α → Option β} (h : Aligned skip R as bs) (hskip : ∀ a, skip a → f a = none)
    (hrel : ∀ a b, R a b → f a = f b) : as.filterMap f = bs.filterMap f := by
  induction h with
  | nil => rfl
  | left ha _ ih => rw [List.filterMap_cons_none (hskip _ ha), ih]
  | right hb _ ih => rw [List.filterMap_cons_none (hskip _ hb), ih]
  | both hab _ ih => rw [List.filterMap_cons, List.filterMap_cons, hrel _ _ hab, ih]

theorem imp {skip' : α → Prop} {R' : α → α → Prop} (h : Aligned skip R as bs)
    (hskip : ∀ a, skip a → skip' a) (hrel : ∀ a b, R a b → R' a b) : Aligned skip' R' as bs := by
  induction h with
  | nil => exact .nil
  | left ha _ ih => exact .left (hskip _ ha) ih
  | right hb _ ih => exact .right (hskip _ hb) ih
  | both hab _ ih => exact .both (hrel _ _ hab) ih

end Aligned

end Nmux.Lib
