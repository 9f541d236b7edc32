import Mathlib.Data.List.Infix

/-! Occurrences of a pattern in a list. Dropping a front moves the places of the later occurrences and
loses the earlier ones; a search by windows finds an occurrence exactly when there is one. -/
namespace Nmux.Lib

variable {α : Type*} {pattern items : List α} {start : ℕ}

/-- The pattern stands in the list from a place on. -/
def OccursAt (pattern items : List α) (start : ℕ) : Prop := pattern <+: items.drop start

theorem OccursAt.fits (h : OccursAt pattern items start) (hpos : pattern ≠ []) :
    start + pattern.length ≤ items.length := by
  have hle := h.length_le
  have hpattern := List.length_pos_of_ne_nil hpos
  rw [List.length_drop] at hle
  omega

theorem occursAt_iff_take : OccursAt pattern items start ↔
    (items.drop start).take pattern.length = pattern := by
  rw [OccursAt, List.prefix_iff_eq_take, eq_comm]

theorem occursAt_drop {count : ℕ} :
    OccursAt pattern (items.drop count) start ↔ OccursAt pattern items (count + start) := by
  rw [OccursAt, OccursAt, List.drop_drop]

/-- The contiguous parts of a given size, in order. -/
def windows (size : ℕ) (items : List α) : List (List α) :=
  (List.range (items.length + 1 - size)).map fun start => (items.drop start).take size

theorem any_windows [DecidableEq α] (hpos : pattern ≠ []) :
    ((windows pattern.length items).any fun window => window == pattern) = true ↔
      ∃ start, OccursAt pattern items start := by
  rw [windows, List.any_map, List.any_eq_true]
  constructor
  · rintro ⟨start, -, h⟩
    exact ⟨start, occursAt_iff_take.mpr (beq_iff_eq.mp h)⟩
  · rintro ⟨start, h⟩
    have hfits := h.fits hpos
    exact ⟨start, List.mem_range.mpr (by omega), beq_iff_eq.mpr (occursAt_iff_take.mp h)⟩

theorem OccursAt.mem_windows (h : OccursAt pattern items start) (hpos : pattern ≠ []) :
    pattern ∈ windows pattern.length items := by
  have hfits := h.fits hpos
  exact List.mem_map.mpr ⟨start, List.mem_range.mpr (by omega), occursAt_iff_take.mp h⟩

theorem OccursAt.isInfix (h : OccursAt pattern items start) : pattern <:+: items :=
  List.IsPrefix.isInfix h |>.trans (List.drop_suffix start items).isInfix

/-- A pattern whose first item it has once does not overlap itself: before a copy of it there is no
occurrence that reaches into the copy. -/
theorem occursAt_append_pattern {first : α} {rest : List α} (hfirst : first ∉ rest)
    (h : OccursAt (first :: rest) (items ++ first :: rest) start) :
    OccursAt (first :: rest) items start ∨ start = items.length := by
  have hfits := h.fits (List.cons_ne_nil first rest)
  simp only [List.length_append, List.length_cons] at hfits
  by_cases hend : start = items.length
  · exact .inr hend
  · left
    obtain ⟨after, hafter⟩ := h
    rw [List.drop_append_of_le_length (by omega)] at hafter
    refine List.prefix_of_prefix_length_le ⟨after, hafter⟩ (List.prefix_append _ _) ?_
    by_contra hlong
    rw [List.length_drop, List.length_cons] at hlong
    -- the copy begins inside the occurrence
    obtain ⟨back, hback⟩ : ∃ back, items.length - start = back + 1 :=
      ⟨items.length - start - 1, by omega⟩
    have hplace : rest[back]? = some first := by
      have hcopy := congrArg (·[back + 1]?) hafter
      rwa [List.getElem?_append_left (by rw [List.length_cons]; omega),
        List.getElem?_append_right (by rw [List.length_drop, hback]), List.length_drop, hback,
        Nat.sub_self, List.getElem?_cons_succ, List.getElem?_cons_zero] at hcopy
    exact hfirst (List.mem_of_getElem? hplace)

/-- A search over places finds the first one. -/
theorem findSome?_range {f : ℕ → Option α} {count : ℕ} {found : α}
    (h : (List.range count).findSome? f = some found) :
    ∃ place < count, f place = some found ∧ ∀ earlier < place, f earlier = none := by
  induction count with
  | zero => simp at h
  | succ count ih =>
    rw [List.range_succ, List.findSome?_append] at h
    cases hbefore : (List.range count).findSome? f with
    | some other =>
      rw [hbefore] at h
      obtain ⟨place, hlt, hplace⟩ := ih (hbefore.trans h)
      exact ⟨place, Nat.lt_succ_of_lt hlt, hplace⟩
    | none =>
      rw [hbefore] at h
      refine ⟨count, Nat.lt_succ_self count, by simpa using h, fun earlier hearlier => ?_⟩
      exact List.findSome?_eq_none_iff.mp hbefore earlier (List.mem_range.mpr hearlier)

end Nmux.Lib
