import Mathlib

/-! Tilings. A list of sets tiles a set when its members are pairwise disjoint and together are the
whole of it. A tiling of each part of a set is a tiling of the set. -/
namespace Nmux.Lib

variable {α : Type*} {tiles others : List (Set α)} {whole rest : Set α}

/-- The sets of the list do not meet, and their union is the whole. -/
structure Tiles (tiles : List (Set α)) (whole : Set α) : Prop where
  disjoint : tiles.Pairwise Disjoint
  cover : ∀ a, a ∈ whole ↔ ∃ tile ∈ tiles, a ∈ tile

theorem Tiles.nil : Tiles ([] : List (Set α)) ∅ :=
  ⟨.nil, fun a => by simp⟩

theorem Tiles.single (whole : Set α) : Tiles [whole] whole :=
  ⟨List.pairwise_singleton _ _, fun a => by simp⟩

theorem Tiles.subset (h : Tiles tiles whole) {tile : Set α} (htile : tile ∈ tiles) : tile ⊆ whole :=
  fun a ha => (h.cover a).mpr ⟨tile, htile, ha⟩

/-- Two parts that do not meet are tiled one after the other. -/
theorem Tiles.append (h : Tiles tiles whole) (h' : Tiles others rest) (hparts : Disjoint whole rest) :
    Tiles (tiles ++ others) (whole ∪ rest) where
  disjoint := by
    refine List.pairwise_append.mpr ⟨h.disjoint, h'.disjoint, fun tile htile other hother => ?_⟩
    exact hparts.mono (h.subset htile) (h'.subset hother)
  cover a := by
    simp only [Set.mem_union, h.cover a, h'.cover a, List.mem_append]
    constructor
    · rintro (⟨tile, htile, ha⟩ | ⟨tile, htile, ha⟩)
      · exact ⟨tile, .inl htile, ha⟩
      · exact ⟨tile, .inr htile, ha⟩
    · rintro ⟨tile, htile | htile, ha⟩
      · exact .inl ⟨tile, htile, ha⟩
      · exact .inr ⟨tile, htile, ha⟩

end Nmux.Lib
