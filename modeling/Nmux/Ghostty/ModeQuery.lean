import Nmux.Lib.Occurrence

/-! Queries for the wraparound mode. The terminal library does not answer them, so the engine looks for
the query in the output itself, with the end of the earlier output at hand. A query it finds clears
what it carries over, and with it the beginning of a query that the same chunk leaves unfinished. -/
namespace Nmux.Ghostty

open Lib (OccursAt)

/-- `ESC [ ? 7 $ p`. -/
def query : List UInt8 := [0x1b, 0x5b, 0x3f, 0x37, 0x24, 0x70]

/-- What is found in a chunk, and what `pending_decrqm` is after it. -/
def ingestDecrqmQuery (pendingDecrqm output : List UInt8) : Bool × List UInt8 :=
  let pending := pendingDecrqm ++ output
  if (Lib.windows query.length pending).any fun window => window == query then (true, [])
  else
    let keep := min pending.length (query.length - 1)
    if keep < pending.length then (false, pending.drop (pending.length - keep)) else (false, pending)

/-- `pending_decrqm` after the chunks of a new engine. -/
def pendingAfter (chunks : List (List UInt8)) : List UInt8 :=
  chunks.foldl (fun pending output => (ingestDecrqmQuery pending output).2) []

/-- What the engine answers on a chunk after the earlier ones. -/
def sawQuery (earlier : List (List UInt8)) (output : List UInt8) : Bool :=
  (ingestDecrqmQuery (pendingAfter earlier) output).1

/-- A query at a place of the output so far that ends in the last chunk. -/
structure QueryEnds (earlier : List (List UInt8)) (output : List UInt8) (start : ℕ) : Prop where
  occurs : OccursAt query (earlier.flatten ++ output) start
  ends : earlier.flatten.length < start + query.length

/-! ### One chunk -/

theorem query_ne_nil : query ≠ [] := by decide

theorem ingestDecrqmQuery_fst (pending output : List UInt8) :
    (ingestDecrqmQuery pending output).1 = true ↔ ∃ start, OccursAt query (pending ++ output) start := by
  rw [← Lib.any_windows query_ne_nil, ingestDecrqmQuery]
  dsimp only
  by_cases h : ((Lib.windows query.length (pending ++ output)).any fun window => window == query) = true
  · rw [if_pos h]
    exact iff_of_true rfl h
  · rw [if_neg h]
    split <;> exact iff_of_false Bool.false_ne_true h

/-- What is carried over is the end of what was at hand, or nothing after a query. -/
theorem ingestDecrqmQuery_snd (pending output : List UInt8) :
    (ingestDecrqmQuery pending output).2 =
      if (ingestDecrqmQuery pending output).1 then []
      else (pending ++ output).drop ((pending ++ output).length - 5) := by
  have hlength : query.length = 6 := rfl
  unfold ingestDecrqmQuery
  dsimp only
  split
  · rfl
  · split
    case isTrue hkeep =>
      rw [if_neg Bool.false_ne_true, hlength]
      rw [hlength] at hkeep
      dsimp only
      congr 1
      omega
    case isFalse hkeep =>
      rw [hlength] at hkeep
      rw [if_neg Bool.false_ne_true, Nat.sub_eq_zero_of_le (by omega), List.drop_zero]

/-! ### A run of chunks -/

/-- What the engine has at hand after some chunks: the end of the output, cut at the last chunk in
which it found a query. -/
structure Carried (chunks : List (List UInt8)) (mark : ℕ) : Prop where
  bound : mark ≤ chunks.flatten.length
  pending : pendingAfter chunks = chunks.flatten.drop (max mark (chunks.flatten.length - 5))
  /-- No chunk with a found query ends after the mark. -/
  found : ∀ earlier output later, chunks = earlier ++ output :: later → sawQuery earlier output = true →
    (earlier.flatten ++ output).length ≤ mark
  /-- The mark is the beginning of the output or the end of such a chunk. -/
  reached : mark = 0 ∨ ∃ earlier output later, chunks = earlier ++ output :: later ∧
    sawQuery earlier output = true ∧ mark = (earlier.flatten ++ output).length

theorem pendingAfter_snoc (earlier : List (List UInt8)) (output : List UInt8) :
    pendingAfter (earlier ++ [output]) = (ingestDecrqmQuery (pendingAfter earlier) output).2 := by
  rw [pendingAfter, List.foldl_append]
  rfl

variable {earlier : List (List UInt8)} {output : List UInt8} {mark : ℕ}

/-- At hand with a new chunk: the output with it, from the same place on. -/
theorem Carried.pending_append (h : Carried earlier mark) : pendingAfter earlier ++ output =
    (earlier.flatten ++ output).drop (max mark (earlier.flatten.length - 5)) := by
  have hbound := h.bound
  rw [h.pending, List.drop_append_of_le_length (by omega)]

/-- The engine finds the queries that begin after the mark. -/
theorem Carried.sawQuery_iff (h : Carried earlier mark) :
    sawQuery earlier output = true ↔ ∃ start, QueryEnds earlier output start ∧ mark ≤ start := by
  have hlength : query.length = 6 := rfl
  rw [sawQuery, ingestDecrqmQuery_fst, h.pending_append]
  constructor
  · rintro ⟨start, hstart⟩
    exact ⟨_, ⟨Lib.occursAt_drop.mp hstart, by omega⟩, by omega⟩
  · rintro ⟨start, ⟨hoccurs, hends⟩, hmark⟩
    refine ⟨start - max mark (earlier.flatten.length - 5), Lib.occursAt_drop.mpr ?_⟩
    rwa [Nat.add_sub_cancel' (by omega)]

/-- A chunk of an extended run is the last one or one of the run before. -/
theorem snoc_split {earlier before later : List (List UInt8)} {output chunk : List UInt8}
    (h : earlier ++ [output] = before ++ chunk :: later) :
    (before = earlier ∧ chunk = output ∧ later = []) ∨
      ∃ rest, earlier = before ++ chunk :: rest ∧ later = rest ++ [output] := by
  rcases List.eq_nil_or_concat later with rfl | ⟨rest, last, rfl⟩
  · obtain ⟨rfl, hchunk⟩ := List.append_inj' h rfl
    exact .inl ⟨rfl, (List.singleton_inj.mp hchunk).symm, rfl⟩
  · rw [List.concat_eq_append, ← List.cons_append, ← List.append_assoc] at h
    obtain ⟨rfl, hlast⟩ := List.append_inj' h rfl
    exact .inr ⟨rest, rfl, by rw [List.concat_eq_append, List.singleton_inj.mp hlast]⟩

theorem Carried.snoc (h : Carried earlier mark) (output : List UInt8) :
    ∃ mark', Carried (earlier ++ [output]) mark' := by
  have hflatten : (earlier ++ [output]).flatten = earlier.flatten ++ output := by
    rw [List.flatten_append, List.flatten_singleton]
  have hbound := h.bound
  have hpending := ingestDecrqmQuery_snd (pendingAfter earlier) output
  rw [h.pending_append, ← pendingAfter_snoc] at hpending
  by_cases hsaw : sawQuery earlier output = true
  · refine ⟨(earlier.flatten ++ output).length, ⟨by rw [hflatten], ?_, ?_, ?_⟩⟩
    · rw [if_pos (show (ingestDecrqmQuery (pendingAfter earlier) output).1 = true from hsaw)] at hpending
      rw [hpending, hflatten, List.drop_eq_nil_of_le (by omega)]
    · intro before chunk later hsplit hfound
      rcases snoc_split hsplit with ⟨rfl, rfl, rfl⟩ | ⟨rest, rfl, rfl⟩
      · exact Nat.le_refl _
      · have hle := h.found before chunk rest rfl hfound
        have hlong : ((before ++ chunk :: rest).flatten ++ output).length =
            (before ++ chunk :: rest).flatten.length + output.length := List.length_append
        rw [hlong]
        omega
    · exact .inr ⟨earlier, output, [], rfl, hsaw, rfl⟩
  · refine ⟨mark, ⟨?_, ?_, ?_, ?_⟩⟩
    · rw [hflatten, List.length_append]
      omega
    · rw [if_neg (show ¬ (ingestDecrqmQuery (pendingAfter earlier) output).1 = true from hsaw)] at hpending
      rw [hpending, hflatten, List.drop_drop, List.length_drop, List.length_append]
      congr 1
      omega
    · intro before chunk later hsplit hfound
      rcases snoc_split hsplit with ⟨rfl, rfl, rfl⟩ | ⟨rest, rfl, rfl⟩
      · exact absurd hfound hsaw
      · exact h.found before chunk rest rfl hfound
    · refine h.reached.imp_right ?_
      rintro ⟨before, chunk, rest, rfl, hfound, hmark⟩
      exact ⟨before, chunk, rest ++ [output], by simp, hfound, hmark⟩

theorem carried (chunks : List (List UInt8)) : ∃ mark, Carried chunks mark := by
  induction chunks using List.reverseRecOn with
  | nil => exact ⟨0, ⟨Nat.le_refl _, rfl, fun earlier output later h => by simp at h, .inl rfl⟩⟩
  | append_singleton earlier output ih =>
    obtain ⟨mark, h⟩ := ih
    exact h.snoc output

/-! ### The queries of a run -/

/-- On every chunk the engine answers whether a query ends inside it. -/
def Detected (chunks : List (List UInt8)) : Prop :=
  ∀ earlier output later, chunks = earlier ++ output :: later →
    (sawQuery earlier output = true ↔ ∃ start, QueryEnds earlier output start)

/-- In every chunk in which queries end, one of them begins after all earlier chunks in which a query
ends. -/
def QueriesApart (chunks : List (List UInt8)) : Prop :=
  ∀ earlier output later, chunks = earlier ++ output :: later → (∃ start, QueryEnds earlier output start) →
    ∃ start, QueryEnds earlier output start ∧
      ∀ before chunk between, earlier = before ++ chunk :: between →
        (∃ start, QueryEnds before chunk start) → (before.flatten ++ chunk).length ≤ start

/-- **The engine detects the queries of a run exactly when they are apart**: what it misses is a query
that begins in a chunk in which another one ends, and ends alone in a later chunk. -/
theorem detected_iff (chunks : List (List UInt8)) : Detected chunks ↔ QueriesApart chunks := by
  constructor
  · intro h earlier output later hsplit hends
    obtain ⟨mark, hcarried⟩ := carried earlier
    obtain ⟨start, hquery, hmark⟩ := hcarried.sawQuery_iff.mp ((h earlier output later hsplit).mpr hends)
    refine ⟨start, hquery, fun before chunk between hearlier hbefore => ?_⟩
    have hfound := (h before chunk (between ++ output :: later) (by
      rw [hsplit, hearlier, List.append_assoc, List.cons_append])).mpr hbefore
    exact (hcarried.found before chunk between hearlier hfound).trans hmark
  · intro h earlier output later hsplit
    obtain ⟨mark, hcarried⟩ := carried earlier
    rw [hcarried.sawQuery_iff]
    constructor
    · rintro ⟨start, hquery, -⟩
      exact ⟨start, hquery⟩
    · intro hends
      obtain ⟨start, hquery, hafter⟩ := h earlier output later hsplit hends
      refine ⟨start, hquery, ?_⟩
      rcases hcarried.reached with rfl | ⟨before, chunk, between, rfl, hfound, rfl⟩
      · exact Nat.zero_le _
      · obtain ⟨mark', hcarried'⟩ := carried before
        obtain ⟨start', hquery', -⟩ := hcarried'.sawQuery_iff.mp hfound
        exact hafter before chunk between rfl ⟨start', hquery'⟩

/-- Two queries in two chunks, cut inside the second: the engine misses it. -/
theorem not_detected : ¬ Detected [query ++ query.take 4, query.drop 4] := by
  intro h
  have hends : QueryEnds [query ++ query.take 4] (query.drop 4) 6 :=
    ⟨Lib.occursAt_iff_take.mpr (by decide), by decide⟩
  have hsaw := (h [query ++ query.take 4] (query.drop 4) [] rfl).mpr ⟨6, hends⟩
  exact absurd hsaw (by decide)

end Nmux.Ghostty
