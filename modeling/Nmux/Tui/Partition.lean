import Nmux.Tui.Typed
import Nmux.Lib.Spans
import Nmux.Lib.Utf8

/-! How a read is taken apart. Each turn of the loop looks for the start of a paste, for a mouse report
and for a key in what is left, and handles the first of them; a paste wins where two begin together.
What a turn puts out covers the places up to where the next turn begins, so the forwards of a read
cover it without a gap. -/
namespace Nmux.Tui

open Lib (OccursAt Consecutive)

/-! ### The searches -/

/-- The first occurrence is found, and no other. -/
theorem findBytes_first {haystack needle : List UInt8} {start place : ℕ} (hne : needle ≠ [])
    (h : findBytes haystack needle = some start) (hoccurs : OccursAt needle haystack place) :
    start ≤ place := by
  rw [findBytes_of_ne hne, List.findIdx?_eq_some_iff_getElem] at h
  obtain ⟨hlt, -, hearlier⟩ := h
  by_contra hplace
  refine hearlier place (by omega) (beq_iff_eq.mpr ?_)
  simp only [Lib.windows, List.getElem_map, List.getElem_range]
  exact Lib.occursAt_iff_take.mp hoccurs

theorem findBytes_of_occursAt {haystack needle : List UInt8} {place : ℕ} (hne : needle ≠ [])
    (h : OccursAt needle haystack place) : ∃ start ≤ place, findBytes haystack needle = some start := by
  cases hfind : findBytes haystack needle with
  | none => exact absurd h (findBytes_none hne hfind place)
  | some start => exact ⟨start, findBytes_first hne hfind h, rfl⟩

theorem parseSgrMouseSequence_none {input : List UInt8} (h : ¬ sgrMouseStart <+: input) :
    parseSgrMouseSequence input = none := by
  rw [parseSgrMouseSequence, if_neg (mt List.isPrefixOf_iff_prefix.mp h)]

/-- **The search for a mouse report ends** with the first place one can be read from. -/
theorem findSgrMouseSequenceFrom_eq {fuel : ℕ} {input : List UInt8} {searchOffset : ℕ}
    (hfuel : input.length ≤ searchOffset + fuel) :
    findSgrMouseSequenceFrom fuel input searchOffset =
      (List.range' searchOffset (input.length - searchOffset)).findSome? fun start =>
        (parseSgrMouseSequence (input.drop start)).map fun found => (start, found.1, start + found.2) := by
  induction fuel generalizing searchOffset with
  | zero => rw [Nat.sub_eq_zero_of_le (by omega)]; rfl
  | succ fuel ih =>
    rw [findSgrMouseSequenceFrom]
    split
    case isFalse hend => rw [Nat.sub_eq_zero_of_le (by omega)]; rfl
    case isTrue hlt =>
      -- places that the search for the first bytes passes over hold no report
      have hskip : ∀ {count}, count ≤ input.length - searchOffset →
          (∀ place < count, ¬ OccursAt sgrMouseStart (input.drop searchOffset) place) →
          (List.range' searchOffset (input.length - searchOffset)).findSome? (fun start =>
            (parseSgrMouseSequence (input.drop start)).map fun found =>
              (start, found.1, start + found.2)) =
          (List.range' (searchOffset + count) (input.length - searchOffset - count)).findSome?
            fun start => (parseSgrMouseSequence (input.drop start)).map fun found =>
              (start, found.1, start + found.2) := by
        intro count hcount hnone
        rw [show input.length - searchOffset = count + (input.length - searchOffset - count) by omega,
          ← List.range'_append_1, List.findSome?_append, List.findSome?_eq_none_iff.mpr]
        · rw [Option.none_or, Nat.add_sub_cancel_left]
        · intro start hstart
          obtain ⟨hlow, hhigh⟩ := List.mem_range'_1.mp hstart
          rw [parseSgrMouseSequence_none, Option.map_none]
          have hplace := hnone (start - searchOffset) (by omega)
          rwa [Lib.occursAt_drop, Nat.add_sub_cancel' hlow] at hplace
      cases hfind : findBytes (input.drop searchOffset) sgrMouseStart with
      | none =>
        rw [hskip (Nat.le_refl _) fun place _ => findBytes_none (by decide) hfind place, Nat.sub_self]
        rfl
      | some startRel =>
        have hfits := (findBytes_some (by decide) hfind).fits (by decide)
        have hpos : 0 < sgrMouseStart.length := by decide
        rw [List.length_drop] at hfits
        rw [@hskip startRel (by omega) fun place hplace hoccurs =>
          absurd (findBytes_first (by decide) hfind hoccurs) (by omega)]
        obtain ⟨rest, hrest⟩ : ∃ rest, input.length - searchOffset - startRel = rest + 1 :=
          ⟨input.length - searchOffset - startRel - 1, by omega⟩
        rw [hrest, List.range'_succ, List.findSome?_cons]
        dsimp only [Option.bind_eq_bind, Option.bind_some]
        split
        case h_1 found len hparse => rw [hparse]; rfl
        case h_2 hparse =>
          rw [hparse, Option.map_none, ih (by omega)]
          dsimp only
          rw [show input.length - (searchOffset + startRel + 1) = rest by omega]

/-- A paste is chosen unless something begins before it. -/
theorem nextStructuredStdinForward_paste {paste : ℕ × StdinByteForward × ℕ}
    {mouse key : Option (ℕ × StdinByteForward × ℕ)} :
    ∃ found, nextStructuredStdinForward (some paste) mouse key = some found ∧
      (found = paste ∨ found.1 < paste.1) := by
  have hearlier : ∀ (best : ℕ × StdinByteForward × ℕ) (candidate : Option (ℕ × StdinByteForward × ℕ)),
      ∃ found, earlierCandidate (some best) candidate = some found ∧
        (found = best ∨ found.1 < best.1) := by
    intro best candidate
    cases candidate with
    | none => exact ⟨best, rfl, .inl rfl⟩
    | some candidate =>
      by_cases hlt : candidate.1 < best.1
      · exact ⟨candidate, if_pos hlt, .inr hlt⟩
      · exact ⟨best, if_neg hlt, .inl rfl⟩
  obtain ⟨first, hfirst, hpaste⟩ := hearlier paste mouse
  obtain ⟨found, hfound, hbest⟩ := hearlier first key
  refine ⟨found, by rw [nextStructuredStdinForward, hfirst, hfound], ?_⟩
  rcases hbest with rfl | hbest
  · exact hpaste
  · refine .inr ?_
    rcases hpaste with rfl | hpaste <;> omega

/-! ### Spans -/

/-- The bytes of the read a forward comes from. -/
def Placed.span (input : List UInt8) (placed : Placed) : List UInt8 :=
  (input.drop placed.start).take (placed.past - placed.start)

/-- What a forward says of its bytes: it carries them, those between the markers, or what is read from
them. -/
def Placed.Carries (input : List UInt8) (placed : Placed) : Prop :=
  match placed.forward with
  | .raw bytes => placed.span input = bytes
  | .key key => placed.span input = key.bytes
  | .paste text => placed.span input = bracketedPasteStart ++ text.toUTF8.toList ++ bracketedPasteEnd
  | .mouse mouse => parseSgrMouseSequence (placed.span input) = some (mouse, (placed.span input).length)

theorem Placed.Carries.shift {input : List UInt8} {offset start past : ℕ} {forward : StdinByteForward}
    (h : Placed.Carries (input.drop offset) ⟨forward, start, past⟩) :
    Placed.Carries input ⟨forward, offset + start, offset + past⟩ := by
  have hspan : Placed.span input ⟨forward, offset + start, offset + past⟩ =
      Placed.span (input.drop offset) ⟨forward, start, past⟩ := by
    simp only [Placed.span, List.drop_drop, Nat.add_sub_add_left]
  cases forward <;> simpa only [Placed.Carries, hspan] using h

/-- What is read of a paste. -/
def pasteContent (input : List UInt8) (start past : ℕ) : List UInt8 :=
  (input.drop (start + bracketedPasteStart.length)).take (past - (start + bracketedPasteStart.length))

/-- A paste is its two markers and what stands between them. -/
theorem pasteSpan {input : List UInt8} {start past : ℕ} (hbegins : OccursAt bracketedPasteStart input start)
    (hends : OccursAt bracketedPasteEnd input past) (hafter : start + bracketedPasteStart.length ≤ past) :
    (input.drop start).take (past + bracketedPasteEnd.length - start) =
      bracketedPasteStart ++ pasteContent input start past ++ bracketedPasteEnd := by
  obtain ⟨count, rfl⟩ : ∃ count, past = start + bracketedPasteStart.length + count :=
    ⟨past - (start + bracketedPasteStart.length), by omega⟩
  rw [pasteContent, Nat.add_sub_cancel_left,
    show start + bracketedPasteStart.length + count + bracketedPasteEnd.length - start =
      bracketedPasteStart.length + (count + bracketedPasteEnd.length) by omega,
    List.take_add, List.take_add, Lib.occursAt_iff_take.mp hbegins, List.drop_drop, List.drop_drop,
    Lib.occursAt_iff_take.mp hends, List.append_assoc]

theorem fromUtf8_toUTF8 {bytes : List UInt8} {text : String} (h : fromUtf8 bytes = some text) :
    text.toUTF8.toList = bytes := by
  rw [fromUtf8, String.fromUTF8?] at h
  split at h
  case isFalse => cases h
  case isTrue =>
    cases h
    rw [Lib.byteArray_toList]
    rfl

theorem fromUtf8_utf8Bytes (text : String) : fromUtf8 (utf8Bytes text) = some text := by
  have hbytes : (⟨(utf8Bytes text).toArray⟩ : ByteArray) = text.toUTF8 := by
    rw [utf8Bytes, Lib.byteArray_toList]
  unfold fromUtf8
  rw [hbytes, String.fromUTF8?]
  split
  case isTrue => rfl
  case isFalse hinvalid => exact absurd text.isValidUTF8 hinvalid

/-! ### A part of a read -/

/-- A complete paste of the read and the text it holds. -/
structure TextPaste (input : List UInt8) (start past : ℕ) (text : String) : Prop where
  complete : CompletePaste input start past
  text : fromUtf8 (pasteContent input start past) = some text

/-- The forwards take a read apart between two places. -/
structure Parted (input : List UInt8) (low high : ℕ) (placed : List Placed) : Prop where
  covers : Consecutive Placed.start Placed.past low high placed
  fits : high ≤ input.length
  carries : ∀ item ∈ placed, item.Carries input
  pastes : ∀ {start past text}, TextPaste input start past text → low ≤ start → start < high →
    (⟨.paste text, start, past + bracketedPasteEnd.length⟩ : Placed) ∈ placed ∨
      ∃ item ∈ placed, item.start < start ∧ start < item.past

theorem Parted.nil {input : List UInt8} {place : ℕ} (h : place ≤ input.length) :
    Parted input place place [] where
  covers := rfl
  fits := h
  carries := fun _ hitem => absurd hitem List.not_mem_nil
  pastes := fun _ hlow hhigh => absurd hhigh (Nat.not_lt.mpr hlow)

/-- A single forward, which is the paste that begins with it if one does. -/
theorem Parted.single {input : List UInt8} {forward : StdinByteForward} {start past : ℕ}
    (hspan : start < past) (hfits : past ≤ input.length)
    (hcarries : Placed.Carries input ⟨forward, start, past⟩)
    (hpaste : ∀ {last text}, TextPaste input start last text →
      forward = .paste text ∧ past = last + bracketedPasteEnd.length) :
    Parted input start past [⟨forward, start, past⟩] where
  covers := ⟨rfl, hspan, rfl⟩
  fits := hfits
  carries := fun other hother => List.mem_singleton.mp hother ▸ hcarries
  pastes := by
    intro place last text htext hlow hhigh
    rcases Nat.eq_or_lt_of_le hlow with rfl | hinside
    · obtain ⟨rfl, rfl⟩ := hpaste htext
      exact .inl (List.mem_singleton_self _)
    · exact .inr ⟨_, List.mem_singleton_self _, hinside, hhigh⟩

theorem Parted.append {input : List UInt8} {low middle high : ℕ} {placed rest : List Placed}
    (h : Parted input low middle placed) (h' : Parted input middle high rest) :
    Parted input low high (placed ++ rest) where
  covers := h.covers.append h'.covers
  fits := h'.fits
  carries := fun item hitem => (List.mem_append.mp hitem).elim (h.carries item) (h'.carries item)
  pastes := by
    intro start past text htext hlow hhigh
    by_cases hplace : start < middle
    · refine (h.pastes htext hlow hplace).imp (List.mem_append_left rest) ?_
      exact fun ⟨item, hitem, hinside⟩ => ⟨item, List.mem_append_left rest hitem, hinside⟩
    · refine (h'.pastes htext (Nat.not_lt.mp hplace) hhigh).imp (List.mem_append_right placed) ?_
      exact fun ⟨item, hitem, hinside⟩ => ⟨item, List.mem_append_right placed hitem, hinside⟩

/-! ### One turn -/

/-- A mouse report or a key covers the bytes it is read from. -/
theorem parseSgrMouseSequence_carries {input : List UInt8} {mouse : SgrMouseInput} {start len : ℕ}
    (h : parseSgrMouseSequence (input.drop start) = some (mouse, len)) :
    Placed.Carries input ⟨.mouse mouse, start, start + len⟩ ∧ start < start + len ∧
      start + len ≤ input.length := by
  obtain ⟨-, hone, hlen, hwhole⟩ := parseSgrMouseSequence_some h
  have htaken : ((input.drop start).take len).length = len := List.length_take_of_le hlen
  rw [List.length_drop] at hlen
  refine ⟨?_, by omega, by omega⟩
  simp only [Placed.Carries, Placed.span, Nat.add_sub_cancel_left]
  rw [htaken, hwhole]

theorem parseTuiKeySequence_carries {input : List UInt8} {key : StdinKeyInput} {start len : ℕ}
    (h : parseTuiKeySequence (input.drop start) = some (key, len)) :
    Placed.Carries input ⟨.key key, start, start + len⟩ ∧ start < start + len ∧
      start + len ≤ input.length := by
  obtain ⟨hfront, rfl, hpos, -⟩ := parseTuiKeySequence_some h
  have hle := hfront.length_le
  rw [List.length_drop] at hle
  refine ⟨?_, by omega, by omega⟩
  simp only [Placed.Carries, Placed.span, Nat.add_sub_cancel_left]
  exact (List.prefix_iff_eq_take.mp hfront).symm

/-- What a turn handles next: the start of a paste, or a mouse report or key that begins before any. -/
inductive Candidate (text : List UInt8) : ℕ → StdinByteForward → ℕ → Prop
  | paste {start : ℕ} : OccursAt bracketedPasteStart text start →
      Candidate text start (.raw []) 0
  | interpreted {start past : ℕ} {forward : StdinByteForward} : forward.isMouseOrKey = true →
      Placed.Carries text ⟨forward, start, past⟩ → start < past → past ≤ text.length →
      ¬ OccursAt bracketedPasteStart text start → Candidate text start forward past

/-- The candidates of a turn, as the loop looks for them. -/
def nextForward (text : List UInt8) : Option (ℕ × StdinByteForward × ℕ) :=
  nextStructuredStdinForward
    ((findBytes text bracketedPasteStart).map fun start => (start, StdinByteForward.raw [], 0))
    ((findSgrMouseSequence text).map fun (start, mouse, past) => (start, StdinByteForward.mouse mouse, past))
    ((findTuiKeySequence text).map fun (start, key, past) => (start, StdinByteForward.key key, past))

/-- No paste begins before what a turn handles next. -/
theorem nextForward_before {text : List UInt8} {place : ℕ} (h : OccursAt bracketedPasteStart text place) :
    ∃ found, nextForward text = some found ∧ found.1 ≤ place ∧
      (found.1 = place → found = (place, .raw [], 0)) := by
  obtain ⟨start, hle, hfind⟩ := findBytes_of_occursAt (by decide) h
  obtain ⟨found, hfound, hcase⟩ := @nextStructuredStdinForward_paste (start, .raw [], 0)
    ((findSgrMouseSequence text).map fun (start, mouse, past) => (start, StdinByteForward.mouse mouse, past))
    ((findTuiKeySequence text).map fun (start, key, past) => (start, StdinByteForward.key key, past))
  refine ⟨found, by rw [nextForward, hfind]; exact hfound, ?_, fun hplace => ?_⟩
  · rcases hcase with rfl | hlt
    · exact hle
    · exact Nat.le_of_lt (Nat.lt_of_lt_of_le hlt hle)
  · rcases hcase with rfl | hlt
    · rw [← hplace]
    · dsimp only at hlt
      omega

theorem nextForward_candidate {text : List UInt8} {start past : ℕ} {forward : StdinByteForward}
    (h : nextForward text = some (start, forward, past)) : Candidate text start forward past := by
  have hpaste : forward.isMouseOrKey = true → ¬ OccursAt bracketedPasteStart text start := by
    intro hforward hoccurs
    obtain ⟨found, hfound, -, hsame⟩ := nextForward_before hoccurs
    obtain rfl := Option.some.inj (hfound.symm.trans h)
    cases hsame rfl
    cases hforward
  rcases nextStructuredStdinForward_mem h with hfrom | hfrom | hfrom
  · obtain ⟨place, hfind, heq⟩ := Option.map_eq_some_iff.mp hfrom
    cases heq
    exact .paste (findBytes_some (by decide) hfind)
  · obtain ⟨⟨place, mouse, past⟩, hfind, heq⟩ := Option.map_eq_some_iff.mp hfrom
    cases heq
    obtain ⟨len, hparse, rfl⟩ := findSgrMouseSequenceFrom_some hfind
    obtain ⟨hcarries, hspan, hfits⟩ := parseSgrMouseSequence_carries hparse
    exact .interpreted rfl hcarries hspan hfits (hpaste rfl)
  · obtain ⟨⟨place, key, past⟩, hfind, heq⟩ := Option.map_eq_some_iff.mp hfrom
    cases heq
    obtain ⟨-, -, len, hparse, rfl⟩ := findTuiKeySequence_some hfind
    obtain ⟨hcarries, hspan, hfits⟩ := parseTuiKeySequence_carries hparse
    exact .interpreted rfl hcarries hspan hfits (hpaste rfl)

theorem Candidate.lt {text : List UInt8} {start past : ℕ} {forward : StdinByteForward}
    (h : Candidate text start forward past) : start < text.length := by
  cases h with
  | paste hoccurs =>
    have hfits := hoccurs.fits (by decide)
    have hpos : 0 < bracketedPasteStart.length := by decide
    omega
  | interpreted _ _ hspan hfits _ => omega

/-- The bytes before what a turn handles next. -/
theorem parted_before {input : List UInt8} {offset startRel past : ℕ} {forward : StdinByteForward}
    (h : nextForward (input.drop offset) = some (startRel, forward, past)) :
    Parted input offset (offset + startRel) (if offset < offset + startRel then
      [⟨.raw ((input.drop offset).take startRel), offset, offset + startRel⟩] else []) := by
  have hlt := (nextForward_candidate h).lt
  rw [List.length_drop] at hlt
  split
  case isFalse hnot =>
    obtain rfl : startRel = 0 := by omega
    exact Parted.nil (by omega)
  case isTrue hbefore =>
    refine Parted.single hbefore (by omega) ?_ fun {past text} htext => ?_
    · show (input.drop offset).take (offset + startRel - offset) = _
      rw [Nat.add_sub_cancel_left]
    · have hbegins := htext.complete.begins
      rw [← Nat.add_zero offset, ← Lib.occursAt_drop] at hbegins
      obtain ⟨found, hfound, hle, -⟩ := nextForward_before hbegins
      obtain rfl := Option.some.inj (hfound.symm.trans h)
      dsimp only at hle
      omega

/-- Nothing is handled in what is left: no paste, mouse report or key begins in it. -/
theorem parted_rest {input : List UInt8} {start : ℕ} (hlt : start < input.length)
    (hpaste : ∀ {past text}, ¬ TextPaste input start past text) :
    Parted input start input.length [⟨.raw (input.drop start), start, input.length⟩] := by
  refine Parted.single hlt (Nat.le_refl _) ?_ fun htext => absurd htext hpaste
  show (input.drop start).take (input.length - start) = input.drop start
  exact List.take_of_length_le (Nat.le_of_eq List.length_drop)

/-- A paste with its end: the text between the markers, or all of it as it is. -/
theorem parted_paste {input : List UInt8} {start endRel : ℕ}
    (hbegins : OccursAt bracketedPasteStart input start)
    (hfind : findBytes (input.drop (start + bracketedPasteStart.length)) bracketedPasteEnd = some endRel) :
    Parted input start (start + bracketedPasteStart.length + endRel + bracketedPasteEnd.length)
      [⟨match fromUtf8 ((input.drop (start + bracketedPasteStart.length)).take endRel) with
        | some text => .paste text
        | none => .raw ((input.drop start).take
            (start + bracketedPasteStart.length + endRel + bracketedPasteEnd.length - start)),
        start, start + bracketedPasteStart.length + endRel + bracketedPasteEnd.length⟩] := by
  have hends := findBytes_some (by decide) hfind
  rw [Lib.occursAt_drop] at hends
  have hfits := hends.fits (by decide)
  have hpos : 0 < bracketedPasteStart.length := by decide
  have hspan := pasteSpan hbegins hends (Nat.le_add_right _ _)
  have hcontent : pasteContent input start (start + bracketedPasteStart.length + endRel) =
      (input.drop (start + bracketedPasteStart.length)).take endRel := by
    rw [pasteContent, Nat.add_sub_cancel_left]
  refine Parted.single (by omega) hfits ?_ fun {past text} htext => ?_
  · rw [hcontent] at hspan
    cases htext : fromUtf8 ((input.drop (start + bracketedPasteStart.length)).take endRel) with
    | none => rfl
    | some text =>
      show (input.drop start).take _ = _
      rw [hspan, fromUtf8_toUTF8 htext]
  · -- the end marker that is found is the first one
    obtain rfl : past = start + bracketedPasteStart.length + endRel := by
      have hafter := htext.complete.after
      have hlast := htext.complete.ends
      obtain ⟨place, rfl⟩ : ∃ place, past = start + bracketedPasteStart.length + place :=
        ⟨past - (start + bracketedPasteStart.length), by omega⟩
      rw [← Lib.occursAt_drop] at hlast
      have hle := findBytes_first (by decide) hfind hlast
      by_contra hne
      exact htext.complete.first _ (Nat.le_add_right _ _) (by omega) hends
    have hread := htext.text
    rw [hcontent] at hread
    exact ⟨by rw [hread], rfl⟩

/-- A turn takes its part of the read apart, and those after it the rest. -/
theorem placedForwardsFrom_parted {fuel : ℕ} {input : List UInt8} {offset : ℕ}
    (hle : offset ≤ input.length) (hfuel : input.length ≤ offset + fuel) :
    Parted input offset input.length (placedForwardsFrom fuel input offset) := by
  induction fuel generalizing offset with
  | zero =>
    obtain rfl : offset = input.length := by omega
    exact Parted.nil (Nat.le_refl _)
  | succ fuel ih =>
    rw [placedForwardsFrom]
    split
    case isFalse =>
      obtain rfl : offset = input.length := by omega
      exact Parted.nil (Nat.le_refl _)
    case isTrue hlt =>
      dsimp only
      split
      case h_1 hnext =>
        refine parted_rest hlt fun {past text} htext => ?_
        have hbegins := htext.complete.begins
        rw [← Nat.add_zero offset, ← Lib.occursAt_drop] at hbegins
        obtain ⟨found, hfound, -⟩ := nextForward_before hbegins
        exact absurd (hfound.symm.trans hnext) (Option.some_ne_none found)
      case h_2 startRel forward endRel hnext =>
        have hbefore := parted_before hnext
        cases nextForward_candidate hnext with
        | interpreted hforward hcarries hspan hpast hnone =>
          rw [List.length_drop] at hpast
          rw [if_pos hforward]
          have hitem := Parted.single (show offset + startRel < offset + endRel by omega)
            (show offset + endRel ≤ input.length by omega) hcarries.shift
            fun htext => absurd (Lib.occursAt_drop.mpr htext.complete.begins) hnone
          exact hbefore.append (hitem.append (ih hitem.fits (by omega)))
        | paste hoccurs =>
          rw [if_neg (by decide)]
          rw [Lib.occursAt_drop] at hoccurs
          have hfits := hoccurs.fits (by decide)
          have hpos : 0 < bracketedPasteStart.length := by decide
          split
          case h_1 hend =>
            refine hbefore.append (parted_rest (by omega) fun {past text} htext => ?_)
            have hlast := htext.complete.ends
            rw [← Nat.add_sub_cancel' htext.complete.after, ← Lib.occursAt_drop] at hlast
            exact findBytes_none (by decide) hend _ hlast
          case h_2 endRel hend =>
            have hpart := parted_paste hoccurs hend
            exact hbefore.append (hpart.append (ih hpart.fits (by omega)))

/-! ### A read -/

/-- The forward takes its bytes from the places between two. -/
def Placed.overlaps (low high : ℕ) (placed : Placed) : Bool :=
  decide (placed.start < high ∧ low < placed.past)

/-- The places of the forwards and the loops behind them. -/
structure Partition (input : List UInt8) (placed : List Placed) : Prop where
  forwards : placed.map Placed.forward = stdinByteForwards input
  covers : Consecutive Placed.start Placed.past 0 input.length placed
  carries : ∀ item ∈ placed, item.Carries input
  pastes : ∀ {start past text}, TextPaste input start past text →
    (∀ item ∈ placed, ¬ (item.start < start ∧ start < item.past)) →
      placed.filter (Placed.overlaps start (past + bracketedPasteEnd.length)) =
        [⟨.paste text, start, past + bracketedPasteEnd.length⟩]
  turns : ∀ fuel, input.length ≤ fuel →
    (placedForwardsFrom fuel input 0).filter (fun item => item.forward.retained) = placed
  mouseTurns : ∀ start fuel, (input.drop start).length ≤ fuel →
    findSgrMouseSequenceFrom fuel (input.drop start) 0 = findSgrMouseSequence (input.drop start)

/-- Nothing is dropped at the end: every forward has bytes. -/
theorem Parted.filter_retained {input : List UInt8} {low high : ℕ} {placed : List Placed}
    (h : Parted input low high placed) : (placed.filter fun item => item.forward.retained) = placed := by
  refine List.filter_eq_self.mpr fun item hitem => ?_
  obtain ⟨-, hspan, hpast⟩ := h.covers.within hitem
  have hcarries := h.carries item hitem
  have hfits := h.fits
  cases hforward : item.forward with
  | raw bytes =>
    simp only [Placed.Carries, hforward] at hcarries
    have hlength := congrArg List.length hcarries
    rw [Placed.span, List.length_take, List.length_drop] at hlength
    cases bytes with
    | nil =>
      rw [List.length_nil] at hlength
      omega
    | cons byte bytes => rfl
  | paste text => rfl
  | mouse mouse => rfl
  | key key => rfl

theorem placedForwardsFrom_over {fuel : ℕ} {input : List UInt8} {offset : ℕ} (h : input.length ≤ offset) :
    placedForwardsFrom fuel input offset = [] := by
  cases fuel with
  | zero => rfl
  | succ fuel => rw [placedForwardsFrom, if_neg (by omega)]

/-- The chain of forwards is determined by the read, whatever bounds the loop. -/
theorem placedForwardsFrom_eq {fuel more : ℕ} {input : List UInt8} {offset : ℕ}
    (hfuel : input.length ≤ offset + fuel) (hmore : input.length ≤ offset + more) :
    placedForwardsFrom fuel input offset = placedForwardsFrom more input offset := by
  induction fuel generalizing offset more with
  | zero => rw [placedForwardsFrom_over (by omega), placedForwardsFrom_over (by omega)]
  | succ fuel ih =>
    cases more with
    | zero => rw [placedForwardsFrom_over (by omega), placedForwardsFrom_over (by omega)]
    | succ more =>
      rw [placedForwardsFrom, placedForwardsFrom]
      split
      case isFalse => rfl
      case isTrue hlt =>
        dsimp only
        split
        case h_1 => rfl
        case h_2 startRel forward endRel hnext =>
          cases nextForward_candidate hnext with
          | interpreted hforward _ hspan _ _ =>
            rw [if_pos hforward, if_pos hforward, @ih more _ (by omega) (by omega)]
          | paste hoccurs =>
            have hpos : 0 < bracketedPasteStart.length := by decide
            have hraw : ¬ (StdinByteForward.raw []).isMouseOrKey = true := by decide
            rw [if_neg hraw, if_neg hraw]
            split
            case h_1 => rfl
            case h_2 => rw [@ih more _ (by omega) (by omega)]

/-- **The forwards of a read are a lossless partition of it.** They follow each other without a gap from
its first byte to its last, each carries the bytes it comes from, a complete paste that does not begin
inside an earlier forward is the only forward of its bytes, and the loops end by themselves. -/
theorem stdinByteForwards_partition (input : List UInt8) : Partition input (placedForwards input) := by
  have hparted : Parted input 0 input.length (placedForwardsFrom input.length input 0) :=
    placedForwardsFrom_parted (Nat.zero_le _) (Nat.le_add_left _ _)
  have hplaced : placedForwards input = placedForwardsFrom input.length input 0 := hparted.filter_retained
  refine ⟨rfl, hplaced ▸ hparted.covers, hplaced ▸ hparted.carries, ?_, ?_, ?_⟩
  · intro start past text htext hnone
    have hfits := htext.complete.begins.fits (by decide)
    rw [hplaced] at hnone ⊢
    have hpos : 0 < bracketedPasteStart.length := by decide
    rcases hparted.pastes htext (Nat.zero_le _) (by omega) with hmem | ⟨item, hitem, hinside⟩
    · exact hparted.covers.filter_overlap hmem
    · exact absurd hinside (hnone item hitem)
  · intro fuel hfuel
    rw [placedForwards, @placedForwardsFrom_eq fuel input.length input 0 (by omega) (by omega)]
  · intro start fuel hfuel
    rw [findSgrMouseSequence, findSgrMouseSequenceFrom_eq (by omega), findSgrMouseSequenceFrom_eq (by omega)]

end Nmux.Tui
