import Nmux.Tui.Stdin
import Mathlib.Data.List.TakeWhile

/-! Whether typed input depends on how the terminal delivers it. A construct is what takes more than
one byte to recognise: the start of a paste, a key of several bytes, a mouse report. Without one every
byte is handled by itself, and cuts change nothing; with one, a read that holds it whole and reads of
single bytes are handled differently. -/
namespace Nmux.Tui

open Lib (OccursAt)

/-! ### Searching -/

theorem findBytes_of_ne {haystack needle : List UInt8} (h : needle ≠ []) :
    findBytes haystack needle =
      (Lib.windows needle.length haystack).findIdx? fun window => window == needle := by
  rw [findBytes, if_neg (by simpa using h)]

theorem findBytes_none {haystack needle : List UInt8} (hne : needle ≠ [])
    (h : findBytes haystack needle = none) (start : ℕ) : ¬ OccursAt needle haystack start := by
  rw [findBytes_of_ne hne, List.findIdx?_eq_none_iff] at h
  intro hoccurs
  simpa using h needle (hoccurs.mem_windows hne)

theorem findBytes_some {haystack needle : List UInt8} {start : ℕ} (hne : needle ≠ [])
    (h : findBytes haystack needle = some start) : OccursAt needle haystack start := by
  rw [findBytes_of_ne hne, List.findIdx?_eq_some_iff_getElem] at h
  obtain ⟨hlt, hwindow, -⟩ := h
  rw [beq_iff_eq] at hwindow
  simp only [Lib.windows, List.getElem_map, List.getElem_range] at hwindow
  exact Lib.occursAt_iff_take.mpr hwindow

theorem findBytes_front {haystack needle : List UInt8} (hne : needle ≠ [])
    (h : needle <+: haystack) : findBytes haystack needle = some 0 := by
  have hoccurs : OccursAt needle haystack 0 := h
  have hfits := hoccurs.fits hne
  rw [findBytes_of_ne hne, List.findIdx?_eq_some_iff_getElem]
  refine ⟨?_, ?_, ?_⟩
  · rw [Lib.windows, List.length_map, List.length_range]
    omega
  · simp only [Lib.windows, List.getElem_map, List.getElem_range]
    exact beq_iff_eq.mpr (Lib.occursAt_iff_take.mp hoccurs)
  · intro j hj
    exact absurd hj (Nat.not_lt_zero j)

/-! ### Keys and mouse reports -/

theorem keyCandidates_parse : ∀ candidate ∈ keyCandidates, 0 < candidate.1.length ∧
    parseTuiKeySequence candidate.1 = some (⟨candidate.2, candidate.1⟩, candidate.1.length) := by
  decide

/-- A recognised key is a candidate at the front of the input. -/
theorem parseTuiKeySequence_some {input : List UInt8} {key : StdinKeyInput} {len : ℕ}
    (h : parseTuiKeySequence input = some (key, len)) :
    key.bytes <+: input ∧ key.bytes.length = len ∧ 0 < len ∧
      parseTuiKeySequence key.bytes = some (key, len) := by
  obtain ⟨candidate, hfound, hkey⟩ := Option.map_eq_some_iff.mp h
  obtain ⟨rfl, rfl⟩ := Prod.mk.inj hkey
  have hparse := keyCandidates_parse candidate (List.mem_of_find?_eq_some hfound)
  have hfront := List.find?_some hfound
  exact ⟨List.isPrefixOf_iff_prefix.mp hfront, rfl, hparse.1, hparse.2⟩

theorem parseTuiKeySequence_none {first : UInt8} {rest : List UInt8}
    (h : parseTuiKeySequence (first :: rest) = none) : parseTuiKeySequence [first] = none := by
  rw [parseTuiKeySequence, Option.map_eq_none_iff, List.find?_eq_none] at h ⊢
  intro candidate hmem hfront
  refine h candidate hmem (List.isPrefixOf_iff_prefix.mpr ?_)
  exact (List.isPrefixOf_iff_prefix.mp hfront).trans ⟨rest, rfl⟩

/-- A recognised mouse report is the bytes up to its first final byte. -/
theorem parseSgrMouseSequence_some {input : List UInt8} {mouse : SgrMouseInput} {len : ℕ}
    (h : parseSgrMouseSequence input = some (mouse, len)) :
    sgrMouseStart <+: input ∧ 1 < len ∧ len ≤ input.length ∧
      parseSgrMouseSequence (input.take len) = some (mouse, len) := by
  rw [parseSgrMouseSequence] at h
  split at h
  case isFalse => cases h
  case isTrue hstart =>
    obtain ⟨rest, rfl⟩ := List.isPrefixOf_iff_prefix.mp hstart
    dsimp only at h
    rw [List.drop_left] at h
    split at h
    case h_1 => cases h
    case h_2 finalByte more hrest =>
      obtain ⟨_, hmouse, hpair⟩ := Option.map_eq_some_iff.mp h
      obtain ⟨rfl, rfl⟩ := Prod.mk.inj hpair
      have hsplit : rest = rest.takeWhile isParamByte ++ finalByte :: more := by
        rw [← hrest, List.takeWhile_append_dropWhile]
      have hfinal : isParamByte finalByte = false := by
        have := List.head?_dropWhile_not isParamByte rest
        rw [hrest] at this
        simpa using this
      have hparam : ∀ byte ∈ rest.takeWhile isParamByte, isParamByte byte = true :=
        List.all_eq_true.mp List.all_takeWhile
      generalize rest.takeWhile isParamByte = params at *
      subst hsplit
      have hlength : (sgrMouseStart ++ (params ++ finalByte :: more)).length =
          sgrMouseStart.length + params.length + 1 + more.length := by
        simp only [List.length_append, List.length_cons]
        omega
      have htake : (sgrMouseStart ++ (params ++ finalByte :: more)).take
          (sgrMouseStart.length + params.length + 1) = sgrMouseStart ++ (params ++ [finalByte]) := by
        rw [show sgrMouseStart ++ (params ++ finalByte :: more) =
          (sgrMouseStart ++ (params ++ [finalByte])) ++ more by simp]
        refine List.take_left' ?_
        simp only [List.length_append, List.length_cons, List.length_nil]
        omega
      refine ⟨⟨_, rfl⟩, Nat.lt_add_left_iff_pos.mpr (by show 0 < 3 + params.length; omega), by omega, ?_⟩
      rw [htake, parseSgrMouseSequence, if_pos (List.isPrefixOf_iff_prefix.mpr ⟨_, rfl⟩)]
      dsimp only
      rw [List.drop_left, List.takeWhile_append_of_pos hparam, List.dropWhile_append_of_pos hparam,
        List.takeWhile_cons_of_neg (by simp [hfinal]), List.dropWhile_cons_of_neg (by simp [hfinal]),
        List.append_nil]
      dsimp only
      rw [hmouse, Option.map_some]

theorem findSgrMouseSequenceFrom_some {fuel : ℕ} {input : List UInt8} {searchOffset start past : ℕ}
    {mouse : SgrMouseInput}
    (h : findSgrMouseSequenceFrom fuel input searchOffset = some (start, mouse, past)) :
    ∃ len, parseSgrMouseSequence (input.drop start) = some (mouse, len) ∧ past = start + len := by
  induction fuel generalizing searchOffset with
  | zero => cases h
  | succ fuel ih =>
    rw [findSgrMouseSequenceFrom] at h
    split at h
    case isFalse => cases h
    case isTrue =>
      obtain ⟨startRel, -, hfound⟩ := Option.bind_eq_some_iff.mp h
      dsimp only at hfound
      split at hfound
      case h_1 found len hparse =>
        cases hfound
        exact ⟨len, hparse, rfl⟩
      case h_2 => exact ih hfound

theorem findSgrMouseSequence_front {input : List UInt8} {mouse : SgrMouseInput} {len : ℕ}
    (h : parseSgrMouseSequence input = some (mouse, len)) :
    findSgrMouseSequence input = some (0, mouse, len) := by
  obtain ⟨hstart, hone, hlen, -⟩ := parseSgrMouseSequence_some h
  obtain ⟨fuel, hfuel⟩ := Nat.exists_eq_succ_of_ne_zero (show input.length ≠ 0 by omega)
  rw [findSgrMouseSequence, hfuel, findSgrMouseSequenceFrom, if_pos (by omega), List.drop_zero,
    findBytes_front (by decide) hstart]
  dsimp only [Option.bind_eq_bind, Option.bind_some]
  rw [Nat.zero_add, List.drop_zero, h]
  dsimp only
  rw [Nat.zero_add]

/-- The first key of the input, or none in all of it. -/
theorem findTuiKeySequence_some {input : List UInt8} {key : StdinKeyInput} {start past : ℕ}
    (h : findTuiKeySequence input = some (start, key, past)) :
    start < input.length ∧ (∀ earlier < start, parseTuiKeySequence (input.drop earlier) = none) ∧
      ∃ len, parseTuiKeySequence (input.drop start) = some (key, len) ∧ past = start + len := by
  obtain ⟨place, hlt, hfound, hearlier⟩ := Lib.findSome?_range h
  obtain ⟨⟨parsed, len⟩, hparse, heq⟩ := Option.map_eq_some_iff.mp hfound
  cases heq
  refine ⟨hlt, fun earlier hplace => ?_, len, hparse, rfl⟩
  exact Option.map_eq_none_iff.mp (hearlier earlier hplace)

theorem findTuiKeySequence_none {input : List UInt8} (h : findTuiKeySequence input = none) (start : ℕ)
    (hlt : start < input.length) : parseTuiKeySequence (input.drop start) = none :=
  Option.map_eq_none_iff.mp (List.findSome?_eq_none_iff.mp h start (List.mem_range.mpr hlt))

/-! ### Constructs -/

/-- Bytes that mean something else together than one by one. -/
inductive Construct : List UInt8 → Prop
  | pasteStart : Construct bracketedPasteStart
  | key {bytes : List UInt8} {key : StdinKeyInput} :
      parseTuiKeySequence bytes = some (key, bytes.length) → 1 < bytes.length → Construct bytes
  | mouse {bytes : List UInt8} {mouse : SgrMouseInput} :
      parseSgrMouseSequence bytes = some (mouse, bytes.length) → bytes.length ≤ 1024 → Construct bytes

/-- No construct stands in the bytes. -/
def Plain (bytes : List UInt8) : Prop := ∀ part, Construct part → ¬ part <:+: bytes

theorem Plain.part {bytes part : List UInt8} (h : Plain bytes) (hpart : part <:+: bytes) : Plain part :=
  fun construct hconstruct hwithin => h construct hconstruct (hwithin.trans hpart)

theorem Construct.two {bytes : List UInt8} (h : Construct bytes) : 1 < bytes.length := by
  cases h with
  | pasteStart => decide
  | key _ hlen => exact hlen
  | mouse hparse _ => exact (parseSgrMouseSequence_some hparse).2.1

theorem plain_singleton (byte : UInt8) : Plain [byte] := by
  intro part hpart hwithin
  have hlen := hwithin.length_le
  have := hpart.two
  simp only [List.length_singleton] at hlen
  omega

theorem Construct.short {bytes : List UInt8} (h : Construct bytes) : bytes.length ≤ 1024 := by
  cases h with
  | pasteStart => decide
  | mouse _ hlen => exact hlen
  | key hparse _ =>
    obtain ⟨candidate, hfound, hkey⟩ := Option.map_eq_some_iff.mp hparse
    have hall : ∀ candidate ∈ keyCandidates, candidate.1.length ≤ 1024 := by decide
    rw [← (Prod.mk.inj hkey).2]
    exact hall candidate (List.mem_of_find?_eq_some hfound)

/-- What is made of a byte on its own. -/
def byteForward (byte : UInt8) : StdinByteForward :=
  match parseTuiKeySequence [byte] with
  | some (key, _) => .key key
  | none => .raw [byte]

/-! ### Pieces

Raw forwards cut into single bytes. Two runs of forwards merge to the same one exactly when their
pieces are the same. -/

def StdinByteForward.pieces : StdinByteForward → List StdinByteForward
  | .raw bytes => bytes.map fun byte => .raw [byte]
  | forward => [forward]

def pieces (forwards : List StdinByteForward) : List StdinByteForward :=
  forwards.flatMap StdinByteForward.pieces

theorem pieces_cons (forward : StdinByteForward) (rest : List StdinByteForward) :
    pieces (forward :: rest) = forward.pieces ++ pieces rest := List.flatMap_cons

theorem pieces_append (left right : List StdinByteForward) :
    pieces (left ++ right) = pieces left ++ pieces right := List.flatMap_append

theorem pieces_mergeForward (forward : StdinByteForward) (rest : List StdinByteForward) :
    pieces (mergeForward forward rest) = forward.pieces ++ pieces rest := by
  unfold mergeForward
  split
  · rw [pieces_cons, pieces_cons, ← List.append_assoc]
    congr 1
    exact List.map_append
  · rfl
  · exact pieces_cons forward rest

theorem pieces_mergeRaw (forwards : List StdinByteForward) : pieces (mergeRaw forwards) = pieces forwards := by
  induction forwards with
  | nil => rfl
  | cons forward rest ih =>
    rw [mergeRaw, List.foldr_cons, pieces_mergeForward, pieces_cons, ← ih, mergeRaw]

theorem mergeForward_cons (byte : UInt8) (bytes : List UInt8) (rest : List StdinByteForward) :
    mergeForward (.raw (byte :: bytes)) rest = mergeForward (.raw [byte]) (mergeForward (.raw bytes) rest) := by
  cases bytes with
  | nil => cases rest with
    | nil => rfl
    | cons next rest => cases next <;> rfl
  | cons second bytes => cases rest with
    | nil => rfl
    | cons next rest => cases next <;> rfl

theorem mergeRaw_pieces_append (forward : StdinByteForward) (rest : List StdinByteForward) :
    mergeRaw (forward.pieces ++ rest) = mergeForward forward (mergeRaw rest) := by
  cases forward with
  | raw bytes =>
    induction bytes with
    | nil =>
      show mergeRaw rest = mergeForward (.raw []) (mergeRaw rest)
      cases mergeRaw rest with
      | nil => rfl
      | cons next rest => cases next <;> rfl
    | cons byte bytes ih =>
      rw [mergeForward_cons, ← ih]
      rfl
  | paste text => rfl
  | mouse mouse => rfl
  | key key => rfl

theorem mergeRaw_pieces (forwards : List StdinByteForward) : mergeRaw (pieces forwards) = mergeRaw forwards := by
  induction forwards with
  | nil => rfl
  | cons forward rest ih =>
    rw [pieces_cons, mergeRaw_pieces_append, ih]
    rfl

theorem mergeRaw_eq_iff {left right : List StdinByteForward} :
    mergeRaw left = mergeRaw right ↔ pieces left = pieces right := by
  constructor
  · intro h
    rw [← pieces_mergeRaw left, h, pieces_mergeRaw]
  · intro h
    rw [← mergeRaw_pieces left, h, mergeRaw_pieces]

/-! ### A read without constructs -/

theorem Plain.findBytes {input : List UInt8} (h : Plain input) (offset : ℕ) :
    findBytes (input.drop offset) bracketedPasteStart = none := by
  cases hfound : Tui.findBytes (input.drop offset) bracketedPasteStart with
  | none => rfl
  | some start =>
    have hwithin := (findBytes_some (by decide) hfound).isInfix
    exact absurd (hwithin.trans (List.drop_suffix offset input).isInfix) (h _ .pasteStart)

theorem Plain.findSgrMouseSequence {input : List UInt8} (h : Plain input) (hshort : input.length ≤ 1024)
    (offset : ℕ) : findSgrMouseSequence (input.drop offset) = none := by
  cases hfound : Tui.findSgrMouseSequence (input.drop offset) with
  | none => rfl
  | some found =>
    obtain ⟨start, mouse, past⟩ := found
    obtain ⟨len, hparse, -⟩ := findSgrMouseSequenceFrom_some hfound
    rw [List.drop_drop] at hparse
    obtain ⟨-, -, hlen, hwhole⟩ := parseSgrMouseSequence_some hparse
    have htaken : ((input.drop (offset + start)).take len).length = len := List.length_take_of_le hlen
    have hle : len ≤ 1024 := by
      rw [List.length_drop] at hlen
      omega
    refine absurd ?_ (h _ (.mouse (by rw [htaken]; exact hwhole) (by rw [htaken]; exact hle)))
    exact (List.take_prefix len _).isInfix.trans (List.drop_suffix _ input).isInfix

theorem byteForward_of_none {byte : UInt8} {rest : List UInt8}
    (h : parseTuiKeySequence (byte :: rest) = none) : byteForward byte = .raw [byte] := by
  rw [byteForward, parseTuiKeySequence_none h]

/-- A key of a read without constructs is one byte long. -/
theorem Plain.byteForward_of_some {byte : UInt8} {rest : List UInt8} {key : StdinKeyInput} {len : ℕ}
    (h : Plain (byte :: rest)) (hparse : parseTuiKeySequence (byte :: rest) = some (key, len)) :
    len = 1 ∧ byteForward byte = .key key := by
  obtain ⟨hfront, hlen, hpos, hkey⟩ := parseTuiKeySequence_some hparse
  have hone : len = 1 := by
    by_contra hne
    exact h key.bytes (.key (by rw [hlen]; exact hkey) (by omega)) hfront.isInfix
  obtain ⟨first, hbytes⟩ := List.length_eq_one_iff.mp (hlen.trans hone)
  rw [hbytes, List.cons_prefix_cons] at hfront
  rw [hbytes, hfront.1] at hkey
  exact ⟨hone, by rw [byteForward, hkey]⟩

theorem pieces_raw (bytes : List UInt8) : pieces [.raw bytes] = bytes.map fun byte => .raw [byte] :=
  List.append_nil _

theorem map_byteForward_of_none {bytes : List UInt8} {count : ℕ} (hcount : count ≤ bytes.length)
    (h : ∀ place < count, parseTuiKeySequence (bytes.drop place) = none) :
    (bytes.take count).map byteForward = (bytes.take count).map fun byte => .raw [byte] := by
  refine List.map_congr_left fun byte hbyte => ?_
  obtain ⟨place, hplace, rfl⟩ := List.mem_take_iff_getElem.mp hbyte
  have hnone := h place (by omega)
  rw [List.drop_eq_getElem_cons (by omega)] at hnone
  exact byteForward_of_none hnone

/-- Without constructs each byte is handled by itself. -/
theorem Plain.pieces_from {fuel : ℕ} {input : List UInt8} {offset : ℕ} (h : Plain input)
    (hshort : input.length ≤ 1024) (hfuel : input.length ≤ offset + fuel) :
    pieces ((placedForwardsFrom fuel input offset).map Placed.forward) =
      (input.drop offset).map byteForward := by
  induction fuel generalizing offset with
  | zero => rw [List.drop_eq_nil_of_le (by omega)]; rfl
  | succ fuel ih =>
    rw [placedForwardsFrom]
    by_cases hlt : offset < input.length
    case neg => rw [if_neg hlt, List.drop_eq_nil_of_le (by omega)]; rfl
    rw [if_pos hlt]
    dsimp only
    rw [h.findBytes, h.findSgrMouseSequence hshort]
    cases hkey : findTuiKeySequence (input.drop offset) with
    | none =>
      show pieces [.raw (input.drop offset)] = _
      have hnone := map_byteForward_of_none (Nat.le_refl _) (findTuiKeySequence_none hkey)
      rw [List.take_length] at hnone
      rw [pieces_raw, hnone]
    | some found =>
      obtain ⟨start, key, past⟩ := found
      obtain ⟨hstart, hearlier, len, hparse, rfl⟩ := findTuiKeySequence_some hkey
      have hrest := List.drop_eq_getElem_cons hstart
      rw [hrest] at hparse
      have hplain : Plain (input.drop offset) := h.part (List.drop_suffix offset input).isInfix
      obtain ⟨rfl, hbyte⟩ := (hplain.part
        (hrest ▸ (List.drop_suffix start _).isInfix)).byteForward_of_some hparse
      have hbefore : pieces ((if offset < offset + start then
          [(⟨.raw ((input.drop offset).take start), offset, offset + start⟩ : Placed)] else []).map
            Placed.forward) = ((input.drop offset).take start).map byteForward := by
        rw [map_byteForward_of_none (by omega) hearlier]
        split
        · exact pieces_raw _
        · rw [show start = 0 by omega]
          rfl
      show pieces ((_ ++ (⟨.key key, offset + start, offset + (start + 1)⟩ : Placed) ::
        placedForwardsFrom fuel input (offset + (start + 1))).map Placed.forward) = _
      rw [List.map_append, pieces_append, hbefore, List.map_cons, pieces_cons, ih (by omega)]
      conv_rhs => rw [← List.take_append_drop start (input.drop offset), hrest]
      rw [List.map_append, List.map_cons, hbyte, List.drop_drop]
      rfl

theorem pieces_filter_retained (placed : List Placed) :
    pieces ((placed.filter fun placed => placed.forward.retained).map Placed.forward) =
      pieces (placed.map Placed.forward) := by
  induction placed with
  | nil => rfl
  | cons first rest ih =>
    cases hretained : first.forward.retained with
    | true =>
      rw [List.filter_cons, if_pos hretained, List.map_cons, List.map_cons, pieces_cons, pieces_cons, ih]
    | false =>
      have hempty : first.forward.pieces = [] := by
        cases hforward : first.forward with
        | raw bytes =>
          rw [hforward] at hretained
          rw [show bytes = [] by simpa [StdinByteForward.retained] using hretained]
          rfl
        | _ => rw [hforward] at hretained; cases hretained
      rw [List.filter_cons, if_neg (by simp [hretained]), List.map_cons, pieces_cons, hempty, ih]
      rfl

theorem Plain.pieces_forwards {input : List UInt8} (h : Plain input) (hshort : input.length ≤ 1024) :
    pieces (stdinByteForwards input) = input.map byteForward := by
  rw [stdinByteForwards, placedForwards, pieces_filter_retained, h.pieces_from hshort (by omega),
    List.drop_zero]

/-! ### A construct read whole -/

theorem nextStructuredStdinForward_mem {paste mouse key : Option (ℕ × StdinByteForward × ℕ)}
    {found : ℕ × StdinByteForward × ℕ} (h : nextStructuredStdinForward paste mouse key = some found) :
    paste = some found ∨ mouse = some found ∨ key = some found := by
  have hearlier : ∀ {left right : Option (ℕ × StdinByteForward × ℕ)} {found},
      earlierCandidate left right = some found → left = some found ∨ right = some found := by
    intro left right found h
    unfold earlierCandidate at h
    split at h
    · exact Or.inr h
    · exact Or.inl h
    · split at h
      · exact Or.inr h
      · exact Or.inl h
  rcases hearlier h with h | h
  · exact (hearlier h).imp_right Or.inl
  · exact Or.inr (Or.inr h)

/-- A mouse report at the front comes before everything else. -/
theorem nextStructuredStdinForward_mouse {paste key : Option (ℕ × StdinByteForward × ℕ)}
    {forward : StdinByteForward} {past : ℕ} (hpaste : ∀ found, paste = some found → found.1 ≠ 0) :
    nextStructuredStdinForward paste (some (0, forward, past)) key = some (0, forward, past) := by
  have hfirst : earlierCandidate paste (some (0, forward, past)) = some (0, forward, past) := by
    cases paste with
    | none => rfl
    | some found => exact if_pos (Nat.pos_of_ne_zero (hpaste found rfl))
  rw [nextStructuredStdinForward, hfirst]
  cases key with
  | none => rfl
  | some found =>
    show (if found.1 < 0 then some found else some (0, forward, past)) = _
    rw [if_neg (Nat.not_lt_zero _)]

theorem placedForwardsFrom_end (fuel : ℕ) (input : List UInt8) :
    placedForwardsFrom fuel input input.length = [] := by
  cases fuel with
  | zero => rfl
  | succ fuel => rw [placedForwardsFrom, if_neg (Nat.lt_irrefl _)]

theorem stdinByteForwards_mouse {input : List UInt8} {mouse : SgrMouseInput}
    (h : parseSgrMouseSequence input = some (mouse, input.length)) :
    stdinByteForwards input = [.mouse mouse] := by
  obtain ⟨hstart, hlen, -, -⟩ := parseSgrMouseSequence_some h
  obtain ⟨fuel, hfuel⟩ := Nat.exists_eq_succ_of_ne_zero (show input.length ≠ 0 by omega)
  have hpaste : ∀ found, ((findBytes input bracketedPasteStart).map fun start =>
      (start, StdinByteForward.raw [], 0)) = some found → found.1 ≠ 0 := by
    intro found hfound hzero
    obtain ⟨start, hfind, rfl⟩ := Option.map_eq_some_iff.mp hfound
    cases hzero
    have hfront : bracketedPasteStart <+: input := findBytes_some (by decide) hfind
    have hle := List.prefix_of_prefix_length_le hstart hfront (by decide)
    exact absurd hle (by decide)
  have hloop : placedForwardsFrom (fuel + 1) input 0 = [⟨.mouse mouse, 0, input.length⟩] := by
    rw [placedForwardsFrom, if_pos (by omega), List.drop_zero, findSgrMouseSequence_front h]
    dsimp only
    rw [Option.map_some, nextStructuredStdinForward_mouse hpaste]
    dsimp only
    rw [if_pos (show (StdinByteForward.mouse mouse).isMouseOrKey = true from rfl), if_neg (by omega)]
    simp only [Nat.zero_add, List.nil_append, placedForwardsFrom_end]
  rw [stdinByteForwards, placedForwards, hfuel, hloop]
  rfl

/-- Read whole, a construct is not handled byte by byte. -/
theorem Construct.pieces_ne {bytes : List UInt8} (h : Construct bytes) :
    pieces (stdinByteForwards bytes) ≠ bytes.map byteForward := by
  have hlen := h.two
  cases h with
  | pasteStart => decide +kernel
  | key hparse _ =>
    have hkeys : ∀ candidate ∈ keyCandidates, 1 < candidate.1.length →
        pieces (stdinByteForwards candidate.1) ≠ candidate.1.map byteForward := by decide +kernel
    obtain ⟨candidate, hfound, hkey⟩ := Option.map_eq_some_iff.mp hparse
    have hfirst := List.find?_some hfound
    have hfront : candidate.1 <+: bytes := List.isPrefixOf_iff_prefix.mp hfirst
    rw [← hfront.eq_of_length (Prod.mk.inj hkey).2] at hlen ⊢
    exact hkeys candidate (List.mem_of_find?_eq_some hfound) hlen
  | mouse hparse _ =>
    intro heq
    have hcount := congrArg List.length heq
    rw [stdinByteForwards_mouse hparse, List.length_map] at hcount
    exact absurd hcount (Nat.ne_of_lt hlen)

/-! ### A run of reads -/

/-- The bytes before the first detach byte. -/
def upTo (key : DetachKey) (bytes : List UInt8) : List UInt8 :=
  bytes.takeWhile fun byte => key.byte != some byte

theorem upTo_isPrefix (key : DetachKey) (bytes : List UInt8) : upTo key bytes <+: bytes :=
  List.takeWhile_prefix _

theorem upTo_eq_self_iff {key : DetachKey} {bytes : List UInt8} :
    upTo key bytes = bytes ↔ ∀ byte ∈ bytes, key.byte ≠ some byte := by
  simp only [upTo, List.takeWhile_eq_self_iff, bne_iff_ne]

theorem upTo_append {key : DetachKey} {left right : List UInt8} (h : upTo key left = left) :
    upTo key (left ++ right) = left ++ upTo key right :=
  List.takeWhile_append_of_pos (List.takeWhile_eq_self_iff.mp h)

theorem upTo_append_of_ne {key : DetachKey} {left right : List UInt8} (h : upTo key left ≠ left) :
    upTo key (left ++ right) = upTo key left := by
  rw [upTo, upTo, List.takeWhile_append, if_neg]
  intro hlen
  exact h ((List.takeWhile_prefix _).eq_of_length hlen)

/-- A read is cut at its first detach byte, and detaches when it has one. -/
theorem splitStdinBytesForDetach_eq (key : DetachKey) (read : List UInt8) :
    (splitStdinBytesForDetach read key.byte).1.getD [] = upTo key read ∧
      ((splitStdinBytesForDetach read key.byte).2 = true ↔ upTo key read ≠ read) := by
  cases key with
  | none =>
    rw [upTo_eq_self_iff.mpr fun byte _ h => by cases h]
    exact ⟨rfl, iff_of_false Bool.false_ne_true fun h => h rfl⟩
  | ctrlRightBracket =>
    rw [DetachKey.byte, splitStdinBytesForDetach]
    cases hfound : read.findIdx? fun byte => byte == stdinBytesDetach with
    | none =>
      have hnone := List.findIdx?_eq_none_iff.mp hfound
      rw [upTo_eq_self_iff.mpr fun byte hbyte h => by simpa [Option.some.inj h] using hnone byte hbyte]
      exact ⟨rfl, iff_of_false Bool.false_ne_true fun h => h rfl⟩
    | some index =>
      obtain ⟨hlt, hdetach, hbefore⟩ := List.findIdx?_eq_some_iff_getElem.mp hfound
      have htake : upTo .ctrlRightBracket read = read.take index := by
        conv_lhs => rw [← List.take_append_drop index read, List.drop_eq_getElem_cons hlt]
        rw [upTo, List.takeWhile_append_of_pos, List.takeWhile_cons_of_neg, List.append_nil]
        · rw [beq_iff_eq.mp hdetach]
          decide
        · intro byte hbyte
          obtain ⟨place, hplace, rfl⟩ := List.mem_take_iff_getElem.mp hbyte
          have hne := hbefore place (by omega)
          refine bne_iff_ne.mpr fun heq => hne ?_
          exact beq_iff_eq.mpr (Option.some.inj heq).symm
      have hne : upTo .ctrlRightBracket read ≠ read := by
        intro heq
        have hlength := congrArg List.length (htake.symm.trans heq)
        rw [List.length_take] at hlength
        omega
      rw [htake] at hne ⊢
      dsimp only
      split
      case isTrue hempty => exact ⟨(List.isEmpty_iff.mp hempty).symm, iff_of_true rfl hne⟩
      case isFalse => exact ⟨rfl, iff_of_true rfl hne⟩

/-- What is handled of one read, placed in the stream. -/
def handledRead (offset : ℕ) (input : List UInt8) : List Handled :=
  (placedForwards input).map fun placed =>
    .forward { placed with start := offset + placed.start, past := offset + placed.past }

theorem handledFrom_cons (key : DetachKey) (offset : ℕ) (read : List UInt8) (reads : List (List UInt8)) :
    handledFrom key offset (read :: reads) = handledRead offset (upTo key read) ++
      if upTo key read = read then handledFrom key (offset + read.length) reads
      else [.detach (offset + (upTo key read).length)] := by
  obtain ⟨hinput, hdetach⟩ := splitStdinBytesForDetach_eq key read
  have hforwards : ∀ input : Option (List UInt8),
      (input.map placedForwards).getD [] = placedForwards (input.getD []) := by
    intro input
    cases input <;> rfl
  have hlength : ∀ input : Option (List UInt8), (input.map List.length).getD 0 = (input.getD []).length := by
    intro input
    cases input <;> rfl
  rw [handledFrom]
  dsimp only
  rw [hforwards, hlength, hinput]
  by_cases h : upTo key read = read
  · rw [if_pos h, if_neg fun hd => hdetach.mp hd h]
    rfl
  · rw [if_neg h, if_pos (hdetach.mpr h)]
    rfl

theorem filterMap_handledRead (offset : ℕ) (input : List UInt8) :
    (handledRead offset input).filterMap Handled.forward? = stdinByteForwards input := by
  rw [handledRead, List.filterMap_map, stdinByteForwards, ← List.filterMap_eq_map]
  rfl

theorem forwards_offset (key : DetachKey) (offset : ℕ) (reads : List (List UInt8)) :
    (handledFrom key offset reads).filterMap Handled.forward? = forwardsOf key reads := by
  suffices h : ∀ other, (handledFrom key offset reads).filterMap Handled.forward? =
      (handledFrom key other reads).filterMap Handled.forward? from h 0
  induction reads generalizing offset with
  | nil => intro other; rfl
  | cons read reads ih =>
    intro other
    rw [handledFrom_cons, handledFrom_cons, List.filterMap_append, List.filterMap_append,
      filterMap_handledRead, filterMap_handledRead]
    split
    · rw [ih]
    · rfl

theorem forwardsOf_cons (key : DetachKey) (read : List UInt8) (reads : List (List UInt8)) :
    forwardsOf key (read :: reads) =
      stdinByteForwards (upTo key read) ++ if upTo key read = read then forwardsOf key reads else [] := by
  rw [forwardsOf, handledFrom_cons, List.filterMap_append, filterMap_handledRead]
  split
  · rw [forwards_offset]
  · rfl

/-- Reads without constructs are handled byte by byte, up to the detach. -/
theorem pieces_forwardsOf {key : DetachKey} {reads : List (List UInt8)}
    (h : ∀ before read after, reads = before ++ read :: after →
      upTo key before.flatten = before.flatten → Plain (upTo key read) ∧ read.length ≤ 1024) :
    pieces (forwardsOf key reads) = (upTo key reads.flatten).map byteForward := by
  induction reads with
  | nil => rfl
  | cons read reads ih =>
    obtain ⟨hplain, hshort⟩ := h [] read reads rfl rfl
    have hle : (upTo key read).length ≤ 1024 := (upTo_isPrefix key read).length_le.trans hshort
    rw [forwardsOf_cons, pieces_append, hplain.pieces_forwards hle, List.flatten_cons]
    by_cases hread : upTo key read = read
    · have hreads := ih fun before other after hreads hbefore => h (read :: before) other after
        (by rw [hreads]; rfl) (by rw [List.flatten_cons, upTo_append hread, hbefore])
      rw [if_pos hread, hreads, upTo_append hread, List.map_append, hread]
    · rw [if_neg hread, upTo_append_of_ne hread]
      exact List.append_nil _

theorem pieces_forwardsOf_append {key : DetachKey} {before after : List (List UInt8)}
    (h : upTo key before.flatten = before.flatten) :
    pieces (forwardsOf key (before ++ after)) =
      pieces (forwardsOf key before) ++ pieces (forwardsOf key after) := by
  induction before with
  | nil => rfl
  | cons read before ih =>
    have hread : upTo key read = read := by
      by_contra hne
      rw [List.flatten_cons, upTo_append_of_ne hne] at h
      have hlength := congrArg List.length h
      have hle : (upTo key read).length ≤ read.length := (List.takeWhile_prefix _).length_le
      rw [List.length_append] at hlength
      refine hne ((List.takeWhile_prefix _).eq_of_length ?_)
      show (upTo key read).length = read.length
      omega
    have hbefore : upTo key before.flatten = before.flatten := by
      rw [List.flatten_cons, upTo_append hread] at h
      exact List.append_cancel_left h
    rw [List.cons_append, forwardsOf_cons, forwardsOf_cons, if_pos hread, if_pos hread, pieces_append,
      pieces_append, ih hbefore, List.append_assoc]

/-! ### What is taken for a key, a mouse event or the detach -/

/-- The byte at a place is interpreted, and not forwarded as it is or pasted. -/
def Handled.Takes : Handled → ℕ → Prop
  | .forward placed, place =>
    placed.forward.isMouseOrKey = true ∧ placed.start ≤ place ∧ place < placed.past
  | .detach detached, place => place = detached

theorem placedForwardsFrom_past {fuel : ℕ} {input : List UInt8} {offset : ℕ} {placed : Placed}
    (h : placed ∈ placedForwardsFrom fuel input offset) (htakes : placed.forward.isMouseOrKey = true) :
    placed.past ≤ input.length := by
  induction fuel generalizing offset with
  | zero => cases h
  | succ fuel ih =>
    rw [placedForwardsFrom] at h
    split at h
    case isFalse => cases h
    dsimp only at h
    split at h
    case h_1 =>
      obtain rfl := List.mem_singleton.mp h
      cases htakes
    case h_2 hoffset _ startRel forward endRel hnext =>
      have hbefore : ∀ start, placed ∉ (if offset < start then
          [(⟨.raw ((input.drop offset).take startRel), offset, start⟩ : Placed)] else []) := by
        intro start hmem
        split at hmem
        · obtain rfl := List.mem_singleton.mp hmem
          cases htakes
        · cases hmem
      split at h
      case isTrue hforward =>
        rcases List.mem_append.mp h with h | h
        · exact absurd h (hbefore _)
        rcases List.mem_cons.mp h with rfl | h
        · show offset + endRel ≤ input.length
          have hend : endRel ≤ (input.drop offset).length := by
            rcases nextStructuredStdinForward_mem hnext with hfrom | hfrom | hfrom
            · obtain ⟨_, -, heq⟩ := Option.map_eq_some_iff.mp hfrom
              cases heq
              cases hforward
            · obtain ⟨⟨start, mouse, past⟩, hfound, heq⟩ := Option.map_eq_some_iff.mp hfrom
              cases heq
              obtain ⟨len, hparse, rfl⟩ := findSgrMouseSequenceFrom_some hfound
              obtain ⟨-, hlen, hle, -⟩ := parseSgrMouseSequence_some hparse
              rw [List.length_drop] at hle
              show start + len ≤ _
              omega
            · obtain ⟨⟨start, key, past⟩, hfound, heq⟩ := Option.map_eq_some_iff.mp hfrom
              cases heq
              obtain ⟨hstart, -, len, hparse, rfl⟩ := findTuiKeySequence_some hfound
              obtain ⟨hfront, rfl, -, -⟩ := parseTuiKeySequence_some hparse
              have hle := hfront.length_le
              rw [List.length_drop] at hle
              show start + key.bytes.length ≤ _
              omega
          rw [List.length_drop] at hend
          omega
        · exact ih h
      case isFalse =>
        split at h
        case h_1 =>
          rcases List.mem_append.mp h with h | h
          · exact absurd h (hbefore _)
          · obtain rfl := List.mem_singleton.mp h
            cases htakes
        case h_2 =>
          rcases List.mem_append.mp h with h | h
          · exact absurd h (hbefore _)
          rcases List.mem_cons.mp h with rfl | h
          · dsimp only at htakes
            split at htakes <;> cases htakes
          · exact ih h

/-- Nothing is interpreted beyond the first detach byte. -/
theorem takes_le {key : DetachKey} {reads : List (List UInt8)} {offset place : ℕ} {handled : Handled}
    (h : handled ∈ handledFrom key offset reads) (htakes : handled.Takes place) :
    place ≤ offset + (upTo key reads.flatten).length := by
  induction reads generalizing offset with
  | nil => cases h
  | cons read reads ih =>
    rw [handledFrom_cons, List.mem_append] at h
    have hle : (upTo key read).length ≤ (upTo key (read :: reads).flatten).length := by
      rw [List.flatten_cons]
      by_cases hread : upTo key read = read
      · rw [upTo_append hread, hread, List.length_append]
        omega
      · rw [upTo_append_of_ne hread]
    rcases h with h | h
    · obtain ⟨placed, hmem, rfl⟩ := List.mem_map.mp h
      obtain ⟨htaken, -, hpast⟩ := htakes
      have hwithin := placedForwardsFrom_past (List.mem_filter.mp hmem).1 htaken
      dsimp only at hpast
      omega
    · split at h
      case isTrue hread =>
        have hplace := ih h
        rw [List.flatten_cons, upTo_append hread, List.length_append]
        omega
      case isFalse =>
        obtain rfl := List.mem_singleton.mp h
        have hplace : place = offset + (upTo key read).length := htakes
        omega

/-! ### Delivery -/

/-- A way of cutting a stream into reads. -/
structure Delivers (stream : List UInt8) (reads : List (List UInt8)) : Prop where
  whole : reads.flatten = stream
  sized : ∀ read ∈ reads, read ≠ [] ∧ read.length ≤ 1024

/-- A paste of a stream with its end: the places of the two markers, the second one the first to end it. -/
structure CompletePaste (stream : List UInt8) (start past : ℕ) : Prop where
  begins : OccursAt bracketedPasteStart stream start
  ends : OccursAt bracketedPasteEnd stream past
  after : start + bracketedPasteStart.length ≤ past
  first : ∀ place, start + bracketedPasteStart.length ≤ place → place < past →
    ¬ OccursAt bracketedPasteEnd stream place

/-- How a stream is delivered changes nothing, and nothing in a paste is interpreted. -/
structure DeliveryFree (key : DetachKey) (stream : List UInt8) : Prop where
  same : ∀ reads others, Delivers stream reads → Delivers stream others →
    mergeRaw (forwardsOf key reads) = mergeRaw (forwardsOf key others)
  pastes : ∀ reads, Delivers stream reads → ∀ start past, CompletePaste stream start past →
    ∀ place, start + bracketedPasteStart.length ≤ place → place < past →
      ∀ handled ∈ handledFrom key 0 reads, ¬ handled.Takes place

def single (bytes : List UInt8) : List (List UInt8) := bytes.map fun byte => [byte]

theorem flatten_single (bytes : List UInt8) : (single bytes).flatten = bytes := by
  induction bytes with
  | nil => rfl
  | cons byte bytes ih => rw [single, List.map_cons, List.flatten_cons]; exact congrArg _ ih

theorem mem_single {bytes read : List UInt8} (h : read ∈ single bytes) : ∃ byte, read = [byte] := by
  obtain ⟨byte, -, rfl⟩ := List.mem_map.mp h
  exact ⟨byte, rfl⟩

theorem pieces_single (key : DetachKey) (bytes : List UInt8) :
    pieces (forwardsOf key (single bytes)) = (upTo key bytes).map byteForward := by
  rw [pieces_forwardsOf, flatten_single]
  intro before read after hreads _
  obtain ⟨byte, rfl⟩ := mem_single (hreads ▸ List.mem_append_right before List.mem_cons_self)
  exact ⟨(plain_singleton byte).part (upTo_isPrefix key _).isInfix, Nat.le_of_ble_eq_true rfl⟩

theorem delivers_single (stream : List UInt8) : Delivers stream (single stream) := by
  refine ⟨flatten_single stream, fun read hread => ?_⟩
  obtain ⟨byte, rfl⟩ := mem_single hread
  exact ⟨List.cons_ne_nil _ _, Nat.le_of_ble_eq_true rfl⟩

/-- **What the delivery of typed input changes.** The forwards of a stream depend on nothing but the
stream, and no byte of a complete paste is interpreted, exactly when no construct stands before the
detach byte: every construct can be cut, and a cut one is taken for something else. -/
theorem delivery_free_iff (key : DetachKey) (stream : List UInt8) :
    DeliveryFree key stream ↔ Plain (upTo key stream) := by
  obtain ⟨rest, hstream⟩ := upTo_isPrefix key stream
  have hself : upTo key (upTo key stream) = upTo key stream :=
    List.takeWhile_eq_self_iff.mpr (List.all_eq_true.mp List.all_takeWhile)
  constructor
  · intro h part hpart hwithin
    obtain ⟨before, after, hupTo⟩ := hwithin
    rw [← hupTo, upTo_eq_self_iff] at hself
    have hbefore : upTo key before = before := upTo_eq_self_iff.mpr fun byte hbyte =>
      hself byte (List.mem_append_left _ (List.mem_append_left _ hbyte))
    have hread : upTo key part = part := upTo_eq_self_iff.mpr fun byte hbyte =>
      hself byte (List.mem_append_left _ (List.mem_append_right _ hbyte))
    rw [← hupTo, List.append_assoc, List.append_assoc] at hstream
    have hreads : Delivers stream (single before ++ part :: single (after ++ rest)) := by
      refine ⟨?_, fun read hread => ?_⟩
      · rw [List.flatten_append, List.flatten_cons, flatten_single, flatten_single, ← hstream]
      · rcases List.mem_append.mp hread with hread | hread
        · exact (delivers_single before).sized read hread
        · rcases List.mem_cons.mp hread with rfl | hread
          · exact ⟨fun hnil => by simpa [hnil] using hpart.two, hpart.short⟩
          · exact (delivers_single _).sized read hread
    have hsame := mergeRaw_eq_iff.mp (h.same _ _ hreads (delivers_single stream))
    rw [pieces_forwardsOf_append (by rw [flatten_single, hbefore]), pieces_single, hbefore,
      forwardsOf_cons, hread, if_pos rfl, pieces_append, pieces_single, pieces_single, ← hstream,
      upTo_append hbefore, upTo_append hread, List.map_append, List.map_append] at hsame
    exact hpart.pieces_ne (List.append_cancel_right (List.append_cancel_left hsame))
  · intro h
    constructor
    · have hpieces : ∀ reads, Delivers stream reads →
          pieces (forwardsOf key reads) = (upTo key stream).map byteForward := by
        intro reads hreads
        rw [pieces_forwardsOf, hreads.whole]
        intro before read after hsplit hbefore
        refine ⟨h.part ?_, (hreads.sized read (hsplit ▸ by simp)).2⟩
        have hwhole := hreads.whole
        rw [hsplit, List.flatten_append, List.flatten_cons] at hwhole
        rw [← hwhole, upTo_append hbefore]
        refine List.IsInfix.trans ?_ (List.suffix_append _ _).isInfix
        by_cases hread : upTo key read = read
        · rw [upTo_append hread, hread]
          exact (List.prefix_append _ _).isInfix
        · rw [upTo_append_of_ne hread]
      intro reads others hreads hothers
      rw [mergeRaw_eq_iff, hpieces reads hreads, hpieces others hothers]
    · intro reads hreads start past hpaste place hplace _ handled hhandled htakes
      have hle := takes_le hhandled htakes
      rw [hreads.whole, Nat.zero_add] at hle
      have hbegins := hpaste.begins
      rw [OccursAt, ← hstream, List.drop_append_of_le_length (by omega)] at hbegins
      have hwithin := List.prefix_of_prefix_length_le hbegins (List.prefix_append _ _)
        (by rw [List.length_drop]; omega)
      exact h _ .pasteStart (hwithin.isInfix.trans (List.drop_suffix start _).isInfix)

/-- A paste of two lines that is cut before its newline: the second read makes keys of its end. -/
theorem cut_paste_differs : ¬ ∀ key stream, DeliveryFree key stream := by
  intro h
  have hsame := (h .ctrlRightBracket (bracketedPasteStart ++ [0x61, 0x0a, 0x62] ++ bracketedPasteEnd)).same
    [bracketedPasteStart ++ [0x61, 0x0a, 0x62] ++ bracketedPasteEnd]
    [bracketedPasteStart ++ [0x61], [0x0a, 0x62] ++ bracketedPasteEnd]
    ⟨rfl, by decide⟩ ⟨rfl, by decide⟩
  revert hsame
  decide +kernel

end Nmux.Tui
