import Nmux.Lib.Utf8
import Nmux.Tui.Typed

/-! Key sequences in one read. A terminal sends a key as an escape byte alone, as an escape byte with a
character, or as a control sequence of parameters, intermediates and one final byte. The client reads
a mouse report, the start of a paste and the keys of its table as a whole; of anything else it reads
the escape byte as a key of its own and the rest as what it is. -/
namespace Nmux.Tui

open Lib (OccursAt)

/-- A complete key sequence of a terminal. -/
inductive KeySequence : List UInt8 → Prop
  | escape : KeySequence [0x1b]
  | character (ch : Char) : KeySequence (0x1b :: String.utf8EncodeChar ch)
  /-- SS3 and CSI, by the byte that introduces them. -/
  | control {introducer : UInt8} (hintroducer : introducer = 0x4f ∨ introducer = 0x5b)
      {params intermediates : List UInt8} {final : UInt8}
      (hparams : ∀ byte ∈ params, 0x30 ≤ byte ∧ byte ≤ 0x3f)
      (hintermediates : ∀ byte ∈ intermediates, 0x20 ≤ byte ∧ byte ≤ 0x2f)
      (hfinal : 0x40 ≤ final ∧ final ≤ 0x7e) :
      KeySequence (0x1b :: introducer :: (params ++ intermediates ++ [final]))

/-- The client reads the bytes as one thing. -/
inductive Recognised : List UInt8 → Prop
  | mouse {bytes : List UInt8} {mouse : SgrMouseInput} :
      parseSgrMouseSequence bytes = some (mouse, bytes.length) → Recognised bytes
  | key {candidate : List UInt8 × StdinKey} : candidate ∈ keyCandidates → Recognised candidate.1
  | pasteStart : Recognised bracketedPasteStart

/-- The bytes that are keys by themselves. -/
def keyBytes : List UInt8 := [0x1b, 0x0d, 0x0a, 0x09]

/-- The key of the escape byte. -/
def escapeKey : StdinKeyInput := ⟨.escape, [0x1b]⟩

/-! ### Read as a whole -/

/-- What one recognised construct becomes. -/
theorem Recognised.forwards {bytes : List UInt8} (h : Recognised bytes) :
    (∃ mouse, stdinByteForwards bytes = [.mouse mouse]) ∨
      (∃ key, stdinByteForwards bytes = [.key key] ∧ key.bytes = bytes) ∨
      stdinByteForwards bytes = [.raw bytes] := by
  cases h with
  | mouse hparse => exact .inl ⟨_, stdinByteForwards_mouse hparse⟩
  | pasteStart => exact .inr (.inr (by decide +kernel))
  | key hmem =>
    have hkeys : ∀ candidate ∈ keyCandidates,
        stdinByteForwards candidate.1 = [.key ⟨candidate.2, candidate.1⟩] := by decide +kernel
    exact .inr (.inl ⟨_, hkeys _ hmem, rfl⟩)

/-! ### An escape byte and the rest -/

theorem not_occursAt {pattern items : List UInt8} (hhead : pattern.head? = some 0x1b)
    (hitems : (0x1b : UInt8) ∉ items) (start : ℕ) : ¬OccursAt pattern items start := by
  intro hoccurs
  obtain ⟨tail, rfl⟩ := List.head?_eq_some_iff.mp hhead
  exact hitems (List.mem_of_mem_drop (hoccurs.subset List.mem_cons_self))

theorem findBytes_quiet {pattern items : List UInt8} (hhead : pattern.head? = some 0x1b)
    (hitems : (0x1b : UInt8) ∉ items) : findBytes items pattern = none := by
  have hne : pattern ≠ [] := fun h => by
    rw [h] at hhead
    cases hhead
  cases hfound : findBytes items pattern with
  | none => rfl
  | some start => exact absurd (findBytes_some hne hfound) (not_occursAt hhead hitems start)

/-- Behind an escape byte that begins nothing, and with none after it, there is no paste. -/
theorem findBytes_escape {pattern rest : List UInt8} (hhead : pattern.head? = some 0x1b)
    (hrest : (0x1b : UInt8) ∉ rest) (hfront : ¬pattern <+: 0x1b :: rest) :
    findBytes (0x1b :: rest) pattern = none := by
  have hne : pattern ≠ [] := fun h => by
    rw [h] at hhead
    cases hhead
  cases hfound : findBytes (0x1b :: rest) pattern with
  | none => rfl
  | some start =>
    have hoccurs := findBytes_some hne hfound
    cases start with
    | zero => exact absurd hoccurs hfront
    | succ start => exact absurd hoccurs (not_occursAt hhead hrest start)

theorem findSgrMouseSequence_escape {rest : List UInt8} (hrest : (0x1b : UInt8) ∉ rest)
    (hfront : parseSgrMouseSequence (0x1b :: rest) = none) :
    findSgrMouseSequence (0x1b :: rest) = none ∧ findSgrMouseSequence rest = none := by
  have hnone {items : List UInt8} {start : ℕ} {mouse : SgrMouseInput} {len : ℕ}
      (hitems : (0x1b : UInt8) ∉ items)
      (h : parseSgrMouseSequence (items.drop start) = some (mouse, len)) : False :=
    @not_occursAt sgrMouseStart _ rfl hitems start (parseSgrMouseSequence_some h).1
  constructor
  · cases hfound : findSgrMouseSequence (0x1b :: rest) with
    | none => rfl
    | some found =>
      obtain ⟨start, mouse, past⟩ := found
      obtain ⟨len, hparse, -⟩ := findSgrMouseSequenceFrom_some hfound
      cases start with
      | zero =>
        rw [List.drop_zero, hfront] at hparse
        cases hparse
      | succ start => exact (hnone hrest hparse).elim
  · cases hfound : findSgrMouseSequence rest with
    | none => rfl
    | some found =>
      obtain ⟨start, mouse, past⟩ := found
      obtain ⟨len, hparse, -⟩ := findSgrMouseSequenceFrom_some hfound
      exact (hnone hrest hparse).elim

theorem parseTuiKeySequence_quiet {byte : UInt8} {rest : List UInt8} (h : byte ∉ keyBytes) :
    parseTuiKeySequence (byte :: rest) = none := by
  have hheads : ∀ candidate ∈ keyCandidates, ∃ head ∈ keyBytes, candidate.1.head? = some head := by decide
  rw [parseTuiKeySequence, Option.map_eq_none_iff, List.find?_eq_none]
  intro candidate hmem hfront
  obtain ⟨head, hhead, hfirst⟩ := hheads candidate hmem
  obtain ⟨tail, htail⟩ := List.head?_eq_some_iff.mp hfirst
  have hstart : candidate.1 <+: byte :: rest := List.isPrefixOf_iff_prefix.mp hfront
  rw [htail, List.cons_prefix_cons] at hstart
  exact h (hstart.1 ▸ hhead)

theorem findTuiKeySequence_quiet {items : List UInt8} (h : ∀ byte ∈ items, byte ∉ keyBytes) :
    findTuiKeySequence items = none := by
  rw [findTuiKeySequence, List.findSome?_eq_none_iff]
  intro start hstart
  rw [Option.map_eq_none_iff, List.drop_eq_getElem_cons (List.mem_range.mp hstart)]
  exact parseTuiKeySequence_quiet (h _ (List.getElem_mem _))

/-- An escape byte that begins no longer key is the escape key. -/
theorem parseTuiKeySequence_escape {rest : List UInt8}
    (h : ∀ candidate ∈ keyCandidates, 1 < candidate.1.length → ¬candidate.1 <+: 0x1b :: rest) :
    parseTuiKeySequence (0x1b :: rest) = some (escapeKey, 1) := by
  have hsingle : ∀ candidate ∈ keyCandidates, 1 < candidate.1.length ∨
      candidate = ([0x1b], .escape) ∨ candidate.1.head? ≠ some 0x1b ∧ candidate.1 ≠ [] := by decide
  have hexists : ([0x1b], StdinKey.escape) ∈ keyCandidates := by decide
  rw [parseTuiKeySequence]
  cases hfound : keyCandidates.find? fun candidate => candidate.1.isPrefixOf (0x1b :: rest) with
  | none =>
    have := List.find?_eq_none.mp hfound _ hexists
    simp at this
  | some candidate =>
    have hfirst := List.find?_some hfound
    have hfront : candidate.1 <+: 0x1b :: rest := List.isPrefixOf_iff_prefix.mp hfirst
    rcases hsingle candidate (List.mem_of_find?_eq_some hfound) with hlong | rfl | ⟨hhead, hne⟩
    · exact absurd hfront (h candidate (List.mem_of_find?_eq_some hfound) hlong)
    · rfl
    · obtain ⟨head, tail, heq⟩ := List.exists_cons_of_ne_nil hne
      rw [heq, List.cons_prefix_cons] at hfront
      rw [heq, List.head?_cons, hfront.1] at hhead
      exact absurd rfl hhead

theorem findTuiKeySequence_front {first : UInt8} {rest : List UInt8} {key : StdinKeyInput} {len : ℕ}
    (h : parseTuiKeySequence (first :: rest) = some (key, len)) :
    findTuiKeySequence (first :: rest) = some (0, key, len) := by
  rw [findTuiKeySequence, List.length_cons, List.range_succ_eq_map, List.findSome?_cons, List.drop_zero, h]
  simp only [Option.map_some, Nat.zero_add]

/-- **An escape byte that begins nothing is a key, and what follows it is forwarded as it is.** -/
theorem stdinByteForwards_escape {rest : List UInt8} (hne : rest ≠ [])
    (hquiet : ∀ byte ∈ rest, byte ∉ keyBytes)
    (hpaste : ¬bracketedPasteStart <+: 0x1b :: rest)
    (hmouse : parseSgrMouseSequence (0x1b :: rest) = none)
    (hkey : parseTuiKeySequence (0x1b :: rest) = some (escapeKey, 1)) :
    stdinByteForwards (0x1b :: rest) = [.key escapeKey, .raw rest] := by
  have hescape : (0x1b : UInt8) ∉ rest := fun h => hquiet _ h (by decide)
  obtain ⟨hmouse, hmouse'⟩ := findSgrMouseSequence_escape hescape hmouse
  obtain ⟨byte, more, rfl⟩ := List.exists_cons_of_ne_nil hne
  have hrest : placedForwardsFrom (more.length + 1) (0x1b :: byte :: more) 1 =
      [⟨.raw (byte :: more), 1, more.length + 2⟩] := by
    rw [placedForwardsFrom, if_pos (by simp)]
    rw [show (0x1b :: byte :: more).drop 1 = byte :: more from rfl, findBytes_quiet rfl hescape, hmouse', findTuiKeySequence_quiet hquiet]
    rfl
  have hloop : placedForwardsFrom (more.length + 2) (0x1b :: byte :: more) 0 =
      [⟨.key escapeKey, 0, 1⟩, ⟨.raw (byte :: more), 1, more.length + 2⟩] := by
    rw [placedForwardsFrom, if_pos (by simp), List.drop_zero, findBytes_escape rfl hescape hpaste, hmouse,
      findTuiKeySequence_front hkey]
    dsimp only [Option.map_none, Option.map_some, nextStructuredStdinForward, earlierCandidate]
    rw [if_pos (show (StdinByteForward.key escapeKey).isMouseOrKey = true from rfl),
      if_neg (Nat.lt_irrefl 0), List.nil_append, Nat.zero_add, Nat.zero_add, hrest]
  rw [stdinByteForwards, placedForwards, List.length_cons, List.length_cons, hloop]
  rfl

/-! ### Unrecognised sequences -/

/-- A front that ends in a final byte reaches the final byte of a control sequence. -/
theorem eq_of_front {front body : List UInt8} {last final : UInt8} (h : front ++ [last] <+: body ++ [final])
    (hbody : ∀ byte ∈ body, byte < 0x40) (hlast : 0x40 ≤ last) : front ++ [last] = body ++ [final] := by
  have hle := h.length_le
  rw [List.length_append, List.length_append, List.length_singleton, List.length_singleton] at hle
  refine h.eq_of_length ?_
  rw [List.length_append, List.length_append, List.length_singleton, List.length_singleton]
  by_contra hne
  have hlt : front.length < body.length := by omega
  have hget : (body ++ [final])[front.length]? = some last := by
    obtain ⟨rest, hrest⟩ := h
    rw [← hrest, List.append_assoc, List.getElem?_append_right (Nat.le_refl _), Nat.sub_self]
    rfl
  rw [List.getElem?_append_left hlt] at hget
  exact absurd (hbody last (List.mem_of_getElem? hget)) (UInt8.not_lt.mpr hlast)

/-- A mouse report at the front of a control sequence is all of it. -/
theorem parseSgrMouseSequence_control {introducer final : UInt8} {body : List UInt8}
    {mouse : SgrMouseInput} {len : ℕ} (hbody : ∀ byte ∈ body, byte < 0x40) (hfinal : 0x40 ≤ final)
    (h : parseSgrMouseSequence (0x1b :: introducer :: (body ++ [final])) = some (mouse, len)) :
    len = (0x1b :: introducer :: (body ++ [final])).length := by
  have hstart := (parseSgrMouseSequence_some h).1
  rw [sgrMouseStart, List.cons_prefix_cons, List.cons_prefix_cons] at hstart
  obtain ⟨-, rfl, hstart⟩ := hstart
  have hmark : (0x40 : UInt8) ≤ 0x3c ↔ False := by decide
  cases body with
  | nil =>
    rw [List.nil_append, List.cons_prefix_cons] at hstart
    rw [← hstart.1, hmark] at hfinal
    exact hfinal.elim
  | cons first more =>
    rw [List.cons_append, List.cons_prefix_cons] at hstart
    obtain ⟨rfl, -⟩ := hstart
    have hparams : ∀ byte ∈ more, isParamByte byte = true := by
      intro byte hbyte
      have hlt := UInt8.lt_iff_toNat_lt.mp (hbody byte (List.mem_cons_of_mem _ hbyte))
      have h40 : (0x40 : UInt8).toNat = 0x40 := rfl
      have h4d : (0x4d : UInt8).toNat = 0x4d := rfl
      have h6d : (0x6d : UInt8).toNat = 0x6d := rfl
      rw [isParamByte, Bool.and_eq_true, bne_iff_ne, bne_iff_ne]
      exact ⟨fun heq => by rw [heq] at hlt; omega, fun heq => by rw [heq] at hlt; omega⟩
    have hdrop : (0x1b :: 0x5b :: (0x3c :: more ++ [final])).drop sgrMouseStart.length = more ++ [final] := rfl
    rw [parseSgrMouseSequence] at h
    split at h
    case isFalse => cases h
    case isTrue =>
      rw [hdrop, List.takeWhile_append_of_pos hparams, List.dropWhile_append_of_pos hparams] at h
      by_cases hparam : isParamByte final = true
      · rw [List.dropWhile_cons_of_pos hparam] at h
        cases h
      · rw [List.dropWhile_cons_of_neg hparam, List.takeWhile_cons_of_neg hparam, List.append_nil] at h
        obtain ⟨_, -, hpair⟩ := Option.map_eq_some_iff.mp h
        rw [← (Prod.mk.inj hpair).2]
        simp only [sgrMouseStart, List.length_cons, List.length_append, List.length_nil]
        omega

/-- The longer keys of the table: their first bytes, and where a control sequence would end. -/
theorem keyCandidates_long {candidate : List UInt8 × StdinKey} (hmem : candidate ∈ keyCandidates)
    (hlong : 1 < candidate.1.length) : ∃ second tail, candidate.1 = 0x1b :: second :: tail ∧
      second.toNat < 0x80 ∧ second ≠ 0x4f ∧
      (second = 0x5b → ∃ last, tail = [last] ∧ 0x40 ≤ last) := by
  have htable : ∀ candidate ∈ keyCandidates, 1 < candidate.1.length →
      candidate.1.headD 0 = 0x1b ∧ (candidate.1.getD 1 0).toNat < 0x80 ∧ candidate.1.getD 1 0 ≠ 0x4f ∧
        (candidate.1.getD 1 0 = 0x5b → candidate.1.length = 3 ∧ 0x40 ≤ candidate.1.getD 2 0) := by
    decide
  obtain ⟨hfirst, hsmall, hss3, hcsi⟩ := htable candidate hmem hlong
  obtain ⟨bytes, key⟩ := candidate
  match bytes, hlong with
  | first :: second :: tail, _ =>
    obtain rfl : first = 0x1b := hfirst
    refine ⟨second, tail, rfl, hsmall, hss3, fun hsecond => ?_⟩
    obtain ⟨hlen, hlast⟩ := hcsi hsecond
    obtain ⟨last, rfl⟩ := List.length_eq_one_iff.mp (show tail.length = 1 by simpa using hlen)
    exact ⟨last, rfl, hlast⟩

/-- A character after an escape byte begins no paste, report or longer key it is not all of. -/
theorem escape_character {ch : Char} (hquiet : ∀ byte ∈ String.utf8EncodeChar ch, byte ∉ keyBytes)
    (hnot : ¬Recognised (0x1b :: String.utf8EncodeChar ch)) :
    stdinByteForwards (0x1b :: String.utf8EncodeChar ch) =
      [.key escapeKey, .raw (String.utf8EncodeChar ch)] := by
  -- a character that takes several bytes has none below 0x80
  have hsmall {byte : UInt8} (hbyte : byte ∈ String.utf8EncodeChar ch) (hlt : byte.toNat < 0x80) :
      String.utf8EncodeChar ch = [byte] := (Lib.utf8EncodeChar_of_small hbyte hlt).2
  have htwo {first second : UInt8} {tail : List UInt8} (hlt : first.toNat < 0x80)
      (h : first :: second :: tail <+: String.utf8EncodeChar ch) : False := by
    have hone := hsmall (h.subset List.mem_cons_self) hlt
    have hle := h.length_le
    rw [hone] at hle
    simp at hle
  refine stdinByteForwards_escape (Lib.utf8EncodeChar_ne_nil ch) hquiet (fun hpaste => ?_) ?_
    (parseTuiKeySequence_escape fun candidate hmem hlong hfront => ?_)
  · rw [bracketedPasteStart, List.cons_prefix_cons] at hpaste
    exact htwo (by decide) hpaste.2
  · cases hparse : parseSgrMouseSequence (0x1b :: String.utf8EncodeChar ch) with
    | none => rfl
    | some parsed =>
      have hstart := (parseSgrMouseSequence_some hparse).1
      rw [sgrMouseStart, List.cons_prefix_cons] at hstart
      exact (htwo (by decide) hstart.2).elim
  · obtain ⟨second, tail, heq, hlt, -⟩ := keyCandidates_long hmem hlong
    rw [heq, List.cons_prefix_cons] at hfront
    have hone := hsmall (hfront.2.subset List.mem_cons_self) hlt
    rw [hone, List.cons_prefix_cons] at hfront
    have hnil := List.prefix_nil.mp hfront.2.2
    have hkey := Recognised.key hmem
    rw [heq, hnil] at hkey
    refine hnot ?_
    rw [hone]
    exact hkey

theorem escape_control {introducer final : UInt8} {body : List UInt8}
    (hintroducer : introducer = 0x4f ∨ introducer = 0x5b)
    (hbody : ∀ byte ∈ body, 0x20 ≤ byte ∧ byte < 0x40) (hfinal : 0x40 ≤ final)
    (hnot : ¬Recognised (0x1b :: introducer :: (body ++ [final]))) :
    (∀ byte ∈ introducer :: (body ++ [final]), byte ∉ keyBytes) ∧
      stdinByteForwards (0x1b :: introducer :: (body ++ [final])) =
        [.key escapeKey, .raw (introducer :: (body ++ [final]))] := by
  have hbelow : ∀ byte ∈ body, byte < 0x40 := fun byte hbyte => (hbody byte hbyte).2
  have hprintable {byte : UInt8} (h : 0x20 ≤ byte) : byte ∉ keyBytes := by
    intro hmem
    have hkeys : ∀ byte ∈ keyBytes, ¬(0x20 : UInt8) ≤ byte :=
      @of_decide_eq_true _ (List.decidableBAll _ _) rfl
    exact hkeys byte hmem h
  have hquiet : ∀ byte ∈ introducer :: (body ++ [final]), byte ∉ keyBytes := by
    intro byte hbyte
    rcases List.mem_cons.mp hbyte with rfl | hbyte
    · rcases hintroducer with rfl | rfl <;> decide
    · rcases List.mem_append.mp hbyte with hbyte | hbyte
      · exact hprintable (hbody byte hbyte).1
      · rw [List.mem_singleton.mp hbyte]
        exact hprintable (UInt8.le_trans (by decide) hfinal)
  refine ⟨hquiet, stdinByteForwards_escape (List.cons_ne_nil _ _) hquiet (fun hpaste => ?_) ?_
    (parseTuiKeySequence_escape fun candidate hmem hlong hfront => ?_)⟩
  · rw [bracketedPasteStart, List.cons_prefix_cons, List.cons_prefix_cons] at hpaste
    obtain ⟨-, rfl, hfront⟩ := hpaste
    have heq : [0x32, 0x30, 0x30] ++ [0x7e] = body ++ [final] := eq_of_front hfront hbelow (by decide)
    refine hnot ?_
    rw [← heq]
    exact .pasteStart
  · cases hparse : parseSgrMouseSequence (0x1b :: introducer :: (body ++ [final])) with
    | none => rfl
    | some parsed =>
      obtain ⟨mouse, len⟩ := parsed
      rw [parseSgrMouseSequence_control hbelow hfinal hparse] at hparse
      exact absurd (.mouse hparse) hnot
  · obtain ⟨second, tail, heq, -, hss3, hcsi⟩ := keyCandidates_long hmem hlong
    rw [heq, List.cons_prefix_cons, List.cons_prefix_cons] at hfront
    obtain ⟨-, hsecond, hfront⟩ := hfront
    obtain ⟨last, rfl, hlast⟩ := hcsi (hsecond ▸ hintroducer.resolve_left (hsecond ▸ hss3))
    have hwhole : [] ++ [last] = body ++ [final] := eq_of_front hfront hbelow hlast
    have hkey := Recognised.key hmem
    rw [heq, hsecond, show [last] = body ++ [final] from hwhole] at hkey
    exact hnot hkey

/-- **A sequence that is not recognised is split.** Its escape byte is a key, and so is the byte after
it if it is one by itself; everything else is forwarded as it is. -/
theorem KeySequence.split {bytes : List UInt8} (h : KeySequence bytes) (hnot : ¬Recognised bytes) :
    ∃ rest, bytes = 0x1b :: rest ∧ rest ≠ [] ∧
      ((∀ byte ∈ rest, byte ∉ keyBytes) ∧ stdinByteForwards bytes = [.key escapeKey, .raw rest] ∨
        ∃ byte ∈ keyBytes, ∃ key, rest = [byte] ∧
          stdinByteForwards bytes = [.key escapeKey, .key ⟨key, [byte]⟩] ∧
          (key = .escape ∨ key = .enter ∨ key = .tab)) := by
  cases h with
  | escape => exact absurd (@Recognised.key ([0x1b], .escape) (by decide)) hnot
  | character ch =>
    refine ⟨_, rfl, Lib.utf8EncodeChar_ne_nil ch, ?_⟩
    by_cases hquiet : ∀ byte ∈ String.utf8EncodeChar ch, byte ∉ keyBytes
    · exact .inl ⟨hquiet, escape_character hquiet hnot⟩
    · right
      obtain ⟨byte, hbyte, hkey⟩ : ∃ byte ∈ String.utf8EncodeChar ch, byte ∈ keyBytes := by
        by_contra hnone
        exact hquiet fun byte hbyte hkey => hnone ⟨byte, hbyte, hkey⟩
      have hlt : ∀ byte ∈ keyBytes, byte.toNat < 0x80 := @of_decide_eq_true _ (List.decidableBAll _ _) rfl
      rw [(Lib.utf8EncodeChar_of_small hbyte (hlt byte hkey)).2]
      have hforwards : ∀ byte ∈ keyBytes, ∃ key ∈ [StdinKey.escape, .enter, .tab],
          stdinByteForwards [0x1b, byte] = [.key escapeKey, .key ⟨key, [byte]⟩] := by decide +kernel
      obtain ⟨key, hmem, hforward⟩ := hforwards byte hkey
      exact ⟨byte, hkey, key, rfl, hforward, by simpa using hmem⟩
  | @control introducer hintroducer params intermediates final hparams hintermediates hfinal =>
    have hbody : ∀ byte ∈ params ++ intermediates, 0x20 ≤ byte ∧ byte < 0x40 := by
      intro byte hbyte
      rcases List.mem_append.mp hbyte with hbyte | hbyte
      · exact ⟨UInt8.le_trans (by decide) (hparams byte hbyte).1,
          UInt8.lt_of_le_of_lt (hparams byte hbyte).2 (by decide)⟩
      · exact ⟨(hintermediates byte hbyte).1,
          UInt8.lt_of_le_of_lt (hintermediates byte hbyte).2 (by decide)⟩
    obtain ⟨hquiet, hforward⟩ := escape_control hintroducer hbody hfinal.1 hnot
    exact ⟨_, rfl, List.cons_ne_nil _ _, .inl ⟨hquiet, hforward⟩⟩

end Nmux.Tui
