import Nmux.Lib.Check
import Nmux.Lib.Decimal

/-! Text files of records. A record is a line of words between blanks; a number is a word of its digits and
bytes are a word of hexadecimal digits. What is printed so is read back, and the readers also take what
nothing prints: a carriage return before a line break, a sign, leading zeros, digits in upper case. -/
namespace Nmux.Lib

open Check

/-! ### Lines and words -/

/-- A line without the carriage return it may end with. -/
def withoutReturn (line : List Char) : List Char :=
  if line.getLast? = some '\r' then line.dropLast else line

/-- The lines of a text: what a line break ends, and what stands after the last one, if anything does. -/
def lines (text : String) : List String :=
  let pieces := text.toList.splitOn '\n'
  let rest := pieces.getLast?.getD []
  (pieces.dropLast.map withoutReturn ++ if rest.isEmpty then [] else [rest]).map String.ofList

/-- The words of a line, the empty ones between two blanks too. -/
def words (line : String) : List String := (line.toList.splitOn ' ').map String.ofList

def recordLine (record : List String) : String := String.intercalate " " record

def recordText (records : List (List String)) : String :=
  String.join (records.map fun record => recordLine record ++ "\n")

/-- A word that stays one word when it is printed. -/
structure Plain (word : String) : Prop where
  blank : ' ' ∉ word.toList
  lineBreak : '\n' ∉ word.toList
  carriageReturn : '\r' ∉ word.toList

/-- A record that stays one record when it is printed. -/
structure PlainRecord (record : List String) : Prop where
  nonempty : record ≠ []
  words : ∀ word ∈ record, Plain word

/-- A record of a keyword and plain fields. -/
theorem PlainRecord.of_keyword {keyword : String} {fields : List String} (hkeyword : Plain keyword)
    (hfields : ∀ field ∈ fields, Plain field) : PlainRecord (keyword :: fields) where
  nonempty := List.cons_ne_nil _ _
  words := List.forall_mem_cons.mpr ⟨hkeyword, hfields⟩

theorem words_recordLine {record : List String} (h : PlainRecord record) :
    words (recordLine record) = record := by
  have hblank : ∀ word ∈ record.map String.toList, ' ' ∉ word := by
    intro word hword
    obtain ⟨text, htext, rfl⟩ := List.mem_map.mp hword
    exact (h.words text htext).blank
  unfold words recordLine
  rw [String.toList_intercalate, show " ".toList = [' '] from rfl,
    List.splitOn_intercalate ' ' hblank (by simpa using h.nonempty), List.map_map]
  exact (List.map_congr_left fun word _ => String.ofList_toList).trans (List.map_id _)

theorem mem_of_mem_intercalate {sep : List Char} {parts : List (List Char)} {ch : Char}
    (h : ch ∈ sep.intercalate parts) : ch ∈ sep ∨ ∃ part ∈ parts, ch ∈ part := by
  induction parts with
  | nil => cases h
  | cons part rest ih =>
    cases rest with
    | nil =>
      rw [List.intercalate_singleton] at h
      exact .inr ⟨part, List.mem_cons_self, h⟩
    | cons next rest =>
      rw [List.intercalate_cons_cons, List.mem_append, List.mem_append] at h
      rcases h with (h | h) | h
      · exact .inr ⟨part, List.mem_cons_self, h⟩
      · exact .inl h
      · exact (ih h).imp_right fun ⟨other, hother, hmem⟩ => ⟨other, List.mem_cons_of_mem _ hother, hmem⟩

theorem not_mem_recordLine {record : List String} {ch : Char} (hch : ch ≠ ' ')
    (h : ∀ word ∈ record, ch ∉ word.toList) : ch ∉ (recordLine record).toList := by
  intro hmem
  unfold recordLine at hmem
  rw [String.toList_intercalate] at hmem
  rcases mem_of_mem_intercalate hmem with hblank | ⟨word, hword, hmem⟩
  · exact hch (List.mem_singleton.mp hblank)
  · obtain ⟨text, htext, rfl⟩ := List.mem_map.mp hword
    exact h text htext hmem

/-- A text is its lines with a line break after each. -/
theorem recordText_toList (records : List (List String)) : (recordText records).toList =
    ['\n'].intercalate (records.map (fun record => (recordLine record).toList) ++ [[]]) := by
  induction records with
  | nil => rfl
  | cons record rest ih =>
    have hrest : recordText (record :: rest) = recordLine record ++ "\n" ++ recordText rest := by
      unfold recordText
      rw [List.map_cons, String.join_cons]
    rw [hrest, String.toList_append, String.toList_append, ih, List.map_cons, List.cons_append,
      List.intercalate_cons_of_ne_nil (by simp)]
    rfl

/-- **Printed lines are read back.** -/
theorem lines_recordText {records : List (List String)} (h : ∀ record ∈ records, PlainRecord record) :
    lines (recordText records) = records.map recordLine := by
  have hpieces : ∀ line ∈ records.map (fun record => (recordLine record).toList) ++ [[]], '\n' ∉ line := by
    intro line hline
    rcases List.mem_append.mp hline with hline | hline
    · obtain ⟨record, hrecord, rfl⟩ := List.mem_map.mp hline
      exact not_mem_recordLine (by decide) fun word hword => ((h record hrecord).words word hword).lineBreak
    · rw [List.mem_singleton.mp hline]
      exact List.not_mem_nil
  unfold lines
  rw [recordText_toList, List.splitOn_intercalate '\n' hpieces (by simp)]
  simp only [List.dropLast_concat, List.getLast?_concat, Option.getD_some, List.isEmpty_nil, if_true,
    List.append_nil, List.map_map]
  refine List.map_congr_left fun record hrecord => ?_
  have hreturn : '\r' ∉ (recordLine record).toList :=
    not_mem_recordLine (by decide) fun word hword => ((h record hrecord).words word hword).carriageReturn
  show String.ofList (withoutReturn (recordLine record).toList) = recordLine record
  rw [withoutReturn, if_neg fun hlast => hreturn (List.mem_of_getLast? hlast), String.ofList_toList]

theorem Plain.of_visible {word : String} (h : ∀ ch ∈ word.toList, 32 < ch.toNat) : Plain word where
  blank hmem := absurd (h _ hmem) (by decide)
  lineBreak hmem := absurd (h _ hmem) (by decide)
  carriageReturn hmem := absurd (h _ hmem) (by decide)

/-! ### Numbers -/

/-- The digits of a number below a bound. -/
def parseDigits (bound : ℕ) (overflow : String) (bytes : List UInt8) : Except String ℕ :=
  bytes.foldlM (fun value digit =>
    if ¬ (0x30 ≤ digit ∧ digit ≤ 0x39) then .error "invalid digit found in string"
    else if value * 10 + (digit - 0x30).toNat < bound then .ok (value * 10 + (digit - 0x30).toNat)
    else .error overflow) 0

def numberTooLarge : String := "number too large to fit in target type"

/-- The `from_str` of an unsigned integer type whose values are those below the bound. -/
def parseUnsigned (bound : ℕ) (text : String) : Except String ℕ :=
  match text.toUTF8.toList with
  | [] => .error "cannot parse integer from empty string"
  | sign :: digits =>
    if sign = 0x2b ∧ digits ≠ [] then parseDigits bound numberTooLarge digits
    else parseDigits bound numberTooLarge (sign :: digits)

/-- The `from_str` of a signed integer type: one more value is below zero than above. -/
def parseSigned (bound : ℕ) (text : String) : Except String ℤ :=
  match text.toUTF8.toList with
  | [] => .error "cannot parse integer from empty string"
  | sign :: digits =>
    if sign = 0x2b ∧ digits ≠ [] then (parseDigits bound numberTooLarge digits).map Int.ofNat
    else if sign = 0x2d ∧ digits ≠ [] then
      (parseDigits (bound + 1) "number too small to fit in target type" digits).map fun value => -value
    else (parseDigits bound numberTooLarge (sign :: digits)).map Int.ofNat

theorem parseDigits_from {bound : ℕ} {overflow : String} {bytes : List UInt8}
    (hdigits : ∀ byte ∈ bytes, IsDigit byte) {init : ℕ} (h : ofDecimal init bytes < bound) :
    bytes.foldlM (fun value digit =>
      if ¬ (0x30 ≤ digit ∧ digit ≤ 0x39) then .error "invalid digit found in string"
      else if value * 10 + (digit - 0x30).toNat < bound then .ok (value * 10 + (digit - 0x30).toNat)
      else .error overflow) init = (.ok (ofDecimal init bytes) : Except String ℕ) := by
  induction bytes generalizing init with
  | nil => rfl
  | cons byte rest ih =>
    have hbyte := hdigits byte List.mem_cons_self
    rw [ofDecimal_cons] at h ⊢
    have hfits := lt_of_le_of_lt (le_ofDecimal _ rest) h
    rw [List.foldlM_cons, if_neg (not_not_intro (show 0x30 ≤ byte ∧ byte ≤ 0x39 from hbyte)), if_pos hfits,
      ok_bind]
    exact ih (fun other hother => hdigits other (List.mem_cons_of_mem _ hother)) h

/-- Digits that are printed are read back. -/
theorem parseDigits_decimalBytes {bound value : ℕ} {overflow : String} (h : value < bound) :
    parseDigits bound overflow (decimalBytes value) = .ok value := by
  have hread := @parseDigits_from bound overflow (decimalBytes value) (fun _ hmem => isDigit_of_mem hmem) 0
    (by rwa [ofDecimal_decimalBytes])
  rwa [ofDecimal_decimalBytes] at hread

theorem exists_decimalBytes (value : ℕ) : ∃ first rest, decimalBytes value = first :: rest ∧
    first ≠ 0x2b ∧ first ≠ 0x2d := by
  obtain ⟨first, rest, hbytes⟩ := List.exists_cons_of_ne_nil (decimalBytes_ne_nil value)
  have hfirst : IsDigit first := @isDigit_of_mem value first (hbytes ▸ List.mem_cons_self)
  refine ⟨first, rest, hbytes, ?_, ?_⟩ <;> rintro rfl <;> exact absurd hfirst.1 (by decide)

theorem parseUnsigned_toString {bound value : ℕ} (h : value < bound) :
    parseUnsigned bound (toString value) = .ok value := by
  obtain ⟨first, rest, hbytes, hplus, -⟩ := exists_decimalBytes value
  unfold parseUnsigned
  rw [toUTF8_toString, hbytes]
  dsimp only
  rw [if_neg fun hsign => hplus hsign.1, ← hbytes]
  exact parseDigits_decimalBytes h

theorem toUTF8_neg_toString (value : ℕ) :
    ("-" ++ toString value).toUTF8.toList = 0x2d :: decimalBytes value := by
  rw [toUTF8_append, toUTF8_toString, show "-".toUTF8.toList = [0x2d] from toUTF8_small (by simp)]
  rfl

theorem parseSigned_toString {bound : ℕ} {value : ℤ} (hlow : -bound ≤ value) (hhigh : value < bound) :
    parseSigned bound (toString value) = .ok value := by
  cases value with
  | ofNat value =>
    obtain ⟨first, rest, hbytes, hplus, hminus⟩ := exists_decimalBytes value
    unfold parseSigned
    rw [show toString (Int.ofNat value) = toString value from rfl, toUTF8_toString, hbytes]
    dsimp only
    rw [if_neg fun hsign => hplus hsign.1, if_neg fun hsign => hminus hsign.1, ← hbytes,
      parseDigits_decimalBytes (Int.ofNat_lt.mp hhigh)]
    rfl
  | negSucc value =>
    have hfits : value + 1 < bound + 1 := by omega
    unfold parseSigned
    rw [show toString (Int.negSucc value) = "-" ++ toString (value + 1) from rfl, toUTF8_neg_toString]
    dsimp only
    rw [if_neg fun hsign => absurd hsign.1 (by decide), if_pos ⟨rfl, decimalBytes_ne_nil _⟩, parseDigits_decimalBytes hfits]
    rfl

theorem plain_toString (value : ℕ) : Plain (toString value) :=
  .of_visible fun ch hch => by
    have hdigits : (toString value).toList = Nat.toDigits 10 value := Nat.toList_repr
    rw [hdigits] at hch
    have := digit_of_mem_toDigits hch
    omega

theorem plain_toString_int (value : ℤ) : Plain (toString value) := by
  cases value with
  | ofNat value => exact plain_toString value
  | negSucc value =>
    have hplain := plain_toString (value + 1)
    have hchars : (toString (Int.negSucc value)).toList = '-' :: (toString (value + 1)).toList := by
      rw [show toString (Int.negSucc value) = "-" ++ toString (value + 1) from rfl, String.toList_append]
      rfl
    refine ⟨?_, ?_, ?_⟩ <;> rw [hchars, List.mem_cons, not_or] <;> refine ⟨by decide, ?_⟩
    · exact hplain.blank
    · exact hplain.lineBreak
    · exact hplain.carriageReturn

/-! ### Bytes -/

def hexEncode (bytes : List UInt8) : String :=
  String.ofList (bytes.flatMap fun byte => [Nat.digitChar (byte.toNat / 16), Nat.digitChar (byte.toNat % 16)])

def hexValue (byte : UInt8) : Except String UInt8 :=
  if 0x30 ≤ byte ∧ byte ≤ 0x39 then .ok (byte - 0x30)
  else if 0x61 ≤ byte ∧ byte ≤ 0x66 then .ok (byte - 0x61 + 10)
  else if 0x41 ≤ byte ∧ byte ≤ 0x46 then .ok (byte - 0x41 + 10)
  else .error "invalid hex digit"

def hexPairs : List UInt8 → Except String (List UInt8)
  | high :: low :: rest => do
    let high ← hexValue high
    let low ← hexValue low
    return (high <<< 4 ||| low) :: (← hexPairs rest)
  | _ => .ok []

def hexDecode (encoded : String) : Except String (List UInt8) := do
  let bytes := encoded.toUTF8.toList
  require (bytes.length % 2 == 0) "hex string has odd length"
  hexPairs bytes

def utf8Text (bytes : List UInt8) : Except String String :=
  match String.fromUTF8? ⟨bytes.toArray⟩ with
  | some text => .ok text
  | none => .error "invalid utf-8 sequence"

theorem digitChar_small {digit : ℕ} (h : digit < 16) :
    32 < (Nat.digitChar digit).toNat ∧ (Nat.digitChar digit).toNat < 0x80 ∧
      hexValue (UInt8.ofNat (Nat.digitChar digit).toNat) = .ok (UInt8.ofNat digit) := by
  have hall : ∀ digit < 16, 32 < (Nat.digitChar digit).toNat ∧ (Nat.digitChar digit).toNat < 0x80 ∧
      (hexValue (UInt8.ofNat (Nat.digitChar digit).toNat)).toOption = some (UInt8.ofNat digit) := by decide
  obtain ⟨hlow, hhigh, hvalue⟩ := hall digit h
  refine ⟨hlow, hhigh, ?_⟩
  cases hread : hexValue (UInt8.ofNat (Nat.digitChar digit).toNat) with
  | error message => rw [hread] at hvalue; cases hvalue
  | ok value => rw [hread] at hvalue; rw [Option.some.inj hvalue]

theorem nibbles_joined (byte : UInt8) :
    UInt8.ofNat (byte.toNat / 16) <<< 4 ||| UInt8.ofNat (byte.toNat % 16) = byte := by
  have hall : ∀ value < 256, UInt8.ofNat (value / 16) <<< 4 ||| UInt8.ofNat (value % 16) = UInt8.ofNat value := by
    decide +kernel
  rw [hall _ byte.toNat_lt]
  exact UInt8.ofNat_toNat

theorem hexEncode_visible {bytes : List UInt8} {ch : Char} (h : ch ∈ (hexEncode bytes).toList) :
    32 < ch.toNat ∧ ch.toNat < 0x80 := by
  unfold hexEncode at h
  rw [String.toList_ofList] at h
  obtain ⟨byte, -, hch⟩ := List.mem_flatMap.mp h
  have hbyte := byte.toNat_lt
  rcases List.mem_cons.mp hch with rfl | hch
  · have := digitChar_small (show byte.toNat / 16 < 16 by omega)
    exact ⟨this.1, this.2.1⟩
  · obtain rfl := List.mem_singleton.mp hch
    have := digitChar_small (show byte.toNat % 16 < 16 by omega)
    exact ⟨this.1, this.2.1⟩

theorem plain_hexEncode (bytes : List UInt8) : Plain (hexEncode bytes) :=
  .of_visible fun _ hch => (hexEncode_visible hch).1

theorem toUTF8_hexEncode (bytes : List UInt8) : (hexEncode bytes).toUTF8.toList =
    bytes.flatMap fun byte => [UInt8.ofNat (Nat.digitChar (byte.toNat / 16)).toNat,
      UInt8.ofNat (Nat.digitChar (byte.toNat % 16)).toNat] := by
  rw [toUTF8_small fun ch hch => (hexEncode_visible hch).2]
  unfold hexEncode
  rw [String.toList_ofList, List.map_flatMap]
  rfl

/-- **Printed bytes are read back.** -/
theorem hexDecode_hexEncode (bytes : List UInt8) : hexDecode (hexEncode bytes) = .ok bytes := by
  have hlength : ∀ bytes : List UInt8, (bytes.flatMap fun byte =>
      [UInt8.ofNat (Nat.digitChar (byte.toNat / 16)).toNat,
        UInt8.ofNat (Nat.digitChar (byte.toNat % 16)).toNat]).length % 2 = 0 := by
    intro bytes
    induction bytes with
    | nil => rfl
    | cons byte rest ih =>
      rw [List.flatMap_cons, List.length_append, List.length_cons, List.length_singleton]
      omega
  unfold hexDecode
  rw [toUTF8_hexEncode, check_bind_eq_ok]
  refine ⟨require_eq_ok.mpr (by rw [hlength]; rfl), ?_⟩
  induction bytes with
  | nil => rfl
  | cons byte rest ih =>
    have hbyte := byte.toNat_lt
    simp only [List.flatMap_cons, List.cons_append, List.nil_append]
    rw [hexPairs, (digitChar_small (show byte.toNat / 16 < 16 by omega)).2.2,
      (digitChar_small (show byte.toNat % 16 < 16 by omega)).2.2, ok_bind, ok_bind, ih, ok_bind,
      nibbles_joined]
    rfl

theorem utf8Text_toUTF8 (text : String) : utf8Text text.toUTF8.toList = .ok text := by
  have hbytes : (⟨text.toUTF8.toList.toArray⟩ : ByteArray) = text.toUTF8 := by rw [byteArray_toList]
  unfold utf8Text
  rw [hbytes, String.fromUTF8?, dif_pos (show text.toUTF8.IsValidUTF8 from text.isValidUTF8)]
  rfl

/-! ### Items -/

/-- Reading a record for each item, where a record adds its item to what is read. -/
theorem foldlM_appends {α β τ ε : Type} {step : τ → α → Except ε τ} (put : List β → τ) {record : β → α}
    {items : List β} (h : ∀ before, ∀ item ∈ items, step (put before) (record item) =
      .ok (put (before ++ [item]))) (before : List β) :
    (items.map record).foldlM step (put before) = .ok (put (before ++ items)) := by
  induction items generalizing before with
  | nil => rw [List.append_nil]; rfl
  | cons item rest ih =>
    rw [List.map_cons, List.foldlM_cons, h before item List.mem_cons_self, ok_bind,
      ih (fun before other hother => h before other (List.mem_cons_of_mem _ hother)) (before ++ [item]),
      List.append_assoc, List.singleton_append]

/-- What every step keeps that succeeds, reading all of them keeps. -/
theorem foldlM_invariant {α τ ε : Type} {step : τ → α → Except ε τ} {I : τ → Prop}
    (hstep : ∀ read item next, I read → step read item = .ok next → I next) {items : List α}
    {init last : τ} (hinit : I init) (h : items.foldlM step init = .ok last) : I last := by
  induction items generalizing init with
  | nil => exact Except.ok.inj h ▸ hinit
  | cons item rest ih =>
    rw [List.foldlM_cons] at h
    obtain ⟨next, hnext, hrest⟩ := bind_eq_ok.mp h
    exact ih (hstep _ _ _ hinit hnext) hrest

end Nmux.Lib
