import Nmux.Core.InterimText

/-! The line in which a daemon that cannot start says why, and how the client that started it reads the
line. The message is written as a string of JSON and read back by hand: the reader knows the short escapes
and refuses the numbered ones, with which the writer escapes the other control characters. -/
namespace Nmux.Daemon

/-! ### Writing -/

/-- `{:04x}`. -/
def lowerHex4 (value : ℕ) : List Char := (Nat.toDigits 16 value).leftpad 4 '0'

/-- What one character becomes in a string of JSON. -/
def escapedChar (ch : Char) : List Char :=
  if ch = '"' then ['\\', '"']
  else if ch = '\\' then ['\\', '\\']
  else if ch = '\n' then ['\\', 'n']
  else if ch = '\r' then ['\\', 'r']
  else if ch = '\t' then ['\\', 't']
  else if isControl ch then '\\' :: 'u' :: lowerHex4 ch.toNat
  else [ch]

def jsonString (value : String) : String :=
  String.ofList ('"' :: value.toList.flatMap escapedChar ++ ['"'])

/-- `format_ready_error_json`, with the text of the error. -/
def formatReadyErrorJson (error : String) : String :=
  "\x7b\"event\":\"error\",\"error\":\x7b\"message\":" ++ jsonString error ++ "\x7d\x7d"

/-! ### Reading -/

/-- The character a backslash and the character after it stand for. -/
def unescapedChar (ch : Char) : Except String Char :=
  if ch = '"' ∨ ch = '\\' ∨ ch = '/' then .ok ch
  else if ch = 'b' then .ok '\x08'
  else if ch = 'f' then .ok '\x0c'
  else if ch = 'n' then .ok '\n'
  else if ch = 'r' then .ok '\r'
  else if ch = 't' then .ok '\t'
  else if ch = 'u' then .error "unicode JSON escapes are not supported here"
  else .error "invalid JSON escape"

/-- The loop of `decode_json_string_at` with what it has decoded. -/
def decodeJsonChars (decoded : List Char) : List Char → Except String String
  | [] => .error "unterminated JSON string"
  | ch :: rest =>
    if ch = '"' then .ok (String.ofList decoded)
    else if ch = '\\' then
      match rest with
      | [] => .error "incomplete JSON escape"
      | escape :: rest => do decodeJsonChars (decoded ++ [← unescapedChar escape]) rest
    else decodeJsonChars (decoded ++ [ch]) rest

def decodeJsonStringAt (value : String) : Except String String :=
  match value.toList with
  | [] => .error "expected JSON string"
  | ch :: rest => if ch ≠ '"' then .error "expected JSON string" else decodeJsonChars [] rest

/-- What follows the first occurrence of a text. -/
def afterFirst (text : List Char) : List Char → Option (List Char)
  | [] => none
  | ch :: rest =>
    if text.isPrefixOf (ch :: rest) then some ((ch :: rest).drop text.length) else afterFirst text rest

/-- `char::is_whitespace`. -/
def isWhitespace (ch : Char) : Bool :=
  (0x09 ≤ ch.toNat && ch.toNat ≤ 0x0d) || ch.toNat ∈ [0x20, 0x85, 0xa0, 0x1680, 0x2028, 0x2029, 0x202f, 0x205f,
    0x3000] || (0x2000 ≤ ch.toNat && ch.toNat ≤ 0x200a)

def managedReadyErrorMessage (line : String) : Option String := do
  let rest ← afterFirst "\"message\":".toList line.toList
  (decodeJsonStringAt (String.ofList (rest.dropWhile isWhitespace))).toOption

/-- `read_line`: everything up to the first line break, with it. -/
def readLine (output : String) : String :=
  String.ofList (output.toList.takeWhile (· != '\n') ++ (output.toList.dropWhile (· != '\n')).take 1)

/-! ### Round trip -/

/-- The control characters with a short escape. -/
def ShortEscape (ch : Char) : Prop := ch = '\n' ∨ ch = '\r' ∨ ch = '\t'

/-- Every control character of the text has a short escape. -/
def Decodable (text : List Char) : Prop := ∀ ch ∈ text, isControl ch = true → ShortEscape ch

instance (ch : Char) : Decidable (ShortEscape ch) := inferInstanceAs (Decidable (_ ∨ _))

instance (text : List Char) : Decidable (Decodable text) :=
  inferInstanceAs (Decidable (∀ ch ∈ text, _))

theorem decodeJsonChars_escaped {ch : Char} (h : isControl ch = true → ShortEscape ch)
    (decoded rest : List Char) :
    decodeJsonChars decoded (escapedChar ch ++ rest) = decodeJsonChars (decoded ++ [ch]) rest := by
  unfold escapedChar
  split_ifs with hquote hbackslash hbreak hreturn htab hcontrol
  · subst hquote
    rfl
  · subst hbackslash
    rfl
  · subst hbreak
    rfl
  · subst hreturn
    rfl
  · subst htab
    rfl
  · rcases h hcontrol with rfl | rfl | rfl
    · exact absurd rfl hbreak
    · exact absurd rfl hreturn
    · exact absurd rfl htab
  · rw [List.singleton_append]
    conv_lhs => unfold decodeJsonChars
    rw [if_neg hquote, if_neg hbackslash]

theorem decodeJsonChars_refused {ch : Char} (hcontrol : isControl ch = true) (h : ¬ShortEscape ch)
    (decoded rest : List Char) : decodeJsonChars decoded (escapedChar ch ++ rest) =
      .error "unicode JSON escapes are not supported here" := by
  obtain ⟨hbreak, hreturn, htab⟩ : ch ≠ '\n' ∧ ch ≠ '\r' ∧ ch ≠ '\t' := by
    simpa only [ShortEscape, not_or] using h
  unfold escapedChar
  rw [if_neg (by rintro rfl; revert hcontrol; decide), if_neg (by rintro rfl; revert hcontrol; decide),
    if_neg hbreak, if_neg hreturn, if_neg htab, if_pos hcontrol]
  rfl

/-- The reader undoes the writer up to the first escape it refuses. -/
theorem decodeJsonChars_flatMap (text decoded following : List Char) :
    decodeJsonChars decoded (text.flatMap escapedChar ++ '"' :: following) =
      if Decodable text then .ok (String.ofList (decoded ++ text))
      else .error "unicode JSON escapes are not supported here" := by
  induction text generalizing decoded with
  | nil =>
    have hnil : Decodable [] := fun ch hch => absurd hch List.not_mem_nil
    rw [if_pos hnil, List.append_nil, List.flatMap_nil, List.nil_append]
    unfold decodeJsonChars
    exact if_pos rfl
  | cons ch rest ih =>
    rw [List.flatMap_cons, List.append_assoc]
    by_cases hch : isControl ch = true → ShortEscape ch
    · have hiff : Decodable (ch :: rest) ↔ Decodable rest := by
        unfold Decodable
        rw [List.forall_mem_cons, and_iff_right hch]
      rw [decodeJsonChars_escaped hch, ih, List.append_assoc, List.singleton_append]
      simp only [hiff]
    · obtain ⟨hcontrol, hlong⟩ := Classical.not_imp.mp hch
      rw [decodeJsonChars_refused hcontrol hlong, if_neg]
      exact fun h => hlong (h ch List.mem_cons_self hcontrol)

theorem decodeJsonStringAt_eq (value : String) (following : List Char) :
    decodeJsonStringAt (String.ofList ('"' :: value.toList.flatMap escapedChar ++ '"' :: following)) =
      if Decodable value.toList then .ok value
      else .error "unicode JSON escapes are not supported here" := by
  unfold decodeJsonStringAt
  rw [String.toList_ofList, List.cons_append]
  dsimp only
  rw [if_neg (not_not.mpr rfl), decodeJsonChars_flatMap, List.nil_append, String.ofList_toList]

/-! ### The line -/

theorem lowerHex4_control : ∀ value < 0xa0, '\n' ∉ lowerHex4 value := by
  decide +kernel

/-- No line break is written into a string of JSON. -/
theorem not_mem_escapedChar (ch : Char) : '\n' ∉ escapedChar ch := by
  unfold escapedChar
  split_ifs with hquote hbackslash hbreak hreturn htab hcontrol
  · decide
  · decide
  · decide
  · decide
  · decide
  · have hsmall : ch.toNat < 0xa0 := by
      simp only [isControl, Bool.or_eq_true, Bool.and_eq_true, decide_eq_true_eq] at hcontrol
      omega
    have hhex := lowerHex4_control ch.toNat hsmall
    simp [hhex]
  · exact fun hmem => hbreak (List.mem_singleton.mp hmem).symm

theorem formatReadyErrorJson_toList (error : String) : (formatReadyErrorJson error).toList =
    "\x7b\"event\":\"error\",\"error\":\x7b\"message\":".toList ++
      ('"' :: error.toList.flatMap escapedChar ++ '"' :: ['}', '}']) := by
  have hvalue : (jsonString error).toList = '"' :: error.toList.flatMap escapedChar ++ ['"'] :=
    String.toList_ofList
  unfold formatReadyErrorJson
  rw [String.toList_append, String.toList_append, hvalue, List.append_assoc, List.append_assoc]
  rfl

/-- The line is read as it was written. -/
theorem readLine_ready (error following : String) :
    readLine (formatReadyErrorJson error ++ "\n" ++ following) = formatReadyErrorJson error ++ "\n" := by
  have hline : ∀ ch ∈ (formatReadyErrorJson error).toList, (ch != '\n') = true := by
    intro ch hch
    rw [bne_iff_ne]
    rintro rfl
    rw [formatReadyErrorJson_toList] at hch
    rcases List.mem_append.mp hch with hch | hch
    · exact absurd hch (by decide)
    · rcases List.mem_cons.mp hch with hch | hch
      · exact absurd hch (by decide)
      · rcases List.mem_append.mp hch with hch | hch
        · obtain ⟨escaped, -, hmem⟩ := List.mem_flatMap.mp hch
          exact not_mem_escapedChar escaped hmem
        · exact absurd hch (by decide)
  have hbreak : ('\n' != '\n') = false := by decide
  have hsplit : (formatReadyErrorJson error ++ "\n" ++ following).toList =
      (formatReadyErrorJson error).toList ++ '\n' :: following.toList := by
    rw [String.toList_append, String.toList_append, List.append_assoc]
    rfl
  unfold readLine
  rw [hsplit, List.takeWhile_append_of_pos hline, List.dropWhile_append_of_pos hline,
    List.takeWhile_cons_of_neg (by rw [hbreak]; exact Bool.false_ne_true),
    List.dropWhile_cons_of_neg (by rw [hbreak]; exact Bool.false_ne_true)]
  apply String.toList_injective
  rw [String.toList_ofList, String.toList_append, List.append_nil]
  rfl

/-- The key of the message is found where it was written. -/
theorem afterFirst_ready (following : List Char) :
    afterFirst "\"message\":".toList ("\x7b\"event\":\"error\",\"error\":\x7b\"message\":".toList ++ following) =
      some following := rfl

/-- **What the reader makes of what the writer wrote.** Whatever follows it, a string of JSON is read back
as it was, and the message of a line that says why a daemon did not start is recovered from that line,
exactly if every control character in it has a short escape; any other is refused by name. -/
theorem decodeJsonStringAt_jsonString (value following : String) :
    decodeJsonStringAt (jsonString value ++ following) =
      (if Decodable value.toList then .ok value
        else .error "unicode JSON escapes are not supported here") ∧
    managedReadyErrorMessage (readLine (formatReadyErrorJson value ++ "\n" ++ following)) =
      if Decodable value.toList then some value else none := by
  constructor
  · have hstring : jsonString value ++ following =
        String.ofList ('"' :: value.toList.flatMap escapedChar ++ '"' :: following.toList) := by
      apply String.toList_injective
      unfold jsonString
      rw [String.toList_append, String.toList_ofList, String.toList_ofList, List.append_assoc]
      rfl
    rw [hstring, decodeJsonStringAt_eq]
  · rw [readLine_ready]
    unfold managedReadyErrorMessage
    have hrest : ('"' :: value.toList.flatMap escapedChar ++ '"' :: ['}', '}']) ++ "\n".toList =
        '"' :: (value.toList.flatMap escapedChar ++ '"' :: ['}', '}', '\n']) := by
      rw [List.cons_append, List.cons_append, List.append_assoc]
      rfl
    rw [String.toList_append, formatReadyErrorJson_toList, List.append_assoc, afterFirst_ready, hrest,
      Option.bind_eq_bind, Option.bind_some, List.dropWhile_cons_of_neg (by decide), ← List.cons_append,
      decodeJsonStringAt_eq]
    split <;> rfl

/-- A message in colours is not read back. -/
theorem decodeJsonStringAt_refuses : ¬∀ value following : String,
    decodeJsonStringAt (jsonString value ++ following) = .ok value := by
  intro h
  have hread := congrArg Except.toOption (h "\x1b[31mbind failed" "\x7d\x7d")
  have hrefused : (decodeJsonStringAt (jsonString "\x1b[31mbind failed" ++ "\x7d\x7d")).toOption = none := by
    decide +kernel
  rw [hrefused] at hread
  cases hread

end Nmux.Daemon
