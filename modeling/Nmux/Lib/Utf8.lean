import Mathlib.Data.List.Infix

/-! Text as bytes. A byte below `0x80` is the whole encoding of its character, so a pattern of such
characters stands in the encoding of a text exactly where it stands in the text. -/
namespace Nmux.Lib

/-! ### Bytes of a text -/

theorem byteArray_toList_loop (bytes : ByteArray) (start : ℕ) (before : List UInt8) :
    ByteArray.toList.loop bytes start before = before.reverse ++ bytes.data.toList.drop start := by
  fun_induction ByteArray.toList.loop bytes start before with
  | case1 start before hlt ih =>
    have hlength : start < bytes.data.toList.length := by simpa using hlt
    rw [ih, List.drop_eq_getElem_cons hlength, List.reverse_cons, List.append_assoc]
    simp only [List.cons_append, List.nil_append, ByteArray.get!, Array.getElem_toList]
    rw [getElem!_pos]
  | case2 start before hge =>
    rw [List.drop_eq_nil_of_le (by simpa using hge), List.append_nil]

theorem byteArray_toList (bytes : ByteArray) : bytes.toList = bytes.data.toList :=
  byteArray_toList_loop bytes 0 []

theorem toUTF8_toList (text : String) :
    text.toUTF8.toList = text.toList.flatMap String.utf8EncodeChar := by
  rw [byteArray_toList, String.toUTF8_eq_toByteArray, ← String.utf8Encode_toList, List.utf8Encode,
    List.data_toByteArray]

theorem toUTF8_append (text more : String) :
    (text ++ more).toUTF8.toList = text.toUTF8.toList ++ more.toUTF8.toList := by
  rw [toUTF8_toList, toUTF8_toList, toUTF8_toList, String.toList_append, List.flatMap_append]

theorem toUTF8_injective : Function.Injective fun text : String => text.toUTF8.toList := by
  intro text other h
  dsimp only at h
  rw [byteArray_toList, byteArray_toList] at h
  exact String.toByteArray_inj.mp (ByteArray.ext (Array.toList_inj.mp h))

/-! ### Characters of one byte -/

theorem utf8EncodeChar_of_small {ch : Char} {byte : UInt8} (h : byte ∈ String.utf8EncodeChar ch)
    (hbyte : byte.toNat < 0x80) : ch.toNat = byte.toNat ∧ String.utf8EncodeChar ch = [byte] := by
  have hlead : ∀ value : ℕ, value < 0x100 → byte = UInt8.ofNat value → byte.toNat = value := by
    intro value hsmall heq
    rw [heq, UInt8.toNat_ofNat_of_lt' hsmall]
  unfold String.utf8EncodeChar at h ⊢
  dsimp only at h ⊢
  show ch.val.toNat = byte.toNat ∧ _
  split at h
  case isTrue hsmall =>
    have hvalue := hlead _ (by omega) (List.mem_singleton.mp h)
    rw [if_pos hsmall]
    exact ⟨hvalue.symm, by rw [List.mem_singleton.mp h]⟩
  case isFalse =>
    exfalso
    split at h
    · simp only [List.mem_cons, List.not_mem_nil, or_false] at h
      rcases h with h | h <;> have := hlead _ (by omega) h <;> omega
    · split at h
      · simp only [List.mem_cons, List.not_mem_nil, or_false] at h
        rcases h with h | h | h <;> have := hlead _ (by omega) h <;> omega
      · simp only [List.mem_cons, List.not_mem_nil, or_false] at h
        rcases h with h | h | h | h <;> have := hlead _ (by omega) h <;> omega

theorem utf8EncodeChar_small {ch : Char} (h : ch.toNat < 0x80) :
    String.utf8EncodeChar ch = [UInt8.ofNat ch.toNat] := by
  unfold String.utf8EncodeChar
  dsimp only
  rw [if_pos (show ch.val.toNat ≤ 0x7f from Nat.le_of_lt_succ h)]
  rfl

/-- A text of such characters has one byte for each. -/
theorem toUTF8_small {text : String} (h : ∀ ch ∈ text.toList, ch.toNat < 0x80) :
    text.toUTF8.toList = text.toList.map fun ch => UInt8.ofNat ch.toNat := by
  rw [toUTF8_toList, List.map_eq_flatMap]
  exact List.flatMap_congr fun ch hch => utf8EncodeChar_small (h ch hch)

theorem utf8EncodeChar_ne_nil (ch : Char) : String.utf8EncodeChar ch ≠ [] := by
  rw [← List.length_pos_iff_ne_nil, String.length_utf8EncodeChar]
  exact ch.utf8Size_pos

/-! ### Patterns -/

variable {pattern chars : List Char}

theorem encoded_front (hpattern : ∀ ch ∈ pattern, ch.toNat < 0x80)
    (h : pattern.flatMap String.utf8EncodeChar <+: chars.flatMap String.utf8EncodeChar) :
    pattern <+: chars := by
  induction pattern generalizing chars with
  | nil => exact List.nil_prefix
  | cons first pattern ih =>
    have hfirst : first.toNat < 0x80 := hpattern first List.mem_cons_self
    rw [List.flatMap_cons, utf8EncodeChar_small hfirst, List.singleton_append] at h
    cases chars with
    | nil => exact absurd h (by simp)
    | cons ch chars =>
      have hbyte : (UInt8.ofNat first.toNat).toNat = first.toNat :=
        UInt8.toNat_ofNat_of_lt' (show first.toNat < 0x100 by omega)
      have hmem : UInt8.ofNat first.toNat ∈ String.utf8EncodeChar ch := by
        obtain ⟨byte, bytes, hencoded⟩ := List.exists_cons_of_ne_nil (utf8EncodeChar_ne_nil ch)
        rw [List.flatMap_cons, hencoded, List.cons_append, List.cons_prefix_cons] at h
        rw [hencoded, h.1]
        exact List.mem_cons_self
      obtain ⟨hvalue, hsingle⟩ := utf8EncodeChar_of_small hmem (by rw [hbyte]; exact hfirst)
      rw [List.flatMap_cons, hsingle, List.singleton_append, List.cons_prefix_cons] at h
      have hch : first = ch := Char.ext (UInt32.toNat_inj.mp (hbyte.symm.trans hvalue.symm))
      rw [hch, List.cons_prefix_cons]
      exact ⟨rfl, ih (fun ch hch => hpattern ch (List.mem_cons_of_mem _ hch)) h.2⟩

/-- **ASCII patterns are found in the encoding** of a text exactly when they stand in the text. -/
theorem encoded_isInfix (hne : pattern ≠ []) (hpattern : ∀ ch ∈ pattern, ch.toNat < 0x80) :
    pattern.flatMap String.utf8EncodeChar <:+: chars.flatMap String.utf8EncodeChar ↔
      pattern <:+: chars := by
  constructor
  · intro h
    obtain ⟨first, rest, rfl⟩ := List.exists_cons_of_ne_nil hne
    have hfirst : first.toNat < 0x80 := hpattern first List.mem_cons_self
    have hbyte : (UInt8.ofNat first.toNat).toNat = first.toNat :=
      UInt8.toNat_ofNat_of_lt' (show first.toNat < 0x100 by omega)
    induction chars with
    | nil =>
      rw [List.flatMap_nil, List.infix_nil] at h
      rw [List.flatMap_cons, utf8EncodeChar_small hfirst] at h
      cases h
    | cons ch chars ih =>
      by_cases hmem : UInt8.ofNat first.toNat ∈ String.utf8EncodeChar ch
      · obtain ⟨-, hsingle⟩ := utf8EncodeChar_of_small hmem (by rw [hbyte]; exact hfirst)
        rw [List.flatMap_cons (x := ch), hsingle, List.singleton_append, List.infix_cons_iff] at h
        rcases h with h | h
        · refine (encoded_front hpattern ?_).isInfix
          rw [List.flatMap_cons (x := ch), hsingle]
          exact h
        · exact (ih h).trans (List.suffix_cons ch chars).isInfix
      · refine (ih ?_).trans (List.suffix_cons ch chars).isInfix
        -- no byte of this character opens the pattern
        rw [List.flatMap_cons (x := ch)] at h
        rw [List.flatMap_cons, utf8EncodeChar_small hfirst, List.singleton_append] at h ⊢
        generalize String.utf8EncodeChar ch = bytes at h hmem
        induction bytes with
        | nil => exact h
        | cons byte bytes ihbytes =>
          rw [List.cons_append, List.infix_cons_iff] at h
          rcases h with h | h
          · rw [List.cons_prefix_cons] at h
            exact absurd (h.1 ▸ List.mem_cons_self) hmem
          · exact ihbytes h fun hbytes => hmem (List.mem_cons_of_mem _ hbytes)
  · rintro ⟨before, after, rfl⟩
    rw [List.flatMap_append, List.flatMap_append]
    exact ⟨_, _, rfl⟩

end Nmux.Lib
