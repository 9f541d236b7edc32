import Nmux.Core.InterimText

/-! The interim parser over chunks of output. It reads bytes one after the other and keeps its state, so
what it emits for one chunk and then the next is what it emits for both. Plain text comes through as it is
as long as no byte of it opens a sequence; the eight bit introducer `0x9b` is also a continuation byte of
UTF-8, so there is text that does not. -/
namespace Nmux

/-! ### Bytes and chunks -/

/-- What was emitted before takes no part in what a byte does. -/
theorem consumeByte_emitted (emitted : List UInt8) (out : InterimAnsiOutput) (byte : UInt8) :
    consumeByte { out with text := emitted ++ out.text } byte =
      { consumeByte out byte with text := emitted ++ (consumeByte out byte).text } := by
  obtain ⟨state, text, modes⟩ := out
  cases state <;> simp only [consumeByte] <;> (repeat' split) <;> simp_all

theorem foldl_consumeByte_emitted (emitted bytes : List UInt8) (out : InterimAnsiOutput) :
    bytes.foldl consumeByte { out with text := emitted ++ out.text } =
      { bytes.foldl consumeByte out with text := emitted ++ (bytes.foldl consumeByte out).text } := by
  induction bytes generalizing out with
  | nil => rfl
  | cons byte rest ih =>
    rw [List.foldl_cons, List.foldl_cons, consumeByte_emitted]
    exact ih (consumeByte out byte)

/-- **Two chunks are read as one.** -/
theorem consume_append (state : InterimAnsiState) (first second : List UInt8) (modes : TerminalModes) :
    consume state (first ++ second) modes =
      let before := consume state first modes
      let after := consume before.state second before.modes
      { after with text := before.text ++ after.text } := by
  have hsecond := foldl_consumeByte_emitted (consume state first modes).text second
    { consume state first modes with text := [] }
  rw [List.append_nil] at hsecond
  rw [consume, List.foldl_append]
  exact hsecond

/-- A byte emits itself or nothing. -/
theorem consumeByte_length (out : InterimAnsiOutput) (byte : UInt8) :
    (consumeByte out byte).text.length ≤ out.text.length + 1 := by
  obtain ⟨state, text, modes⟩ := out
  cases state <;> simp only [consumeByte] <;> (repeat' split) <;> simp

theorem consume_length (state : InterimAnsiState) (bytes : List UInt8) (modes : TerminalModes) :
    (consume state bytes modes).text.length ≤ bytes.length := by
  have hfold : ∀ (bytes : List UInt8) (out : InterimAnsiOutput),
      (bytes.foldl consumeByte out).text.length ≤ out.text.length + bytes.length := by
    intro bytes
    induction bytes with
    | nil => exact fun out => le_rfl
    | cons byte rest ih =>
      intro out
      have hrest := ih (consumeByte out byte)
      have hbyte := consumeByte_length out byte
      rw [List.foldl_cons, List.length_cons]
      omega
  have hall := hfold bytes { state, text := [], modes }
  rwa [List.length_nil, Nat.zero_add] at hall

/-! ### Text without introducers -/

/-- Bytes that open no sequence are emitted, and leave the parser in the ground state. -/
theorem consume_ground {bytes : List UInt8} (hescape : 0x1b ∉ bytes) (hcsi : 0x9b ∉ bytes)
    (modes : TerminalModes) : consume .ground bytes modes = ⟨.ground, bytes, modes⟩ := by
  have hfold : ∀ (bytes emitted : List UInt8), 0x1b ∉ bytes → 0x9b ∉ bytes →
      bytes.foldl consumeByte ⟨.ground, emitted, modes⟩ = ⟨.ground, emitted ++ bytes, modes⟩ := by
    intro bytes
    induction bytes with
    | nil => intro emitted _ _; rw [List.append_nil]; rfl
    | cons byte rest ih =>
      intro emitted hescape hcsi
      rw [List.mem_cons, not_or] at hescape hcsi
      have hbyte : consumeByte ⟨.ground, emitted, modes⟩ byte = ⟨.ground, emitted ++ [byte], modes⟩ := by
        show (if byte = 0x1b then _ else if byte = 0x9b then _ else _) = _
        rw [if_neg (Ne.symm hescape.1), if_neg (Ne.symm hcsi.1)]
      rw [List.foldl_cons, hbyte, ih _ hescape.2 hcsi.2, List.append_assoc, List.singleton_append]
  exact hfold bytes [] hescape hcsi

/-- The introducer is not emitted, so it shortens what is. -/
theorem consume_ground_csi {bytes : List UInt8} (hescape : 0x1b ∉ bytes) (hcsi : 0x9b ∈ bytes)
    (modes : TerminalModes) : (consume .ground bytes modes).text.length < bytes.length := by
  obtain ⟨before, after, rfl, hbefore⟩ := List.eq_append_cons_of_mem hcsi
  have hground : consume .ground before modes = ⟨.ground, before, modes⟩ :=
    consume_ground (fun hmem => hescape (List.mem_append_left _ hmem)) hbefore modes
  have hopens : consume .ground (0x9b :: after) modes = consume (.csi []) after modes := rfl
  have hafter := consume_length (.csi []) after modes
  rw [consume_append, hground]
  show (before ++ (consume .ground (0x9b :: after) modes).text).length < _
  rw [hopens, List.length_append, List.length_append, List.length_cons]
  omega

/-! ### Plain text -/

/-- Text without controls other than tabs and newlines: no other C0 control, no DEL and no C1 control. -/
def PlainText (text : String) : Prop :=
  ∀ ch ∈ text.toList, (ch = '\t' ∨ ch = '\n' ∨ 0x20 ≤ ch.toNat) ∧ ch.toNat ≠ 0x7f ∧
    ¬ (0x80 ≤ ch.toNat ∧ ch.toNat ≤ 0x9f)

instance (text : String) : Decidable (PlainText text) :=
  List.decidableBAll _ text.toList

theorem utf8_eq (text : String) : text.toUTF8.data.toList = text.toList.flatMap String.utf8EncodeChar := by
  rw [String.toUTF8_eq_toByteArray, ← String.utf8Encode_toList, List.utf8Encode, List.data_toByteArray]

/-- The escape byte is the encoding of the escape character and occurs in no other. -/
theorem escape_of_mem_utf8EncodeChar {ch : Char} (h : 0x1b ∈ String.utf8EncodeChar ch) :
    ch.toNat = 0x1b := by
  have hlead : ∀ value : Nat, value < 0x100 → (0x1b : UInt8) = UInt8.ofNat value → value = 0x1b := by
    intro value hsmall heq
    have hnat := congrArg UInt8.toNat heq
    rw [UInt8.toNat_ofNat_of_lt' hsmall] at hnat
    exact hnat.symm
  unfold String.utf8EncodeChar at h
  dsimp only at h
  show ch.val.toNat = 0x1b
  split at h
  · exact hlead _ (by omega) (List.mem_singleton.mp h)
  · split at h
    · simp only [List.mem_cons, List.not_mem_nil, or_false] at h
      rcases h with h | h <;> have := hlead _ (by omega) h <;> omega
    · split at h
      · simp only [List.mem_cons, List.not_mem_nil, or_false] at h
        rcases h with h | h | h <;> have := hlead _ (by omega) h <;> omega
      · simp only [List.mem_cons, List.not_mem_nil, or_false] at h
        rcases h with h | h | h | h <;> have := hlead _ (by omega) h <;> omega

theorem PlainText.no_escape {text : String} (h : PlainText text) : 0x1b ∉ text.toUTF8.data.toList := by
  rw [utf8_eq, List.mem_flatMap]
  rintro ⟨ch, hch, hbyte⟩
  have hescape := escape_of_mem_utf8EncodeChar hbyte
  obtain ⟨hcontrol, -, -⟩ := h ch hch
  rcases hcontrol with rfl | rfl | hplain
  · exact absurd hescape (by decide)
  · exact absurd hescape (by decide)
  · omega

/-- **Plain text passes through** the ground state exactly if no byte of its encoding is the eight bit
introducer `0x9b`: it is emitted as it is, the parser is in the ground state again and the modes are as
they were. -/
theorem plain_text_passes_through {text : String} (h : PlainText text) (modes : TerminalModes) :
    consume .ground text.toUTF8.data.toList modes = ⟨.ground, text.toUTF8.data.toList, modes⟩ ↔
      0x9b ∉ text.toUTF8.data.toList := by
  constructor
  · intro hpasses hcsi
    have hshort := consume_ground_csi h.no_escape hcsi modes
    rw [hpasses] at hshort
    exact lt_irrefl _ hshort
  · exact fun hcsi => consume_ground h.no_escape hcsi modes

theorem plain_text_passes_through_script :
    consume .ground "naïve\tтекст\n".toUTF8.data.toList .default =
      ⟨.ground, "naïve\tтекст\n".toUTF8.data.toList, .default⟩ :=
  (plain_text_passes_through (by decide) .default).mpr (by decide)

/-- The second byte of `ě` opens a control sequence, which then takes the letter behind it. -/
theorem plain_text_swallowed :
    ¬ ∀ text : String, PlainText text → consume .ground text.toUTF8.data.toList .default =
      ⟨.ground, text.toUTF8.data.toList, .default⟩ := by
  intro h
  have hpasses := h "ěa" (by decide)
  revert hpasses
  decide

end Nmux
