import Mathlib.Tactic
import Nmux.Lib.Utf8

/-! Numbers in decimal, as bytes. The digits of a number are bytes of their own, and reading them in order
gives the number back, also where the reader stops at a bound. -/
namespace Nmux.Lib

/-- The bytes of a number as it is printed. -/
def decimalBytes (value : ℕ) : List UInt8 := (Nat.toDigits 10 value).map fun ch => UInt8.ofNat ch.toNat

def IsDigit (byte : UInt8) : Prop := 0x30 ≤ byte ∧ byte ≤ 0x39

/-- What is read of digits after a number. -/
def ofDecimal (init : ℕ) (bytes : List UInt8) : ℕ :=
  bytes.foldl (fun value byte => value * 10 + (byte - 0x30).toNat) init

variable {value : ℕ}

/-! ### Digits -/

theorem toNat_of_isDigit {ch : Char} (h : ch.isDigit = true) : 48 ≤ ch.toNat ∧ ch.toNat ≤ 57 := by
  simp only [Char.isDigit, Bool.and_eq_true, decide_eq_true_eq, ge_iff_le, UInt32.le_iff_toNat_le] at h
  exact h

theorem digit_of_mem_toDigits {ch : Char} (h : ch ∈ Nat.toDigits 10 value) :
    48 ≤ ch.toNat ∧ ch.toNat ≤ 57 :=
  toNat_of_isDigit (Nat.isDigit_of_mem_toDigits (by decide) (by decide) h)

theorem toUTF8_toString (value : ℕ) : (toString value).toUTF8.toList = decimalBytes value := by
  have hdigits : (toString value).toList = Nat.toDigits 10 value := Nat.toList_repr
  rw [toUTF8_small (by rw [hdigits]; exact fun ch hch => by have := digit_of_mem_toDigits hch; omega), hdigits]
  rfl

theorem decimalBytes_ne_nil (value : ℕ) : decimalBytes value ≠ [] := by
  unfold decimalBytes
  rw [ne_eq, List.map_eq_nil_iff]
  exact Nat.toDigits_ne_nil

theorem toNat_ofNat_digit {ch : Char} (h : ch.toNat ≤ 57) : (UInt8.ofNat ch.toNat).toNat = ch.toNat :=
  UInt8.toNat_ofNat_of_lt' (Nat.lt_of_le_of_lt h (by decide))

theorem isDigit_of_mem {byte : UInt8} (h : byte ∈ decimalBytes value) : IsDigit byte := by
  obtain ⟨ch, hch, rfl⟩ := List.mem_map.mp h
  have hdigit := digit_of_mem_toDigits hch
  have hbyte := toNat_ofNat_digit hdigit.2
  refine ⟨?_, ?_⟩ <;> rw [UInt8.le_iff_toNat_le, hbyte]
  · exact hdigit.1
  · exact hdigit.2

/-! ### Reading -/

theorem ofDecimal_cons (init : ℕ) (byte : UInt8) (rest : List UInt8) :
    ofDecimal init (byte :: rest) = ofDecimal (init * 10 + (byte - 0x30).toNat) rest := rfl

theorem le_ofDecimal (init : ℕ) (bytes : List UInt8) : init ≤ ofDecimal init bytes := by
  induction bytes generalizing init with
  | nil => exact le_refl _
  | cons byte rest ih =>
    rw [ofDecimal_cons]
    exact le_trans (by omega) (ih _)

theorem ofDecimal_map {chars : List Char} (h : ∀ ch ∈ chars, 48 ≤ ch.toNat ∧ ch.toNat ≤ 57) (init : ℕ) :
    ofDecimal init (chars.map fun ch => UInt8.ofNat ch.toNat) = Nat.ofDigitChars 10 chars init := by
  induction chars generalizing init with
  | nil => exact Nat.ofDigitChars_nil.symm
  | cons ch rest ih =>
    have hdigit := h ch List.mem_cons_self
    have hbyte := toNat_ofNat_digit hdigit.2
    have hvalue : (UInt8.ofNat ch.toNat - 0x30).toNat = ch.toNat - '0'.toNat := by
      rw [UInt8.toNat_sub_of_le _ _ (by rw [UInt8.le_iff_toNat_le, hbyte]; exact hdigit.1), hbyte]
      rfl
    rw [List.map_cons, ofDecimal_cons, Nat.ofDigitChars_cons, hvalue, Nat.mul_comm init]
    exact ih (fun other hother => h other (List.mem_cons_of_mem _ hother)) _

/-- Digits that are printed are read back. -/
theorem ofDecimal_decimalBytes (value : ℕ) : ofDecimal 0 (decimalBytes value) = value := by
  unfold decimalBytes
  rw [ofDecimal_map fun ch hch => digit_of_mem_toDigits hch]
  exact Nat.ofDigitChars_ten_toDigits

theorem decimalBytes_injective : Function.Injective decimalBytes := by
  intro value other h
  rw [← ofDecimal_decimalBytes value, h, ofDecimal_decimalBytes]

/-- A reader that refuses numbers from a bound on reads the numbers below it. -/
theorem foldlM_digits {bound : ℕ} {bytes : List UInt8} (hdigits : ∀ byte ∈ bytes, IsDigit byte) {init : ℕ}
    (h : ofDecimal init bytes < bound) : bytes.foldlM (fun value digit =>
      if 0x30 ≤ digit ∧ digit ≤ 0x39 ∧ value * 10 + (digit - 0x30).toNat < bound then
        some (value * 10 + (digit - 0x30).toNat)
      else none) init = some (ofDecimal init bytes) := by
  induction bytes generalizing init with
  | nil => rfl
  | cons byte rest ih =>
    obtain ⟨hlow, hhigh⟩ := hdigits byte List.mem_cons_self
    rw [ofDecimal_cons] at h ⊢
    have hfits := lt_of_le_of_lt (le_ofDecimal _ rest) h
    rw [List.foldlM_cons, if_pos ⟨hlow, hhigh, hfits⟩]
    exact ih (fun other hother => hdigits other (List.mem_cons_of_mem _ hother)) h

end Nmux.Lib
