import Mathlib.Tactic

/-! Arithmetic on 16-bit words. Plain sums and differences stop with an error where the result does
not fit, saturating ones stop at the end of the range; both are what the naturals say wherever
nothing overflows. -/
namespace Nmux.Lib.Word16

/-- `a + b`, which panics on overflow. -/
def checkedAdd (a b : UInt16) : Except String UInt16 :=
  if a.toNat + b.toNat < 65536 then .ok (a + b) else .error "attempt to add with overflow"

/-- `a - b`, which panics on overflow. -/
def checkedSub (a b : UInt16) : Except String UInt16 :=
  if b ≤ a then .ok (a - b) else .error "attempt to subtract with overflow"

def saturatingAdd (a b : UInt16) : UInt16 :=
  if a.toNat + b.toNat < 65536 then a + b else 65535

def saturatingSub (a b : UInt16) : UInt16 :=
  if b ≤ a then a - b else 0

def saturatingMul (a b : UInt16) : UInt16 :=
  if a.toNat * b.toNat < 65536 then a * b else 65535

variable {a b : UInt16}

theorem checkedAdd_of_fits (h : a.toNat + b.toNat < 65536) : checkedAdd a b = .ok (a + b) := if_pos h

theorem checkedSub_of_le (h : b.toNat ≤ a.toNat) : checkedSub a b = .ok (a - b) :=
  if_pos (UInt16.le_iff_toNat_le.mpr h)

theorem toNat_add_of_fits (h : a.toNat + b.toNat < 65536) : (a + b).toNat = a.toNat + b.toNat := by
  rw [UInt16.toNat_add, Nat.mod_eq_of_lt h]

@[simp] theorem toNat_saturatingAdd (a b : UInt16) :
    (saturatingAdd a b).toNat = min (a.toNat + b.toNat) 65535 := by
  unfold saturatingAdd
  by_cases h : a.toNat + b.toNat < 65536
  · rw [if_pos h, toNat_add_of_fits h]
    omega
  · rw [if_neg h]
    have hmax : (65535 : UInt16).toNat = 65535 := rfl
    omega

@[simp] theorem toNat_saturatingSub (a b : UInt16) :
    (saturatingSub a b).toNat = a.toNat - b.toNat := by
  unfold saturatingSub
  by_cases h : b ≤ a
  · rw [if_pos h, UInt16.toNat_sub_of_le _ _ h]
  · rw [if_neg h]
    have hlt := UInt16.lt_iff_toNat_lt.mp (UInt16.not_le.mp h)
    have hzero : (0 : UInt16).toNat = 0 := rfl
    omega

/-- The distance to the end of the range. -/
@[simp] theorem toNat_max_sub (a : UInt16) : (65535 - a).toNat = 65535 - a.toNat := by
  have hmax : (65535 : UInt16).toNat = 65535 := rfl
  have hlt := a.toNat_lt
  exact UInt16.toNat_sub_of_le _ _ (UInt16.le_iff_toNat_le.mpr (by omega))

@[simp] theorem toNat_min (a b : UInt16) : (min a b).toNat = min a.toNat b.toNat := by
  show (if a ≤ b then a else b).toNat = _
  by_cases h : a ≤ b
  · rw [if_pos h, Nat.min_eq_left (UInt16.le_iff_toNat_le.mp h)]
  · have hlt := UInt16.lt_iff_toNat_lt.mp (UInt16.not_le.mp h)
    rw [if_neg h, Nat.min_eq_right (by omega)]

@[simp] theorem toNat_max (a b : UInt16) : (max a b).toNat = max a.toNat b.toNat := by
  show (if a ≤ b then b else a).toNat = _
  by_cases h : a ≤ b
  · rw [if_pos h, Nat.max_eq_right (UInt16.le_iff_toNat_le.mp h)]
  · have hlt := UInt16.lt_iff_toNat_lt.mp (UInt16.not_le.mp h)
    rw [if_neg h, Nat.max_eq_left (by omega)]

theorem min_eq_left_of_toNat (h : a.toNat ≤ b.toNat) : min a b = a :=
  if_pos (UInt16.le_iff_toNat_le.mpr h)

end Nmux.Lib.Word16
