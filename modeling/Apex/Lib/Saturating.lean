import Mathlib

/-!
Saturating arithmetic of fixed-width counters and clocks.
-/

namespace Apex.Saturating

/-- `u32::saturating_add` of one. -/
def next32 (n : UInt32) : UInt32 :=
  if n.toNat + 1 < UInt32.size then n + 1 else n

/-- `u64::saturating_add` of one. -/
def next64 (n : UInt64) : UInt64 :=
  if n.toNat + 1 < UInt64.size then n + 1 else n

/-- `u64::saturating_add`. -/
def add64 (a b : UInt64) : UInt64 :=
  if a.toNat + b.toNat < UInt64.size then a + b else UInt64.ofNat (UInt64.size - 1)

/-- `u64::saturating_sub`. -/
def sub64 (a b : UInt64) : UInt64 :=
  if b ≤ a then a - b else 0

@[simp] theorem toNat_sub64 (a b : UInt64) : (sub64 a b).toNat = a.toNat - b.toNat := by
  unfold sub64
  split_ifs with le
  · exact UInt64.toNat_sub_of_le a b le
  · have lt : a.toNat < b.toNat := by
      rw [UInt64.le_iff_toNat_le] at le
      omega
    rw [Nat.sub_eq_zero_of_le (Nat.le_of_lt lt)]
    rfl

theorem toNat_next32 (n : UInt32) : (next32 n).toNat = min (n.toNat + 1) (UInt32.size - 1) := by
  have bound : n.toNat < UInt32.size := n.toNat_lt
  unfold next32
  split_ifs with fits
  · rw [UInt32.toNat_add, Nat.min_eq_left (by omega)]
    exact Nat.mod_eq_of_lt fits
  · rw [Nat.min_eq_right (by omega)]
    omega

theorem next32_ne_zero (n : UInt32) : next32 n ≠ 0 := by
  intro zero
  have counted := toNat_next32 n
  have size : UInt32.size = 2 ^ 32 := rfl
  have none : (next32 n).toNat = 0 := by rw [zero]; rfl
  omega

/-- Below some number, adding one does not saturate. -/
theorem toNat_next32_of_below {n m : UInt32} (lt : n < m) : (next32 n).toNat = n.toNat + 1 := by
  have below := UInt32.lt_iff_toNat_lt.mp lt
  have bound : m.toNat < UInt32.size := m.toNat_lt
  rw [toNat_next32]
  omega

/-- Where the sum is below some number, adding one did not saturate. -/
theorem toNat_next32_of_lt {n m : UInt32} (lt : next32 n < m) :
    (next32 n).toNat = n.toNat + 1 := by
  have below := UInt32.lt_iff_toNat_lt.mp lt
  have bound : m.toNat < UInt32.size := m.toNat_lt
  rw [toNat_next32] at below ⊢
  omega

end Apex.Saturating
