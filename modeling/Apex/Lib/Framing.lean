import Mathlib

/-!
Numbers as bytes, and byte strings written one after the other with their
lengths in front of them.

What is written this way can be read in one way only (`frames_inj`), as long as
every length fits its bytes. So can pieces with a separator before each,
when none of them has the separator in it (`separated_inj`).
-/

namespace Apex.Framing

open List

/-- `to_le_bytes`: the lowest `width` bytes of a number, the lowest first. -/
def littleEndian : Nat → Nat → List UInt8
  | 0, _ => []
  | width + 1, n => UInt8.ofNat n :: littleEndian width (n / 256)

@[simp] theorem length_littleEndian (width n : Nat) : (littleEndian width n).length = width := by
  induction width generalizing n with
  | zero => rfl
  | succ width ih => rw [littleEndian, length_cons, ih]

/-- A number below `256 ^ width` is known by its bytes. -/
theorem littleEndian_inj {width n m : Nat} (small : n < 256 ^ width) (small' : m < 256 ^ width)
    (same : littleEndian width n = littleEndian width m) : n = m := by
  induction width generalizing n m with
  | zero =>
    rw [Nat.pow_zero] at small small'
    omega
  | succ width ih =>
    obtain ⟨low, high⟩ := List.cons.inj same
    have lowest : n % 256 = m % 256 := by
      have := congrArg UInt8.toNat low
      simpa using this
    have bound (k : Nat) (below : k < 256 ^ (width + 1)) : k / 256 < 256 ^ width := by
      rw [Nat.div_lt_iff_lt_mul (by omega), ← Nat.pow_succ]
      exact below
    have rest := ih (bound n small) (bound m small') high
    omega

/-! ### Frames -/

/-- Which byte of a number comes first. -/
inductive Endian where
  | little
  | big

/-- `to_le_bytes` and `to_be_bytes`. -/
def Endian.bytes : Endian → Nat → Nat → List UInt8
  | .little, width, n => littleEndian width n
  | .big, width, n => (littleEndian width n).reverse

/-- A byte string with its length in front. -/
def frame (bytes : List UInt8) : List UInt8 :=
  littleEndian 8 bytes.length ++ bytes

/-- The length of a byte string fits the eight bytes in front of it. -/
def Framable (bytes : List UInt8) : Prop :=
  bytes.length < 2 ^ 64

instance (bytes : List UInt8) : Decidable (Framable bytes) :=
  inferInstanceAs (Decidable (_ < _))

/-- A byte string with its length in front, in `width` bytes of the given order. -/
def framed (order : Endian) (width : Nat) (bytes : List UInt8) : List UInt8 :=
  order.bytes width bytes.length ++ bytes

section Frames

variable {order : Endian} {width : Nat}

@[simp] theorem Endian.length_bytes (n : Nat) : (order.bytes width n).length = width := by
  cases order <;> simp [bytes]

/-- A number that fits is known by its bytes, in either order. -/
theorem Endian.bytes_inj {n m : Nat} (small : n < 256 ^ width) (small' : m < 256 ^ width)
    (same : order.bytes width n = order.bytes width m) : n = m := by
  cases order with
  | little => exact littleEndian_inj small small' same
  | big => exact littleEndian_inj small small' (reverse_injective same)

/-- A frame is read in one way only, whatever comes after it. -/
theorem framed_append_inj {bytes bytes' rest rest' : List UInt8}
    (fits : bytes.length < 256 ^ width) (fits' : bytes'.length < 256 ^ width)
    (same : framed order width bytes ++ rest = framed order width bytes' ++ rest') :
    bytes = bytes' ∧ rest = rest' := by
  simp only [framed, append_assoc] at same
  obtain ⟨lengths, contents⟩ := append_inj same (by simp)
  exact append_inj contents (Endian.bytes_inj fits fits' lengths)

/-- A sequence of byte strings is known by its frames. -/
theorem frames_inj {first second : List (List UInt8)} (wide : width ≠ 0)
    (fits : ∀ bytes ∈ first, bytes.length < 256 ^ width)
    (fits' : ∀ bytes ∈ second, bytes.length < 256 ^ width)
    (same : first.flatMap (framed order width) = second.flatMap (framed order width)) :
    first = second := by
  have nonempty (bytes rest : List UInt8) : framed order width bytes ++ rest ≠ [] := by
    intro none
    have := congrArg List.length none
    simp [framed] at this
    omega
  induction first generalizing second with
  | nil =>
    cases second with
    | nil => rfl
    | cons bytes rest => exact absurd same.symm (nonempty _ _)
  | cons bytes rest ih =>
    cases second with
    | nil => exact absurd same (nonempty _ _)
    | cons bytes' rest' =>
      rw [flatMap_cons, flatMap_cons] at same
      obtain ⟨rfl, later⟩ := framed_append_inj (fits _ mem_cons_self) (fits' _ mem_cons_self) same
      rw [ih (fun b mem => fits b (mem_cons_of_mem _ mem))
        (fun b mem => fits' b (mem_cons_of_mem _ mem)) later]

end Frames

/-! ### Separators -/

section Separators

variable {α : Type} [DecidableEq α] {separator : α}

/-- The pieces with the separator before each. -/
def separated (separator : α) (pieces : List (List α)) : List α :=
  pieces.flatMap (separator :: ·)

/-- A piece ends where the next separator stands. -/
theorem takeWhile_separated {piece : List α} (free : separator ∉ piece) (pieces : List (List α)) :
    (piece ++ separated separator pieces).takeWhile (· ≠ separator) = piece := by
  have inside : ∀ a ∈ piece, decide (a ≠ separator) = true := by
    intro a mem
    exact decide_eq_true fun is => free (is ▸ mem)
  rw [takeWhile_append_of_pos inside]
  cases pieces with
  | nil | cons => simp [separated]

theorem separated_inj {first second : List (List α)} (free : ∀ piece ∈ first, separator ∉ piece)
    (free' : ∀ piece ∈ second, separator ∉ piece)
    (same : separated separator first = separated separator second) : first = second := by
  induction first generalizing second with
  | nil =>
    cases second with
    | nil => rfl
    | cons piece rest => cases same
  | cons piece rest ih =>
    cases second with
    | nil => cases same
    | cons piece' rest' =>
      have contents : piece ++ separated separator rest = piece' ++ separated separator rest' :=
        (List.cons.inj same).2
      obtain rfl : piece = piece' := by
        rw [← takeWhile_separated (free _ mem_cons_self) rest, contents,
          takeWhile_separated (free' _ mem_cons_self)]
      rw [ih (fun p mem => free p (mem_cons_of_mem _ mem))
        (fun p mem => free' p (mem_cons_of_mem _ mem)) (append_cancel_left contents)]

end Separators

end Apex.Framing
