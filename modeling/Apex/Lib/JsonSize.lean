import Apex.Lib.JsonFields
import Apex.Lib.TornLines

/-!
How many bytes the text of a document has.

The size of an object is the sum of what its members take, and so is that of an
array, so two records of the same fields can be compared field by field.
-/

namespace Apex

namespace Lines

/-- A text of ASCII characters has one byte a character. -/
theorem byteLength_of_ascii {text} (ascii : ∀ c ∈ text, c.utf8Size = 1) :
    byteLength text = text.length := by
  induction text with
  | nil => rfl
  | cons c rest ih =>
    obtain ⟨one, ascii⟩ := List.forall_mem_cons.mp ascii
    have rest := ih ascii
    simp only [byteLength, List.map_cons, List.sum_cons, List.length_cons, one] at rest ⊢
    omega

end Lines

namespace Json

open Lines JsonFields List

/-- The bytes of a document's text. -/
def size (document : Json) : Nat :=
  byteLength document.render

/-- What a member takes, with the comma or the brace behind it. -/
def memberSize (member : String × Json) : Nat :=
  byteLength (renderString member.1) + 1 + size member.2 + 1

theorem size_renderMembers {members} (some : members ≠ []) :
    byteLength (renderMembers members) = (members.map memberSize).sum := by
  have one : ':'.utf8Size = 1 ∧ ','.utf8Size = 1 ∧ '\x7d'.utf8Size = 1 := by decide
  induction members with
  | nil => exact absurd rfl some
  | cons member rest ih =>
    obtain ⟨key, value⟩ := member
    cases rest with
    | nil =>
      simp only [renderMembers, byteLength_append, byteLength_cons, byteLength_nil, one,
        map_cons, map_nil, sum_cons, sum_nil, memberSize, size]
      omega
    | cons next later =>
      have rest := ih (cons_ne_nil _ _)
      rw [map_cons, sum_cons, ← rest]
      simp only [renderMembers, byteLength_append, byteLength_cons, one, memberSize, size]
      omega

theorem size_obj {members} (some : members ≠ []) :
    size (.obj members) = 1 + (members.map memberSize).sum := by
  have one : '\x7b'.utf8Size = 1 := by decide
  rw [size, render, byteLength_cons, one, size_renderMembers some]

theorem size_renderItems {items} (some : items ≠ []) :
    byteLength (renderItems items) = (items.map fun item => size item + 1).sum := by
  have one : ']'.utf8Size = 1 ∧ ','.utf8Size = 1 := by decide
  induction items with
  | nil => exact absurd rfl some
  | cons item rest ih =>
    cases rest with
    | nil =>
      simp only [renderItems, byteLength_append, byteLength_cons, byteLength_nil, one,
        map_cons, map_nil, sum_cons, sum_nil, size]
      omega
    | cons next later =>
      have rest := ih (cons_ne_nil _ _)
      rw [map_cons, sum_cons, ← rest]
      simp only [renderItems, byteLength_append, byteLength_cons, one, size]
      omega

theorem size_arr {items} (some : items ≠ []) :
    size (.arr items) = 1 + (items.map fun item => size item + 1).sum := by
  have one : '['.utf8Size = 1 := by decide
  rw [size, render, byteLength_cons, one, size_renderItems some]

theorem size_str (value : String) : size (.str value) = byteLength (renderString value) := rfl

/-- A number below a power of ten has at most as many digits as its exponent. -/
theorem size_natural_le {n digits} (positive : 0 < digits) (bound : n < 10 ^ digits) :
    size (natural n) ≤ digits := by
  have ascii : ∀ c ∈ Nat.toDigits 10 n, c.utf8Size = 1 := by
    intro c mem
    have digit := Nat.isDigit_of_mem_toDigits (by decide) (by decide) mem
    rw [Char.utf8Size_eq_one_iff]
    simp only [Char.isDigit, Bool.and_eq_true, decide_eq_true_eq] at digit
    exact UInt32.le_trans digit.2 (by decide)
  have text : (natural n).render = Nat.toDigits 10 n := rfl
  rw [size, text, byteLength_of_ascii ascii]
  exact Nat.toDigits_length 10 n digits positive bound

theorem size_uint64_le (n : UInt64) : size (natural n.toNat) ≤ 20 :=
  size_natural_le (by decide) (lt_trans n.toNat_lt (by decide))

end Json

end Apex
