import Apex.Lib.Text

/-!
Identifiers shared by the services: exact scopes, scope identifiers and
lowercase UUIDv7 values.
-/

namespace Apex

open List Bool

/-- One workspace and namespace. -/
structure ExactScope where
  workspaceId : String
  namespaceId : String
  deriving DecidableEq, Repr

/-- `is_scope_identifier`. -/
def isScopeIdentifier (value : String) : Bool :=
  !value.isEmpty && value.utf8ByteSize ≤ 256 && !Text.contains value ".." &&
    value.toList.all fun c => c.isAlphanum || c == '.' || c == '_' || c == ':' || c == '-'

/-- The positions of the four hyphens in the text of a UUID. -/
def isHyphenIndex (index : Nat) : Bool :=
  index == 8 || index == 13 || index == 18 || index == 23

/-- A 36-character text with hyphens where a UUID has them and lowercase
hexadecimal digits everywhere else. -/
def isHyphenatedLowerHex (text : List Char) : Bool :=
  text.length == 36 && text[8]? == some '-' && text[13]? == some '-' && text[18]? == some '-' &&
    text[23]? == some '-' &&
    text.zipIdx.all fun (c, index) => isHyphenIndex index || Text.isLowerHex c

/-- The version digit of a UUID's text. -/
def uuidVersionIs7 (text : List Char) : Bool :=
  text[14]? == some '7'

/-- The variant digit of a UUID's text is one of the four of the standard
layout. -/
def uuidVariantStandard (text : List Char) : Bool :=
  match text[19]? with
  | some c => c == '8' || c == '9' || c == 'a' || c == 'b'
  | none => false

/-- `is_lowercase_uuidv7`. -/
def isLowercaseUuidV7 (value : String) : Bool :=
  isHyphenatedLowerHex value.toList && uuidVersionIs7 value.toList &&
    uuidVariantStandard value.toList

/-- The value of a lowercase hexadecimal digit. -/
def hexValue (c : Char) : Nat :=
  if c.isDigit then c.toNat - '0'.toNat else c.toNat - 'a'.toNat + 10

/-- The milliseconds a UUIDv7 carries in its first 48 bits. -/
def uuidUnixMillis (value : String) : Nat :=
  ((value.toList.filter (· != '-')).take 12).foldl (fun n c => n * 16 + hexValue c) 0

/-- Every lowercase UUIDv7 is 36 characters long. -/
theorem length_of_isLowercaseUuidV7 {value} (valid : isLowercaseUuidV7 value = true) :
    value.toList.length = 36 := by
  simp only [isLowercaseUuidV7, isHyphenatedLowerHex, and_eq_true, beq_iff_eq] at valid
  exact valid.1.1.1.1.1.1.1

/-- The text of a UUID is made of hyphens and lowercase hexadecimal digits. -/
theorem mem_of_isHyphenatedLowerHex {text} (valid : isHyphenatedLowerHex text = true) {c}
    (mem : c ∈ text) : c = '-' ∨ Text.isLowerHex c = true := by
  simp only [isHyphenatedLowerHex, and_eq_true, beq_iff_eq, all_eq_true] at valid
  obtain ⟨⟨⟨⟨⟨-, h8⟩, h13⟩, h18⟩, h23⟩, digits⟩ := valid
  obtain ⟨index, found⟩ := mem_iff_getElem?.mp mem
  rcases or_eq_true _ _ |>.mp
    (digits (c, index) (mem_zipIdx_iff_getElem?.mpr found)) with hyphen | digit
  · left
    simp only [isHyphenIndex, or_eq_true, beq_iff_eq] at hyphen
    rcases hyphen with ((rfl | rfl) | rfl) | rfl <;>
      simp_all only [Option.some.injEq]
  · exact .inr digit

theorem isAlphanum_of_isLowerHex {c} (digit : Text.isLowerHex c = true) :
    c.isAlphanum = true := by
  simp only [Text.isLowerHex, or_eq_true, and_eq_true, decide_eq_true_eq] at digit
  rcases digit with digit | ⟨low, high⟩
  · simp [Char.isAlphanum, digit]
  · have lower : c.isLower = true := by
      simp only [Char.isLower, and_eq_true, decide_eq_true_eq, ge_iff_le, UInt32.le_iff_toNat_le]
      exact ⟨low, Nat.le_trans high (by decide)⟩
    simp [Char.isAlphanum, Char.isAlpha, lower]

theorem toNat_lt_of_isAlphanum {c : Char} (letter : c.isAlphanum = true) : c.toNat < 128 := by
  simp only [Char.isAlphanum, Char.isAlpha, Char.isUpper, Char.isLower, Char.isDigit,
    or_eq_true, and_eq_true, decide_eq_true_eq, ge_iff_le, UInt32.le_iff_toNat_le]
    at letter
  show c.val.toNat < 128
  rcases letter with (⟨-, high⟩ | ⟨-, high⟩) | ⟨-, high⟩ <;>
    exact Nat.lt_of_le_of_lt high (by decide)

/-- Every lowercase UUIDv7 is a scope identifier. -/
theorem isScopeIdentifier_of_isLowercaseUuidV7 {value} (valid : isLowercaseUuidV7 value = true) :
    isScopeIdentifier value = true := by
  have length := length_of_isLowercaseUuidV7 valid
  simp only [isLowercaseUuidV7, Bool.and_eq_true] at valid
  have char {c : Char} (mem : c ∈ value.toList) : c = '-' ∨ c.isAlphanum = true :=
    (mem_of_isHyphenatedLowerHex valid.1.1 mem).imp_right isAlphanum_of_isLowerHex
  have size : value.utf8ByteSize = 36 := by
    rw [← length]
    apply Text.utf8ByteSize_of_ascii
    intro c mem
    rcases char mem with rfl | letter
    · decide
    · exact toNat_lt_of_isAlphanum letter
  have dot : '.' ∉ value.toList := by
    intro mem
    rcases char mem with is | letter
    · exact absurd is (by decide)
    · exact absurd letter (by decide)
  have nonempty : value.isEmpty = false := by
    rw [← Bool.not_eq_true, String.isEmpty_iff_utf8ByteSize_eq_zero, size]
    decide
  have undotted : Text.contains value ".." = false := Text.infixOf_of_notMem dot
  simp only [isScopeIdentifier, nonempty, undotted, size, Bool.not_false, Bool.true_and,
    Bool.and_true, Bool.and_eq_true, List.all_eq_true, decide_eq_true_eq]
  refine ⟨by decide, ?_⟩
  intro c mem
  rcases char mem with rfl | letter
  · decide
  · simp [letter]

end Apex
