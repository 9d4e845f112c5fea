import Mathlib

/-!
Text predicates of the Rust standard library, over the characters of a string.

`str::len` counts UTF-8 bytes (`String.utf8ByteSize`). A byte predicate that
only ASCII bytes can meet says the same of a string's characters as of its
bytes, so the per-byte scans of the sources are per-character scans here.
-/

namespace Apex.Text

open List

/-- `char::is_control`: the Unicode category `Cc`. -/
def isControl (c : Char) : Bool :=
  c.toNat < 0x20 || (0x7f ≤ c.toNat && c.toNat ≤ 0x9f)

/-- `char::is_whitespace`: the Unicode property `White_Space`. -/
def isWhitespace (c : Char) : Bool :=
  let n := c.toNat
  (0x09 ≤ n && n ≤ 0x0d) || n == 0x20 || n == 0x85 || n == 0xa0 || n == 0x1680 ||
    (0x2000 ≤ n && n ≤ 0x200a) || n == 0x2028 || n == 0x2029 || n == 0x202f || n == 0x205f ||
    n == 0x3000

/-- A lowercase hexadecimal digit. -/
def isLowerHex (c : Char) : Bool :=
  c.isDigit || ('a'.toNat ≤ c.toNat && c.toNat ≤ 'f'.toNat)

/-- A checksum of 64 hexadecimal digits, in the place of SHA-256 in runs on concrete
inputs. -/
def checksum (values : List Nat) : String :=
  String.ofList (Nat.toDigits 16
    (16 ^ 63 + values.foldl (fun sum value => (sum * 257 + value) % 16 ^ 63) 0))

/-- `str::starts_with`. -/
def startsWith (value : String) (start : String) : Bool :=
  start.toList.isPrefixOf value.toList

/-- `str::strip_prefix`. -/
def stripPrefix (value : String) (start : String) : Option String :=
  if startsWith value start then some (String.ofList (value.toList.drop start.toList.length))
  else none

/-- The needle occurs in the text as a run of neighbouring characters. -/
def infixOf (needle : List Char) : List Char → Bool
  | [] => needle.isEmpty
  | c :: rest => needle.isPrefixOf (c :: rest) || infixOf needle rest

/-- `str::contains` of a string pattern. -/
def contains (value : String) (needle : String) : Bool :=
  infixOf needle.toList value.toList

/-- `str::split` at one character: the pieces between its occurrences. -/
def splitAt (separator : Char) (text : List Char) : List (List Char) :=
  text.foldr (fun c pieces =>
    if c = separator then [] :: pieces
    else match pieces with
      | [] => [[c]]
      | piece :: others => (c :: piece) :: others) [[]]

/-- `str::trim_matches` of a set of characters. -/
def trimMatches (strip : Char → Bool) (text : List Char) : List Char :=
  ((text.dropWhile strip).reverse.dropWhile strip).reverse

/-- `str::to_ascii_lowercase`. -/
def toAsciiLower (text : List Char) : List Char :=
  text.map fun c => if c.isUpper then c.toLower else c

/-! ### Bytes, sizes and occurrences -/

/-- A text is known by its bytes. -/
theorem bytes_inj {first second : String}
    (same : first.toByteArray.data.toList = second.toByteArray.data.toList) : first = second := by
  apply String.toByteArray_inj.mp
  apply ByteArray.ext
  exact Array.toList_inj.mp same

/-- A text of ASCII characters has as many bytes as characters. -/
theorem utf8ByteSize_of_ascii {value : String} (ascii : ∀ c ∈ value.toList, c.toNat < 128) :
    value.utf8ByteSize = value.toList.length := by
  have size : ∀ text : List Char, (∀ c ∈ text, c.toNat < 128) →
      (String.ofList text).utf8ByteSize = text.length := by
    intro text
    induction text with
    | nil =>
      intro _
      rfl
    | cons c rest ih =>
      intro ascii
      have one : c.utf8Size = 1 := by
        rw [Char.utf8Size_eq_one_iff, UInt32.le_iff_toNat_le]
        exact Nat.le_of_lt_succ (ascii c mem_cons_self)
      rw [String.ofList_cons, String.utf8ByteSize_append, String.utf8ByteSize_singleton, one,
        ih (fun d mem => ascii d (mem_cons_of_mem _ mem)), length_cons, Nat.add_comm]
  rw [← size _ ascii, String.ofList_toList]

/-- What occurs in the end of a text occurs in the text. -/
theorem infixOf_append {needle : List Char} (start : List Char) {rest : List Char}
    (occurs : infixOf needle rest = true) : infixOf needle (start ++ rest) = true := by
  induction start with
  | nil => exact occurs
  | cons c start ih => rw [cons_append, infixOf, ih, Bool.or_true]

/-- A needle whose first character a text does not have does not occur in it. -/
theorem infixOf_of_notMem {c : Char} {needle text : List Char} (absent : c ∉ text) :
    infixOf (c :: needle) text = false := by
  induction text with
  | nil => rfl
  | cons d rest ih =>
    rw [mem_cons, not_or] at absent
    rw [infixOf, ih absent.2, isPrefixOf_cons_cons, beq_false_of_ne absent.1, Bool.false_and,
      Bool.or_false]

end Apex.Text
