import Mathlib

/-!
IP addresses and the text form the Rust standard library parses.

An address is its 32-bit or 128-bit number, so a block of addresses is a number
and a count of leading bits. The reader follows `core::net::parser`: each step
takes a prefix of the text or fails without taking anything, and an address is
accepted only when nothing is left.
-/

namespace Apex.Net

/-- An address of either family, as a number in network byte order. -/
inductive IpAddr where
  | v4 (bits : Nat)
  | v6 (bits : Nat)
  deriving DecidableEq, Repr

/-- The digit a character stands for, if it is one in this radix. -/
def toDigit (radix : Nat) (c : Char) : Option Nat :=
  let value :=
    if c.isDigit then some (c.toNat - '0'.toNat)
    else if c.isLower then some (c.toNat - 'a'.toNat + 10)
    else if c.isUpper then some (c.toNat - 'A'.toNat + 10)
    else none
  value.filter (· < radix)

/-- `read_number`: a run of at most `maxDigits` digits below `limit`. A leading
zero is refused when `zeroPrefix` is off and more digits follow. -/
def readNumber (radix maxDigits limit : Nat) (zeroPrefix : Bool) (text : List Char) :
    Option (Nat × List Char) :=
  let digits := text.takeWhile fun c => (toDigit radix c).isSome
  let value := digits.foldl (fun n c => n * radix + (toDigit radix c).getD 0) 0
  if digits.isEmpty || maxDigits < digits.length then none
  else if !zeroPrefix && digits.head? == some '0' && 1 < digits.length then none
  else if value < limit then some (value, text.drop digits.length)
  else none

/-- `read_given_char`. -/
def readChar (c : Char) : List Char → Option (List Char)
  | [] => none
  | d :: rest => if d = c then some rest else none

/-- `read_separator`: the separator is read first except before the group with
index zero. -/
def readSeparator {α : Type} (separator : Char) (index : Nat)
    (inner : List Char → Option (α × List Char)) (text : List Char) : Option (α × List Char) :=
  if index = 0 then inner text else (readChar separator text).bind inner

/-- `count` decimal octets from group `index` on, most significant first. -/
def readOctets : (count index bits : Nat) → List Char → Option (Nat × List Char)
  | 0, _, bits, text => some (bits, text)
  | count + 1, index, bits, text => do
      let (octet, rest) ← readSeparator '.' index (readNumber 10 3 256 false) text
      readOctets count (index + 1) (bits * 256 + octet) rest

/-- `read_ipv4_addr`. -/
def readIpv4 (text : List Char) : Option (Nat × List Char) :=
  readOctets 4 0 0 text

/-- What `read_groups` leaves: the 16-bit groups in order, whether an embedded
IPv4 address ended them, and the rest of the text. -/
structure Groups where
  groups : List Nat
  embedded : Bool
  rest : List Char
  deriving DecidableEq, Repr

/-- `read_groups`: `left` more groups may be read from group `index` on. An
embedded IPv4 address is tried first while two groups are left. -/
def readGroups : (left index : Nat) → List Char → Groups
  | 0, _, text => ⟨[], false, text⟩
  | left + 1, index, text =>
      match if 0 < left then readSeparator ':' index readIpv4 text else none with
      | some (bits, rest) => ⟨[bits / 65536, bits % 65536], true, rest⟩
      | none =>
          match readSeparator ':' index (readNumber 16 4 65536 true) text with
          | some (group, rest) =>
              let later := readGroups left (index + 1) rest
              ⟨group :: later.groups, later.embedded, later.rest⟩
          | none => ⟨[], false, text⟩

/-- The 128-bit number of eight groups. -/
def groupBits (groups : List Nat) : Nat :=
  groups.foldl (fun bits group => bits * 65536 + group) 0

/-- `read_ipv6_addr`: eight groups, or a head and a tail around one `::` that
stands for at least one zero group. -/
def readIpv6 (text : List Char) : Option (Nat × List Char) :=
  let head := readGroups 8 0 text
  if head.groups.length = 8 then some (groupBits head.groups, head.rest)
  else if head.embedded then none
  else do
    let rest ← readChar ':' head.rest
    let rest ← readChar ':' rest
    let tail := readGroups (7 - head.groups.length) 0 rest
    let zeros := List.replicate (8 - head.groups.length - tail.groups.length) 0
    some (groupBits (head.groups ++ zeros ++ tail.groups), tail.rest)

/-- `str::parse::<IpAddr>`. -/
def parse (text : List Char) : Option IpAddr :=
  match readIpv4 text with
  | some (bits, rest) => if rest.isEmpty then some (.v4 bits) else none
  | none =>
      match readIpv6 text with
      | some (bits, rest) => if rest.isEmpty then some (.v6 bits) else none
      | none => none

example : parse "192.168.0.1".toList = some (.v4 0xc0a80001) := by decide
example : parse "192.168.01.1".toList = none := by decide
example : parse "::ffff:10.0.0.1".toList = some (.v6 0xffff0a000001) := by decide
example : parse "fe80::1:2".toList = some (.v6 (0xfe80 * 2 ^ 112 + 0x10002)) := by decide

/-- The first `length` bits of a `width`-bit number are those of `network`. -/
def inBlock (width network length bits : Nat) : Bool :=
  bits / 2 ^ (width - length) == network / 2 ^ (width - length)

end Apex.Net
