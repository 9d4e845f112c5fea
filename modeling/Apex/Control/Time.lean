import Apex.Identifiers

/-!
The clock of command identities: the milliseconds a UUIDv7 carries, the window
they are accepted in, and the timestamp they are written as.
-/

namespace Apex.Control

def maxCommandIdFutureSkewMs : Nat := 5 * 60 * 1000

def maxCommandIdAgeMs : Nat := 24 * 60 * 60 * 1000

/-- `uuidv7_unix_millis`: the milliseconds in a canonical lowercase UUIDv7. The
variant digit is not looked at. -/
def uuidv7UnixMillis (commandId : String) : Option Nat :=
  if isHyphenatedLowerHex commandId.toList && uuidVersionIs7 commandId.toList then
    some (uuidUnixMillis commandId)
  else none

def commandMillisWithinAcceptanceWindow (commandMillis nowMillis : Nat) : Bool :=
  if nowMillis < commandMillis then commandMillis - nowMillis ≤ maxCommandIdFutureSkewMs
  else nowMillis - commandMillis ≤ maxCommandIdAgeMs

/-- `civil_from_days`: year, month and day of a day counted from the Unix
epoch. The divisions truncate, as the source's do. -/
def civilFromDays (z : Int) : Int × Nat × Nat :=
  let z := z + 719468
  let era := (if 0 ≤ z then z else z - 146096).tdiv 146097
  let doe := (z - era * 146097).toNat
  let yoe := (doe - doe / 1460 + doe / 36524 - doe / 146096) / 365
  let y := (yoe : Int) + era * 400
  let doy := doe - (365 * yoe + yoe / 4 - yoe / 100)
  let mp := (5 * doy + 2) / 153
  let d := doy - (153 * mp + 2) / 5 + 1
  let m := if mp < 10 then mp + 3 else mp - 9
  (if m ≤ 2 then y + 1 else y, m, d)

/-- A number in decimal, padded with zeros to a width. -/
def padded (width : Nat) (n : Nat) : String :=
  let digits := Nat.toDigits 10 n
  String.ofList (List.replicate (width - digits.length) '0' ++ digits)

/-- `format_rfc3339_micros`. -/
def formatRfc3339Micros (totalMicros : Nat) : String :=
  let secs := totalMicros / 1000000
  let micros := totalMicros % 1000000
  let (year, month, day) := civilFromDays (secs / 86400 : Nat)
  let secsOfDay := secs % 86400
  padded 4 year.toNat ++ "-" ++ padded 2 month ++ "-" ++ padded 2 day ++ "T" ++
    padded 2 (secsOfDay / 3600) ++ ":" ++ padded 2 (secsOfDay % 3600 / 60) ++ ":" ++
    padded 2 (secsOfDay % 60) ++ "." ++ padded 6 micros ++ "Z"

end Apex.Control
