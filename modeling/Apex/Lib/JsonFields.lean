import Apex.Lib.Checked
import Apex.Lib.JsonReader
import Apex.Lib.Lines

/-!
Reading typed fields out of a JSON object, as derived deserializers do: a
field that is missing or given twice is refused, unknown fields are ignored,
and an integer must fit the type it is read into.
-/

namespace Apex.JsonFields

/-- The members of an object. -/
def asObject : Json → Option (List (String × Json))
  | .obj members => some members
  | _ => none

/-- A required field. -/
def field (members : List (String × Json)) (name : String) : Option Json :=
  match members.filter (fun member => member.1 = name) with
  | [(_, value)] => some value
  | _ => none

/-- A field that may be missing. -/
def fieldOr (members : List (String × Json)) (name : String) (missing : Json) : Option Json :=
  match members.filter (fun member => member.1 = name) with
  | [] => some missing
  | [(_, value)] => some value
  | _ => none

def asString : Json → Option String
  | .str value => some value
  | _ => none

/-- An integer below `bound`. -/
def asBounded (bound : Nat) : Json → Option Nat
  | .int (.ofNat n) => if n < bound then some n else none
  | _ => none

def asUInt8 (document : Json) : Option UInt8 :=
  (asBounded UInt8.size document).map UInt8.ofNat

def asUInt32 (document : Json) : Option UInt32 :=
  (asBounded UInt32.size document).map UInt32.ofNat

def asUInt64 (document : Json) : Option UInt64 :=
  (asBounded UInt64.size document).map UInt64.ofNat

/-- `null` is an absent value. -/
def asOption {α : Type} (read : Json → Option α) : Json → Option (Option α)
  | .null => some none
  | document => (read document).map some

/-- An array of bytes, as `serde_json` writes a `Vec<u8>`. -/
def asBytes : Json → Option (List UInt8)
  | .arr items => items.mapM asUInt8
  | _ => none

/-- The document of a natural number. -/
def natural (n : Nat) : Json :=
  .int n

/-- The document of a byte array. -/
def bytes (content : List UInt8) : Json :=
  .arr (content.map fun byte => natural byte.toNat)

/-- The document of a text that may be absent. -/
def optionalText (value : Option String) : Json :=
  match value with
  | none => .null
  | some text => .str text

theorem asBounded_natural {bound n : Nat} (fits : n < bound) :
    asBounded bound (natural n) = some n :=
  if_pos fits

@[simp] theorem asUInt8_natural (n : UInt8) : asUInt8 (natural n.toNat) = some n := by
  rw [asUInt8, asBounded_natural n.toNat_lt, Option.map_some, UInt8.ofNat_toNat]

@[simp] theorem asUInt32_natural (n : UInt32) : asUInt32 (natural n.toNat) = some n := by
  rw [asUInt32, asBounded_natural n.toNat_lt, Option.map_some, UInt32.ofNat_toNat]

@[simp] theorem asUInt64_natural (n : UInt64) : asUInt64 (natural n.toNat) = some n := by
  rw [asUInt64, asBounded_natural n.toNat_lt, Option.map_some, UInt64.ofNat_toNat]

@[simp] theorem asString_str (value : String) : asString (.str value) = some value := rfl

@[simp] theorem asOption_optionalText (value : Option String) :
    asOption asString (optionalText value) = some value := by
  cases value <;> rfl

@[simp] theorem asBytes_bytes (content : List UInt8) : asBytes (bytes content) = some content :=
  Checked.mapM_map_some asUInt8_natural content

/-- One field of a record is read, then the others. -/
theorem read_then {α β : Type} {read : Option α} {a : α} {others : α → Option β} {b : β}
    (first : read = some a) (rest : others a = some b) : (read >>= others) = some b := by
  rw [first]
  exact rest

/-- A rendered document stands on one line. -/
theorem isLine_render (document : Json) : Lines.IsLine document.render := by
  intro c mem
  have printable := JsonReader.render_printable document c mem
  constructor
  · rintro rfl; exact absurd printable (by decide)
  · rintro rfl; exact absurd printable (by decide)

end Apex.JsonFields
