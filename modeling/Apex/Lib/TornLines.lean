import Apex.Lib.Lines

/-!
Torn writes to line-framed files.

A write of a batch of records that stops early leaves the first so many bytes of
the batch's text behind. `cutBytes` is that text, where the bytes are text at
all. `LineCodec.Stops` says that the write stopped between two lines, so that the
file goes on with whole records.
-/

namespace Apex.Lines

open List

/-- The text of the first so many bytes of a text; `none` where they end inside
a character. -/
def cutBytes : Nat → List Char → Option (List Char)
  | 0, _ => some []
  | _ + 1, [] => some []
  | budget + 1, c :: rest =>
      if c.utf8Size ≤ budget + 1 then (cutBytes (budget + 1 - c.utf8Size) rest).map (c :: ·)
      else none

theorem byteLength_cons (c : Char) (rest : List Char) :
    byteLength (c :: rest) = c.utf8Size + byteLength rest := by
  simp [byteLength]

/-- Records that are written one a line and read back from their text. -/
structure LineCodec (ρ : Type) where
  encode : ρ → List Char
  decode : List Char → Option ρ
  decode_encode : ∀ record, decode (encode record) = some record
  isLine : ∀ record, IsLine (encode record)

namespace LineCodec

variable {ρ : Type} (codec : LineCodec ρ)

/-- The text of a batch of records. -/
def text (batch : List ρ) : List Char :=
  unlines (batch.map codec.encode)

/-- A write of a batch stopped before its first byte or right behind a newline,
and `landed` is what it left in the file. -/
def Stops (reached : Nat) (batch landed : List ρ) : Prop :=
  landed <+: batch ∧ cutBytes reached (codec.text batch) = some (codec.text landed)

theorem text_cons (record : ρ) (rest : List ρ) :
    codec.text (record :: rest) = codec.encode record ++ '\n' :: codec.text rest := by
  simp [text, unlines]

theorem isLines (records : List ρ) : ∀ line ∈ records.map codec.encode, IsLine line := by
  intro line mem
  obtain ⟨record, -, rfl⟩ := mem_map.mp mem
  exact codec.isLine record

/-- A text is the text of one list of records. -/
theorem text_injective : Function.Injective codec.text := by
  intro first second same
  have encoded : first.map codec.encode = second.map codec.encode := by
    rw [← lines_unlines (codec.isLines first), ← lines_unlines (codec.isLines second)]
    exact congrArg lines same
  refine map_injective_iff.mpr ?_ encoded
  intro record other equal
  have decoded := congrArg codec.decode equal
  rw [codec.decode_encode, codec.decode_encode] at decoded
  exact Option.some.inj decoded

theorem text_append (first second : List ρ) :
    codec.text (first ++ second) = codec.text first ++ codec.text second := by
  rw [text, map_append, unlines_append]
  rfl

end LineCodec

end Apex.Lines
