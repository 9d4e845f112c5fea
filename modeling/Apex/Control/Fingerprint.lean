import Apex.Control.Envelope
import Apex.Lib.Framing

/-!
The fingerprint two approvals of one `force_stop` must agree on.

It is the SHA-256 of a byte stream: the fields of the request and then its
parameters, every piece with its length in front. A struct is written as its
number of entries and its entries in the order of their names, a value as a tag
and its content. `fingerprintStream_eq_iff` says that two requests have one
stream exactly when they have the same fields and, as maps, the same parameters.
-/

namespace Apex.Control

open Domain Framing List

/-- `str::as_bytes`. -/
def textBytes (value : String) : List UInt8 :=
  value.toByteArray.data.toList

/-- The bytes of a `usize` length as a `u64`. -/
def countBytes (count : Nat) : List UInt8 :=
  littleEndian 8 count

/-- Entries in the order of their names. -/
def sortEntries {α : Type} (entries : List (String × α)) : List (String × α) :=
  entries.insertionSort fun a b => a.1 ≤ b.1

mutual

/-- `canonical_value`: the pieces a value is written as. -/
def canonicalValue : Value → List (List UInt8)
  | .unset => [[0]]
  | .null raw => [[1], littleEndian 4 raw.toUInt32.toNat]
  | .number bits => [[2], littleEndian 8 bits.toNat]
  | .text value => [[3], textBytes value]
  | .bool value => [[4], [if value then 1 else 0]]
  | .struct fields =>
      [5] :: countBytes fields.length ::
        (sortEntries (canonicalEntries fields)).flatMap fun entry => textBytes entry.1 :: entry.2
  | .list values => [6] :: countBytes values.length :: canonicalValues values

/-- The pieces of each entry's value. -/
def canonicalEntries : List (String × Value) → List (String × List (List UInt8))
  | [] => []
  | (key, value) :: rest => (key, canonicalValue value) :: canonicalEntries rest

def canonicalValues : List Value → List (List UInt8)
  | [] => []
  | value :: rest => canonicalValue value ++ canonicalValues rest

end

/-- `canonical_struct`. -/
def canonicalStruct (fields : Struct) : List (List UInt8) :=
  countBytes fields.length ::
    (sortEntries (canonicalEntries fields)).flatMap fun entry => textBytes entry.1 :: entry.2

/-- The pieces of a request. -/
def fingerprintPieces (input : ControlCommandInput) : List (List UInt8) :=
  [textBytes input.agentId, textBytes input.runId, textBytes (input.parentRunId.getD ""),
    textBytes input.traceId, littleEndian 4 input.action.number,
    textBytes (input.reasonCode.getD "")] ++ canonicalStruct (input.parameters.getD [])

/-- What is fed to the hash. -/
def fingerprintStream (input : ControlCommandInput) : List UInt8 :=
  (fingerprintPieces input).flatMap frame

def fingerprint (platform : Platform) (input : ControlCommandInput) : Outbox.Fingerprint :=
  platform.sha256 (fingerprintStream input)

/-! ### Structs as maps -/

mutual

/-- A value with the entries of its structs in the order of their names. -/
def normalValue : Value → Value
  | .unset => .unset
  | .null raw => .null raw
  | .number bits => .number bits
  | .text value => .text value
  | .bool value => .bool value
  | .struct fields => .struct (sortEntries (normalEntries fields))
  | .list values => .list (normalValues values)

def normalEntries : List (String × Value) → List (String × Value)
  | [] => []
  | (key, value) :: rest => (key, normalValue value) :: normalEntries rest

def normalValues : List Value → List Value
  | [] => []
  | value :: rest => normalValue value :: normalValues rest

end

/-- A struct as a map: its entries in the order of their names, at every depth. -/
def normalStruct (fields : Struct) : Struct :=
  sortEntries (normalEntries fields)

mutual

/-- The pieces of a value whose entries are written in the order they have. -/
def pieces : Value → List (List UInt8)
  | .unset => [[0]]
  | .null raw => [[1], littleEndian 4 raw.toUInt32.toNat]
  | .number bits => [[2], littleEndian 8 bits.toNat]
  | .text value => [[3], textBytes value]
  | .bool value => [[4], [if value then 1 else 0]]
  | .struct fields => [5] :: countBytes fields.length :: entryPieces fields
  | .list values => [6] :: countBytes values.length :: valuePieces values

def entryPieces : List (String × Value) → List (List UInt8)
  | [] => []
  | (key, value) :: rest => textBytes key :: (pieces value ++ entryPieces rest)

def valuePieces : List Value → List (List UInt8)
  | [] => []
  | value :: rest => pieces value ++ valuePieces rest

end

theorem entryPieces_eq (fields : List (String × Value)) :
    entryPieces fields = fields.flatMap fun entry => textBytes entry.1 :: pieces entry.2 := by
  induction fields with
  | nil => rfl
  | cons entry rest ih =>
    rw [entryPieces, ih, flatMap_cons]
    rfl

/-- Sorting looks at the names only. -/
theorem sortEntries_map {α β : Type} (f : α → β) (entries : List (String × α)) :
    sortEntries (entries.map fun entry => (entry.1, f entry.2)) =
      (sortEntries entries).map fun entry => (entry.1, f entry.2) := by
  refine (map_insertionSort _ _ _ _ ?_).symm
  intro a _ b _
  exact Iff.rfl

theorem length_sortEntries {α : Type} (entries : List (String × α)) :
    (sortEntries entries).length = entries.length :=
  length_insertionSort _ _

theorem mem_sortEntries {α : Type} {entry} {entries : List (String × α)} :
    entry ∈ sortEntries entries ↔ entry ∈ entries :=
  mem_insertionSort _

theorem length_normalEntries (fields : List (String × Value)) :
    (normalEntries fields).length = fields.length := by
  induction fields with
  | nil => rfl
  | cons entry rest ih => rw [normalEntries, length_cons, length_cons, ih]

theorem length_normalValues (values : List Value) :
    (normalValues values).length = values.length := by
  induction values with
  | nil => rfl
  | cons value rest ih => rw [normalValues, length_cons, length_cons, ih]

mutual

/-- Writing the entries of every struct in the order of their names is writing
the value as a map. -/
theorem canonicalValue_eq : ∀ value : Value, canonicalValue value = pieces (normalValue value)
  | .unset | .null _ | .number _ | .text _ | .bool _ => rfl
  | .struct fields => by
      rw [canonicalValue, normalValue, pieces, length_sortEntries, length_normalEntries,
        entryPieces_eq, canonicalEntries_eq, sortEntries_map, List.flatMap_map]
  | .list values => by
      rw [canonicalValue, normalValue, pieces, length_normalValues, canonicalValues_eq]

theorem canonicalEntries_eq : ∀ fields : List (String × Value),
    canonicalEntries fields = (normalEntries fields).map fun entry => (entry.1, pieces entry.2)
  | [] => rfl
  | (key, value) :: rest => by
      rw [canonicalEntries, normalEntries, List.map_cons, canonicalValue_eq value,
        canonicalEntries_eq rest]

theorem canonicalValues_eq : ∀ values : List Value,
    canonicalValues values = valuePieces (normalValues values)
  | [] => rfl
  | value :: rest => by
      rw [canonicalValues, normalValues, valuePieces, canonicalValue_eq value,
        canonicalValues_eq rest]

end

theorem canonicalStruct_eq (fields : Struct) :
    canonicalStruct fields = countBytes (normalStruct fields).length ::
      entryPieces (normalStruct fields) := by
  rw [canonicalStruct, normalStruct, length_sortEntries, length_normalEntries, entryPieces_eq,
    canonicalEntries_eq, sortEntries_map, flatMap_map]

/-! ### Reading a stream -/

mutual

/-- Every text, struct and list of a value has a length that fits eight bytes,
as all of them have in memory. -/
def Addressable : Value → Bool
  | .unset | .null _ | .number _ | .bool _ => true
  | .text value => value.utf8ByteSize < 2 ^ 64
  | .struct fields => fields.length < 2 ^ 64 && addressableEntries fields
  | .list values => values.length < 2 ^ 64 && addressableValues values

def addressableEntries : List (String × Value) → Bool
  | [] => true
  | (key, value) :: rest =>
      key.utf8ByteSize < 2 ^ 64 && Addressable value && addressableEntries rest

def addressableValues : List Value → Bool
  | [] => true
  | value :: rest => Addressable value && addressableValues rest

end

theorem textBytes_inj {first second} (same : textBytes first = textBytes second) :
    first = second :=
  Text.bytes_inj same

theorem countBytes_inj {n m : Nat} (small : n < 2 ^ 64) (small' : m < 2 ^ 64)
    (same : countBytes n = countBytes m) : n = m :=
  @littleEndian_inj 8 n m (by omega) (by omega) same

theorem rawBytes_inj {first second : Int32}
    (same : littleEndian 4 first.toUInt32.toNat = littleEndian 4 second.toUInt32.toNat) :
    first = second := by
  have bound (raw : Int32) : raw.toUInt32.toNat < 256 ^ 4 := raw.toUInt32.toNat_lt
  have numbers := littleEndian_inj (bound first) (bound second) same
  exact Int32.toBitVec.inj (congrArg UInt32.toBitVec (UInt32.toNat_inj.mp numbers))

theorem bitsBytes_inj {first second : UInt64}
    (same : littleEndian 8 first.toNat = littleEndian 8 second.toNat) : first = second := by
  have bound (bits : UInt64) : bits.toNat < 256 ^ 8 := bits.toNat_lt
  exact UInt64.toNat_inj.mp (littleEndian_inj (bound first) (bound second) same)

/-- The tag a value's pieces begin with. -/
def valueTag : Value → UInt8
  | .unset => 0
  | .null _ => 1
  | .number _ => 2
  | .text _ => 3
  | .bool _ => 4
  | .struct _ => 5
  | .list _ => 6

theorem head_pieces (value : Value) : (pieces value).head? = some [valueTag value] := by
  cases value <;> rfl

theorem valueTag_eq {first second rest rest'}
    (same : pieces first ++ rest = pieces second ++ rest') : valueTag first = valueTag second := by
  have heads := congrArg List.head? same
  simpa [List.head?_append, head_pieces] using heads

mutual

/-- The pieces of a value are read in one way only, whatever comes after them:
the tag says which kind of value it is, and a count how many parts it has. -/
theorem pieces_append_inj : ∀ {first second rest rest'},
    Addressable first = true → Addressable second = true →
    pieces first ++ rest = pieces second ++ rest' → first = second ∧ rest = rest'
  | first, second, rest, rest', fits, fits', same => by
      have tags := valueTag_eq same
      -- Values of different kinds differ in their tags.
      cases first <;> cases second <;> simp +decide only [valueTag] at tags
      all_goals simp only [pieces, cons_append, nil_append, List.cons.injEq, and_true,
        true_and] at same
      case unset.unset => exact ⟨rfl, same⟩
      case null.null raw raw' => exact ⟨by rw [rawBytes_inj same.1], same.2⟩
      case number.number bits bits' => exact ⟨by rw [bitsBytes_inj same.1], same.2⟩
      case text.text value value' => exact ⟨by rw [textBytes_inj same.1], same.2⟩
      case bool.bool value value' =>
        refine ⟨?_, same.2⟩
        have flags := same.1
        cases value <;> cases value' <;> first | rfl | exact absurd flags (by decide)
      case struct.struct fields fields' =>
        simp only [Addressable, Bool.and_eq_true, decide_eq_true_eq] at fits fits'
        have count := countBytes_inj fits.1 fits'.1 same.1
        obtain ⟨rfl, later⟩ := entryPieces_append_inj fits.2 fits'.2 count same.2
        exact ⟨rfl, later⟩
      case list.list values values' =>
        simp only [Addressable, Bool.and_eq_true, decide_eq_true_eq] at fits fits'
        have count := countBytes_inj fits.1 fits'.1 same.1
        obtain ⟨rfl, later⟩ := valuePieces_append_inj fits.2 fits'.2 count same.2
        exact ⟨rfl, later⟩

theorem entryPieces_append_inj : ∀ {first second rest rest'}, addressableEntries first = true →
    addressableEntries second = true → first.length = second.length →
    entryPieces first ++ rest = entryPieces second ++ rest' → first = second ∧ rest = rest'
  | [], [], _, _, _, _, _, same => ⟨rfl, same⟩
  | (key, value) :: first, (key', value') :: second, rest, rest', fits, fits', count, same => by
      simp only [addressableEntries, Bool.and_eq_true] at fits fits'
      simp only [entryPieces, List.cons_append, List.append_assoc, List.cons.injEq] at same
      obtain ⟨rfl, later⟩ := pieces_append_inj fits.1.2 fits'.1.2 same.2
      obtain ⟨rfl, last⟩ := entryPieces_append_inj fits.2 fits'.2 (Nat.succ.inj count) later
      rw [textBytes_inj same.1]
      exact ⟨rfl, last⟩

theorem valuePieces_append_inj : ∀ {first second rest rest'},
    addressableValues first = true → addressableValues second = true →
    first.length = second.length → valuePieces first ++ rest = valuePieces second ++ rest' →
    first = second ∧ rest = rest'
  | [], [], _, _, _, _, _, same => ⟨rfl, same⟩
  | value :: first, value' :: second, rest, rest', fits, fits', count, same => by
      simp only [addressableValues, Bool.and_eq_true] at fits fits'
      simp only [valuePieces, List.append_assoc] at same
      obtain ⟨rfl, later⟩ := pieces_append_inj fits.1 fits'.1 same
      obtain ⟨rfl, last⟩ := valuePieces_append_inj fits.2 fits'.2 (Nat.succ.inj count) later
      exact ⟨rfl, last⟩

end

/-! ### Lengths -/

theorem addressableEntries_iff {fields} :
    addressableEntries fields = true ↔
      ∀ entry ∈ fields, entry.1.utf8ByteSize < 2 ^ 64 ∧ Addressable entry.2 = true := by
  induction fields with
  | nil => simp [addressableEntries]
  | cons entry rest ih =>
    rw [addressableEntries, Bool.and_eq_true, Bool.and_eq_true, decide_eq_true_eq, ih,
      forall_mem_cons]

theorem addressable_sortEntries {fields} (fits : addressableEntries fields = true) :
    addressableEntries (sortEntries fields) = true := by
  apply addressableEntries_iff.mpr
  intro entry mem
  exact addressableEntries_iff.mp fits entry (mem_sortEntries.mp mem)

mutual

theorem addressable_normalValue : ∀ {value}, Addressable value = true →
    Addressable (normalValue value) = true
  | .unset, fits | .null _, fits | .number _, fits | .text _, fits | .bool _, fits => fits
  | .struct fields, fits => by
      simp only [Addressable, Bool.and_eq_true, decide_eq_true_eq] at fits
      simp only [normalValue, Addressable, Bool.and_eq_true, decide_eq_true_eq, length_sortEntries,
        length_normalEntries]
      exact ⟨fits.1, addressable_sortEntries (addressable_normalEntries fits.2)⟩
  | .list values, fits => by
      simp only [Addressable, Bool.and_eq_true, decide_eq_true_eq] at fits
      simp only [normalValue, Addressable, Bool.and_eq_true, decide_eq_true_eq, length_normalValues]
      exact ⟨fits.1, addressable_normalValues fits.2⟩

theorem addressable_normalEntries : ∀ {fields},
    addressableEntries fields = true → addressableEntries (normalEntries fields) = true
  | [], _ => rfl
  | (key, value) :: rest, fits => by
      simp only [addressableEntries, Bool.and_eq_true] at fits
      simp only [normalEntries, addressableEntries, Bool.and_eq_true]
      exact ⟨⟨fits.1.1, addressable_normalValue fits.1.2⟩, addressable_normalEntries fits.2⟩

theorem addressable_normalValues : ∀ {values}, addressableValues values = true →
    addressableValues (normalValues values) = true
  | [], _ => rfl
  | value :: rest, fits => by
      simp only [addressableValues, Bool.and_eq_true] at fits
      simp only [normalValues, addressableValues, Bool.and_eq_true]
      exact ⟨addressable_normalValue fits.1, addressable_normalValues fits.2⟩

end

theorem addressable_normalStruct {fields} (fits : addressableEntries fields = true) :
    addressableEntries (normalStruct fields) = true :=
  addressable_sortEntries (addressable_normalEntries fits)

theorem framable_textBytes {value : String} (fits : value.utf8ByteSize < 2 ^ 64) :
    Framable (textBytes value) :=
  fits

theorem framable_littleEndian {width} (small : width ≤ 8) (n : Nat) :
    Framable (littleEndian width n) := by
  rw [Framable, length_littleEndian]
  omega

theorem framable_singleton (byte : UInt8) : Framable [byte] := by
  rw [Framable, length_singleton]
  omega

mutual

/-- The pieces of an addressable value have lengths that fit. -/
theorem framable_pieces : ∀ {value}, Addressable value = true →
    ∀ piece ∈ pieces value, Framable piece
  | .unset, _ => by simpa [pieces] using framable_singleton 0
  | .null raw, _ => by
      simpa [pieces] using ⟨framable_singleton 1, framable_littleEndian (by omega) _⟩
  | .number bits, _ => by
      simpa [pieces] using ⟨framable_singleton 2, framable_littleEndian (by omega) _⟩
  | .text value, fits => by
      simpa [pieces] using ⟨framable_singleton 3, framable_textBytes (of_decide_eq_true fits)⟩
  | .bool value, _ => by simpa [pieces] using ⟨framable_singleton 4, framable_singleton _⟩
  | .struct fields, fits => by
      simp only [Addressable, Bool.and_eq_true] at fits
      simp only [pieces, List.forall_mem_cons]
      exact ⟨framable_singleton 5, framable_littleEndian (by omega) _,
        framable_entryPieces fits.2⟩
  | .list values, fits => by
      simp only [Addressable, Bool.and_eq_true] at fits
      simp only [pieces, List.forall_mem_cons]
      exact ⟨framable_singleton 6, framable_littleEndian (by omega) _,
        framable_valuePieces fits.2⟩

theorem framable_entryPieces : ∀ {fields},
    addressableEntries fields = true → ∀ piece ∈ entryPieces fields, Framable piece
  | [], _ => by simp [entryPieces]
  | (key, value) :: rest, fits => by
      simp only [addressableEntries, Bool.and_eq_true, decide_eq_true_eq] at fits
      simp only [entryPieces, List.forall_mem_cons, List.forall_mem_append]
      exact ⟨framable_textBytes fits.1.1, framable_pieces fits.1.2, framable_entryPieces fits.2⟩

theorem framable_valuePieces : ∀ {values}, addressableValues values = true →
    ∀ piece ∈ valuePieces values, Framable piece
  | [], _ => by simp [valuePieces]
  | value :: rest, fits => by
      simp only [addressableValues, Bool.and_eq_true] at fits
      simp only [valuePieces, List.forall_mem_append]
      exact ⟨framable_pieces fits.1, framable_valuePieces fits.2⟩

end

/-! ### Requests -/

namespace ControlCommandInput

/-- Everything a request's fingerprint reads is addressable. -/
def addressable (input : ControlCommandInput) : Bool :=
  [input.agentId, input.runId, input.parentRunId.getD "", input.traceId,
    input.reasonCode.getD ""].all (fun text => text.utf8ByteSize < 2 ^ 64) &&
    (input.parameters.getD []).length < 2 ^ 64 && addressableEntries (input.parameters.getD [])

/-- Two requests agree on the agent, the runs, the trace, the action, the reason
and the parameters. An absent text is the empty one, absent parameters are the
empty struct, and structs are compared as maps. -/
structure Agrees (first second : ControlCommandInput) : Prop where
  agentId : first.agentId = second.agentId
  runId : first.runId = second.runId
  parentRunId : first.parentRunId.getD "" = second.parentRunId.getD ""
  traceId : first.traceId = second.traceId
  action : first.action = second.action
  reasonCode : first.reasonCode.getD "" = second.reasonCode.getD ""
  parameters : normalStruct (first.parameters.getD []) = normalStruct (second.parameters.getD [])

end ControlCommandInput

theorem ControlAction.number_inj {first second : ControlAction}
    (same : first.number = second.number) : first = second := by
  cases first <;> cases second <;> first | rfl | exact absurd same (by decide)

variable {input first second : ControlCommandInput}

theorem framable_fingerprintPieces (fits : input.addressable = true) :
    ∀ piece ∈ fingerprintPieces input, Framable piece := by
  simp only [ControlCommandInput.addressable, Bool.and_eq_true, all_cons, all_nil,
    Bool.and_true, decide_eq_true_eq] at fits
  obtain ⟨⟨⟨agent, run, parent, trace, reason⟩, -⟩, parameters⟩ := fits
  simp only [fingerprintPieces, canonicalStruct_eq, forall_mem_append, forall_mem_cons]
  exact ⟨⟨framable_textBytes agent, framable_textBytes run, framable_textBytes parent,
    framable_textBytes trace, framable_littleEndian (by omega) _, framable_textBytes reason,
    by simp⟩, framable_littleEndian (by omega) _,
    framable_entryPieces (addressable_normalStruct parameters)⟩

/-- Two requests have one stream exactly when they agree. -/
theorem fingerprintStream_eq_iff (fits : first.addressable = true)
    (fits' : second.addressable = true) :
    fingerprintStream first = fingerprintStream second ↔ first.Agrees second := by
  constructor
  · intro same
    have pieces := @frames_inj .little 8 _ _ (by omega) (framable_fingerprintPieces fits)
      (framable_fingerprintPieces fits') same
    simp only [fingerprintPieces, canonicalStruct_eq, cons_append, nil_append,
      List.cons.injEq] at pieces
    obtain ⟨agent, run, parent, trace, action, reason, count, entries⟩ := pieces
    simp only [ControlCommandInput.addressable, Bool.and_eq_true, decide_eq_true_eq] at fits fits'
    have length (input : ControlCommandInput) (small : (input.parameters.getD []).length < 2 ^ 64) :
        (normalStruct (input.parameters.getD [])).length < 2 ^ 64 := by
      rwa [normalStruct, length_sortEntries, length_normalEntries]
    have counts := countBytes_inj (length first fits.1.2) (length second fits'.1.2) count
    have number (action : ControlAction) : action.number < 256 ^ 4 := by cases action <;> decide
    exact {
      agentId := textBytes_inj agent
      runId := textBytes_inj run
      parentRunId := textBytes_inj parent
      traceId := textBytes_inj trace
      action := ControlAction.number_inj (littleEndian_inj (number _) (number _) action)
      reasonCode := textBytes_inj reason
      parameters := (@entryPieces_append_inj _ _ [] [] (addressable_normalStruct fits.2)
        (addressable_normalStruct fits'.2) counts (by simpa using entries)).1 }
  · intro agrees
    simp only [fingerprintStream, fingerprintPieces, canonicalStruct_eq, agrees.agentId,
      agrees.runId, agrees.parentRunId, agrees.traceId, agrees.action, agrees.reasonCode,
      agrees.parameters]

end Apex.Control
