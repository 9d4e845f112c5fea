import Apex.Control.Fingerprint

/-!
What one fingerprint stream says about two requests, without the order the stream
is written in.

`Value.Same` compares values with their structs read as maps: a struct is the same
as another when they have the same names and, under each name, the same value, at
every depth. Names are distinct in every struct, as they are in the map a struct is
received into.
-/

namespace Apex.Control

open Domain List

mutual

/-- The names of every struct in a value are distinct. -/
def distinctNames : Value → Bool
  | .unset | .null _ | .number _ | .text _ | .bool _ => true
  | .struct fields => (fields.map Prod.fst).Nodup && distinctEntries fields
  | .list values => distinctValues values

def distinctEntries : List (String × Value) → Bool
  | [] => true
  | (_, value) :: rest => distinctNames value && distinctEntries rest

def distinctValues : List Value → Bool
  | [] => true
  | value :: rest => distinctNames value && distinctValues rest

end

mutual

/-- The same value, structs being maps. -/
def Same : Value → Value → Prop
  | .unset, .unset => True
  | .null raw, .null raw' => raw = raw'
  | .number bits, .number bits' => bits = bits'
  | .text value, .text value' => value = value'
  | .bool value, .bool value' => value = value'
  | .struct fields, .struct fields' =>
      (∀ name, name ∈ fields.map Prod.fst ↔ name ∈ fields'.map Prod.fst) ∧
        FoundIn fields' fields
  | .list values, .list values' => SameValues values values'
  | _, _ => False

/-- Every entry is found in a struct under its name, with the same value. -/
def FoundIn (other : Struct) : List (String × Value) → Prop
  | [] => True
  | (name, value) :: rest =>
      (∃ value', (name, value') ∈ other ∧ Same value value') ∧ FoundIn other rest

def SameValues : List Value → List Value → Prop
  | [], [] => True
  | value :: rest, value' :: rest' => Same value value' ∧ SameValues rest rest'
  | _, _ => False

end

/-- The same struct: the same names, and the same value under each. -/
def SameStruct (fields fields' : Struct) : Prop :=
  (∀ name, name ∈ fields.map Prod.fst ↔ name ∈ fields'.map Prod.fst) ∧ FoundIn fields' fields

/-! ### Normal forms -/

theorem mem_normalEntries {name value fields} :
    (name, value) ∈ normalEntries fields ↔
      ∃ original, (name, original) ∈ fields ∧ normalValue original = value := by
  induction fields with
  | nil => simp [normalEntries]
  | cons entry rest ih =>
    obtain ⟨name', original'⟩ := entry
    simp only [normalEntries, mem_cons, Prod.mk.injEq, ih]
    constructor
    · rintro (⟨rfl, rfl⟩ | ⟨original, mem, is⟩)
      · exact ⟨original', .inl ⟨rfl, rfl⟩, rfl⟩
      · exact ⟨original, .inr mem, is⟩
    · rintro ⟨original, ⟨rfl, rfl⟩ | mem, is⟩
      · exact .inl ⟨rfl, is.symm⟩
      · exact .inr ⟨original, mem, is⟩

theorem map_fst_normalEntries (fields : List (String × Value)) :
    (normalEntries fields).map Prod.fst = fields.map Prod.fst := by
  induction fields with
  | nil => rfl
  | cons entry rest ih => rw [normalEntries, map_cons, map_cons, ih]

/-- Sorting leaves nothing of the order of entries with distinct names. -/
theorem sortEntries_eq_iff {entries entries' : List (String × Value)}
    (distinct : (entries.map Prod.fst).Nodup) (distinct' : (entries'.map Prod.fst).Nodup) :
    sortEntries entries = sortEntries entries' ↔ ∀ entry, entry ∈ entries ↔ entry ∈ entries' := by
  constructor
  · intro same entry
    rw [← mem_sortEntries, same, mem_sortEntries]
  · intro same
    have perm : entries.Perm entries' :=
      (perm_ext_iff_of_nodup distinct.of_map distinct'.of_map).mpr same
    have sorted (entries : List (String × Value)) :
        (sortEntries entries).Pairwise fun a b => a.1 ≤ b.1 := by
      exact pairwise_insertionSort (fun a b : String × Value => a.1 ≤ b.1) entries
    refine List.Perm.eq_of_pairwise ?_ (sorted entries) (sorted entries') ?_
    · -- Entries that are not after each other have one name, so they are one entry.
      intro first second mem mem' before after
      have name : first.1 = second.1 := String.le_antisymm before after
      have mem'' : second ∈ entries := perm.mem_iff.mpr (mem_sortEntries.mp mem')
      exact inj_on_of_nodup_map distinct (mem_sortEntries.mp mem) mem'' name
    · exact (perm_insertionSort _ entries).trans (perm.trans (perm_insertionSort _ entries').symm)

theorem distinctEntries_mem {name value fields} (distinct : distinctEntries fields = true)
    (mem : (name, value) ∈ fields) :
    distinctNames value = true := by
  induction fields with
  | nil => cases mem
  | cons entry rest ih =>
    obtain ⟨name', value'⟩ := entry
    simp only [distinctEntries, Bool.and_eq_true] at distinct
    rcases mem_cons.mp mem with is | mem
    · cases is
      exact distinct.1
    · exact ih distinct.2 mem

/-- With distinct names, the same names on both sides and every entry of one side on
the other, the two sides have the same entries. -/
theorem entries_eq_iff {entries entries' : List (String × Value)}
    (distinct' : (entries'.map Prod.fst).Nodup) :
    (∀ entry, entry ∈ entries ↔ entry ∈ entries') ↔
      (∀ name, name ∈ entries.map Prod.fst ↔ name ∈ entries'.map Prod.fst) ∧
        ∀ entry ∈ entries, entry ∈ entries' := by
  constructor
  · intro same
    refine ⟨?_, fun entry => (same entry).mp⟩
    intro name
    simp only [mem_map, same]
  · rintro ⟨names, found⟩ entry
    refine ⟨found entry, ?_⟩
    intro mem
    have named : entry.1 ∈ entries.map Prod.fst := (names _).mpr (mem_map_of_mem mem)
    obtain ⟨other, memOther, name⟩ := mem_map.mp named
    have is := inj_on_of_nodup_map distinct' (found other memOther) mem name
    rwa [← is]

mutual

/-- Values have one normal form exactly when they are the same. -/
theorem normalValue_eq_iff : ∀ {value value'}, distinctNames value = true →
    distinctNames value' = true → (normalValue value = normalValue value' ↔ Same value value')
  | .unset, value', _, _ | .null _, value', _, _ | .number _, value', _, _
  | .text _, value', _, _ | .bool _, value', _, _ => by cases value' <;> simp [normalValue, Same]
  | .struct fields, value', distinct, distinct' => by
      cases value' with
      | struct fields' =>
        simp only [distinctNames, Bool.and_eq_true, decide_eq_true_eq] at distinct distinct'
        simp only [normalValue, Value.struct.injEq, Same]
        rw [sortEntries_eq_iff (by rw [map_fst_normalEntries]; exact distinct.1)
          (by rw [map_fst_normalEntries]; exact distinct'.1),
          entries_eq_iff (by rw [map_fst_normalEntries]; exact distinct'.1),
          foundIn_iff distinct.2 distinct'.2, map_fst_normalEntries, map_fst_normalEntries]
      | _ => simp [normalValue, Same]
  | .list values, value', distinct, distinct' => by
      cases value' with
      | list values' =>
        simp only [distinctNames] at distinct distinct'
        simp only [normalValue, Value.list.injEq, Same]
        exact normalValues_eq_iff distinct distinct'
      | _ => simp [normalValue, Same]

/-- Every entry is found in the other struct exactly when its normal form is one of
the other struct's. -/
theorem foundIn_iff : ∀ {fields other}, distinctEntries fields = true →
    distinctEntries other = true →
    (FoundIn other fields ↔ ∀ entry ∈ normalEntries fields, entry ∈ normalEntries other)
  | [], _, _, _ => by simp [FoundIn, normalEntries]
  | (name, value) :: rest, other, distinct, distinct' => by
      simp only [distinctEntries, Bool.and_eq_true] at distinct
      rw [FoundIn, normalEntries, List.forall_mem_cons, foundIn_iff distinct.2 distinct',
        mem_normalEntries]
      apply and_congr_left
      intro _
      apply exists_congr
      intro value'
      apply and_congr_right
      intro mem
      rw [← normalValue_eq_iff distinct.1 (distinctEntries_mem distinct' mem), eq_comm]

theorem normalValues_eq_iff : ∀ {values values'}, distinctValues values = true →
    distinctValues values' = true →
    (normalValues values = normalValues values' ↔ SameValues values values')
  | [], [], _, _ => by simp [normalValues, SameValues]
  | [], _ :: _, _, _ | _ :: _, [], _, _ => by simp [normalValues, SameValues]
  | value :: rest, value' :: rest', distinct, distinct' => by
      simp only [distinctValues, Bool.and_eq_true] at distinct distinct'
      rw [normalValues, normalValues, List.cons.injEq, SameValues,
        normalValue_eq_iff distinct.1 distinct'.1, normalValues_eq_iff distinct.2 distinct'.2]

end

/-- The names of a struct, and of every struct in it, are distinct. -/
def distinctStruct (fields : Struct) : Bool :=
  distinctNames (.struct fields)

theorem normalStruct_eq_iff {fields fields'} (distinct : distinctStruct fields = true)
    (distinct' : distinctStruct fields' = true) :
    normalStruct fields = normalStruct fields' ↔ SameStruct fields fields' := by
  have values := normalValue_eq_iff distinct distinct'
  rwa [normalValue, normalValue, Value.struct.injEq, Same] at values

/-! ### Requests -/

/-- **Streams identify requests.** Two requests feed the same bytes to the hash
exactly when they name the same agent, run, parent run, trace, action and reason, an
absent text being the empty one, and have the same parameters, absent ones being the
empty struct. Texts, structs and lists have lengths of eight bytes, and names are
distinct in every struct, as in the messages the service receives. -/
theorem fingerprintStream_same_iff (first second : ControlCommandInput)
    (fits : first.addressable = true) (fits' : second.addressable = true)
    (distinct : distinctStruct (first.parameters.getD []) = true)
    (distinct' : distinctStruct (second.parameters.getD []) = true) :
    fingerprintStream first = fingerprintStream second ↔
      first.agentId = second.agentId ∧ first.runId = second.runId ∧
        first.parentRunId.getD "" = second.parentRunId.getD "" ∧
        first.traceId = second.traceId ∧ first.action = second.action ∧
        first.reasonCode.getD "" = second.reasonCode.getD "" ∧
        SameStruct (first.parameters.getD []) (second.parameters.getD []) := by
  rw [fingerprintStream_eq_iff fits fits', ← normalStruct_eq_iff distinct distinct']
  constructor
  · intro agrees
    exact ⟨agrees.agentId, agrees.runId, agrees.parentRunId, agrees.traceId, agrees.action,
      agrees.reasonCode, agrees.parameters⟩
  · rintro ⟨agent, run, parent, trace, action, reason, parameters⟩
    exact ⟨agent, run, parent, trace, action, reason, parameters⟩

/-- A forced stop with a nested struct, its entries in the order given. -/
def sampleForced (reasonCode : Option String) (options : Struct) : ControlCommandInput :=
  { commandId := none, workspaceId := "w", namespaceId := "n", agentId := "a", runId := "r",
    parentRunId := none, traceId := "t", action := .forceStop, reasonCode := reasonCode,
    parameters := some [("options", .struct options)] }

theorem fingerprintStream_sampleForced :
    fingerprintStream (sampleForced none [("grace", .number 0), ("drain", .bool true)]) =
      fingerprintStream (sampleForced (some "") [("drain", .bool true), ("grace", .number 0)]) := by
  have options : Same (.struct [("grace", .number 0), ("drain", .bool true)])
      (.struct [("drain", .bool true), ("grace", .number 0)]) := by
    constructor
    · intro name
      simp [or_comm]
    · exact ⟨⟨.number 0, by simp, rfl⟩, ⟨.bool true, by simp, rfl⟩, trivial⟩
  apply (fingerprintStream_same_iff _ _ (by decide) (by decide) (by decide) (by decide)).mpr
  exact ⟨rfl, rfl, rfl, rfl, rfl, rfl, fun _ => Iff.rfl, ⟨_, List.mem_singleton_self _, options⟩,
    trivial⟩

end Apex.Control
