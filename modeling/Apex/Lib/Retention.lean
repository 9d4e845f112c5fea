import Apex.Lib.KeyMap

/-!
A bounded memory of bindings.

Each key is bound to one value for good, but only the `capacity` greatest keys are
held. When the memory is full, the least key makes room and becomes the floor, and
no key at or below the floor is ever bound again. So a binding that is forgotten
still cannot be replaced (`Remembers.unchanged`).
-/

namespace Apex

open List AList KeyMap

/-- The held bindings, and the greatest key that was dropped. -/
structure Retention (κ ν : Type) where
  bindings : KeyMap κ ν
  floor : Option κ

namespace Retention

variable {κ ν : Type} [LinearOrder κ] [DecidableEq ν] {capacity : Nat} {key : κ} {value : ν}

/-- Why a key is not bound. -/
inductive Refusal where
  | expired
  | bound
  deriving DecidableEq, Repr

/-- The least of the held keys. -/
def firstKey (m : KeyMap κ ν) : Option κ :=
  m.keys.argmin id

/-- Bind the key, or find it bound as wanted. -/
def retain (capacity : Nat) (key : κ) (value : ν) (memory : Retention κ ν) :
    Except Refusal (Retention κ ν) :=
  if memory.floor.any fun floor => key ≤ floor then .error .expired
  else
    match memory.bindings.lookup key with
    | some held => if held = value then .ok memory else .error .bound
    | none =>
        if memory.bindings.keys.length < capacity then
          .ok { memory with bindings := memory.bindings.insert key value }
        else
          match firstKey memory.bindings with
          | none => .error .bound
          | some first =>
              if key ≤ first then .error .expired
              else .ok ⟨(memory.bindings.erase first).insert key value, some first⟩

/-- The three ways a key can be bound. -/
theorem retain_cases {memory after : Retention κ ν}
    (ok : retain capacity key value memory = .ok after) :
    (∀ floor ∈ memory.floor, floor < key) ∧
      (memory.bindings.lookup key = some value ∧ after = memory ∨
        memory.bindings.lookup key = none ∧ memory.bindings.keys.length < capacity ∧
          after = { memory with bindings := memory.bindings.insert key value } ∨
        memory.bindings.lookup key = none ∧ ∃ first, firstKey memory.bindings = some first ∧
          first < key ∧ after = ⟨(memory.bindings.erase first).insert key value, some first⟩) := by
  unfold retain at ok
  split at ok
  · exact nomatch ok
  next live =>
  constructor
  · rintro floor is
    rw [is] at live
    simpa using live
  split at ok
  · next held found =>
    split at ok
    · next same =>
      subst same
      exact .inl ⟨found, (Except.ok.inj ok).symm⟩
    · exact nomatch ok
  · next absent =>
    right
    split at ok
    · next room => exact .inl ⟨absent, room, (Except.ok.inj ok).symm⟩
    · split at ok
      · exact nomatch ok
      · next first least =>
        split at ok
        · exact nomatch ok
        · next above =>
          exact .inr ⟨absent, first, least, not_le.mp above, (Except.ok.inj ok).symm⟩

/-- The memory after the bindings of the log were made. -/
structure Remembers (capacity : Nat) (log : List (κ × ν)) (memory : Retention κ ν) : Prop where
  bounded : memory.bindings.keys.length ≤ capacity
  above : ∀ floor ∈ memory.floor, ∀ key ∈ memory.bindings, floor < key
  held : ∀ entry ∈ log, memory.bindings.lookup entry.1 = some entry.2 ∨
    ∃ floor ∈ memory.floor, entry.1 ≤ floor

variable {log : List (κ × ν)} {memory after : Retention κ ν}

/-- A key of the log is bound again only as it was. -/
theorem Remembers.unchanged (remembers : Remembers capacity log memory)
    (ok : retain capacity key value memory = .ok after) {earlier : ν}
    (logged : (key, earlier) ∈ log) : earlier = value := by
  obtain ⟨live, cases⟩ := retain_cases ok
  have found : memory.bindings.lookup key = some earlier := by
    rcases remembers.held _ logged with found | ⟨floor, is, below⟩
    · exact found
    · exact absurd below (not_le.mpr (live floor is))
  rcases cases with ⟨same, -⟩ | ⟨absent, -⟩ | ⟨absent, -⟩
  · exact Option.some.inj (found.symm.trans same)
  · exact nomatch found.symm.trans absent
  · exact nomatch found.symm.trans absent

theorem lookup_of_retain (ok : retain capacity key value memory = .ok after) :
    after.bindings.lookup key = some value := by
  obtain ⟨-, ⟨found, rfl⟩ | ⟨-, -, rfl⟩ | ⟨-, first, -, -, rfl⟩⟩ := retain_cases ok
  · exact found
  · exact lookup_insert _
  · exact lookup_insert _

omit [DecidableEq ν] in
theorem remembers_first (positive : 0 < capacity) :
    Remembers capacity [(key, value)] ⟨AList.insert key value ∅, none⟩ where
  bounded := by
    rw [length_keys_insert, if_neg (notMem_empty key)]
    exact positive
  above := nofun
  held entry logged := by
    obtain rfl := mem_singleton.mp logged
    exact .inl (lookup_insert _)

theorem Remembers.retain (remembers : Remembers capacity log memory)
    (ok : retain capacity key value memory = .ok after) :
    Remembers capacity (log ++ [(key, value)]) after := by
  have bound := lookup_of_retain ok
  obtain ⟨live, ⟨-, rfl⟩ | ⟨absent, room, rfl⟩ | ⟨absent, first, least, below, rfl⟩⟩ :=
    retain_cases ok
  · refine ⟨remembers.bounded, remembers.above, fun entry logged => ?_⟩
    rcases mem_append.mp logged with earlier | last
    · exact remembers.held entry earlier
    · obtain rfl := mem_singleton.mp last
      exact .inl bound
  · have fresh : key ∉ memory.bindings := lookup_eq_none.mp absent
    refine ⟨?_, fun floor is other member => ?_, fun entry logged => ?_⟩
    · rw [length_keys_insert, if_neg fresh]
      exact room
    · rcases (mem_insert _).mp member with rfl | member
      · exact live floor is
      · exact remembers.above floor is other member
    · rcases mem_append.mp logged with earlier | last
      · refine (remembers.held entry earlier).imp_left fun found => ?_
        rw [lookup_insert_eq, if_neg, found]
        rintro rfl
        exact nomatch absent.symm.trans found
      · obtain rfl := mem_singleton.mp last
        exact .inl bound
  · have present : first ∈ memory.bindings := mem_keys.mpr (argmin_mem least)
    have fresh : key ∉ memory.bindings.erase first := fun member =>
      lookup_eq_none.mp absent (mem_erase.mp member).2
    refine ⟨?_, ?_, fun entry logged => ?_⟩
    · have positive := length_pos_of_mem (mem_keys.mp present)
      have := remembers.bounded
      rw [length_keys_insert, if_neg fresh, length_keys_erase, if_pos present]
      omega
    · rintro _ ⟨⟩ other member
      rcases (mem_insert _).mp member with rfl | member
      · exact below
      · obtain ⟨apart, member⟩ := mem_erase.mp member
        exact lt_of_le_of_ne (le_of_mem_argmin (mem_keys.mp member) least) apart.symm
    · rcases mem_append.mp logged with earlier | last
      · -- whatever was at or below the old floor is below the first key, the new floor
        rcases remembers.held entry earlier with found | ⟨floor, is, low⟩
        · by_cases dropped : entry.1 = first
          · exact .inr ⟨first, rfl, dropped.le⟩
          · left
            rw [lookup_insert_eq, if_neg, lookup_erase_eq, if_neg dropped, found]
            rintro rfl
            exact nomatch absent.symm.trans found
        · exact .inr ⟨first, rfl, low.trans (remembers.above floor is first present).le⟩
      · obtain rfl := mem_singleton.mp last
        exact .inl bound

/-- Every binding that is held or was dropped has the property. -/
def Each (p : κ → ν → Prop) (memory : Retention κ ν) : Prop :=
  memory.bindings.Each p ∧ ∀ floor ∈ memory.floor, ∃ value, p floor value

theorem Each.retain {p : κ → ν → Prop} (each : memory.Each p) (new : p key value)
    (ok : retain capacity key value memory = .ok after) : after.Each p := by
  obtain ⟨-, ⟨-, rfl⟩ | ⟨-, -, rfl⟩ | ⟨-, first, least, -, rfl⟩⟩ := retain_cases ok
  · exact each
  · exact ⟨each.1.insert new, each.2⟩
  · refine ⟨(each.1.erase first).insert new, ?_⟩
    rintro _ ⟨⟩
    obtain ⟨value, found⟩ := Option.isSome_iff_exists.mp
      (mem_iff_isSome.mp (mem_keys.mpr (argmin_mem least)))
    exact ⟨value, each.1 first value found⟩

end Retention

end Apex
