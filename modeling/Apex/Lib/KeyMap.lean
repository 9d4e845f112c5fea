import Mathlib

/-!
Finite maps with distinct keys.

A map is Mathlib's `AList` at a constant value type: the distinctness of its
keys is a field of the structure, so no later proof has to carry it. Hash maps
of the modelled programs are such maps; where a program's behaviour depends on
the order a hash map is scanned in, the order is an input of the model.

`modify` and `retain` are the two updates hash maps have beside insertion and
removal.
-/

namespace Apex

open List

/-- A finite map from `κ` to `ν`. -/
abbrev KeyMap (κ ν : Type) : Type := AList fun _ : κ => ν

namespace KeyMap

variable {κ ν : Type} {m : KeyMap κ ν} {key : κ}

/-- The entries that meet `keep`. -/
def retain (m : KeyMap κ ν) (keep : κ → ν → Bool) : KeyMap κ ν :=
  ⟨m.entries.filter fun entry => keep entry.1 entry.2,
    List.NodupKeys.sublist List.filter_sublist m.nodupKeys⟩

/-- How many keys meet `p`. -/
def countKeys (m : KeyMap κ ν) (p : κ → Bool) : Nat :=
  m.keys.countP p

/-- The retained keys and the dropped ones are all keys. -/
theorem countKeys_retain (m : KeyMap κ ν) (keep : κ → ν → Bool) (p : κ → Bool) :
    (m.retain keep).countKeys p +
      ((m.entries.filter fun entry => !keep entry.1 entry.2).map Sigma.fst).countP p =
      m.countKeys p := by
  change ((m.entries.filter _).map Sigma.fst).countP p + _ = (m.entries.map Sigma.fst).countP p
  induction m.entries with
  | nil => rfl
  | cons entry rest ih =>
    cases kept : keep entry.1 entry.2
    all_goals
      simp only [filter_cons, kept, Bool.not_false, Bool.not_true, if_true,
        Bool.false_eq_true, if_false, map_cons, countP_cons, ← ih]
      omega

theorem retain_true (m : KeyMap κ ν) : (m.retain fun _ _ => true) = m :=
  AList.ext (filter_true _)

/-- The entries of a map, in the order it holds them. -/
def toPairs (m : KeyMap κ ν) : List (κ × ν) :=
  m.entries.map fun entry => (entry.1, entry.2)

variable [DecidableEq κ]

/-- Looking a key up after one insertion. -/
theorem lookup_insert_eq (m : KeyMap κ ν) (key other : κ) (value : ν) :
    AList.lookup other (AList.insert key value m) =
      if other = key then some value else AList.lookup other m := by
  by_cases same : other = key
  · subst same
    rw [AList.lookup_insert, if_pos rfl]
  · rw [AList.lookup_insert_ne same, if_neg same]

/-- Looking a key up after one removal. -/
theorem lookup_erase_eq (m : KeyMap κ ν) (key other : κ) :
    AList.lookup other (AList.erase key m) =
      if other = key then none else AList.lookup other m := by
  by_cases same : other = key
  · subst same
    rw [AList.lookup_erase, if_pos rfl]
  · rw [AList.lookup_erase_ne same, if_neg same]

theorem mem_iff_isSome : key ∈ m ↔ (m.lookup key).isSome :=
  AList.lookup_isSome.symm

theorem mem_of_lookup {value : ν} (found : m.lookup key = some value) : key ∈ m :=
  mem_iff_isSome.mpr (Option.isSome_of_eq_some found)

theorem keys_insert_of_notMem (fresh : key ∉ m) (value : ν) :
    (AList.insert key value m).keys = key :: m.keys := by
  rw [AList.keys_insert, erase_of_not_mem fresh]

theorem mem_lookup_iff {value : ν} :
    m.lookup key = some value ↔ (⟨key, value⟩ : Sigma fun _ : κ => ν) ∈ m.entries :=
  AList.mem_lookup_iff

/-- The entry with the value of `key` replaced by `f` of it. -/
def modifyEntry (key : κ) (f : ν → ν) (entry : Sigma fun _ : κ => ν) : Sigma fun _ : κ => ν :=
  ⟨entry.1, if entry.1 = key then f entry.2 else entry.2⟩

/-- The value of `key` replaced by `f` of it; nothing where there is none. -/
def modify (m : KeyMap κ ν) (key : κ) (f : ν → ν) : KeyMap κ ν :=
  ⟨m.entries.map (modifyEntry key f), by
    have same : (m.entries.map (modifyEntry key f)).keys = m.entries.keys := by
      simp [List.keys, Function.comp_def, modifyEntry]
    rw [List.NodupKeys, same]
    exact m.nodupKeys⟩

@[simp] theorem keys_modify (m : KeyMap κ ν) (key : κ) (f : ν → ν) :
    (m.modify key f).keys = m.keys := by
  simp [AList.keys, modify, List.keys, Function.comp_def, modifyEntry]

@[simp] theorem mem_modify {other : κ} {f : ν → ν} :
    other ∈ m.modify key f ↔ other ∈ m := by
  rw [AList.mem_keys, keys_modify, ← AList.mem_keys]

/-- Looking a key up after a value was modified. -/
theorem lookup_modify (m : KeyMap κ ν) (key other : κ) (f : ν → ν) :
    (m.modify key f).lookup other =
      if other = key then (m.lookup key).map f else m.lookup other := by
  refine Option.ext fun value => ?_
  rw [mem_lookup_iff]
  by_cases same : other = key
  · subst same
    simp only [modify, modifyEntry, mem_map, Sigma.mk.injEq, if_pos, Option.map_eq_some_iff,
      mem_lookup_iff]
    constructor
    · rintro ⟨⟨k, v⟩, mem, rfl, eq⟩
      exact ⟨v, mem, by simpa using eq⟩
    · rintro ⟨v, mem, rfl⟩
      exact ⟨⟨other, v⟩, mem, rfl, by simp⟩
  · rw [if_neg same, mem_lookup_iff]
    simp only [modify, modifyEntry, mem_map, Sigma.mk.injEq]
    constructor
    · rintro ⟨⟨k, v⟩, mem, rfl, eq⟩
      rw [if_neg same] at eq
      rwa [← eq_of_heq eq]
    · intro mem
      exact ⟨⟨other, value⟩, mem, rfl, by simp [same]⟩

/-- Looking a key up among the retained entries. -/
theorem lookup_retain (m : KeyMap κ ν) (keep : κ → ν → Bool) (key : κ) :
    (m.retain keep).lookup key = (m.lookup key).filter (keep key) := by
  refine Option.ext fun value => ?_
  rw [mem_lookup_iff, Option.filter_eq_some_iff, mem_lookup_iff]
  simp [retain]

theorem mem_retain {keep : κ → ν → Bool} :
    key ∈ m.retain keep ↔ ∃ value, m.lookup key = some value ∧ keep key value := by
  rw [mem_iff_isSome, lookup_retain]
  cases m.lookup key <;> simp

/-! ### Properties of every entry -/

/-- Every entry of the map has the property. -/
def Each (m : KeyMap κ ν) (p : κ → ν → Prop) : Prop :=
  ∀ key value, m.lookup key = some value → p key value

theorem Each.insert {p : κ → ν → Prop} (each : m.Each p) {value : ν} (new : p key value) :
    Each (AList.insert key value m) p := by
  intro other held found
  rw [lookup_insert_eq] at found
  split_ifs at found with same
  · cases found
    rw [same]
    exact new
  · exact each other held found

theorem Each.erase {p : κ → ν → Prop} (each : m.Each p) (key : κ) :
    Each (AList.erase key m) p := by
  intro other held found
  rw [lookup_erase_eq] at found
  split_ifs at found
  exact each other held found

theorem Each.modify {p : κ → ν → Prop} (each : m.Each p) {f : ν → ν}
    (keeps : ∀ value, m.lookup key = some value → p key (f value)) : (m.modify key f).Each p := by
  intro other held found
  rw [lookup_modify] at found
  split_ifs at found with same
  · obtain ⟨value, was, rfl⟩ := Option.map_eq_some_iff.mp found
    rw [same]
    exact keeps value was
  · exact each other held found

theorem each_empty {p : κ → ν → Prop} : Each (∅ : KeyMap κ ν) p := by
  intro key value found
  rw [AList.lookup_empty] at found
  cases found

/-! ### Sizes -/

theorem length_keys_insert (m : KeyMap κ ν) (key : κ) (value : ν) :
    (AList.insert key value m).keys.length =
      if key ∈ m then m.keys.length else m.keys.length + 1 := by
  rw [AList.keys_insert, length_cons]
  split_ifs with present
  · have positive := length_pos_of_mem (AList.mem_keys.mp present)
    rw [length_erase_of_mem (AList.mem_keys.mp present)]
    omega
  · rw [erase_of_not_mem present]

theorem length_keys_erase (m : KeyMap κ ν) (key : κ) :
    (AList.erase key m).keys.length =
      if key ∈ m then m.keys.length - 1 else m.keys.length := by
  rw [AList.keys_erase]
  split_ifs with present
  · exact length_erase_of_mem (AList.mem_keys.mp present)
  · rw [erase_of_not_mem present]

/-- Maps with the same entries have as many keys. -/
theorem length_keys_eq_of_lookup {n : KeyMap κ ν} (same : ∀ key, m.lookup key = n.lookup key) :
    m.keys.length = n.keys.length := by
  refine List.Perm.length_eq ((perm_ext_iff_of_nodup m.keys_nodup n.keys_nodup).mpr ?_)
  intro key
  rw [← AList.mem_keys, ← AList.mem_keys, mem_iff_isSome, same, ← mem_iff_isSome]

/-- One key overwritten: the sizes differ by what stood there and what stands
there now. -/
theorem length_keys_overwrite {n : KeyMap κ ν} {value : Option ν}
    (overwritten : ∀ other, n.lookup other = if other = key then value else m.lookup other) :
    n.keys.length + (if key ∈ m then 1 else 0) =
      m.keys.length + (if value.isSome then 1 else 0) := by
  cases value with
  | none =>
    have same : n.keys.length = (AList.erase key m).keys.length :=
      length_keys_eq_of_lookup fun other => by rw [overwritten, lookup_erase_eq]
    rw [same, length_keys_erase, Option.isSome_none, if_neg Bool.false_ne_true]
    split_ifs with present
    · have positive := length_pos_of_mem (AList.mem_keys.mp present)
      omega
    · rfl
  | some value =>
    have same : n.keys.length = (AList.insert key value m).keys.length :=
      length_keys_eq_of_lookup fun other => by rw [overwritten, lookup_insert_eq]
    rw [same, length_keys_insert, Option.isSome_some, if_pos rfl]
    split_ifs <;> rfl

/-! ### Counting keys -/

theorem countKeys_insert_of_notMem (fresh : key ∉ m) (value : ν) (p : κ → Bool) :
    countKeys (AList.insert key value m) p = m.countKeys p + if p key then 1 else 0 := by
  rw [countKeys, keys_insert_of_notMem fresh, countP_cons, countKeys]

theorem countKeys_erase_of_mem (present : key ∈ m) (p : κ → Bool) :
    countKeys (AList.erase key m) p + (if p key then 1 else 0) = m.countKeys p := by
  have perm := perm_cons_erase (AList.mem_keys.mp present)
  rw [countKeys, AList.keys_erase, countKeys, perm.countP_eq, countP_cons]

end KeyMap

/-- An order in which hash maps are scanned. -/
structure Scan (κ ν : Type) where
  order : KeyMap κ ν → List (κ × ν)
  perm : ∀ m, (order m).Perm m.toPairs

namespace Scan

variable {κ ν : Type} (scan : Scan κ ν) (m : KeyMap κ ν)

/-- A scan meets every key once. -/
theorem keys_order_perm : ((scan.order m).map Prod.fst).Perm m.keys := by
  have keys : m.toPairs.map Prod.fst = m.keys := by
    simp [KeyMap.toPairs, AList.keys, List.keys]
  rw [← keys]
  exact (scan.perm m).map Prod.fst

theorem nodup_keys_order : ((scan.order m).map Prod.fst).Nodup :=
  (scan.keys_order_perm m).nodup_iff.mpr m.keys_nodup

theorem length_order : (scan.order m).length = m.keys.length := by
  rw [← (scan.keys_order_perm m).length_eq, length_map]

/-- A scan meets the entries of the map. -/
theorem mem_order [DecidableEq κ] {key : κ} {value : ν} :
    (key, value) ∈ scan.order m ↔ m.lookup key = some value := by
  rw [(scan.perm m).mem_iff, KeyMap.mem_lookup_iff, KeyMap.toPairs, mem_map]
  constructor
  · rintro ⟨⟨_, _⟩, mem, ⟨⟩⟩
    exact mem
  · intro mem
    exact ⟨_, mem, rfl⟩

/-- A scan meets a key where the map has it, once. -/
theorem filter_order [DecidableEq κ] (key : κ) :
    (scan.order m).filter (fun pair => pair.1 = key) =
      (m.lookup key).toList.map fun value => (key, value) := by
  have distinct := scan.nodup_keys_order m
  cases found : m.lookup key with
  | none =>
    refine filter_eq_nil_iff.mpr ?_
    rintro ⟨_, value⟩ mem same
    obtain rfl := of_decide_eq_true same
    rw [scan.mem_order m] at mem
    cases found.symm.trans mem
  | some value =>
    have met := (scan.mem_order m).mpr found
    obtain ⟨before, after, split⟩ := append_of_mem met
    rw [split] at distinct ⊢
    rw [map_append, map_cons] at distinct
    obtain ⟨-, later, apart⟩ := nodup_append.mp distinct
    have none (rest : List (κ × ν)) (absent : key ∉ rest.map Prod.fst) :
        rest.filter (fun pair => pair.1 = key) = [] := by
      refine filter_eq_nil_iff.mpr fun pair mem same => ?_
      exact absent (of_decide_eq_true same ▸ mem_map_of_mem mem)
    rw [filter_append, filter_cons_of_pos (by simp),
      none before fun mem => apart key mem key mem_cons_self rfl,
      none after (nodup_cons.mp later).1]
    rfl

end Scan

namespace KeyMap

variable {κ α : Type} [DecidableEq κ]

/-- A value filed under a key, behind those that are there. -/
def push (m : KeyMap κ (List α)) (key : κ) (value : α) : KeyMap κ (List α) :=
  AList.insert key ((AList.lookup key m).getD [] ++ [value]) m

/-- Every value of a list filed under its key. -/
def pushAll (f : α → κ) (m : KeyMap κ (List α)) (values : List α) : KeyMap κ (List α) :=
  values.foldl (fun (m : KeyMap κ (List α)) value => m.push (f value) value) m

theorem pushAll_congr {f g : α → κ} {values : List α} (same : ∀ value ∈ values, f value = g value)
    (m : KeyMap κ (List α)) : pushAll f m values = pushAll g m values := by
  refine foldl_ext _ _ m fun m value mem => ?_
  rw [same value mem]

/-- The values under a key after a list was filed are those that belong there. -/
theorem lookup_pushAll (f : α → κ) (m : KeyMap κ (List α)) (values : List α) (key : κ) :
    (AList.lookup key (pushAll f m values)).getD [] =
      (AList.lookup key m).getD [] ++ values.filter (f · = key) := by
  unfold pushAll
  induction values generalizing m with
  | nil => simp
  | cons value rest ih =>
    rw [foldl_cons, ih, filter_cons]
    by_cases here : f value = key
    · subst here
      simp [push]
    · simp [push, here, AList.lookup_insert_ne (Ne.symm here)]

end KeyMap

namespace Scan

variable {κ α : Type} [DecidableEq κ] (scan : Scan κ (List α)) (f : α → κ) (values : List α)

/-- A scan of the filed values meets a list of values that belong together. -/
theorem mem_order_pushAll {key : κ} {group : List α}
    (mem : (key, group) ∈ scan.order (KeyMap.pushAll f ∅ values)) :
    group = values.filter (f · = key) := by
  have filed := KeyMap.lookup_pushAll f ∅ values key
  rw [(scan.mem_order _).mp mem] at filed
  simpa using filed

/-- It meets every value. -/
theorem mem_flatMap_order_pushAll {value : α} :
    value ∈ (scan.order (KeyMap.pushAll f ∅ values)).flatMap
      Prod.snd ↔ value ∈ values := by
  constructor
  · intro mem
    obtain ⟨⟨key, group⟩, met, mem⟩ := mem_flatMap.mp mem
    rw [scan.mem_order_pushAll f values met] at mem
    exact (mem_filter.mp mem).1
  · intro mem
    have filed := KeyMap.lookup_pushAll f ∅ values (f value)
    have here : value ∈ values.filter (f · = f value) := mem_filter.mpr ⟨mem, by simp⟩
    cases found : AList.lookup (f value) (KeyMap.pushAll f ∅ values) with
    | none =>
      rw [found] at filed
      simp only [AList.lookup_empty, Option.getD_none, nil_append] at filed
      rw [← filed] at here
      cases here
    | some group =>
      rw [found] at filed
      simp only [AList.lookup_empty, Option.getD_none, nil_append, Option.getD_some] at filed
      exact mem_flatMap.mpr ⟨(f value, group), (scan.mem_order _).mpr found, filed ▸ here⟩

/-- It meets no value twice. -/
theorem nodup_flatMap_order_pushAll (distinct : values.Nodup) :
    ((scan.order (KeyMap.pushAll f ∅ values)).flatMap
      Prod.snd).Nodup := by
  rw [flatMap_def, nodup_flatten]
  constructor
  · intro group mem
    obtain ⟨⟨key, group⟩, met, rfl⟩ := mem_map.mp mem
    rw [scan.mem_order_pushAll f values met]
    exact distinct.filter _
  · rw [pairwise_map]
    refine (pairwise_map.mp (scan.nodup_keys_order _)).imp_of_mem ?_
    rintro ⟨key, group⟩ ⟨other, group'⟩ met met' apart value mem mem'
    rw [scan.mem_order_pushAll f values met] at mem
    rw [scan.mem_order_pushAll f values met'] at mem'
    have here : f value = key := of_decide_eq_true (mem_filter.mp mem).2
    have there : f value = other := of_decide_eq_true (mem_filter.mp mem').2
    exact apart (here.symm.trans there)

end Scan

namespace Scan

variable {κ ν : Type} (scan : Scan κ ν)

/-- The scan in the order a map holds its entries. -/
def stored (κ ν : Type) : Scan κ ν :=
  ⟨KeyMap.toPairs, fun _ => .refl _⟩

/-- A scan whose order depends on the entries of a map only. -/
def Extensional [DecidableEq κ] : Prop :=
  ∀ m n : KeyMap κ ν, (∀ key, m.lookup key = n.lookup key) → scan.order m = scan.order n

end Scan

/-! ### Walks over keys -/

/-- A walk over different keys changes what a state shows of each of them once. -/
theorem view_foldl {σ κ ν : Type} [DecidableEq κ] {view : σ → κ → ν} {step : σ → κ → σ}
    {change : κ → ν → ν} (changes : ∀ s key other, view (step s key) other =
      if other = key then change key (view s key) else view s other) {keys : List κ}
    (distinct : keys.Nodup) (s : σ) (key : κ) :
    view (keys.foldl step s) key = if key ∈ keys then change key (view s key) else view s key := by
  induction keys generalizing s with
  | nil => rfl
  | cons first rest ih =>
    obtain ⟨apart, distinct⟩ := nodup_cons.mp distinct
    rw [foldl_cons, ih distinct, changes]
    by_cases same : key = first
    · subst same
      rw [if_neg apart, if_pos rfl, if_pos mem_cons_self]
    · simp only [same, if_false, mem_cons, false_or]

end Apex
