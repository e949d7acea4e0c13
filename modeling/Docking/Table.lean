namespace Docking

universe u v

/-! Finite tables that keep the order in which their keys were first inserted.
Every operation is described by the value it leaves under each key. -/

structure Table (Key : Type u) (Value : Type v) where
  entries : List (Key × Value)
  keys_nodup : (entries.map Prod.fst).Nodup

namespace Table

variable {Key : Type u} {Value : Type v}

def empty : Table Key Value := ⟨[], List.nodup_nil⟩

instance : Inhabited (Table Key Value) := ⟨empty⟩

def keys (table : Table Key Value) : List Key := table.entries.map Prod.fst

def values (table : Table Key Value) : List Value := table.entries.map Prod.snd

def size (table : Table Key Value) : Nat := table.entries.length

theorem ext {first second : Table Key Value}
    (entries_eq : first.entries = second.entries) : first = second := by
  cases first
  cases second
  cases entries_eq
  rfl

/-- The first entry, in insertion order, whose key and value satisfy `test`. -/
def findKey? (table : Table Key Value) (test : Key → Value → Bool) : Option Key :=
  (table.entries.find? fun entry => test entry.1 entry.2).map Prod.fst

def mapValues (table : Table Key Value) (change : Key → Value → Value) :
    Table Key Value where
  entries := table.entries.map fun entry => (entry.1, change entry.1 entry.2)
  keys_nodup := by
    simpa only [List.map_map, Function.comp_def] using table.keys_nodup

@[simp] theorem keys_mapValues (table : Table Key Value)
    (change : Key → Value → Value) : (table.mapValues change).keys = table.keys := by
  simp [keys, mapValues, Function.comp_def]

variable [DecidableEq Key]

def get? (table : Table Key Value) (key : Key) : Option Value :=
  (table.entries.find? fun entry => entry.1 = key).map Prod.snd

def contains (table : Table Key Value) (key : Key) : Bool :=
  (table.get? key).isSome

def modify (table : Table Key Value) (key : Key) (change : Value → Value) :
    Table Key Value :=
  table.mapValues fun current value => if current = key then change value else value

def erase (table : Table Key Value) (key : Key) : Table Key Value where
  entries := table.entries.filter fun entry => entry.1 ≠ key
  keys_nodup :=
    table.keys_nodup.sublist (List.Sublist.map _ List.filter_sublist)

@[simp] theorem get?_empty (key : Key) : (empty : Table Key Value).get? key = none :=
  rfl

private theorem find?_key {entries : List (Key × Value)} {key : Key}
    {entry : Key × Value}
    (found : entries.find? (fun entry => entry.1 = key) = some entry) :
    entry.1 = key := by
  simpa using List.find?_some found

theorem mem_keys_iff (table : Table Key Value) (key : Key) :
    key ∈ table.keys ↔ ∃ value, table.get? key = some value := by
  constructor
  · intro member
    obtain ⟨entry, entry_mem, entry_key⟩ := List.mem_map.mp member
    have present : (table.entries.find? fun entry => entry.1 = key).isSome := by
      rw [List.find?_isSome]
      exact ⟨entry, entry_mem, by simpa using entry_key⟩
    obtain ⟨found, found_eq⟩ := Option.isSome_iff_exists.mp present
    exact ⟨found.2, by simp only [get?, found_eq, Option.map_some]⟩
  · rintro ⟨value, value_eq⟩
    obtain ⟨found, found_eq, _⟩ := Option.map_eq_some_iff.mp value_eq
    exact List.mem_map.mpr
      ⟨found, List.mem_of_find?_eq_some found_eq, find?_key found_eq⟩

theorem get?_eq_none_iff (table : Table Key Value) (key : Key) :
    table.get? key = none ↔ key ∉ table.keys := by
  rw [mem_keys_iff]
  cases table.get? key <;> simp

theorem contains_iff (table : Table Key Value) (key : Key) :
    table.contains key = true ↔ key ∈ table.keys := by
  rw [mem_keys_iff]
  exact Option.isSome_iff_exists

private theorem find?_of_mem {entries : List (Key × Value)}
    (keys_nodup : (entries.map Prod.fst).Nodup) {key : Key} {value : Value}
    (member : (key, value) ∈ entries) :
    entries.find? (fun entry => entry.1 = key) = some (key, value) := by
  induction entries with
  | nil => cases member
  | cons head tail induction =>
      rw [List.map_cons, List.nodup_cons] at keys_nodup
      rcases List.mem_cons.mp member with rfl | member
      · simp
      · have different : head.1 ≠ key := by
          rintro rfl
          exact keys_nodup.1 (List.mem_map.mpr ⟨_, member, rfl⟩)
        rw [List.find?_cons_of_neg (by simpa using different)]
        exact induction keys_nodup.2 member

theorem get?_eq_some_iff (table : Table Key Value) (key : Key) (value : Value) :
    table.get? key = some value ↔ (key, value) ∈ table.entries := by
  constructor
  · intro value_eq
    obtain ⟨found, found_eq, rfl⟩ := Option.map_eq_some_iff.mp value_eq
    have key_eq := find?_key found_eq
    subst key_eq
    exact List.mem_of_find?_eq_some found_eq
  · intro member
    simp only [get?, find?_of_mem table.keys_nodup member, Option.map_some]

theorem findKey?_sound {table : Table Key Value} {test : Key → Value → Bool} {key : Key}
    (found : table.findKey? test = some key) :
    ∃ value, table.get? key = some value ∧ test key value = true := by
  obtain ⟨entry, entry_found, rfl⟩ := Option.map_eq_some_iff.mp found
  refine ⟨entry.2, (table.get?_eq_some_iff _ _).mpr (List.mem_of_find?_eq_some entry_found), ?_⟩
  simpa using List.find?_some entry_found

theorem findKey?_complete {table : Table Key Value} {test : Key → Value → Bool} {key : Key}
    {value : Value} (value_eq : table.get? key = some value) (passes : test key value = true) :
    ∃ found, table.findKey? test = some found := by
  refine Option.isSome_iff_exists.mp ?_
  rw [findKey?, Option.isSome_map, List.find?_isSome]
  exact ⟨(key, value), (table.get?_eq_some_iff key value).mp value_eq, passes⟩

/-- Sets the value under `key`: in place when the key is present, else at the end. -/
def insert (table : Table Key Value) (key : Key) (value : Value) : Table Key Value :=
  if absent : table.get? key = none then
    { entries := table.entries ++ [(key, value)]
      keys_nodup := by
        have fresh := (table.get?_eq_none_iff key).mp absent
        rw [List.map_append, List.nodup_append]
        refine ⟨table.keys_nodup, by simp, ?_⟩
        rintro left left_mem right right_mem rfl
        rw [List.map_singleton, List.mem_singleton] at right_mem
        subst right_mem
        exact fresh left_mem }
  else
    table.modify key fun _ => value

private theorem find?_map_value (entries : List (Key × Value))
    (change : Key → Value → Value) (key : Key) :
    ((entries.map fun entry => (entry.1, change entry.1 entry.2)).find?
        fun entry => entry.1 = key).map Prod.snd =
      ((entries.find? fun entry => entry.1 = key).map Prod.snd).map (change key) := by
  induction entries with
  | nil => rfl
  | cons head tail induction =>
      by_cases same : head.1 = key
      · subst same
        simp
      · simpa [List.find?_cons, same] using induction

theorem get?_mapValues (table : Table Key Value) (change : Key → Value → Value)
    (key : Key) :
    (table.mapValues change).get? key = (table.get? key).map (change key) :=
  find?_map_value table.entries change key

theorem get?_modify (table : Table Key Value) (key : Key) (change : Value → Value)
    (other : Key) :
    (table.modify key change).get? other =
      if other = key then (table.get? key).map change else table.get? other := by
  rw [modify, get?_mapValues]
  split
  · next same =>
      subst same
      simp
  · next different =>
      cases table.get? other <;> simp

theorem get?_erase (table : Table Key Value) (key other : Key) :
    (table.erase key).get? other = if other = key then none else table.get? other := by
  simp only [get?, erase, List.find?_filter]
  split
  · next same =>
      subst same
      rw [Option.map_eq_none_iff, List.find?_eq_none]
      intro entry _
      simp
  · next different =>
      congr 1
      congr 1
      funext entry
      by_cases at_other : entry.1 = other
      · subst at_other
        simp [different]
      · simp [at_other]

theorem erase_of_get?_eq_none {table : Table Key Value} {key : Key}
    (absent : table.get? key = none) : table.erase key = table := by
  have fresh := (table.get?_eq_none_iff key).mp absent
  refine ext (List.filter_eq_self.mpr fun entry member => ?_)
  simpa using fun same => fresh (List.mem_map.mpr ⟨entry, member, same⟩)

theorem get?_insert (table : Table Key Value) (key : Key) (value : Value)
    (other : Key) :
    (table.insert key value).get? other =
      if other = key then some value else table.get? other := by
  unfold insert
  split
  · next absent =>
      have absent_find := Option.map_eq_none_iff.mp absent
      by_cases same : other = key
      · subst same
        simp [get?, List.find?_append, absent_find]
      · simp [get?, List.find?_append, Ne.symm same, same]
  · next present =>
      rw [get?_modify]
      split
      · next same =>
          obtain ⟨current, current_eq⟩ := Option.ne_none_iff_exists'.mp present
          simp [current_eq]
      · rfl

@[simp] theorem keys_modify (table : Table Key Value) (key : Key)
    (change : Value → Value) : (table.modify key change).keys = table.keys :=
  table.keys_mapValues _

theorem keys_erase (table : Table Key Value) (key : Key) :
    (table.erase key).keys = table.keys.filter fun current => current ≠ key := by
  simp [keys, erase, List.filter_map, Function.comp_def]

end Table
end Docking
