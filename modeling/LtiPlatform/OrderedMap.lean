namespace LtiPlatform

abbrev Entries (α : Type) := List (String × α)

namespace Entries

variable {α : Type}

def keys (entries : Entries α) : List String := entries.map Prod.fst

def get? (entries : Entries α) (name : String) : Option α := entries.lookup name

/-- The value of a name that is already there is replaced where it stands. -/
def insert (name : String) (value : α) : Entries α → Entries α
  | [] => [(name, value)]
  | entry :: rest =>
    if entry.1 = name then (name, value) :: rest else entry :: insert name value rest

/-- The last entry takes the place of the erased one. -/
def erase (name : String) : Entries α → Entries α
  | [] => []
  | entry :: rest =>
    if entry.1 = name then
      match rest.getLast? with
      | none => []
      | some last => last :: rest.dropLast
    else entry :: erase name rest

theorem keys_insert (name : String) (value : α) (entries : Entries α) :
    (insert name value entries).keys =
      if name ∈ entries.keys then entries.keys else entries.keys ++ [name] := by
  induction entries with
  | nil => simp [insert, keys]
  | cons entry rest ih =>
    by_cases same : entry.1 = name
    · simp [insert, keys, same]
    · have other : ¬ name = entry.1 := fun equal => same equal.symm
      simp only [insert, same, if_false, keys, List.map_cons, List.mem_cons, other, false_or]
      simp only [keys] at ih
      rw [ih]
      split
      · next known => simp [known]
      · next unknown => simp [unknown]

theorem nodup_insert {entries : Entries α} (name : String) (value : α)
    (distinct : entries.keys.Nodup) : (insert name value entries).keys.Nodup := by
  rw [keys_insert]
  split
  · exact distinct
  · next fresh =>
    rw [List.nodup_append]
    refine ⟨distinct, by simp, ?_⟩
    intro key member other single
    simp only [List.mem_singleton] at single
    rintro rfl
    exact fresh (single ▸ member)

/-- Apart from order, erasing removes the first entry of the name. -/
theorem erase_perm (name : String) (entries : Entries α) :
    (erase name entries).Perm (entries.eraseP (·.1 = name)) := by
  induction entries with
  | nil => exact .nil
  | cons entry rest ih =>
    by_cases same : entry.1 = name
    · simp only [erase, same, if_true, List.eraseP_cons, decide_true]
      cases rest with
      | nil => exact .nil
      | cons head tail =>
        simp only [List.getLast?_eq_some_getLast (List.cons_ne_nil head tail)]
        have split := List.dropLast_concat_getLast (List.cons_ne_nil head tail)
        exact (List.perm_append_singleton _ _).symm.trans (.of_eq split)
    · simp only [erase, same, if_false, List.eraseP_cons, decide_false]
      exact ih.cons entry

theorem nodup_erase {entries : Entries α} (name : String) (distinct : entries.keys.Nodup) :
    (erase name entries).keys.Nodup := by
  refine ((erase_perm name entries).map Prod.fst).symm.nodup ?_
  exact (List.eraseP_sublist.map Prod.fst).nodup distinct

end Entries

/-- A map whose names are distinct and stand in the order of their first setting. -/
structure OrderedMap (α : Type) where
  entries : Entries α
  distinct : entries.keys.Nodup

namespace OrderedMap

variable {α β : Type}

instance [DecidableEq α] : DecidableEq (OrderedMap α) := fun left right =>
  decidable_of_iff (left.entries = right.entries) <| by
    cases left; cases right; simp

def empty : OrderedMap α := ⟨[], .nil⟩

instance : EmptyCollection (OrderedMap α) := ⟨empty⟩

instance : Inhabited (OrderedMap α) := ⟨empty⟩

def keys (map : OrderedMap α) : List String := map.entries.keys

def size (map : OrderedMap α) : Nat := map.entries.length

def isEmpty (map : OrderedMap α) : Bool := map.entries.isEmpty

def get? (map : OrderedMap α) (name : String) : Option α := map.entries.get? name

def contains (map : OrderedMap α) (name : String) : Bool := (map.get? name).isSome

def insert (map : OrderedMap α) (name : String) (value : α) : OrderedMap α :=
  ⟨Entries.insert name value map.entries, Entries.nodup_insert name value map.distinct⟩

def insertSome (map : OrderedMap α) (name : String) : Option α → OrderedMap α
  | none => map
  | some value => map.insert name value

def erase (map : OrderedMap α) (name : String) : OrderedMap α :=
  ⟨Entries.erase name map.entries, Entries.nodup_erase name map.distinct⟩

/-- Sets every entry of the list in turn. -/
def insertAll (map : OrderedMap α) (entries : Entries α) : OrderedMap α :=
  entries.foldl (fun built entry => built.insert entry.1 entry.2) map

/-- A name given several times keeps its first place and its last value. -/
def ofList (entries : Entries α) : OrderedMap α := empty.insertAll entries

def extend (map other : OrderedMap α) : OrderedMap α := map.insertAll other.entries

def map (f : String → α → β) (source : OrderedMap α) : OrderedMap β :=
  ⟨source.entries.map fun entry => (entry.1, f entry.1 entry.2), by
    have same : (source.entries.map fun entry => (entry.1, f entry.1 entry.2)).map Prod.fst =
        source.entries.keys := by simp [Entries.keys]
    simpa only [Entries.keys, same] using source.distinct⟩

end OrderedMap

end LtiPlatform
