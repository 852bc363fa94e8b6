import Mathlib.Data.List.Basic
import Mathlib.Data.List.Nodup
import Mathlib.Tactic.Common
import LtiPlatform.OrderedMap

namespace LtiPlatform

namespace Entries

variable {α : Type} {entries : Entries α} {name : String}

@[simp]
theorem get?_nil : get? ([] : Entries α) name = none := rfl

theorem get?_cons {first : String} {value : α} :
    get? ((first, value) :: entries) name = if first = name then some value else entries.get? name := by
  by_cases same : first = name
  · simp [get?, same]
  · simp [get?, List.lookup_cons, same, beq_eq_false_iff_ne.mpr (Ne.symm same)]

theorem get?_append {later : Entries α} :
    get? (entries ++ later) name = (entries.get? name).or (later.get? name) :=
  List.lookup_append

theorem get?_eq_none_iff : entries.get? name = none ↔ name ∉ entries.keys := by
  simp only [get?, keys, List.lookup_eq_none_iff, List.mem_map, not_exists, not_and, bne_iff_ne]
  exact ⟨fun absent entry member same => absent entry member same.symm,
    fun absent entry member same => absent entry member same.symm⟩

theorem get?_isSome_iff : (entries.get? name).isSome ↔ name ∈ entries.keys := by
  rw [← Option.ne_none_iff_isSome, Ne, get?_eq_none_iff, not_not]

theorem mem_of_get? {value : α} (found : entries.get? name = some value) : (name, value) ∈ entries := by
  obtain ⟨before, after, split, _⟩ := List.lookup_eq_some_iff.mp found
  simp [split]

theorem get?_of_mem (distinct : entries.keys.Nodup) {value : α} (member : (name, value) ∈ entries) :
    entries.get? name = some value := by
  induction entries with
  | nil => cases member
  | cons entry rest ih =>
    obtain ⟨first, held⟩ := entry
    obtain ⟨fresh, distinct⟩ := List.nodup_cons.mp distinct
    rw [get?_cons]
    rcases List.mem_cons.mp member with same | member
    · cases same
      exact if_pos rfl
    · have other : first ≠ name := by
        rintro rfl
        exact fresh (List.mem_map.mpr ⟨_, member, rfl⟩)
      rw [if_neg other, ih distinct member]

/-- Each entry with what its value is changed to, where there is such a value. -/
def changed {β : Type} (change : String → α → Option β) (entries : Entries α) : Entries β :=
  entries.filterMap fun entry => (change entry.1 entry.2).map fun value => (entry.1, value)

section Changed

variable {β : Type} (change : String → α → Option β)

theorem changed_cons_none {value : α} (left : change name value = none) (rest : Entries α) :
    changed change ((name, value) :: rest) = changed change rest :=
  List.filterMap_cons_none (by rw [left]; rfl)

theorem changed_cons_some {value : α} {new : β} (kept : change name value = some new) (rest : Entries α) :
    changed change ((name, value) :: rest) = (name, new) :: changed change rest :=
  List.filterMap_cons_some (by rw [kept]; rfl)

theorem keys_changed (entries : Entries α) : (changed change entries).keys.Sublist entries.keys := by
  induction entries with
  | nil => exact .slnil
  | cons entry rest ih =>
    obtain ⟨first, value⟩ := entry
    cases new : change first value with
    | none =>
      rw [changed_cons_none change new]
      exact ih.cons first
    | some value' =>
      rw [changed_cons_some change new]
      exact ih.cons_cons first

theorem get?_changed (distinct : entries.keys.Nodup) :
    (changed change entries).get? name = (entries.get? name).bind (change name) := by
  induction entries with
  | nil => rfl
  | cons entry rest ih =>
    obtain ⟨first, value⟩ := entry
    obtain ⟨fresh, distinctRest⟩ := List.nodup_cons.mp distinct
    have once : first = name → get? (changed change rest) name = none := by
      rintro rfl
      exact get?_eq_none_iff.mpr fun member => fresh ((keys_changed change rest).subset member)
    rw [get?_cons]
    cases new : change first value with
    | none =>
      rw [changed_cons_none change new, ih distinctRest]
      split
      · next same =>
        rw [← ih distinctRest, once same, Option.bind_some, ← same, new]
      · rfl
    | some value' =>
      rw [changed_cons_some change new, get?_cons, ih distinctRest]
      split
      · next same => rw [Option.bind_some, ← same, new]
      · rfl

theorem flatMap_changed {γ : Type} (expand : String × β → List γ) (entries : Entries α) :
    (changed change entries).flatMap expand =
      entries.flatMap fun entry => (change entry.1 entry.2).toList.flatMap fun new => expand (entry.1, new) := by
  induction entries with
  | nil => rfl
  | cons entry rest ih =>
    obtain ⟨first, value⟩ := entry
    rw [List.flatMap_cons, ← ih]
    cases new : change first value with
    | none => rw [changed_cons_none change new, Option.toList_none, List.flatMap_nil, List.nil_append]
    | some value' =>
      rw [changed_cons_some change new, Option.toList_some, List.flatMap_singleton, List.flatMap_cons]

end Changed

/-- Of values given position by position, a name finds the one at its position. -/
theorem get?_zip {names : List String} {values : List α} (distinct : names.Nodup) {i : Nat}
    (here : names[i]? = some name) : get? (names.zip values) name = values[i]? := by
  induction names generalizing values i with
  | nil => cases here
  | cons first rest ih =>
    obtain ⟨fresh, distinctRest⟩ := List.nodup_cons.mp distinct
    cases values with
    | nil => rfl
    | cons value later =>
      rw [List.zip_cons_cons, get?_cons]
      cases i with
      | zero =>
        cases here
        exact if_pos rfl
      | succ i =>
        have other : first ≠ name := by
          rintro rfl
          exact fresh (List.mem_of_getElem? here)
        rw [if_neg other]
        exact ih distinctRest here

theorem keys_zip (names : List String) (values : List α) : (keys (names.zip values)).Sublist names := by
  induction names generalizing values with
  | nil => exact .slnil
  | cons first rest ih =>
    cases values with
    | nil => exact List.nil_sublist _
    | cons value later => exact (ih later).cons_cons first

@[simp]
theorem keys_map {β : Type} (change : α → β) (entries : Entries α) :
    keys (entries.map fun entry => (entry.1, change entry.2)) = entries.keys := by
  rw [keys, List.map_map]
  rfl

theorem get?_map {β : Type} (change : α → β) (entries : Entries α) (name : String) :
    get? (entries.map fun entry => (entry.1, change entry.2)) name = (entries.get? name).map change := by
  induction entries with
  | nil => rfl
  | cons entry rest ih =>
    rw [List.map_cons, get?_cons, get?_cons, ih]
    split <;> rfl

theorem length_filter_le_one (distinct : entries.keys.Nodup) :
    (entries.filter (·.1 == name)).length ≤ 1 := by
  have named : (entries.filter (·.1 == name)).map Prod.fst = entries.keys.filter (· == name) := by
    rw [keys, List.filter_map]
    rfl
  rw [← List.length_map Prod.fst, named, ← List.count_eq_length_filter]
  exact List.nodup_iff_count_le_one.mp distinct name

theorem get?_insert (other : String) (value : α) :
    (insert other value entries).get? name = if other = name then some value else entries.get? name := by
  induction entries with
  | nil => rw [insert, get?_cons]
  | cons entry rest ih =>
    obtain ⟨first, held⟩ := entry
    by_cases same : first = other
    · simp only [insert, same, if_true, get?_cons]
      split <;> simp_all
    · simp only [insert, same, if_false, get?_cons, ih]
      by_cases here : first = name
      · subst here
        simp [Ne.symm same]
      · simp [here]

/-- A new name goes to the end. -/
theorem insert_of_not_mem {value : α} (fresh : name ∉ entries.keys) :
    insert name value entries = entries ++ [(name, value)] := by
  induction entries with
  | nil => rfl
  | cons entry rest ih =>
    have other : entry.1 ≠ name := by
      rintro rfl
      exact fresh (List.mem_map.mpr ⟨entry, List.mem_cons_self .., rfl⟩)
    have later : name ∉ keys rest := fun member => fresh (List.mem_cons_of_mem _ member)
    simp only [insert, other, if_false, ih later, List.cons_append]

@[simp]
theorem insert_insert (name : String) (value later : α) (entries : Entries α) :
    insert name later (insert name value entries) = insert name later entries := by
  induction entries with
  | nil => simp [insert]
  | cons entry rest ih =>
    by_cases same : entry.1 = name
    · simp [insert, same]
    · simp only [insert, same, if_false, ih]

theorem not_mem_eraseP (distinct : entries.keys.Nodup) :
    name ∉ (entries.eraseP (·.1 = name)).map Prod.fst := by
  induction entries with
  | nil => simp
  | cons entry rest ih =>
    obtain ⟨fresh, distinct⟩ := List.nodup_cons.mp distinct
    by_cases same : entry.1 = name
    · rw [List.eraseP_cons_of_pos (by simpa using same), ← same]
      exact fresh
    · rw [List.eraseP_cons_of_neg (by simpa using same), List.map_cons, List.mem_cons, not_or]
      exact ⟨Ne.symm same, ih distinct⟩

end Entries

namespace OrderedMap

variable {α β : Type} {map : OrderedMap α} {name other : String} {value : α}

theorem eq_of_entries {left right : OrderedMap α} (same : left.entries = right.entries) :
    left = right := by
  cases left
  cases right
  cases same
  rfl

theorem mem_entries_iff : (name, value) ∈ map.entries ↔ map.get? name = some value :=
  ⟨Entries.get?_of_mem map.distinct, Entries.mem_of_get?⟩

theorem get?_insert :
    (map.insert other value).get? name = if other = name then some value else map.get? name :=
  Entries.get?_insert other value

/-- Two maps that find the same under every name have the same entries, and the other way round. -/
theorem perm_iff_get?_eq {other : OrderedMap α} :
    map.entries.Perm other.entries ↔ ∀ name, map.get? name = other.get? name := by
  have distinct : ∀ map : OrderedMap α, map.entries.Nodup := fun map => .of_map _ map.distinct
  rw [List.perm_ext_iff_of_nodup (distinct map) (distinct other)]
  simp only [Prod.forall, mem_entries_iff]
  exact forall_congr' fun name => Option.ext_iff.symm

@[simp]
theorem get?_insert_self : (map.insert name value).get? name = some value := by
  rw [get?_insert, if_pos rfl]

@[simp]
theorem get?_insert_of_ne (different : other ≠ name) :
    (map.insert other value).get? name = map.get? name := by
  rw [get?_insert, if_neg different]

@[simp]
theorem insert_insert (later : α) : (map.insert name value).insert name later = map.insert name later :=
  eq_of_entries (Entries.insert_insert name value later map.entries)

@[simp]
theorem get?_erase_self : (map.erase name).get? name = none := by
  have gone : name ∉ (Entries.erase name map.entries).keys := by
    rw [Entries.keys, ((Entries.erase_perm name map.entries).map Prod.fst).mem_iff]
    exact Entries.not_mem_eraseP map.distinct
  exact Entries.get?_eq_none_iff.mpr gone

theorem get?_erase_of_ne (different : other ≠ name) :
    (map.erase other).get? name = map.get? name := by
  refine Option.ext fun value => ?_
  rw [← mem_entries_iff, ← mem_entries_iff, show (map.erase other).entries =
    Entries.erase other map.entries from rfl, (Entries.erase_perm other map.entries).mem_iff]
  exact List.mem_eraseP_of_neg (by simpa using Ne.symm different)

theorem get?_erase :
    (map.erase other).get? name = if other = name then none else map.get? name := by
  split
  · next same => rw [same, get?_erase_self]
  · next different => exact get?_erase_of_ne different

theorem get?_insertSome {value? : Option α} :
    (map.insertSome other value?).get? name = if other = name then value?.or (map.get? name) else map.get? name := by
  cases value? with
  | none => rw [insertSome, Option.none_or, ite_self]
  | some value =>
    rw [insertSome, get?_insert]
    rfl

theorem entries_insert_of_get?_eq_none (fresh : map.get? name = none) :
    (map.insert name value).entries = map.entries ++ [(name, value)] :=
  Entries.insert_of_not_mem (Entries.get?_eq_none_iff.mp fresh)

theorem keys_insert_of_mem (known : name ∈ map.keys) : (map.insert name value).keys = map.keys := by
  show (Entries.insert name value map.entries).keys = map.entries.keys
  rw [Entries.keys_insert, if_pos (show name ∈ map.entries.keys from known)]

@[simp]
theorem insertAll_nil : map.insertAll [] = map := rfl

@[simp]
theorem insertAll_cons {entries : Entries α} :
    map.insertAll ((name, value) :: entries) = (map.insert name value).insertAll entries := rfl

theorem insertAll_append {entries later : Entries α} :
    map.insertAll (entries ++ later) = (map.insertAll entries).insertAll later :=
  List.foldl_append

/-- Of several values for a name the last one counts. -/
theorem get?_insertAll {entries : Entries α} :
    (map.insertAll entries).get? name = (Entries.get? entries.reverse name).or (map.get? name) := by
  induction entries generalizing map with
  | nil => rfl
  | cons entry rest ih =>
    obtain ⟨first, held⟩ := entry
    rw [insertAll_cons, ih, List.reverse_cons, Entries.get?_append, Entries.get?_cons, Option.or_assoc,
      get?_insert]
    split <;> rfl

/-- Setting names that are there keeps the names and their order. -/
theorem keys_insertAll_of_subset {entries : Entries α} (known : entries.keys ⊆ map.keys) :
    (map.insertAll entries).keys = map.keys := by
  induction entries generalizing map with
  | nil => rfl
  | cons entry rest ih =>
    obtain ⟨first, held⟩ := entry
    have kept : (map.insert first held).keys = map.keys := keys_insert_of_mem (known (List.mem_cons_self ..))
    rw [insertAll_cons, ih, kept]
    rw [kept]
    exact fun name member => known (List.mem_cons_of_mem _ member)

theorem get?_insertAll_of_nodup {entries : Entries α} (distinct : entries.keys.Nodup) :
    (map.insertAll entries).get? name = (entries.get? name).or (map.get? name) := by
  have reversed : (Entries.keys entries.reverse).Nodup := by
    simpa [Entries.keys, List.map_reverse] using distinct
  have same : Entries.get? entries.reverse name = entries.get? name := by
    refine Option.ext fun value => ⟨fun found => ?_, fun found => ?_⟩
    · exact Entries.get?_of_mem distinct (List.mem_reverse.mp (Entries.mem_of_get? found))
    · exact Entries.get?_of_mem reversed (List.mem_reverse.mpr (Entries.mem_of_get? found))
  rw [get?_insertAll, same]

@[simp]
theorem get?_extend {later : OrderedMap α} :
    (map.extend later).get? name = (later.get? name).or (map.get? name) :=
  get?_insertAll_of_nodup later.distinct

/-- Values of the map itself are replaced where there is a new one for them. -/
theorem get?_insertAll_changed (map : OrderedMap α) (change : String → α → Option α) :
    (map.insertAll (Entries.changed change map.entries)).get? name =
      (map.get? name).map fun value => (change name value).getD value := by
  have distinct := (Entries.keys_changed change map.entries).nodup map.distinct
  rw [get?_insertAll_of_nodup distinct, Entries.get?_changed change map.distinct]
  cases held : map.get? name with
  | none =>
    rw [show Entries.get? map.entries name = none from held]
    rfl
  | some value =>
    rw [show Entries.get? map.entries name = some value from held, Option.bind_some, Option.map_some]
    cases change name value <;> rfl

/-- New names are added at the end, in the order in which they are given. -/
theorem entries_insertAll_of_nodup {entries : Entries α}
    (distinct : Entries.keys (map.entries ++ entries) |>.Nodup) :
    (map.insertAll entries).entries = map.entries ++ entries := by
  induction entries generalizing map with
  | nil => simp
  | cons entry rest ih =>
    obtain ⟨first, held⟩ := entry
    have fresh : map.get? first = none := by
      refine Entries.get?_eq_none_iff.mpr fun member => ?_
      rw [Entries.keys, List.map_append, List.nodup_append] at distinct
      exact distinct.2.2 _ member _ (List.mem_cons_self ..) rfl
    have added : (map.insert first held).entries = map.entries ++ [(first, held)] :=
      entries_insert_of_get?_eq_none fresh
    rw [insertAll_cons, ih (by simpa [added] using distinct), added, List.append_assoc]
    rfl

theorem entries_ofList {entries : Entries α} (distinct : entries.keys.Nodup) :
    (ofList entries).entries = entries := by
  rw [ofList, entries_insertAll_of_nodup (by simpa [empty] using distinct)]
  rfl

theorem get?_ofList {entries : Entries α} :
    (ofList entries).get? name = Entries.get? entries.reverse name := by
  rw [ofList, get?_insertAll]
  exact Option.or_none

/-- Names may be repeated as long as they say the same. -/
theorem get?_ofList_eq_some_iff {entries : Entries α}
    (alike : ∀ first second, (name, first) ∈ entries → (name, second) ∈ entries → first = second) :
    (ofList entries).get? name = some value ↔ (name, value) ∈ entries := by
  rw [get?_ofList]
  constructor
  · exact fun found => List.mem_reverse.mp (Entries.mem_of_get? found)
  · intro member
    have known : (Entries.get? entries.reverse name).isSome :=
      Entries.get?_isSome_iff.mpr (List.mem_map.mpr ⟨_, List.mem_reverse.mpr member, rfl⟩)
    obtain ⟨held, found⟩ := Option.isSome_iff_exists.mp known
    rw [found, alike held value (List.mem_reverse.mp (Entries.mem_of_get? found)) member]

theorem get?_ofList_of_nodup {entries : Entries α} (distinct : entries.keys.Nodup) :
    (ofList entries).get? name = entries.get? name := by
  rw [ofList, get?_insertAll_of_nodup distinct]
  exact Option.or_none

@[simp]
theorem ofList_entries : ofList map.entries = map := eq_of_entries (entries_ofList map.distinct)

end OrderedMap

end LtiPlatform
