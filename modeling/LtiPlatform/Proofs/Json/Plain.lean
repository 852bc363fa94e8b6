import Mathlib.Tactic.Common
import LtiPlatform.Json.Parser
import LtiPlatform.Proofs.OrderedMap

namespace LtiPlatform

namespace OrderedMap

variable {α : Type}

/-- Setting names does not change which one is first, unless there was none. -/
theorem head?_keys_insertAll (map : OrderedMap α) (entries : Entries α) :
    (map.insertAll entries).keys.head? = map.keys.head?.or entries.keys.head? := by
  induction entries generalizing map with
  | nil => simp [Entries.keys]
  | cons entry rest ih =>
    have first : (map.insert entry.1 entry.2).keys.head? = map.keys.head?.or (some entry.1) := by
      rw [keys, insert, Entries.keys_insert]
      split
      · next known => cases named : map.entries.keys with
        | nil => rw [named] at known; cases known
        | cons => rw [keys, named]; rfl
      · rw [List.head?_append, List.head?_singleton, keys]
    rw [insertAll_cons, ih, first, Option.or_assoc]
    rfl

theorem head?_keys_ofList (entries : Entries α) : (ofList entries).keys.head? = entries.keys.head? :=
  head?_keys_insertAll empty entries

theorem mem_of_mem_ofList {entries : Entries α} {entry : String × α} (member : entry ∈ (ofList entries).entries) :
    entry ∈ entries := by
  rw [mem_entries_iff, get?_ofList] at member
  exact List.mem_reverse.mp (Entries.mem_of_get? member)

end OrderedMap

namespace Json

theorem isRaw_iff {members : List (String × Json)} :
    isRaw members ↔ (Entries.keys members).head? = some rawName := by
  cases members with
  | nil => simp [isRaw, Entries.keys]
  | cons member rest => simp [isRaw, Entries.keys]

theorem isRaw_congr {members others : List (String × Json)}
    (same : (Entries.keys members).head? = (Entries.keys others).head?) : isRaw members = isRaw others := by
  rw [Bool.eq_iff_iff, isRaw_iff, isRaw_iff, same]

mutual

/-- No object in the value begins with the name that makes it one for a text. -/
def isPlain : Json → Bool
  | array items => itemsArePlain items
  | object members => !isRaw members && membersArePlain members
  | _ => true

def itemsArePlain : List Json → Bool
  | [] => true
  | item :: rest => item.isPlain && itemsArePlain rest

def membersArePlain : List (String × Json) → Bool
  | [] => true
  | (_, value) :: rest => value.isPlain && membersArePlain rest

end

theorem itemsArePlain_iff {items : List Json} : itemsArePlain items ↔ ∀ item ∈ items, item.isPlain := by
  induction items with
  | nil => simp [itemsArePlain]
  | cons item rest ih => simp [itemsArePlain, ih]

theorem membersArePlain_iff {members : List (String × Json)} :
    membersArePlain members ↔ ∀ member ∈ members, member.2.isPlain := by
  induction members with
  | nil => simp [membersArePlain]
  | cons member rest ih => simp [membersArePlain, ih]

theorem isPlain_array_iff {items : List Json} : (array items).isPlain ↔ ∀ item ∈ items, item.isPlain :=
  itemsArePlain_iff

theorem isPlain_object_iff {members : List (String × Json)} :
    (object members).isPlain ↔ isRaw members = false ∧ ∀ member ∈ members, member.2.isPlain := by
  rw [isPlain, Bool.and_eq_true, membersArePlain_iff, Bool.not_eq_true']

theorem isPlain_ofStrings (texts : List String) : (ofStrings texts).isPlain := by
  refine isPlain_array_iff.mpr fun item member => ?_
  obtain ⟨text, _, rfl⟩ := List.mem_map.mp member
  rfl

theorem isPlain_ofMap_iff {map : OrderedMap Json} : (ofMap map).isPlain ↔
    map.keys.head? ≠ some rawName ∧ ∀ name value, map.get? name = some value → value.isPlain := by
  rw [ofMap, isPlain_object_iff, ← Bool.not_eq_true, isRaw_iff]
  refine and_congr Iff.rfl ⟨fun each name value found => ?_, fun each member listed => ?_⟩
  · exact each (name, value) (OrderedMap.mem_entries_iff.mpr found)
  · exact each member.1 member.2 (OrderedMap.mem_entries_iff.mp listed)

theorem isPlain_of_object? {value : Json} {members : OrderedMap Json} (plain : value.isPlain)
    (isObject : value.object? = some members) : (ofMap members).isPlain := by
  cases value with
  | object list =>
    cases isObject
    rw [isPlain_object_iff] at plain
    rw [ofMap, isPlain_object_iff, isRaw_congr (OrderedMap.head?_keys_ofList list)]
    exact ⟨plain.1, fun member listed => plain.2 member (OrderedMap.mem_of_mem_ofList listed)⟩
  | _ => cases isObject

/-- An object stays plain when plain members are set, unless one with the name for texts becomes the first. -/
theorem isPlain_insertAll {members : OrderedMap Json} {entries : Entries Json} (plain : (ofMap members).isPlain)
    (first : members.keys = [] → entries.keys.head? ≠ some rawName) (each : ∀ entry ∈ entries, entry.2.isPlain) :
    (ofMap (members.insertAll entries)).isPlain := by
  rw [isPlain_ofMap_iff] at plain ⊢
  refine ⟨?_, fun name value found => ?_⟩
  · rw [OrderedMap.head?_keys_insertAll]
    cases named : members.keys with
    | nil => exact first named
    | cons name rest =>
      have head := plain.1
      rw [named] at head
      exact head
  · rw [OrderedMap.get?_insertAll, Option.or_eq_some_iff] at found
    rcases found with found | ⟨_, found⟩
    · exact each _ (List.mem_reverse.mp (Entries.mem_of_get? found))
    · exact plain.2 name value found

theorem isPlain_insert {members : OrderedMap Json} {name : String} {value : Json} (plain : (ofMap members).isPlain)
    (ordinary : name ≠ rawName) (held : value.isPlain) : (ofMap (members.insert name value)).isPlain :=
  @isPlain_insertAll members [(name, value)] plain (fun _ => by simpa [Entries.keys] using ordinary)
    (List.forall_mem_singleton.mpr held)

theorem settleItems_eq_map (items : List Json) : settleItems items = items.map settle := by
  induction items with
  | nil => rfl
  | cons item rest ih => rw [settleItems, List.map_cons, ih]

theorem settleMembers_eq_map (members : List (String × Json)) :
    settleMembers members = members.map fun member => (member.1, settle member.2) := by
  induction members with
  | nil => rfl
  | cons member rest ih => rw [settleMembers, List.map_cons, ih]

@[simp]
theorem keys_settleMembers (members : List (String × Json)) :
    Entries.keys (settleMembers members) = Entries.keys members := by
  rw [settleMembers_eq_map, Entries.keys, List.map_map]
  rfl

mutual

theorem isPlain_settle : ∀ value : Json, value.isPlain → (settle value).isPlain
  | .null, _ | .bool _, _ | .number _, _ | .string _, _ => rfl
  | .array items, plain => isPlain_settleItems items plain
  | .object members, plain => by
    rw [isPlain, Bool.and_eq_true, Bool.not_eq_true'] at plain
    rw [settle, ofMap, isPlain_object_iff]
    constructor
    · have first := OrderedMap.head?_keys_ofList (settleMembers members)
      rw [keys_settleMembers] at first
      rw [isRaw_congr first, plain.1]
    · intro member listed
      exact membersArePlain_iff.mp (isPlain_settleMembers members plain.2) member (OrderedMap.mem_of_mem_ofList listed)

theorem isPlain_settleItems : ∀ items : List Json, itemsArePlain items → itemsArePlain (settleItems items)
  | [], _ => rfl
  | item :: rest, plain => by
    rw [itemsArePlain, Bool.and_eq_true] at plain
    rw [settleItems, itemsArePlain, isPlain_settle item plain.1, isPlain_settleItems rest plain.2, Bool.and_self]

theorem isPlain_settleMembers : ∀ members : List (String × Json), membersArePlain members →
    membersArePlain (settleMembers members)
  | [], _ => rfl
  | (name, value) :: rest, plain => by
    rw [membersArePlain, Bool.and_eq_true] at plain
    rw [settleMembers, membersArePlain, isPlain_settle value plain.1, isPlain_settleMembers rest plain.2,
      Bool.and_self]

end

section Unwrapping

variable {read? : String → Option Json}

mutual

/-- A plain value stays as it is. -/
theorem unwrap?_of_isPlain : ∀ value : Json, value.isPlain → unwrap? read? value = some value
  | .null, _ | .bool _, _ | .number _, _ | .string _, _ => rfl
  | .array items, plain => by
    rw [unwrap?, unwrapItems?_of_plain items plain, Option.map_some]
  | .object members, plain => by
    rw [isPlain, Bool.and_eq_true, Bool.not_eq_true'] at plain
    rw [unwrap?, plain.1, if_neg (by decide), unwrapMembers?_of_plain members plain.2, Option.map_some]

theorem unwrapItems?_of_plain : ∀ items : List Json, itemsArePlain items → unwrapItems? read? items = some items
  | [], _ => rfl
  | item :: rest, plain => by
    rw [itemsArePlain, Bool.and_eq_true] at plain
    simp only [unwrapItems?, unwrap?_of_isPlain item plain.1, unwrapItems?_of_plain rest plain.2,
      Option.bind_eq_bind, Option.bind_some]

theorem unwrapMembers?_of_plain : ∀ members : List (String × Json), membersArePlain members →
    unwrapMembers? read? members = some members
  | [], _ => rfl
  | (name, value) :: rest, plain => by
    rw [membersArePlain, Bool.and_eq_true] at plain
    simp only [unwrapMembers?, unwrap?_of_isPlain value plain.1, unwrapMembers?_of_plain rest plain.2,
      Option.bind_eq_bind, Option.bind_some]

end

/-- Members come to what each of their values comes to. -/
theorem unwrapMembers?_eq_some_iff {members found : List (String × Json)} :
    unwrapMembers? read? members = some found ↔
      List.Forall₂ (fun left right => left.1 = right.1 ∧ unwrap? read? left.2 = some right.2) members found := by
  induction members generalizing found with
  | nil => rw [unwrapMembers?, List.forall₂_nil_left_iff, Option.some.injEq, eq_comm]
  | cons member rest ih =>
    obtain ⟨name, value⟩ := member
    simp only [unwrapMembers?, Option.bind_eq_bind, Option.bind_eq_some_iff, Option.some.injEq,
      List.forall₂_cons_left_iff, ih]
    constructor
    · rintro ⟨first, isFirst, later, areLater, rfl⟩
      exact ⟨(name, first), later, ⟨rfl, isFirst⟩, areLater, rfl⟩
    · rintro ⟨⟨_, first⟩, later, ⟨rfl, isFirst⟩, areLater, rfl⟩
      exact ⟨first, isFirst, later, areLater, rfl⟩

theorem exists_unwrapMembers? {members : List (String × Json)}
    (each : ∀ member ∈ members, ∃ value, unwrap? read? member.2 = some value) :
    ∃ found, unwrapMembers? read? members = some found := by
  induction members with
  | nil => exact ⟨[], rfl⟩
  | cons member rest ih =>
    rw [List.forall_mem_cons] at each
    obtain ⟨first, isFirst⟩ := each.1
    obtain ⟨later, areLater⟩ := ih each.2
    exact ⟨(member.1, first) :: later, by
      simp only [unwrapMembers?, isFirst, areLater, Option.bind_eq_bind, Option.bind_some]⟩

theorem keys_unwrapMembers? {members found : List (String × Json)}
    (unwrapped : unwrapMembers? read? members = some found) : Entries.keys found = Entries.keys members := by
  induction members generalizing found with
  | nil =>
    cases unwrapped
    rfl
  | cons member rest ih =>
    obtain ⟨value, _, unwrapped⟩ := Option.bind_eq_some_iff.mp unwrapped
    obtain ⟨later, areLater, unwrapped⟩ := Option.bind_eq_some_iff.mp unwrapped
    cases unwrapped
    exact congrArg (member.1 :: ·) (ih areLater)

end Unwrapping

end Json

end LtiPlatform
