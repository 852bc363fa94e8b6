import LtiPlatform.Proofs.Json.Integers
import LtiPlatform.Proofs.Json.Plain
import LtiPlatform.Proofs.Json.Same

namespace LtiPlatform

namespace Json

/-- The value nests at most `depth` deep, its numbers are fit, and no object in it repeats a name. -/
structure Regular (fits : JsonNumber → Prop) (depth : Nat) (value : Json) : Prop where
  nested : value.levels ≤ depth
  fit : ∀ number ∈ value.numbers, fits number
  settled : settle value = value

/-- Nothing happens to the value when it is printed and read again, as long as no object in it is taken for
a text. -/
abbrev Portable : Nat → Json → Prop := Regular Reader.ReadsBack

theorem levels_le_of_mem {members : List (String × Json)} {name : String} {value : Json}
    (member : (name, value) ∈ members) : value.levels ≤ levelsOfMembers members := by
  induction members with
  | nil => cases member
  | cons first rest ih =>
    rw [levelsOfMembers]
    rcases List.mem_cons.mp member with rfl | later
    · exact Nat.le_max_left ..
    · exact Nat.le_trans (ih later) (Nat.le_max_right ..)

theorem levelsOfMembers_le {members : List (String × Json)} {depth : Nat}
    (each : ∀ member ∈ members, member.2.levels ≤ depth) : levelsOfMembers members ≤ depth := by
  induction members with
  | nil => exact Nat.zero_le _
  | cons first rest ih =>
    rw [levelsOfMembers]
    exact Nat.max_le.mpr ⟨each first (List.mem_cons_self ..),
      ih fun member later => each member (List.mem_cons_of_mem _ later)⟩

theorem mem_numbersOfItems {items : List Json} {number : JsonNumber} :
    number ∈ numbersOfItems items ↔ ∃ item ∈ items, number ∈ item.numbers := by
  induction items with
  | nil => simp [numbersOfItems]
  | cons first rest ih => simp [numbersOfItems, ih]

theorem mem_numbersOfMembers {members : List (String × Json)} {number : JsonNumber} :
    number ∈ numbersOfMembers members ↔ ∃ member ∈ members, number ∈ member.2.numbers := by
  induction members with
  | nil => simp [numbersOfMembers]
  | cons first rest ih => simp [numbersOfMembers, ih]

/-- The members of an object that is regular one level deeper. -/
def HoldsRegular (fits : JsonNumber → Prop) (depth : Nat) (members : OrderedMap Json) : Prop :=
  ∀ name value, members.get? name = some value → value.Regular fits depth

variable {fits : JsonNumber → Prop} {depth : Nat} {value : Json}

namespace Regular

theorem mono {more : Nat} (regular : value.Regular fits depth) (bound : depth ≤ more) :
    value.Regular fits more :=
  { regular with nested := Nat.le_trans regular.nested bound }

theorem null : Json.null.Regular fits depth :=
  ⟨Nat.zero_le _, List.forall_mem_nil _, rfl⟩

theorem string (text : String) : (Json.string text).Regular fits depth :=
  ⟨Nat.zero_le _, List.forall_mem_nil _, rfl⟩

theorem bool (truth : Bool) : (Json.bool truth).Regular fits depth :=
  ⟨Nat.zero_le _, List.forall_mem_nil _, rfl⟩

theorem ofInt {value : Int} (exact : JsonNumber.isExact value) : (Json.ofInt value).Portable depth := by
  refine ⟨Nat.zero_le _, fun number member => ?_, rfl⟩
  cases List.mem_singleton.mp member
  exact Reader.readsBack_integer exact

theorem number {number : JsonNumber} (fit : fits number) : (Json.number number).Regular fits depth :=
  ⟨Nat.zero_le _, fun _ member => List.mem_singleton.mp member ▸ fit, rfl⟩

theorem array {items : List Json} (each : ∀ item ∈ items, item.Regular fits depth) :
    (Json.array items).Regular fits (depth + 1) := by
  have parts : levelsOfItems items ≤ depth ∧ (∀ number ∈ numbersOfItems items, fits number) ∧
      settleItems items = items := by
    induction items with
    | nil => exact ⟨Nat.zero_le _, List.forall_mem_nil _, rfl⟩
    | cons item rest ih =>
      obtain ⟨nested, fit, settled⟩ := each item (List.mem_cons_self ..)
      obtain ⟨nested', fit', settled'⟩ := ih fun item member => each item (List.mem_cons_of_mem _ member)
      refine ⟨Nat.max_le.mpr ⟨nested, nested'⟩, fun number among => ?_, ?_⟩
      · exact (List.mem_append.mp among).elim (fit number) (fit' number)
      · rw [settleItems, settled, settled']
  exact ⟨Nat.succ_le_succ parts.1, parts.2.1, by rw [settle, parts.2.2]⟩

/-- The items of a regular array are regular. -/
theorem item {items : List Json} (regular : (Json.array items).Regular fits (depth + 1)) {item : Json}
    (member : item ∈ items) : item.Regular fits depth := by
  obtain ⟨nested, fit, settled⟩ := regular
  rw [levels] at nested
  rw [settle, Json.array.injEq] at settled
  rw [numbers] at fit
  induction items with
  | nil => cases member
  | cons first rest ih =>
    rw [levelsOfItems] at nested
    rw [settleItems, List.cons.injEq] at settled
    simp only [numbersOfItems, List.mem_append] at fit
    rcases List.mem_cons.mp member with rfl | later
    · exact ⟨by omega, fun number among => fit number (.inl among), settled.1⟩
    · exact ih later (by omega) (fun number among => fit number (.inr among)) settled.2

theorem ofStrings (texts : List String) : (Json.ofStrings texts).Regular fits (depth + 1) := by
  refine .array fun item member => ?_
  obtain ⟨text, _, rfl⟩ := List.mem_map.mp member
  exact .string text

theorem ofMap {members : OrderedMap Json}
    (each : ∀ name value, members.get? name = some value → value.Regular fits depth) :
    (Json.ofMap members).Regular fits (depth + 1) := by
  have every : ∀ member ∈ members.entries, member.2.Regular fits depth := fun member here =>
    each member.1 member.2 (OrderedMap.mem_entries_iff.mp here)
  have settled : settleMembers members.entries = members.entries := by
    rw [settleMembers_eq_map]
    refine (List.map_congr_left fun member here => ?_).trans (List.map_id _)
    rw [(every member here).settled, id]
  refine ⟨Nat.succ_le_succ (levelsOfMembers_le fun member here => (every member here).nested),
    fun number member => ?_, ?_⟩
  · obtain ⟨member, here, among⟩ := mem_numbersOfMembers.mp member
    exact (every member here).fit number among
  · simp [Json.ofMap, settle, settled]

/-- The members of a regular object are regular. -/
theorem member {members : OrderedMap Json} (regular : value.Regular fits (depth + 1))
    (isObject : value.object? = some members) {name : String} {held : Json}
    (found : members.get? name = some held) : held.Regular fits depth := by
  cases value with
  | object list =>
    cases isObject
    have settled := regular.settled
    rw [settle, Json.ofMap, Json.object.injEq] at settled
    have distinct : Entries.keys list |>.Nodup := by
      rw [← settled]
      exact (OrderedMap.ofList (settleMembers list)).distinct
    have sameKeys := keys_settleMembers list
    rw [OrderedMap.entries_ofList (by rw [sameKeys]; exact distinct), settleMembers_eq_map] at settled
    have here : (name, held) ∈ list := by
      have listed := OrderedMap.mem_entries_iff.mpr found
      rwa [OrderedMap.entries_ofList distinct] at listed
    refine ⟨?_, fun number among => ?_, ?_⟩
    · exact Nat.le_trans (levels_le_of_mem here) (Nat.le_of_succ_le_succ regular.nested)
    · exact regular.fit number (mem_numbersOfMembers.mpr ⟨_, here, among⟩)
    · have unchanged := (List.map_eq_map_iff (g := id)).mp (settled.trans (List.map_id _).symm)
      exact congrArg Prod.snd (unchanged (name, held) here)
  | _ => cases isObject

/-- An array has a level of its own. -/
theorem exists_of_array {items : List Json} (regular : (Json.array items).Regular fits depth) :
    ∃ inner, depth = inner + 1 ∧ ∀ item ∈ items, item.Regular fits inner := by
  cases depth with
  | zero =>
    have nested := regular.nested
    rw [levels] at nested
    cases nested
  | succ inner => exact ⟨inner, rfl, fun _ member => regular.item member⟩

/-- An object has a level of its own. -/
theorem exists_of_object? {members : OrderedMap Json} (regular : value.Regular fits depth)
    (isObject : value.object? = some members) : ∃ inner, depth = inner + 1 ∧ HoldsRegular fits inner members := by
  cases depth with
  | zero =>
    cases value with
    | object list =>
      have nested := regular.nested
      rw [levels] at nested
      cases nested
    | _ => cases isObject
  | succ inner => exact ⟨inner, rfl, fun _ _ found => regular.member isObject found⟩

/-- Only an object has members, and they nest less deep. -/
theorem exists_of_member? (regular : value.Regular fits depth) {name : String} {held : Json}
    (found : value.member? name = some held) : ∃ inner, depth = inner + 1 ∧ held.Regular fits inner := by
  obtain ⟨members, isObject, found⟩ := Option.bind_eq_some_iff.mp found
  obtain ⟨inner, rfl, holds⟩ := regular.exists_of_object? isObject
  exact ⟨inner, rfl, holds name held found⟩

theorem member? (regular : value.Regular fits depth) {name : String} {held : Json}
    (found : value.member? name = some held) : held.Regular fits depth := by
  obtain ⟨inner, rfl, inside⟩ := regular.exists_of_member? found
  exact inside.mono (Nat.le_succ inner)

theorem object {members : List (String × Json)} (distinct : (Entries.keys members).Nodup)
    (each : ∀ member ∈ members, member.2.Regular fits depth) : (Json.object members).Regular fits (depth + 1) := by
  rw [← OrderedMap.entries_ofList distinct]
  refine .ofMap fun name value found => ?_
  rw [← OrderedMap.mem_entries_iff, OrderedMap.entries_ofList distinct] at found
  exact each (name, value) found

end Regular

namespace HoldsRegular

variable {members : OrderedMap Json}

theorem empty : HoldsRegular fits depth ∅ := fun _ _ found => by cases found

theorem insert (holds : HoldsRegular fits depth members) (name : String) (regular : value.Regular fits depth) :
    HoldsRegular fits depth (members.insert name value) := by
  intro other found isFound
  rw [OrderedMap.get?_insert] at isFound
  split at isFound
  · cases isFound
    exact regular
  · exact holds other found isFound

theorem insertSome (holds : HoldsRegular fits depth members) (name : String) {value? : Option Json}
    (regular : ∀ value, value? = some value → value.Regular fits depth) :
    HoldsRegular fits depth (members.insertSome name value?) := by
  cases value? with
  | none => exact holds
  | some value => exact holds.insert name (regular value rfl)

theorem erase (holds : HoldsRegular fits depth members) (name : String) :
    HoldsRegular fits depth (members.erase name) := by
  intro other found isFound
  rw [OrderedMap.get?_erase, Option.ite_none_left_eq_some] at isFound
  exact holds other found isFound.2

theorem mono (holds : HoldsRegular fits depth members) {more : Nat} (bound : depth ≤ more) :
    HoldsRegular fits more members :=
  fun name value found => (holds name value found).mono bound

end HoldsRegular

end Json

end LtiPlatform
