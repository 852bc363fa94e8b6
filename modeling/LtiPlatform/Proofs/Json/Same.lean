import Mathlib.Data.List.Forall2
import Mathlib.Data.Option.Basic
import Mathlib.Tactic.Common
import LtiPlatform.Json.Basic
import LtiPlatform.Proofs.OrderedMap

namespace LtiPlatform

namespace Json

theorem string?_eq_some_iff {value : Json} {text : String} :
    value.string? = some text ↔ value = .string text := by
  cases value <;> simp [string?]

@[simp]
theorem object?_ofMap (members : OrderedMap Json) : (ofMap members).object? = some members :=
  congrArg some OrderedMap.ofList_entries

@[simp]
theorem member?_ofMap (members : OrderedMap Json) (name : String) :
    (ofMap members).member? name = members.get? name := by
  simp [member?]

theorem mem_members_iff {value member : Json} {name : String} :
    (name, member) ∈ (value.object?.getD ∅).entries ↔ value.member? name = some member := by
  rw [OrderedMap.mem_entries_iff, member?]
  cases value.object? <;> rfl

/-- Members of an object are smaller than the object. -/
theorem sizeOf_member?_lt {members : List (String × Json)} {name : String} {value : Json}
    (found : (object members).member? name = some value) : sizeOf value < sizeOf (object members) := by
  have member : (name, value) ∈ members := by
    rw [member?, object?, Option.bind_some, OrderedMap.get?_ofList] at found
    exact List.mem_reverse.mp (Entries.mem_of_get? found)
  have bound := List.sizeOf_lt_of_mem member
  simp only [Prod.mk.sizeOf_spec, object.sizeOf_spec] at bound ⊢
  omega

/-- Equal up to the order of members. -/
inductive Same : Json → Json → Prop
  | null : Same .null .null
  | bool (value : Bool) : Same (.bool value) (.bool value)
  | number (value : JsonNumber) : Same (.number value) (.number value)
  | string (value : String) : Same (.string value) (.string value)
  | array {items others : List Json} (each : List.Forall₂ Same items others) :
    Same (.array items) (.array others)
  | object {members others : List (String × Json)}
    (each : ∀ name, Option.Rel Same ((Json.object members).member? name)
      ((Json.object others).member? name)) :
    Same (.object members) (.object others)

namespace Same

theorem refl : ∀ value, Same value value
  | .null => .null
  | .bool value => .bool value
  | .number value => .number value
  | .string value => .string value
  | .array items => by
    refine .array (List.forall₂_same.mpr fun item member => ?_)
    have bound := List.sizeOf_lt_of_mem member
    exact refl item
  | .object members => by
    refine .object fun name => ?_
    cases found : (Json.object members).member? name with
    | none => exact .none
    | some value =>
      have bound := sizeOf_member?_lt found
      exact .some (refl value)
termination_by value => sizeOf value
decreasing_by
  · simp only [array.sizeOf_spec]
    omega
  · exact bound

theorem rel_refl (value? : Option Json) : Option.Rel Same value? value? := by
  cases value? with
  | none => exact .none
  | some value => exact .some (refl value)

variable {value other : Json}

theorem string_iff {text : String} : Same (.string text) other ↔ other = .string text := by
  constructor
  · intro same
    cases same
    rfl
  · rintro rfl
    exact refl _

theorem bool_iff {truth : Bool} : Same (.bool truth) other ↔ other = .bool truth := by
  constructor
  · intro same
    cases same
    rfl
  · rintro rfl
    exact refl _

theorem strings_eq {texts : List String} {items : List Json}
    (each : List.Forall₂ Same (texts.map .string) items) : items = texts.map .string := by
  induction texts generalizing items with
  | nil =>
    cases each
    rfl
  | cons text rest ih =>
    cases each with
    | cons first later => rw [List.map_cons, string_iff.mp first, ih later]

theorem ofStrings_iff {texts : List String} :
    Same (.ofStrings texts) other ↔ other = .ofStrings texts := by
  constructor
  · intro same
    cases same with
    | array each => rw [ofStrings, strings_eq each]
  · rintro rfl
    exact refl _

theorem of_object? {members others : OrderedMap Json} (isObject : value.object? = some members)
    (isObject' : other.object? = some others)
    (each : ∀ name, Option.Rel Same (members.get? name) (others.get? name)) : Same value other := by
  have sameMembers : ∀ name, Option.Rel Same (value.member? name) (other.member? name) := by
    intro name
    rw [Json.member?, Json.member?, isObject, isObject']
    exact each name
  cases value with
  | object =>
    cases other with
    | object => exact .object sameMembers
    | _ => cases isObject'
  | _ => cases isObject

theorem object? (same : Same value other) {members : OrderedMap Json}
    (isObject : value.object? = some members) :
    ∃ others, other.object? = some others ∧
      ∀ name, Option.Rel Same (members.get? name) (others.get? name) := by
  cases same with
  | object each =>
    cases isObject
    exact ⟨_, rfl, each⟩
  | _ => cases isObject

end Same

end Json

end LtiPlatform
