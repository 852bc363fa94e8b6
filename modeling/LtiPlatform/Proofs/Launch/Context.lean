import LtiPlatform.Proofs.Launch.Merge
import LtiPlatform.Proofs.Launch.Placeholders

namespace LtiPlatform

namespace PlatformDatum

/-- The parameter that has the datum. -/
def parameter : PlatformDatum → String
  | courseId => "context_id"
  | courseTitle => "context_title"
  | courseLabel => "context_label"
  | courseTypes => "context_type"
  | linkId => "resource_link_id"
  | linkTitle => "resource_link_title"
  | linkDescription => "resource_link_description"
  | platformName => "tool_consumer_instance_name"

/-- Where the datum stands among the claims. -/
def place : PlatformDatum → Place
  | courseId => ⟨Rule.claimRoot "" ++ "context", some "id"⟩
  | courseTitle => ⟨Rule.claimRoot "" ++ "context", some "title"⟩
  | courseLabel => ⟨Rule.claimRoot "" ++ "context", some "label"⟩
  | courseTypes => ⟨Rule.claimRoot "" ++ "context", some "type"⟩
  | linkId => ⟨Rule.claimRoot "" ++ "resource_link", some "id"⟩
  | linkTitle => ⟨Rule.claimRoot "" ++ "resource_link", some "title"⟩
  | linkDescription => ⟨Rule.claimRoot "" ++ "resource_link", some "description"⟩
  | platformName => ⟨Rule.claimRoot "" ++ "tool_platform", some "name"⟩

theorem exists_slot (datum : PlatformDatum) :
    ∃ slot : Slot, slot.parameter = datum.parameter ∧ slot.place = datum.place := by
  have ruled : ∃ rule ∈ Rule.table, rule.parameter = datum.parameter ∧ rule.place = datum.place := by
    cases datum <;> decide
  obtain ⟨rule, member, same, placed⟩ := ruled
  exact ⟨.ruled rule member, same, placed⟩

end PlatformDatum

namespace LaunchContext

variable {claims : Claims}

/-- A course that is read back has its data from the members of the claim. -/
theorem course_ofClaims {course : Course} (known : (ofClaims claims).course = some course) :
    ∃ whole, claims.get? (Rule.claimRoot "" ++ "context") = some whole ∧
      whole.textMember? "id" = some course.id ∧ whole.textMember? "title" = course.title ∧
      whole.textMember? "label" = course.label ∧
      (course.types ≠ [] → (whole.member? "type").isSome) := by
  obtain ⟨whole, found, read⟩ := Option.bind_eq_some_iff.mp known
  obtain ⟨id, isId, rfl⟩ := Option.map_eq_some_iff.mp read
  refine ⟨whole, found, isId, rfl, rfl, fun typed => ?_⟩
  cases member : whole.member? "type" with
  | none => exact absurd (by rw [member]; rfl) typed
  | some types => rfl

theorem resourceLink_ofClaims {link : ResourceLink} (known : (ofClaims claims).resourceLink = some link) :
    ∃ whole, claims.get? (Rule.claimRoot "" ++ "resource_link") = some whole ∧
      whole.textMember? "id" = some link.id ∧ whole.textMember? "title" = link.title ∧
      whole.textMember? "description" = link.description := by
  obtain ⟨whole, found, read⟩ := Option.bind_eq_some_iff.mp known
  obtain ⟨id, isId, rfl⟩ := Option.map_eq_some_iff.mp read
  exact ⟨whole, found, isId, rfl, rfl⟩

end LaunchContext

namespace PlatformDatum

variable {claims : Claims} {value : String}

theorem isSome_at?_of_member? {claim member : String} {whole : Json} (found : claims.get? claim = some whole)
    (inside : (whole.member? member).isSome) : (claims.at? ⟨claim, some member⟩).isSome := by
  simp only [Claims.at?, found, Option.bind_some, inside]

theorem isSome_at?_of_textMember? {claim member : String} {whole : Json}
    (found : claims.get? claim = some whole) (text : whole.textMember? member = some value) :
    (claims.at? ⟨claim, some member⟩).isSome := by
  obtain ⟨held, inside, _⟩ := Option.bind_eq_some_iff.mp text
  exact isSome_at?_of_member? found (by rw [inside, Option.isSome_some])

/-- What is read back from the claims stands in them. -/
theorem isSome_at?_of_value? {datum : PlatformDatum}
    (known : datum.value? (LaunchContext.ofClaims claims) = some value) :
    (claims.at? datum.place).isSome := by
  cases datum with
  | courseId =>
    obtain ⟨course, isCourse, _⟩ := Option.map_eq_some_iff.mp known
    obtain ⟨whole, found, id, _⟩ := LaunchContext.course_ofClaims isCourse
    exact isSome_at?_of_textMember? found id
  | courseTitle =>
    obtain ⟨course, isCourse, isTitle⟩ := Option.bind_eq_some_iff.mp known
    obtain ⟨whole, found, _, title, _⟩ := LaunchContext.course_ofClaims isCourse
    exact isSome_at?_of_textMember? found (title.trans isTitle)
  | courseLabel =>
    obtain ⟨course, isCourse, isLabel⟩ := Option.bind_eq_some_iff.mp known
    obtain ⟨whole, found, _, _, label, _⟩ := LaunchContext.course_ofClaims isCourse
    exact isSome_at?_of_textMember? found (label.trans isLabel)
  | courseTypes =>
    obtain ⟨course, isCourse, _⟩ := Option.map_eq_some_iff.mp known
    obtain ⟨isCourse, typed⟩ := Option.filter_eq_some_iff.mp isCourse
    obtain ⟨whole, found, _, _, _, types⟩ := LaunchContext.course_ofClaims isCourse
    exact isSome_at?_of_member? found (types (by simpa using typed))
  | linkId =>
    obtain ⟨link, isLink, _⟩ := Option.map_eq_some_iff.mp known
    obtain ⟨whole, found, id, _⟩ := LaunchContext.resourceLink_ofClaims isLink
    exact isSome_at?_of_textMember? found id
  | linkTitle =>
    obtain ⟨link, isLink, isTitle⟩ := Option.bind_eq_some_iff.mp known
    obtain ⟨whole, found, _, title, _⟩ := LaunchContext.resourceLink_ofClaims isLink
    exact isSome_at?_of_textMember? found (title.trans isTitle)
  | linkDescription =>
    obtain ⟨link, isLink, isDescription⟩ := Option.bind_eq_some_iff.mp known
    obtain ⟨whole, found, _, _, description⟩ := LaunchContext.resourceLink_ofClaims isLink
    exact isSome_at?_of_textMember? found (description.trans isDescription)
  | platformName =>
    obtain ⟨whole, found, name⟩ := Option.bind_eq_some_iff.mp known
    exact isSome_at?_of_textMember? found name

/-- Of the parameters of a launch, these have the data of its context. -/
theorem get?_ownParameters (datum : PlatformDatum) (draft : LaunchDraft) (platform : Platform)
    (tool : ToolRegistration) :
    (Entries.get? (draft.ownParameters platform tool) datum.parameter).join =
      datum.value? (draft.context platform) := by
  cases datum with
  | courseTypes =>
    have types : draft.course.bind (fun course => listParameter course.types) =
        (draft.course.filter fun course => !course.types.isEmpty).map fun course =>
          Text.joinWith "," course.types := by
      cases draft.course with
      | none => rfl
      | some course =>
        cases typed : course.types with
        | nil => simp [listParameter, Option.filter, typed]
        | cons type rest => simp [listParameter, Option.filter, typed]
    exact types
  | _ => rfl

@[simp]
theorem value?_withUser (datum : PlatformDatum) (context : LaunchContext) (user : User) :
    datum.value? (context.withUser user) = datum.value? context := by
  cases datum <;> rfl

end PlatformDatum

namespace Substitution

variable {context before after : LaunchContext} {user : User}

/-- Replacing in two steps comes to the same as at once: what the first step leaves, the second cannot
replace by a datum of the platform either, and what the first step puts in is no placeholder. -/
theorem replace_replace (anonymous : context.user = none)
    (plain : ∀ datum value, PlatformDatum.value? context datum = some value → ¬ isPlaceholder value)
    (unknown : ∀ datum, PlatformDatum.value? context datum = none →
      PlatformDatum.value? after datum = none) (text : String) :
    replace (after.withUser user) (replace context text) = replace (context.withUser user) text := by
  cases meaning : Variable.ofText? text with
  | none =>
    have kept : ∀ other, replace other text = text := by
      intro other
      rw [replace_eq, meaning, Option.bind_none, Option.getD_none]
    rw [kept, kept, kept]
  | some meant =>
    cases meant with
    | person datum =>
      rw [replace_person_of_anonymous meaning anonymous, replace_person meaning, replace_person meaning]
    | platform datum =>
      rw [@replace_of_ofText? context _ _ meaning, @replace_of_ofText? (context.withUser user) _ _ meaning,
        Variable.value?, Variable.value?, PlatformDatum.value?_withUser]
      cases known : datum.value? context with
      | none =>
        rw [Option.getD_none, replace_of_ofText? meaning, Variable.value?, PlatformDatum.value?_withUser,
          unknown datum known, Option.getD_none]
      | some value => rw [Option.getD_some, replace_of_not_placeholder (plain datum value known)]

end Substitution

open Substitution

/-- A text with its placeholder replaced; any other value stays as it is. -/
def Json.replaced (context : LaunchContext) (value : Json) : Json :=
  ((value.string?.filter isPlaceholder).map fun text => .string (replace context text)).getD value

namespace Json

theorem replaced_string (context : LaunchContext) (text : String) :
    (string text).replaced context = .string (replace context text) := by
  by_cases placeholder : isPlaceholder text
  · rw [replaced, string?, Option.filter_some, if_pos placeholder, Option.map_some, Option.getD_some]
  · rw [replaced, string?, Option.filter_some, if_neg placeholder, Option.map_none, Option.getD_none,
      replace_of_not_placeholder placeholder]

end Json

namespace Claims

variable {claims others : Claims} {names : List String} {user : User} {name : String}

theorem get?_substituted_of_ne (substitutor : Substitutor) (user : User) (other : OpenGroup.custom.claim ≠ name) :
    (claims.substituted substitutor user).get? name = claims.get? name := by
  rw [substituted]
  split
  · rfl
  · exact OrderedMap.get?_insert_of_ne other

/-- The standard substitutor replaces every member of the custom claim for itself. -/
theorem get?_substituted_custom {members : OrderedMap Json}
    (custom : (claims.get? OpenGroup.custom.claim).bind Json.object? = some members) (user : User) :
    ∃ replaced : OrderedMap Json,
      (claims.substituted standard user).get? OpenGroup.custom.claim = some (.ofMap replaced) ∧
      ∀ name, replaced.get? name =
        (members.get? name).map (Json.replaced ((LaunchContext.ofClaims claims).withUser user)) := by
  have changed : (filled standard ((LaunchContext.ofClaims claims).withUser user)
        (customPlaceholders members)).map (fun entry => (entry.1, Json.string entry.2)) =
      Entries.changed (fun _ value => (value.string?.filter isPlaceholder).map fun text =>
        .string (replace ((LaunchContext.ofClaims claims).withUser user) text)) members.entries := by
    rw [filled_standard, customPlaceholders, Entries.changed, List.map_map, List.map_filterMap]
    refine congrFun (congrArg List.filterMap (funext fun entry => ?_)) _
    cases entry.2.string?.filter isPlaceholder <;> rfl
  refine ⟨_, ?_, fun _ => OrderedMap.get?_insertAll_changed members _⟩
  simp only [substituted, custom, changed, OrderedMap.get?_insert_self]

theorem at?_substituted_custom (claims : Claims) (user : User) (name : String) :
    (claims.substituted standard user).at? ⟨OpenGroup.custom.claim, some name⟩ =
      (claims.at? ⟨OpenGroup.custom.claim, some name⟩).map
        (Json.replaced ((LaunchContext.ofClaims claims).withUser user)) := by
  have split : ∀ all : Claims, all.at? ⟨OpenGroup.custom.claim, some name⟩ =
      ((all.get? OpenGroup.custom.claim).bind Json.object?).bind (OrderedMap.get? · name) := by
    intro all
    exact (Option.bind_assoc ..).symm
  cases custom : (claims.get? OpenGroup.custom.claim).bind Json.object? with
  | none =>
    have untouched : claims.substituted standard user = claims := by
      simp only [substituted, custom]
    rw [untouched, split, custom]
    rfl
  | some members =>
    obtain ⟨replaced, after, each⟩ := get?_substituted_custom custom user
    simp [split, custom, after, each]

theorem at?_substituted_of_ne (substitutor : Substitutor) (user : User) {place : Place}
    (other : OpenGroup.custom.claim ≠ place.claim) :
    (claims.substituted substitutor user).at? place = claims.at? place := by
  rw [at?_eq_bind, at?_eq_bind, get?_substituted_of_ne substitutor user other]

theorem Shaped.substituted (shaped : claims.Shaped) (user : User) :
    (claims.substituted standard user).Shaped := by
  intro name value found
  by_cases same : OpenGroup.custom.claim = name
  · subst same
    cases custom : (claims.get? OpenGroup.custom.claim).bind Json.object? with
    | none =>
      simp only [Claims.substituted, custom] at found
      exact shaped _ _ found
    | some members =>
      obtain ⟨replaced, after, each⟩ := get?_substituted_custom custom user
      obtain ⟨whole, held, isObject⟩ := Option.bind_eq_some_iff.mp custom
      cases after.symm.trans found
      rcases shaped _ whole held with direct | ⟨members', isMembers, ⟨member, present⟩, known⟩
      · exact .inl direct
      cases isObject.symm.trans isMembers
      refine .inr ⟨replaced, Json.object?_ofMap _, ⟨member, ?_⟩, fun other present' => known other ?_⟩
      · rw [each, Option.isSome_map]
        exact present
      · rw [each, Option.isSome_map] at present'
        exact present'
  · rw [get?_substituted_of_ne standard user same] at found
    exact shaped name value found

/-- The claims that the replacement of placeholders reads. -/
def contextNames : List String :=
  [OpenGroup.custom.claim, Rule.claimRoot "" ++ "context", Rule.claimRoot "" ++ "resource_link",
    Rule.claimRoot "" ++ "tool_platform"]

theorem AgreeOff.substituted (agree : claims.AgreeOff names others)
    (apart : ∀ name ∈ contextNames, name ∉ names) (substitutor : Substitutor) (user : User) :
    AgreeOff names (claims.substituted substitutor user) (others.substituted substitutor user) := by
  have custom := agree _ (apart OpenGroup.custom.claim (by simp [contextNames]))
  have context : LaunchContext.ofClaims claims = LaunchContext.ofClaims others := by
    simp only [LaunchContext.ofClaims, agree _ (apart (Rule.claimRoot "" ++ "context") (by simp [contextNames])),
      agree _ (apart (Rule.claimRoot "" ++ "resource_link") (by simp [contextNames])),
      agree _ (apart (Rule.claimRoot "" ++ "tool_platform") (by simp [contextNames]))]
  intro name other
  cases members : (others.get? OpenGroup.custom.claim).bind Json.object? with
  | none =>
    simp only [Claims.substituted, custom, members]
    exact agree name other
  | some members' =>
    simp only [Claims.substituted, custom, context, members]
    rw [OrderedMap.get?_insert, OrderedMap.get?_insert, agree name other]

end Claims

end LtiPlatform
