import LtiPlatform.Proofs.Launch.Parameters

namespace LtiPlatform

theorem Variable.isPlaceholder_of_ofText? {text : String} {meant : Variable}
    (named : Variable.ofText? text = some meant) : Substitution.isPlaceholder text := by
  unfold Variable.ofText? at named
  split at named
  case h_17 => cases named
  all_goals decide

namespace Substitution

variable {substitutor : Substitutor} {context : LaunchContext} {pending : List (String × String)}
  {name value text : String}

theorem keys_filled (substitutor : Substitutor) (context : LaunchContext) (pending : List (String × String)) :
    (Entries.keys (filled substitutor context pending)).Sublist (Entries.keys pending) := by
  rw [filled]
  split
  · exact List.nil_sublist _
  · exact Entries.keys_zip _ _

/-- A name gets the answer at its own position. -/
theorem get?_filled (distinct : (Entries.keys pending).Nodup) {i : Nat} (here : pending[i]? = some (name, value)) :
    Entries.get? (filled substitutor context pending) name =
      (substitutor context (pending.map Prod.snd))[i]? := by
  have asked : pending.isEmpty = false := by
    rw [List.isEmpty_eq_false_iff]
    rintro rfl
    cases here
  have place : (pending.map Prod.fst)[i]? = some name := by
    rw [List.getElem?_map, here, Option.map_some]
  rw [filled, if_neg (by simp [asked])]
  exact Entries.get?_zip distinct place

theorem filled_standard (context : LaunchContext) (pending : List (String × String)) :
    filled standard context pending = pending.map fun entry => (entry.1, replace context entry.2) := by
  cases pending with
  | nil => rfl
  | cons entry rest =>
    rw [filled, if_neg (by simp), standard, List.map_map, List.zip_map']
    rfl

@[simp]
theorem replace_of_not_placeholder (plain : ¬ isPlaceholder value) : replace context value = value :=
  if_neg plain

/-- Only a text that names a variable is replaced. -/
theorem replace_eq (context : LaunchContext) (text : String) :
    replace context text = ((Variable.ofText? text).bind (Variable.value? context)).getD text := by
  by_cases placeholder : isPlaceholder text
  · exact if_pos placeholder
  · have unnamed : Variable.ofText? text = none := by
      rw [Option.eq_none_iff_forall_ne_some]
      exact fun meant named => placeholder (Variable.isPlaceholder_of_ofText? named)
    rw [replace_of_not_placeholder placeholder, unnamed, Option.bind_none, Option.getD_none]

theorem replace_of_ofText? {meant : Variable} (named : Variable.ofText? text = some meant) :
    replace context text = (meant.value? context).getD text := by
  rw [replace_eq, named, Option.bind_some]

theorem replace_person {datum : PersonDatum} (named : Variable.ofText? text = some (.person datum)) (user : User) :
    replace (context.withUser user) text = (datum.value? user).getD text :=
  replace_of_ofText? named

theorem replace_person_of_anonymous {datum : PersonDatum} (named : Variable.ofText? text = some (.person datum))
    (anonymous : context.user = none) : replace context text = text := by
  rw [replace_of_ofText? named, Variable.value?, anonymous, Option.bind_none, Option.getD_none]

end Substitution

namespace Parameters

open Substitution

variable {parameters : Parameters} {substitutor : Substitutor} {context : LaunchContext} {name : String}

theorem keys_customPlaceholders (member : name ∈ Entries.keys (customPlaceholders parameters)) :
    Text.isPrefix OpenGroup.custom.start name ∧ name ∈ parameters.keys := by
  obtain ⟨entry, here, rfl⟩ := List.mem_map.mp member
  obtain ⟨listed, pending⟩ := List.mem_filter.mp here
  rw [Bool.and_eq_true] at pending
  exact ⟨pending.1, List.mem_map_of_mem listed⟩

theorem get?_substituted_of_not_custom (noCustom : ¬ Text.isPrefix OpenGroup.custom.start name) :
    (parameters.substituted substitutor context).get? name = parameters.get? name := by
  have untouched : Entries.get?
      (filled substitutor context (customPlaceholders parameters)).reverse name = none := by
    rw [Entries.get?_eq_none_iff, Entries.keys, List.map_reverse, List.mem_reverse]
    exact fun member => noCustom (keys_customPlaceholders ((keys_filled _ _ _).subset member)).1
  rw [substituted, OrderedMap.get?_insertAll, untouched, Option.none_or]

/-- Parameters keep their names and their order. -/
@[simp]
theorem keys_substituted (parameters : Parameters) (substitutor : Substitutor) (context : LaunchContext) :
    (parameters.substituted substitutor context).keys = parameters.keys :=
  OrderedMap.keys_insertAll_of_subset fun _ member => (keys_customPlaceholders ((keys_filled _ _ _).subset member)).2

theorem get?_substituted_eq_none_iff :
    (parameters.substituted substitutor context).get? name = none ↔ parameters.get? name = none := by
  have known : ∀ map : Parameters, map.get? name = none ↔ name ∉ map.keys := fun _ => Entries.get?_eq_none_iff
  simp [known]

/-- The standard substitutor replaces every custom text for itself. -/
theorem get?_substituted_standard (parameters : Parameters) (context : LaunchContext) (name : String) :
    (parameters.substituted standard context).get? name =
      if Text.isPrefix OpenGroup.custom.start name then (parameters.get? name).map (replace context)
      else parameters.get? name := by
  have changed : filled standard context (customPlaceholders parameters) =
      Entries.changed (fun name text =>
        if Text.isPrefix OpenGroup.custom.start name && isPlaceholder text then some (replace context text)
        else none) parameters.entries := by
    rw [filled_standard, customPlaceholders, Entries.changed]
    induction parameters.entries with
    | nil => rfl
    | cons entry rest ih =>
      rw [List.filter_cons, List.filterMap_cons, ← ih]
      split <;> rfl
  split
  · next custom =>
    rw [substituted, changed, OrderedMap.get?_insertAll_changed]
    refine congrFun (congrArg Option.map (funext fun text => ?_)) _
    rw [custom, Bool.true_and]
    split
    · rfl
    · next plain => rw [replace_of_not_placeholder plain, Option.getD_none]
  · next noCustom => exact get?_substituted_of_not_custom noCustom

end Parameters

namespace LaunchDraft

open Substitution

variable (draft : LaunchDraft) (platform : Platform) (tool : ToolRegistration) (substitutor : Substitutor)
  (user : User) {name : String}

/-- A flat launch says of its user and of itself what the parameters for them say. -/
theorem get?_flatParameters (noCustom : ¬ Text.isPrefix OpenGroup.custom.start name) :
    (draft.flatParameters platform tool substitutor user).get? name =
      (Entries.get? (tool.userParameters user) name).join.or
        ((draft.extra.get? name).or (Entries.get? (draft.ownParameters platform tool) name).join) := by
  have distinct := tool.userParameters_nodup user
  rw [flatParameters, Parameters.get?_substituted_of_not_custom noCustom,
    OrderedMap.get?_insertAll_of_nodup (keys_presentParameters.nodup distinct),
    get?_presentParameters distinct, get?_commonParameters draft platform tool noCustom]

/-- A flat launch has the custom values with the data of its user in them. -/
theorem get?_flatParameters_custom (name : String) :
    (draft.flatParameters platform tool standard user).get? (OpenGroup.custom.parameter name) =
      ((draft.custom.get? name).or (draft.extra.get? (OpenGroup.custom.parameter name))).map
        (replace ((draft.context platform).withUser user)) := by
  have custom : Text.isPrefix OpenGroup.custom.start (OpenGroup.custom.parameter name) :=
    OpenGroup.isPrefix_start_iff.mpr ⟨name, rfl⟩
  have ofUser : Entries.get? (presentParameters (tool.userParameters user)).reverse
      (OpenGroup.custom.parameter name) = none := by
    rw [Entries.get?_eq_none_iff, Entries.keys, List.map_reverse, List.mem_reverse]
    intro known
    have named := (tool.keys_userParameters user).subset (keys_presentParameters.subset known)
    exact ToolRegistration.userNames_not_custom _ named custom
  rw [flatParameters, Parameters.get?_substituted_standard, if_pos custom, OrderedMap.get?_insertAll,
    ofUser, Option.none_or, get?_commonParameters_custom]

/-- The parameters that become the claims of a message hint. -/
def hintParameters : Parameters :=
  Parameters.substituted (((draft.commonParameters platform tool).insert
    "deployment_id" tool.deploymentId).insert "target_link_uri" (draft.target tool))
    substitutor (draft.context platform)

theorem hintClaims_eq (stamp : TokenStamp) :
    draft.hintClaims platform tool substitutor stamp =
      Claims.stamped ((Claims.ofParameters (draft.hintParameters platform tool substitutor)).insertAll
        [(Claims.registrationId, .string tool.id), ("iss", .string platform.issuer),
          ("aud", .string tool.clientId)]) stamp platform.hintLifetime := rfl

theorem get?_hintParameters (noCustom : ¬ Text.isPrefix OpenGroup.custom.start name)
    (general : name ∉ ["deployment_id", "target_link_uri"]) :
    (draft.hintParameters platform tool substitutor).get? name =
      (draft.extra.get? name).or (Entries.get? (draft.ownParameters platform tool) name).join := by
  have deployment : "deployment_id" ≠ name := by
    rintro rfl
    simp at general
  have target : "target_link_uri" ≠ name := by
    rintro rfl
    simp at general
  rw [hintParameters, Parameters.get?_substituted_of_not_custom noCustom,
    OrderedMap.get?_insert_of_ne target, OrderedMap.get?_insert_of_ne deployment,
    get?_commonParameters draft platform tool noCustom]

/-- A hint has no open parameter that was not set, whatever replaces the placeholders. -/
theorem get?_hintParameters_eq_none {group : OpenGroup} (custom : group = .custom → draft.custom.get? name = none)
    (extra : draft.extra.get? (group.parameter name) = none) :
    (draft.hintParameters platform tool substitutor).get? (group.parameter name) = none := by
  have open' : Text.isPrefix group.start (group.parameter name) := OpenGroup.isPrefix_start_iff.mpr ⟨name, rfl⟩
  have apart : ∀ other, ¬ Text.isPrefix group.start other → other ≠ group.parameter name := by
    rintro other noGroup rfl
    exact noGroup open'
  have general : ∀ group : OpenGroup, ¬ Text.isPrefix group.start "target_link_uri" ∧
      ¬ Text.isPrefix group.start "deployment_id" ∧ ∀ own ∈ ownNames, ¬ Text.isPrefix group.start own := by
    rintro (_ | _) <;> decide
  obtain ⟨target, deployment, own⟩ := general group
  rw [hintParameters, Parameters.get?_substituted_eq_none_iff, OrderedMap.get?_insert_of_ne (apart _ target),
    OrderedMap.get?_insert_of_ne (apart _ deployment)]
  cases group with
  | custom => rw [get?_commonParameters_custom, custom rfl, extra, Option.or_none]
  | ext =>
    have noCustom : ¬ Text.isPrefix OpenGroup.custom.start (OpenGroup.ext.parameter name) := by
      intro isCustom
      obtain ⟨other, same⟩ := OpenGroup.isPrefix_start_iff.mp isCustom
      cases (OpenGroup.parameter_injective same).1
    rw [get?_commonParameters draft platform tool noCustom, extra,
      get?_ownParameters_eq_none _ _ _ fun member => own _ member open']
    rfl

/-- A hint has the custom values with no data of a user in them. -/
theorem get?_hintParameters_custom (name : String) :
    (draft.hintParameters platform tool standard).get? (OpenGroup.custom.parameter name) =
      ((draft.custom.get? name).or (draft.extra.get? (OpenGroup.custom.parameter name))).map
        (replace (draft.context platform)) := by
  have custom : Text.isPrefix OpenGroup.custom.start (OpenGroup.custom.parameter name) :=
    OpenGroup.isPrefix_start_iff.mpr ⟨name, rfl⟩
  have apart : ∀ other, ¬ Text.isPrefix OpenGroup.custom.start other →
      other ≠ OpenGroup.custom.parameter name := by
    rintro other noCustom rfl
    exact noCustom custom
  rw [hintParameters, Parameters.get?_substituted_standard, if_pos custom,
    OrderedMap.get?_insert_of_ne (apart _ (by decide)), OrderedMap.get?_insert_of_ne (apart _ (by decide)),
    get?_commonParameters_custom]

end LaunchDraft

end LtiPlatform
