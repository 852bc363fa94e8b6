import Mathlib.Data.List.Induction
import LtiPlatform.Launch.Draft
import LtiPlatform.Proofs.Claims.Table
import LtiPlatform.Proofs.OrderedMap

namespace LtiPlatform

namespace OpenGroup

variable {α : Type} {group : OpenGroup} {parameter : String}

theorem isPrefix_start_iff :
    Text.isPrefix group.start parameter ↔ ∃ name, group.parameter name = parameter := by
  rw [Text.isPrefix, List.isPrefixOf_iff_prefix]
  constructor
  · rintro ⟨rest, split⟩
    refine ⟨.ofList rest, String.toList_inj.mp ?_⟩
    rw [OpenGroup.parameter, String.toList_append, String.toList_ofList, split]
  · rintro ⟨name, rfl⟩
    rw [OpenGroup.parameter, String.toList_append]
    exact List.prefix_append ..

/-- The members of an open group as parameters. -/
def parameters (group : OpenGroup) (members : OrderedMap α) : Entries α :=
  members.entries.map fun member => (group.parameter member.1, member.2)

theorem parameters_nodup (members : OrderedMap α) : (group.parameters members).keys.Nodup := by
  have keys : (group.parameters members).keys = members.keys.map group.parameter := by
    simp [parameters, Entries.keys, OrderedMap.keys]
  rw [keys]
  exact members.distinct.map fun _ _ same => (parameter_injective same).2

theorem get?_parameters (members : OrderedMap α) (name : String) :
    (group.parameters members).get? (group.parameter name) = members.get? name := by
  refine Option.ext fun value => ?_
  rw [← OrderedMap.mem_entries_iff]
  constructor
  · intro found
    obtain ⟨member, here, same⟩ := List.mem_map.mp (Entries.mem_of_get? found)
    obtain ⟨sameParameter, rfl⟩ := Prod.mk.inj same
    rw [← (parameter_injective sameParameter).2]
    exact here
  · intro here
    exact Entries.get?_of_mem (parameters_nodup members) (List.mem_map.mpr ⟨_, here, rfl⟩)

theorem get?_parameters_eq_none (members : OrderedMap α)
    (other : ¬ Text.isPrefix group.start parameter) : (group.parameters members).get? parameter = none := by
  refine Entries.get?_eq_none_iff.mpr fun known => other ?_
  obtain ⟨entry, member, rfl⟩ := List.mem_map.mp known
  obtain ⟨held, _, rfl⟩ := List.mem_map.mp member
  exact isPrefix_start_iff.mpr ⟨_, rfl⟩

end OpenGroup

section PresentParameters

variable {parameters : List (String × Option String)} {name : String}

theorem presentParameters_eq_changed :
    presentParameters parameters = Entries.changed (fun _ value? => value?) parameters := rfl

theorem keys_presentParameters :
    (Entries.keys (presentParameters parameters)).Sublist (Entries.keys parameters) := by
  rw [presentParameters_eq_changed]
  exact Entries.keys_changed _ parameters

theorem get?_presentParameters (distinct : (Entries.keys parameters).Nodup) :
    Entries.get? (presentParameters parameters) name = (Entries.get? parameters name).join := by
  rw [presentParameters_eq_changed, Entries.get?_changed _ distinct]
  rfl

theorem mem_presentParameters_iff {value : String} :
    (name, value) ∈ presentParameters parameters ↔ (name, some value) ∈ parameters := by
  rw [presentParameters, List.mem_filterMap]
  constructor
  · rintro ⟨⟨first, value?⟩, member, same⟩
    obtain ⟨_, held, same⟩ := Option.map_eq_some_iff.mp same
    cases same
    exact held ▸ member
  · exact fun member => ⟨_, member, rfl⟩

theorem presentParameters_append (parameters later : List (String × Option String)) :
    presentParameters (parameters ++ later) = presentParameters parameters ++ presentParameters later :=
  List.filterMap_append

end PresentParameters

namespace LaunchDraft

section Own

variable (draft : LaunchDraft) (platform : Platform) (tool : ToolRegistration)

def instanceParameters (inst : PlatformInstance) : List (String × Option String) :=
  [("tool_consumer_instance_name", inst.name),
    ("tool_consumer_instance_guid", inst.guid),
    ("tool_consumer_info_product_family_code", inst.productFamilyCode),
    ("tool_consumer_info_version", inst.version),
    ("tool_consumer_instance_contact_email", inst.contactEmail),
    ("tool_consumer_instance_url", inst.url)]

def courseParameters (course? : Option Course) : List (String × Option String) :=
  [("context_id", course?.map Course.id),
    ("context_title", course?.bind Course.title),
    ("context_label", course?.bind Course.label),
    ("context_type", course?.bind fun course => listParameter course.types)]

def linkParameters (link? : Option ResourceLink) : List (String × Option String) :=
  [("resource_link_id", link?.map ResourceLink.id),
    ("resource_link_title", link?.bind ResourceLink.title),
    ("resource_link_description", link?.bind ResourceLink.description)]

def presentationParameters (presentation? : Option Presentation) : List (String × Option String) :=
  [("launch_presentation_document_target", presentation?.bind Presentation.documentTarget),
    ("launch_presentation_locale", presentation?.bind Presentation.locale),
    ("launch_presentation_return_url", presentation?.bind Presentation.returnUrl),
    ("launch_presentation_css_url", presentation?.bind Presentation.cssUrl),
    ("launch_presentation_width", presentation?.bind fun shown => shown.width.map toString),
    ("launch_presentation_height", presentation?.bind fun shown => shown.height.map toString)]

def deepLinkingParameters (settings? : Option DeepLinking) : List (String × Option String) :=
  [("content_item_return_url", settings?.map DeepLinking.returnUrl),
    ("accept_types", settings?.bind fun settings => listParameter settings.acceptTypes),
    ("accept_presentation_document_targets",
      settings?.bind fun settings => listParameter settings.documentTargets),
    ("accept_media_types", settings?.bind DeepLinking.mediaTypes),
    ("accept_multiple", settings?.map fun settings => flagText settings.acceptMultiple),
    ("auto_create", settings?.map fun settings => flagText settings.autoCreate),
    ("title", settings?.bind DeepLinking.title),
    ("text", settings?.bind DeepLinking.text),
    ("data", settings?.bind DeepLinking.data)]

/-- All parameters that a launch can have of its own, with the values that they have in this one. -/
def ownParameters : List (String × Option String) :=
  [("lti_message_type", some draft.message.legacyName), ("lti_version", some tool.version.label)] ++
    instanceParameters platform.inst ++ [("roles", listParameter draft.roles)] ++
    courseParameters draft.course ++ linkParameters draft.resourceLink ++
    presentationParameters draft.presentation ++ deepLinkingParameters draft.deepLinking

def ownNames : List String := Entries.keys (ownParameters {} default default)

@[simp]
theorem keys_ownParameters : Entries.keys (draft.ownParameters platform tool) = ownNames := rfl

theorem get?_ownParameters_eq_none {name : String} (other : name ∉ ownNames) :
    Entries.get? (draft.ownParameters platform tool) name = none :=
  Entries.get?_eq_none_iff.mpr other

theorem ownNames_nodup : ownNames.Nodup := by decide

theorem commonParameters_eq :
    draft.commonParameters platform tool =
      ((OrderedMap.ofList (presentParameters (draft.ownParameters platform tool))).extend
        draft.extra).insertAll (OpenGroup.custom.parameters draft.custom) := by
  have inst : presentParameters (instanceParameters platform.inst) = platform.inst.parameters := rfl
  have course : presentParameters (courseParameters draft.course) =
      presentParameters ((draft.course.map Course.parameters).getD []) := by
    cases draft.course <;> rfl
  have link : presentParameters (linkParameters draft.resourceLink) =
      presentParameters ((draft.resourceLink.map ResourceLink.parameters).getD []) := by
    cases draft.resourceLink <;> rfl
  have presentation : presentParameters (presentationParameters draft.presentation) =
      presentParameters ((draft.presentation.map Presentation.parameters).getD []) := by
    cases draft.presentation <;> rfl
  have deepLinking : presentParameters (deepLinkingParameters draft.deepLinking) =
      presentParameters ((draft.deepLinking.map DeepLinking.parameters).getD []) := by
    cases draft.deepLinking <;> rfl
  have own : presentParameters (draft.ownParameters platform tool) =
      [("lti_message_type", draft.message.legacyName), ("lti_version", tool.version.label)] ++
      platform.inst.parameters ++ presentParameters ([("roles", listParameter draft.roles)] ++
        (draft.course.map Course.parameters).getD [] ++
        (draft.resourceLink.map ResourceLink.parameters).getD [] ++
        (draft.presentation.map Presentation.parameters).getD [] ++
        (draft.deepLinking.map DeepLinking.parameters).getD []) := by
    simp only [ownParameters, presentParameters_append, inst, course, link, presentation, deepLinking,
      List.append_assoc]
    rfl
  rw [own, OrderedMap.extend, OrderedMap.ofList, ← OrderedMap.insertAll_append,
    ← OrderedMap.insertAll_append, ← List.append_assoc]
  rfl

/-- What a launch says in a parameter of its own, if nothing was set under that name. -/
theorem get?_commonParameters {name : String} (noCustom : ¬ Text.isPrefix OpenGroup.custom.start name) :
    (draft.commonParameters platform tool).get? name =
      (draft.extra.get? name).or (Entries.get? (draft.ownParameters platform tool) name).join := by
  have distinct : (Entries.keys (draft.ownParameters platform tool)).Nodup := by
    rw [keys_ownParameters]
    exact ownNames_nodup
  rw [commonParameters_eq, OrderedMap.get?_insertAll_of_nodup (OpenGroup.parameters_nodup _),
    OpenGroup.get?_parameters_eq_none _ noCustom, Option.none_or, OrderedMap.get?_extend,
    OrderedMap.get?_ofList_of_nodup (keys_presentParameters.nodup distinct), get?_presentParameters distinct]

theorem ownNames_not_custom : ∀ name ∈ ownNames, ¬ Text.isPrefix OpenGroup.custom.start name := by
  decide

/-- What a launch says in a custom parameter. -/
theorem get?_commonParameters_custom (name : String) :
    (draft.commonParameters platform tool).get? (OpenGroup.custom.parameter name) =
      (draft.custom.get? name).or (draft.extra.get? (OpenGroup.custom.parameter name)) := by
  have custom : Text.isPrefix OpenGroup.custom.start (OpenGroup.custom.parameter name) :=
    OpenGroup.isPrefix_start_iff.mpr ⟨name, rfl⟩
  have notOwn : (OrderedMap.ofList (presentParameters (draft.ownParameters platform tool))).get?
      (OpenGroup.custom.parameter name) = none := by
    rw [OrderedMap.get?_ofList, Entries.get?_eq_none_iff, Entries.keys, List.map_reverse, List.mem_reverse]
    intro known
    have owned := keys_presentParameters.subset known
    rw [keys_ownParameters] at owned
    exact ownNames_not_custom _ owned custom
  rw [commonParameters_eq, OrderedMap.get?_insertAll_of_nodup (OpenGroup.parameters_nodup _),
    OpenGroup.get?_parameters, OrderedMap.get?_extend, notOwn, Option.or_none]

end Own

section Settings

variable {settings : List LaunchSetting} {name : String}

/-- What holds of the empty draft and is kept by each setting holds of every draft. -/
@[elab_as_elim]
theorem ofSettings_induction {motive : LaunchDraft → Prop} (start : motive {})
    (step : ∀ draft, ∀ setting ∈ settings, motive draft → motive (draft.set setting)) :
    motive (ofSettings settings) := by
  induction settings using List.reverseRecOn with
  | nil => exact start
  | append_singleton before last ih =>
    have earlier := ih fun draft setting member => step draft setting (List.mem_append_left _ member)
    rw [ofSettings, List.foldl_append, List.foldl_cons, List.foldl_nil]
    exact step _ last (by simp) earlier

/-- Extra parameters are those that were set by name. -/
theorem extra_get?_eq_none (unset : ∀ value, .parameter name value ∉ settings) :
    (ofSettings settings).extra.get? name = none := by
  refine ofSettings_induction rfl fun draft setting member earlier => ?_
  cases setting with
  | parameter other value =>
    have different : other ≠ name := by
      rintro rfl
      exact unset value member
    rw [set, OrderedMap.get?_insert_of_ne different, earlier]
  | _ => exact earlier

theorem custom_get?_eq_none (unset : ∀ value, .custom name value ∉ settings) :
    (ofSettings settings).custom.get? name = none := by
  refine ofSettings_induction rfl fun draft setting member earlier => ?_
  cases setting with
  | custom other value =>
    have different : other ≠ name := by
      rintro rfl
      exact unset value member
    rw [set, OrderedMap.get?_insert_of_ne different, earlier]
  | _ => exact earlier

end Settings

end LaunchDraft

namespace ToolRegistration

variable (tool : ToolRegistration) (user : User) {name : String}

/-- The names of the parameters that a tool may be shown. -/
def disclosedNames : List String :=
  ["lis_person_name_given", "lis_person_name_family", "lis_person_name_full", "ext_user_username"] ++
    ["lis_person_contact_email_primary"]

/-- The names of the parameters that a flat launch can have for its user. -/
def userNames : List String := ["user_id", "user_image", "lis_person_sourcedid"] ++ disclosedNames

/-- The parameters that become the claims for a user. -/
def identityParameters : List (String × Option String) :=
  ("user_id", some user.id) :: tool.disclosedParameters user

theorem userNames_nodup : userNames.Nodup := by decide

theorem userNames_not_custom : ∀ name ∈ userNames, ¬ Text.isPrefix OpenGroup.custom.start name := by
  decide

theorem userNames_not_own : ∀ name ∈ userNames, name ∉ LaunchDraft.ownNames := by decide

theorem keys_disclosedParameters :
    (Entries.keys (tool.disclosedParameters user)).Sublist disclosedNames := by
  rw [disclosedParameters, Entries.keys, List.map_append]
  refine List.Sublist.append ?_ ?_
  · split
    · exact .refl _
    · exact List.nil_sublist _
  · split
    · exact .refl _
    · exact List.nil_sublist _

theorem keys_userParameters : (Entries.keys (tool.userParameters user)).Sublist userNames :=
  (tool.keys_disclosedParameters user).append_left ["user_id", "user_image", "lis_person_sourcedid"]

theorem keys_identityParameters :
    (Entries.keys (tool.identityParameters user)).Sublist ("user_id" :: disclosedNames) :=
  (tool.keys_disclosedParameters user).cons_cons "user_id"

theorem userParameters_nodup : (Entries.keys (tool.userParameters user)).Nodup :=
  (tool.keys_userParameters user).nodup userNames_nodup

theorem identityParameters_nodup : (Entries.keys (tool.identityParameters user)).Nodup :=
  (tool.keys_identityParameters user).nodup (by decide)

/-- What a tool with claims is told of the user, a flat launch says as well. -/
theorem get?_userParameters (shared : name ∉ ["user_image", "lis_person_sourcedid"]) :
    Entries.get? (tool.userParameters user) name = Entries.get? (tool.identityParameters user) name := by
  have image : "user_image" ≠ name := by
    rintro rfl
    simp at shared
  have sourcedId : "lis_person_sourcedid" ≠ name := by
    rintro rfl
    simp at shared
  simp only [userParameters, identityParameters, List.cons_append, List.nil_append, Entries.get?_cons,
    if_neg image, if_neg sourcedId]

theorem get?_userParameters_eq_none (other : name ∉ userNames) :
    Entries.get? (tool.userParameters user) name = none :=
  Entries.get?_eq_none_iff.mpr fun known => other ((tool.keys_userParameters user).subset known)

theorem get?_userParameters_custom (name : String) :
    Entries.get? (tool.userParameters user) (OpenGroup.custom.parameter name) = none := by
  refine tool.get?_userParameters_eq_none user fun known => ?_
  exact userNames_not_custom _ known (OpenGroup.isPrefix_start_iff.mpr ⟨name, rfl⟩)

end ToolRegistration

end LtiPlatform
