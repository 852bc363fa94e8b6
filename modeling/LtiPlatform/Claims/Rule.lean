namespace LtiPlatform

/-- A claim, or one member of a claim that is an object. -/
structure Place where
  claim : String
  member : Option String
deriving DecidableEq, Repr, Inhabited

/-- Where a rule's leaf stands: as a claim without namespace, as a claim of the namespace, or as a
member of a group claim of the namespace. -/
inductive Placement where
  | bare
  | claim
  | group (name : String)
deriving DecidableEq, Repr, Inhabited

/-- How the text of a parameter is typed as a claim. -/
inductive ValueKind where
  | text
  | flag
  | list
  | roles
  | contextTypes
  | messageType
  | contentItems
deriving DecidableEq, Repr, Inhabited

/-- Kinds whose claim is an array. -/
def ValueKind.isArray : ValueKind → Bool
  | list | roles | contextTypes | contentItems => true
  | text | flag | messageType => false

/-- A flat launch parameter and the place in the claims that it is tied to. -/
structure Rule where
  parameter : String
  /-- Distinguishes the namespaces of services; empty for the core. -/
  service : String
  placement : Placement
  leaf : String
  kind : ValueKind := .text
deriving DecidableEq, Repr, Inhabited

namespace Rule

def root : String := "https://purl.imsglobal.org/spec/lti"

def claimRoot (service : String) : String :=
  if service.isEmpty then root ++ "/claim/" else root ++ "-" ++ service ++ "/claim/"

def claimName (rule : Rule) : String :=
  match rule.placement with
  | .bare => rule.leaf
  | .claim => claimRoot rule.service ++ rule.leaf
  | .group name => claimRoot rule.service ++ name

def member? (rule : Rule) : Option String :=
  match rule.placement with
  | .group _ => some rule.leaf
  | _ => none

def place (rule : Rule) : Place := ⟨rule.claimName, rule.member?⟩

/-- A parameter whose member of a group claim has the name `leaf`. -/
def grouped (service group parameter leaf : String) (kind : ValueKind := .text) : Rule :=
  ⟨parameter, service, .group group, leaf, kind⟩

def bare (parameter leaf : String) : Rule := ⟨parameter, "", .bare, leaf, .text⟩

def core (name : String) (kind : ValueKind := .text) : Rule := ⟨name, "", .claim, name, kind⟩

def setting (parameter leaf : String) (kind : ValueKind := .text) : Rule :=
  grouped "dl" "deep_linking_settings" parameter leaf kind

def replyMessage (parameter leaf : String) : Rule := ⟨parameter, "dl", .claim, leaf, .text⟩

def deepLinkingRules : List Rule :=
  [setting "accept_copy_advice" "accept_copy_advice" .flag,
    setting "accept_media_types" "accept_media_types",
    setting "accept_multiple" "accept_multiple" .flag,
    setting "accept_presentation_document_targets" "accept_presentation_document_targets" .list,
    setting "accept_types" "accept_types" .list,
    setting "accept_unsigned" "accept_unsigned" .flag,
    setting "auto_create" "auto_create" .flag,
    setting "can_confirm" "can_confirm" .flag,
    setting "content_item_return_url" "deep_link_return_url",
    ⟨"content_items", "dl", .claim, "content_items", .contentItems⟩,
    setting "data" "data",
    setting "text" "text",
    setting "title" "title",
    replyMessage "lti_msg" "msg",
    replyMessage "lti_log" "log",
    replyMessage "lti_errormsg" "errormsg",
    replyMessage "lti_errorlog" "errorlog"]

def contextRules : List Rule :=
  [grouped "" "context" "context_id" "id",
    grouped "" "context" "context_label" "label",
    grouped "" "context" "context_title" "title",
    grouped "" "context" "context_type" "type" .contextTypes,
    grouped "" "lis" "lis_course_offering_sourcedid" "course_offering_sourcedid",
    grouped "" "lis" "lis_course_section_sourcedid" "course_section_sourcedid"]

def presentationRules : List Rule :=
  ["css_url", "document_target", "height", "locale", "return_url", "width"].map fun leaf =>
    grouped "" "launch_presentation" ("launch_presentation_" ++ leaf) leaf

def personRules : List Rule :=
  [bare "lis_person_contact_email_primary" "email",
    bare "lis_person_name_family" "family_name",
    bare "lis_person_name_full" "name",
    bare "lis_person_name_given" "given_name",
    grouped "" "lis" "lis_person_sourcedid" "person_sourcedid",
    bare "user_id" "sub",
    bare "user_image" "picture",
    core "roles" .roles,
    core "role_scope_mentor" .list]

def messageRules : List Rule :=
  [core "deployment_id",
    ⟨"lti_message_type", "", .claim, "message_type", .messageType⟩,
    ⟨"lti_version", "", .claim, "version", .text⟩,
    core "target_link_uri",
    grouped "" "resource_link" "resource_link_description" "description",
    grouped "" "resource_link" "resource_link_id" "id",
    grouped "" "resource_link" "resource_link_title" "title"]

def platform (parameter leaf : String) : Rule := grouped "" "tool_platform" parameter leaf

def platformRules : List Rule :=
  [platform "tool_consumer_info_product_family_code" "product_family_code",
    platform "tool_consumer_info_version" "version",
    platform "tool_consumer_instance_contact_email" "contact_email",
    platform "tool_consumer_instance_description" "description",
    platform "tool_consumer_instance_guid" "guid",
    platform "tool_consumer_instance_name" "name",
    platform "tool_consumer_instance_url" "url"]

def endpoint (parameter leaf : String) (kind : ValueKind := .text) : Rule :=
  grouped "ags" "endpoint" parameter leaf kind

def serviceRules : List Rule :=
  [grouped "nrps" "namesroleservice" "custom_context_memberships_v2_url" "context_memberships_url",
    grouped "nrps" "namesroleservice" "custom_context_memberships_versions" "service_versions" .list,
    endpoint "custom_gradebookservices_scope" "scope" .list,
    endpoint "custom_lineitems_url" "lineitems",
    endpoint "custom_lineitem_url" "lineitem",
    endpoint "custom_results_url" "results",
    endpoint "custom_result_url" "result",
    endpoint "custom_scores_url" "scores",
    endpoint "custom_score_url" "score",
    grouped "bo" "basicoutcome" "lis_outcome_service_url" "lis_outcome_service_url",
    grouped "bo" "basicoutcome" "lis_result_sourcedid" "lis_result_sourcedid"]

/-- The full table. -/
def table : List Rule :=
  deepLinkingRules ++ contextRules ++ presentationRules ++ personRules ++ messageRules ++
    platformRules ++ serviceRules

/-- The table with the place of each rule beside it. -/
def placedTable : List (Place × Rule) := table.map fun rule => (rule.place, rule)

def ofParameter? (parameter : String) : Option Rule :=
  table.find? (·.parameter == parameter)

def ofPlace? (place : Place) : Option Rule := (placedTable.find? (·.1 == place)).map Prod.snd

/-- The rules for the members of a group claim. -/
def membersOf (claim : String) : List Rule :=
  (placedTable.filter fun entry => entry.1.claim == claim && entry.1.member.isSome).map Prod.snd

end Rule

end LtiPlatform
