import LtiPlatform.Settings.Platform
import LtiPlatform.Proofs.Settings.VariableText

namespace LtiPlatform

/-- The settings of a platform instance, each of them a text. -/
inductive InstanceSetting where
  | name
  | guid
  | productFamilyCode
  | version
  | contactEmail
  | url
deriving DecidableEq, Repr

/-- The settings that are texts. -/
inductive TextSetting where
  | issuer
  | keyId
  | privateKeyPath
  | inst (setting : InstanceSetting)
deriving DecidableEq, Repr

namespace InstanceSetting

/-- Its name in a file. -/
def key : InstanceSetting → String
  | name => "name"
  | guid => "guid"
  | productFamilyCode => "product_family_code"
  | version => "version"
  | contactEmail => "contact_email"
  | url => "url"

def get (inst : PlatformInstance) : InstanceSetting → Option String
  | name => inst.name
  | guid => inst.guid
  | productFamilyCode => inst.productFamilyCode
  | version => inst.version
  | contactEmail => inst.contactEmail
  | url => inst.url

def put (text : String) (inst : PlatformInstance) : InstanceSetting → PlatformInstance
  | name => { inst with name := some text }
  | guid => { inst with guid := some text }
  | productFamilyCode => { inst with productFamilyCode := some text }
  | version => { inst with version := some text }
  | contactEmail => { inst with contactEmail := some text }
  | url => { inst with url := some text }

theorem key_injective {setting other : InstanceSetting} (same : setting.key = other.key) : setting = other := by
  revert same
  cases setting <;> cases other <;> simp [key]

theorem get_put (text : String) (inst : PlatformInstance) (setting other : InstanceSetting) :
    other.get (setting.put text inst) = if other = setting then some text else other.get inst := by
  cases setting <;> cases other <;> rfl

end InstanceSetting

namespace TextSetting

/-- The names that lead to it in a file. -/
def names : TextSetting → List String
  | issuer => ["issuer"]
  | keyId => ["key_id"]
  | privateKeyPath => ["private_key_path"]
  | inst setting => ["instance", setting.key]

def put (text : String) (settings : PlatformSettings) : TextSetting → PlatformSettings
  | issuer => { settings with issuer := text }
  | keyId => { settings with keyId := text }
  | privateKeyPath => { settings with privateKeyPath := text }
  | inst setting => { settings with inst := setting.put text settings.inst }

/-- The settings that are left where this one is set. An instance that is given as a list is gone. -/
def remaining (listed : Bool) (settings : PlatformSettings) : TextSetting → PlatformSettings
  | inst _ => if listed then { settings with inst := {} } else settings
  | _ => settings

/-- The variable that sets it, under the name that variables begin with by default. -/
def variableName (setting : TextSetting) : String :=
  Text.joinWith Setting.separator
    (PlatformSettings.variableStart :: setting.names.map fun name => .ofList (name.toList.map Char.toUpper))

theorem variableSteps?_variableName (setting : TextSetting) :
    Setting.variableSteps? PlatformSettings.variableStart setting.variableName =
      some (setting.names.map .member) := by
  cases setting with
  | issuer | keyId | privateKeyPath => decide +kernel
  | inst setting => cases setting <;> decide +kernel

end TextSetting

namespace Setting

variable {setting : Setting} {value : Setting} {name : String}

def isList : Setting → Bool
  | list _ => true
  | _ => false

theorem get?_of_found (present : value ≠ absent) (isFound : setting.found name = value) :
    setting.members.get? name = some value := by
  rw [found] at isFound
  cases held : setting.members.get? name with
  | none =>
    rw [held] at isFound
    exact absurd isFound.symm present
  | some other =>
    rw [held] at isFound
    rw [← isFound, Option.getD_some]

theorem IsSimple.ne_absent (simple : value.IsSimple) : value ≠ absent := by
  rintro rfl
  cases simple

theorem asText?_of_isSimple (simple : value.IsSimple) : ∃ shown, value.asText? = some shown := by
  cases value with
  | switch _ | integer _ | decimal _ | text _ => exact ⟨_, rfl⟩
  | absent | list _ | table _ => cases simple

theorem asOptionalText?_of_asText? {shown : String} (shows : value.asText? = some shown) :
    value.asOptionalText? = some (some shown) := by
  rw [asOptionalText?, shows, Option.map_some]
  rintro rfl
  cases shows

end Setting

namespace PlatformInstance

variable {inst : PlatformInstance} {members others : Entries Setting}

/-- The instance that the members describe: each setting is the text under its name, if there is one. -/
def IsOf (inst : PlatformInstance) (members : Entries Setting) : Prop :=
  ∀ setting : InstanceSetting,
    Setting.withDefault? members setting.key none Setting.asOptionalText? = some (setting.get inst)

theorem ofSetting?_eq_some_iff {setting : Setting} :
    ofSetting? setting = some inst ↔
      ∃ members, setting.asRecord? settingNames = some members ∧ inst.IsOf members := by
  simp only [ofSetting?, Option.bind_eq_bind, Option.bind_eq_some_iff, Option.some.injEq]
  constructor
  · rintro ⟨members, isRecord, name, isName, guid, isGuid, code, isCode, version, isVersion, email, isEmail, url,
      isUrl, rfl⟩
    refine ⟨members, isRecord, fun setting => ?_⟩
    cases setting <;> assumption
  · rintro ⟨members, isRecord, isOf⟩
    exact ⟨members, isRecord, _, isOf .name, _, isOf .guid, _, isOf .productFamilyCode, _, isOf .version, _,
      isOf .contactEmail, _, isOf .url, rfl⟩

/-- One member with a text in it, and the others as before. -/
theorem IsOf.put (isOf : inst.IsOf members) {setting : InstanceSetting} {value : Setting} {shown : String}
    (held : others.get? setting.key = some value) (shows : value.asText? = some shown)
    (elsewhere : ∀ name, name ≠ setting.key → others.get? name = members.get? name) :
    (setting.put shown inst).IsOf others := by
  intro other
  rw [InstanceSetting.get_put, Setting.withDefault?]
  by_cases same : other = setting
  · rw [if_pos same, same, held]
    exact Setting.asOptionalText?_of_asText? shows
  · rw [if_neg same, elsewhere other.key fun key => same (InstanceSetting.key_injective key)]
    exact isOf other

theorem isOf_nil : ({} : PlatformInstance).IsOf [] := by
  intro setting
  cases setting <;> rfl

end PlatformInstance

namespace PlatformSettings

open Setting (required? withDefault?)

variable {settings : PlatformSettings} {members others : Entries Setting}

/-- The settings that the members describe, each by the member of its name. -/
structure IsOf (settings : PlatformSettings) (members : Entries Setting) : Prop where
  issuer : required? members "issuer" Setting.asText? = some settings.issuer
  keyId : required? members "key_id" Setting.asText? = some settings.keyId
  privateKeyPath : required? members "private_key_path" Setting.asText? = some settings.privateKeyPath
  keyKind : withDefault? members "key_algorithm" .rs256 (fun setting => setting.asName?.bind KeyKind.ofName?) =
    some settings.keyKind
  hintLifetime : withDefault? members "hint_lifetime_secs" 600 Setting.asNatural? = some settings.hintLifetime
  idTokenLifetime : withDefault? members "id_token_lifetime_secs" 60 Setting.asNatural? =
    some settings.idTokenLifetime
  leeway : withDefault? members "leeway_secs" 60 Setting.asNatural? = some settings.leeway
  inst : withDefault? members "instance" {} PlatformInstance.ofSetting? = some settings.inst
  logging : withDefault? members "logging" {} LoggingSettings.ofSetting? = some settings.logging

theorem ofMembers?_eq_some_iff : ofMembers? members = some settings ↔ settings.IsOf members := by
  simp only [ofMembers?, Option.bind_eq_bind, Option.bind_eq_some_iff, Option.some.injEq]
  constructor
  · rintro ⟨_, issuer, _, keyId, _, path, _, kind, _, hint, _, token, _, leeway, _, inst, _, logging, rfl⟩
    exact ⟨issuer, keyId, path, kind, hint, token, leeway, inst, logging⟩
  · rintro ⟨issuer, keyId, path, kind, hint, token, leeway, inst, logging⟩
    exact ⟨_, issuer, _, keyId, _, path, _, kind, _, hint, _, token, _, leeway, _, inst, _, logging, rfl⟩

/-- The members of the instance are those of a table, where it is not a list. -/
theorem IsOf.inst_members {below : Setting} (isOf : settings.IsOf below.members) :
    (if (below.found "instance").isList then ({} : PlatformInstance) else settings.inst).IsOf
      (below.found "instance").members := by
  have described := isOf.inst
  rw [withDefault?] at described
  rw [Setting.found]
  split at described
  · next absent =>
    rw [absent, ← Option.some.inj described]
    exact PlatformInstance.isOf_nil
  · next setting held =>
    rw [held]
    obtain ⟨members, isRecord, isOf⟩ := PlatformInstance.ofSetting?_eq_some_iff.mp described
    cases setting with
    | table inner =>
      cases isRecord
      exact isOf
    | list items => exact PlatformInstance.isOf_nil
    | absent | switch | integer | decimal | text => cases isRecord

/-- Settings with one of the texts over them are read with that text, and all else as before. -/
theorem IsOf.put {below above value : Setting} {setting : TextSetting} {shown : String}
    (isOf : settings.IsOf below.members) (simple : value.IsSimple) (shows : value.asText? = some shown)
    (covers : Setting.HasOver value setting.names below above) :
    (setting.put shown (setting.remaining (below.found "instance").isList settings)).IsOf above.members := by
  have described := isOf.inst_members
  obtain ⟨issuer, keyId, path, kind, hint, token, leeway, inst, logging⟩ := isOf
  cases setting with
  | issuer | keyId | privateKeyPath =>
    obtain ⟨_, elsewhere, here⟩ := covers
    have held := Setting.get?_of_found simple.ne_absent here
    constructor
    all_goals simp (disch := decide) only [required?, withDefault?, held, elsewhere]
    all_goals assumption
  | inst setting =>
    obtain ⟨_, elsewhere, ⟨inner, isTable⟩, within, here⟩ := covers
    have held := Setting.get?_of_found simple.ne_absent here
    have stands : above.members.get? "instance" = some (.table inner) :=
      Setting.get?_of_found (by simp) isTable
    have remaining : (TextSetting.inst setting).remaining (below.found "instance").isList settings =
        { settings with
          inst := if (below.found "instance").isList then {} else settings.inst } := by
      rw [TextSetting.remaining]
      split <;> rfl
    rw [remaining]
    have written := described.put held shows within
    constructor
    case inst =>
      rw [withDefault?, stands]
      exact PlatformInstance.ofSetting?_eq_some_iff.mpr ⟨inner, rfl, by rw [isTable] at written; exact written⟩
    all_goals simp (disch := decide) only [required?, withDefault?, elsewhere]
    all_goals assumption

section Load

variable {surroundings : Surroundings Id} {start path : String}

theorem load_eq_ok_iff :
    (load surroundings start path).run = .ok settings ↔ (surroundings.isThere path).run = true ∧
      ∃ format text, SettingsFormat.ofPath? path = some format ∧ (surroundings.readFile path).run = .ok text ∧
        ofText? format text start surroundings.environment = some settings := by
  constructor
  · intro loads
    rw [load, Id.run_bind] at loads
    split at loads
    · cases loads
    · next isThere =>
      refine ⟨by simpa using isThere, ?_⟩
      split at loads
      · cases loads
      · next format isFormat =>
        rw [Id.run_bind] at loads
        split at loads
        · cases loads
        · next text isText =>
          refine ⟨format, text, isFormat, isText, ?_⟩
          split at loads
          · cases loads
          · next found => rw [found, ← Except.ok.inj loads]
  · rintro ⟨isThere, format, text, isFormat, isText, reads⟩
    rw [load, Id.run_bind, isThere, if_neg (by decide), isFormat]
    simp only [Id.run_bind, isText, reads]
    rfl

/-- Whether the settings of the instance are given as a list, in the order of their names. -/
def listsInstance (surroundings : Surroundings Id) (start path : String) : Bool :=
  match SettingsFormat.ofPath? path, (surroundings.readFile path).run with
  | some format, .ok text =>
    match format.parse? text with
    | some file => (Setting.table (Setting.layered file start surroundings.environment)).found "instance" |>.isList
    | none => false
  | _, _ => false

/-- Where a variable sets a text and no variable behind it sets that text again, the setting is the printed form
of what the text of the variable stands for. It is the text of the variable iff that is printed for something.
All other settings are what they would be without the variable, but for an instance that was a list. -/
theorem load_with_variable {before after : Environment} {name text : String} {setting : TextSetting}
    (environment : surroundings.environment = before ++ after)
    (loads : (load surroundings start path).run = .ok settings)
    (sets : Setting.variableSteps? start name = some (setting.names.map .member))
    (last : ∀ entry ∈ after, ∀ steps, Setting.variableSteps? start entry.1 = some steps →
      Setting.LeavesWay setting.names steps) :
    ∃ shown, (Setting.ofText text).asText? = some shown ∧ (shown = text ↔ Setting.IsPrinted text) ∧
      (load { surroundings with environment := before ++ (name, text) :: after } start path).run =
        .ok (setting.put shown (setting.remaining (listsInstance surroundings start path) settings)) := by
  obtain ⟨isThere, format, fileText, isFormat, isText, reads⟩ := load_eq_ok_iff.mp loads
  obtain ⟨file, isFile, members⟩ := Option.bind_eq_some_iff.mp reads
  have simple := Setting.isSimple_ofText text
  obtain ⟨shown, shows⟩ := Setting.asText?_of_isSimple simple
  have listed : listsInstance surroundings start path =
      ((Setting.layer (Setting.ofEnvironment start (before ++ after))
        (Setting.layer file (.table []))).found "instance").isList := by
    simp only [listsInstance, isFormat, isText, isFile, environment]
    rfl
  refine ⟨shown, shows, ?_, ?_⟩
  · rw [← Setting.asText?_ofText_eq_iff, shows, Option.some.injEq]
  · rw [environment] at members
    have put := (ofMembers?_eq_some_iff.mp members).put simple shows
      (Setting.hasOver_layered sets simple last (Setting.layer file (.table [])))
    refine load_eq_ok_iff.mpr ⟨isThere, format, fileText, isFormat, isText, ?_⟩
    rw [ofText?, isFile, Option.bind_some, listed]
    exact ofMembers?_eq_some_iff.mpr put

end Load

/-- Surroundings of one file. -/
def oneFile (name text : String) (environment : Environment) : Surroundings Id where
  isThere path := pure (path == name)
  readFile path := pure (if path = name then .ok text else .error .missing)
  readInput := pure (.ok "")
  stamp := pure ⟨0, ""⟩
  environment := environment

def plainText : String :=
  "\x7b\"issuer\":\"https://lms.example\",\"key_id\":\"k1\",\"private_key_path\":\"key.pem\"\x7d"

def plainSettings : PlatformSettings where
  issuer := "https://lms.example"
  keyId := "k1"
  privateKeyPath := "key.pem"

theorem issuer_by_variable :
    let leeway := ("LTI_LAUNCH__LEEWAY_SECS", "5")
    let issuer := ("LTI_LAUNCH__ISSUER", "https://override.example")
    (load (oneFile "platform.json" plainText [leeway]) variableStart "platform.json").run =
        .ok { plainSettings with leeway := 5 } ∧
      (load (oneFile "platform.json" plainText [issuer, leeway]) variableStart "platform.json").run =
        .ok { plainSettings with issuer := "https://override.example", leeway := 5 } := by
  intro leeway issuer
  have loads : (load (oneFile "platform.json" plainText [leeway]) variableStart "platform.json").run =
      .ok { plainSettings with leeway := 5 } := by decide +kernel
  have elsewhere : ∀ entry ∈ [leeway], ∀ steps, Setting.variableSteps? variableStart entry.1 = some steps →
      Setting.LeavesWay TextSetting.issuer.names steps := by
    intro entry member steps sets
    cases List.mem_singleton.mp member
    cases (show Setting.variableSteps? variableStart leeway.1 = some [.member "leeway_secs"] by
      decide +kernel).symm.trans sets
    exact .inl (by decide)
  have isIssuer : TextSetting.issuer.variableName = issuer.1 := by decide +kernel
  have sets := TextSetting.issuer.variableSteps?_variableName
  rw [isIssuer] at sets
  obtain ⟨shown, shows, _, overridden⟩ := load_with_variable (List.nil_append _).symm loads sets elsewhere
  cases (show (Setting.ofText issuer.2).asText? = some issuer.2 by decide +kernel).symm.trans shows
  exact ⟨loads, overridden⟩

/-- The guid of an instance that is given as a list is lost where its name is set. -/
example : ((load (oneFile "platform.json"
      ("\x7b\"issuer\":\"i\",\"key_id\":\"k\",\"private_key_path\":\"p\",\"instance\":[\"Campus\",\"g\"]\x7d")
      [("LTI_LAUNCH__INSTANCE__NAME", "North")]) variableStart "platform.json").run.toOption.map (·.inst)) =
    some { name := some "North" } := by decide +kernel

/-- A key id that looks like a number loses its zeros. -/
theorem key_id_loses_zeros :
    let keyId := ("LTI_LAUNCH__KEY_ID", "007")
    (load (oneFile "platform.json" plainText []) variableStart "platform.json").run = .ok plainSettings ∧
      ∃ loaded, (load (oneFile "platform.json" plainText [keyId]) variableStart "platform.json").run = .ok loaded ∧
        loaded.keyId ≠ "007" := by
  intro keyId
  refine ⟨by decide +kernel, { plainSettings with keyId := "7" }, by decide +kernel, by decide⟩

end PlatformSettings

end LtiPlatform
