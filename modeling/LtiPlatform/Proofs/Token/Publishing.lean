import LtiPlatform.Proofs.Json.Pretty
import LtiPlatform.Proofs.Token.Acceptance

namespace LtiPlatform

/-- Two lists in step: each item is read as the key, text or value at its side. -/
theorem mapM_eq_some_iff {α β : Type} {read : α → Option β} {items : List α} {values : List β} :
    items.mapM read = some values ↔ List.Forall₂ (fun item value => read item = some value) items values := by
  induction items generalizing values with
  | nil => cases values <;> simp
  | cons item items ih =>
    rw [List.mapM_cons]
    cases values with
    | nil => cases read item <;> cases items.mapM read <;> simp
    | cons value values =>
      rw [List.forall₂_cons, ← ih]
      cases read item <;> cases items.mapM read <;> simp

namespace KeyUse

/-- Its name stands for this use. There are values without that property, since a name can be attached to a
use for encryption that none of them has. -/
def IsNamed (use : KeyUse) : Prop := ofName use.name = use

theorem isNamed_signing (algorithm : Algorithm) : (signing algorithm).IsNamed := by
  simp [IsNamed, name, ofName]

theorem isNamed_ofName (name : String) : (ofName name).IsNamed := by
  rw [ofName]
  split
  · exact isNamed_signing _
  · next other =>
    split
    · next known => rw [IsNamed, KeyUse.name, ofName, other, if_pos known]
    · rw [IsNamed, KeyUse.name]
      decide

end KeyUse

namespace KeyMaterial

/-- A key on a curve names one of the known curves. -/
def IsKnown : KeyMaterial → Prop
  | ellipticCurve curve _ _ => curve ∈ curves
  | edwardsCurve curve _ => curve ∈ curves
  | rsa .. | sharedSecret .. => True

end KeyMaterial

namespace Record

theorem named?_ofMembers (members : List (String × Json)) :
    named? (WrittenJson.ofMembers members) =
      some (.named (members.map fun member => (member.1, .ofJson member.2))) := by
  have each : (WrittenJson.ofMembers members).mapM (fun member => member.1.map fun name => (name, member.2)) =
      some (members.map fun member => (member.1, WrittenJson.ofJson member.2)) := by
    induction members with
    | nil => rfl
    | cons member rest ih => simp [WrittenJson.ofMembers, ih]
  rw [named?, each]
  rfl

theorem eq_of_check? {record checked : Record} {fields : List String} {complete : Bool}
    (check : record.check? fields complete = some checked) : record = checked := by
  unfold check? at check
  split at check
  · exact Option.some.inj (Option.ite_none_right_eq_some.mp check).2
  · split at check
    · cases check
    · split at check
      · cases check
      · exact Option.some.inj check

theorem optionalText?_of_value? {record : Record} {name : String} {text : Option String}
    (held : record.value? 0 name = (text.map Json.string).map .ofJson) :
    record.optionalText? 0 name = some text := by
  rw [optionalText?, held]
  cases text <;> rfl

end Record

namespace Jwk

/-- What is true of every key that can be read. -/
structure IsLegible (key : Jwk) : Prop where
  use : ∀ use, key.use = some use → use.IsNamed
  material : key.material.IsKnown

/-- The members that keys of all kinds share, each with its value if there is one. -/
def shared (key : Jwk) : List (String × Option Json) :=
  [("use", key.purpose.map .string), ("key_ops", key.operations.map Json.ofStrings),
    ("alg", key.use.map fun use => .string use.name), ("kid", key.id.map .string),
    ("x5u", key.certificate.url.map .string), ("x5c", key.certificate.chain.map Json.ofStrings),
    ("x5t", key.certificate.sha1.map .string), ("x5t#S256", key.certificate.sha256.map .string)]

def members (key : Jwk) : Entries Json :=
  (key.shared.flatMap fun member => optional member.1 member.2) ++ key.material.members

variable {key : Jwk}

theorem toJson_eq (key : Jwk) : key.toJson = .object key.members := by
  simp only [toJson, members, shared, List.flatMap_cons, List.flatMap_nil, List.append_nil,
    List.append_assoc]

theorem optional_keys_sublist (members : List (String × Option Json)) :
    (Entries.keys (members.flatMap fun member => optional member.1 member.2)).Sublist
      (members.map Prod.fst) := by
  induction members with
  | nil => exact .slnil
  | cons member rest ih =>
    obtain ⟨name, value⟩ := member
    cases value with
    | none => exact ih.cons name
    | some value => exact ih.cons_cons name

theorem get?_optional {members : List (String × Option Json)} {name : String} {value : Option Json}
    (distinct : (members.map Prod.fst).Nodup) (member : (name, value) ∈ members) :
    Entries.get? (members.flatMap fun member => optional member.1 member.2) name = value := by
  induction members with
  | nil => cases member
  | cons first rest ih =>
    obtain ⟨other, held⟩ := first
    obtain ⟨fresh, distinct⟩ := List.nodup_cons.mp distinct
    rw [List.flatMap_cons, Entries.get?_append]
    rcases List.mem_cons.mp member with same | later
    · cases same
      have absent : Entries.get? (rest.flatMap fun member => optional member.1 member.2) name = none :=
        Entries.get?_eq_none_iff.mpr fun known => fresh ((optional_keys_sublist rest).subset known)
      rw [absent, Option.or_none]
      cases value <;> simp [optional, Entries.get?_cons]
    · have differs : other ≠ name := by
        rintro rfl
        exact fresh (List.mem_map.mpr ⟨_, later, rfl⟩)
      have passed : Entries.get? (optional other held) name = none := by
        cases held <;> simp [optional, Entries.get?_cons, differs]
      rw [passed, Option.none_or, ih distinct later]

/-- No kind of material takes a name of the shared members. -/
theorem distinct_names (key : Jwk) :
    (key.shared.map Prod.fst ++ Entries.keys key.material.members).Nodup := by
  cases key.material <;> simp [shared, KeyMaterial.members, Entries.keys]

theorem distinct_members (key : Jwk) : key.members.keys.Nodup := by
  refine List.Sublist.nodup ?_ key.distinct_names
  rw [members, Entries.keys, List.map_append]
  exact (optional_keys_sublist key.shared).append (List.Sublist.refl _)

/-- A value of the kinds that keys write: a text or a list of texts. -/
def IsWritable (value : Json) : Prop := (∃ text, value = .string text) ∨ ∃ texts, value = .ofStrings texts

theorem isWritable_of_map {α : Type} {write : α → Json} (writes : ∀ held, IsWritable (write held))
    (given : Option α) : ∀ value, given.map write = some value → IsWritable value := by
  intro value same
  obtain ⟨held, _, rfl⟩ := Option.map_eq_some_iff.mp same
  exact writes held

theorem isWritable_of_mem {member : String × Json} (held : member ∈ key.members) : IsWritable member.2 := by
  have text : ∀ text, IsWritable (.string text) := fun text => .inl ⟨text, rfl⟩
  have texts : ∀ texts, IsWritable (.ofStrings texts) := fun texts => .inr ⟨texts, rfl⟩
  rcases List.mem_append.mp held with among | among
  · have each : ∀ member ∈ key.shared, ∀ value, member.2 = some value → IsWritable value := by
      simp only [Jwk.shared, List.forall_mem_cons]
      exact ⟨isWritable_of_map text _, isWritable_of_map texts _, isWritable_of_map (fun _ => text _) _,
        isWritable_of_map text _, isWritable_of_map text _, isWritable_of_map texts _,
        isWritable_of_map text _, isWritable_of_map text _, fun member none => absurd none List.not_mem_nil⟩
    obtain ⟨⟨name, value⟩, shared, here⟩ := List.mem_flatMap.mp among
    cases value with
    | none => cases here
    | some value =>
      cases List.mem_singleton.mp here
      exact each _ shared _ rfl
  · have each : ∀ member ∈ key.material.members, ∃ text, member.2 = .string text := by
      cases key.material <;> simp [KeyMaterial.members]
    exact .inl (each member among)

theorem IsWritable.numbers {value : Json} (writable : IsWritable value) : value.numbers = [] := by
  rcases writable with ⟨text, rfl⟩ | ⟨texts, rfl⟩
  · rfl
  · rw [Json.ofStrings, Json.numbers]
    induction texts with
    | nil => rfl
    | cons text rest ih => simp only [List.map_cons, Json.numbersOfItems, Json.numbers, ih, List.append_nil]

theorem IsWritable.levels {value : Json} (writable : IsWritable value) : value.levels ≤ 1 := by
  rcases writable with ⟨text, rfl⟩ | ⟨texts, rfl⟩
  · exact Nat.zero_le 1
  · have flat : Json.levelsOfItems (texts.map .string) = 0 := by
      induction texts with
      | nil => rfl
      | cons text rest ih => simp only [List.map_cons, Json.levelsOfItems, Json.levels, ih, Nat.max_self]
    rw [Json.ofStrings, Json.levels, flat]

@[simp]
theorem numbers_toJson (key : Jwk) : key.toJson.numbers = [] := by
  rw [toJson_eq, Json.numbers]
  refine List.eq_nil_iff_forall_not_mem.mpr fun number among => ?_
  obtain ⟨member, held, here⟩ := Json.mem_numbersOfMembers.mp among
  rw [(isWritable_of_mem held).numbers] at here
  cases here

theorem levels_toJson (key : Jwk) : key.toJson.levels ≤ 2 := by
  rw [toJson_eq, Json.levels]
  exact Nat.succ_le_succ (Json.levelsOfMembers_le fun member held => (isWritable_of_mem held).levels)

/-- The key as a record of members that were read. -/
def record (key : Jwk) : Record := .named (key.members.map fun member => (member.1, .ofJson member.2))

@[simp]
theorem check?_record (key : Jwk) (fields : List String) (complete : Bool) :
    key.record.check? fields complete = some key.record := by
  exact Record.check?_named (by simpa using key.distinct_members) fields complete

@[simp]
theorem value?_record (key : Jwk) (name : String) :
    key.record.value? 0 name = (key.members.get? name).map .ofJson :=
  Entries.get?_map WrittenJson.ofJson key.members name

theorem value?_shared {name : String} {value : Option Json} (member : (name, value) ∈ key.shared) :
    key.record.value? 0 name = value.map .ofJson := by
  obtain ⟨distinct, _, apart⟩ := List.nodup_append.mp key.distinct_names
  have elsewhere : Entries.get? key.material.members name = none :=
    Entries.get?_eq_none_iff.mpr fun known => apart name (List.mem_map.mpr ⟨_, member, rfl⟩) name known rfl
  rw [value?_record, members, Entries.get?_append, get?_optional distinct member, elsewhere, Option.or_none]

theorem value?_material {name : String} {value : Json} (member : (name, value) ∈ key.material.members) :
    key.record.value? 0 name = some (.ofJson value) := by
  rw [value?_record, Entries.get?_of_mem key.distinct_members (List.mem_append_right _ member), Option.map_some]

theorem text?_material {name text : String} (member : (name, .string text) ∈ key.material.members) :
    key.record.text? 0 name = some text := by
  rw [Record.text?, value?_material member]
  rfl

theorem optionalTexts?_ofStrings (texts : Option (List String)) :
    optionalTexts? ((texts.map Json.ofStrings).map .ofJson) = some texts := by
  cases texts with
  | none => rfl
  | some texts =>
    have each : texts? (WrittenJson.ofItems (texts.map .string)) = some texts := by
      rw [texts?, mapM_eq_some_iff]
      induction texts with
      | nil => exact .nil
      | cons text rest ih => exact .cons rfl ih
    simp only [Option.map_some, Json.ofStrings, WrittenJson.ofJson, optionalTexts?, each]

theorem optionalUse?_name {use : Option KeyUse} (named : ∀ held, use = some held → held.IsNamed) :
    optionalUse? ((use.map fun held => Json.string held.name).map .ofJson) = some use := by
  cases use with
  | none => rfl
  | some held => exact congrArg (some ∘ some) (named held rfl)

theorem requiredTexts?_material {names texts : List String}
    (each : List.Forall₂ (fun name text => (name, .string text) ∈ key.material.members) names texts) :
    requiredTexts? key.record names = some texts := by
  rw [requiredTexts?, check?_record, Option.bind_some, mapM_eq_some_iff]
  exact each.imp fun _ _ member => text?_material member

theorem curve?_material {curve : String} (member : ("crv", .string curve) ∈ key.material.members)
    (known : curve ∈ KeyMaterial.curves) : curve? key.record = some curve := by
  rw [curve?, check?_record, Option.bind_some, value?_material member]
  simp [WrittenJson.ofJson, WrittenJson.alternative?, known]

theorem material?_record (known : key.material.IsKnown) : material? key.record = some key.material := by
  have kind : ∀ {name}, ("kty", .string name) ∈ key.material.members →
      (key.record.value? 0 "kty").bind WrittenJson.alternative? = some name := by
    intro name member
    rw [value?_material member]
    rfl
  rw [material?, check?_record, Option.bind_eq_bind, Option.bind_some, Option.bind_eq_bind]
  cases isMaterial : key.material with
  | ellipticCurve curve x y =>
    rw [isMaterial] at known kind
    have point : requiredTexts? key.record ["x", "y"] = some [x, y] :=
      requiredTexts?_material (.cons (by simp [isMaterial, KeyMaterial.members])
        (.cons (by simp [isMaterial, KeyMaterial.members]) .nil))
    rw [kind (List.mem_cons_self ..), Option.bind_some,
      curve?_material (by simp [isMaterial, KeyMaterial.members]) known, point]
    rfl
  | rsa modulus exponent =>
    rw [isMaterial] at kind
    have numbers : requiredTexts? key.record ["n", "e"] = some [modulus, exponent] :=
      requiredTexts?_material (.cons (by simp [isMaterial, KeyMaterial.members])
        (.cons (by simp [isMaterial, KeyMaterial.members]) .nil))
    rw [kind (List.mem_cons_self ..), Option.bind_some, numbers]
    rfl
  | sharedSecret secret =>
    rw [isMaterial] at kind
    have text : requiredTexts? key.record ["k"] = some [secret] :=
      requiredTexts?_material (.cons (by simp [isMaterial, KeyMaterial.members]) .nil)
    rw [kind (List.mem_cons_self ..), Option.bind_some, text]
    rfl
  | edwardsCurve curve x =>
    rw [isMaterial] at known kind
    have point : requiredTexts? key.record ["x"] = some [x] :=
      requiredTexts?_material (.cons (by simp [isMaterial, KeyMaterial.members]) .nil)
    rw [kind (List.mem_cons_self ..), Option.bind_some,
      curve?_material (by simp [isMaterial, KeyMaterial.members]) known, point]
    rfl

/-- A legible key is read from its own members. -/
theorem ofRecord?_record (legible : key.IsLegible) : ofRecord? key.record = some key := by
  have text : ∀ {name given}, (name, given.map Json.string) ∈ key.shared →
      key.record.optionalText? 0 name = some given :=
    fun member => Record.optionalText?_of_value? (value?_shared member)
  have texts : ∀ {name given}, (name, given.map Json.ofStrings) ∈ key.shared →
      optionalTexts? (key.record.value? 0 name) = some given := by
    intro name given member
    rw [value?_shared member, optionalTexts?_ofStrings]
  have use : optionalUse? (key.record.value? 0 "alg") = some key.use := by
    have member : ("alg", key.use.map fun use => .string use.name) ∈ key.shared := by simp [shared]
    rw [value?_shared member, optionalUse?_name legible.use]
  have purpose : key.record.optionalText? 0 "use" = some key.purpose := text (by simp [shared])
  have operations : optionalTexts? (key.record.value? 0 "key_ops") = some key.operations :=
    texts (by simp [shared])
  have id : key.record.optionalText? 0 "kid" = some key.id := text (by simp [shared])
  have url : key.record.optionalText? 0 "x5u" = some key.certificate.url := text (by simp [shared])
  have chain : optionalTexts? (key.record.value? 0 "x5c") = some key.certificate.chain :=
    texts (by simp [shared])
  have sha1 : key.record.optionalText? 0 "x5t" = some key.certificate.sha1 := text (by simp [shared])
  have sha256 : key.record.optionalText? 0 "x5t#S256" = some key.certificate.sha256 :=
    text (by simp [shared])
  simp only [ofRecord?, check?_record, purpose, operations, use, id, url, chain, sha1, sha256,
    material?_record legible.material, Option.bind_eq_bind, Option.bind_some]

theorem ofWritten?_toJson (legible : key.IsLegible) {depth : Nat} (deep : 2 ≤ depth) :
    ofWritten? depth (.ofJson key.toJson) = some key := by
  have known := Json.toJson?_ofJson key.toJson (Nat.le_trans key.levels_toJson deep)
  rw [toJson_eq, WrittenJson.ofJson] at known ⊢
  rw [ofWritten?, known, Option.bind_some, Record.named?_ofMembers, Option.bind_some]
  exact ofRecord?_record legible

theorem isNamed_of_optionalUse? {value : Option WrittenJson} {use : KeyUse}
    (read : optionalUse? value = some (some use)) : use.IsNamed := by
  unfold optionalUse? at read
  split at read
  · cases read
  · cases read
  · obtain ⟨name, _, same⟩ := Option.map_eq_some_iff.mp read
    cases same
    exact KeyUse.isNamed_ofName name
  · obtain ⟨name, _, same⟩ := Option.map_eq_some_iff.mp read
    cases same
    exact KeyUse.isNamed_ofName name

theorem mem_curves_of_curve? {record : Record} {curve : String} (read : curve? record = some curve) :
    curve ∈ KeyMaterial.curves := by
  rw [curve?, Option.filter_eq_some_iff] at read
  exact List.contains_iff_mem.mp read.2

theorem isKnown_of_material? {record : Record} {material : KeyMaterial}
    (read : material? record = some material) : material.IsKnown := by
  obtain ⟨record, _, read⟩ := Option.bind_eq_some_iff.mp read
  obtain ⟨kind, _, read⟩ := Option.bind_eq_some_iff.mp read
  split at read
  · split at read
    · next isCurve _ => cases read; exact mem_curves_of_curve? isCurve
    · cases read
  · split at read
    · cases read; trivial
    · cases read
  · split at read
    · cases read; trivial
    · cases read
  · split at read
    · next isCurve _ => cases read; exact mem_curves_of_curve? isCurve
    · cases read
  · cases read

/-- What is read from a written value is legible. -/
theorem isLegible_of_ofWritten? {depth : Nat} {value : WrittenJson} (read : ofWritten? depth value = some key) :
    key.IsLegible := by
  cases value with
  | object members =>
    obtain ⟨_, _, read⟩ := Option.bind_eq_some_iff.mp read
    obtain ⟨record, _, read⟩ := Option.bind_eq_some_iff.mp read
    simp only [ofRecord?, Option.bind_eq_bind, Option.bind_eq_some_iff, Option.some.injEq] at read
    obtain ⟨record, _, _, _, _, _, use, isUse, _, _, _, _, _, _, _, _, _, _, material, isMaterial, rfl⟩ := read
    refine ⟨fun held same => ?_, isKnown_of_material? isMaterial⟩
    cases same
    exact isNamed_of_optionalUse? isUse
  | _ => cases read

/-- What is published of a key that platforms sign with is legible. -/
theorem isLegible_publicKey {key : SigningKey} (made : key.IsMade) : key.publicKey.IsLegible := by
  cases made with
  | rsa id secret =>
    refine ⟨fun use same => ?_, trivial⟩
    cases same
    exact KeyUse.isNamed_signing _
  | p256 made =>
    obtain ⟨point, _, rfl⟩ := Option.map_eq_some_iff.mp made
    refine ⟨fun use same => ?_, show "P-256" ∈ KeyMaterial.curves by decide⟩
    cases same
    exact KeyUse.isNamed_signing _

end Jwk

namespace KeySet

variable {set : KeySet} {text : String}

/-- The text is a document of the set: under its one name stands a list of items, and each item is read as
the key at the same place in the set. -/
def IsReadFrom (set : KeySet) (text : String) : Prop :=
  ∃ record items, Record.parse? text = some record ∧ record.value? 0 "keys" = some (.array items) ∧
    List.Forall₂ (fun item key => Jwk.ofWritten? (Json.depthLimit - 2) item = some key) items set.keys

theorem isReadFrom_of_parse (parsed : parse text = .ok set) : set.IsReadFrom text := by
  unfold parse at parsed
  split at parsed
  · next read =>
    cases parsed
    obtain ⟨record, isRecord, read⟩ := Option.bind_eq_some_iff.mp read
    obtain ⟨checked, check, read⟩ := Option.bind_eq_some_iff.mp read
    obtain ⟨items, isArray, read⟩ := Option.bind_eq_some_iff.mp read
    obtain ⟨keys, each, same⟩ := Option.bind_eq_some_iff.mp read
    cases same
    cases Record.eq_of_check? check
    obtain ⟨value, isValue, isArray⟩ := Option.bind_eq_some_iff.mp isArray
    cases value with
    | array held =>
      cases isArray
      exact ⟨record, items, isRecord, isValue, mapM_eq_some_iff.mp each⟩
    | _ => cases isArray
  · cases parsed

theorem isLegible_of_isReadFrom (read : set.IsReadFrom text) : ∀ key ∈ set.keys, key.IsLegible := by
  obtain ⟨_, items, -, -, each⟩ := read
  generalize set.keys = keys at each
  induction each with
  | nil => exact fun key member => absurd member List.not_mem_nil
  | cons first _ ih => exact List.forall_mem_cons.mpr ⟨Jwk.isLegible_of_ofWritten? first, ih⟩

@[simp]
theorem numbers_toJson (set : KeySet) : set.toJson.numbers = [] := by
  have each : ∀ keys : List Jwk, Json.numbersOfItems (keys.map Jwk.toJson) = [] := by
    intro keys
    induction keys with
    | nil => rfl
    | cons key rest ih => simp [Json.numbersOfItems, ih]
  simp [toJson, Json.numbers, Json.numbersOfMembers, each]

theorem forall₂_written {keys : List Jwk} (legible : ∀ key ∈ keys, key.IsLegible) :
    List.Forall₂ (fun item key => Jwk.ofWritten? (Json.depthLimit - 2) item = some key)
      (WrittenJson.ofItems (keys.map Jwk.toJson)) keys := by
  induction keys with
  | nil => exact .nil
  | cons key rest ih =>
    obtain ⟨first, later⟩ := List.forall_mem_cons.mp legible
    exact .cons (Jwk.ofWritten?_toJson first (by decide)) (ih later)

/-- A set of legible keys is read from the text that is published of it. -/
theorem parse_toText (legible : ∀ key ∈ set.keys, key.IsLegible) : parse set.toText = .ok set := by
  have written : Record.parse? set.toText = some
      (.named [("keys", .array (WrittenJson.ofItems (set.keys.map Jwk.toJson)))]) := by
    rw [Record.parse?, toText, Json.written?_pretty set.numbers_toJson]
    rfl
  have each := mapM_eq_some_iff.mpr (forall₂_written legible)
  have once : (Entries.keys [("keys", WrittenJson.array (WrittenJson.ofItems (set.keys.map Jwk.toJson)))]).Nodup :=
    List.nodup_singleton "keys"
  rw [parse, written, Option.bind_some, ofRecord?, Record.check?_named once]
  simp only [Record.value?, List.lookup_cons_self, Option.bind_eq_bind, Option.bind_some,
    WrittenJson.array?, each]

end KeySet

/-- A key that a set can be put together from: one that was read from a document, or what is published of a
key that platforms sign with. -/
inductive Jwk.IsAtHand : Jwk → Prop
  | read {text : String} {set : KeySet} {key : Jwk} (parsed : KeySet.parse text = .ok set)
    (member : key ∈ set.keys) : IsAtHand key
  | signing {key : SigningKey} (made : key.IsMade) : IsAtHand key.publicKey

theorem Jwk.IsAtHand.isLegible {key : Jwk} (atHand : key.IsAtHand) : key.IsLegible := by
  cases atHand with
  | read parsed member => exact KeySet.isLegible_of_isReadFrom (KeySet.isReadFrom_of_parse parsed) key member
  | signing made => exact isLegible_publicKey made

namespace KeySet

/-- Whatever a set was put together from, it is read from the text that is published of it, with the same
keys in the same order. What is then published is the same text, and under an id stands the same key as
before, the first one that carries the id. The keys of a set that was read stand in the order of the
document, that of the published text as well as any other. -/
theorem published_set_is_kept {set : KeySet} (atHand : ∀ key ∈ set.keys, key.IsAtHand) :
    parse set.toText = .ok set ∧
    (∀ again, parse set.toText = .ok again → again.keys = set.keys ∧ again.toText = set.toText ∧
      ∀ id key, (again.find? id = some key ↔ set.IsFirst id key) ∧
        (set.find? id = some key ↔ set.IsFirst id key)) ∧
    ∀ text, parse text = .ok set → set.IsReadFrom text := by
  have back := parse_toText fun key member => (atHand key member).isLegible
  refine ⟨back, fun again read => ?_, fun text parsed => isReadFrom_of_parse parsed⟩
  cases back.symm.trans read
  exact ⟨rfl, rfl, fun id key => ⟨find?_eq_some_iff, find?_eq_some_iff⟩⟩

/-- A shared secret for nothing that is known. -/
def oddSecret : Jwk where
  purpose := some "tea"
  operations := some ["pour"]
  use := some .unknown
  id := some "a"
  material := .sharedSecret "AQ"

def namelessPoint : Jwk where
  material := .edwardsCurve "Ed25519" "Ag"

theorem two_keys_under_an_id_are_kept :
    let text := "\x7b\"keys\":[\x7b\"kty\":\"oct\",\"kid\":\"a\",\"k\":\"AQ\",\"use\":\"tea\",\"alg\":\"none\"," ++
      "\"key_ops\":[\"pour\"],\"x\":0\x7d,\x7b\"kty\":\"OKP\",\"crv\":\"Ed25519\",\"x\":\"Ag\"\x7d," ++
      "\x7b\"kty\":\"oct\",\"kid\":\"a\",\"k\":\"Aw\"\x7d]\x7d"
    let set : KeySet := ⟨[oddSecret, namelessPoint, { id := some "a", material := .sharedSecret "Aw" }]⟩
    parse text = .ok set ∧ parse set.toText = .ok set ∧ set.find? "a" = some oddSecret := by
  intro text set
  have parsed : parse text = .ok set := by decide +kernel
  exact ⟨parsed, (published_set_is_kept fun key member => .read parsed member).1, rfl⟩

end KeySet

end LtiPlatform
