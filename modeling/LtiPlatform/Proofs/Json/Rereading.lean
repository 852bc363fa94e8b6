import LtiPlatform.Proofs.Json.Unwrapping

namespace LtiPlatform

namespace Entries

theorem rel_get? {α β : Type} {related : α → β → Prop} {entries : Entries α} {others : Entries β}
    (each : List.Forall₂ (fun left right => left.1 = right.1 ∧ related left.2 right.2) entries others)
    (name : String) : Option.Rel related (entries.get? name) (others.get? name) := by
  induction each with
  | nil => exact .none
  | @cons left right _ _ first _ ih =>
    obtain ⟨key, value⟩ := left
    obtain ⟨key', value'⟩ := right
    obtain ⟨rfl, held⟩ := first
    rw [get?_cons, get?_cons]
    split
    · exact .some held
    · exact ih

end Entries

namespace Json

/-- Equal but for the numbers and for the order of members. -/
inductive Alike : Json → Json → Prop
  | null : Alike .null .null
  | bool (value : Bool) : Alike (.bool value) (.bool value)
  | number (value other : JsonNumber) : Alike (.number value) (.number other)
  | string (value : String) : Alike (.string value) (.string value)
  | array {items others : List Json} (each : List.Forall₂ Alike items others) :
    Alike (.array items) (.array others)
  | object {members others : List (String × Json)}
    (each : ∀ name, Option.Rel Alike ((Json.object members).member? name)
      ((Json.object others).member? name)) :
    Alike (.object members) (.object others)

namespace Alike

variable {value other : Json} {name : String}

theorem string? (alike : Alike value other) : other.string? = value.string? := by
  cases alike <;> rfl

theorem member? (alike : Alike value other) (name : String) :
    Option.Rel Alike (value.member? name) (other.member? name) := by
  cases alike with
  | object each => exact each name
  | _ => exact .none

theorem texts {items others : List Json} (each : List.Forall₂ Alike items others) :
    others.filterMap Json.string? = items.filterMap Json.string? := by
  induction each with
  | nil => rfl
  | cons first _ ih => rw [List.filterMap_cons, List.filterMap_cons, first.string?, ih]

/-- The texts in a list. -/
theorem array? (alike : Alike value other) :
    (other.array?.getD []).filterMap Json.string? = (value.array?.getD []).filterMap Json.string? := by
  cases alike with
  | array each => exact texts each
  | _ => rfl

end Alike

section Reading

variable {read : JsonNumber → Option JsonNumber}

/-- The value that is read for another one before anything is put in the place of objects in it: alike to it,
of the same kind, and plain if it is. -/
structure Reread (value found : Json) : Prop where
  alike : Alike value (settle found)
  scalar : found.isScalar = value.isScalar
  contents : found.hasContents = value.hasContents
  plain : value.isPlain → found.isPlain
  object : ∀ members, value = .object members → ∃ others, found = .object others ∧
    Entries.keys others = Entries.keys members ∧
      ∀ name text, others = [(name, .string text)] → members = [(name, .string text)]

theorem Reread.eq_string {value : Json} {text : String} (reread : Reread value (.string text)) :
    value = .string text := by
  have alike := reread.alike
  rw [settle] at alike
  · cases alike
    rfl
  · exact nofun
  · exact nofun

theorem Reread.items {items found : List Json} (each : List.Forall₂ Reread items found) :
    Reread (.array items) (.array found) where
  alike := by
    rw [settle, settleItems_eq_map]
    exact .array ((List.forall₂_map_right_iff).mpr (each.imp fun _ _ held => held.alike))
  scalar := rfl
  contents := by cases each <;> rfl
  plain plain := by
    rw [isPlain_array_iff] at plain ⊢
    induction each with
    | nil => exact List.forall_mem_nil _
    | cons first _ ih =>
      rw [List.forall_mem_cons] at plain ⊢
      exact ⟨first.plain plain.1, ih plain.2⟩
  object := nofun

/-- The same of the members of an object, with their names. -/
def RereadMembers : List (String × Json) → List (String × Json) → Prop :=
  List.Forall₂ fun left right => left.1 = right.1 ∧ Reread left.2 right.2

theorem RereadMembers.keys {members found : List (String × Json)} (each : RereadMembers members found) :
    Entries.keys found = Entries.keys members := by
  induction each with
  | nil => rfl
  | cons first _ ih => exact List.cons_eq_cons.mpr ⟨first.1.symm, ih⟩

theorem RereadMembers.members {members found : List (String × Json)} (each : RereadMembers members found) :
    Reread (.object members) (.object found) where
  alike := by
    refine .object fun name => ?_
    have reversed : List.Forall₂ (fun left right => left.1 = right.1 ∧ Alike left.2 right.2) members.reverse
        (settleMembers found).reverse := by
      rw [settleMembers_eq_map]
      exact List.rel_reverse ((List.forall₂_map_right_iff).mpr (each.imp fun _ _ held => ⟨held.1, held.2.alike⟩))
    rw [← Json.ofMap, member?_ofMap, OrderedMap.get?_ofList, Json.member?, object?, Option.bind_some,
      OrderedMap.get?_ofList]
    exact Entries.rel_get? reversed name
  scalar := rfl
  contents := by cases each <;> rfl
  plain plain := by
    rw [isPlain_object_iff] at plain ⊢
    refine ⟨by rw [isRaw_congr (congrArg List.head? each.keys), plain.1], ?_⟩
    replace plain := plain.2
    induction each with
    | nil => exact List.forall_mem_nil _
    | cons first _ ih =>
      rw [List.forall_mem_cons] at plain ⊢
      exact ⟨first.2.plain plain.1, ih plain.2⟩
  object list same := by
    cases same
    refine ⟨found, rfl, each.keys, fun name text single => ?_⟩
    subst single
    cases each with
    | cons first rest =>
      cases rest
      exact congrArg (· :: []) (Prod.ext first.1 first.2.eq_string)

mutual

theorem reread_of_toJson? : ∀ (value : Json) {depth : Nat} {found : Json},
    (value.asRead read).toJson? depth = some found → Reread value found
  | .null, _, _, known => by
    cases known
    exact ⟨.null, rfl, rfl, id, nofun⟩
  | .bool value, _, _, known => by
    cases known
    exact ⟨.bool value, rfl, rfl, id, nofun⟩
  | .number value, _, _, known => by
    obtain ⟨other, _, rfl⟩ := Option.map_eq_some_iff.mp known
    exact ⟨.number value other, rfl, rfl, id, nofun⟩
  | .string value, _, _, known => by
    cases known
    exact ⟨.string value, rfl, rfl, id, nofun⟩
  | .array items, depth, _, known => by
    rw [asRead, WrittenJson.toJson?, Option.ite_none_left_eq_some] at known
    obtain ⟨others, inside, rfl⟩ := Option.map_eq_some_iff.mp known.2
    exact .items (reread_of_itemsToJson? items inside)
  | .object members, depth, _, known => by
    rw [asRead, WrittenJson.toJson?, Option.ite_none_left_eq_some] at known
    obtain ⟨others, inside, rfl⟩ := Option.map_eq_some_iff.mp known.2
    exact (reread_of_membersToJson? members inside).members

theorem reread_of_itemsToJson? : ∀ (items : List Json) {depth : Nat} {found : List Json},
    WrittenJson.itemsToJson? depth (itemsAsRead read items) = some found → List.Forall₂ Reread items found
  | [], _, _, known => by
    cases known
    exact .nil
  | item :: rest, _, _, known => by
    obtain ⟨first, isFirst, known⟩ := Option.bind_eq_some_iff.mp known
    obtain ⟨later, areLater, known⟩ := Option.bind_eq_some_iff.mp known
    cases known
    exact .cons (reread_of_toJson? item isFirst) (reread_of_itemsToJson? rest areLater)

theorem reread_of_membersToJson? : ∀ (members : List (String × Json)) {depth : Nat}
    {found : List (String × Json)},
    WrittenJson.membersToJson? depth (membersAsRead read members) = some found → RereadMembers members found
  | [], _, _, known => by
    cases known
    exact .nil
  | (name, value) :: rest, _, _, known => by
    rw [membersAsRead, WrittenJson.membersToJson?, Option.bind_eq_bind, Option.bind_some] at known
    obtain ⟨first, isFirst, known⟩ := Option.bind_eq_some_iff.mp known
    obtain ⟨later, areLater, known⟩ := Option.bind_eq_some_iff.mp known
    cases known
    exact .cons ⟨rfl, reread_of_toJson? value isFirst⟩ (reread_of_membersToJson? rest areLater)

end

end Reading

/-- What is read for the text of an object, member by member. -/
theorem reread_of_parseWritten? {members : List (String × Json)} {depth : Nat} {found : Json}
    (reads : parseWritten? depth (object members).compact = some found) :
    ∃ others, found = .object others ∧ RereadMembers members others := by
  obtain ⟨read, same⟩ := exists_parseWritten?_compact (object members) depth
  rw [same, asRead, WrittenJson.toJson?, Option.ite_none_left_eq_some] at reads
  obtain ⟨others, inside, rfl⟩ := Option.map_eq_some_iff.mp reads.2
  exact ⟨others, rfl, reread_of_membersToJson? members inside⟩

/-- What is read for an object that is not taken for a text is an object. -/
theorem isObject_of_parse?_compact {members : List (String × Json)} {found : Json} (ordinary : isRaw members = false)
    (parsed : parse? (object members).compact = some found) : ∃ members, found = .object members := by
  rw [parse?_eq] at parsed
  obtain ⟨whole, known, rfl⟩ := Option.map_eq_some_iff.mp parsed
  obtain ⟨written, reads, unwrapped⟩ := Option.bind_eq_some_iff.mp known
  obtain ⟨others, rfl, each⟩ := reread_of_parseWritten? reads
  rw [unwrap?, isRaw_congr (congrArg List.head? each.keys), ordinary, if_neg (by decide)] at unwrapped
  obtain ⟨_, _, rfl⟩ := Option.map_eq_some_iff.mp unwrapped
  exact ⟨_, rfl⟩

/-- Where a plain value stood, what is read for it stays. -/
theorem RereadMembers.unwrapped {read? : String → Option Json} {members others found : List (String × Json)}
    (each : RereadMembers members others) (unwraps : unwrapMembers? read? others = some found) :
    List.Forall₂ (fun left right => left.1 = right.1 ∧ (left.2.isPlain → Alike left.2 (settle right.2))) members
      found := by
  induction each generalizing found with
  | nil =>
    cases unwraps
    exact .nil
  | cons first _ ih =>
    obtain ⟨value, isValue, unwraps⟩ := Option.bind_eq_some_iff.mp unwraps
    obtain ⟨later, areLater, unwraps⟩ := Option.bind_eq_some_iff.mp unwraps
    cases unwraps
    refine .cons ⟨first.1, fun plain => ?_⟩ (ih areLater)
    rw [unwrap?_of_isPlain _ (first.2.plain plain), Option.some.injEq] at isValue
    rw [← isValue]
    exact first.2.alike

theorem RereadMembers.exists_unwrapped {read? : String → Option Json} {members others found : List (String × Json)}
    (each : RereadMembers members others) (unwraps : unwrapMembers? read? others = some found)
    {member : String × Json} (listed : member ∈ members) :
    ∃ other, Reread member.2 other ∧ ∃ value, unwrap? read? other = some value := by
  induction each generalizing found with
  | nil => cases listed
  | cons first _ ih =>
    obtain ⟨value, isValue, unwraps⟩ := Option.bind_eq_some_iff.mp unwraps
    obtain ⟨later, areLater, _⟩ := Option.bind_eq_some_iff.mp unwraps
    rcases List.mem_cons.mp listed with rfl | listed
    · exact ⟨_, first.2, value, isValue⟩
    · exact ih areLater listed

/-- Under each name of a map stands what its value was replaced with, settled. -/
theorem rel_get?_settled {related : Json → Json → Prop} {map : OrderedMap Json} {members : List (String × Json)}
    (each : List.Forall₂ (fun left right => left.1 = right.1 ∧ related left.2 (settle right.2)) map.entries members)
    (name : String) :
    Option.Rel related (map.get? name) ((OrderedMap.ofList (settleMembers members)).get? name) := by
  have settled : List.Forall₂ (fun left right => left.1 = right.1 ∧ related left.2 right.2) map.entries
      (settleMembers members) := by
    rw [settleMembers_eq_map, List.forall₂_map_right_iff]
    exact each
  have entries : map.get? name = Entries.get? map.entries.reverse name := by
    rw [← OrderedMap.get?_ofList, OrderedMap.ofList_entries]
  rw [entries, OrderedMap.get?_ofList]
  exact Entries.rel_get? (List.rel_reverse settled) name

/-- A plain value stays under its name, whatever comes of the others. -/
theorem get?_of_mapOf? {map found : OrderedMap Json} (known : mapOf? map.entries = some found) {name : String}
    (still : ∀ value, map.get? name = some value → value.isPlain ∧ settle value = value) :
    found.get? name = map.get? name := by
  obtain ⟨members, unwrapped, rfl⟩ := Option.map_eq_some_iff.mp known
  have each : List.Forall₂ (fun left right => left.1 = right.1 ∧
      (left.2.isPlain ∧ settle left.2 = left.2 → settle right.2 = left.2)) map.entries members := by
    refine (unwrapMembers?_eq_some_iff.mp unwrapped).imp fun left right held => ⟨held.1, fun still => ?_⟩
    have same := held.2
    rw [unwrap?_of_isPlain _ still.1, Option.some.injEq] at same
    rw [← same, still.2]
  have held := @rel_get?_settled (fun value other => value.isPlain ∧ settle value = value → other = value) _ _ each name
  generalize map.get? name = value, (OrderedMap.ofList (settleMembers members)).get? name = other at held still
  cases held with
  | none => rfl
  | some held => rw [held (still _ rfl)]

/-- What an object is read as has the same names, and under each of them what is alike if it was plain. -/
theorem alike_of_parseMap? {map found : OrderedMap Json} (parsed : parseMap? (ofMap map).compact = some found)
    (name : String) :
    Option.Rel (fun value other => value.isPlain → Alike value other) (map.get? name) (found.get? name) := by
  rw [parseMap?] at parsed
  split at parsed
  · next members reads =>
    obtain ⟨others, same, each⟩ := reread_of_parseWritten? reads
    cases same
    obtain ⟨unwrapped, each', rfl⟩ := Option.map_eq_some_iff.mp parsed
    exact rel_get?_settled (each.unwrapped each') name
  · cases parsed

/-- An object that is for a text was written as just that text, and its text can be read. -/
theorem exists_text_of_parseMap? {map found : OrderedMap Json} (parsed : parseMap? (ofMap map).compact = some found)
    {name : String} {members : List (String × Json)} (held : map.get? name = some (.object members))
    (raw : isRaw members) :
    ∃ text value, members = [(rawName, .string text)] ∧ parse? text = some value := by
  rw [parseMap?] at parsed
  split at parsed
  case h_2 => cases parsed
  next all reads =>
  obtain ⟨others, same, each⟩ := reread_of_parseWritten? reads
  cases same
  obtain ⟨unwrapped, each', _⟩ := Option.map_eq_some_iff.mp parsed
  obtain ⟨other, reread, value, isValue⟩ := each.exists_unwrapped each' (OrderedMap.mem_entries_iff.mpr held)
  obtain ⟨inside, rfl, keys, text⟩ := reread.object members rfl
  rw [unwrap?, isRaw_congr (congrArg List.head? keys), raw, if_pos rfl] at isValue
  obtain ⟨text', isText, readable⟩ := Option.bind_eq_some_iff.mp isValue
  unfold rawText? at isText
  split at isText
  · next key text'' =>
    cases isText
    obtain rfl := text key text' rfl
    obtain rfl : key = rawName := by simpa [isRaw] using raw
    exact ⟨text', value, rfl, readable⟩
  · cases isText

end Json

end LtiPlatform
