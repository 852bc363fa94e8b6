import LtiPlatform.Proofs.Json.NumberText
import LtiPlatform.Proofs.Json.Portable

namespace LtiPlatform

namespace WrittenJson

mutual

/-- The levels of arrays and objects. -/
def levels : WrittenJson → Nat
  | array items => levelsOfItems items + 1
  | object members => levelsOfMembers members + 1
  | _ => 0

def levelsOfItems : List WrittenJson → Nat
  | [] => 0
  | item :: rest => max item.levels (levelsOfItems rest)

def levelsOfMembers : List (Option String × WrittenJson) → Nat
  | [] => 0
  | (_, value) :: rest => max value.levels (levelsOfMembers rest)

end

mutual

/-- All numbers that are known. -/
def numbers : WrittenJson → List JsonNumber
  | number value? => value?.toList
  | array items => numbersOfItems items
  | object members => numbersOfMembers members
  | _ => []

def numbersOfItems : List WrittenJson → List JsonNumber
  | [] => []
  | item :: rest => item.numbers ++ numbersOfItems rest

def numbersOfMembers : List (Option String × WrittenJson) → List JsonNumber
  | [] => []
  | (_, value) :: rest => value.numbers ++ numbersOfMembers rest

end

theorem mem_numbersOfItems {items : List WrittenJson} {number : JsonNumber} :
    number ∈ numbersOfItems items ↔ ∃ item ∈ items, number ∈ item.numbers := by
  induction items with
  | nil => simp [numbersOfItems]
  | cons first rest ih => simp [numbersOfItems, ih]

theorem mem_numbersOfMembers {members : List (Option String × WrittenJson)} {number : JsonNumber} :
    number ∈ numbersOfMembers members ↔ ∃ member ∈ members, number ∈ member.2.numbers := by
  induction members with
  | nil => simp [numbersOfMembers]
  | cons first rest ih => simp [numbersOfMembers, ih]

mutual

/-- A value that is known as a whole has the levels and the numbers that were written. -/
theorem parts_of_toJson? : ∀ (written : WrittenJson) {depth : Nat} {value : Json},
    written.toJson? depth = some value →
    value.levels = written.levels ∧ value.numbers = written.numbers ∧ written.levels ≤ depth
  | .null, _, _, known | .bool _, _, _, known => by
    cases known
    exact ⟨rfl, rfl, Nat.zero_le _⟩
  | .number value?, _, _, known => by
    obtain ⟨value, rfl, rfl⟩ := Option.map_eq_some_iff.mp known
    exact ⟨rfl, rfl, Nat.zero_le _⟩
  | .string value?, _, _, known => by
    obtain ⟨value, rfl, rfl⟩ := Option.map_eq_some_iff.mp known
    exact ⟨rfl, rfl, Nat.zero_le _⟩
  | .array items, depth, _, known => by
    rw [toJson?, Option.ite_none_left_eq_some] at known
    obtain ⟨values, inside, rfl⟩ := Option.map_eq_some_iff.mp known.2
    obtain ⟨levels, numbers, bound⟩ := parts_of_itemsToJson? items inside
    exact ⟨congrArg (· + 1) levels, numbers, by rw [WrittenJson.levels]; omega⟩
  | .object members, depth, _, known => by
    rw [toJson?, Option.ite_none_left_eq_some] at known
    obtain ⟨values, inside, rfl⟩ := Option.map_eq_some_iff.mp known.2
    obtain ⟨levels, numbers, bound⟩ := parts_of_membersToJson? members inside
    exact ⟨congrArg (· + 1) levels, numbers, by rw [WrittenJson.levels]; omega⟩

theorem parts_of_itemsToJson? : ∀ (items : List WrittenJson) {depth : Nat} {values : List Json},
    itemsToJson? depth items = some values →
    Json.levelsOfItems values = levelsOfItems items ∧ Json.numbersOfItems values = numbersOfItems items ∧
      levelsOfItems items ≤ depth
  | [], _, _, known => by
    cases known
    exact ⟨rfl, rfl, Nat.zero_le _⟩
  | item :: rest, depth, _, known => by
    obtain ⟨first, isFirst, known⟩ := Option.bind_eq_some_iff.mp known
    obtain ⟨later, areLater, known⟩ := Option.bind_eq_some_iff.mp known
    cases known
    obtain ⟨levels, numbers, bound⟩ := parts_of_toJson? item isFirst
    obtain ⟨levels', numbers', bound'⟩ := parts_of_itemsToJson? rest areLater
    rw [Json.levelsOfItems, Json.numbersOfItems, levels, levels', numbers, numbers']
    exact ⟨rfl, rfl, Nat.max_le.mpr ⟨bound, bound'⟩⟩

theorem parts_of_membersToJson? : ∀ (members : List (Option String × WrittenJson)) {depth : Nat}
    {values : List (String × Json)}, membersToJson? depth members = some values →
    Json.levelsOfMembers values = levelsOfMembers members ∧
      Json.numbersOfMembers values = numbersOfMembers members ∧ levelsOfMembers members ≤ depth
  | [], _, _, known => by
    cases known
    exact ⟨rfl, rfl, Nat.zero_le _⟩
  | (name?, value) :: rest, depth, _, known => by
    obtain ⟨name, isName, known⟩ := Option.bind_eq_some_iff.mp known
    obtain ⟨first, isFirst, known⟩ := Option.bind_eq_some_iff.mp known
    obtain ⟨later, areLater, known⟩ := Option.bind_eq_some_iff.mp known
    cases known
    obtain ⟨levels, numbers, bound⟩ := parts_of_toJson? value isFirst
    obtain ⟨levels', numbers', bound'⟩ := parts_of_membersToJson? rest areLater
    rw [Json.levelsOfMembers, Json.numbersOfMembers, levels, levels', numbers, numbers']
    exact ⟨rfl, rfl, Nat.max_le.mpr ⟨bound, bound'⟩⟩

end

end WrittenJson

namespace Json

namespace Reader

section Items

variable {α : Type} {item : Reader α} {holds : α → Prop} {closing : Char} {chars rest : List Char} {values : List α}

theorem forall_of_itemsUntil (each : ∀ chars value rest, item chars = some (value, rest) → holds value)
    {steps : Nat} (read : itemsUntil closing item steps chars = some (values, rest)) :
    ∀ value ∈ values, holds value := by
  induction steps generalizing chars values with
  | zero => cases read
  | succ steps ih =>
    obtain ⟨⟨first, left⟩, isFirst, read⟩ := Option.bind_eq_some_iff.mp read
    have held := each _ _ _ isFirst
    simp only at read
    split at read
    · cases read
    · split at read
      · cases read
        exact fun value member => List.mem_singleton.mp member ▸ held
      · rw [Option.ite_none_right_eq_some] at read
        obtain ⟨⟨later, left⟩, areLater, read⟩ := Option.bind_eq_some_iff.mp read.2
        cases read
        exact List.forall_mem_cons.mpr ⟨held, ih areLater⟩

theorem forall_of_sequence (each : ∀ chars value rest, item chars = some (value, rest) → holds value)
    (read : sequence closing item chars = some (values, rest)) : ∀ value ∈ values, holds value := by
  rw [sequence] at read
  split at read
  · cases read
  · split at read
    · cases read
      exact List.forall_mem_nil _
    · exact forall_of_itemsUntil each read

end Items

/-- The numbers that are known have the form of numbers that were read. -/
def HasCanonical (written : WrittenJson) : Prop := ∀ number ∈ written.numbers, number.IsCanonical

theorem eq_of_word {text chars rest : List Char} {value written : WrittenJson}
    (read : word text value chars = some (written, rest)) : written = value := by
  obtain ⟨_, _, same⟩ := Option.map_eq_some_iff.mp read
  exact (Prod.mk.inj same).1.symm

theorem hasCanonical_of_scalar {chars rest : List Char} {written : WrittenJson}
    (read : scalar chars = some (written, rest)) : HasCanonical written := by
  have plain : ∀ written : WrittenJson, written.numbers = [] → HasCanonical written := by
    intro written none number among
    rw [none] at among
    cases among
  cases chars with
  | nil => cases read
  | cons c chars =>
    simp only [scalar] at read
    split at read
    · obtain ⟨_, _, same⟩ := Option.map_eq_some_iff.mp read
      cases same
      exact plain _ rfl
    · exact plain _ (eq_of_word read ▸ rfl)
    · exact plain _ (eq_of_word read ▸ rfl)
    · exact plain _ (eq_of_word read ▸ rfl)
    · obtain ⟨⟨value?, left⟩, found, same⟩ := Option.map_eq_some_iff.mp read
      cases same
      intro number among
      have isKnown : value? = some number := Option.mem_toList.mp among
      rw [isKnown] at found
      exact isCanonical_numberLiteral found

theorem hasCanonical_of_member {value : Reader WrittenJson} {chars rest : List Char}
    {found : Option String × WrittenJson}
    (each : ∀ chars written rest, value chars = some (written, rest) → HasCanonical written)
    (read : member value chars = some (found, rest)) : HasCanonical found.2 := by
  obtain ⟨⟨name, _⟩, _, read⟩ := Option.bind_eq_some_iff.mp read
  obtain ⟨_, _, read⟩ := Option.bind_eq_some_iff.mp read
  obtain ⟨⟨written, _⟩, isValue, read⟩ := Option.bind_eq_some_iff.mp read
  cases read
  exact each _ _ _ isValue

/-- All numbers of what is read are in the form in which numbers are read. -/
theorem hasCanonical_of_value {depth : Nat} {chars rest : List Char} {written : WrittenJson}
    (read : Reader.value depth chars = some (written, rest)) : HasCanonical written := by
  induction depth generalizing chars rest written with
  | zero => exact hasCanonical_of_scalar read
  | succ depth ih =>
    unfold Reader.value at read
    split at read
    · obtain ⟨⟨items, left⟩, inside, same⟩ := Option.map_eq_some_iff.mp read
      cases same
      intro number among
      obtain ⟨item, member, among⟩ := WrittenJson.mem_numbersOfItems.mp among
      exact forall_of_sequence (fun _ _ _ => ih) inside item member number among
    · obtain ⟨⟨members, left⟩, inside, same⟩ := Option.map_eq_some_iff.mp read
      cases same
      have each : ∀ member ∈ members, HasCanonical member.2 :=
        forall_of_sequence (fun _ _ _ => hasCanonical_of_member fun _ _ _ => ih) inside
      intro number among
      obtain ⟨member, listed, among⟩ := WrittenJson.mem_numbersOfMembers.mp among
      exact each member listed number among
    · exact hasCanonical_of_scalar read

theorem hasCanonical_of_written? {text : String} {written : WrittenJson} (writes : written? text = some written) :
    HasCanonical written := by
  rw [written?, whole] at writes
  split at writes
  · next read =>
    rw [Option.ite_none_right_eq_some, Option.some.injEq] at writes
    rw [← writes.2]
    exact hasCanonical_of_value read
  · cases writes

end Reader

theorem isCanonical_of_parseWritten? {depth : Nat} {text : String} {value : Json}
    (reads : parseWritten? depth text = some value) : ∀ number ∈ value.numbers, number.IsCanonical := by
  obtain ⟨written, writes, known⟩ := Option.bind_eq_some_iff.mp reads
  rw [(written.parts_of_toJson? known).2.1]
  exact Reader.hasCanonical_of_written? writes

section Unwrapping

variable {read? : String → Option Json} {fits : JsonNumber → Prop}

/-- No object in it is taken for a text, and its numbers are fit. -/
structure Clean (fits : JsonNumber → Prop) (value : Json) : Prop where
  plain : value.isPlain
  fit : ∀ number ∈ value.numbers, fits number

mutual

/-- If the texts inside a value are for clean values and its own numbers are fit, it comes to a clean value. -/
theorem clean_of_unwrap? (each : ∀ text found, read? text = some found → Clean fits found) :
    ∀ (value : Json) {found : Json}, (∀ number ∈ value.numbers, fits number) →
      unwrap? read? value = some found → Clean fits found
  | .null, _, fit, unwrapped | .bool _, _, fit, unwrapped | .number _, _, fit, unwrapped
  | .string _, _, fit, unwrapped => by
    cases unwrapped
    exact ⟨rfl, fit⟩
  | .array items, _, fit, unwrapped => by
    obtain ⟨others, inside, rfl⟩ := Option.map_eq_some_iff.mp unwrapped
    have cleaned := clean_of_unwrapItems? each items fit inside
    refine ⟨isPlain_array_iff.mpr fun item member => (cleaned item member).plain, fun number among => ?_⟩
    obtain ⟨item, member, among⟩ := mem_numbersOfItems.mp among
    exact (cleaned item member).fit number among
  | .object members, _, fit, unwrapped => by
    rw [unwrap?] at unwrapped
    split at unwrapped
    · obtain ⟨text, _, read⟩ := Option.bind_eq_some_iff.mp unwrapped
      exact each text _ read
    · next ordinary =>
      obtain ⟨others, inside, rfl⟩ := Option.map_eq_some_iff.mp unwrapped
      have cleaned := clean_of_unwrapMembers? each members fit inside
      have sameKeys := isRaw_congr (congrArg List.head? (keys_unwrapMembers? inside))
      refine ⟨isPlain_object_iff.mpr ⟨?_, fun member listed => (cleaned member listed).plain⟩,
        fun number among => ?_⟩
      · rw [sameKeys, Bool.eq_false_of_not_eq_true ordinary]
      · obtain ⟨member, listed, among⟩ := mem_numbersOfMembers.mp among
        exact (cleaned member listed).fit number among

theorem clean_of_unwrapItems? (each : ∀ text found, read? text = some found → Clean fits found) :
    ∀ (items : List Json) {found : List Json}, (∀ number ∈ numbersOfItems items, fits number) →
      unwrapItems? read? items = some found → ∀ item ∈ found, Clean fits item
  | [], _, _, unwrapped => by
    cases unwrapped
    exact List.forall_mem_nil _
  | item :: rest, _, fit, unwrapped => by
    obtain ⟨first, isFirst, unwrapped⟩ := Option.bind_eq_some_iff.mp unwrapped
    obtain ⟨later, areLater, unwrapped⟩ := Option.bind_eq_some_iff.mp unwrapped
    cases unwrapped
    simp only [numbersOfItems, List.mem_append] at fit
    exact List.forall_mem_cons.mpr
      ⟨clean_of_unwrap? each item (fun number among => fit number (.inl among)) isFirst,
        clean_of_unwrapItems? each rest (fun number among => fit number (.inr among)) areLater⟩

theorem clean_of_unwrapMembers? (each : ∀ text found, read? text = some found → Clean fits found) :
    ∀ (members : List (String × Json)) {found : List (String × Json)},
      (∀ number ∈ numbersOfMembers members, fits number) → unwrapMembers? read? members = some found →
      ∀ member ∈ found, Clean fits member.2
  | [], _, _, unwrapped => by
    cases unwrapped
    exact List.forall_mem_nil _
  | (name, value) :: rest, _, fit, unwrapped => by
    obtain ⟨first, isFirst, unwrapped⟩ := Option.bind_eq_some_iff.mp unwrapped
    obtain ⟨later, areLater, unwrapped⟩ := Option.bind_eq_some_iff.mp unwrapped
    cases unwrapped
    simp only [numbersOfMembers, List.mem_append] at fit
    exact List.forall_mem_cons.mpr
      ⟨clean_of_unwrap? each value (fun number among => fit number (.inl among)) isFirst,
        clean_of_unwrapMembers? each rest (fun number among => fit number (.inr among)) areLater⟩

end

end Unwrapping

mutual

/-- Settling keeps a value within its levels and to its numbers, and leaves no name repeated. -/
theorem regular_settle {fits : JsonNumber → Prop} : ∀ (value : Json) {depth : Nat}, value.levels ≤ depth →
    (∀ number ∈ value.numbers, fits number) → (settle value).Regular fits depth
  | .null, _, _, _ => .null
  | .bool value, _, _, _ => .bool value
  | .number value, _, _, fit => .number (fit value (List.mem_singleton_self _))
  | .string value, _, _, _ => .string value
  | .array _, 0, nested, _ | .object _, 0, nested, _ => by
    rw [levels] at nested
    cases nested
  | .array items, depth + 1, nested, fit =>
    .array (regular_settleItems items (Nat.le_of_succ_le_succ nested) fit)
  | .object members, depth + 1, nested, fit => by
    refine .ofMap fun name value found => ?_
    rw [OrderedMap.get?_ofList] at found
    exact regular_settleMembers members (Nat.le_of_succ_le_succ nested) fit (name, value)
      (List.mem_reverse.mp (Entries.mem_of_get? found))

theorem regular_settleItems {fits : JsonNumber → Prop} : ∀ (items : List Json) {depth : Nat},
    levelsOfItems items ≤ depth → (∀ number ∈ numbersOfItems items, fits number) →
    ∀ item ∈ settleItems items, item.Regular fits depth
  | [], _, _, _ => List.forall_mem_nil _
  | item :: rest, depth, nested, fit => by
    rw [levelsOfItems, Nat.max_le] at nested
    simp only [numbersOfItems, List.mem_append] at fit
    rw [settleItems, List.forall_mem_cons]
    exact ⟨regular_settle item nested.1 fun number member => fit number (.inl member),
      regular_settleItems rest nested.2 fun number member => fit number (.inr member)⟩

theorem regular_settleMembers {fits : JsonNumber → Prop} : ∀ (members : List (String × Json)) {depth : Nat},
    levelsOfMembers members ≤ depth → (∀ number ∈ numbersOfMembers members, fits number) →
    ∀ member ∈ settleMembers members, member.2.Regular fits depth
  | [], _, _, _ => List.forall_mem_nil _
  | (name, value) :: rest, depth, nested, fit => by
    rw [levelsOfMembers, Nat.max_le] at nested
    simp only [numbersOfMembers, List.mem_append] at fit
    rw [settleMembers, List.forall_mem_cons]
    exact ⟨regular_settle value nested.1 fun number member => fit number (.inl member),
      regular_settleMembers rest nested.2 fun number member => fit number (.inr member)⟩

end

/-- What settling leaves of a clean value. -/
theorem Clean.settle {fits : JsonNumber → Prop} {value : Json} (clean : Clean fits value) :
    Clean fits (Json.settle value) ∧ (Json.settle value).Regular fits value.levels :=
  have regular := regular_settle value (Nat.le_refl _) clean.fit
  ⟨⟨isPlain_settle value clean.plain, regular.fit⟩, regular⟩

/-- What is read from a text is clean, and repeats no name. -/
theorem clean_of_parseWithin? {turns : Nat} {text : String} {value : Json}
    (parsed : parseWithin? turns text = some value) :
    Clean JsonNumber.IsCanonical value ∧ value.Regular JsonNumber.IsCanonical value.levels := by
  induction turns generalizing text value with
  | zero => cases parsed
  | succ turns ih =>
    obtain ⟨whole, known, rfl⟩ := Option.map_eq_some_iff.mp parsed
    obtain ⟨written, reads, unwrapped⟩ := Option.bind_eq_some_iff.mp known
    have clean := clean_of_unwrap? (fun text found parsed => (ih parsed).1) written
      (isCanonical_of_parseWritten? reads) unwrapped
    obtain ⟨clean, regular⟩ := clean.settle
    exact ⟨clean, { regular with nested := Nat.le_refl _ }⟩

theorem isPlain_of_parse? {text : String} {value : Json} (parsed : parse? text = some value) : value.isPlain :=
  (clean_of_parseWithin? parsed).1.plain

/-- What is read from a text is regular, at whatever depth. -/
theorem regular_of_parse? {text : String} {value : Json} (parsed : parse? text = some value) :
    value.Regular JsonNumber.IsCanonical value.levels :=
  (clean_of_parseWithin? parsed).2

/-- The values in an object that was read have numbers in the form in which numbers are read. -/
theorem isCanonical_of_parseMap? {text name : String} {map : OrderedMap Json} {value : Json}
    (parsed : parseMap? text = some map) (found : map.get? name = some value) :
    ∀ number ∈ value.numbers, number.IsCanonical := by
  rw [parseMap?] at parsed
  split at parsed
  · next members reads =>
    obtain ⟨others, unwrapped, rfl⟩ := Option.map_eq_some_iff.mp parsed
    have cleaned := clean_of_unwrapMembers? (fun text found parsed => (clean_of_parseWithin? parsed).1) members
      (isCanonical_of_parseWritten? reads) unwrapped
    rw [← OrderedMap.mem_entries_iff] at found
    have listed := OrderedMap.mem_of_mem_ofList found
    rw [settleMembers_eq_map, List.mem_map] at listed
    obtain ⟨member, listed, same⟩ := listed
    cases same
    exact (cleaned member listed).settle.1.fit
  · cases parsed

section Printed

variable {value : Json}

mutual

@[simp]
theorem levels_asRead (read : JsonNumber → Option JsonNumber) : ∀ value : Json,
    (value.asRead read).levels = value.levels
  | .null | .bool _ | .number _ | .string _ => rfl
  | .array items => congrArg (· + 1) (levels_itemsAsRead read items)
  | .object members => congrArg (· + 1) (levels_membersAsRead read members)

theorem levels_itemsAsRead (read : JsonNumber → Option JsonNumber) : ∀ items : List Json,
    WrittenJson.levelsOfItems (itemsAsRead read items) = levelsOfItems items
  | [] => rfl
  | item :: rest => by
    rw [itemsAsRead, WrittenJson.levelsOfItems, levels_asRead, levels_itemsAsRead, levelsOfItems]

theorem levels_membersAsRead (read : JsonNumber → Option JsonNumber) : ∀ members : List (String × Json),
    WrittenJson.levelsOfMembers (membersAsRead read members) = levelsOfMembers members
  | [] => rfl
  | (name, value) :: rest => by
    rw [membersAsRead, WrittenJson.levelsOfMembers, levels_asRead, levels_membersAsRead, levelsOfMembers]

end

/-- A portable and plain value is read back from its text if it does not nest too deep for the reader, whatever the
depth for which it is portable. -/
theorem parse?_compact {depth : Nat} (portable : value.Portable depth) (plain : value.isPlain)
    (nested : value.levels ≤ depthLimit) : parse? value.compact = some value := by
  rw [parse?, parseWithin?, parseWritten?_compact portable.fit nested, Option.bind_some,
    unwrap?_of_isPlain value plain, Option.map_some, portable.settled]

/-- The text of a portable object is read as what its members come to. -/
theorem parseMap?_compact_of_portable {map : OrderedMap Json} {depth : Nat} (portable : (ofMap map).Portable depth)
    (nested : (ofMap map).levels ≤ depthLimit) : parseMap? (ofMap map).compact = mapOf? map.entries := by
  rw [parseMap?, parseWritten?_compact portable.fit nested]
  rfl

/-- The same of an object that is always meant as one. -/
theorem parseMap?_compact {map : OrderedMap Json} {depth : Nat} (portable : (ofMap map).Portable depth)
    (plain : ∀ name value, map.get? name = some value → value.isPlain) (nested : (ofMap map).levels ≤ depthLimit) :
    parseMap? (ofMap map).compact = some map := by
  have plain : membersArePlain map.entries := membersArePlain_iff.mpr fun member listed =>
    plain member.1 member.2 (OrderedMap.mem_entries_iff.mp listed)
  rw [parseMap?_compact_of_portable portable nested, mapOf?, unwrapMembers?_of_plain map.entries plain,
    Option.map_some]
  exact congrArg some (OrderedMap.eq_of_entries (object.inj portable.settled))

/-- What is read for the text of a value, before anything is put in the place of objects in it. -/
theorem exists_parseWritten?_compact (value : Json) (depth : Nat) : ∃ read : JsonNumber → Option JsonNumber,
    parseWritten? depth value.compact = (value.asRead read).toJson? depth := by
  choose read reads using JsonNumber.exists_readsAs_toText
  exact ⟨read, by rw [parseWritten?, written?_compact_asRead fun number _ => reads number, Option.bind_some]⟩

theorem parseWritten?_compact_eq_none {depth : Nat} (deep : depth < value.levels) :
    parseWritten? depth value.compact = none := by
  obtain ⟨read, reads⟩ := exists_parseWritten?_compact value depth
  rw [reads, Option.eq_none_iff_forall_not_mem]
  intro found known
  obtain ⟨_, _, bound⟩ := (value.asRead read).parts_of_toJson? known
  rw [levels_asRead] at bound
  omega

/-- A value that nests too deep is not read back. -/
theorem parse?_compact_eq_none (deep : depthLimit < value.levels) : parse? value.compact = none := by
  rw [parse?, parseWithin?, parseWritten?_compact_eq_none deep, Option.bind_none, Option.map_none]

end Printed

/-- No value begins with a dollar sign. -/
theorem parse?_eq_none_of_dollar (rest : List Char) : parse? (.ofList ('$' :: rest)) = none := by
  have unread : ∀ depth, Reader.value depth ('$' :: rest) = none := by
    intro depth
    cases depth <;> rfl
  have unwritten : written? (.ofList ('$' :: rest)) = none := by
    rw [written?, Reader.whole, String.toList_ofList, show Reader.skipSpace ('$' :: rest) = '$' :: rest from rfl,
      unread]
  rw [parse?, parseWithin?, parseWritten?, unwritten]
  rfl

end Json

end LtiPlatform
