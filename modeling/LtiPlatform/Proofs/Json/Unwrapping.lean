import LtiPlatform.Proofs.Json.Parsed

namespace LtiPlatform

namespace WrittenJson

mutual

/-- All texts that are known, other than names. -/
def texts : WrittenJson → List String
  | string value? => value?.toList
  | array items => textsOfItems items
  | object members => textsOfMembers members
  | _ => []

def textsOfItems : List WrittenJson → List String
  | [] => []
  | item :: rest => item.texts ++ textsOfItems rest

def textsOfMembers : List (Option String × WrittenJson) → List String
  | [] => []
  | (_, value) :: rest => value.texts ++ textsOfMembers rest

end

theorem textsOfItems_eq_flatMap (items : List WrittenJson) : textsOfItems items = items.flatMap texts := by
  induction items with
  | nil => rfl
  | cons item rest ih => rw [textsOfItems, ih, List.flatMap_cons]

theorem textsOfMembers_eq_flatMap (members : List (Option String × WrittenJson)) :
    textsOfMembers members = members.flatMap fun member => member.2.texts := by
  induction members with
  | nil => rfl
  | cons member rest ih => rw [textsOfMembers, ih, List.flatMap_cons]

end WrittenJson

namespace Json

mutual

/-- All texts, other than names. -/
def texts : Json → List String
  | string value => [value]
  | array items => textsOfItems items
  | object members => textsOfMembers members
  | _ => []

def textsOfItems : List Json → List String
  | [] => []
  | item :: rest => item.texts ++ textsOfItems rest

def textsOfMembers : List (String × Json) → List String
  | [] => []
  | (_, value) :: rest => value.texts ++ textsOfMembers rest

end

end Json

namespace WrittenJson

mutual

theorem texts_of_toJson? : ∀ (written : WrittenJson) {depth : Nat} {value : Json},
    written.toJson? depth = some value → value.texts = written.texts
  | .null, _, _, known | .bool _, _, _, known => by
    cases known
    rfl
  | .number value?, _, _, known => by
    obtain ⟨_, _, rfl⟩ := Option.map_eq_some_iff.mp known
    rfl
  | .string value?, _, _, known => by
    obtain ⟨_, rfl, rfl⟩ := Option.map_eq_some_iff.mp known
    rfl
  | .array items, _, _, known => by
    rw [toJson?, Option.ite_none_left_eq_some] at known
    obtain ⟨_, inside, rfl⟩ := Option.map_eq_some_iff.mp known.2
    exact texts_of_itemsToJson? items inside
  | .object members, _, _, known => by
    rw [toJson?, Option.ite_none_left_eq_some] at known
    obtain ⟨_, inside, rfl⟩ := Option.map_eq_some_iff.mp known.2
    exact texts_of_membersToJson? members inside

theorem texts_of_itemsToJson? : ∀ (items : List WrittenJson) {depth : Nat} {values : List Json},
    itemsToJson? depth items = some values → Json.textsOfItems values = textsOfItems items
  | [], _, _, known => by
    cases known
    rfl
  | item :: rest, _, _, known => by
    obtain ⟨_, isFirst, known⟩ := Option.bind_eq_some_iff.mp known
    obtain ⟨_, areLater, known⟩ := Option.bind_eq_some_iff.mp known
    cases known
    rw [Json.textsOfItems, textsOfItems, texts_of_toJson? item isFirst, texts_of_itemsToJson? rest areLater]

theorem texts_of_membersToJson? : ∀ (members : List (Option String × WrittenJson)) {depth : Nat}
    {values : List (String × Json)}, membersToJson? depth members = some values →
    Json.textsOfMembers values = textsOfMembers members
  | [], _, _, known => by
    cases known
    rfl
  | (_, value) :: rest, _, _, known => by
    obtain ⟨_, _, known⟩ := Option.bind_eq_some_iff.mp known
    obtain ⟨_, isFirst, known⟩ := Option.bind_eq_some_iff.mp known
    obtain ⟨_, areLater, known⟩ := Option.bind_eq_some_iff.mp known
    cases known
    rw [Json.textsOfMembers, textsOfMembers, texts_of_toJson? value isFirst, texts_of_membersToJson? rest areLater]

end

end WrittenJson

namespace Json

namespace Reader

open LtiPlatform.Reader

variable {α : Type} {texts : α → List String} {chars rest : List Char}

/-- A reader leaves no more than it was given, and less by more than any of the texts it found. -/
def Spends (texts : α → List String) (reader : Reader α) : Prop :=
  ∀ {chars value rest}, reader chars = some (value, rest) →
    rest.length ≤ chars.length ∧ ∀ text ∈ texts value, text.length + rest.length < chars.length

theorem length_skipSpace_le (chars : List Char) : (skipSpace chars).length ≤ chars.length :=
  List.length_dropWhile_le ..

theorem length_of_expect {c : Char} (read : expect c chars = some rest) : rest.length ≤ chars.length := by
  cases chars with
  | nil => cases read
  | cons head left =>
    rw [expect, Option.ite_none_right_eq_some] at read
    cases read.2
    exact Nat.le_succ _

theorem length_of_hexDigits {count value : Nat} (read : hexDigits count chars = some (value, rest)) :
    rest.length ≤ chars.length := by
  induction count generalizing value rest with
  | zero =>
    cases read
    exact Nat.le_refl _
  | succ count ih =>
    obtain ⟨⟨_, left⟩, before, read⟩ := Option.bind_eq_some_iff.mp read
    cases left with
    | nil => cases read
    | cons c left =>
      obtain ⟨_, _, same⟩ := Option.map_eq_some_iff.mp read
      cases same
      exact Nat.le_of_succ_le (ih before)

/-- The code after a backslash takes a character at least. -/
theorem length_of_escape {code : Nat} (read : escape chars = some (code, rest)) : rest.length < chars.length := by
  cases chars with
  | nil => cases read
  | cons c left =>
    simp only [escape] at read
    split at read
    case h_9 => exact Nat.lt_succ_of_le (length_of_hexDigits read)
    case h_10 => cases read
    all_goals
      cases read
      exact Nat.lt_succ_self _

theorem length_of_characters? {codes : List Nat} {found : List Char} (known : characters? codes = some found) :
    found.length ≤ codes.length := by
  fun_induction characters? codes generalizing found with
  | case1 =>
    cases known
    exact Nat.le_refl _
  | case2 => cases known
  | case3 =>
    cases known
    exact Nat.le_refl _
  | case4 code next later high low ih =>
    obtain ⟨others, areOthers, rfl⟩ := Option.map_eq_some_iff.mp known
    exact Nat.le_succ_of_le (Nat.succ_le_succ (ih areOthers))
  | case5 => cases known
  | case6 => cases known
  | case7 code next later high low ih =>
    obtain ⟨others, areOthers, rfl⟩ := Option.map_eq_some_iff.mp known
    exact Nat.succ_le_succ (ih areOthers)

/-- A text has at most as many characters as codes, and each code was written with one at least. -/
theorem spends_stringBody {steps : Nat} {read : List Nat} {text? : Option String}
    (found : stringBody steps read chars = some (text?, rest)) :
    rest.length ≤ chars.length ∧
      ∀ text ∈ text?.toList, text.length + rest.length < read.length + chars.length := by
  induction steps generalizing read chars with
  | zero => cases found
  | succ steps ih =>
    cases chars with
    | nil => cases found
    | cons c left =>
      rw [stringBody] at found
      split at found
      · cases found
        refine ⟨Nat.le_succ _, fun text known => ?_⟩
        obtain ⟨chars, areChars, rfl⟩ := Option.map_eq_some_iff.mp (Option.mem_toList.mp known)
        have bound := length_of_characters? areChars
        rw [List.length_reverse] at bound
        rw [String.length_ofList, List.length_cons]
        omega
      · have spent : ∃ code after, after.length ≤ left.length ∧
            stringBody steps (code :: read) after = some (text?, rest) := by
          split at found
          · obtain ⟨⟨code, after⟩, escaped, found⟩ := Option.bind_eq_some_iff.mp found
            exact ⟨code, after, Nat.le_of_lt (length_of_escape escaped), found⟩
          · rw [Option.ite_none_left_eq_some] at found
            exact ⟨_, left, Nat.le_refl _, found.2⟩
        obtain ⟨code, after, spent, found⟩ := spent
        obtain ⟨shorter, texts⟩ := ih found
        simp only [List.length_cons] at texts ⊢
        exact ⟨by omega, fun text known => by have := texts text known; omega⟩

theorem length_of_digits {found : List Char} (read : digits chars = (found, rest)) : rest.length ≤ chars.length := by
  rw [digits, List.span_eq_takeWhile_dropWhile] at read
  rw [← (Prod.mk.inj read).2]
  exact List.length_dropWhile_le ..

theorem length_of_wholeDigits {found : List Char} (read : wholeDigits chars = some (found, rest)) :
    rest.length ≤ chars.length := by
  rw [wholeDigits] at read
  split at read
  · cases read
  · cases read
  · exact length_of_digits (Option.some.inj read)

theorem length_of_fractionDigits {found : List Char} (read : fractionDigits chars = some (found, rest)) :
    rest.length ≤ chars.length := by
  unfold fractionDigits at read
  split at read
  · split at read
    · cases read
    · exact Nat.le_succ_of_le (length_of_digits (Option.some.inj read))
  · cases read
    exact Nat.le_refl _

theorem length_of_signedExponent {found : Int} (read : signedExponent chars = some (found, rest)) :
    rest.length ≤ chars.length := by
  simp only [signedExponent] at read
  split at read
  · cases read
  · next same =>
    cases read
    have shorter := length_of_digits same
    split at shorter
    · exact Nat.le_succ_of_le shorter
    · exact Nat.le_succ_of_le shorter
    · exact shorter

theorem length_of_exponentPart {found : Option Int} (read : exponentPart chars = some (found, rest)) :
    rest.length ≤ chars.length := by
  unfold exponentPart at read
  split at read
  · obtain ⟨_, isExponent, same⟩ := Option.map_eq_some_iff.mp read
    cases same
    exact Nat.le_succ_of_le (length_of_signedExponent isExponent)
  · obtain ⟨_, isExponent, same⟩ := Option.map_eq_some_iff.mp read
    cases same
    exact Nat.le_succ_of_le (length_of_signedExponent isExponent)
  · cases read
    exact Nat.le_refl _

theorem length_of_unsignedLiteral {negative : Bool} {found : Option JsonNumber}
    (read : unsignedLiteral negative chars = some (found, rest)) : rest.length ≤ chars.length := by
  obtain ⟨⟨_, left⟩, whole, read⟩ := Option.bind_eq_some_iff.mp read
  obtain ⟨⟨_, left'⟩, fraction, read⟩ := Option.bind_eq_some_iff.mp read
  obtain ⟨⟨_, left''⟩, exponent, read⟩ := Option.bind_eq_some_iff.mp read
  cases read
  exact Nat.le_trans (length_of_exponentPart exponent)
    (Nat.le_trans (length_of_fractionDigits fraction) (length_of_wholeDigits whole))

theorem length_of_numberLiteral {found : Option JsonNumber} (read : numberLiteral chars = some (found, rest)) :
    rest.length ≤ chars.length := by
  cases chars with
  | nil => cases read
  | cons c chars =>
    by_cases sign : c = '-'
    · rw [sign, numberLiteral_negative] at read
      exact Nat.le_succ_of_le (length_of_unsignedLiteral read)
    · rw [numberLiteral_positive sign] at read
      exact length_of_unsignedLiteral read

theorem length_of_word {text : List Char} {value found : WrittenJson}
    (read : word text value chars = some (found, rest)) : rest.length ≤ chars.length := by
  obtain ⟨left, isRest, same⟩ := Option.map_eq_some_iff.mp read
  cases same
  rw [List.isPrefixOf?_eq_some_iff_append_eq] at isRest
  rw [← isRest, List.length_append]
  exact Nat.le_add_left ..

theorem spends_scalar : Spends WrittenJson.texts scalar := by
  intro chars value rest read
  cases chars with
  | nil => cases read
  | cons c left =>
    have textless : ∀ {text known}, WrittenJson.texts known = [] → word text known left = some (value, rest) →
        rest.length ≤ (c :: left).length ∧ ∀ text ∈ value.texts, text.length + rest.length < (c :: left).length := by
      intro text known none read
      rw [eq_of_word read, none]
      exact ⟨Nat.le_succ_of_le (length_of_word read), List.forall_mem_nil _⟩
    simp only [scalar] at read
    split at read
    · obtain ⟨⟨text?, _⟩, isText, same⟩ := Option.map_eq_some_iff.mp read
      cases same
      obtain ⟨shorter, texts⟩ := spends_stringBody isText
      simp only [List.length_nil, Nat.zero_add] at texts
      exact ⟨Nat.le_succ_of_le shorter, fun text known => Nat.lt_succ_of_lt (texts text known)⟩
    · exact textless rfl read
    · exact textless rfl read
    · exact textless rfl read
    · obtain ⟨⟨number, left⟩, isNumber, same⟩ := Option.map_eq_some_iff.mp read
      cases same
      exact ⟨length_of_numberLiteral isNumber, List.forall_mem_nil _⟩

section Items

variable {item : Reader α} {closing : Char}

theorem spends_itemsUntil (each : Spends texts item) (steps : Nat) :
    Spends (fun values => values.flatMap texts) (itemsUntil closing item steps) := by
  induction steps with
  | zero => exact fun read => by cases read
  | succ steps ih =>
    intro chars values rest read
    obtain ⟨⟨first, left⟩, isFirst, read⟩ := Option.bind_eq_some_iff.mp read
    obtain ⟨shorter, each'⟩ := each isFirst
    have skipped := length_skipSpace_le chars
    have skipped' := length_skipSpace_le left
    simp only at read
    split at read
    · cases read
    next after behind =>
    rw [behind, List.length_cons] at skipped'
    split at read
    · cases read
      refine ⟨by omega, fun text known => ?_⟩
      have spent := each' text (by simpa using known)
      omega
    · rw [Option.ite_none_right_eq_some] at read
      obtain ⟨⟨later, _⟩, areLater, read⟩ := Option.bind_eq_some_iff.mp read.2
      simp only [Option.some.injEq, Prod.mk.injEq] at read
      obtain ⟨rfl, rfl⟩ := read
      obtain ⟨shorter', later'⟩ := ih areLater
      refine ⟨by omega, fun text known => ?_⟩
      simp only [List.flatMap_cons, List.mem_append] at known
      rcases known with known | known
      · have spent := each' text known
        omega
      · have spent := later' text known
        omega

theorem spends_sequence (each : Spends texts item) :
    Spends (fun values => values.flatMap texts) (sequence closing item) := by
  intro chars values rest read
  have skipped := length_skipSpace_le chars
  rw [sequence] at read
  split at read
  · cases read
  next c after behind =>
  rw [behind, List.length_cons] at skipped
  split at read
  · cases read
    exact ⟨by omega, List.forall_mem_nil _⟩
  · obtain ⟨shorter, inside⟩ := spends_itemsUntil each _ read
    rw [List.length_cons] at shorter inside
    exact ⟨by omega, fun text known => Nat.lt_of_lt_of_le (inside text known) skipped⟩

end Items

theorem spends_member {value : Reader WrittenJson} (each : Spends WrittenJson.texts value) :
    Spends (fun found => found.2.texts) (member value) := by
  intro chars found rest read
  obtain ⟨⟨_, afterName⟩, isName, read⟩ := Option.bind_eq_some_iff.mp read
  obtain ⟨opened, isOpened, isName⟩ := Option.bind_eq_some_iff.mp isName
  obtain ⟨afterColon, isColon, read⟩ := Option.bind_eq_some_iff.mp read
  obtain ⟨⟨written, _⟩, isValue, read⟩ := Option.bind_eq_some_iff.mp read
  cases read
  have opening := length_of_expect isOpened
  have name := (spends_stringBody isName).1
  have colon := Nat.le_trans (length_of_expect isColon) (length_skipSpace_le _)
  have skipped := length_skipSpace_le afterColon
  obtain ⟨shorter, texts⟩ := each isValue
  exact ⟨by omega, fun text known => by have := texts text known; omega⟩

/-- Every text in a value is shorter than what the value was read from. -/
theorem spends_value (depth : Nat) : Spends WrittenJson.texts (Reader.value depth) := by
  induction depth with
  | zero => exact spends_scalar
  | succ depth ih =>
    intro chars written rest read
    unfold Reader.value at read
    split at read
    · obtain ⟨⟨items, _⟩, inside, same⟩ := Option.map_eq_some_iff.mp read
      cases same
      obtain ⟨shorter, texts⟩ := spends_sequence ih inside
      rw [WrittenJson.texts, WrittenJson.textsOfItems_eq_flatMap]
      exact ⟨Nat.le_succ_of_le shorter, fun text known => Nat.lt_succ_of_lt (texts text known)⟩
    · obtain ⟨⟨members, _⟩, inside, same⟩ := Option.map_eq_some_iff.mp read
      cases same
      obtain ⟨shorter, texts⟩ := spends_sequence (spends_member ih) inside
      rw [WrittenJson.texts, WrittenJson.textsOfMembers_eq_flatMap]
      exact ⟨Nat.le_succ_of_le shorter, fun text known => Nat.lt_succ_of_lt (texts text known)⟩
    · exact spends_scalar read

end Reader

theorem length_lt_of_parseWritten? {depth : Nat} {source text : String} {value : Json}
    (reads : parseWritten? depth source = some value) (known : text ∈ value.texts) : text.length < source.length := by
  obtain ⟨written, writes, isKnown⟩ := Option.bind_eq_some_iff.mp reads
  rw [written.texts_of_toJson? isKnown] at known
  rw [written?, Reader.whole] at writes
  split at writes
  · next read =>
    rw [Option.ite_none_right_eq_some, Option.some.injEq] at writes
    obtain ⟨_, rfl⟩ := writes
    have bound := (Reader.spends_value _ read).2 text known
    have skipped := Reader.length_skipSpace_le source.toList
    rw [String.length_toList] at skipped
    omega
  · cases writes

section Agreeing

variable {read? other? : String → Option Json}

mutual

/-- Only what is read for the texts of a value matters. -/
theorem unwrap?_congr : ∀ (value : Json), (∀ text ∈ value.texts, read? text = other? text) →
    unwrap? read? value = unwrap? other? value
  | .null, _ | .bool _, _ | .number _, _ | .string _, _ => rfl
  | .array items, agree => by
    rw [unwrap?, unwrap?, unwrapItems?_congr items agree]
  | .object members, agree => by
    rw [unwrap?, unwrap?, unwrapMembers?_congr members agree]
    congr 1
    unfold rawText?
    split
    · next text => exact agree text (List.mem_singleton_self _)
    · rfl

theorem unwrapItems?_congr : ∀ (items : List Json), (∀ text ∈ textsOfItems items, read? text = other? text) →
    unwrapItems? read? items = unwrapItems? other? items
  | [], _ => rfl
  | item :: rest, agree => by
    rw [textsOfItems, List.forall_mem_append] at agree
    rw [unwrapItems?, unwrapItems?, unwrap?_congr item agree.1, unwrapItems?_congr rest agree.2]

theorem unwrapMembers?_congr : ∀ (members : List (String × Json)),
    (∀ text ∈ textsOfMembers members, read? text = other? text) →
    unwrapMembers? read? members = unwrapMembers? other? members
  | [], _ => rfl
  | (_, value) :: rest, agree => by
    rw [textsOfMembers, List.forall_mem_append] at agree
    rw [unwrapMembers?, unwrapMembers?, unwrap?_congr value agree.1, unwrapMembers?_congr rest agree.2]

end

end Agreeing

/-- More turns than a text has characters are as good as any other number of them. -/
theorem parseWithin?_eq {turns others : Nat} {text : String} (enough : text.length < turns)
    (enough' : text.length < others) : parseWithin? turns text = parseWithin? others text := by
  induction turns generalizing others text with
  | zero => omega
  | succ turns ih =>
    obtain ⟨others, rfl⟩ := Nat.exists_eq_succ_of_ne_zero (Nat.ne_zero_of_lt enough')
    rw [parseWithin?, parseWithin?]
    cases reads : parseWritten? depthLimit text with
    | none => rfl
    | some value =>
      rw [Option.bind_some, Option.bind_some, unwrap?_congr value fun inner known => ?_]
      have shorter := length_lt_of_parseWritten? reads known
      exact ih (by omega) (by omega)

/-- Reading a text takes as many turns as it needs. -/
theorem parse?_eq (text : String) :
    parse? text = ((parseWritten? depthLimit text).bind (unwrap? parse?)).map settle := by
  rw [parse?, parseWithin?]
  cases reads : parseWritten? depthLimit text with
  | none => rfl
  | some value =>
    rw [Option.bind_some, Option.bind_some, unwrap?_congr value fun inner known => ?_]
    exact parseWithin?_eq (length_lt_of_parseWritten? reads known) (Nat.lt_succ_self _)

end Json

end LtiPlatform
