import Mathlib.Data.List.Forall2
import Mathlib.Data.List.Basic
import Mathlib.Data.List.TakeDrop
import Mathlib.Tactic.Common
import LtiPlatform.Proofs.Json.Quoting

namespace LtiPlatform

namespace Json

mutual

/-- The levels of arrays and objects. -/
def levels : Json → Nat
  | array items => levelsOfItems items + 1
  | object members => levelsOfMembers members + 1
  | _ => 0

def levelsOfItems : List Json → Nat
  | [] => 0
  | item :: rest => max item.levels (levelsOfItems rest)

def levelsOfMembers : List (String × Json) → Nat
  | [] => 0
  | (_, value) :: rest => max value.levels (levelsOfMembers rest)

end

mutual

/-- All numbers of a value. -/
def numbers : Json → List JsonNumber
  | number value => [value]
  | array items => numbersOfItems items
  | object members => numbersOfMembers members
  | _ => []

def numbersOfItems : List Json → List JsonNumber
  | [] => []
  | item :: rest => item.numbers ++ numbersOfItems rest

def numbersOfMembers : List (String × Json) → List JsonNumber
  | [] => []
  | (_, value) :: rest => value.numbers ++ numbersOfMembers rest

end

mutual

/-- What is read where the value was printed, if each number in it is read as `read` says. -/
def asRead (read : JsonNumber → Option JsonNumber) : Json → WrittenJson
  | null => .null
  | bool value => .bool value
  | number value => .number (read value)
  | string value => .string (some value)
  | array items => .array (itemsAsRead read items)
  | object members => .object (membersAsRead read members)

def itemsAsRead (read : JsonNumber → Option JsonNumber) : List Json → List WrittenJson
  | [] => []
  | item :: rest => item.asRead read :: itemsAsRead read rest

def membersAsRead (read : JsonNumber → Option JsonNumber) :
    List (String × Json) → List (Option String × WrittenJson)
  | [] => []
  | (name, value) :: rest => (some name, value.asRead read) :: membersAsRead read rest

end

namespace Reader

open LtiPlatform.Reader

/-- What may follow a value: nothing, or the next character of the array or object around it. -/
def Ends (rest : List Char) : Prop := ∀ c ∈ rest.head?, c = ',' ∨ c = ']' ∨ c = '\x7d'

/-- No value begins like this. -/
def isBetween (c : Char) : Bool := isSpace c || c == ',' || c == ']' || c == '\x7d'

/-- The text is read as the value, and all of it, whatever follows. -/
structure ReadsAs {α : Type} (reader : Reader α) (text : List Char) (value : α) : Prop where
  starts : ∃ c rest, text = c :: rest ∧ isBetween c = false
  reads : ∀ rest, Ends rest → reader (text ++ rest) = some (value, rest)

/-- The text is read as the value, and all of it, where something that fits follows. -/
structure ReadsBefore {α : Type} (fits : List Char → Prop) (reader : Reader α) (text : List Char) (value : α) :
    Prop where
  starts : ∃ c rest, text = c :: rest ∧ isBetween c = false
  reads : ∀ rest, fits rest → reader (text ++ rest) = some (value, rest)

/-- Nothing but white space. -/
def Blank (gap : List Char) : Prop := ∀ c ∈ gap, isSpace c = true

theorem ends_nil : Ends [] := fun c first => by cases first

theorem ends_cons {c : Char} {rest : List Char} (ends : c = ',' ∨ c = ']' ∨ c = '\x7d') : Ends (c :: rest) :=
  fun c' first => by cases first; exact ends

variable {α : Type} {fits : List Char → Prop} {item : Reader α} {gap lead tail text rest : List Char} {value : α}
  {closing : Char}

theorem skipSpace_cons {c : Char} (solid : isSpace c = false) : skipSpace (c :: rest) = c :: rest :=
  List.dropWhile_cons_of_neg (by simp [solid])

theorem blank_nil : Blank [] := fun _ member => absurd member List.not_mem_nil

theorem Blank.skipSpace_append (blank : Blank gap) (rest : List Char) :
    skipSpace (gap ++ rest) = skipSpace rest :=
  List.dropWhile_append_of_pos blank

theorem ReadsAs.readsBefore (reads : ReadsAs item text value) : ReadsBefore Ends item text value :=
  ⟨reads.starts, reads.reads⟩

theorem ReadsBefore.skipSpace (reads : ReadsBefore fits item text value) (rest : List Char) :
    skipSpace (text ++ rest) = text ++ rest := by
  obtain ⟨c, tail, rfl, between⟩ := reads.starts
  simp only [isBetween, Bool.or_eq_false_iff] at between
  exact skipSpace_cons between.1.1.1

theorem ReadsAs.skipSpace (reads : ReadsAs item text value) (rest : List Char) :
    skipSpace (text ++ rest) = text ++ rest := reads.readsBefore.skipSpace rest

theorem length_le_intercalate (c : Char) (gap : List Char) (pieces : List (List Char)) :
    pieces.length ≤ ((c :: gap).intercalate pieces).length + 1 := by
  induction pieces with
  | nil => exact Nat.zero_le _
  | cons piece pieces ih =>
    cases pieces with
    | nil => simp
    | cons next pieces =>
      rw [List.intercalate_cons_cons]
      simp only [List.length_cons, List.length_append] at ih ⊢
      omega

/-- Commas separate pieces, with white space in front of the pieces and behind the last of them. -/
theorem itemsUntil_spaced (closes : closing = ']' ∨ closing = '\x7d') (blankLead : Blank lead)
    (blankGap : Blank gap) (blankTail : Blank tail) {pieces : List (List Char)} {values : List α}
    (comma : ∀ rest, fits (',' :: rest)) (close : fits (tail ++ closing :: rest))
    (each : List.Forall₂ (ReadsBefore fits item) pieces values) (nonempty : pieces ≠ [])
    {steps : Nat} (enough : pieces.length ≤ steps) :
    itemsUntil closing item steps (lead ++ ((',' :: gap).intercalate pieces ++ (tail ++ closing :: rest))) =
      some (values, rest) := by
  have solid : isSpace closing = false ∧ closing ≠ ',' := by
    rcases closes with rfl | rfl <;> decide
  induction each generalizing lead steps with
  | nil => exact absurd rfl nonempty
  | @cons piece value pieces values first later ih =>
    obtain ⟨steps, rfl⟩ := Nat.exists_eq_succ_of_ne_zero (Nat.ne_of_gt (Nat.lt_of_lt_of_le (by simp) enough))
    cases pieces with
    | nil =>
      cases later
      rw [List.intercalate_singleton, itemsUntil, blankLead.skipSpace_append, first.skipSpace, first.reads _ close]
      simp only [Option.bind_eq_bind, Option.bind_some, blankTail.skipSpace_append, skipSpace_cons solid.1,
        if_true]
    | cons next pieces =>
      have ih := ih blankGap (by simp) (Nat.le_of_succ_le_succ enough)
      rw [List.intercalate_cons_cons, List.append_assoc, List.append_assoc, itemsUntil,
        blankLead.skipSpace_append, first.skipSpace, List.cons_append, first.reads _ (comma _)]
      simp only [Option.bind_eq_bind, Option.bind_some, skipSpace_cons (show isSpace ',' = false by decide),
        solid.2.symm, if_false, if_true, ih]

theorem sequence_spaced (closes : closing = ']' ∨ closing = '\x7d') (blankLead : Blank lead)
    (blankGap : Blank gap) (blankTail : Blank tail) {pieces : List (List Char)} {values : List α}
    (comma : ∀ rest, fits (',' :: rest)) (close : fits (tail ++ closing :: rest))
    (each : List.Forall₂ (ReadsBefore fits item) pieces values) (nonempty : pieces ≠ []) :
    sequence closing item (lead ++ ((',' :: gap).intercalate pieces ++ (tail ++ closing :: rest))) =
      some (values, rest) := by
  have between : isBetween closing := by rcases closes with rfl | rfl <;> decide
  cases each with
  | nil => exact absurd rfl nonempty
  | @cons piece value pieces values first later =>
    have bound := length_le_intercalate ',' gap (piece :: pieces)
    have enough : (piece :: pieces).length ≤
        ((',' :: gap).intercalate (piece :: pieces) ++ (tail ++ closing :: rest)).length := by
      simp only [List.length_append, List.length_cons] at bound ⊢
      omega
    have read := itemsUntil_spaced closes blank_nil blankGap blankTail comma close (.cons first later)
      (List.cons_ne_nil _ _) enough
    obtain ⟨c, more, rfl, notBetween⟩ := first.starts
    have starts : ∃ more', (',' :: gap).intercalate ((c :: more) :: pieces) = c :: more' := by
      cases pieces with
      | nil => exact ⟨_, rfl⟩
      | cons next pieces => exact ⟨_, by rw [List.intercalate_cons_cons]; rfl⟩
    obtain ⟨more', starts⟩ := starts
    have other : c ≠ closing := by
      rintro rfl
      rw [between] at notBetween
      cases notBetween
    simp only [isBetween, Bool.or_eq_false_iff] at notBetween
    rw [starts, List.nil_append] at read
    rw [sequence, blankLead.skipSpace_append, starts, List.cons_append, skipSpace_cons notBetween.1.1.1]
    simp only [if_neg other]
    exact read

theorem sequence_nil (closes : closing = ']' ∨ closing = '\x7d') (rest : List Char) :
    sequence closing item (closing :: rest) = some ([], rest) := by
  have solid : isSpace closing = false := by rcases closes with rfl | rfl <;> decide
  simp only [sequence, skipSpace_cons solid, if_true]

/-- Pieces that stand close together. -/
theorem sequence_intercalate (closes : closing = ']' ∨ closing = '\x7d') {pieces : List (List Char)}
    {values : List α} (rest : List Char) (each : List.Forall₂ (ReadsAs item) pieces values) :
    sequence closing item ([','].intercalate pieces ++ closing :: rest) = some (values, rest) := by
  by_cases empty : pieces = []
  · cases empty
    cases each
    exact sequence_nil closes rest
  · exact sequence_spaced closes blank_nil blank_nil blank_nil (fun _ => ends_cons (.inl rfl))
      (ends_cons (.inr closes)) (each.imp fun _ _ => ReadsAs.readsBefore) empty

/-- The text of the number is read as `read` says, wherever it stands. -/
def ReadsNumber (read : JsonNumber → Option JsonNumber) (number : JsonNumber) : Prop :=
  ReadsAs scalar number.toText.toList (.number (read number))

/-- Numbers that come back from their text. -/
def ReadsBack (value : JsonNumber) : Prop := ReadsNumber some value

/-- What a number is read as behind its sign. -/
def unsignedLiteral (negative : Bool) : Reader (Option JsonNumber) := fun chars => do
  let (whole, rest) ← wholeDigits chars
  let (fraction, rest) ← fractionDigits rest
  let (exponent, rest) ← exponentPart rest
  some (numberOf negative whole fraction exponent, rest)

theorem numberLiteral_negative (chars : List Char) :
    numberLiteral ('-' :: chars) = unsignedLiteral true chars := rfl

theorem numberLiteral_positive {c : Char} (noSign : c ≠ '-') (chars : List Char) :
    numberLiteral (c :: chars) = unsignedLiteral false (c :: chars) := by
  unfold numberLiteral
  split
  next sign =>
  split at sign
  · next head => exact absurd (List.cons.inj head).1 noSign
  · cases sign
    rfl

theorem scalar_eq_none {c : Char} (starts : c ∉ ['"', 'n', 't', 'f', '-']) (noDigit : Text.isDigit c = false)
    (chars : List Char) : scalar (c :: chars) = none := by
  simp only [List.mem_cons, List.not_mem_nil, or_false, not_or] at starts
  obtain ⟨noQuote, noNull, noTrue, noFalse, noSign⟩ := starts
  have noDigits : digits (c :: chars) = ([], c :: chars) := by
    rw [digits, List.span_eq_takeWhile_dropWhile, List.takeWhile_cons_of_neg (by simp [noDigit]),
      List.dropWhile_cons_of_neg (by simp [noDigit])]
  have noNumber : numberLiteral (c :: chars) = none := by
    rw [numberLiteral_positive noSign, unsignedLiteral, wholeDigits, noDigits]
    rfl
  rw [scalar] <;> simp_all

/-- Where a scalar can be read, a value is read as that scalar. -/
theorem value_of_scalar {written : WrittenJson × List Char} (read : scalar text = some written)
    (depth : Nat) : Reader.value depth text = some written := by
  cases depth with
  | zero => exact read
  | succ depth =>
    unfold Reader.value
    split
    · rw [scalar_eq_none (by decide) (by decide)] at read
      cases read
    · rw [scalar_eq_none (by decide) (by decide)] at read
      cases read
    · exact read

theorem ReadsAs.value_of_scalar {text : List Char} {value : WrittenJson} (reads : ReadsAs scalar text value)
    (depth : Nat) : ReadsAs (Reader.value depth) text value :=
  ⟨reads.starts, fun rest ends => Reader.value_of_scalar (reads.reads rest ends) depth⟩

theorem quote_toList (text : String) :
    (quote text).toList = '"' :: (text.toList.flatMap escapeChar ++ ['"']) := by
  simp [quote]

theorem scalar_quote (text : String) (rest : List Char) :
    scalar ((quote text).toList ++ rest) = some (.string (some text), rest) := by
  have read := stringLiteral_quote text rest
  rw [quote_toList, List.cons_append] at read ⊢
  rw [stringLiteral, expect, if_pos rfl] at read
  exact congrArg (Option.map _) read

theorem readsAs_quote (text : String) : ReadsAs scalar (quote text).toList (.string (some text)) :=
  ⟨⟨_, _, quote_toList text, by decide⟩, fun rest _ => scalar_quote text rest⟩

theorem readsAs_member {value : Reader WrittenJson} {text : String} {written : WrittenJson}
    (reads : ReadsAs value text.toList written) (name : String) :
    ReadsAs (member value) (quote name ++ ":" ++ text).toList (some name, written) := by
  have chars : (quote name ++ ":" ++ text).toList = (quote name).toList ++ ':' :: text.toList := by simp
  refine ⟨?_, fun rest ends => ?_⟩
  · rw [chars, quote_toList]
    exact ⟨_, _, rfl, by decide⟩
  · have colon : isSpace ':' = false := by decide
    rw [chars, List.append_assoc, List.cons_append, member, stringLiteral_quote]
    simp only [Option.bind_eq_bind, Option.bind_some, skipSpace_cons colon, expect, if_pos,
      reads.skipSpace, reads.reads rest ends]

theorem joined_toList (pieces : List String) :
    (Text.joinWith "," pieces).toList = [','].intercalate (pieces.map String.toList) := by
  rw [Text.joinWith, String.toList_intercalate]
  rfl

variable {read : JsonNumber → Option JsonNumber}

mutual

theorem readsAs_compact : ∀ (value : Json) {depth : Nat}, value.levels ≤ depth →
    (∀ number ∈ value.numbers, ReadsNumber read number) →
    ReadsAs (Reader.value depth) value.compact.toList (value.asRead read)
  | .null, depth, _, _ => by
    refine ReadsAs.value_of_scalar ⟨⟨_, _, rfl, by decide⟩, fun rest _ => ?_⟩ depth
    rfl
  | .bool truth, depth, _, _ => by
    refine ReadsAs.value_of_scalar ?_ depth
    cases truth
    · exact ⟨⟨_, _, rfl, by decide⟩, fun rest _ => rfl⟩
    · exact ⟨⟨_, _, rfl, by decide⟩, fun rest _ => rfl⟩
  | .number value, depth, _, back =>
    ReadsAs.value_of_scalar (back value (List.mem_singleton_self _)) depth
  | .string text, depth, _, _ => (readsAs_quote text).value_of_scalar depth
  | .array items, 0, nested, _ => by
    rw [levels] at nested
    cases nested
  | .array items, depth + 1, nested, back => by
    have each := readsAs_compactItems items (Nat.le_of_succ_le_succ nested) back
    have chars : (compact (.array items)).toList =
        '[' :: ([','].intercalate ((compactItems items).map String.toList) ++ [']']) := by
      simp [compact, joined_toList]
    refine ⟨⟨_, _, chars, by decide⟩, fun rest _ => ?_⟩
    rw [chars, List.cons_append, List.append_assoc, List.singleton_append, Reader.value,
      sequence_intercalate (.inl rfl) rest each]
    rfl
  | .object members, 0, nested, _ => by
    rw [levels] at nested
    cases nested
  | .object members, depth + 1, nested, back => by
    have each := readsAs_compactMembers members (Nat.le_of_succ_le_succ nested) back
    have chars : (compact (.object members)).toList =
        '\x7b' :: ([','].intercalate ((compactMembers members).map String.toList) ++ ['\x7d']) := by
      simp [compact, joined_toList]
    refine ⟨⟨_, _, chars, by decide⟩, fun rest _ => ?_⟩
    rw [chars, List.cons_append, List.append_assoc, List.singleton_append, Reader.value,
      sequence_intercalate (.inr rfl) rest each]
    rfl

theorem readsAs_compactItems : ∀ (items : List Json) {depth : Nat}, levelsOfItems items ≤ depth →
    (∀ number ∈ numbersOfItems items, ReadsNumber read number) →
    List.Forall₂ (ReadsAs (Reader.value depth)) ((compactItems items).map String.toList)
      (itemsAsRead read items)
  | [], _, _, _ => .nil
  | item :: rest, depth, nested, back => by
    rw [levelsOfItems, Nat.max_le] at nested
    simp only [numbersOfItems, List.mem_append] at back
    exact .cons (readsAs_compact item nested.1 fun number member => back number (.inl member))
      (readsAs_compactItems rest nested.2 fun number member => back number (.inr member))

theorem readsAs_compactMembers : ∀ (members : List (String × Json)) {depth : Nat},
    levelsOfMembers members ≤ depth → (∀ number ∈ numbersOfMembers members, ReadsNumber read number) →
    List.Forall₂ (ReadsAs (member (Reader.value depth))) ((compactMembers members).map String.toList)
      (membersAsRead read members)
  | [], _, _, _ => .nil
  | (name, value) :: rest, depth, nested, back => by
    rw [levelsOfMembers, Nat.max_le] at nested
    simp only [numbersOfMembers, List.mem_append] at back
    exact .cons (readsAs_member (readsAs_compact value nested.1 fun number member =>
        back number (.inl member)) name)
      (readsAs_compactMembers rest nested.2 fun number member => back number (.inr member))

end

end Reader

mutual

theorem toJson?_ofJson : ∀ (value : Json) {depth : Nat}, value.levels ≤ depth →
    (WrittenJson.ofJson value).toJson? depth = some value
  | .null, _, _ => rfl
  | .bool _, _, _ => rfl
  | .number _, _, _ => rfl
  | .string _, _, _ => rfl
  | .array items, depth, nested => by
    rw [levels] at nested
    rw [WrittenJson.ofJson, WrittenJson.toJson?, if_neg (by omega),
      itemsToJson?_ofItems items (show levelsOfItems items ≤ depth - 1 by omega), Option.map_some]
  | .object members, depth, nested => by
    rw [levels] at nested
    rw [WrittenJson.ofJson, WrittenJson.toJson?, if_neg (by omega),
      membersToJson?_ofMembers members (show levelsOfMembers members ≤ depth - 1 by omega),
      Option.map_some]

theorem itemsToJson?_ofItems : ∀ (items : List Json) {depth : Nat}, levelsOfItems items ≤ depth →
    WrittenJson.itemsToJson? depth (WrittenJson.ofItems items) = some items
  | [], _, _ => rfl
  | item :: rest, depth, nested => by
    rw [levelsOfItems, Nat.max_le] at nested
    simp only [WrittenJson.ofItems, WrittenJson.itemsToJson?, toJson?_ofJson item nested.1,
      itemsToJson?_ofItems rest nested.2, Option.bind_eq_bind, Option.bind_some]

theorem membersToJson?_ofMembers : ∀ (members : List (String × Json)) {depth : Nat},
    levelsOfMembers members ≤ depth →
    WrittenJson.membersToJson? depth (WrittenJson.ofMembers members) = some members
  | [], _, _ => rfl
  | (name, value) :: rest, depth, nested => by
    rw [levelsOfMembers, Nat.max_le] at nested
    simp only [WrittenJson.ofMembers, WrittenJson.membersToJson?, toJson?_ofJson value nested.1,
      membersToJson?_ofMembers rest nested.2, Option.bind_eq_bind, Option.bind_some]

end

theorem length_le_joined {separator piece : String} {pieces : List String} (member : piece ∈ pieces) :
    piece.toList.length ≤ (Text.joinWith separator pieces).toList.length := by
  rw [Text.joinWith, String.toList_intercalate]
  induction pieces with
  | nil => cases member
  | cons first pieces ih =>
    cases pieces with
    | nil => simp [List.mem_singleton.mp member]
    | cons next pieces =>
      rw [List.map_cons, List.map_cons, List.intercalate_cons_cons, ← List.map_cons]
      simp only [List.length_append]
      rcases List.mem_cons.mp member with rfl | later
      · omega
      · have bound := ih later
        omega

/-- What is printed gets shorter on every way into a value. It may depend on where the value stands. -/
structure Shrinks {ι : Type} (size : ι → Json → Nat) : Prop where
  array : ∀ place items, ∃ inner bound, bound < size place (.array items) ∧
    ∀ item ∈ items, size inner item ≤ bound
  object : ∀ place members, ∃ inner bound, bound < size place (.object members) ∧
    ∀ member ∈ members, size inner member.2 ≤ bound

mutual

theorem Shrinks.levels_le {ι : Type} {size : ι → Json → Nat} (shrinks : Shrinks size) :
    ∀ (value : Json) (place : ι), value.levels ≤ size place value
  | .null, _ | .bool _, _ | .number _, _ | .string _, _ => Nat.zero_le _
  | .array items, place => by
    obtain ⟨inner, bound, shorter, each⟩ := shrinks.array place items
    have nested := shrinks.levelsOfItems_le items inner bound each
    rw [levels]
    omega
  | .object members, place => by
    obtain ⟨inner, bound, shorter, each⟩ := shrinks.object place members
    have nested := shrinks.levelsOfMembers_le members inner bound each
    rw [levels]
    omega

theorem Shrinks.levelsOfItems_le {ι : Type} {size : ι → Json → Nat} (shrinks : Shrinks size) :
    ∀ (items : List Json) (place : ι) (bound : Nat), (∀ item ∈ items, size place item ≤ bound) →
      levelsOfItems items ≤ bound
  | [], _, _, _ => Nat.zero_le _
  | item :: rest, place, bound, each => by
    have first := shrinks.levels_le item place
    have here := each item (List.mem_cons_self ..)
    have later := shrinks.levelsOfItems_le rest place bound fun item member =>
      each item (List.mem_cons_of_mem _ member)
    rw [levelsOfItems]
    omega

theorem Shrinks.levelsOfMembers_le {ι : Type} {size : ι → Json → Nat} (shrinks : Shrinks size) :
    ∀ (members : List (String × Json)) (place : ι) (bound : Nat),
      (∀ member ∈ members, size place member.2 ≤ bound) → levelsOfMembers members ≤ bound
  | [], _, _, _ => Nat.zero_le _
  | (name, value) :: rest, place, bound, each => by
    have first := shrinks.levels_le value place
    have here : size place value ≤ bound := each (name, value) (List.mem_cons_self ..)
    have later := shrinks.levelsOfMembers_le rest place bound fun member held =>
      each member (List.mem_cons_of_mem _ held)
    rw [levelsOfMembers]
    omega

end

theorem compactItems_eq_map (items : List Json) : compactItems items = items.map compact := by
  induction items with
  | nil => rfl
  | cons item rest ih => rw [compactItems, ih, List.map_cons]

theorem compactMembers_eq_map (members : List (String × Json)) :
    compactMembers members = members.map fun member => quote member.1 ++ ":" ++ member.2.compact := by
  induction members with
  | nil => rfl
  | cons member rest ih => rw [compactMembers, ih, List.map_cons]

theorem shrinks_compact : Shrinks fun (_ : Unit) value => value.compact.toList.length where
  array _ items := by
    refine ⟨(), (Text.joinWith "," (compactItems items)).toList.length, ?_, fun item member => ?_⟩
    · simp only [compact, String.toList_append, List.length_append, String.reduceToList,
        List.length_singleton]
      omega
    · rw [compactItems_eq_map]
      exact length_le_joined (List.mem_map_of_mem member)
  object _ members := by
    refine ⟨(), (Text.joinWith "," (compactMembers members)).toList.length, ?_, fun member held => ?_⟩
    · simp only [compact, String.toList_append, List.length_append, String.reduceToList,
        List.length_singleton]
      omega
    · rw [compactMembers_eq_map]
      refine Nat.le_trans ?_ (length_le_joined (List.mem_map_of_mem held))
      simp only [String.toList_append, List.length_append]
      omega

theorem levels_le_length (value : Json) : value.levels ≤ value.compact.toList.length :=
  shrinks_compact.levels_le value ()

variable {value : Json}

/-- The text that is printed for a value is read as that value, but for how its numbers are read. -/
theorem written?_compact_asRead {read : JsonNumber → Option JsonNumber}
    (numbers : ∀ number ∈ value.numbers, Reader.ReadsNumber read number) :
    written? value.compact = some (value.asRead read) := by
  have nested : value.levels ≤ value.compact.length := by
    rw [← String.length_toList]
    exact levels_le_length value
  have reads := Reader.readsAs_compact value nested numbers
  have start := reads.skipSpace []
  have read := reads.reads [] Reader.ends_nil
  rw [List.append_nil] at start read
  rw [written?, Reader.whole, start, read]
  rfl

mutual

@[simp]
theorem asRead_some : ∀ value : Json, value.asRead some = .ofJson value
  | .null | .bool _ | .number _ | .string _ => rfl
  | .array items => by rw [asRead, WrittenJson.ofJson, itemsAsRead_some]
  | .object members => by rw [asRead, WrittenJson.ofJson, membersAsRead_some]

theorem itemsAsRead_some : ∀ items : List Json, itemsAsRead some items = WrittenJson.ofItems items
  | [] => rfl
  | item :: rest => by rw [itemsAsRead, WrittenJson.ofItems, asRead_some, itemsAsRead_some]

theorem membersAsRead_some : ∀ members : List (String × Json),
    membersAsRead some members = WrittenJson.ofMembers members
  | [] => rfl
  | (name, value) :: rest => by
    rw [membersAsRead, WrittenJson.ofMembers, asRead_some, membersAsRead_some]

end

theorem written?_compact (back : ∀ number ∈ value.numbers, Reader.ReadsBack number) :
    written? value.compact = some (.ofJson value) := by
  rw [written?_compact_asRead back, asRead_some]

theorem parseWritten?_compact (back : ∀ number ∈ value.numbers, Reader.ReadsBack number) {depth : Nat}
    (nested : value.levels ≤ depth) : parseWritten? depth value.compact = some value := by
  rw [parseWritten?, written?_compact back, Option.bind_some, toJson?_ofJson value nested]

end Json

end LtiPlatform
