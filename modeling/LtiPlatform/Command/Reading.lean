import LtiPlatform.Command.Option

namespace LtiPlatform

/-- An option with its value, which is empty where none follows. -/
abbrev GivenOption := CommandOption × String

/-- The options of one word; the last one may still lack its value. -/
structure OptionWord where
  given : List GivenOption := []
  lacking : Option CommandOption := none
deriving DecidableEq, Repr, Inhabited

namespace OptionWord

/-- A long name, with its value behind an equals sign. -/
def ofLong? (options : List CommandOption) (chars : List Char) : Option OptionWord := do
  let name := String.ofList (chars.takeWhile (· ≠ '='))
  let option ← options.find? (·.long == name)
  match option.kind, chars.dropWhile (· ≠ '=') with
  | .switch, [] => some { given := [(option, "")] }
  | .final, [] => some { given := [(option, "")] }
  | .switch, _ => none
  | .final, _ => none
  | _, [] => some { lacking := some option }
  | _, _ :: value => some { given := [(option, .ofList value)] }

/-- Short names; what follows the name of an option with a value is the value. -/
def ofShort? (options : List CommandOption) : List Char → Option OptionWord
  | [] => some {}
  | c :: rest => do
    let option ← options.find? (·.short? == some c)
    match option.kind with
    | .final => some { given := [(option, "")] }
    | .switch =>
      let word ← ofShort? options rest
      some { word with given := (option, "") :: word.given }
    | _ =>
      match rest with
      | [] => some { lacking := some option }
      | '=' :: value => some { given := [(option, .ofList value)] }
      | value => some { given := [(option, .ofList value)] }

end OptionWord

/-- What a list of words gives, in its order. -/
structure Reading where
  given : List GivenOption := []
  operands : List String := []
deriving DecidableEq, Repr, Inhabited

namespace Reading

/-- Whether a word begins an option or ends them. -/
def isOptionLike (word : String) : Bool :=
  match word.toList with
  | '-' :: _ :: _ => true
  | _ => false

def isFinal (given : List GivenOption) : Bool := given.any fun (option, _) => option.kind == .final

def optionWord? (options : List CommandOption) (word : String) : Option OptionWord :=
  match word.toList with
  | '-' :: '-' :: name => OptionWord.ofLong? options name
  | _ :: names => OptionWord.ofShort? options names
  | [] => none

/-- Takes all words apart, or only those before the first operand. -/
def split? (options : List CommandOption) (onlyBefore : Bool) : List String → Option Reading
  | [] => some {}
  | word :: rest =>
    if !isOptionLike word || word == "--" then
      if onlyBefore then some { operands := word :: rest }
      else if word == "--" then some { operands := rest }
      else
        (split? options onlyBefore rest).map fun reading =>
          { reading with operands := word :: reading.operands }
    else
      match optionWord? options word with
      | none => none
      | some ⟨given, none⟩ =>
        if isFinal given then some { given := given }
        else
          (split? options onlyBefore rest).map fun reading =>
            { reading with given := given ++ reading.given }
      | some ⟨given, some option⟩ =>
        match rest with
        | [] => none
        | value :: rest =>
          if isOptionLike value then none
          else
            (split? options onlyBefore rest).map fun reading =>
              { reading with given := given ++ (option, value) :: reading.given }

/-- Whether every option has a value it accepts and none is given too often. -/
def isRegular (reading : Reading) : Bool :=
  let once := (reading.given.map Prod.fst).filter fun option => option.kind != .repeated
  once.Nodup && reading.given.all fun (option, value) => option.accepts value

def ofWords? (options : List CommandOption) (onlyBefore : Bool) (words : List String) :
    Option Reading :=
  (split? options onlyBefore words).filter isRegular

def value? (reading : Reading) (option : CommandOption) : Option String :=
  reading.given.lookup option

def values (reading : Reading) (option : CommandOption) : List String :=
  reading.given.filterMap fun (given, value) => if given = option then some value else none

def has (reading : Reading) (option : CommandOption) : Bool := (reading.value? option).isSome

end Reading

end LtiPlatform
