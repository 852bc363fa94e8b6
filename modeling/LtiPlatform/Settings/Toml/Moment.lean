import LtiPlatform.Text.Reader

namespace LtiPlatform.Toml

structure Date where
  year : Nat
  month : Nat
  day : Nat
deriving DecidableEq, Repr, Inhabited

/-- A time of day. The fraction of a second is in billionths. -/
structure Time where
  hour : Nat
  minute : Nat
  second : Option Nat
  fraction : Option Nat
deriving DecidableEq, Repr, Inhabited

/-- The distance from universal time, in minutes. -/
inductive Offset where
  | zulu
  | ahead (distance : Int)
deriving DecidableEq, Repr, Inhabited

/-- A date, a time of day, or both and perhaps their distance from universal time. -/
structure Moment where
  date : Option Date := none
  time : Option Time := none
  offset : Option Offset := none
deriving DecidableEq, Repr, Inhabited

open LtiPlatform.Reader

/-- A number of so many digits, padded with zeros. -/
def padded (count value : Nat) : List Char :=
  let digits := Nat.toDigits 10 value
  List.replicate (count - digits.length) '0' ++ digits

/-- The number written by so many digits. -/
def fixed : Nat → Reader Nat
  | 0, chars => some (0, chars)
  | count + 1, chars => do
    let (value, rest) ← fixed count chars
    match rest with
    | c :: rest => if Text.isDigit c then some (10 * value + (c.toNat - '0'.toNat), rest) else none
    | [] => none

namespace Date

def isLeapYear (year : Nat) : Bool := year % 4 == 0 && (year % 100 != 0 || year % 400 == 0)

def daysOf (year month : Nat) : Nat :=
  if month = 2 then (if isLeapYear year then 29 else 28)
  else if month = 4 ∨ month = 6 ∨ month = 9 ∨ month = 11 then 30
  else 31

def isValid (date : Date) : Bool :=
  1 ≤ date.month && date.month ≤ 12 && 1 ≤ date.day && date.day ≤ daysOf date.year date.month

def read : Reader Date := fun chars => do
  let (year, rest) ← fixed 4 chars
  let (month, rest) ← fixed 2 (← expect '-' rest)
  let (day, rest) ← fixed 2 (← expect '-' rest)
  let date : Date := ⟨year, month, day⟩
  if date.isValid then some (date, rest) else none

def toChars (date : Date) : List Char :=
  padded 4 date.year ++ '-' :: padded 2 date.month ++ '-' :: padded 2 date.day

end Date

namespace Time

/-- A second of sixty is one that was put in. -/
def isValid (time : Time) : Bool :=
  time.hour ≤ 23 && time.minute ≤ 59 && time.second.all (· ≤ 60)

/-- The fraction behind the point, of which nine digits count. -/
def fractionPart : Reader (Option Nat) := fun chars =>
  match chars with
  | '.' :: rest =>
    match digits rest with
    | ([], _) => none
    | (found, rest) =>
      let kept := found.take 9
      some (some (Text.digitsValue (kept ++ List.replicate (9 - kept.length) '0')), rest)
  | _ => some (none, chars)

def read : Reader Time := fun chars => do
  let (hour, rest) ← fixed 2 chars
  let (minute, rest) ← fixed 2 (← expect ':' rest)
  let (time, rest) ←
    match rest with
    | ':' :: rest => do
      let (second, rest) ← fixed 2 rest
      let (fraction, rest) ← fractionPart rest
      some (⟨hour, minute, some second, fraction⟩, rest)
    | _ => some ((⟨hour, minute, none, none⟩ : Time), rest)
  if time.isValid then some (time, rest) else none

/-- The digits of a fraction without the zeros at its end. -/
def fractionDigits (fraction : Nat) : List Char :=
  let kept := ((padded 9 fraction).reverse.dropWhile (· == '0')).reverse
  if kept.isEmpty then ['0'] else kept

def toChars (time : Time) : List Char :=
  padded 2 time.hour ++ ':' :: padded 2 time.minute ++
    time.second.elim [] (fun second => ':' :: padded 2 second) ++
    time.fraction.elim [] (fun fraction => '.' :: fractionDigits fraction)

end Time

namespace Offset

def read : Reader Offset := fun chars => do
  let distance (sign : Int) (chars : List Char) : Option (Offset × List Char) := do
    let (hours, rest) ← fixed 2 chars
    let (minutes, rest) ← fixed 2 (← expect ':' rest)
    if hours ≤ 23 ∧ minutes ≤ 59 then some (.ahead (sign * (60 * hours + minutes)), rest) else none
  match chars with
  | 'Z' :: rest => some (.zulu, rest)
  | 'z' :: rest => some (.zulu, rest)
  | '+' :: rest => distance 1 rest
  | '-' :: rest => distance (-1) rest
  | _ => none

def toChars : Offset → List Char
  | zulu => ['Z']
  | ahead distance =>
    (if distance < 0 then '-' else '+') :: padded 2 (distance.natAbs / 60) ++ ':' ::
      padded 2 (distance.natAbs % 60)

end Offset

namespace Moment

/-- Whether the characters have the shape of a date, be it one of the calendar or not. -/
def isDate (chars : List Char) : Bool :=
  let shape := "0000-00-00".toList
  shape.length == chars.length &&
    (shape.zip chars).all fun (s, c) => if s == '0' then Text.isDigit c else s == c

/-- A date, and perhaps a time behind it and an offset behind that. -/
def ofDated? (chars : List Char) : Option Moment := do
  let (date, rest) ← Date.read chars
  match rest with
  | [] => some { date := some date }
  | mark :: rest =>
    if mark ≠ 'T' ∧ mark ≠ 't' ∧ mark ≠ ' ' then none
    else
      let (time, rest) ← Time.read rest
      match rest with
      | [] => some { date := some date, time := some time }
      | _ =>
        let (offset, rest) ← Offset.read rest
        if rest.isEmpty then some ⟨some date, some time, some offset⟩ else none

def ofTime? (chars : List Char) : Option Moment := do
  let (time, rest) ← Time.read chars
  if rest.isEmpty then some { time := some time } else none

def ofChars? (chars : List Char) : Option Moment :=
  if isDate (chars.take 10) then ofDated? chars else ofTime? chars

def toChars (moment : Moment) : List Char :=
  moment.date.elim [] Date.toChars ++
    (if moment.date.isSome && moment.time.isSome then ['T'] else []) ++
    moment.time.elim [] Time.toChars ++ moment.offset.elim [] Offset.toChars

end Moment

end LtiPlatform.Toml
