namespace LtiPlatform.Text

/-- The characters with the Unicode property White_Space. -/
def isBlank (c : Char) : Bool :=
  let code := c.toNat
  (9 ≤ code && code ≤ 13) || code == 0x20 || code == 0x85 || code == 0xA0 || code == 0x1680 ||
    (0x2000 ≤ code && code ≤ 0x200A) || code == 0x2028 || code == 0x2029 || code == 0x202F ||
    code == 0x205F || code == 0x3000

def dropBlanks (chars : List Char) : List Char := chars.dropWhile isBlank

def trimChars (chars : List Char) : List Char :=
  (dropBlanks (dropBlanks chars).reverse).reverse

/-- Removes white space at both ends. -/
def trim (text : String) : String := .ofList (trimChars text.toList)

/-- The pieces between the separators, one more than there are separators. -/
def splitChars (separator : Char) : List Char → List (List Char)
  | [] => [[]]
  | c :: rest =>
    if c = separator then [] :: splitChars separator rest
    else
      match splitChars separator rest with
      | [] => [[c]]
      | piece :: pieces => (c :: piece) :: pieces

def split (separator : Char) (text : String) : List String :=
  (splitChars separator text.toList).map .ofList

/-- A carriage return that ends a line belongs to the line break. -/
def dropReturn (line : List Char) : List Char :=
  if line.getLast? = some '\r' then line.dropLast else line

/-- Lines end at a line feed; the text after the last one is a line only if there is any. A
carriage return is dropped only where a line feed followed it. -/
def lineChars (chars : List Char) : List (List Char) :=
  let pieces := splitChars '\n' chars
  let last := pieces.getLast?.getD []
  pieces.dropLast.map dropReturn ++ if last.isEmpty then [] else [last]

def lines (text : String) : List String := (lineChars text.toList).map .ofList

def isPrefix (start text : String) : Bool := start.toList.isPrefixOf text.toList

/-- What follows `start`, if the text begins with it. -/
def dropPrefix? (start text : String) : Option String :=
  (start.toList.isPrefixOf? text.toList).map .ofList

def joinWith (separator : String) (pieces : List String) : String :=
  separator.intercalate pieces

/-- Order by code points, which is also the order of the UTF-8 bytes. -/
def sort (texts : List String) : List String :=
  texts.mergeSort fun left right => decide (left ≤ right)

/-- ASCII letters are put in lower case, all else is kept. -/
def asciiLowercase (text : String) : String := .ofList (text.toList.map Char.toLower)

def isDigit (c : Char) : Bool := '0' ≤ c && c ≤ '9'

/-- The number written by decimal digits, most significant first. -/
def digitsValue (digits : List Char) : Nat :=
  digits.foldl (fun value c => 10 * value + (c.toNat - '0'.toNat)) 0

end LtiPlatform.Text
