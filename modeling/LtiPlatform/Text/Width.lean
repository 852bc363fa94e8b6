import LtiPlatform.Text.EastAsianWide
import LtiPlatform.Text.Emoji
import LtiPlatform.Text.ZeroWidth

namespace LtiPlatform.Text

/-- The part of a ligature that is read first, from its end. -/
inductive Ligature where
  /-- An Alef, which a Lam before it takes up. -/
  | alef
  /-- A Hebrew Lamed, which a joined Alef takes up. -/
  | lamed
  /-- A Buginese Ya, and the same behind the vowel of its ligature. -/
  | ya
  | yaWithVowel
  /-- A Tifinagh consonant, and the same behind the joiner. -/
  | consonant
  | joinedConsonant
  /-- The second of two Lisu tones. -/
  | tone
  /-- An Old Turkic I, which a joined letter takes up. -/
  | oldTurkic
  /-- A Khmer letter that is written below another one. -/
  | khmer
  /-- The vowel signs of Kirat Rai, which join the signs before them. -/
  | vowelE
  | vowelAi
deriving DecidableEq, Repr, Inhabited

/-- What stands behind a character, as far as the width of the character hangs on it. -/
inductive Sequel where
  | plain
  | lineFeed
  | skinTone
  /-- One letter of a flag, or several. -/
  | flag (several : Bool)
  | emoji
  /-- An emoji with a joiner before it, and what may stand between the joiner and the emoji before. -/
  | joined
  | joinedKeycap
  | joinedFlag (letters : Nat)
  | joinedTag (letters digits : Nat)
  | ligature (last : Ligature) (isJoined : Bool)
deriving DecidableEq, Repr, Inhabited

/-- How a variation selector asks for an emoji to be shown. -/
inductive Presentation where
  | text
  | picture
deriving DecidableEq, Repr, Inhabited

/-- What stands behind a character, and the selector directly behind it. -/
structure Following where
  sequel : Sequel := .plain
  selector : Option Presentation := none
deriving DecidableEq, Repr, Inhabited

namespace Width

def isWithin (first last : Nat) (c : Char) : Bool := first ≤ c.toNat && c.toNat ≤ last

def joiner : Char := '\u200d'

def isTifinaghConsonant (c : Char) : Bool := isWithin 0x2d31 0x2d65 c || c == '\u2d6f'

def isTagLetter (c : Char) : Bool := isWithin 0xe0061 0xe007a c

def isTagDigit (c : Char) : Bool := isWithin 0xe0030 0xe0039 c

def alefRanges : CodeRanges :=
  [(0x622, 0x623), (0x625, 0x625), (0x627, 0x627), (0x671, 0x673), (0x675, 0x675), (0x773, 0x774),
    (0x870, 0x882)]

def lamRanges : CodeRanges :=
  [(0x644, 0x644), (0x6b5, 0x6b8), (0x76a, 0x76a), (0x8a6, 0x8a6), (0x8c7, 0x8c7)]

/-- Khmer letters that take no room of their own below another letter. -/
def khmerRanges : CodeRanges :=
  [(0x1780, 0x1782), (0x1784, 0x1787), (0x1789, 0x178c), (0x178e, 0x1793), (0x1795, 0x1798),
    (0x179b, 0x179d), (0x17a0, 0x17a0), (0x17a2, 0x17a2), (0x17a7, 0x17a7), (0x17ab, 0x17ac),
    (0x17af, 0x17af)]

/-- Characters that do not part a ligature. -/
def connectingRanges : CodeRanges :=
  [(0x34f, 0x34f), (0x17b4, 0x17b5), (0x180b, 0x180d), (0x180f, 0x180f), (0xfe00, 0xfe0f),
    (0xe0100, 0xe01ef)]

/-- The ligature that a character may be the last part of. -/
def ligature? (c : Char) : Option Ligature :=
  if c = '\u05dc' then some .lamed
  else if alefRanges.contains c then some .alef
  else if khmerRanges.contains c then some .khmer
  else if c = '\u1a10' then some .ya
  else if isTifinaghConsonant c then some .consonant
  else if isWithin 0xa4fc 0xa4fd c then some .tone
  else if c.toNat = 0x10c03 then some .oldTurkic
  else if c.toNat = 0x16d67 then some .vowelE
  else if c.toNat = 0x16d68 then some .vowelAi
  else none

/-- The width of a character by itself, and what it is for the character before it. -/
def alone (c : Char) : Int × Following :=
  if c = '\ufe0e' then (0, ⟨.plain, some .text⟩)
  else if c = '\ufe0f' then (0, ⟨.plain, some .picture⟩)
  else if isFlagLetter c then (1, ⟨.flag false, none⟩)
  else if isSkinTone c then (2, ⟨.skinTone, none⟩)
  else if emojiPresentationRanges.contains c then (2, ⟨.emoji, none⟩)
  else
    match ligature? c with
    | some ligature => (1, ⟨.ligature ligature false, none⟩)
    | none =>
      -- These two are written as several signs.
      if c = '\u17d8' then (3, {})
      else if c = '\u17a4' then (2, {})
      else if isZeroWidth c then (0, {})
      else (if isWide c then 2 else 1, {})

/-- The width of a character that belongs to the ligature behind it, if it does. -/
def withinLigature? (last : Ligature) (isJoined : Bool) (c : Char) : Option (Int × Sequel) :=
  match last with
  | .alef =>
    if lamRanges.contains c then some (0, .plain)
    else if isTransparent c then some (0, .ligature .alef isJoined)
    else none
  | _ =>
    if c = joiner then some (0, .ligature last true)
    else if connectingRanges.contains c then some (0, .ligature last isJoined)
    else
      match last with
      | .lamed => if isJoined && c == '\u05d0' then some (0, .plain) else none
      | .ya => if isJoined && c == '\u1a17' then some (0, .ligature .yaWithVowel true) else none
      | .yaWithVowel => if c = '\u1a15' then some (0, .plain) else none
      | .consonant =>
        if c = tifinaghJoiner then some (1, .ligature .joinedConsonant true)
        else if isJoined && isTifinaghConsonant c then some (0, .plain)
        else none
      | .joinedConsonant => if isTifinaghConsonant c then some (-1, .plain) else none
      | .tone => if isWithin 0xa4f8 0xa4fb c then some (0, .plain) else none
      | .oldTurkic => if isJoined && c.toNat == 0x10c32 then some (0, .plain) else none
      | .khmer => if c = '\u17d2' then some (-1, .plain) else none
      | .vowelE =>
        if c.toNat = 0x16d63 ∨ c.toNat = 0x16d69 then some (0, .plain)
        else if c.toNat = 0x16d67 then some (0, .ligature .vowelAi false)
        else if c.toNat = 0x16d68 then some (1, .ligature .vowelE false)
        else none
      | .vowelAi => if c.toNat = 0x16d63 then some (0, .plain) else none
      | .alef => none

/-- The width of a character that belongs to the emoji behind it, if it does. Of joined flags every
second letter makes up for the one behind it. -/
def withinEmoji? (sequel : Sequel) (c : Char) : Option (Int × Sequel) :=
  match sequel with
  | .skinTone =>
    if skinToneBaseRanges.contains c then some (0, .emoji)
    else if c = joiner then some (0, .joined)
    else none
  | .flag several =>
    if isFlagLetter c then some (1, .flag true)
    else if several && c == joiner then some (0, .joined)
    else none
  | .emoji => if c = joiner then some (0, .joined) else none
  | .joined =>
    if c = '\u20e3' then some (0, .joinedKeycap)
    else if isFlagLetter c then some (1, .joinedFlag 1)
    else if isSkinTone c then some (0, .skinTone)
    else if c.toNat = 0xe007f then some (0, .joinedTag 0 0)
    else if emojiPresentationRanges.contains c then some (0, .emoji)
    else none
  | .joinedFlag letters =>
    if isFlagLetter c then some (if letters % 2 = 1 then -1 else 3, .joinedFlag (letters + 1))
    else if 2 ≤ letters && c == joiner then some (0, .joined)
    else none
  | .joinedTag letters digits =>
    if isTagLetter c && digits == 0 && letters < 6 then some (0, .joinedTag (letters + 1) 0)
    else if isTagDigit c && digits < 3 && letters ≤ 4 then some (0, .joinedTag 0 (digits + 1))
    else if c.toNat = 0x1f3f4 ∧ (3 ≤ letters ∨ digits = 3) then some (0, .emoji)
    else none
  | _ => none

/-- Behind a selector only a ligature counts, and behind one for pictures also a joined emoji. -/
def beforeSelector (presentation : Presentation) (sequel : Sequel) : Following :=
  match sequel, presentation with
  | .ligature _ _, _ => ⟨sequel, some presentation⟩
  | .joined, .picture => ⟨sequel, some presentation⟩
  | .joinedKeycap, .picture => ⟨sequel, some presentation⟩
  | _, _ => ⟨.plain, some presentation⟩

/-- The width of a character before the given sequel, without a selector between them. -/
def beforeSequel (sequel : Sequel) (c : Char) : Int × Following :=
  let joint :=
    match sequel with
    | .ligature last isJoined => withinLigature? last isJoined c
    | _ => withinEmoji? sequel c
  match joint with
  | some (width, sequel) => (width, ⟨sequel, none⟩)
  | none => alone c

/-- The width that a character adds to what follows it, and what it is for the one before it. -/
def step (c : Char) (following : Following) : Int × Following :=
  let isJoint := following.sequel == .joined || following.sequel == .joinedKeycap
  let hasPicture := textPresentationRanges.contains c || textVariantRanges.contains c
  if following.selector = some .picture ∧ hasPicture then
    (if isJoint then 0 else 2, ⟨.emoji, none⟩)
  else if c ≤ '\u00a0' then
    if c = '\n' then (1, ⟨.lineFeed, none⟩)
    else (if c == '\r' && following.sequel == .lineFeed then 0 else 1, {})
  else if c = '\ufe0f' then (0, beforeSelector .picture following.sequel)
  else if c = '\ufe0e' then (0, beforeSelector .text following.sequel)
  else if following.selector = some .text ∧ textVariantRanges.contains c then (1, {})
  else beforeSequel following.sequel c

end Width

def width (text : String) : Nat :=
  let measured : Int × Following := text.toList.foldr
    (fun c (total, following) =>
      let (added, following) := Width.step c following
      (total + added, following))
    (0, {})
  measured.1.toNat

end LtiPlatform.Text
