namespace LtiPlatform

/-- One term with the spellings that it has. -/
structure Term where
  legacy : Option String
  modern : Option String
  handle : Option String
  /-- The LIS v2 URI of the drafts, where it differed. -/
  draft : Option String
deriving DecidableEq, Repr, Inhabited

namespace Term

def isSpelled (term : Term) (text : String) : Bool :=
  term.legacy == some text || term.modern == some text || term.handle == some text

/-- The URI of the drafts, or the final one where they agree. -/
def draftOrModern (term : Term) : Option String := term.draft.or term.modern

end Term

/-- A list of terms. Where two share a spelling, it means the first of them. -/
structure Vocabulary where
  terms : List Term

namespace Vocabulary

def term? (vocabulary : Vocabulary) (text : String) : Option Term :=
  vocabulary.terms.find? (·.isSpelled text)

def toLegacy? (vocabulary : Vocabulary) (text : String) : Option String :=
  (vocabulary.term? text).bind Term.legacy

def toModern? (vocabulary : Vocabulary) (text : String) : Option String :=
  (vocabulary.term? text).bind Term.modern

def toDraft? (vocabulary : Vocabulary) (text : String) : Option String :=
  (vocabulary.term? text).bind Term.draftOrModern

def isLegacy (vocabulary : Vocabulary) (text : String) : Bool :=
  vocabulary.terms.any (·.legacy == some text)

def isModern (vocabulary : Vocabulary) (text : String) : Bool :=
  vocabulary.terms.any (·.modern == some text)

/-- Position by position; what is unknown or absent has no counterpart. -/
def toLegacyAll (vocabulary : Vocabulary) (texts : List (Option String)) :
    List (Option String) :=
  texts.map (·.bind vocabulary.toLegacy?)

def toModernAll (vocabulary : Vocabulary) (texts : List (Option String)) :
    List (Option String) :=
  texts.map (·.bind vocabulary.toModern?)

def toDraftAll (vocabulary : Vocabulary) (texts : List (Option String)) :
    List (Option String) :=
  texts.map (·.bind vocabulary.toDraft?)

end Vocabulary

/-- Root of the LIS v2 vocabulary. -/
def lisV2 : String := "http://purl.imsglobal.org/vocab/lis/v2"

end LtiPlatform
