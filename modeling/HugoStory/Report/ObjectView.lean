import HugoStory.Story
/-! One object in words. Properties are shown by the meaning that the standard library gives
them, and those that are not set are left out. -/
namespace HugoStory.Report.ObjectView

inductive Wording
  | plain
  | objectName
  | word
deriving DecidableEq, Repr

def Wording.show (story : Story) (value : PropertyValue) : Wording → String
  | plain => value.toText
  | objectName => story.nameOf value
  | word => story.wordFor value

def exits : List String := [
  "N to", "NE to", "E to", "SE to", "S to", "SW to", "W to", "NW to", "U to", "D to", "In to",
  "Out to"]

/-- What the same properties mean to an object that is no room. -/
def uses : List (String × Wording) := [
  ("Custom (24)", .plain), ("Key", .objectName), ("Short description when open", .word),
  ("Short description when closed", .word), ("Ignore response", .word),
  ("Order response", .word), ("Contains description", .plain),
  ("Inventory description", .word), ("Description detail", .word), ("Custom (33)", .plain),
  ("Custom (34)", .plain), ("Custom (35)", .plain)]

def line (label text : String) : String := "    " ++ label ++ ": " ++ text ++ "\n"

def firstSet? (object : Object) (number : Nat) : Option PropertyValue :=
  (object.first? number).filter PropertyValue.isSet

def propertyLine (story : Story) (object : Object) (label : String) (number : Nat)
    (wording : Wording) : String :=
  match firstSet? object number with
  | none => ""
  | some value => line label (wording.show story value)

/-- A line with all values, if there are several or the only one is set. -/
def wordsLine (story : Story) (object : Object) (label : String) (number : Nat) : String :=
  match object.property? number with
  | none => ""
  | some values =>
    if 1 < values.length ∨ (values.head?.any PropertyValue.isSet) then
      line label (String.intercalate ", " (values.map story.wordFor))
    else ""

/-- Ranks are read in two's complement. -/
def rankLine (object : Object) : String :=
  match firstSet? object Library.parseRank with
  | none => ""
  | some (.value number) =>
    line "parse rank" (toString (Word.signed (UInt16.ofNat number.toNat)))
  | some rank => line "parse rank" rank.toText

def exclusionLine (object : Object) : String :=
  if (firstSet? object Library.excludeFromAll).isSome then "    excluded from \"all\"\n" else ""

def isRoom (object : Object) : Bool :=
  object.first? Library.type = some (.value Library.roomType)

def exitLines (story : Story) (object : Object) : List String :=
  exits.mapIdx fun place label =>
    propertyLine story object label (Library.northTo + place) .objectName

def useLines (story : Story) (object : Object) : List String :=
  uses.mapIdx fun place (label, wording) =>
    propertyLine story object label (Library.northTo + place) wording

def customLine (number : Nat) (property : Property) : String :=
  match property.head?.filter PropertyValue.isSet with
  | none => ""
  | some value => line ("Custom (" ++ toString number ++ ")") value.toText

def customLines (object : Object) : List String :=
  (object.properties.entriesFrom Library.cantGo).map fun (number, property) =>
    customLine number property

def attributesLine (object : Object) : String :=
  if object.attributes.isEmpty then ""
  else line "attributes" (String.intercalate ", " object.attributeNames)

def relativeLine (story : Story) (label : String) (relative : UInt16) : String :=
  if relative = 0 then ""
  else
    line label (story.objectName relative.toNat ++ " (" ++ toString relative.toNat ++ ")")

def lines (story : Story) (index : Nat) (object : Object) : List String :=
  [toString index ++ ": " ++ story.objectName index ++ "\n",
    propertyLine story object "article" Library.article .word,
    propertyLine story object "type" Library.type .objectName,
    wordsLine story object "nouns" Library.noun,
    wordsLine story object "adjectives" Library.adjective,
    propertyLine story object "pronoun" Library.pronoun .word,
    propertyLine story object "preposition" Library.preposition .word,
    propertyLine story object "found in" Library.foundIn .objectName,
    propertyLine story object "door to" Library.doorTo .word,
    propertyLine story object "can't go" Library.cantGo .word,
    rankLine object,
    exclusionLine object] ++
  (if isRoom object then exitLines story object else useLines story object) ++
  customLines object ++
  [attributesLine object,
    relativeLine story "parent" object.parent,
    relativeLine story "child" object.child,
    relativeLine story "sibling" object.sibling]

def render (story : Story) (index : Nat) : String :=
  match story.object? index with
  | none => ""
  | some object => String.join (lines story index object)

end HugoStory.Report.ObjectView
