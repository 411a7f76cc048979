/-! Interactive-fiction identifiers. A story carries its identifier somewhere in its words or
texts, as hexadecimal digits in groups of 8, 4, 4, 4 and 12 joined by hyphens. -/
namespace HugoStory.Ifid

def isHexDigit (c : Char) : Bool :=
  ('0' ≤ c && c ≤ '9') || ('a' ≤ c && c ≤ 'f') || ('A' ≤ c && c ≤ 'F')

def hyphenPlaces : List Nat := [8, 13, 18, 23]

def length : Nat := 36

def fitsAt (place : Nat) (c : Char) : Bool :=
  if place ∈ hyphenPlaces then c == '-' else isHexDigit c

/-- The characters from `place` on continue an identifier up to its end. -/
def startsFrom : Nat → List Char → Bool
  | place, [] => decide (length ≤ place)
  | place, c :: rest => decide (length ≤ place) || (fitsAt place c && startsFrom (place + 1) rest)

def findIn (text : List Char) : Option (List Char) :=
  match text with
  | [] => none
  | c :: rest =>
    if startsFrom 0 (c :: rest) then some ((c :: rest).take length) else findIn rest

def find (text : String) : Option String := (findIn text.toList).map String.ofList

/-- The first identifier of each text, without those seen before. -/
def findAll (texts : List String) : List String := (texts.filterMap find).eraseDups

end HugoStory.Ifid
