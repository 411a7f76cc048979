/-! The sections of a report, by the names they are asked for with. -/
namespace HugoStory

inductive Section
  | header
  | dictionary
  | textBank
  | objects
  | grammar
  | events
  | arrays
  | globals
  | specialWords
deriving DecidableEq, Repr

namespace Section

def all : List Section :=
  [header, dictionary, textBank, objects, grammar, events, arrays, globals, specialWords]

def name : Section → String
  | header => "header"
  | dictionary => "dictionary"
  | textBank => "textbank"
  | objects => "objects"
  | grammar => "grammar"
  | events => "events"
  | arrays => "arrays"
  | globals => "globals"
  | specialWords => "specialwords"

def ofName? (name : String) : Option Section := all.find? fun candidate => candidate.name = name

/-- ASCII capitals as small letters, all else as it is. -/
def lowerCase (text : String) : String := String.ofList (text.toList.map Char.toLower)

def parse? (text : String) : Option Section := ofName? (lowerCase text)

def unknownMessage (text : String) : String := "Unknown section: " ++ text

theorem ofName?_name (choice : Section) : ofName? choice.name = some choice := by
  cases choice <;> decide

end Section

end HugoStory
