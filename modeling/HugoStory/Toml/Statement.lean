import HugoStory.Toml.Integer
/-! The statements of a settings document. Settings need whole numbers, truth values and
lists of names, so documents are read in the part of TOML that can hold these: a document
with a number that is not whole, a date, a dotted key or a nested value sets nothing that
there is, and is refused. -/
namespace HugoStory.Toml

inductive Value
  | boolean (holds : Bool)
  | integer (number : Int)
  /-- A name is a string, or a table with the name as its only key and nothing below it. -/
  | names (names : List String)
  | blank
deriving DecidableEq, Repr

inductive Statement
  | assign (key : String) (value : Value)
  /-- Opens one more table in the list under a key. -/
  | element (key : String)
  /-- Opens a table within the last table under a key. -/
  | table (key name : String)
deriving DecidableEq, Repr

def readMark (mark : Char) : List Char → Option (List Char)
  | [] => none
  | c :: rest => if c = mark then some rest else none

def readKeyword (keyword text : List Char) : Option (List Char) :=
  if keyword.isPrefixOf text then some (text.drop keyword.length) else none

def openBrace : Char := '\x7b'
def closeBrace : Char := '\x7d'

def readEmpty (text : List Char) : Option (List Char) :=
  match text with
  | [] => none
  | c :: rest =>
    if c = openBrace then readMark closeBrace (skipBlanks rest)
    else if c = '[' then readMark ']' (skipFiller false rest)
    else none

def readName (text : List Char) : Option (List Char × List Char) :=
  match readMark openBrace text with
  | none => readString text
  | some inside => do
    let (key, rest) ← readKey (skipBlanks inside)
    let rest ← readMark '=' (skipBlanks rest)
    let rest ← readEmpty (skipBlanks rest)
    let rest ← readMark closeBrace (skipBlanks rest)
    return (key, rest)

/-- Reads the names of a list up to its end. A comma may follow the last one. There are no
more than `bound` names. -/
def readNames (bound : Nat) (done : List String) (text : List Char) :
    Option (List String × List Char) :=
  match readMark ']' (skipFiller false text), bound with
  | some rest, _ => some (done.reverse, rest)
  | none, 0 => none
  | none, bound + 1 => do
    let (name, rest) ← readName (skipFiller false text)
    let done := String.ofList name :: done
    let rest := skipFiller false rest
    match readMark ',' rest with
    | some rest => readNames bound done rest
    | none =>
      let rest ← readMark ']' rest
      return (done.reverse, rest)

def readValue (text : List Char) : Option (Value × List Char) :=
  match readKeyword "true".toList text with
  | some rest => some (.boolean true, rest)
  | none =>
    match readKeyword "false".toList text with
    | some rest => some (.boolean false, rest)
    | none =>
      match readMark '[' text with
      | some inside => do
        let (names, rest) ← readNames inside.length [] inside
        return (.names names, rest)
      | none =>
        match readMark openBrace text with
        | some inside => do
          let rest ← readMark closeBrace (skipBlanks inside)
          return (.blank, rest)
        | none => do
          let (number, rest) ← readInteger text
          return (.integer number, rest)

def readStatement (text : List Char) : Option (Statement × List Char) := do
  match readMark '[' text with
  | none =>
    let (key, rest) ← readKey text
    let rest ← readMark '=' (skipBlanks rest)
    let (value, rest) ← readValue (skipBlanks rest)
    let rest ← readLineEnd rest
    return (.assign (String.ofList key) value, rest)
  | some inside =>
    match readMark '[' inside with
    | some inside =>
      let (key, rest) ← readKey (skipBlanks inside)
      let rest ← readMark ']' (skipBlanks rest)
      let rest ← readMark ']' rest
      let rest ← readLineEnd rest
      return (.element (String.ofList key), rest)
    | none =>
      let (key, rest) ← readKey (skipBlanks inside)
      let rest ← readMark '.' (skipBlanks rest)
      let (name, rest) ← readKey (skipBlanks rest)
      let rest ← readMark ']' (skipBlanks rest)
      let rest ← readLineEnd rest
      return (.table (String.ofList key) (String.ofList name), rest)

def readStatements (bound : Nat) (done : List Statement) (text : List Char) :
    Option (List Statement) :=
  match skipFiller false text, bound with
  | [], _ => some done.reverse
  | _, 0 => none
  | c :: rest, bound + 1 => do
    let (statement, rest) ← readStatement (c :: rest)
    readStatements bound (statement :: done) rest

def byteOrderMark : Char := '\ufeff'

/-- The statements of a document, which may start with a byte order mark. -/
def statements? (document : String) : Option (List Statement) :=
  match document.toList with
  | [] => some []
  | c :: rest =>
    let text := if c = byteOrderMark then rest else c :: rest
    readStatements text.length [] text

end HugoStory.Toml
