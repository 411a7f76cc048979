/-! The text layer of TOML: blanks, line ends, comments, strings and keys. A reader takes the
characters that are left and gives what it found together with the characters behind it. -/
namespace HugoStory.Toml

def isBlank (c : Char) : Bool := c = ' ' || c = '\t'

def isPlain (c : Char) : Bool := c = '\t' || (0x20 ≤ c.toNat && c.toNat ≠ 0x7f)

def skipBlanks (text : List Char) : List Char := text.dropWhile isBlank

def skipFiller (inComment : Bool) : List Char → List Char
  | [] => []
  | '\n' :: rest => skipFiller false rest
  | '\r' :: '\n' :: rest => skipFiller false rest
  | c :: rest =>
    if inComment && isPlain c then skipFiller true rest
    else if inComment then c :: rest
    else if isBlank c then skipFiller false rest
    else if c = '#' then skipFiller true rest
    else c :: rest

/-- Behind a statement there may be a comment and must be the end of the line. -/
def readLineEnd (text : List Char) : Option (List Char) :=
  match skipBlanks text with
  | [] => some []
  | '\n' :: rest => some rest
  | '\r' :: '\n' :: rest => some rest
  | '#' :: rest =>
    match rest.dropWhile isPlain with
    | [] => some []
    | '\n' :: rest => some rest
    | '\r' :: '\n' :: rest => some rest
    | _ => none
  | _ => none

def digitValue? (c : Char) : Option Nat :=
  if '0' ≤ c ∧ c ≤ '9' then some (c.toNat - '0'.toNat)
  else if 'a' ≤ c ∧ c ≤ 'f' then some (c.toNat - 'a'.toNat + 10)
  else if 'A' ≤ c ∧ c ≤ 'F' then some (c.toNat - 'A'.toNat + 10)
  else none

def escaped? (c : Char) : Option Char :=
  if c = 'b' then some '\x08'
  else if c = 't' then some '\t'
  else if c = 'n' then some '\n'
  else if c = 'f' then some '\x0c'
  else if c = 'r' then some '\r'
  else if c = '"' then some '"'
  else if c = '\\' then some '\\'
  else none

inductive Place
  | plain
  | escape
  /-- Within the digits of a code point: how many are left and the number so far. -/
  | code (left value : Nat)
  | lineEnd
  /-- Behind a line end that a backslash removes, together with all blanks that follow. -/
  | trimmed
deriving DecidableEq, Repr

def atLineEnd (c : Char) (rest : List Char) : Bool :=
  c = '\n' || (c = '\r' && rest.head? = some '\n')

/-- Reads a string in double quotes up to its end. A long string is closed by three quotes
and may run over several lines. `done` holds the characters so far, the last one first. -/
def readQuoted (long : Bool) (place : Place) (done : List Char) :
    List Char → Option (List Char × List Char)
  | [] => none
  | c :: rest =>
    match place with
    | .escape =>
      match escaped? c with
      | some meant => readQuoted long .plain (meant :: done) rest
      | none =>
        if c = 'u' then readQuoted long (.code 3 0) done rest
        else if c = 'U' then readQuoted long (.code 7 0) done rest
        else if long && atLineEnd c rest then readQuoted long .trimmed done rest
        else if long && isBlank c then readQuoted long .lineEnd done rest
        else none
    | .code left value =>
      match digitValue? c with
      | none => none
      | some digit =>
        let value := 16 * value + digit
        if 0 < left then readQuoted long (.code (left - 1) value) done rest
        else if value.isValidChar then readQuoted long .plain (Char.ofNat value :: done) rest
        else none
    | .lineEnd =>
      if atLineEnd c rest then readQuoted long .trimmed done rest
      else if isBlank c then readQuoted long .lineEnd done rest
      else none
    | .plain | .trimmed =>
      if place = .trimmed ∧ (isBlank c ∨ atLineEnd c rest) then
        readQuoted long .trimmed done rest
      else if c = '\\' then readQuoted long .escape done rest
      else if c = '"' then
        if long then
          match rest with
          | '"' :: '"' :: behind =>
            if behind.head? = some '"' then readQuoted long .plain (c :: done) rest
            else some (done.reverse, behind)
          | _ => readQuoted long .plain (c :: done) rest
        else some (done.reverse, rest)
      else if isPlain c || (long && atLineEnd c rest) then
        readQuoted long .plain (c :: done) rest
      else none

def apostrophe : Char := '\x27'

def readLiteral (long : Bool) (done : List Char) : List Char → Option (List Char × List Char)
  | [] => none
  | c :: rest =>
    if c = apostrophe then
      if long then
        match rest with
        | second :: third :: behind =>
          if second = apostrophe ∧ third = apostrophe ∧ behind.head? ≠ some apostrophe then
            some (done.reverse, behind)
          else readLiteral long (c :: done) rest
        | _ => readLiteral long (c :: done) rest
      else some (done.reverse, rest)
    else if isPlain c || (long && atLineEnd c rest) then readLiteral long (c :: done) rest
    else none

/-- A line end right behind the opening quotes of a long string is not part of it. -/
def dropLineEnd : List Char → List Char
  | '\n' :: rest => rest
  | '\r' :: '\n' :: rest => rest
  | text => text

def readShort : List Char → Option (List Char × List Char)
  | [] => none
  | c :: rest =>
    if c = '"' then readQuoted false .plain [] rest
    else if c = apostrophe then readLiteral false [] rest
    else none

def readString : List Char → Option (List Char × List Char)
  | first :: second :: third :: rest =>
    if first = second ∧ second = third ∧ first = '"' then
      readQuoted true .plain [] (dropLineEnd rest)
    else if first = second ∧ second = third ∧ first = apostrophe then
      readLiteral true [] (dropLineEnd rest)
    else readShort (first :: second :: third :: rest)
  | text => readShort text

def isBare (c : Char) : Bool := c.isAlphanum || c = '_' || c = '-'

def readKey : List Char → Option (List Char × List Char)
  | [] => none
  | c :: rest =>
    if isBare c then some ((c :: rest).takeWhile isBare, (c :: rest).dropWhile isBare)
    else readShort (c :: rest)

end HugoStory.Toml
