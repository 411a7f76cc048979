/-! JSON documents and their indented text: two spaces a level, one item a line, and empty
lists and objects on one line. The only numbers that are not whole have one decimal
place. -/
namespace HugoStory

inductive Json
  | whole (number : Int)
  | tenths (count : Nat)
  | text (content : String)
  | list (items : List Json)
  | object (members : List (String × Json))
deriving Repr

namespace Json

def hexDigit (n : Nat) : Char := "0123456789abcdef".toList.getD n '0'

/-- Quotes, backslashes and control characters are escaped, all others stand for
themselves. -/
def escaped (c : Char) : List Char :=
  if c = '"' then ['\\', '"']
  else if c = '\\' then ['\\', '\\']
  else if c = '\n' then ['\\', 'n']
  else if c = '\r' then ['\\', 'r']
  else if c = '\t' then ['\\', 't']
  else if c.toNat = 0x08 then ['\\', 'b']
  else if c.toNat = 0x0c then ['\\', 'f']
  else if c.toNat < 0x20 then
    ['\\', 'u', '0', '0', hexDigit (c.toNat / 16), hexDigit (c.toNat % 16)]
  else [c]

def quoted (content : String) : String :=
  String.ofList ('"' :: content.toList.flatMap escaped ++ ['"'])

/-- The shortest decimal that keeps the point. -/
def tenthsText (count : Nat) : String := toString (count / 10) ++ "." ++ toString (count % 10)

def lineBreak (depth : Nat) : String :=
  "\n" ++ String.ofList (List.replicate (2 * depth) ' ')

mutual

/-- Writes a value behind `out`, in the lines of `depth`. -/
def write (depth : Nat) (out : String) : Json → String
  | whole number => out ++ toString number
  | tenths count => out ++ tenthsText count
  | text content => out ++ quoted content
  | list [] => out ++ "[]"
  | list (item :: rest) =>
    writeItems (depth + 1) (write (depth + 1) (out ++ "[" ++ lineBreak (depth + 1)) item) rest ++
      lineBreak depth ++ "]"
  | object [] => out ++ "\x7b\x7d"
  | object ((key, value) :: rest) =>
    writeMembers (depth + 1)
        (write (depth + 1) (out ++ "\x7b" ++ lineBreak (depth + 1) ++ quoted key ++ ": ") value)
        rest ++
      lineBreak depth ++ "\x7d"

def writeItems (depth : Nat) (out : String) : List Json → String
  | [] => out
  | item :: rest => writeItems depth (write depth (out ++ "," ++ lineBreak depth) item) rest

def writeMembers (depth : Nat) (out : String) : List (String × Json) → String
  | [] => out
  | (key, value) :: rest =>
    writeMembers depth
      (write depth (out ++ "," ++ lineBreak depth ++ quoted key ++ ": ") value) rest

end

def pretty (document : Json) : String := write 0 "" document

end Json

end HugoStory
