import HugoStory.Toml.Text
/-! Whole numbers in TOML: decimal with an optional sign, or hexadecimal, octal or binary
without one. Single underscores may stand between digits, and the number must fit in 64
bits. -/
namespace HugoStory.Toml

def isDigit (base : Nat) (c : Char) : Bool := (digitValue? c).any (· < base)

/-- The value of digits in `base` with single underscores between them. `behindDigit` tells
whether a digit comes right before, as one must at the end. -/
def digitsValue? (base : Nat) (behindDigit : Bool) (value : Nat) : List Char → Option Nat
  | [] => if behindDigit then some value else none
  | c :: rest =>
    if c = '_' then if behindDigit then digitsValue? base false value rest else none
    else
      match (digitValue? c).filter (· < base) with
      | none => none
      | some digit => digitsValue? base true (base * value + digit) rest

def readDigits (base : Nat) (text : List Char) : Option (Nat × List Char) := do
  let isPart := fun c => isDigit base c || c = '_'
  let value ← digitsValue? base false 0 (text.takeWhile isPart)
  return (value, text.dropWhile isPart)

/-- A decimal number starts with a zero only if that is all of it. -/
def readDecimal (text : List Char) : Option (Nat × List Char) :=
  match text with
  | '0' :: rest => if rest.head?.any fun c => isDigit 10 c || c = '_' then none else some (0, rest)
  | _ => readDigits 10 text

def largest : Nat := 0x7fffffffffffffff

def readUnsigned : List Char → Option (Nat × List Char)
  | '0' :: 'x' :: rest => readDigits 16 rest
  | '0' :: 'o' :: rest => readDigits 8 rest
  | '0' :: 'b' :: rest => readDigits 2 rest
  | text => readDecimal text

def readInteger (text : List Char) : Option (Int × List Char) :=
  match text with
  | '-' :: rest => do
    let (value, rest) ← readDecimal rest
    if value ≤ largest + 1 then some (-value, rest) else none
  | '+' :: rest => do
    let (value, rest) ← readDecimal rest
    if value ≤ largest then some (value, rest) else none
  | _ => do
    let (value, rest) ← readUnsigned text
    if value ≤ largest then some (value, rest) else none

end HugoStory.Toml
