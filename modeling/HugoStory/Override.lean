import HugoStory.OrderedMap
import HugoStory.Property
/-! Property overrides. What an object changes about the default properties is a stream of
records, closed by a mark or by the end of the file: a routine, a number of words, or the
count zero, which clears the first value and keeps the others. -/
namespace HugoStory

inductive Override
  | routine (number : UInt8) (address : UInt16)
  | zeroFirst (number : UInt8)
  | words (number : UInt8) (words : List UInt16)
deriving DecidableEq, Repr

namespace Override

/-- Closes a stream where a property number is expected. -/
def closingMark : UInt8 := 0xff

/-- Takes the place of a word count before the address of a routine. -/
def routineMark : UInt8 := 0xff

def routineWidth : Nat := 4

def zeroWidth : Nat := 2

def read (image : Image) (offset : Nat) : Except Fault (Option (Record Override)) := do
  let number ← image.byteAt .objects offset
  if number = closingMark then return none
  else
    let count ← image.byteAt .objects (offset + 1)
    if count = routineMark then
      let address ← image.wordAt .objects (offset + 2)
      return some {
        value := routine number address
        width := routineWidth
        width_pos := by decide }
    else if count = 0 then
      return some { value := zeroFirst number, width := zeroWidth, width_pos := by decide }
    else
      let held ← image.words .objects (offset + 2) count.toNat
      return some { value := words number held, width := 2 + 2 * count.toNat }

/-- Sets the first value to zero, making it the only one if there is none. -/
def zeroHead : Property → Property
  | [] => [.value 0]
  | _ :: rest => .value 0 :: rest

def apply (properties : OrderedMap Nat Property) : Override → OrderedMap Nat Property
  | routine number address => properties.insert number.toNat [.routine address]
  | zeroFirst number =>
    properties.insert number.toNat (zeroHead ((properties.get? number.toNat).getD []))
  | words number held =>
    properties.insert number.toNat (held.map fun word => .value word.toNat)

def readStream (image : Image) (offset : Nat) : Except Fault (List Override) := do
  let overrides ← Record.readUpTo (read image) image.size offset
  return overrides.map Prod.snd

end Override

end HugoStory
