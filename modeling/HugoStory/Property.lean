import HugoStory.Image.Words
import HugoStory.Text.Hexadecimal
/-! Property values and the table of default properties. -/
namespace HugoStory

/-- A property holds plain numbers or the address of a routine that computes it. -/
inductive PropertyValue
  | value (number : Int)
  | routine (address : UInt16)
deriving DecidableEq, Repr

namespace PropertyValue

def number? : PropertyValue → Option Int
  | value number => some number
  | routine _ => none

/-- Zero and negative numbers count as unset, a routine always as set. -/
def isSet : PropertyValue → Bool
  | value number => decide (0 < number)
  | routine _ => true

def toText : PropertyValue → String
  | value number => toString number
  | routine address => "[routine " ++ Text.Hexadecimal.render 4 address.toNat ++ "]"

end PropertyValue

abbrev Property := List PropertyValue

namespace Property

def readDefaults (image : Image) (offset count : Nat) : Except Fault (List Property) := do
  let words ← image.words .propertyDefaults (offset + 2) count
  return words.map fun word => [.value (Word.signed word)]

end Property

end HugoStory
