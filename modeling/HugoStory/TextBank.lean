import HugoStory.Image
import HugoStory.OrderedMap
import HugoStory.Record
/-! The text bank. It runs from its own offset to the debugging data or the end of the file,
and a text is known by the distance of its length word from the start of the bank. -/
namespace HugoStory

structure TextBank where
  texts : OrderedMap Nat String
deriving DecidableEq, Repr

namespace TextBank

/-- The length word must be there; a text that the file breaks off is kept as far as it
goes. -/
def readText (image : Image) (offset : Nat) : Except Fault (Option (Record String)) := do
  let length ← image.wordAt .textBank offset
  return some { value := image.clippedText (offset + 2) length.toNat, width := 2 + length.toNat }

def read (image : Image) (offset stop : Nat) : Except Fault TextBank := do
  let texts ← Record.readUpTo (readText image) stop offset
  return ⟨⟨texts.map fun (place, text) => (place - offset, text)⟩⟩

def get? (bank : TextBank) (offset : Nat) : Option String := bank.texts.get? offset

def size (bank : TextBank) : Nat := bank.texts.size

def isEmpty (bank : TextBank) : Bool := bank.texts.isEmpty

end TextBank

end HugoStory
