import HugoStory.Header
import HugoStory.Property
/-! What is known of a story file before its sections are read: the header, the element
counts and the default properties. -/
namespace HugoStory

structure Preamble where
  header : Header
  counts : Counts
  defaults : List Property
deriving DecidableEq, Repr

namespace Preamble

def read (image : Image) : Except Fault Preamble := do
  let header ← Header.read image
  let counts ← Counts.read image header.layout
  let defaults ←
    Property.readDefaults image header.layout.properties counts.properties.toNat
  return { header, counts, defaults }

/-- The text bank ends where debugging data starts, or with the file if there is none. -/
def textBankEnd (preamble : Preamble) (image : Image) : Nat :=
  match preamble.header.debugStart with
  | some start => if 0 < start then start else image.size
  | none => image.size

end Preamble

end HugoStory
