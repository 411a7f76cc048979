import HugoStory.Image
import HugoStory.Record
/-! The event table: routines that run every turn, each bound to an object or to none. -/
namespace HugoStory

/-- Object zero stands for an event that belongs to the whole game. -/
structure Event where
  object : UInt16
  address : UInt16
deriving DecidableEq, Repr

namespace Event

def readRecord (image : Image) (offset : Nat) : Except Fault (Record Event) := do
  let object ← image.wordAt .events offset
  let address ← image.wordAt .events (offset + 2)
  return { value := { object, address }, width := 4 }

def readTable (image : Image) (offset count : Nat) : Except Fault (List Event) := do
  let events ← Record.readCount (readRecord image) count (offset + 2)
  return events.map Prod.snd

end Event

end HugoStory
