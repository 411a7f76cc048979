import HugoStory.Section
/-! What to show of a story and how. -/
namespace HugoStory

structure Settings where
  sections : List Section
  json : Bool
  /-- How many entries of a section are shown, all if there is no number. -/
  maxEntries : Option Nat
deriving DecidableEq, Repr

namespace Settings

/-- Everything, as a report. -/
def standard : Settings := { sections := Section.all, json := false, maxEntries := none }

end Settings

end HugoStory
