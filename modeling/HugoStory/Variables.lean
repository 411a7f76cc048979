import HugoStory.Image.Words
import HugoStory.OrderedMap
/-! The data area of a story file: the global variables and, behind them, the arrays. The
arrays run up to the next section, and each is known by the place of its length word, counted
in words from the start of the area. -/
namespace HugoStory.Variables

def globalCount : Nat := 240

def readGlobals (image : Image) (offset : Nat) : Except Fault (List Int) := do
  let words ← image.words .globals offset globalCount
  return words.map Word.signed

/-- An array is stored as its length and that many words. -/
def readArray (image : Image) (offset : Nat) : Except Fault (Option (Record (List UInt16))) := do
  let length ← image.wordAt .arrays offset
  let words ← image.words .arrays (offset + 2) length.toNat
  return some { value := words, width := 2 + 2 * length.toNat }

/-- All arrays that start before `stop`; the last one may reach beyond it. -/
def readArrays (image : Image) (offset stop : Nat) :
    Except Fault (OrderedMap Nat (List UInt16)) := do
  let arrays ← Record.readUpTo (readArray image) stop (offset + 2 * globalCount)
  return ⟨arrays.map fun (place, words) => ((place - offset) / 2, words)⟩

end HugoStory.Variables
