import HugoStory.Image
import HugoStory.OrderedMap
import HugoStory.Record
/-! The dictionary. Every word is known by its address, the number of bytes between the
first word of the table and its own length byte. Two words that no table holds have
addresses below zero: the empty word that stands for the parsed input, and the serial
number. -/
namespace HugoStory

structure Dictionary where
  words : OrderedMap Int String
deriving DecidableEq, Repr

namespace Dictionary

def parsedAddress : Int := -16
def serialAddress : Int := -15

def readWord (image : Image) (offset : Nat) : Except Fault (Record String) := do
  let length ← image.byteAt .dictionary offset
  let word ← image.textAt .dictionary (offset + 1) length.toNat
  return { value := word, width := 1 + length.toNat }

def read (image : Image) (offset count : Nat) : Except Fault Dictionary := do
  let words ← Record.readCount (readWord image) count (offset + 2)
  return ⟨⟨words.map fun (place, word) => ((place : Int) - (offset + 2 : Nat), word)⟩⟩

/-- Adds the two words with addresses of their own, or sets them anew. -/
def withReserved (dictionary : Dictionary) (serial : String) : Dictionary :=
  ⟨(dictionary.words.insert parsedAddress "").insert serialAddress serial⟩

def get? (dictionary : Dictionary) (address : Int) : Option String :=
  dictionary.words.get? address

def size (dictionary : Dictionary) : Nat := dictionary.words.size

def isEmpty (dictionary : Dictionary) : Bool := dictionary.words.isEmpty

theorem get?_withReserved (dictionary : Dictionary) (serial : String) (address : Int) :
    (dictionary.withReserved serial).get? address =
      if address = serialAddress then some serial
      else if address = parsedAddress then some ""
      else dictionary.get? address := by
  simp only [withReserved, get?, OrderedMap.get?_insert]

/-- The reserved words come before all words with addresses of their own. -/
theorem withReserved_of_nonneg {dictionary : Dictionary}
    (nonneg : ∀ address ∈ dictionary.words.keys, 0 ≤ address) (serial : String) :
    (dictionary.withReserved serial).words.entries =
      (parsedAddress, "") :: (serialAddress, serial) :: dictionary.words.entries := by
  obtain ⟨⟨entries⟩⟩ := dictionary
  cases entries with
  | nil => rfl
  | cons entry rest =>
    have positive : 0 ≤ entry.1 := nonneg entry.1 List.mem_cons_self
    obtain ⟨address, word⟩ := entry
    dsimp only at positive
    have parsed : parsedAddress ≠ address ∧ parsedAddress < address := by
      unfold parsedAddress
      omega
    have serialled : serialAddress ≠ address ∧ serialAddress < address := by
      unfold serialAddress
      omega
    unfold withReserved OrderedMap.insert
    simp only [OrderedMap.insertEntry, if_neg parsed.1, if_pos parsed.2, if_neg serialled.1,
      if_pos serialled.2]
    rfl

end Dictionary

end HugoStory
