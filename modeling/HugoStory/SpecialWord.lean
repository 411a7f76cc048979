import HugoStory.Image
import HugoStory.Record
/-! Special words: pairs of dictionary addresses that the parser treats in one of four
ways. The table mixes the four categories; reading it sorts them apart. -/
namespace HugoStory

inductive WordCategory
  | synonyms
  | removals
  | compounds
  | punctuation
deriving DecidableEq, Repr

namespace WordCategory

/-- In the order of the bytes that stand for them. -/
def all : List WordCategory := [synonyms, removals, compounds, punctuation]

def ofByte? (byte : UInt8) : Option WordCategory := all[byte.toNat]?

def label : WordCategory → String
  | synonyms => "synonyms"
  | removals => "removals"
  | compounds => "compounds"
  | punctuation => "punctuation"

theorem ofByte?_eq_none_iff {byte : UInt8} : ofByte? byte = none ↔ 4 ≤ byte.toNat := by
  simp [ofByte?, all]

end WordCategory

/-- Address zero in second place stands for no second word. -/
structure SpecialWord where
  first : UInt16
  second : UInt16
deriving DecidableEq, Repr

structure SpecialWords where
  synonyms : List SpecialWord
  removals : List SpecialWord
  compounds : List SpecialWord
  punctuation : List SpecialWord
deriving DecidableEq, Repr

namespace SpecialWords

def readRecord (image : Image) (offset : Nat) :
    Except Fault (Record (WordCategory × SpecialWord)) := do
  let byte ← image.byteAt .specialWords offset
  let first ← image.wordAt .specialWords (offset + 1)
  let second ← image.wordAt .specialWords (offset + 3)
  match WordCategory.ofByte? byte with
  | none => throw (.unknownWordCategory byte offset)
  | some category => return { value := (category, { first, second }), width := 5 }

def select (category : WordCategory) (records : List (WordCategory × SpecialWord)) :
    List SpecialWord :=
  (records.filter fun record => record.1 = category).map Prod.snd

def ofRecords (records : List (WordCategory × SpecialWord)) : SpecialWords where
  synonyms := select .synonyms records
  removals := select .removals records
  compounds := select .compounds records
  punctuation := select .punctuation records

def read (image : Image) (offset count : Nat) : Except Fault SpecialWords := do
  let records ← Record.readCount (readRecord image) count (offset + 2)
  return ofRecords (records.map Prod.snd)

def get (words : SpecialWords) : WordCategory → List SpecialWord
  | .synonyms => words.synonyms
  | .removals => words.removals
  | .compounds => words.compounds
  | .punctuation => words.punctuation

theorem get_ofRecords (records : List (WordCategory × SpecialWord)) (category : WordCategory) :
    (ofRecords records).get category = select category records := by
  cases category <;> rfl

end SpecialWords

end HugoStory
