import HugoStory.Fault
import HugoStory.Word
import HugoStory.Charset
/-! The bytes of a story file and the checked ways to look at them. Every read names the
region it is for, so that running off the end is reported as that region's fault, at the
first offset that is missing. -/
namespace HugoStory

structure Image where
  bytes : Array UInt8
deriving DecidableEq

namespace Image

def size (image : Image) : Nat := image.bytes.size

def isEmpty (image : Image) : Bool := image.bytes.isEmpty

def byte? (image : Image) (offset : Nat) : Option UInt8 := image.bytes[offset]?

def byteAt (image : Image) (region : Region) (offset : Nat) : Except Fault UInt8 :=
  match image.byte? offset with
  | some byte => .ok byte
  | none => .error (.endOfFile region offset)

def wordAt (image : Image) (region : Region) (offset : Nat) : Except Fault UInt16 := do
  let low ← image.byteAt region offset
  let high ← image.byteAt region (offset + 1)
  return Word.ofBytes low high

def signedWordAt (image : Image) (region : Region) (offset : Nat) : Except Fault Int := do
  let word ← image.wordAt region offset
  return Word.signed word

/-- The bytes from `start` up to `stop`, none if they are the wrong way round. Only `stop`
is held against the size of the file. -/
def slice (image : Image) (region : Region) (start stop : Nat) : Except Fault (List UInt8) :=
  if image.size < stop then .error (.endOfFile region stop)
  else .ok (image.bytes.extract start stop).toList

def textAt (image : Image) (region : Region) (offset length : Nat) : Except Fault String := do
  let bytes ← image.slice region offset (offset + length)
  return Charset.decodeText bytes

/-- As much of the text as the file still holds. -/
def clippedText (image : Image) (offset length : Nat) : String :=
  Charset.decodeText (image.bytes.extract offset (offset + length)).toList

theorem byte?_eq_none_iff {image : Image} {offset : Nat} :
    image.byte? offset = none ↔ image.size ≤ offset := by
  simp [byte?, size]

theorem byteAt_eq_ok_iff {image : Image} {region : Region} {offset : Nat} {byte : UInt8} :
    image.byteAt region offset = .ok byte ↔ image.byte? offset = some byte := by
  unfold byteAt
  split <;> simp_all

theorem byteAt_eq_error_iff {image : Image} {region : Region} {offset : Nat} {fault : Fault} :
    image.byteAt region offset = .error fault ↔
      image.size ≤ offset ∧ fault = .endOfFile region offset := by
  rw [← byte?_eq_none_iff]
  unfold byteAt
  cases image.byte? offset <;> simp [eq_comm]

theorem wordAt_eq_ok_iff {image : Image} {region : Region} {offset : Nat} {word : UInt16} :
    image.wordAt region offset = .ok word ↔
      ∃ low high, image.byte? offset = some low ∧ image.byte? (offset + 1) = some high ∧
        word = Word.ofBytes low high := by
  unfold wordAt byteAt
  cases image.byte? offset with
  | none => simp [bind, Except.bind]
  | some low =>
    cases image.byte? (offset + 1) with
    | none => simp [bind, Except.bind]
    | some high => simp [bind, Except.bind, pure, Except.pure, eq_comm]

theorem slice_eq_error_iff {image : Image} {region : Region} {start stop : Nat} {fault : Fault} :
    image.slice region start stop = .error fault ↔
      image.size < stop ∧ fault = .endOfFile region stop := by
  unfold slice
  by_cases short : image.size < stop <;> simp [short, eq_comm]

theorem slice_eq_ok_iff {image : Image} {region : Region} {start stop : Nat}
    {bytes : List UInt8} :
    image.slice region start stop = .ok bytes ↔
      stop ≤ image.size ∧ bytes = (image.bytes.extract start stop).toList := by
  unfold slice
  by_cases short : image.size < stop
  · simp [short, Nat.not_le.mpr short]
  · simp [short, Nat.not_lt.mp short, eq_comm]

end Image

end HugoStory
