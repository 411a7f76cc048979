import HugoStory.Proofs.Image.Missing
import HugoStory.Proofs.Truthful
import HugoStory.Proofs.Machine.Record
/-! Looking at the bytes of a file with the numbers of a machine. An address is in range as soon
as a byte has been found at it or before it, since a file of less than 2³¹ bytes leaves the upper
half of the addresses to whatever a reader adds to it. -/
namespace HugoStory.Machine

variable {α : Type} {image : Image} {region : Region}

/-- Files whose size a signed word of 32 bits holds. -/
abbrev Addressable (image : Image) : Prop := image.size ≤ 0x7fffffff

def byteAt (image : Image) (region : Region) (place : Nat) : Checked UInt8 :=
  lift (image.byteAt region place)

def wordAt (image : Image) (region : Region) (place : Nat) : Checked UInt16 := do
  let low ← byteAt image region place
  let behind ← add place 1
  let high ← byteAt image region behind
  return Word.ofBytes low high

def slice (image : Image) (region : Region) (start stop : Nat) : Checked (List UInt8) :=
  lift (image.slice region start stop)

def textAt (image : Image) (region : Region) (place length : Nat) : Checked String := do
  let stop ← add place length
  let bytes ← slice image region place stop
  return Charset.decodeText bytes

def clippedText (image : Image) (place length : Nat) : Checked String := do
  let stop ← add place length
  return Charset.decodeText (image.bytes.extract place (min stop image.size)).toList

/-- What `form` makes of the words behind `start`, so many of them from the one at `index` on. -/
def wordsFrom (image : Image) (region : Region) (form : UInt16 → Checked α) (start : Nat) :
    Nat → Nat → Checked (List α)
  | 0, _ => return []
  | count + 1, index => do
    let distance ← mul index 2
    let place ← add start distance
    let word ← wordAt image region place
    let value ← form word
    let rest ← wordsFrom image region form start count (index + 1)
    return value :: rest

def words (image : Image) (region : Region) (start count : Nat) : Checked (List UInt16) :=
  wordsFrom image region pure start count 0

def signedWords (image : Image) (region : Region) (start count : Nat) : Checked (List Int) :=
  wordsFrom image region wrapped start count 0

theorem lt_size_of_byteAt {place : Nat} {byte : UInt8}
    (read : image.byteAt region place = .ok byte) : place < image.size :=
  Image.lt_size_of_byte? (Image.byteAt_eq_ok_iff.mp read)

theorem lt_size_of_wordAt {place : Nat} {word : UInt16}
    (read : image.wordAt region place = .ok word) : place + 1 < image.size := by
  obtain ⟨low, high, _, second, _⟩ := Image.wordAt_eq_ok_iff.mp read
  exact Image.lt_size_of_byte? second

theorem wordAt_eq_lift (small : Addressable image) (place : Nat) :
    wordAt image region place = lift (image.wordAt region place) := by
  unfold wordAt Image.wordAt byteAt
  rw [lift_bind]
  apply lift_bind_congr
  intro low read
  have inside := lt_size_of_byteAt read
  rw [add_eq (by omega), ok_bind, lift_bind]
  rfl

theorem textAt_eq_lift {place length : Nat} (fits : place + length < 0x100000000) :
    textAt image region place length = lift (image.textAt region place length) := by
  unfold textAt Image.textAt slice
  rw [add_eq fits, ok_bind, lift_bind]
  rfl

theorem clippedText_eq {place length : Nat} (fits : place + length < 0x100000000) :
    clippedText image place length = .ok (image.clippedText place length) := by
  unfold clippedText Image.clippedText
  rw [add_eq fits, ok_bind, Image.extract_min]
  rfl

private theorem wordsFrom_eq_lift (small : Addressable image) {form : UInt16 → Checked α}
    {plain : UInt16 → α} (formed : ∀ word, form word = .ok (plain word)) {start count index : Nat}
    (fits : start + 2 * (index + count) < 0x100000000) :
    wordsFrom image region form start count index = lift (do
      let words ← image.words region (start + 2 * index) count
      return words.map plain) := by
  induction count generalizing index with
  | zero => rfl
  | succ count ih =>
    have later := @ih (index + 1) (by omega)
    rw [Nat.mul_succ, ← Nat.add_assoc] at later
    simp (disch := omega) only [wordsFrom, mul_eq, add_eq, ok_bind, wordAt_eq_lift small, formed,
      later, Nat.mul_comm index 2]
    simp only [Image.words_succ, lift_bind, lift_pure, bind_assoc, pure_bind, List.map_cons]

theorem words_eq_lift (small : Addressable image) {start count : Nat}
    (fits : start + 2 * count < 0x100000000) :
    words image region start count = lift (image.words region start count) := by
  have each (word : UInt16) : (pure word : Checked UInt16) = .ok (id word) := rfl
  unfold words
  rw [wordsFrom_eq_lift small each (by omega)]
  simp

theorem signedWords_eq_lift (small : Addressable image) {start count : Nat}
    (fits : start + 2 * count < 0x100000000) :
    signedWords image region start count = lift (do
      let words ← image.words region start count
      return words.map Word.signed) := by
  unfold signedWords
  rw [wordsFrom_eq_lift small wrapped_eq (by omega)]
  rfl

end HugoStory.Machine
