import HugoStory.Image
import HugoStory.Record
/-! Runs of words: so many of them, one behind the other. -/
namespace HugoStory.Image

def wordRecord (image : Image) (region : Region) (offset : Nat) :
    Except Fault (Record UInt16) := do
  let word ← image.wordAt region offset
  return { value := word, width := 2 }

def words (image : Image) (region : Region) (offset count : Nat) :
    Except Fault (List UInt16) := do
  let words ← Record.readCount (image.wordRecord region) count offset
  return words.map Prod.snd

theorem words_zero (image : Image) (region : Region) (offset : Nat) :
    image.words region offset 0 = .ok [] := rfl

theorem words_succ (image : Image) (region : Region) (offset count : Nat) :
    image.words region offset (count + 1) = (do
      let word ← image.wordAt region offset
      let rest ← image.words region (offset + 2) count
      return word :: rest) := by
  have first : image.wordRecord region offset = (do
    let word ← image.wordAt region offset
    return { value := word, width := 2 }) := rfl
  unfold words
  rw [Record.readCount_succ, first]
  cases image.wordAt region offset with
  | error fault => rfl
  | ok word =>
    simp only [bind, Except.bind, pure, Except.pure]
    cases Record.readCount (image.wordRecord region) count (offset + 2) <;> rfl

theorem length_of_words {image : Image} {region : Region} {offset count : Nat}
    {words : List UInt16} (done : image.words region offset count = .ok words) :
    words.length = count := by
  unfold Image.words at done
  cases run : Record.readCount (image.wordRecord region) count offset with
  | error fault => simp [run, bind, Except.bind] at done
  | ok records =>
    simp only [run, bind, Except.bind, pure, Except.pure, Except.ok.injEq] at done
    subst done
    simp [Record.length_of_readCount run]

end HugoStory.Image
