import HugoStory.Image.Words
import HugoStory.Proofs.Outcome
/-! Where a reading breaks off that began within the file. Byte after byte it comes to the end of the
file if the file stops short of what is to be read, and that is where it says the file ended. -/
namespace HugoStory.Image
open Outcome

variable {image : Image} {region : Region} {α β : Type}

/-- The reading fails just if the file stops short of `stop`, and then at the end of the file. -/
def BreaksOff (image : Image) (region : Region) (stop : Nat) (outcome : Except Fault α) : Prop :=
  ∀ fault, outcome = .error fault ↔ image.size < stop ∧ fault = .endOfFile region image.size

theorem BreaksOff.eq_error {stop : Nat} {outcome : Except Fault α}
    (breaks : BreaksOff image region stop outcome) (short : image.size < stop) :
    outcome = .error (.endOfFile region image.size) := (breaks _).mpr ⟨short, rfl⟩

theorem BreaksOff.exists_ok {stop : Nat} {outcome : Except Fault α}
    (breaks : BreaksOff image region stop outcome) (inside : stop ≤ image.size) :
    ∃ value, outcome = .ok value := by
  cases result : outcome with
  | error fault => exact absurd inside (Nat.not_le.mpr ((breaks fault).mp result).1)
  | ok value => exact ⟨value, rfl⟩

theorem BreaksOff.return {stop : Nat} (inside : stop ≤ image.size) (value : α) :
    BreaksOff image region stop (pure value : Except Fault α) := by
  intro fault
  constructor
  · rintro ⟨⟩
  · rintro ⟨short, -⟩
    exact absurd inside (Nat.not_le.mpr short)

theorem BreaksOff.bind {middle stop : Nat} {first : Except Fault α} {next : α → Except Fault β}
    (head : BreaksOff image region middle first) (onward : middle ≤ stop)
    (tail : ∀ value, first = .ok value → middle ≤ image.size →
      BreaksOff image region stop (next value)) :
    BreaksOff image region stop (first >>= next) := by
  intro fault
  cases begun : first with
  | error early =>
    obtain ⟨short, rfl⟩ := (head early).mp begun
    change Except.error _ = Except.error _ ↔ _
    rw [Except.error.injEq, eq_comm]
    exact (and_iff_right (Nat.lt_of_lt_of_le short onward)).symm
  | ok value =>
    have inside : middle ≤ image.size := by
      refine Nat.not_lt.mp fun short => ?_
      cases begun.symm.trans (head.eq_error short)
    exact tail value begun inside fault

theorem BreaksOff.thenReturn {stop : Nat} {first : Except Fault α} {result : α → β}
    (head : BreaksOff image region stop first) :
    BreaksOff image region stop (first >>= fun value => pure (result value)) :=
  head.bind (Nat.le_refl stop) fun _ _ inside => .return inside _

private theorem breaksOff_byteAt {offset : Nat} (inside : offset ≤ image.size) :
    BreaksOff image region (offset + 1) (image.byteAt region offset) := by
  intro fault
  rw [byteAt_eq_error_iff]
  constructor
  · rintro ⟨outside, rfl⟩
    obtain rfl := Nat.le_antisymm inside outside
    exact ⟨Nat.lt_succ_self _, rfl⟩
  · rintro ⟨short, rfl⟩
    obtain rfl := Nat.le_antisymm inside (Nat.le_of_lt_succ short)
    exact ⟨Nat.le_refl _, rfl⟩

theorem breaksOff_wordAt {offset : Nat} (inside : offset ≤ image.size) :
    BreaksOff image region (offset + 2) (image.wordAt region offset) := by
  refine (breaksOff_byteAt inside).bind (Nat.le_succ _) fun low _ inside => ?_
  exact (breaksOff_byteAt inside).thenReturn

def word? (image : Image) (place : Nat) : Option UInt16 := do
  let low ← image.byte? place
  let high ← image.byte? (place + 1)
  return Word.ofBytes low high

theorem wordAt_eq_ok_iff_word? {place : Nat} {word : UInt16} :
    image.wordAt region place = .ok word ↔ image.word? place = some word := by
  rw [wordAt_eq_ok_iff]
  unfold word?
  constructor
  · rintro ⟨low, high, first, second, rfl⟩
    rw [first, second]
    rfl
  · intro present
    obtain ⟨low, first, present⟩ := Option.bind_eq_some_iff.mp present
    obtain ⟨high, second, same⟩ := Option.bind_eq_some_iff.mp present
    exact ⟨low, high, first, second, (Option.some.inj same).symm⟩

/-- A word is missed at the first of its bytes that the file does not hold. -/
theorem wordAt_eq_error_iff {place : Nat} {fault : Fault} :
    image.wordAt region place = .error fault ↔
      image.size < place + 2 ∧ fault = .endOfFile region (max place image.size) := by
  by_cases inside : place ≤ image.size
  · rw [Nat.max_eq_right inside]
    exact breaksOff_wordAt inside fault
  · have outside := Nat.le_of_not_le inside
    have first : image.byteAt region place = .error (.endOfFile region place) :=
      byteAt_eq_error_iff.mpr ⟨outside, rfl⟩
    rw [Nat.max_eq_left outside, wordAt, first]
    change Except.error _ = Except.error fault ↔ _
    rw [Except.error.injEq, eq_comm]
    exact (and_iff_right (by omega)).symm

theorem word?_eq_none_iff {place : Nat} : image.word? place = none ↔ image.size < place + 2 := by
  unfold word?
  by_cases inside : place + 1 < image.size
  · have first : image.byte? place = some _ := Array.getElem?_eq_getElem (Nat.lt_of_succ_lt inside)
    have second : image.byte? (place + 1) = some _ := Array.getElem?_eq_getElem inside
    rw [first, second]
    exact iff_of_false nofun (by omega)
  · rw [byte?_eq_none_iff.mpr (Nat.not_lt.mp inside)]
    refine iff_of_true ?_ (by omega)
    cases image.byte? place <;> rfl

theorem le_size_of_word? {place : Nat} {word : UInt16} (present : image.word? place = some word) :
    place + 2 ≤ image.size := by
  refine Nat.not_lt.mp fun short => ?_
  cases present.symm.trans (word?_eq_none_iff.mpr short)

theorem extract_min (image : Image) (place stop : Nat) :
    image.bytes.extract place (min stop image.size) = image.bytes.extract place stop := by
  rw [Array.extract_eq_extract_right, Image.size]
  omega

theorem breaksOff_words {offset count : Nat} (inside : offset ≤ image.size) :
    BreaksOff image region (offset + 2 * count) (image.words region offset count) := by
  induction count generalizing offset with
  | zero => exact .return inside []
  | succ count ih =>
    rw [words_succ, Nat.mul_succ]
    refine (breaksOff_wordAt inside).bind (by omega) fun word _ inside => ?_
    have later := ih inside
    rw [Nat.add_assoc, Nat.add_comm 2] at later
    exact later.thenReturn

end HugoStory.Image
