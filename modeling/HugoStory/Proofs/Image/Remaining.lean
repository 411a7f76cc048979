import HugoStory.Proofs.Image.Holds
/-! What is left of a file from a place on, as a list. A reader that goes forward takes its bytes off
the front of it, so what it accepts can be told as a language of lists of bytes. -/
namespace HugoStory.Image

variable {image : Image} {place : Nat} {bytes rest : List UInt8} {byte : UInt8}

/-- The bytes from a place on, none if the file does not reach so far. -/
def remaining (image : Image) (place : Nat) : List UInt8 := image.bytes.toList.drop place

theorem remaining_eq_nil_iff : image.remaining place = [] ↔ image.size ≤ place := by
  unfold remaining Image.size
  rw [List.drop_eq_nil_iff, Array.length_toList]

theorem lt_size_of_remaining (begins : image.remaining place = byte :: rest) : place < image.size := by
  refine Nat.not_le.mp fun beyond => ?_
  rw [remaining_eq_nil_iff.mpr beyond] at begins
  cases begins

theorem remaining_of_holds (held : image.Holds place bytes) :
    image.remaining place = bytes ++ image.remaining (place + bytes.length) := by
  obtain ⟨before, after, same, rfl⟩ := held
  unfold remaining
  rw [same, List.drop_left, ← List.append_assoc, ← List.length_append, List.drop_left]

theorem remaining_append (begins : image.remaining place = bytes ++ rest) :
    image.remaining (place + bytes.length) = rest := by
  unfold remaining at begins ⊢
  rw [← List.drop_drop, begins, List.drop_left]

theorem remaining_cons (begins : image.remaining place = byte :: rest) :
    image.remaining (place + 1) = rest := by
  rw [← List.singleton_append] at begins
  exact remaining_append begins

theorem holds_of_remaining (inside : place ≤ image.size)
    (begins : image.remaining place = bytes ++ rest) : image.Holds place bytes := by
  refine ⟨image.bytes.toList.take place, rest, ?_, ?_⟩
  · rw [← begins]
    exact (List.take_append_drop place _).symm
  · rw [List.length_take, Array.length_toList]
    exact Nat.min_eq_left inside

private theorem byte?_eq_head? (image : Image) (place : Nat) :
    image.byte? place = (image.remaining place).head? := by
  unfold byte? remaining
  rw [List.head?_drop, Array.getElem?_toList]

theorem byte?_of_remaining (begins : image.remaining place = byte :: rest) :
    image.byte? place = some byte := by
  rw [byte?_eq_head?, begins, List.head?_cons]

theorem remaining_of_byte? (present : image.byte? place = some byte) :
    image.remaining place = byte :: image.remaining (place + 1) :=
  remaining_of_holds (holds_of_byte? present)

end HugoStory.Image
