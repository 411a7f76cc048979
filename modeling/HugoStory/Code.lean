import HugoStory.Image
/-! The compiled code. It fills the space up to the object table and is padded with zeros,
which are not part of it. -/
namespace HugoStory.Code

/-- The bytes without the zeros at their end. -/
def trimmed (bytes : List UInt8) : List UInt8 :=
  (bytes.reverse.dropWhile (· == 0)).reverse

def read (image : Image) (offset stop : Nat) : Except Fault (List UInt8) := do
  let bytes ← image.slice .code offset stop
  return trimmed bytes

theorem getLast?_trimmed_ne_zero (bytes : List UInt8) : (trimmed bytes).getLast? ≠ some 0 := by
  intro zero
  unfold trimmed at zero
  rw [List.getLast?_reverse] at zero
  have kept := List.head?_dropWhile_not (· == 0) bytes.reverse
  rw [zero] at kept
  simp at kept

end HugoStory.Code
