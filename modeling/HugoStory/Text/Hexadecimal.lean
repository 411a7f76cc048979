/-! Hexadecimal numbers as reports and messages show them: `0x` and at least a given
number of lower-case digits. -/
namespace HugoStory.Text.Hexadecimal

def digits (width n : Nat) : List Char :=
  List.leftpad width '0' (Nat.toDigits 16 n)

/-- `n` with the mark `0x` and at least `width` digits. -/
def render (width n : Nat) : String :=
  "0x" ++ String.ofList (digits width n)

end HugoStory.Text.Hexadecimal
