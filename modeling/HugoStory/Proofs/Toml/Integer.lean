import HugoStory.Proofs.Json.Token
import HugoStory.Toml.Integer
/-! Whole numbers in decimal. A number at the end of a line is read back from its digits, as long as
it fits in 64 bits. -/
namespace HugoStory.Toml

private theorem digitValue?_of_isDigit {c : Char} (digit : c.isDigit = true) :
    digitValue? c = some (c.toNat - '0'.toNat) := by
  have bounds : '0' ≤ c ∧ c ≤ '9' := by simpa [Char.isDigit, Char.le_def] using digit
  exact if_pos bounds

private theorem isDigit_ten {c : Char} (digit : c.isDigit = true) : isDigit 10 c = true := by
  have bound : c.toNat ≤ '9'.toNat := by
    simp only [Char.isDigit, Bool.and_eq_true, decide_eq_true_eq] at digit
    exact digit.2
  rw [isDigit, digitValue?_of_isDigit digit]
  exact decide_eq_true (by simp at bound ⊢; omega)

theorem ne_of_isDigit {c other : Char} (digit : c.isDigit = true) (stranger : other.isDigit = false) :
    c ≠ other := by
  rintro rfl
  cases digit.symm.trans stranger

private theorem digitsValue?_ten {digits : List Char} (all : ∀ c ∈ digits, c.isDigit = true)
    {behindDigit : Bool} (begun : digits ≠ [] ∨ behindDigit = true) (value : Nat) :
    digitsValue? 10 behindDigit value digits = some (Nat.ofDigitChars 10 digits value) := by
  induction digits generalizing behindDigit value with
  | nil => simp [digitsValue?, begun.resolve_left (fun filled => filled rfl)]
  | cons c rest ih =>
    rw [List.forall_mem_cons] at all
    have digit : (digitValue? c).filter (· < 10) = some (c.toNat - '0'.toNat) := by
      have small := isDigit_ten all.1
      rw [isDigit, digitValue?_of_isDigit all.1] at small
      rw [digitValue?_of_isDigit all.1]
      exact Option.filter_some_pos small
    rw [digitsValue?, if_neg (ne_of_isDigit all.1 rfl), digit, Nat.ofDigitChars_cons]
    exact ih all.2 (.inr rfl) _

private theorem readDigits_line {digits : List Char} (filled : digits ≠ [])
    (all : ∀ c ∈ digits, c.isDigit = true) (rest : List Char) :
    readDigits 10 (digits ++ '\n' :: rest) =
      some (Nat.ofDigitChars 10 digits 0, '\n' :: rest) := by
  have parts (c : Char) (member : c ∈ digits) : (isDigit 10 c || decide (c = '_')) = true := by
    rw [isDigit_ten (all c member), Bool.true_or]
  have stop : (isDigit 10 '\n' || decide ('\n' = '_')) = false := rfl
  simp only [readDigits]
  rw [List.takeWhile_append_of_pos parts, List.dropWhile_append_of_pos parts]
  simp only [List.takeWhile_cons, List.dropWhile_cons, stop, Bool.false_eq_true, if_false,
    List.append_nil, digitsValue?_ten all (.inl filled), Option.bind_eq_bind, Option.bind_some]
  rfl

private theorem head?_toDigits_ne_zero {n : Nat} (positive : 0 < n) :
    (Nat.toDigits 10 n).head? ≠ some '0' := by
  induction n using Nat.base_induction 10 (by decide) with
  | single n small =>
    rw [Nat.toDigits_of_lt_base small]
    simp [Nat.ne_of_gt positive]
  | digit n k smallDigit earlier ih =>
    rw [← Nat.toDigits_append_toDigits (by decide) earlier smallDigit, List.head?_append,
      Option.or_of_isSome (List.isSome_head?.mpr Nat.toDigits_ne_nil)]
    exact ih earlier

private theorem readDecimal_of_ne {c : Char} (noZero : c ≠ '0') (rest : List Char) :
    readDecimal (c :: rest) = readDigits 10 (c :: rest) := by
  unfold readDecimal
  split
  · rename_i same
    exact absurd (List.cons_eq_cons.mp same).1 noZero
  · rfl

private theorem readUnsigned_of_ne {c : Char} (noZero : c ≠ '0') (rest : List Char) :
    readUnsigned (c :: rest) = readDigits 10 (c :: rest) := by
  rw [← readDecimal_of_ne noZero]
  unfold readUnsigned
  split
  case h_4 => rfl
  all_goals
    rename_i same
    exact absurd (List.cons_eq_cons.mp same).1 noZero

private theorem reads_line (n : Nat) (rest : List Char) :
    readDecimal (Nat.toDigits 10 n ++ '\n' :: rest) = some (n, '\n' :: rest) ∧
      readUnsigned (Nat.toDigits 10 n ++ '\n' :: rest) = some (n, '\n' :: rest) := by
  rcases Nat.eq_zero_or_pos n with rfl | positive
  · exact ⟨rfl, rfl⟩
  · have all (c : Char) (member : c ∈ Nat.toDigits 10 n) : c.isDigit = true :=
      Nat.isDigit_of_mem_toDigits (by decide) (by decide) member
    have read := readDigits_line Nat.toDigits_ne_nil all rest
    rw [Nat.ofDigitChars_ten_toDigits] at read
    have begin := head?_toDigits_ne_zero positive
    cases digits : Nat.toDigits 10 n with
    | nil => exact absurd digits Nat.toDigits_ne_nil
    | cons first later =>
      rw [digits] at read begin
      have noZero : first ≠ '0' := fun zero => begin (congrArg some zero)
      rw [List.cons_append] at read ⊢
      rw [readDecimal_of_ne noZero, readUnsigned_of_ne noZero]
      exact ⟨read, read⟩

/-- Numbers in two's complement. -/
def Fits (number : Int) : Prop := -(largest + 1) ≤ number ∧ number ≤ largest

instance (number : Int) : Decidable (Fits number) := inferInstanceAs (Decidable (_ ∧ _))

private theorem readInteger_of_isDigit {c : Char} (digit : c.isDigit = true) (rest : List Char) :
    readInteger (c :: rest) = (readUnsigned (c :: rest)).bind fun (value, rest) =>
      if value ≤ largest then some ((value : Int), rest) else none := by
  unfold readInteger
  split
  · rename_i same
    exact absurd (List.cons_eq_cons.mp same).1 (ne_of_isDigit digit rfl)
  · rename_i same
    exact absurd (List.cons_eq_cons.mp same).1 (ne_of_isDigit digit rfl)
  · rfl

theorem readInteger_line (number : Int) (rest : List Char) :
    readInteger ((toString number).toList ++ '\n' :: rest) =
      if Fits number then some (number, '\n' :: rest) else none := by
  cases number with
  | ofNat n =>
    have text : (toString (Int.ofNat n)).toList = Nat.toDigits 10 n :=
      (congrArg String.toList Nat.toString_eq_ofList_toDigits).trans String.toList_ofList
    have read := (reads_line n rest).2
    have digit (c : Char) (member : c ∈ Nat.toDigits 10 n) : c.isDigit = true :=
      Nat.isDigit_of_mem_toDigits (by decide) (by decide) member
    rw [text]
    cases digits : Nat.toDigits 10 n with
    | nil => exact absurd digits Nat.toDigits_ne_nil
    | cons first later =>
      rw [digits] at read digit
      rw [List.cons_append] at read ⊢
      rw [readInteger_of_isDigit (digit first List.mem_cons_self), read, Option.bind_some]
      have fits : Fits (Int.ofNat n) ↔ n ≤ largest := by
        simp only [Fits, Int.ofNat_eq_natCast]
        omega
      simp only [fits]
      rfl
  | negSucc n =>
    have text : (toString (Int.negSucc n)).toList = '-' :: Nat.toDigits 10 (n + 1) := by
      rw [Json.toString_negSucc, String.toList_append, Nat.toString_eq_ofList_toDigits]
      exact congrArg _ String.toList_ofList
    rw [text, List.cons_append]
    unfold readInteger
    simp only [(reads_line (n + 1) rest).1, Option.bind_eq_bind, Option.bind_some]
    have fits : Fits (Int.negSucc n) ↔ n + 1 ≤ largest + 1 := by
      unfold Fits
      omega
    simp only [fits]
    rfl

end HugoStory.Toml
