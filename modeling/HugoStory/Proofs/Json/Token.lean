import HugoStory.Json
/-! Strings and numbers as they stand in a document. A reader that knows where one starts knows
where it ends and what it is: a string is closed by the first quote that is not escaped, and a
number goes on as far as its digits do. -/
namespace HugoStory.Json

section Strings

def hexDigits : List Char := "0123456789abcdef".toList

/-- The character that a text inside quotes goes on with, and the rest. A quote that is not
escaped closes the text. -/
def unescaped : List Char → Option (Char × List Char)
  | '\\' :: 'u' :: '0' :: '0' :: high :: low :: rest =>
    some (Char.ofNat (16 * hexDigits.idxOf high + hexDigits.idxOf low), rest)
  | '\\' :: 'n' :: rest => some ('\n', rest)
  | '\\' :: 'r' :: rest => some ('\r', rest)
  | '\\' :: 't' :: rest => some ('\t', rest)
  | '\\' :: 'b' :: rest => some (Char.ofNat 0x08, rest)
  | '\\' :: 'f' :: rest => some (Char.ofNat 0x0c, rest)
  | '\\' :: c :: rest => some (c, rest)
  | '"' :: _ => none
  | c :: rest => some (c, rest)
  | [] => none

private theorem idxOf_hexDigit {n : Nat} (small : n < 16) : hexDigits.idxOf (hexDigit n) = n := by
  have all : ∀ n < 16, hexDigits.idxOf (hexDigit n) = n := by decide
  exact all n small

private theorem unescaped_plain {c : Char} (quote : c ≠ '"') (backslash : c ≠ '\\')
    (rest : List Char) :
    unescaped (c :: rest) = some (c, rest) := by
  unfold unescaped
  split <;> simp_all

private theorem unescaped_escaped (c : Char) (rest : List Char) :
    unescaped (escaped c ++ rest) = some (c, rest) := by
  unfold escaped
  by_cases quote : c = '"'
  · subst quote
    rfl
  rw [if_neg quote]
  by_cases backslash : c = '\\'
  · subst backslash
    rfl
  rw [if_neg backslash]
  by_cases newline : c = '\n'
  · subst newline
    rfl
  rw [if_neg newline]
  by_cases carriage : c = '\r'
  · subst carriage
    rfl
  rw [if_neg carriage]
  by_cases tab : c = '\t'
  · subst tab
    rfl
  rw [if_neg tab]
  have same : Char.ofNat c.toNat = c := Char.ofNat_toNat c
  by_cases backspace : c.toNat = 0x08
  · rw [backspace] at same
    subst same
    rfl
  rw [if_neg backspace]
  by_cases feed : c.toNat = 0x0c
  · rw [feed] at same
    subst same
    rfl
  rw [if_neg feed]
  by_cases control : c.toNat < 0x20
  · rw [if_pos control]
    change some (Char.ofNat (16 * hexDigits.idxOf (hexDigit (c.toNat / 16)) +
      hexDigits.idxOf (hexDigit (c.toNat % 16))), rest) = _
    rw [idxOf_hexDigit (by omega), idxOf_hexDigit (by omega), Nat.div_add_mod, same]
  · rw [if_neg control]
    exact unescaped_plain quote backslash rest

/-- What is quoted ends at the same quote, whatever comes behind it. -/
private theorem flatMap_escaped_unique {text text' rest rest' : List Char}
    (same : text.flatMap escaped ++ '"' :: rest = text'.flatMap escaped ++ '"' :: rest') :
    text = text' ∧ rest = rest' := by
  induction text generalizing text' with
  | nil =>
    cases text' with
    | nil => exact ⟨rfl, (List.cons_eq_cons.mp same).2⟩
    | cons c later =>
      have read := congrArg unescaped same
      rw [List.flatMap_cons, List.append_assoc, unescaped_escaped] at read
      cases read
  | cons c later ih =>
    have read := congrArg unescaped same
    rw [List.flatMap_cons, List.append_assoc, unescaped_escaped] at read
    cases text' with
    | nil => cases read
    | cons c' later' =>
      rw [List.flatMap_cons, List.append_assoc, unescaped_escaped] at read
      simp only [Option.some.injEq, Prod.mk.injEq] at read
      obtain ⟨rfl, behind⟩ := ih read.2
      exact ⟨by rw [read.1], behind⟩

theorem toList_quoted (content : String) :
    (quoted content).toList = '"' :: (content.toList.flatMap escaped ++ ['"']) := by
  unfold quoted
  rw [String.toList_ofList, List.cons_append]

theorem quoted_unique {content content' : String} {rest rest' : List Char}
    (same : (quoted content).toList ++ rest = (quoted content').toList ++ rest') :
    content = content' ∧ rest = rest' := by
  rw [toList_quoted, toList_quoted, List.cons_append, List.cons_append, List.append_assoc,
    List.append_assoc] at same
  obtain ⟨chars, behind⟩ := flatMap_escaped_unique (List.cons_eq_cons.mp same).2
  exact ⟨String.toList_inj.mp chars, behind⟩

end Strings

section Numbers

/-- The characters that numbers are made of. -/
def Numeral (c : Char) : Prop := c.isDigit = true ∨ c = '-' ∨ c = '.'

/-- Behind a number there is no character that could be part of it. -/
def Ends (p : Char → Prop) (rest : List Char) : Prop := ∀ c ∈ rest.head?, ¬p c

theorem append_unique {p : Char → Prop} {part part' rest rest' : List Char}
    (all : ∀ c ∈ part, p c) (all' : ∀ c ∈ part', p c) (ends : Ends p rest) (ends' : Ends p rest')
    (same : part ++ rest = part' ++ rest') : part = part' ∧ rest = rest' := by
  induction part generalizing part' with
  | nil =>
    cases part' with
    | nil => exact ⟨rfl, same⟩
    | cons c later =>
      rw [List.nil_append] at same
      exact absurd (all' c List.mem_cons_self) (ends c (by rw [same]; rfl))
  | cons c later ih =>
    cases part' with
    | nil =>
      rw [List.nil_append] at same
      exact absurd (all c List.mem_cons_self) (ends' c (by rw [← same]; rfl))
    | cons c' later' =>
      obtain ⟨rfl, later⟩ := List.cons_eq_cons.mp same
      obtain ⟨rfl, behind⟩ := ih (List.forall_mem_cons.mp all).2 (List.forall_mem_cons.mp all').2 later
      exact ⟨rfl, behind⟩

private theorem isDigit_of_mem_toString {n : Nat} {c : Char} (member : c ∈ (toString n).toList) :
    c.isDigit = true := by
  rw [Nat.toString_eq_ofList_toDigits, String.toList_ofList] at member
  exact Nat.isDigit_of_mem_toDigits (by decide) (by decide) member

theorem toString_nat_inj {n n' : Nat} (same : toString n = toString n') : n = n' := by
  rw [Nat.toString_eq_ofList_toDigits, Nat.toString_eq_ofList_toDigits] at same
  have digits := congrArg String.toList same
  rw [String.toList_ofList, String.toList_ofList] at digits
  have value := congrArg (Nat.ofDigitChars 10 · 0) digits
  simpa only [Nat.ofDigitChars_ten_toDigits] using value

theorem toString_negSucc (n : Nat) : toString (Int.negSucc n) = "-" ++ toString (n + 1) := rfl

private theorem toString_ofNat_ne_negSucc (n n' : Nat) :
    toString n ≠ toString (Int.negSucc n') := by
  intro same
  have minus : '-' ∈ (toString n).toList := by
    rw [same, toString_negSucc, String.toList_append]
    exact List.mem_append_left _ (List.mem_singleton.mpr rfl)
  exact absurd (isDigit_of_mem_toString minus) (by decide)

theorem toString_int_inj {number number' : Int} (same : toString number = toString number') :
    number = number' := by
  cases number with
  | ofNat n =>
    cases number' with
    | ofNat n' => exact congrArg Int.ofNat (toString_nat_inj same)
    | negSucc n' => exact absurd same (toString_ofNat_ne_negSucc n n')
  | negSucc n =>
    cases number' with
    | ofNat n' => exact absurd same.symm (toString_ofNat_ne_negSucc n' n)
    | negSucc n' =>
      rw [toString_negSucc, toString_negSucc] at same
      have chars := congrArg String.toList same
      rw [String.toList_append, String.toList_append] at chars
      have later := toString_nat_inj (String.toList_inj.mp (List.append_cancel_left chars))
      rw [Nat.succ.inj later]

private theorem toString_nat_ne_nil (n : Nat) : (toString n).toList ≠ [] := by
  rw [Nat.toString_eq_ofList_toDigits, String.toList_ofList]
  exact Nat.toDigits_ne_nil

theorem toString_int_ne_nil (number : Int) : (toString number).toList ≠ [] := by
  cases number with
  | ofNat n => exact toString_nat_ne_nil n
  | negSucc n =>
    rw [toString_negSucc, String.toList_append]
    exact List.cons_ne_nil _ _

theorem isDigit_or_minus_of_mem_toString {number : Int} {c : Char}
    (member : c ∈ (toString number).toList) : c.isDigit = true ∨ c = '-' := by
  cases number with
  | ofNat n => exact .inl (isDigit_of_mem_toString member)
  | negSucc n =>
    rw [toString_negSucc, String.toList_append] at member
    rcases List.mem_append.mp member with minus | digits
    · exact .inr (List.mem_singleton.mp minus)
    · exact .inl (isDigit_of_mem_toString digits)

theorem numeral_of_mem_toString {number : Int} {c : Char} (member : c ∈ (toString number).toList) :
    Numeral c :=
  (isDigit_or_minus_of_mem_toString member).imp id .inl

theorem toList_tenthsText (count : Nat) :
    (tenthsText count).toList =
      (toString (count / 10)).toList ++ '.' :: (toString (count % 10)).toList := by
  unfold tenthsText
  rw [String.toList_append, String.toList_append, List.append_assoc]
  rfl

theorem numeral_of_mem_tenthsText {count : Nat} {c : Char} (member : c ∈ (tenthsText count).toList) :
    Numeral c := by
  rw [toList_tenthsText] at member
  rcases List.mem_append.mp member with whole | behind
  · exact .inl (isDigit_of_mem_toString whole)
  · rcases List.mem_cons.mp behind with point | tenth
    · exact .inr (.inr point)
    · exact .inl (isDigit_of_mem_toString tenth)

theorem toString_ne_tenthsText (number : Int) (count : Nat) : toString number ≠ tenthsText count := by
  intro same
  have point : '.' ∈ (tenthsText count).toList := by
    rw [toList_tenthsText]
    exact List.mem_append_right _ List.mem_cons_self
  rw [← same] at point
  exact absurd (isDigit_or_minus_of_mem_toString point) (by decide)

theorem tenthsText_inj {count count' : Nat} (same : tenthsText count = tenthsText count') :
    count = count' := by
  have chars := congrArg String.toList same
  rw [toList_tenthsText, toList_tenthsText] at chars
  have ends (tenth : Nat) : Ends (fun c => c.isDigit = true) ('.' :: (toString tenth).toList) := by
    intro c point
    cases point
    decide
  obtain ⟨whole, behind⟩ := append_unique (fun _ => isDigit_of_mem_toString)
    (fun _ => isDigit_of_mem_toString) (ends _) (ends _) chars
  have quotient := toString_nat_inj (String.toList_inj.mp whole)
  have remainder := toString_nat_inj (String.toList_inj.mp (List.cons_eq_cons.mp behind).2)
  omega

end Numbers

end HugoStory.Json
