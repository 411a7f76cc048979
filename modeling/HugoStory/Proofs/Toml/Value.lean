import HugoStory.Proofs.Toml.Integer
import HugoStory.Proofs.Toml.Line
/-! Values as they are written on a line: truth values, whole numbers, and lists of strings in
double quotes. Characters that may not stand in quotes for themselves are escaped, so any string can
be written. -/
namespace HugoStory.Toml

/-- Quotes and backslashes are escaped by a backslash, control characters by their code points. -/
def escaped (c : Char) : List Char :=
  if c = '"' then ['\\', '"']
  else if c = '\\' then ['\\', '\\']
  else if isPlain c then [c]
  else ['\\', 'u', '0', '0', (c.toNat / 16).digitChar, (c.toNat % 16).digitChar]

def quoted (name : List Char) : List Char := '"' :: (name.flatMap escaped ++ ['"'])

private theorem digitValue?_digitChar {n : Nat} (small : n < 16) :
    digitValue? n.digitChar = some n := by
  have all : ∀ n < 16, digitValue? n.digitChar = some n := by decide
  exact all n small

private theorem readQuoted_codePoint {c : Char} (low : c.toNat < 256) (done rest : List Char) :
    readQuoted false .plain done ('\\' :: 'u' :: '0' :: '0' :: (c.toNat / 16).digitChar ::
      (c.toNat % 16).digitChar :: rest) = readQuoted false .plain (c :: done) rest := by
  have high : digitValue? (c.toNat / 16).digitChar = some (c.toNat / 16) :=
    digitValue?_digitChar (by omega)
  have last : digitValue? (c.toNat % 16).digitChar = some (c.toNat % 16) :=
    digitValue?_digitChar (by omega)
  have zero : digitValue? '0' = some 0 := rfl
  have none : escaped? 'u' = none := rfl
  have valid : c.toNat.isValidChar := c.valid
  simp [readQuoted, high, last, zero, none, Nat.div_add_mod, valid]

private theorem readQuoted_escaped (c : Char) (done rest : List Char) :
    readQuoted false .plain done (escaped c ++ rest) = readQuoted false .plain (c :: done) rest := by
  unfold escaped
  split
  · rename_i quote
    subst quote
    rfl
  split
  · rename_i backslash
    subst backslash
    rfl
  split
  · rename_i noQuote noBackslash plain
    simp [readQuoted, noQuote, noBackslash, plain]
  · rename_i control
    have low : c.toNat < 256 := by
      simp [isPlain] at control
      omega
    exact readQuoted_codePoint low done rest

private theorem readQuoted_flatMap (name done rest : List Char) :
    readQuoted false .plain done (name.flatMap escaped ++ '"' :: rest) =
      some (done.reverse ++ name, rest) := by
  induction name generalizing done with
  | nil => simp [readQuoted]
  | cons c later ih =>
    rw [List.flatMap_cons, List.append_assoc, readQuoted_escaped, ih]
    simp

private theorem escaped_eq_cons (c : Char) :
    ∃ first rest, escaped c = first :: rest ∧ first ≠ '"' := by
  unfold escaped
  split
  · exact ⟨_, _, rfl, by decide⟩
  split
  · exact ⟨_, _, rfl, by decide⟩
  split
  · rename_i noQuote _ _
    exact ⟨_, _, rfl, noQuote⟩
  · exact ⟨_, _, rfl, by decide⟩

/-- Only three quotes in a row begin a long string. -/
private theorem readString_short {first second : Char} {rest : List Char}
    (short : first = second → ∀ third ∈ rest.head?, second ≠ third) :
    readString (first :: second :: rest) = readShort (first :: second :: rest) := by
  cases rest with
  | nil => rfl
  | cons third later =>
    have notLong : ¬(first = second ∧ second = third) := fun same => short same.1 third rfl same.2
    simp [readString, ← and_assoc, notLong]

private theorem readString_quoted (name : List Char) {rest : List Char}
    (closed : ∀ c ∈ rest.head?, c ≠ '"') : readString (quoted name ++ rest) = some (name, rest) := by
  have read : readShort (quoted name ++ rest) = some (name, rest) := by
    simpa [quoted, readShort] using readQuoted_flatMap name [] rest
  rw [← read]
  cases name with
  | nil => exact readString_short fun _ third there => (closed third there).symm
  | cons c later =>
    obtain ⟨first, more, spelled, noQuote⟩ := escaped_eq_cons c
    unfold quoted
    rw [List.flatMap_cons, spelled]
    exact readString_short fun same => absurd same.symm noQuote

private theorem readName_quoted (name : List Char) {rest : List Char}
    (closed : ∀ c ∈ rest.head?, c ≠ '"') : readName (quoted name ++ rest) = some (name, rest) := by
  have unbraced : readMark openBrace (quoted name ++ rest) = none := readMark_of_ne (by decide) _
  unfold readName
  rw [unbraced]
  exact readString_quoted name closed

def items (names : List (List Char)) : List Char := [',', ' '].intercalate (names.map quoted)

def list (names : List (List Char)) : List Char := '[' :: (items names ++ [']'])

private theorem items_cons_cons (name next : List Char) (later : List (List Char)) :
    items (name :: next :: later) = quoted name ++ ',' :: ' ' :: items (next :: later) := by
  unfold items
  rw [List.map_cons, List.map_cons, List.intercalate_cons_cons, List.append_assoc]
  rfl

private theorem readNames_space (bound : Nat) (done : List String) (text : List Char) :
    readNames bound done (' ' :: text) = readNames bound done text := by
  have skipped : skipFiller false (' ' :: text) = skipFiller false text := by
    simp [skipFiller, isBlank]
  rw [readNames.eq_def, skipped, ← readNames.eq_def]

private theorem readNames_quoted (name text : List Char) {mark : Char}
    (ends : mark = ',' ∨ mark = ']')
    (bound : Nat) (done : List String) :
    readNames (bound + 1) done (quoted name ++ mark :: text) =
      if mark = ',' then readNames bound (String.ofList name :: done) text
      else some ((String.ofList name :: done).reverse, text) := by
  have start : skipFiller false (quoted name ++ mark :: text) = quoted name ++ mark :: text :=
    skipFiller_cons rfl (by decide) _
  have going : readMark ']' (quoted name ++ mark :: text) = none := readMark_of_ne (by decide) _
  have read : readName (quoted name ++ mark :: text) = some (name, mark :: text) := by
    refine readName_quoted name fun c first => ?_
    obtain rfl := Option.mem_some_iff.mp first
    rcases ends with rfl | rfl <;> decide
  have stop : skipFiller false (mark :: text) = mark :: text := by
    rcases ends with rfl | rfl <;> exact skipFiller_cons rfl (by decide) _
  rw [readNames.eq_def]
  simp only [start, going, read, stop, Option.bind_eq_bind, Option.bind_some]
  rcases ends with rfl | rfl <;> rfl

private theorem readNames_items {names : List (List Char)} {bound : Nat}
    (enough : names.length ≤ bound)
    (done : List String) (rest : List Char) :
    readNames bound done (items names ++ ']' :: rest) =
      some (done.reverse ++ names.map String.ofList, rest) := by
  induction names generalizing bound done with
  | nil => cases bound <;> simp [items, readNames, skipFiller, readMark, isBlank]
  | cons name later ih =>
    obtain ⟨bound, rfl⟩ :=
      Nat.exists_eq_succ_of_ne_zero (Nat.ne_of_gt (Nat.zero_lt_of_lt enough))
    cases later with
    | nil =>
      rw [items, List.map_singleton, List.intercalate_singleton, readNames_quoted _ _ (.inr rfl)]
      simp
    | cons next later =>
      rw [items_cons_cons, List.append_assoc]
      simp only [List.cons_append]
      rw [readNames_quoted _ _ (.inl rfl), if_pos rfl, readNames_space,
        ih (Nat.le_of_succ_le_succ enough)]
      simp

private theorem length_le_items (names : List (List Char)) :
    names.length ≤ (items names).length := by
  induction names with
  | nil => exact Nat.le_refl 0
  | cons name later ih =>
    cases later with
    | nil => simp [items, quoted]
    | cons next later =>
      rw [items_cons_cons, List.length_append]
      simp only [List.length_cons] at ih ⊢
      omega

theorem readValue_list (names : List (List Char)) (rest : List Char) :
    readValue (list names ++ rest) = some (.names (names.map String.ofList), rest) := by
  have enough : names.length ≤ (items names ++ ']' :: rest).length := by
    have counted := length_le_items names
    rw [List.length_append]
    omega
  have read := readNames_items enough [] rest
  have opened : list names ++ rest = '[' :: (items names ++ ']' :: rest) := by simp [list]
  have notTrue (text : List Char) : readKeyword "true".toList ('[' :: text) = none := rfl
  have notFalse (text : List Char) : readKeyword "false".toList ('[' :: text) = none := rfl
  have inside (text : List Char) : readMark '[' ('[' :: text) = some text := rfl
  rw [opened]
  simp only [readValue, notTrue, notFalse, inside, read]
  rfl

theorem readValue_boolean (holds : Bool) (rest : List Char) :
    readValue ((toString holds).toList ++ '\n' :: rest) = some (.boolean holds, '\n' :: rest) := by
  cases holds <;> rfl

private theorem readValue_of_numeral {c : Char} (numeral : c.isDigit = true ∨ c = '-')
    (rest : List Char) :
    readValue (c :: rest) =
      (readInteger (c :: rest)).map fun (number, rest) => (.integer number, rest) := by
  have other (mark : Char) (stranger : mark.isDigit = false) (noMinus : '-' ≠ mark) : c ≠ mark := by
    rcases numeral with digit | rfl
    · exact ne_of_isDigit digit stranger
    · exact noMinus
  have noKeyword (mark : Char) (letters : List Char) (stranger : c ≠ mark) :
      readKeyword (mark :: letters) (c :: rest) = none := by
    simp [readKeyword, List.isPrefixOf, Ne.symm stranger]
  have notTrue : readKeyword "true".toList (c :: rest) = none :=
    noKeyword 't' ['r', 'u', 'e'] (other 't' rfl (by decide))
  have notFalse : readKeyword "false".toList (c :: rest) = none :=
    noKeyword 'f' ['a', 'l', 's', 'e'] (other 'f' rfl (by decide))
  have noList : readMark '[' (c :: rest) = none := readMark_of_ne (other _ rfl (by decide)) rest
  have noTable : readMark openBrace (c :: rest) = none :=
    readMark_of_ne (other _ (by decide) (by decide)) rest
  unfold readValue
  simp only [notTrue, notFalse, noList, noTable, Option.map_eq_bind]
  rfl

theorem readValue_integer (number : Int) (rest : List Char) :
    readValue ((toString number).toList ++ '\n' :: rest) =
      if Fits number then some (.integer number, '\n' :: rest) else none := by
  have read := readInteger_line number rest
  cases text : (toString number).toList with
  | nil => exact absurd text (Json.toString_int_ne_nil number)
  | cons c later =>
    have numeral : c.isDigit = true ∨ c = '-' :=
      Json.isDigit_or_minus_of_mem_toString (text ▸ List.mem_cons_self)
    rw [text, List.cons_append] at read
    rw [List.cons_append, readValue_of_numeral numeral, read]
    split <;> rfl

end HugoStory.Toml
