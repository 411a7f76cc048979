import HugoStory.Toml.Statement
/-! Documents of simple lines: a bare key, an equals sign and a value on each. What a line says hangs
on its own characters alone, and the statement that it makes comes before those of the text behind
it, whatever that is. -/
namespace HugoStory.Toml

def Bare (key : List Char) : Prop := key ≠ [] ∧ ∀ c ∈ key, isBare c = true

def assignment (key text : List Char) : List Char := key ++ ' ' :: '=' :: ' ' :: text

theorem skipBlanks_cons {c : Char} (visible : isBlank c = false) (rest : List Char) :
    skipBlanks (c :: rest) = c :: rest := by
  simp [skipBlanks, visible]

private theorem readKey_append {key rest : List Char} (bare : Bare key)
    (stops : ∀ c ∈ rest.head?, isBare c = false) : readKey (key ++ rest) = some (key, rest) := by
  obtain ⟨filled, bare⟩ := bare
  cases key with
  | nil => exact absurd rfl filled
  | cons first later =>
    have taken : (first :: later ++ rest).takeWhile isBare = first :: later := by
      rw [List.takeWhile_append_of_pos bare]
      cases rest with
      | nil => simp
      | cons c rest => simp [stops c rfl]
    have dropped : (first :: later ++ rest).dropWhile isBare = rest := by
      rw [List.dropWhile_append_of_pos bare]
      cases rest with
      | nil => rfl
      | cons c rest => simp [stops c rfl]
    rw [List.cons_append] at taken dropped ⊢
    rw [readKey, if_pos (bare first List.mem_cons_self), taken, dropped]

private theorem ne_of_bare {c other : Char} (bare : isBare c = true)
    (stranger : isBare other = false) :
    c ≠ other := by
  rintro rfl
  cases bare.symm.trans stranger

theorem skipFiller_cons {c : Char} (visible : isBlank c = false)
    (plain : c ≠ '\n' ∧ c ≠ '\r' ∧ c ≠ '#') (rest : List Char) :
    skipFiller false (c :: rest) = c :: rest := by
  obtain ⟨noLine, noReturn, noComment⟩ := plain
  simp [skipFiller, visible, noReturn, noComment]

private theorem skipFiller_of_bare {c : Char} (bare : isBare c = true) (rest : List Char) :
    skipFiller false (c :: rest) = c :: rest := by
  have space : c ≠ ' ' := ne_of_bare bare rfl
  have tab : c ≠ '\t' := ne_of_bare bare rfl
  exact skipFiller_cons (by simp [isBlank, space, tab])
    ⟨ne_of_bare bare rfl, ne_of_bare bare rfl, ne_of_bare bare rfl⟩ rest

theorem readMark_of_ne {mark c : Char} (other : c ≠ mark) (rest : List Char) :
    readMark mark (c :: rest) = none := if_neg other

section Assignment

variable {key : List Char} (bare : Bare key)
include bare

private theorem assignment_eq_cons (text : List Char) :
    ∃ c rest, assignment key text = c :: rest ∧ isBare c = true := by
  obtain ⟨filled, bare⟩ := bare
  cases key with
  | nil => exact absurd rfl filled
  | cons c later => exact ⟨c, _, rfl, bare c List.mem_cons_self⟩

/-- Behind a bare key and an equals sign there must be a value and the end of the line. -/
theorem readStatement_assignment (text : List Char) :
    readStatement (assignment key text) = (do
      let (value, rest) ← readValue (skipBlanks text)
      let rest ← readLineEnd rest
      return (.assign (String.ofList key) value, rest)) := by
  have unmarked : readMark '[' (assignment key text) = none := by
    obtain ⟨c, rest, same, begun⟩ := assignment_eq_cons bare text
    rw [same]
    exact readMark_of_ne (ne_of_bare begun rfl) _
  have read : readKey (assignment key text) = some (key, ' ' :: '=' :: ' ' :: text) :=
    readKey_append bare (by simp [isBare])
  have blank : skipBlanks (' ' :: text) = skipBlanks text := by simp [skipBlanks, isBlank]
  have equals : readMark '=' (skipBlanks (' ' :: '=' :: ' ' :: text)) = some (' ' :: text) := rfl
  unfold readStatement
  simp only [unmarked, read, equals, blank, Option.bind_eq_bind, Option.bind_some]

theorem readStatements_assignment (bound : Nat) (done : List Statement) (text : List Char) :
    readStatements (bound + 1) done (assignment key text) =
      (readStatement (assignment key text)).bind fun (statement, rest) =>
        readStatements bound (statement :: done) rest := by
  obtain ⟨c, rest, same, begun⟩ := assignment_eq_cons bare text
  rw [same, readStatements.eq_def, skipFiller_of_bare begun]
  rfl

theorem statements?_assignment (text : List Char) :
    statements? (String.ofList (assignment key text)) =
      readStatements (assignment key text).length [] (assignment key text) := by
  obtain ⟨c, rest, same, begun⟩ := assignment_eq_cons bare text
  have noMark : c ≠ byteOrderMark := ne_of_bare begun (by decide)
  unfold statements?
  rw [String.toList_ofList, same]
  simp only [if_neg noMark]

end Assignment

theorem readStatements_nil (bound : Nat) (done : List Statement) :
    readStatements bound done [] = some done.reverse := by
  unfold readStatements
  rfl

theorem readStatements_done (bound : Nat) (done : List Statement) (text : List Char) :
    readStatements bound done text = (readStatements bound [] text).map (done.reverse ++ ·) := by
  induction bound generalizing done text with
  | zero =>
    unfold readStatements
    split <;> simp_all
  | succ bound ih =>
    unfold readStatements
    split
    · simp
    · simp_all
    · rename_i c rest bound' skipped counted
      cases counted
      cases readStatement (c :: rest) with
      | none => rfl
      | some found =>
        simp only [Option.bind_eq_bind, Option.bind_some]
        rw [ih (found.1 :: done), ih [found.1]]
        simp [Function.comp_def]

/-- Whatever a text says, it first sets the key that it starts with. -/
theorem assign_of_readStatements {key text : List Char} (bare : Bare key) {bound : Nat}
    {statements : List Statement}
    (read : readStatements bound [] (assignment key text) = some statements) :
    ∃ value later, statements = .assign (String.ofList key) value :: later := by
  cases bound with
  | zero =>
    obtain ⟨c, rest, same, begun⟩ := assignment_eq_cons bare text
    rw [same, readStatements.eq_def, skipFiller_of_bare begun] at read
    cases read
  | succ bound =>
    rw [readStatements_assignment bare, readStatement_assignment bare] at read
    obtain ⟨⟨statement, rest⟩, line, read⟩ := Option.bind_eq_some_iff.mp read
    obtain ⟨⟨value, ending⟩, -, line⟩ := Option.bind_eq_some_iff.mp line
    obtain ⟨rest, -, line⟩ := Option.bind_eq_some_iff.mp line
    cases line
    dsimp only at read
    rw [readStatements_done] at read
    obtain ⟨later, -, rfl⟩ := Option.map_eq_some_iff.mp read
    exact ⟨value, later, rfl⟩

end HugoStory.Toml
