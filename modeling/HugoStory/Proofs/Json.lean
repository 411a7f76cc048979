import HugoStory.Proofs.Json.Token
/-! The text of a document can be read in one way only. Every value shows by its first character
what it is, and after each item there is a comma or the end of the line, so that no number runs
into what comes behind it. -/
namespace HugoStory.Json

def newLine (depth : Nat) : List Char := '\n' :: List.replicate (2 * depth) ' '

mutual

/-- The text of a value by itself, in the lines of `depth`. -/
def layout (depth : Nat) : Json → List Char
  | whole number => (toString number).toList
  | tenths count => (tenthsText count).toList
  | text content => (quoted content).toList
  | list [] => ['[', ']']
  | list (item :: rest) =>
    '[' :: (newLine (depth + 1) ++ (layout (depth + 1) item ++
      (layoutItems (depth + 1) rest ++ (newLine depth ++ [']']))))
  | object [] => ['{', '}']
  | object ((key, value) :: rest) =>
    '{' :: (newLine (depth + 1) ++ ((quoted key).toList ++ (':' :: ' ' :: (layout (depth + 1) value ++
      (layoutMembers (depth + 1) rest ++ (newLine depth ++ ['}']))))))

def layoutItems (depth : Nat) : List Json → List Char
  | [] => []
  | item :: rest => ',' :: (newLine depth ++ (layout depth item ++ layoutItems depth rest))

def layoutMembers (depth : Nat) : List (String × Json) → List Char
  | [] => []
  | (key, value) :: rest =>
    ',' :: (newLine depth ++ ((quoted key).toList ++ (':' :: ' ' :: (layout depth value ++
      layoutMembers depth rest))))

end

private theorem toList_lineBreak (depth : Nat) : (lineBreak depth).toList = newLine depth := by
  unfold lineBreak newLine
  rw [String.toList_append, String.toList_ofList, String.toList_ofList]
  rfl

mutual

private theorem toList_write (depth : Nat) (out : String) (document : Json) :
    (write depth out document).toList = out.toList ++ layout depth document := by
  match document with
  | whole number => simp [write, layout]
  | tenths count => simp [write, layout]
  | text content => simp [write, layout]
  | list [] => simp [write, layout]
  | list (item :: rest) =>
    simp [write, layout, toList_write (depth + 1) _ item, toList_writeItems (depth + 1) _ rest,
      toList_lineBreak]
  | object [] => simp [write, layout]
  | object ((key, value) :: rest) =>
    simp [write, layout, toList_write (depth + 1) _ value, toList_writeMembers (depth + 1) _ rest,
      toList_lineBreak]

private theorem toList_writeItems (depth : Nat) (out : String) (items : List Json) :
    (writeItems depth out items).toList = out.toList ++ layoutItems depth items := by
  match items with
  | [] => simp [writeItems, layoutItems]
  | item :: rest =>
    simp [writeItems, layoutItems, toList_write depth _ item, toList_writeItems depth _ rest,
      toList_lineBreak]

private theorem toList_writeMembers (depth : Nat) (out : String) (members : List (String × Json)) :
    (writeMembers depth out members).toList = out.toList ++ layoutMembers depth members := by
  match members with
  | [] => simp [writeMembers, layoutMembers]
  | (key, value) :: rest =>
    simp [writeMembers, layoutMembers, toList_write depth _ value,
      toList_writeMembers depth _ rest, toList_lineBreak]

end

private theorem toList_pretty (document : Json) : document.pretty.toList = layout 0 document :=
  toList_write 0 "" document

section Unique

inductive Shape
  | number
  | text
  | list
  | object

def shape : Json → Shape
  | whole _ | tenths _ => .number
  | text _ => .text
  | list _ => .list
  | object _ => .object

def Shape.ofChar (c : Char) : Shape :=
  if c = '"' then .text
  else if c = '[' then .list
  else if c = '{' then .object
  else .number

private theorem Shape.ofChar_of_numeral {c : Char} (numeral : Numeral c) : ofChar c = .number := by
  have quote : c ≠ '"' := by
    rintro rfl
    revert numeral
    unfold Numeral
    decide
  have bracket : c ≠ '[' := by
    rintro rfl
    revert numeral
    unfold Numeral
    decide
  have brace : c ≠ '{' := by
    rintro rfl
    revert numeral
    unfold Numeral
    decide
  unfold ofChar
  rw [if_neg quote, if_neg bracket, if_neg brace]

private theorem Shape.ofChar_quote : ofChar '"' = .text := by simp [ofChar]

private theorem Shape.ofChar_bracket : ofChar '[' = .list := by simp [ofChar]

private theorem Shape.ofChar_brace : ofChar '{' = .object := by simp [ofChar]

variable {depth : Nat} {rest rest' : List Char}

private theorem layout_number (depth : Nat) {document : Json} (number : document.shape = .number) :
    layout depth document ≠ [] ∧ ∀ c ∈ layout depth document, Numeral c := by
  match document with
  | whole number =>
    rw [layout]
    exact ⟨toString_int_ne_nil number, fun _ => numeral_of_mem_toString⟩
  | tenths count =>
    rw [layout]
    refine ⟨?_, fun _ => numeral_of_mem_tenthsText⟩
    rw [toList_tenthsText]
    exact List.append_ne_nil_of_right_ne_nil _ (List.cons_ne_nil _ _)

private theorem layout_opens (depth : Nat) (document : Json) (rest : List Char) :
    ∃ c later, layout depth document ++ rest = c :: later ∧ Shape.ofChar c = document.shape := by
  have ofNumber (number : document.shape = .number) :
      ∃ c later, layout depth document ++ rest = c :: later ∧ Shape.ofChar c = document.shape := by
    obtain ⟨filled, all⟩ := layout_number depth number
    obtain ⟨c, later, same⟩ := List.exists_cons_of_ne_nil filled
    rw [same] at all ⊢
    exact ⟨c, later ++ rest, rfl,
      (Shape.ofChar_of_numeral (all c List.mem_cons_self)).trans number.symm⟩
  match document with
  | whole _ | tenths _ => exact ofNumber rfl
  | text content =>
    rw [layout, toList_quoted]
    exact ⟨'"', _, rfl, Shape.ofChar_quote⟩
  | list [] | list (_ :: _) => exact ⟨'[', _, rfl, Shape.ofChar_bracket⟩
  | object [] | object (_ :: _) => exact ⟨'{', _, rfl, Shape.ofChar_brace⟩

private theorem number_unique {document document' : Json} (number : document.shape = .number)
    (number' : document'.shape = .number) (ends : Ends Numeral rest) (ends' : Ends Numeral rest')
    (same : layout depth document ++ rest = layout depth document' ++ rest') :
    document = document' ∧ rest = rest' := by
  obtain ⟨chars, behind⟩ := append_unique (layout_number depth number).2 (layout_number depth number').2
    ends ends' same
  refine ⟨?_, behind⟩
  cases document with
  | whole number =>
    cases document' with
    | whole number' => exact congrArg whole (toString_int_inj (String.toList_inj.mp chars))
    | tenths count => exact absurd (String.toList_inj.mp chars) (toString_ne_tenthsText _ count)
    | text _ | list _ | object _ => cases number'
  | tenths count =>
    cases document' with
    | whole number =>
      exact absurd (String.toList_inj.mp chars.symm) (toString_ne_tenthsText _ count)
    | tenths count' => exact congrArg tenths (tenthsText_inj (String.toList_inj.mp chars))
    | text _ | list _ | object _ => cases number'
  | text _ | list _ | object _ => cases number

/-- What closes a list or an object stands on a line of its own. -/
def Closes (rest : List Char) : Prop := rest.head? = some '\n'

private theorem not_numeral_comma : ¬Numeral ',' := by
  unfold Numeral
  decide

private theorem not_numeral_newline : ¬Numeral '\n' := by
  unfold Numeral
  decide

private theorem closes_newLine (depth : Nat) (rest : List Char) :
    Closes (newLine depth ++ rest) := rfl

private theorem Closes.ends (closes : Closes rest) : Ends Numeral rest := by
  intro c head
  cases closes.symm.trans head
  exact not_numeral_newline

private theorem ends_layoutItems (items : List Json) (closes : Closes rest) :
    Ends Numeral (layoutItems depth items ++ rest) := by
  match items with
  | [] => exact closes.ends
  | item :: items =>
    intro c head
    cases head
    exact not_numeral_comma

private theorem ends_layoutMembers (members : List (String × Json)) (closes : Closes rest) :
    Ends Numeral (layoutMembers depth members ++ rest) := by
  match members with
  | [] => exact closes.ends
  | (key, value) :: members =>
    intro c head
    cases head
    exact not_numeral_comma

private theorem items_of_list {items items' : List Json}
    (same : layout depth (list items) ++ rest = layout depth (list items') ++ rest') :
    layoutItems (depth + 1) items ++ (newLine depth ++ ']' :: rest) =
      layoutItems (depth + 1) items' ++ (newLine depth ++ ']' :: rest') := by
  match items, items' with
  | [], [] =>
    obtain rfl : rest = rest' := List.append_cancel_left same
    rfl
  | [], _ :: _ => cases same
  | _ :: _, [] => cases same
  | item :: items, item' :: items' =>
    simpa only [layout, layoutItems, List.cons_append, List.nil_append, List.append_assoc,
      List.cons.injEq, true_and] using same

private theorem members_of_object {members members' : List (String × Json)}
    (same : layout depth (object members) ++ rest = layout depth (object members') ++ rest') :
    layoutMembers (depth + 1) members ++ (newLine depth ++ '}' :: rest) =
      layoutMembers (depth + 1) members' ++ (newLine depth ++ '}' :: rest') := by
  match members, members' with
  | [], [] =>
    obtain rfl : rest = rest' := List.append_cancel_left same
    rfl
  | [], _ :: _ => cases same
  | _ :: _, [] => cases same
  | member :: members, member' :: members' =>
    simpa only [layout, layoutMembers, List.cons_append, List.nil_append, List.append_assoc,
      List.cons.injEq, true_and] using same

mutual

theorem layout_unique (depth : Nat) (document document' : Json) (rest rest' : List Char)
    (ends : Ends Numeral rest) (ends' : Ends Numeral rest')
    (same : layout depth document ++ rest = layout depth document' ++ rest') :
    document = document' ∧ rest = rest' := by
  have shapes : document.shape = document'.shape := by
    obtain ⟨c, later, opens, shape⟩ := layout_opens depth document rest
    obtain ⟨c', later', opens', shape'⟩ := layout_opens depth document' rest'
    rw [opens, opens'] at same
    rw [← shape, ← shape', (List.cons_eq_cons.mp same).1]
  cases document with
  | whole _ | tenths _ => exact number_unique rfl shapes.symm ends ends' same
  | text content =>
    cases document' with
    | text content' =>
      obtain ⟨rfl, behind⟩ := quoted_unique same
      exact ⟨rfl, behind⟩
    | whole _ | tenths _ | list _ | object _ => cases shapes
  | list items =>
    cases document' with
    | list items' =>
      obtain ⟨rfl, closing⟩ :=
        layoutItems_unique (depth + 1) items items' _ _ (closes_newLine _ _)
          (closes_newLine _ _) (items_of_list same)
      exact ⟨rfl, (List.cons_eq_cons.mp (List.append_cancel_left closing)).2⟩
    | whole _ | tenths _ | text _ | object _ => cases shapes
  | object members =>
    cases document' with
    | object members' =>
      obtain ⟨rfl, closing⟩ :=
        layoutMembers_unique (depth + 1) members members' _ _ (closes_newLine _ _)
          (closes_newLine _ _) (members_of_object same)
      exact ⟨rfl, (List.cons_eq_cons.mp (List.append_cancel_left closing)).2⟩
    | whole _ | tenths _ | text _ | list _ => cases shapes

private theorem layoutItems_unique (depth : Nat) (items items' : List Json) (rest rest' : List Char)
    (closes : Closes rest) (closes' : Closes rest')
    (same : layoutItems depth items ++ rest = layoutItems depth items' ++ rest') :
    items = items' ∧ rest = rest' := by
  match items, items' with
  | [], [] => exact ⟨rfl, same⟩
  | [], _ :: _ =>
    rw [layoutItems, List.nil_append] at same
    rw [same] at closes
    cases closes
  | _ :: _, [] =>
    rw [layoutItems.eq_1 depth, List.nil_append] at same
    rw [← same] at closes'
    cases closes'
  | item :: items, item' :: items' =>
    simp only [layoutItems, List.cons_append, List.append_assoc, List.cons.injEq, true_and,
      List.append_cancel_left_eq] at same
    obtain ⟨rfl, later⟩ := layout_unique depth item item' _ _ (ends_layoutItems items closes)
      (ends_layoutItems items' closes') same
    obtain ⟨rfl, behind⟩ := layoutItems_unique depth items items' _ _ closes closes' later
    exact ⟨rfl, behind⟩

private theorem layoutMembers_unique (depth : Nat) (members members' : List (String × Json))
    (rest rest' : List Char) (closes : Closes rest) (closes' : Closes rest')
    (same : layoutMembers depth members ++ rest = layoutMembers depth members' ++ rest') :
    members = members' ∧ rest = rest' := by
  match members, members' with
  | [], [] => exact ⟨rfl, same⟩
  | [], (_, _) :: _ =>
    rw [layoutMembers, List.nil_append] at same
    rw [same] at closes
    cases closes
  | (_, _) :: _, [] =>
    rw [layoutMembers.eq_1 depth, List.nil_append] at same
    rw [← same] at closes'
    cases closes'
  | (key, value) :: members, (key', value') :: members' =>
    simp only [layoutMembers, List.cons_append, List.append_assoc, List.cons.injEq, true_and,
      List.append_cancel_left_eq] at same
    obtain ⟨rfl, held⟩ := quoted_unique same
    simp only [List.cons.injEq, true_and] at held
    obtain ⟨rfl, later⟩ := layout_unique depth value value' _ _ (ends_layoutMembers members closes)
      (ends_layoutMembers members' closes') held
    obtain ⟨rfl, behind⟩ := layoutMembers_unique depth members members' _ _ closes closes' later
    exact ⟨rfl, behind⟩

end

/-- No two documents have the same text. -/
theorem pretty_inj {document document' : Json} (same : document.pretty = document'.pretty) :
    document = document' := by
  have chars := congrArg String.toList same
  rw [toList_pretty, toList_pretty, ← List.append_nil (layout 0 document),
    ← List.append_nil (layout 0 document')] at chars
  have ends : Ends Numeral [] := nofun
  exact (layout_unique 0 document document' [] [] ends ends chars).1

end Unique

end HugoStory.Json
