import HugoStory.FileTree
/-! What a path leads to hangs only on the places where following it stops by. A new file at the root
of a tree is found under its name, and paths that do not stop by it lead where they did before. -/
namespace HugoStory.FileTree

variable {tree tree' : FileTree}

def onward (names : List (List Char)) (part : List Char) : Option (List (List Char)) :=
  if isIdle part then some names
  else if isParent part then if names = [] then none else some names.dropLast
  else some (names ++ [part])

/-- The places in the tree where following parts of a path stops by. -/
def stops (tree : FileTree) (names : Option (List (List Char))) :
    List (List Char) → List (List (List Char))
  | [] => names.toList
  | part :: rest =>
    match names with
    | none => if isIdle part ∨ isParent part then stops tree none rest else []
    | some names =>
      match tree.node names with
      | .directory => names :: stops tree (onward names part) rest
      | _ => [names]

def stopsOn (tree : FileTree) (path : String) : List (List (List Char)) :=
  match path.toList with
  | [] => []
  | c :: rest =>
    if c = '/' then tree.stops none (parts rest) else tree.stops (some []) (parts (c :: rest))

private theorem lookup_of_cons {path : String} {c : Char} {rest : List Char}
    (text : path.toList = c :: rest) :
    tree.lookup path =
      if c = '/' then tree.walk none (parts rest) else tree.walk (some []) (parts (c :: rest)) := by
  unfold lookup
  rw [text]
  split
  · rename_i empty
    cases empty
  · rename_i rooted
    obtain ⟨rfl, rfl⟩ := List.cons.inj rooted
    rw [if_pos rfl]
  · rename_i relative
    rw [if_neg]
    rintro rfl
    exact relative rest rfl

private theorem walk_some_cons (names : List (List Char)) (part : List Char)
    (rest : List (List Char)) :
    tree.walk (some names) (part :: rest) =
      match tree.node names with
      | .missing => .missing
      | .directory => tree.walk (onward names part) rest
      | _ => .throughFile := by
  simp only [walk, onward]
  cases tree.node names with
  | missing => rfl
  | throughFile => rfl
  | file contents => rfl
  | directory =>
    dsimp only
    split
    · rfl
    · split <;> rfl

private theorem walk_congr {names : Option (List (List Char))} {rest : List (List Char)}
    (same : ∀ place ∈ tree.stops names rest, tree'.node place = tree.node place) :
    tree'.walk names rest = tree.walk names rest := by
  induction rest generalizing names with
  | nil =>
    cases names with
    | none => rfl
    | some names => exact same names (List.mem_singleton_self names)
  | cons part rest ih =>
    cases names with
    | none =>
      simp only [walk, stops] at same ⊢
      split
      · rename_i stays
        rw [if_pos stays] at same
        exact ih same
      · rfl
    | some names =>
      have here : tree'.node names = tree.node names := by
        apply same
        simp only [stops]
        split <;> exact List.mem_cons_self
      rw [walk_some_cons, walk_some_cons, here]
      cases reached : tree.node names with
      | missing => rfl
      | throughFile => rfl
      | file contents => rfl
      | directory =>
        simp only [stops, reached, List.forall_mem_cons] at same
        exact ih same.2

private theorem lookup_congr {path : String}
    (same : ∀ place ∈ tree.stopsOn path, tree'.node place = tree.node place) :
    tree'.lookup path = tree.lookup path := by
  cases text : path.toList with
  | nil => simp only [lookup, text]
  | cons c later =>
    rw [lookup_of_cons text, lookup_of_cons text]
    simp only [stopsOn, text] at same
    split
    · rename_i rooted
      rw [if_pos rooted] at same
      exact walk_congr same
    · rename_i relative
      rw [if_neg relative] at same
      exact walk_congr same

private theorem parts_of_plain {name : List Char} (filled : name ≠ []) (plain : '/' ∉ name) :
    parts name = [name] := by
  induction name with
  | nil => exact absurd rfl filled
  | cons c later ih =>
    rw [List.mem_cons, not_or] at plain
    cases later with
    | nil => simp [parts, Ne.symm plain.1]
    | cons next later =>
      rw [parts, if_neg (Ne.symm plain.1), ih (List.cons_ne_nil _ _) plain.2]

private theorem lookup_of_plain {name : String} (filled : name ≠ "") (plain : '/' ∉ name.toList) :
    tree.lookup name = tree.walk (some []) [name.toList] := by
  have some : name.toList ≠ [] := fun empty => filled (String.toList_eq_nil_iff.mp empty)
  rw [← parts_of_plain some plain]
  cases text : name.toList with
  | nil => exact absurd text some
  | cons c later =>
    have relative : c ≠ '/' := by
      rintro rfl
      rw [text] at plain
      exact plain List.mem_cons_self
    rw [lookup_of_cons text, if_neg relative]

/-- A name that leads nowhere in a tree and can be given to a file at its root. -/
structure Spare (tree : FileTree) (name : String) : Prop where
  filled : name ≠ ""
  plain : '/' ∉ name.toList
  free : tree.lookup name = .missing

namespace Spare

variable {files : List (String × ByteArray)} {name : String} {contents : ByteArray}

private theorem node_nil (spare : Spare tree name) : tree.node [] = .directory := by
  have free := spare.free
  rw [lookup_of_plain spare.filled spare.plain, walk_some_cons] at free
  unfold node at free ⊢
  split
  · rename_i found
    simp only [found] at free
    cases free
  · rfl

private theorem walk_onward (spare : Spare tree name) :
    tree.walk (onward [] name.toList) [] = .missing := by
  have free := spare.free
  rwa [lookup_of_plain spare.filled spare.plain, walk_some_cons, spare.node_nil] at free

private theorem isIdle_eq_false (spare : Spare tree name) : isIdle name.toList = false := by
  rw [← Bool.not_eq_true]
  intro idle
  have lost := spare.walk_onward
  rw [onward, if_pos idle] at lost
  cases spare.node_nil.symm.trans lost

private theorem onward_eq (spare : Spare tree name) :
    onward [] name.toList = some [name.toList] := by
  have lost := spare.walk_onward
  unfold onward at lost ⊢
  rw [if_neg (Bool.not_eq_true _ ▸ spare.isIdle_eq_false)] at lost ⊢
  split
  · rename_i parent
    rw [if_pos parent] at lost
    cases lost
  · rfl

private theorem files_ofList_cons (spare : Spare tree name) :
    (ofList ((name, contents) :: files)).files =
      ([name.toList], contents) :: (ofList files).files := by
  have some : name.toList ≠ [] := fun empty => spare.filled (String.toList_eq_nil_iff.mp empty)
  simp [ofList, parts_of_plain some spare.plain, spare.isIdle_eq_false]

private theorem node_ofList_cons_of_ne (spare : Spare tree name) {names : List (List Char)}
    (other : names ≠ [name.toList]) :
    (ofList ((name, contents) :: files)).node names = (ofList files).node names := by
  have unfound : (names == [name.toList]) = false := beq_eq_false_iff_ne.mpr other
  have above : names.isPrefixOf [name.toList] = true → names = [] := by
    intro begins
    rw [List.isPrefixOf_iff_prefix, List.prefix_cons_iff] at begins
    obtain rfl | ⟨later, rfl, begins⟩ := begins
    · rfl
    · exact absurd (by rw [List.prefix_nil.mp begins]) other
  unfold node
  rw [spare.files_ofList_cons, List.lookup_cons, unfound]
  cases (ofList files).files.lookup names with
  | some found => rfl
  | none =>
    have same (held : Bool) : (names = [] ∨ (names.isPrefixOf [name.toList] || held) = true) ↔
        (names = [] ∨ held = true) := by
      rw [Bool.or_eq_true, ← or_assoc, or_iff_left_of_imp above]
    simp only [List.any_cons, same]

theorem lookup_ofList_cons (spare : Spare (ofList files) name) :
    (ofList ((name, contents) :: files)).lookup name = .file contents := by
  have root : (ofList ((name, contents) :: files)).node [] = .directory := by
    rw [spare.node_ofList_cons_of_ne (List.cons_ne_nil _ _).symm, spare.node_nil]
  have here : (ofList ((name, contents) :: files)).node [name.toList] = .file contents := by
    unfold node
    rw [spare.files_ofList_cons, List.lookup_cons_self]
  rw [lookup_of_plain spare.filled spare.plain, walk_some_cons, root, spare.onward_eq]
  exact here

theorem lookup_ofList_cons_of_unnamed (spare : Spare (ofList files) name) {path : String}
    (unnamed : [name.toList] ∉ (ofList files).stopsOn path) :
    (ofList ((name, contents) :: files)).lookup path = (ofList files).lookup path :=
  lookup_congr fun _ among => spare.node_ofList_cons_of_ne (ne_of_mem_of_not_mem among unnamed)

end Spare

end HugoStory.FileTree
