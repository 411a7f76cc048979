import HugoStory.Proofs.Machine.Image
/-! The verb grammar, read with the numbers of a machine. The reader walks on byte by byte, and a
step is only taken from a byte that is there. -/
namespace HugoStory.Machine
open Grammar

variable {image : Image}

def readVerbs (image : Image) : Nat → (place : Nat) → Checked (Stretch (List UInt16) place)
  | 0, place => return { value := [], next := place, reached := Nat.le_refl place }
  | count + 1, place => do
    let word ← wordAt image .grammar place
    let behind ← add place 2
    let rest ← readVerbs image count behind
    return {
      value := word :: rest.value
      next := rest.next
      reached := Nat.le_trans (le_sum behind) rest.reached }

def readLine (image : Image) (place : Nat) : Checked (Stretch (List UInt8) (place + 1)) := do
  let lengthPlace ← add place 1
  let length ← byteAt image .grammar lengthPlace
  let start ← add lengthPlace 1
  let stop ← add start (length.toNat - 1)
  let tokens ← slice image .grammar start stop
  let next ← add start (length.toNat - 1)
  return {
    value := tokens
    next
    reached := Nat.lt_of_lt_of_le (lt_sum lengthPlace Nat.one_pos)
      (Nat.le_trans (le_sum start) (le_sum next)) }

def readLines (image : Image) (place : Nat) : Checked (Stretch (List (List UInt8)) place) :=
  if place < image.size then do
    let line ← readLine image place
    let byte ← byteAt image .grammar line.next
    if byte = lineMark then
      let rest ← readLines image line.next
      return {
        value := line.value :: rest.value
        next := rest.next
        reached := Nat.le_trans (Nat.le_of_succ_le line.reached) rest.reached }
    else if (VerbKind.ofByte? byte).isSome ∨ byte = closingMark then
      return {
        value := [line.value]
        next := line.next
        reached := Nat.le_of_succ_le line.reached }
    else throw (.fault (.strayGrammarByte byte line.next))
  else return { value := [], next := place, reached := Nat.le_refl place }
termination_by image.size - place
decreasing_by
  have := line.reached
  omega

def readEntry (image : Image) (place : Nat) :
    Checked (Option (Stretch GrammarEntry (place + 1))) := do
  let byte ← byteAt image .grammar place
  if byte = closingMark then return none
  else
    match VerbKind.ofByte? byte with
    | none => throw (.fault (.unknownVerbKind byte place))
    | some kind =>
      let countPlace ← add place 1
      let count ← byteAt image .grammar countPlace
      let start ← add place 2
      let verbs ← readVerbs image count.toNat start
      let lines ← readLines image verbs.next
      return some {
        value := { kind, verbs := verbs.value, lines := lines.value }
        next := lines.next
        reached := Nat.lt_of_lt_of_le (lt_sum start Nat.two_pos)
          (Nat.le_trans verbs.reached lines.reached) }

def readGrammar (image : Image) : Checked (List GrammarEntry) :=
  readUpTo (readEntry image) image.size Grammar.start

variable (small : Addressable image)
include small

private theorem readVerbs_eq_lift (count place : Nat) :
    readVerbs image count place = lift (do
      let words ← image.words .grammar place count
      return {
        value := words
        next := place + 2 * count
        reached := Nat.le_add_right place (2 * count) }) := by
  induction count generalizing place with
  | zero => rfl
  | succ count ih =>
    rw [readVerbs, Image.words_succ]
    simp only [lift_bind, lift_pure, bind_assoc, pure_bind, wordAt_eq_lift small]
    apply lift_bind_congr
    intro word found
    have inside := lt_size_of_wordAt found
    simp (disch := omega) only [add_eq, ok_bind, ih, lift_bind, lift_pure, bind_assoc, pure_bind]
    apply lift_bind_congr
    intro words _
    refine congrArg pure (Stretch.ext rfl ?_)
    simp only
    omega

private theorem readLine_eq_lift {place : Nat} (inside : place < image.size) :
    readLine image place = lift (do
      let line ← Grammar.readLine image place
      return .ofRecord (fun _ tokens => tokens) place line) := by
  unfold readLine Grammar.readLine byteAt slice
  simp (disch := omega) only [lift_bind, lift_pure, bind_assoc, pure_bind, add_eq, ok_bind]
  apply lift_bind_congr
  intro length _
  have bound := length.toNat_lt
  simp (disch := omega) only [add_eq, ok_bind]
  apply lift_bind_congr
  intro tokens _
  refine congrArg pure (Stretch.ext rfl ?_)
  simp only [Stretch.ofRecord]
  omega

/-- The plain reader hands on the lines it has seen, the last one first; here they are put in
front of those that are still to come. -/
private theorem readLines_eq_lift (place : Nat) (seen : List (List UInt8)) :
    (do
      let lines ← readLines image place
      return (seen.reverse ++ lines.value, lines.next)) =
      lift (collectLines image place seen) := by
  generalize remaining : image.size - place = n
  induction n using Nat.strongRecOn generalizing place seen with
  | ind n ih =>
    unfold readLines
    by_cases inside : place < image.size
    · rw [if_pos inside, collectLines_of_lt inside, readLine_eq_lift small inside]
      simp only [lift_bind, lift_pure, bind_assoc, pure_bind]
      apply lift_bind_congr
      intro line _
      apply lift_bind_congr
      intro byte _
      have positive := line.width_pos
      simp only [Stretch.ofRecord]
      by_cases marked : byte = lineMark
      · rw [if_pos marked, if_pos marked,
          ← ih _ (by omega) (place + line.width) (line.value :: seen) rfl]
        simp only [bind_assoc, pure_bind, List.reverse_cons, List.append_assoc,
          List.singleton_append]
      · rw [if_neg marked, if_neg marked]
        by_cases ends : (VerbKind.ofByte? byte).isSome ∨ byte = closingMark
        · rw [if_pos ends, if_pos ends, List.reverse_cons]
          rfl
        · rw [if_neg ends, if_neg ends]
          rfl
    · rw [if_neg inside, collectLines_of_le (Nat.not_lt.mp inside), pure_bind, List.append_nil]
      rfl

private theorem readEntry_eq_lift {place : Nat} (inside : place < image.size) :
    readEntry image place = lift (do
      let record? ← Grammar.readEntry image place
      return record?.map (.ofRecord (fun _ entry => entry) place)) := by
  unfold readEntry Grammar.readEntry byteAt
  simp only [lift_bind, lift_pure, bind_assoc]
  apply lift_bind_congr
  intro byte _
  by_cases closing : byte = closingMark
  · rw [if_pos closing, if_pos closing]
    rfl
  rw [if_neg closing, if_neg closing]
  cases VerbKind.ofByte? byte with
  | none => rfl
  | some kind =>
    simp (disch := omega) only [add_eq, ok_bind, lift_bind, lift_pure, bind_assoc, pure_bind]
    apply lift_bind_congr
    intro count _
    simp only [readVerbs_eq_lift small, lift_bind, lift_pure, bind_assoc, pure_bind]
    apply lift_bind_congr
    intro verbs _
    unfold Grammar.readLines
    simp only [lift_bind, lift_pure, bind_assoc, pure_bind, ← readLines_eq_lift small]
    apply bind_congr
    intro lines
    refine congrArg (fun stretch => pure (some stretch)) (Stretch.ext rfl ?_)
    have reached := lines.reached
    simp only [Stretch.ofRecord]
    omega

theorem readGrammar_eq_lift : readGrammar image = lift (Grammar.read image) := by
  unfold readGrammar Grammar.read Grammar.readTable
  rw [readUpTo_eq_lift (fun _ => True) (fun place _ inside => readEntry_eq_lift small inside)
    (fun _ _ _ _ _ => trivial) trivial]

end HugoStory.Machine
