import HugoStory.Proofs.Object.Inheritance
import HugoStory.Proofs.Machine.Record
import HugoStory.Report.ObjectView
/-! Objects in words, told with the numbers of a machine. Values are cast to an index or to a
word where they are shown as one, and this is done to values that are set, whose range is that of
the words they were read from. -/
namespace HugoStory.Machine.ObjectView
open Report.ObjectView (Wording firstSet? line)

def nameOf (story : Story) : PropertyValue → Checked String
  | .value number =>
    if 0 ≤ number then do
      let index ← unsigned addressLimit number
      return story.objectName index
    else return ""
  | value@(.routine _) => return value.toText

def shown (story : Story) (value : PropertyValue) : Wording → Checked String
  | .plain => return value.toText
  | .objectName => nameOf story value
  | .word => return story.wordFor value

def propertyLine (story : Story) (object : Object) (label : String) (number : Nat)
    (wording : Wording) : Checked String :=
  match firstSet? object number with
  | none => return ""
  | some value => do
    let text ← shown story value wording
    return line label text

def rankLine (object : Object) : Checked String :=
  match firstSet? object Library.parseRank with
  | none => return ""
  | some (.value number) => do
    let word ← unsigned wordLimit number
    let rank ← wrapped (UInt16.ofNat word)
    return line "parse rank" (toString rank)
  | some rank => return line "parse rank" rank.toText

def exitNumber (place : Nat) : Checked Nat := do
  let index ← below wordLimit place
  let number ← below wordLimit (Library.northTo + index)
  return number

def exitLine (story : Story) (object : Object) (place : Nat) (label : String)
    (wording : Wording) : Checked String := do
  let number ← exitNumber place
  propertyLine story object label number wording

def exitLines (story : Story) (object : Object) : Checked (List String) :=
  enumerate (fun place label => exitLine story object place label .objectName) 0
    Report.ObjectView.exits

def useLines (story : Story) (object : Object) : Checked (List String) :=
  enumerate (fun place (label, wording) => exitLine story object place label wording) 0
    Report.ObjectView.uses

def lines (story : Story) (index : Nat) (object : Object) : Checked (List String) := do
  let article ← propertyLine story object "article" Library.article .word
  let type ← propertyLine story object "type" Library.type .objectName
  let pronoun ← propertyLine story object "pronoun" Library.pronoun .word
  let preposition ← propertyLine story object "preposition" Library.preposition .word
  let foundIn ← propertyLine story object "found in" Library.foundIn .objectName
  let doorTo ← propertyLine story object "door to" Library.doorTo .word
  let cantGo ← propertyLine story object "can't go" Library.cantGo .word
  let rank ← rankLine object
  let ways ←
    if Report.ObjectView.isRoom object then exitLines story object else useLines story object
  return [
    toString index ++ ": " ++ story.objectName index ++ "\n",
    article,
    type,
    Report.ObjectView.wordsLine story object "nouns" Library.noun,
    Report.ObjectView.wordsLine story object "adjectives" Library.adjective,
    pronoun,
    preposition,
    foundIn,
    doorTo,
    cantGo,
    rank,
    Report.ObjectView.exclusionLine object] ++
    ways ++
    Report.ObjectView.customLines object ++
    [Report.ObjectView.attributesLine object,
      Report.ObjectView.relativeLine story "parent" object.parent,
      Report.ObjectView.relativeLine story "child" object.child,
      Report.ObjectView.relativeLine story "sibling" object.sibling]

def render (story : Story) (index : Nat) : Checked String :=
  match story.object? index with
  | none => return ""
  | some object => do
    let lines ← lines story index object
    return String.join lines

/-- The numbers among the values of an object are those that words are read as. -/
def Ranged (object : Object) : Prop :=
  ∀ number property, object.property? number = some property →
    ∀ value, .value value ∈ property → value ≤ 65535

theorem ranged_of_inherits {defaults : List Property} {object : Object}
    (inherits : Object.Inherits defaults object.properties) : Ranged object := by
  intro number property held value member
  exact ((inherits.allowed number property held).ranged value member).2

variable {story : Story} {object : Object}

private theorem Ranged.of_firstSet? (ranged : Ranged object) {number : Nat} {value : Int}
    (first : firstSet? object number = some (.value value)) : 0 < value ∧ value ≤ 65535 := by
  obtain ⟨first, positive⟩ := Option.filter_eq_some_iff.mp first
  obtain ⟨property, held, head⟩ := Option.bind_eq_some_iff.mp first
  have member := List.mem_of_head? head
  exact ⟨of_decide_eq_true positive, ranged number property held value member⟩

private theorem nameOf_eq {value : PropertyValue}
    (fits : ∀ number, value = .value number → number ≤ 65535) :
    nameOf story value = .ok (story.nameOf value) := by
  cases value with
  | routine address => rfl
  | value number =>
    have bound := fits number rfl
    unfold nameOf Story.nameOf addressLimit
    by_cases positive : 0 ≤ number
    · simp only [if_pos positive]
      rw [unsigned_eq positive (by omega)]
      rfl
    · simp only [if_neg positive]
      rfl

private theorem propertyLine_eq (ranged : Ranged object) (label : String) (number : Nat)
    (wording : Wording) :
    propertyLine story object label number wording =
      .ok (Report.ObjectView.propertyLine story object label number wording) := by
  unfold propertyLine Report.ObjectView.propertyLine
  cases first : firstSet? object number with
  | none => rfl
  | some value =>
    have fits (held : Int) (same : value = .value held) : held ≤ 65535 := by
      rw [same] at first
      exact (ranged.of_firstSet? first).2
    cases wording with
    | plain => rfl
    | word => rfl
    | objectName =>
      unfold shown
      simp only [nameOf_eq fits, ok_bind]
      rfl

private theorem rankLine_eq (ranged : Ranged object) :
    rankLine object = .ok (Report.ObjectView.rankLine object) := by
  unfold rankLine Report.ObjectView.rankLine wordLimit
  cases first : firstSet? object Library.parseRank with
  | none => rfl
  | some value =>
    cases value with
    | routine address => rfl
    | value number =>
      obtain ⟨positive, bound⟩ := ranged.of_firstSet? first
      simp only
      rw [unsigned_eq (by omega) (by omega), ok_bind, wrapped_eq]
      rfl

private theorem exitNumber_eq {place : Nat} (inside : place < 12) :
    exitNumber place = .ok (Library.northTo + place) := by
  have index : place < wordLimit := Nat.lt_trans inside (by decide)
  have number : Library.northTo + place < wordLimit :=
    Nat.lt_trans (Nat.add_lt_add_left inside Library.northTo) (by decide)
  unfold exitNumber
  rw [below_eq index, ok_bind]
  simp only [below_eq number, ok_bind]
  rfl

private theorem exitLine_eq (ranged : Ranged object) (label : String) (wording : Wording)
    {place : Nat}
    (inside : place < 12) :
    exitLine story object place label wording =
      .ok (Report.ObjectView.propertyLine story object label (Library.northTo + place)
        wording) := by
  unfold exitLine
  rw [exitNumber_eq inside, ok_bind, propertyLine_eq ranged]

private theorem exitLines_eq (ranged : Ranged object) :
    exitLines story object = .ok (Report.ObjectView.exitLines story object) := by
  unfold exitLines
  rw [enumerate_eq (fun _ label inside => exitLine_eq ranged label .objectName inside) (by decide)]
  simp only [Nat.zero_add]
  rfl

private theorem useLines_eq (ranged : Ranged object) :
    useLines story object = .ok (Report.ObjectView.useLines story object) := by
  unfold useLines
  rw [enumerate_eq (fun _ use inside => exitLine_eq ranged use.1 use.2 inside) (by decide)]
  simp only [Nat.zero_add]
  rfl

private theorem lines_eq (ranged : Ranged object) (index : Nat) :
    lines story index object = .ok (Report.ObjectView.lines story index object) := by
  unfold lines Report.ObjectView.lines
  simp only [propertyLine_eq ranged, rankLine_eq ranged, exitLines_eq ranged, useLines_eq ranged,
    ok_bind]
  by_cases room : Report.ObjectView.isRoom object
  · simp only [if_pos room]
    rfl
  · simp only [if_neg room]
    rfl

theorem render_eq (ranged : ∀ object ∈ story.objects, Ranged object) (index : Nat) :
    render story index = .ok (Report.ObjectView.render story index) := by
  unfold render Report.ObjectView.render Story.object?
  cases found : story.objects[index]? with
  | none => rfl
  | some object =>
    simp only [lines_eq (ranged object (List.mem_of_getElem? found)), ok_bind]
    rfl

end HugoStory.Machine.ObjectView
