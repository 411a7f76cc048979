import HugoStory.Proofs.Object.Inheritance
import HugoStory.Proofs.OrderedMap
import HugoStory.Proofs.Machine.Image
/-! The object table, read with the numbers of a machine. The stream of an object is looked for at
a sum of two offsets, and its default properties are filed under numbers cast to a word. -/
namespace HugoStory.Machine
open Override Object

variable {image : Image}

def readOverride (image : Image) (place : Nat) :
    Checked (Option (Stretch Override (place + 1))) := do
  let number ← byteAt image .objects place
  if number = closingMark then do
    let _behind ← add place 1
    return none
  else
    let behind ← add place 2
    let countPlace ← sub behind 1
    let count ← byteAt image .objects countPlace
    if count = routineMark then
      let address ← wordAt image .objects behind
      let next ← add behind 2
      return some {
        value := .routine number address
        next
        reached := Nat.lt_of_lt_of_le (lt_sum behind Nat.two_pos) (le_sum next) }
    else if count = 0 then
      return some {
        value := .zeroFirst number
        next := behind
        reached := lt_sum behind Nat.two_pos }
    else
      let held ← words image .objects behind count.toNat
      let width ← mul count.toNat 2
      let next ← add behind width
      return some {
        value := .words number held
        next
        reached := Nat.lt_of_lt_of_le (lt_sum behind Nat.two_pos) (le_sum next) }

def readStream (image : Image) (place : Nat) : Checked (List Override) :=
  readUpTo (readOverride image) image.size place

/-- The default properties with their numbers, in the order in which they are filed. -/
def numberEntries (defaults : List Property) : Checked (List (Nat × Property)) :=
  enumerate (fun place property => do
    let number ← below wordLimit place
    return (number.1, property)) 0 defaults

def numbered (defaults : List Property) : Checked (OrderedMap Nat Property) := do
  let entries ← numberEntries defaults
  return .ofEntries entries

def readObject (image : Image) (propertyTable : Nat) (defaults : List Property) (place : Nat) :
    Checked (Stretch Object (place + 1)) := do
  let attributesEnd ← add place attributeBytes
  let bits ← slice image .objects place attributesEnd
  let parentPlace ← add place parentOffset
  let parent ← wordAt image .objects parentPlace
  let siblingPlace ← add place siblingOffset
  let sibling ← wordAt image .objects siblingPlace
  let childPlace ← add place childOffset
  let child ← wordAt image .objects childPlace
  let properties ← numbered defaults
  let streamPlace ← add place streamOffset
  let stream ← wordAt image .objects streamPlace
  let streamStart ← add stream.toNat propertyTable
  let overrides ← readStream image streamStart
  let next ← add place recordWidth
  return {
    value := {
      attributes := Attribute.inBytes bits
      parent, sibling, child
      properties := overrides.foldl Override.apply properties }
    next
    reached := lt_sum next (Nat.succ_pos _) }

def readObjects (image : Image) (offset count propertyTable : Nat) (defaults : List Property) :
    Checked (List Object) := do
  let start ← add offset 2
  readCount (readObject image propertyTable defaults) count start

theorem numberEntries_eq {defaults : List Property} (few : defaults.length ≤ 0x10000) :
    numberEntries defaults = .ok (Object.numbered defaults).entries := by
  have formed (place : Nat) (property : Property) (fits : place < wordLimit) :
      (do
        let number ← below wordLimit place
        return (number.1, property) : Checked (Nat × Property)) = .ok (place, property) := by
    rw [below_eq fits]
    rfl
  have fewer : 0 + defaults.length ≤ wordLimit := by
    unfold wordLimit
    omega
  unfold numberEntries
  rw [enumerate_eq formed fewer, Object.numbered_of_length_le few]
  simp only [Nat.zero_add]

theorem numbered_ascending {defaults : List Property} (few : defaults.length ≤ 0x10000) :
    (Object.numbered defaults).Ascending := by
  rw [Object.numbered_of_length_le few]
  exact OrderedMap.ascending_mapIdx defaults

private theorem numbered_eq {defaults : List Property} (few : defaults.length ≤ 0x10000) :
    numbered defaults = .ok (Object.numbered defaults) := by
  unfold numbered
  rw [numberEntries_eq few, ok_bind]
  exact congrArg pure
    (OrderedMap.ofEntries_of_ascending (fun _ _ => Nat.lt_asymm) (numbered_ascending few))

variable (small : Addressable image)
include small

private theorem readOverride_eq_lift {place : Nat} (inside : place < image.size) :
    readOverride image place = lift (do
      let record? ← Override.read image place
      return record?.map (.ofRecord (fun _ override => override) place)) := by
  unfold readOverride Override.read byteAt
  simp only [lift_bind, lift_pure, bind_assoc]
  apply lift_bind_congr
  intro number _
  by_cases closing : number = closingMark
  · simp (disch := omega) only [if_pos closing, add_eq, ok_bind]
    rfl
  rw [if_neg closing, if_neg closing]
  simp (disch := omega) only [add_eq, sub_eq, ok_bind, lift_bind, bind_assoc]
  apply lift_bind_congr
  intro count _
  have bound := count.toNat_lt
  by_cases routine : count = routineMark
  · rw [if_pos routine, if_pos routine]
    simp only [wordAt_eq_lift small, lift_bind, lift_pure, bind_assoc, pure_bind]
    rfl
  rw [if_neg routine, if_neg routine]
  by_cases none : count = 0
  · rw [if_pos none, if_pos none]
    rfl
  · rw [if_neg none, if_neg none]
    simp (disch := omega) only [mul_eq, add_eq, ok_bind, words_eq_lift small, lift_bind, lift_pure,
      bind_assoc, pure_bind]
    apply lift_bind_congr
    intro held _
    refine congrArg (fun stretch => pure (some stretch)) (Stretch.ext rfl ?_)
    simp only [Stretch.ofRecord]
    omega

private theorem readStream_eq_lift (place : Nat) :
    readStream image place = lift (Override.readStream image place) := by
  unfold readStream Override.readStream
  rw [readUpTo_eq_lift (fun _ => True) (fun place _ inside => readOverride_eq_lift small inside)
    (fun _ _ _ _ _ => trivial) trivial]

private theorem readObject_eq_lift {propertyTable place : Nat} {defaults : List Property}
    (few : defaults.length ≤ 0x10000) (near : propertyTable < 0x80000000)
    (reachable : place ≤ 0x80000000) :
    readObject image propertyTable defaults place = lift (do
      let record ← Object.readRecord image propertyTable (Object.numbered defaults) place
      return .ofRecord (fun _ object => object) place record) := by
  unfold readObject Object.readRecord slice attributeBytes parentOffset siblingOffset childOffset
    streamOffset recordWidth
  simp (disch := omega) only [add_eq, ok_bind, wordAt_eq_lift small, numbered_eq few, lift_bind,
    lift_pure, bind_assoc, pure_bind]
  apply lift_bind_congr
  intro bits _
  apply lift_bind_congr
  intro parent _
  apply lift_bind_congr
  intro sibling _
  apply lift_bind_congr
  intro child _
  apply lift_bind_congr
  intro stream _
  have bound := stream.toNat_lt
  simp (disch := omega) only [add_eq, ok_bind, readStream_eq_lift small]
  rfl

omit small in
private theorem place_add_width_le {propertyTable place : Nat} {defaults : OrderedMap Nat Property}
    {record : Record Object}
    (read : Object.readRecord image propertyTable defaults place = .ok record) :
    place + record.width ≤ image.size := by
  unfold Object.readRecord at read
  obtain ⟨bits, _, read⟩ := Outcome.bind_eq_ok_iff.mp read
  obtain ⟨parent, _, read⟩ := Outcome.bind_eq_ok_iff.mp read
  obtain ⟨sibling, _, read⟩ := Outcome.bind_eq_ok_iff.mp read
  obtain ⟨child, _, read⟩ := Outcome.bind_eq_ok_iff.mp read
  obtain ⟨stream, last, read⟩ := Outcome.bind_eq_ok_iff.mp read
  obtain ⟨overrides, _, read⟩ := Outcome.bind_eq_ok_iff.mp read
  cases read
  have inside := lt_size_of_wordAt last
  unfold streamOffset at inside
  simp only [recordWidth]
  omega

theorem readObjects_eq_lift {offset propertyTable : Nat} (count : Nat) {defaults : List Property}
    (few : defaults.length ≤ 0x10000) (near : propertyTable < 0x80000000)
    (reachable : offset + 2 ≤ 0x80000000) :
    readObjects image offset count propertyTable defaults =
      lift (Object.readTable image offset count propertyTable defaults) := by
  unfold readObjects Object.readTable
  simp (disch := omega) only [add_eq, ok_bind]
  rw [readCount_eq_lift (· ≤ 0x80000000)
    (fun place reachable => readObject_eq_lift small few near reachable)]
  · intro place record _ found
    have inside := place_add_width_le found
    omega
  · exact reachable

end HugoStory.Machine
