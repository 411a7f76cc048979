import HugoStory.Attribute
import HugoStory.Override
/-! The object table. A record holds the attributes of an object, its relatives, and where
the stream of overrides is found that changes its default properties. -/
namespace HugoStory

structure Object where
  attributes : List Nat
  parent : UInt16
  sibling : UInt16
  child : UInt16
  properties : OrderedMap Nat Property
deriving DecidableEq, Repr

namespace Object

def recordWidth : Nat := 24
def attributeBytes : Nat := 16
def parentOffset : Nat := 16
def siblingOffset : Nat := 18
def childOffset : Nat := 20
def streamOffset : Nat := 22

def numberLimit : Nat := 65536

/-- Each round lays the lists from the limit on over the first ones. -/
def laidOver : Nat → List Property → List Property
  | 0, defaults => defaults
  | rounds + 1, defaults =>
    let later := laidOver rounds (defaults.drop numberLimit)
    later ++ (defaults.take numberLimit).drop later.length

/-- Default properties are numbered by their place in the table. Past the limit the numbers
start over, and the later list takes the number. -/
def numbered (defaults : List Property) : OrderedMap Nat Property :=
  ⟨(laidOver ((defaults.length - 1) / numberLimit) defaults).mapIdx Prod.mk⟩

theorem numbered_of_length_le {defaults : List Property}
    (short : defaults.length ≤ numberLimit) :
    numbered defaults = ⟨defaults.mapIdx Prod.mk⟩ := by
  have single : (defaults.length - 1) / numberLimit = 0 := by
    unfold numberLimit at *
    omega
  simp [numbered, single, laidOver]

/-- Streams are addressed from the start of the property table. -/
def readRecord (image : Image) (propertyTable : Nat) (defaults : OrderedMap Nat Property)
    (offset : Nat) : Except Fault (Record Object) := do
  let bits ← image.slice .objects offset (offset + attributeBytes)
  let parent ← image.wordAt .objects (offset + parentOffset)
  let sibling ← image.wordAt .objects (offset + siblingOffset)
  let child ← image.wordAt .objects (offset + childOffset)
  let stream ← image.wordAt .objects (offset + streamOffset)
  let overrides ← Override.readStream image (stream.toNat + propertyTable)
  return {
    value := {
      attributes := Attribute.inBytes bits
      parent, sibling, child
      properties := overrides.foldl Override.apply defaults }
    width := recordWidth
    width_pos := by decide }

def readTable (image : Image) (offset count propertyTable : Nat) (defaults : List Property) :
    Except Fault (List Object) := do
  let objects ←
    Record.readCount (readRecord image propertyTable (numbered defaults)) count (offset + 2)
  return objects.map Prod.snd

def property? (object : Object) (number : Nat) : Option Property :=
  object.properties.get? number

def first? (object : Object) (number : Nat) : Option PropertyValue :=
  (object.property? number).bind List.head?

def attributeNames (object : Object) : List String := object.attributes.map Attribute.name

end Object

end HugoStory
