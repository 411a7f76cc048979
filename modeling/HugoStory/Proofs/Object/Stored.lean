import HugoStory.Proofs.Attribute
import HugoStory.Proofs.Image.Holds
import HugoStory.Proofs.Object.Replacement
import HugoStory.Proofs.OrderedMap
/-! Objects as they are written: a record of even width, and elsewhere the stream of overrides
that the record points to. An object whose record and stream are both held where they are
looked for is read back, with the properties that its overrides leave to it. -/
namespace HugoStory
open Outcome

variable {image : Image} {place : Nat}

namespace Override

def store : Override → List UInt8
  | routine number address => number :: 0xff :: Word.toBytes address
  | zeroFirst number => [number, 0]
  | words number held => number :: UInt8.ofNat held.length :: held.flatMap Word.toBytes

def storeStream (overrides : List Override) : List UInt8 := overrides.flatMap store ++ [0xff]

private theorem store_length_pos (override : Override) : 0 < override.store.length := by
  cases override <;> exact Nat.zero_lt_succ _

private theorem read_of_holds {override : Override} (storable : override.Storable)
    (held : image.Holds place override.store) :
    ∃ record, Override.read image place = .ok (some record) ∧ record.value = override ∧
      record.width = override.store.length := by
  cases override with
  | routine number address =>
    refine ⟨{ value := routine number address, width := 4 },
      bind_eq_ok_iff.mpr ⟨number, held.byteAt, ?_⟩, rfl, rfl⟩
    have goesOn : number ≠ closingMark := storable
    rw [if_neg goesOn]
    refine bind_eq_ok_iff.mpr ⟨routineMark, held.tail.byteAt, ?_⟩
    rw [if_pos rfl]
    exact bind_eq_ok_iff.mpr ⟨address, held.tail.tail.wordAt, rfl⟩
  | zeroFirst number =>
    refine ⟨{ value := zeroFirst number, width := 2 },
      bind_eq_ok_iff.mpr ⟨number, held.byteAt, ?_⟩, rfl, rfl⟩
    have goesOn : number ≠ closingMark := storable
    rw [if_neg goesOn]
    exact bind_eq_ok_iff.mpr ⟨0, held.tail.byteAt, rfl⟩
  | words number contents =>
    obtain ⟨unclosed, filled, few⟩ := storable
    have goesOn : number ≠ closingMark := unclosed
    have count := Word.toNat_byteCount (Nat.le_of_lt few)
    have positive := List.length_pos_iff.mpr filled
    have unmarked : UInt8.ofNat contents.length ≠ routineMark := by
      intro same
      have value : contents.length = 255 := count ▸ congrArg UInt8.toNat same
      omega
    have nonzero : UInt8.ofNat contents.length ≠ 0 := by
      intro same
      have value : contents.length = 0 := count ▸ congrArg UInt8.toNat same
      omega
    have taken : image.words .objects (place + 2) (UInt8.ofNat contents.length).toNat =
        .ok contents := by
      rw [count]
      exact held.tail.tail.words
    refine ⟨{ value := words number contents,
              width := 2 + 2 * (UInt8.ofNat contents.length).toNat },
      bind_eq_ok_iff.mpr ⟨number, held.byteAt, ?_⟩, rfl, ?_⟩
    · rw [if_neg goesOn]
      refine bind_eq_ok_iff.mpr ⟨_, held.tail.byteAt, ?_⟩
      rw [if_neg unmarked, if_neg nonzero]
      exact bind_eq_ok_iff.mpr ⟨contents, taken, rfl⟩
    · change 2 + 2 * (UInt8.ofNat contents.length).toNat = (contents.flatMap Word.toBytes).length + 2
      rw [count, Word.length_flatMap_toBytes]
      omega

theorem run_of_store {overrides : List Override}
    (storable : ∀ override ∈ overrides, override.Storable)
    (held : image.Holds place (overrides.flatMap store)) :
    ∃ records, Record.Run (Record.FoundBefore (Override.read image) image.size) place records
        (place + (overrides.flatMap store).length) ∧ records.map Prod.snd = overrides := by
  have run := Record.run_of_holds (Record.FoundBefore (Override.read image) image.size) store id
    held held.inside (by
      intro start override member here before
      obtain ⟨record, read, same, width⟩ := read_of_holds (storable override member) here
      have positive := override.store_length_pos
      exact ⟨record, ⟨by omega, read⟩, same, width⟩)
  refine ⟨_, run, ?_⟩
  rw [Record.map_snd_map_placed, List.map_id]

theorem run_of_holds {overrides : List Override}
    (storable : ∀ override ∈ overrides, override.Storable)
    (held : image.Holds place (storeStream overrides)) :
    ∃ records stop, Record.Run (Record.FoundBefore (Override.read image) image.size) place records stop ∧
      records.map Prod.snd = overrides ∧ image.byte? stop = some closingMark := by
  obtain ⟨records, run, same⟩ := run_of_store storable held.left
  exact ⟨records, _, run, same, held.right.head?⟩

theorem read_closingMark (mark : image.byte? place = some closingMark) :
    Override.read image place = .ok none :=
  bind_eq_ok_iff.mpr ⟨closingMark, Image.byteAt_eq_ok_iff.mpr mark, if_pos rfl⟩

private theorem readStream_of_holds {overrides : List Override}
    (storable : ∀ override ∈ overrides, override.Storable)
    (held : image.Holds place (storeStream overrides)) : readStream image place = .ok overrides := by
  obtain ⟨records, stop, run, same, mark⟩ := run_of_holds storable held
  exact bind_eq_ok_iff.mpr ⟨records,
    Record.readUpTo_eq_ok_iff.mpr ⟨stop, run, .inr (read_closingMark mark)⟩, congrArg Except.ok same⟩

end Override

structure ObjectBlueprint where
  attributes : Vector UInt8 16
  parent : UInt16
  sibling : UInt16
  child : UInt16
  overrides : List Override

namespace ObjectBlueprint

def store (stream : Nat) (object : ObjectBlueprint) : List UInt8 :=
  object.attributes.toList ++ (Word.toBytes object.parent ++ (Word.toBytes object.sibling ++
    (Word.toBytes object.child ++ Word.toBytes (UInt16.ofNat stream))))

def storeStream (object : ObjectBlueprint) : List UInt8 := Override.storeStream object.overrides

def Storable (object : ObjectBlueprint) : Prop := ∀ override ∈ object.overrides, override.Storable

instance : DecidablePred Storable := fun object =>
  inferInstanceAs (Decidable (∀ override ∈ object.overrides, override.Storable))

theorem length_store (stream : Nat) (object : ObjectBlueprint) :
    (object.store stream).length = Object.recordWidth := by
  unfold store
  simp only [List.length_append, Vector.length_toList, Word.length_toBytes]
  rfl

theorem stream_of_holds {object : ObjectBlueprint} {stream : Nat}
    (held : image.Holds place (object.store stream)) :
    image.wordAt .objects (place + Object.streamOffset) = .ok (UInt16.ofNat stream) := by
  have parents := held.right
  rw [Vector.length_toList] at parents
  exact parents.right.right.right.wordAt

def inheriting (properties : OrderedMap Nat Property) (blueprint : ObjectBlueprint) : Object where
  attributes := (List.range 128).filter (Attribute.isSet blueprint.attributes.toList)
  parent := blueprint.parent
  sibling := blueprint.sibling
  child := blueprint.child
  properties := blueprint.overrides.foldl Override.apply properties

theorem readRecord_of_store (properties : OrderedMap Nat Property) (propertyTable : Nat)
    {blueprint : ObjectBlueprint} {stream : Nat} (held : image.Holds place (blueprint.store stream)) :
    Object.readRecord image propertyTable properties place = (do
      let overrides ← Override.readStream image ((UInt16.ofNat stream).toNat + propertyTable)
      return {
        value := inheriting properties { blueprint with overrides }
        width := Object.recordWidth
        width_pos := by decide }) := by
  have bits : image.slice .objects place (place + Object.attributeBytes) =
      .ok blueprint.attributes.toList := held.left.slice (by rw [Vector.length_toList]; rfl)
  have parents := held.right
  rw [Vector.length_toList] at parents
  have siblings := parents.right
  have children := siblings.right
  have parent : image.wordAt .objects (place + Object.parentOffset) = .ok blueprint.parent :=
    parents.left.wordAt
  have sibling : image.wordAt .objects (place + Object.siblingOffset) = .ok blueprint.sibling :=
    siblings.left.wordAt
  have child : image.wordAt .objects (place + Object.childOffset) = .ok blueprint.child :=
    children.left.wordAt
  unfold Object.readRecord inheriting
  simp only [bits, parent, sibling, child, stream_of_holds held, bind, Except.bind,
    Attribute.inBytes_eq_filter, Vector.length_toList]

theorem readRecord_of_holds (properties : OrderedMap Nat Property) {object : ObjectBlueprint}
    (storable : object.Storable) {stream propertyTable : Nat} (near : stream ≤ 65535)
    (held : image.Holds place (object.store stream))
    (streamed : image.Holds (propertyTable + stream) object.storeStream) :
    ∃ record, Object.readRecord image propertyTable properties place = .ok record ∧
      record.value = object.inheriting properties ∧ record.width = (object.store stream).length := by
  have target : (UInt16.ofNat stream).toNat + propertyTable = propertyTable + stream := by
    rw [Word.toNat_count near, Nat.add_comm]
  have overrides := Override.readStream_of_holds storable streamed
  rw [readRecord_of_store _ _ held, target, overrides, length_store]
  exact ⟨_, rfl, rfl, rfl⟩

end ObjectBlueprint

namespace Object

/-- An object as its blueprint and the default properties have it. -/
structure Described (defaults : List Property) (blueprint : ObjectBlueprint) (object : Object) :
    Prop where
  attributes :
    object.attributes = (List.range 128).filter (Attribute.isSet blueprint.attributes.toList)
  parent : object.parent = blueprint.parent
  sibling : object.sibling = blueprint.sibling
  child : object.child = blueprint.child
  ascending : object.properties.Ascending
  inherited : ∀ number, Property.Inherited defaults[number]? number blueprint.overrides
    (object.properties.get? number)

variable {defaults : List Property} {blueprint : ObjectBlueprint}

theorem described_inheriting (short : defaults.length ≤ numberLimit) (blueprint : ObjectBlueprint) :
    Described defaults blueprint (blueprint.inheriting (numbered defaults)) := by
  refine ⟨rfl, rfl, rfl, rfl, ?_, fun number => ?_⟩
  · rw [numbered_of_length_le short]
    exact Override.ascending_foldl_apply _ (OrderedMap.ascending_mapIdx defaults)
  · rw [Property.inherited_iff, ← OrderedMap.get?_mapIdx, ← numbered_of_length_le short]
    exact Override.get?_foldl_apply _ _ _

theorem Described.unique {object other : Object} (first : Described defaults blueprint object)
    (second : Described defaults blueprint other) : object = other := by
  have properties : object.properties = other.properties := by
    apply OrderedMap.ext_get? (fun _ _ => Nat.lt_asymm) first.ascending second.ascending
    intro number
    rw [Property.inherited_iff.mp (first.inherited number),
      Property.inherited_iff.mp (second.inherited number)]
  cases object
  cases other
  rw [Object.mk.injEq]
  exact ⟨first.attributes.trans second.attributes.symm, first.parent.trans second.parent.symm,
    first.sibling.trans second.sibling.symm, first.child.trans second.child.symm, properties⟩

end Object

end HugoStory
