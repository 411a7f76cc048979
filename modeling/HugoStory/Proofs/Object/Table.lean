import HugoStory.Proofs.Object.Replacement
import HugoStory.Proofs.Object.Stream
/-! The object table record by record. Every object is made from its own record, its own stream and
the default properties, and from nothing else, and reading the table fails at the first record or
stream that the file breaks off. -/
namespace HugoStory
open Outcome

variable {image : Image} {place propertyTable : Nat} {properties : OrderedMap Nat Property}

namespace ObjectBlueprint

variable {blueprint : ObjectBlueprint}

/-- The record of an object stands here, and its stream where the record says. -/
def HeldAt (image : Image) (propertyTable place : Nat) (blueprint : ObjectBlueprint) : Prop :=
  ∃ pointer : UInt16, image.Holds place (blueprint.store pointer.toNat) ∧
    Override.Stream image (pointer.toNat + propertyTable) blueprint.overrides

/-- The file breaks off the record of an object, or it breaks off the stream and holds the record. -/
def BrokenOffAt (image : Image) (propertyTable place : Nat) (fault : Fault) : Prop :=
  image.size < place + Object.recordWidth ∧
      fault = .endOfFile .objects (max image.size (place + Object.attributeBytes)) ∨
    ∃ (blueprint : ObjectBlueprint) (pointer : UInt16),
      image.Holds place (blueprint.store pointer.toNat) ∧
        Override.StreamCut image (pointer.toNat + propertyTable) ∧
          fault = .endOfFile .objects image.size

private theorem exists_holds_store (inside : place + Object.recordWidth ≤ image.size) :
    ∃ (blueprint : ObjectBlueprint) (pointer : UInt16),
      image.Holds place (blueprint.store pointer.toNat) := by
  unfold Object.recordWidth at inside
  have word (distance : Nat) (within : distance + 2 ≤ 24) :
      ∃ word, image.wordAt .objects (place + distance) = .ok word :=
    (Image.breaksOff_wordAt (by omega)).exists_ok (by omega)
  obtain ⟨bits, sliced⟩ :
      ∃ bits, image.slice .objects place (place + Object.attributeBytes) = .ok bits :=
    ⟨_, Image.slice_eq_ok_iff.mpr ⟨by unfold Object.attributeBytes; omega, rfl⟩⟩
  obtain ⟨held, length⟩ := Image.holds_of_slice (Nat.le_add_right _ _) sliced
  rw [Nat.add_sub_cancel_left] at length
  obtain ⟨parent, parentRead⟩ := word 16 (by omega)
  obtain ⟨sibling, siblingRead⟩ := word 18 (by omega)
  obtain ⟨child, childRead⟩ := word 20 (by omega)
  obtain ⟨pointer, pointerRead⟩ := word 22 (by omega)
  have words := (Image.holds_of_wordAt parentRead).append
    ((Image.holds_of_wordAt siblingRead).append
      ((Image.holds_of_wordAt childRead).append (Image.holds_of_wordAt pointerRead)))
  refine ⟨{ attributes := ⟨bits.toArray, length⟩, parent, sibling, child, overrides := [] },
    pointer, ?_⟩
  rw [store, UInt16.ofNat_toNat]
  refine held.append ?_
  rw [length]
  exact words

private theorem pointer_eq {blueprint' : ObjectBlueprint} {pointer pointer' : UInt16}
    (held : image.Holds place (blueprint.store pointer.toNat))
    (held' : image.Holds place (blueprint'.store pointer'.toNat)) : pointer = pointer' := by
  have read := stream_of_holds held
  have read' := stream_of_holds held'
  rw [UInt16.ofNat_toNat] at read read'
  exact Except.ok.inj (read.symm.trans read')

private theorem readRecord_of_holds_store {pointer : UInt16}
    (held : image.Holds place (blueprint.store pointer.toNat)) :
    Object.readRecord image propertyTable properties place = (do
      let overrides ← Override.readStream image (pointer.toNat + propertyTable)
      return {
        value := inheriting properties { blueprint with overrides }
        width := Object.recordWidth
        width_pos := by decide }) := by
  rw [readRecord_of_store _ _ held, UInt16.ofNat_toNat]

private theorem readRecord_of_heldAt (properties : OrderedMap Nat Property)
    (held : blueprint.HeldAt image propertyTable place) :
    ∃ record, Object.readRecord image propertyTable properties place = .ok record ∧
      record.value = blueprint.inheriting properties := by
  obtain ⟨pointer, held, stream⟩ := held
  rw [readRecord_of_holds_store held, Override.readStream_eq_ok_iff.mpr stream]
  exact ⟨_, rfl, rfl⟩

end ObjectBlueprint

namespace Object
open ObjectBlueprint

private theorem readRecord_of_short (short : image.size < place + recordWidth) :
    readRecord image propertyTable properties place =
      .error (.endOfFile .objects (max image.size (place + attributeBytes))) := by
  by_cases broken : image.size < place + attributeBytes
  · rw [Nat.max_eq_right (Nat.le_of_lt broken)]
    exact bind_eq_error_iff.mpr (.inl (Image.slice_eq_error_iff.mpr ⟨broken, rfl⟩))
  · have inside := Nat.not_lt.mp broken
    rw [Nat.max_eq_left inside]
    refine bind_eq_error_iff.mpr (.inr ⟨_, Image.slice_eq_ok_iff.mpr ⟨inside, rfl⟩, ?_⟩)
    refine Image.BreaksOff.eq_error ?_ short
    have within (distance : Nat) (before : distance ≤ recordWidth) :
        place + distance ≤ place + recordWidth := Nat.add_le_add_left before place
    refine (Image.breaksOff_wordAt inside).bind (within 18 (by decide)) fun parent _ inside => ?_
    refine (Image.breaksOff_wordAt inside).bind (within 20 (by decide)) fun sibling _ inside => ?_
    refine (Image.breaksOff_wordAt inside).bind (within 22 (by decide)) fun child _ inside => ?_
    refine (Image.breaksOff_wordAt inside).bind (within 24 (by decide)) fun pointer _ inside => ?_
    exact absurd inside (Nat.not_le.mpr short)

private theorem exists_heldAt {record : Record Object}
    (read : readRecord image propertyTable properties place = .ok record) :
    ∃ blueprint : ObjectBlueprint, blueprint.HeldAt image propertyTable place := by
  by_cases inside : place + recordWidth ≤ image.size
  · obtain ⟨blueprint, pointer, held⟩ := exists_holds_store inside
    rw [readRecord_of_holds_store held] at read
    obtain ⟨overrides, streamed, -⟩ := bind_eq_ok_iff.mp read
    exact ⟨{ blueprint with overrides }, pointer, held, Override.readStream_eq_ok_iff.mp streamed⟩
  · rw [readRecord_of_short (Nat.not_le.mp inside)] at read
    cases read

theorem readRecord_eq_error_iff {fault : Fault} :
    readRecord image propertyTable properties place = .error fault ↔
      BrokenOffAt image propertyTable place fault := by
  by_cases inside : place + recordWidth ≤ image.size
  · obtain ⟨blueprint, pointer, held⟩ := exists_holds_store inside
    rw [readRecord_of_holds_store held, thenReturn_eq_error_iff, Override.readStream_eq_error_iff]
    constructor
    · rintro ⟨cut, rfl⟩
      exact .inr ⟨blueprint, pointer, held, cut, rfl⟩
    · rintro (⟨short, -⟩ | ⟨blueprint', pointer', held', cut, rfl⟩)
      · exact absurd inside (Nat.not_le.mpr short)
      · rw [pointer_eq held held']
        exact ⟨cut, rfl⟩
  · have short := Nat.not_le.mp inside
    rw [readRecord_of_short short, Except.error.injEq, eq_comm]
    constructor
    · rintro rfl
      exact .inl ⟨short, rfl⟩
    · rintro (⟨-, same⟩ | ⟨blueprint, pointer, held, -⟩)
      · exact same
      · have whole := held.inside
        rw [length_store] at whole
        exact absurd whole inside

variable {defaults : List Property} {offset count : Nat} {objects : List Object}
  {blueprint : ObjectBlueprint}

private theorem getElem_of_readTable
    (read : readTable image offset count propertyTable defaults = .ok objects) {index : Nat}
    (inside : index < objects.length) :
    ∃ record, readRecord image propertyTable (numbered defaults)
        (offset + 2 + recordWidth * index) = .ok record ∧ objects[index] = record.value := by
  obtain ⟨records, done, read⟩ := bind_eq_ok_iff.mp read
  cases read
  obtain ⟨-, stop, run⟩ := Record.readCount_eq_ok_iff.mp done
  obtain ⟨record, found, same⟩ := run.found_at (fun _ _ => width_of_readRecord)
    (by simpa using inside)
  exact ⟨record, found, by simp [same]⟩

private theorem length_of_readTable
    (read : readTable image offset count propertyTable defaults = .ok objects) :
    objects.length = count := by
  obtain ⟨records, done, read⟩ := bind_eq_ok_iff.mp read
  cases read
  rw [List.length_map]
  exact Record.length_of_readCount done

private theorem getElem_of_heldAt
    (read : readTable image offset count propertyTable defaults = .ok objects) {index : Nat}
    (inside : index < objects.length)
    (held : blueprint.HeldAt image propertyTable (offset + 2 + recordWidth * index)) :
    objects[index] = blueprint.inheriting (numbered defaults) := by
  obtain ⟨record, found, same⟩ := getElem_of_readTable read inside
  obtain ⟨record', found', inherits⟩ := readRecord_of_heldAt (numbered defaults) held
  cases found.symm.trans found'
  rw [same, inherits]

theorem exists_readRecord_iff (image : Image) (propertyTable place : Nat)
    (properties : OrderedMap Nat Property) :
    (∃ record, readRecord image propertyTable properties place = .ok record) ↔
      ∃ blueprint : ObjectBlueprint, blueprint.HeldAt image propertyTable place := by
  constructor
  · rintro ⟨record, read⟩
    exact exists_heldAt read
  · rintro ⟨blueprint, held⟩
    obtain ⟨record, read, -⟩ := readRecord_of_heldAt properties held
    exact ⟨record, read⟩

theorem readTable_eq_error_iff {fault : Fault} :
    readTable image offset count propertyTable defaults = .error fault ↔
      ∃ index < count,
        (∀ earlier < index, ∃ blueprint : ObjectBlueprint,
          blueprint.HeldAt image propertyTable (offset + 2 + recordWidth * earlier)) ∧
        BrokenOffAt image propertyTable (offset + 2 + recordWidth * index) fault := by
  unfold readTable
  rw [thenReturn_eq_error_iff,
    Record.readCount_eq_error_iff_of_even fun _ _ => width_of_readRecord]
  simp only [exists_readRecord_iff, readRecord_eq_error_iff]

private theorem exists_readTable (defaults : List Property)
    (held : ∀ index < count, ∃ blueprint : ObjectBlueprint,
      blueprint.HeldAt image propertyTable (offset + 2 + recordWidth * index)) :
    ∃ objects, readTable image offset count propertyTable defaults = .ok objects := by
  cases outcome : readTable image offset count propertyTable defaults with
  | ok objects => exact ⟨objects, rfl⟩
  | error fault =>
    obtain ⟨index, inside, -, broken⟩ := readTable_eq_error_iff.mp outcome
    obtain ⟨record, read⟩ :=
      (exists_readRecord_iff image propertyTable _ (numbered defaults)).mpr (held index inside)
    cases read.symm.trans (readRecord_eq_error_iff.mpr broken)

/-- A table that can be read has an object for each record, with the properties that its stream
makes of the defaults. The same record and stream make the same object wherever they are held. And
a table can be read unless the file breaks off a record, or a stream of a record. -/
theorem readTable_inherited (image : Image) (offset count propertyTable : Nat)
    {defaults : List Property} (short : defaults.length ≤ numberLimit) :
    (∀ objects, readTable image offset count propertyTable defaults = .ok objects →
      objects.length = count ∧ ∀ index (inside : index < objects.length),
        (∃ blueprint : ObjectBlueprint,
          blueprint.HeldAt image propertyTable (offset + 2 + recordWidth * index)) ∧
        ∀ blueprint : ObjectBlueprint,
          blueprint.HeldAt image propertyTable (offset + 2 + recordWidth * index) →
            Described defaults blueprint objects[index]) ∧
    (∀ image' offset' count' propertyTable' objects objects' index index'
        (blueprint : ObjectBlueprint),
      readTable image offset count propertyTable defaults = .ok objects →
      readTable image' offset' count' propertyTable' defaults = .ok objects' →
      index < count → index' < count' →
      blueprint.HeldAt image propertyTable (offset + 2 + recordWidth * index) →
      blueprint.HeldAt image' propertyTable' (offset' + 2 + recordWidth * index') →
        objects[index]? = objects'[index']?) ∧
    ∀ fault, readTable image offset count propertyTable defaults = .error fault ↔
      ∃ index < count,
        (∀ earlier < index, ∃ blueprint : ObjectBlueprint,
          blueprint.HeldAt image propertyTable (offset + 2 + recordWidth * earlier)) ∧
        BrokenOffAt image propertyTable (offset + 2 + recordWidth * index) fault := by
  refine ⟨?_, ?_, fun fault => readTable_eq_error_iff⟩
  · intro objects read
    refine ⟨length_of_readTable read, fun index inside => ⟨?_, fun blueprint held => ?_⟩⟩
    · obtain ⟨record, found, -⟩ := getElem_of_readTable read inside
      exact exists_heldAt found
    · rw [getElem_of_heldAt read inside held]
      exact described_inheriting short blueprint
  · intro image' offset' count' propertyTable' objects objects' index index' blueprint read read'
      inside inside' held held'
    rw [← length_of_readTable read] at inside
    rw [← length_of_readTable read'] at inside'
    rw [List.getElem?_eq_getElem inside, List.getElem?_eq_getElem inside',
      getElem_of_heldAt read inside held, getElem_of_heldAt read' inside' held']

def lamp : ObjectBlueprint where
  attributes := ⟨#[4, 0, 0, 0, 0, 0, 0, 0, 0, 0, 0, 0, 0, 0, 0, 0], rfl⟩
  parent := 0
  sibling := 0
  child := 0
  overrides := [.words 0 [5, 6], .zeroFirst 0]

def lampTable (stream : List UInt8) : Image := ⟨([1, 0] ++ lamp.store 26 ++ stream).toArray⟩

private theorem heldAt_lampTable : lamp.HeldAt (lampTable lamp.storeStream) 0 2 :=
  ⟨26, ⟨[1, 0], lamp.storeStream, by decide, rfl⟩, by decide,
    fun _ => ⟨[1, 0] ++ lamp.store 26, [255], by decide, rfl⟩, .inl rfl⟩

theorem readTable_inherited_lamp :
    (∃ objects, readTable (lampTable lamp.storeStream) 0 1 0 [[.value 7]] = .ok objects ∧
      objects.length = 1 ∧
        ∀ object ∈ objects, object.properties.get? 0 = some [.value 0, .value 6]) ∧
    readTable (lampTable [0]) 0 1 0 [[.value 7]] = .error (.endOfFile .objects 27) := by
  have short : [[PropertyValue.value 7]].length ≤ numberLimit := by decide
  constructor
  · have held (index : Nat) (inside : index < 1) : ∃ blueprint : ObjectBlueprint,
        blueprint.HeldAt (lampTable lamp.storeStream) 0 (0 + 2 + recordWidth * index) := by
      obtain rfl := Nat.lt_one_iff.mp inside
      exact ⟨lamp, heldAt_lampTable⟩
    obtain ⟨objects, read⟩ := exists_readTable [[.value 7]] held
    obtain ⟨described, -⟩ := readTable_inherited (lampTable lamp.storeStream) 0 1 0 short
    obtain ⟨length, each⟩ := described objects read
    refine ⟨objects, read, length, fun object among => ?_⟩
    obtain ⟨index, inside, rfl⟩ := List.mem_iff_getElem.mp among
    obtain rfl := Nat.lt_one_iff.mp (length ▸ inside)
    exact Property.inherited_iff.mp (((each 0 inside).2 lamp heldAt_lampTable).inherited 0)
  · obtain ⟨-, -, broken⟩ := readTable_inherited (lampTable [0]) 0 1 0 short
    refine (broken _).mpr ⟨0, by decide, by simp, .inr ?_⟩
    refine ⟨lamp, 26, ⟨[1, 0], [0], by decide, rfl⟩, ?_, rfl⟩
    refine ⟨[], by simp, .nil (by decide), 0, by decide, by decide, ?_⟩
    intro count counted
    cases counted

end Object

end HugoStory
