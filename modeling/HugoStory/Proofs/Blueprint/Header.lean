import HugoStory.Proofs.Blueprint
/-! The header of a file that is laid out after a blueprint, read back: the identity of the
story, the starts of its tables, its routines and the start of its debugging data. -/
namespace HugoStory.Blueprint
open Outcome

variable {blueprint : Blueprint} {image : Image}

def layout (blueprint : Blueprint) : Layout where
  code := blueprint.codeStart
  objects := blueprint.objectsStart
  properties := blueprint.propertiesStart
  events := blueprint.eventsStart
  arrays := blueprint.arraysStart
  dictionary := blueprint.dictionaryStart
  specialWords := blueprint.specialWordsStart
  textBank := blueprint.textBankStart

structure HeaderLaid (blueprint : Blueprint) (image : Image) : Prop where
  version : image.Holds 0 [31]
  id : image.Holds Header.idOffset (Word.toBytes blueprint.id)
  serial : image.Holds Header.serialOffset blueprint.serial.toList
  layout : image.Holds Header.codeOffset (blueprint.layoutWords.flatMap Word.toBytes)
  entryPoints : image.Holds Header.entryPointsOffset
    (blueprint.entryPoints.toList.flatMap Word.toBytes)
  textBank : image.Holds Header.textBankOffset
    (Word.toBytes (UInt16.ofNat (blueprint.textBankStart / 16)))
  debug : image.Holds Header.debugFlagOffset blueprint.debugBytes

theorem Laid.headerLaid (laid : blueprint.Laid image) : blueprint.HeaderLaid image := by
  have held := laid.header
  unfold Blueprint.header at held
  have version : image.Holds 0 [31] := by
    rw [← List.singleton_append] at held
    exact held.left
  have id := held.tail
  have serial := id.right
  have layout := serial.right
  rw [Vector.length_toList] at layout
  have entryPoints := layout.right
  rw [Word.length_flatMap_toBytes] at entryPoints
  have textBank := entryPoints.right
  rw [Word.length_flatMap_toBytes, Vector.length_toList] at textBank
  have debug := textBank.right.right
  rw [List.length_replicate] at debug
  exact ⟨version, id.left, serial.left, layout.left, entryPoints.left,
    textBank.left, debug.left⟩

private theorem readBlock_of_holds {offset start : Nat}
    (held : image.Holds offset (Word.toBytes (UInt16.ofNat (start / 16))))
    (aligned : 16 ∣ start) (near : start / 16 ≤ 65535) :
    Header.readBlock image offset = .ok start := by
  refine bind_eq_ok_iff.mpr ⟨_, held.wordAt, congrArg Except.ok ?_⟩
  rw [Word.toNat_count near]
  exact Nat.div_mul_cancel aligned

namespace HeaderLaid

variable (laid : blueprint.HeaderLaid image)
include laid

private theorem readSerial : Header.readSerial image = .ok blueprint.serialText :=
  bind_eq_ok_iff.mpr ⟨_, laid.serial.slice (by rw [Vector.length_toList]; rfl), rfl⟩

private theorem readTableStart (fits : blueprint.Fits) (index : Nat) {start : Nat}
    (listed : blueprint.tableStarts[index]? = some start) :
    Header.readBlock image (Header.objectsOffset + 2 * index) = .ok start := by
  obtain ⟨inside, rfl⟩ := List.getElem?_eq_some_iff.mp listed
  have held := laid.layout
  unfold layoutWords at held
  rw [List.flatMap_cons] at held
  have word := held.right.word (by rwa [List.length_map])
  rw [List.getElem_map] at word
  obtain ⟨aligned, before⟩ := blueprint.aligned.2 _ (List.getElem_mem inside)
  exact readBlock_of_holds word aligned (Nat.le_trans (Nat.div_le_div_right before) fits.blocks)

private theorem readLayout (fits : blueprint.Fits) :
    Header.readLayout image = .ok blueprint.layout := by
  have code : image.wordAt .offsets Header.codeOffset = .ok (UInt16.ofNat blueprint.codeStart) :=
    (laid.layout.word (Nat.zero_lt_succ _)).wordAt
  have textBank := readBlock_of_holds laid.textBank blueprint.aligned.1 fits.blocks
  refine bind_eq_ok_iff.mpr ⟨_, code, ?_⟩
  refine bind_eq_ok_iff.mpr ⟨_, laid.readTableStart fits 0 rfl, ?_⟩
  refine bind_eq_ok_iff.mpr ⟨_, laid.readTableStart fits 1 rfl, ?_⟩
  refine bind_eq_ok_iff.mpr ⟨_, laid.readTableStart fits 2 rfl, ?_⟩
  refine bind_eq_ok_iff.mpr ⟨_, laid.readTableStart fits 3 rfl, ?_⟩
  refine bind_eq_ok_iff.mpr ⟨_, laid.readTableStart fits 4 rfl, ?_⟩
  refine bind_eq_ok_iff.mpr ⟨_, laid.readTableStart fits 5 rfl, ?_⟩
  refine bind_eq_ok_iff.mpr ⟨_, textBank, ?_⟩
  rw [Word.toNat_count fits.codeStart]
  rfl

private theorem readEntryPoint (index : Fin 8) :
    Header.readBlock image (Header.entryPointsOffset + 2 * index.val) =
      .ok (blueprint.entryPoint index) := by
  have inside : index.val < blueprint.entryPoints.toList.length := by
    rw [Vector.length_toList]
    exact index.isLt
  have held := laid.entryPoints.word inside
  rw [Vector.getElem_toList] at held
  exact bind_eq_ok_iff.mpr ⟨_, held.wordAt, congrArg Except.ok (Nat.mul_comm _ _)⟩

private theorem readEntryPoints :
    Header.readEntryPoints image blueprint.codeStart = .ok blueprint.points := by
  have entry := laid.readEntryPoint
  exact bind_eq_ok_iff.mpr ⟨_, entry 0, bind_eq_ok_iff.mpr ⟨_, entry 1, bind_eq_ok_iff.mpr
    ⟨_, entry 2, bind_eq_ok_iff.mpr ⟨_, entry 3, bind_eq_ok_iff.mpr ⟨_, entry 4,
      bind_eq_ok_iff.mpr ⟨_, entry 5, bind_eq_ok_iff.mpr ⟨_, entry 6, bind_eq_ok_iff.mpr
        ⟨_, entry 7, rfl⟩⟩⟩⟩⟩⟩⟩⟩

private theorem readDebugStart (fits : blueprint.Fits) :
    Header.readDebugStart image = .ok (blueprint.debug.map fun _ => blueprint.debugStart) := by
  have held := laid.debug
  have near := fits.debugStart
  unfold debugBytes at held
  unfold Header.readDebugStart
  cases present : blueprint.debug with
  | none =>
    rw [present] at held
    rw [held.head?]
    rfl
  | some data =>
    rw [present] at held near
    have bound := near rfl
    rw [held.head?]
    refine bind_eq_ok_iff.mpr ⟨_, held.tail.byteAt, bind_eq_ok_iff.mpr ⟨_, held.tail.tail.byteAt,
      bind_eq_ok_iff.mpr ⟨_, held.tail.tail.tail.byteAt, ?_⟩⟩⟩
    refine congrArg (fun start => Except.ok (some start)) ?_
    change _ = blueprint.debugStart
    rw [UInt8.toNat_ofNat', UInt8.toNat_ofNat', UInt8.toNat_ofNat']
    omega

theorem read (fits : blueprint.Fits) :
    Header.read image = .ok {
      version := Version.supported
      id := blueprint.id
      serial := blueprint.serialText
      layout := blueprint.layout
      entryPoints := blueprint.points
      debugStart := blueprint.debug.map fun _ => blueprint.debugStart } := by
  have version : Header.readVersion image = .ok Version.supported :=
    bind_eq_ok_iff.mpr ⟨_, laid.version.byteAt, rfl⟩
  exact bind_eq_ok_iff.mpr ⟨_, version, bind_eq_ok_iff.mpr ⟨_, laid.id.wordAt, bind_eq_ok_iff.mpr
    ⟨_, laid.readSerial, bind_eq_ok_iff.mpr ⟨_, laid.readLayout fits, bind_eq_ok_iff.mpr
      ⟨_, laid.readEntryPoints, bind_eq_ok_iff.mpr ⟨_, laid.readDebugStart fits, rfl⟩⟩⟩⟩⟩⟩

end HeaderLaid

end HugoStory.Blueprint
