import HugoStory.Proofs.Consistent
import HugoStory.Proofs.Record.Place
/-! The dictionary between its file and its words. The table is read if the file holds all its words to
the end. Then the address of each word follows from the one before it and its length, and no byte is
lost: the words in the order of their addresses give the table back, as each character of the set is
stored as one byte alone. -/
namespace HugoStory
open Outcome

namespace Charset

def stored (character : Char) : UInt8 := UInt8.ofNat (character.toNat + 20)

private theorem stored_decode (byte : UInt8) : stored (decode byte) = byte := by
  have bound := byte.toNat_lt
  apply UInt8.toNat_inj.mp
  rw [stored, toNat_decode, UInt8.toNat_ofNat']
  unfold codePoint
  omega

private theorem map_stored_decodeText (bytes : List UInt8) :
    (decodeText bytes).toList.map stored = bytes := by
  unfold decodeText
  rw [String.toList_ofList, List.map_map]
  exact (List.map_congr_left fun byte _ => stored_decode byte).trans (List.map_id _)

private theorem decode_eq_iff_of_mem {bytes : List UInt8} {character : Char}
    (among : character ∈ (decodeText bytes).toList) (byte : UInt8) :
    decode byte = character ↔ byte = stored character := by
  unfold decodeText at among
  rw [String.toList_ofList] at among
  obtain ⟨other, -, rfl⟩ := List.mem_map.mp among
  rw [decode_inj, stored_decode]

end Charset

namespace Dictionary

variable {image : Image} {place offset count : Nat}

def wordEnd? (image : Image) (place : Nat) : Option Nat :=
  (image.byte? place).map fun length => place + 1 + length.toNat

def restoreWord (word : String) : List UInt8 :=
  UInt8.ofNat word.length :: word.toList.map Charset.stored

private theorem length_restoreWord (word : String) :
    (restoreWord word).length = 1 + word.length := by
  rw [restoreWord, List.length_cons, List.length_map, String.length_toList, Nat.add_comm]

def WordInside (image : Image) (place : Nat) : Prop :=
  ∃ length, image.byte? place = some length ∧ place + 1 + length.toNat ≤ image.size

private theorem exists_readWord_iff :
    (∃ record, readWord image place = .ok record) ↔ WordInside image place := by
  constructor
  · rintro ⟨record, read⟩
    obtain ⟨length, counted, read⟩ := bind_eq_ok_iff.mp read
    obtain ⟨word, taken, -⟩ := bind_eq_ok_iff.mp read
    obtain ⟨bytes, sliced, -⟩ := bind_eq_ok_iff.mp taken
    exact ⟨length, Image.byteAt_eq_ok_iff.mp counted, (Image.slice_eq_ok_iff.mp sliced).1⟩
  · rintro ⟨length, present, inside⟩
    have sliced : image.slice .dictionary (place + 1) (place + 1 + length.toNat) = .ok _ :=
      Image.slice_eq_ok_iff.mpr ⟨inside, rfl⟩
    exact ⟨_, bind_eq_ok_iff.mpr ⟨length, Image.byteAt_eq_ok_iff.mpr present,
      bind_eq_ok_iff.mpr ⟨_, bind_eq_ok_iff.mpr ⟨_, sliced, rfl⟩, rfl⟩⟩⟩

private theorem restored_of_readWord {record : Record String}
    (read : readWord image place = .ok record) :
    ∃ length, image.byte? place = some length ∧ record.value.length = length.toNat ∧
      record.width = 1 + length.toNat ∧ image.Holds place (restoreWord record.value) ∧
      ∀ character ∈ record.value.toList, ∀ byte,
        Charset.decode byte = character ↔ byte = Charset.stored character := by
  obtain ⟨length, counted, read⟩ := bind_eq_ok_iff.mp read
  obtain ⟨word, taken, read⟩ := bind_eq_ok_iff.mp read
  obtain ⟨bytes, sliced, same⟩ := bind_eq_ok_iff.mp taken
  cases same
  cases read
  have present := Image.byteAt_eq_ok_iff.mp counted
  obtain ⟨held, size⟩ := Image.holds_of_slice (Nat.le_add_right _ _) sliced
  rw [Nat.add_sub_cancel_left] at size
  refine ⟨length, present, ?_, rfl, ?_, fun character => Charset.decode_eq_iff_of_mem⟩
  · rw [Charset.length_decodeText, size]
  · rw [restoreWord, Charset.map_stored_decodeText, Charset.length_decodeText, size,
      UInt8.ofNat_toNat]
    exact (Image.holds_of_byte? present).append held

private theorem wordEnd?_of_readWord {record : Record String}
    (read : readWord image place = .ok record) :
    wordEnd? image place = some (place + record.width) := by
  obtain ⟨length, present, -, width, -⟩ := restored_of_readWord read
  rw [wordEnd?, present, width, ← Nat.add_assoc]
  rfl

/-- A dictionary that holds its table without gaps and without loss. Its words lie one behind the other
from behind the count on. -/
structure Lossless (image : Image) (offset count : Nat) (dictionary : Dictionary) : Prop where
  size : dictionary.size = count
  ascending : dictionary.words.Ascending
  first : ∀ address, dictionary.words.keys.head? = some address → address = 0
  next : dictionary.words.entries.IsChain fun entry later =>
    later.1 = entry.1 + 1 + (entry.2.length : Int)
  counted : ∀ index < count, ∃ place length word,
    Record.place? (wordEnd? image) (offset + 2) index = some place ∧
      image.byte? place = some length ∧ word.length = length.toNat ∧
      dictionary.words.entries[index]? = some ((place : Int) - (offset + 2 : Nat), word)
  unique : ∀ word ∈ dictionary.words.values, ∀ character ∈ word.toList, ∀ byte,
    Charset.decode byte = character ↔ byte = Charset.stored character
  restored : ∃ stop, Record.place? (wordEnd? image) (offset + 2) count = some stop ∧
    (image.bytes.extract (offset + 2) stop).toList = dictionary.words.values.flatMap restoreWord

private theorem lossless_of_read {dictionary : Dictionary}
    (read : Dictionary.read image offset count = .ok dictionary) :
    Lossless image offset count dictionary := by
  obtain ⟨size, ascending, -⟩ := keys_of_read read
  obtain ⟨records, done, read⟩ := bind_eq_ok_iff.mp read
  cases read
  obtain ⟨rfl, stop, run⟩ := Record.readCount_eq_ok_iff.mp done
  have onward (place : Nat) (record : Record String) (found : readWord image place = .ok record) :=
    wordEnd?_of_readWord found
  refine ⟨size, ascending, ?_, ?_, ?_, ?_, ?_⟩
  · intro address head
    rw [run.head_key (fun place => (place : Int) - (offset + 2 : Nat)) head]
    exact Int.sub_self _
  · rw [List.isChain_map]
    refine run.isChain.imp ?_
    rintro ⟨place, word⟩ ⟨later, word'⟩ ⟨record, found, rfl, rfl⟩
    obtain ⟨length, -, long, width, -⟩ := restored_of_readWord found
    change ((place + record.width : Nat) : Int) - _ = (place : Int) - _ + 1 + (record.value.length : Int)
    omega
  · intro index inside
    obtain ⟨record, found, same⟩ := run.getElem_found inside
    obtain ⟨length, present, long, -⟩ := restored_of_readWord found
    refine ⟨_, length, _, run.place?_getElem onward inside, present, long, ?_⟩
    rw [List.getElem?_map, List.getElem?_eq_getElem inside, same]
    rfl
  · intro word member
    unfold OrderedMap.values at member
    rw [List.map_map] at member
    obtain ⟨⟨place, word⟩, among, rfl⟩ := List.mem_map.mp member
    obtain ⟨-, record, found, rfl⟩ := run.found among
    obtain ⟨-, -, -, -, -, unique⟩ := restored_of_readWord found
    exact unique
  · refine ⟨stop, run.place?_length onward, ?_⟩
    unfold OrderedMap.values
    rw [List.map_map]
    refine run.extract fun place record found => ?_
    obtain ⟨length, -, long, width, held, -⟩ := restored_of_readWord found
    exact ⟨held, by rw [length_restoreWord, long, width]⟩

/-- A table is read if the file holds its words to the end, and what is read is the table without loss.
Otherwise the file is said to end in it. -/
theorem read_lossless (image : Image) (offset count : Nat) :
    ((∃ dictionary, Dictionary.read image offset count = .ok dictionary) ↔
      ∀ index < count, ∃ place,
        Record.place? (wordEnd? image) (offset + 2) index = some place ∧ WordInside image place) ∧
    (∀ dictionary, Dictionary.read image offset count = .ok dictionary →
      Lossless image offset count dictionary) ∧
    ∀ fault, Dictionary.read image offset count = .error fault →
      ∃ missing, image.size ≤ missing ∧ fault = .endOfFile .dictionary missing := by
  refine ⟨?_, fun dictionary => lossless_of_read, faultsIn_read offset count⟩
  unfold Dictionary.read
  rw [exists_thenReturn_iff, Record.exists_readCount_iff fun _ _ => wordEnd?_of_readWord]
  simp only [exists_readWord_iff]

/-- Two words, in the first of which a byte wraps around, and a third one that the file breaks off. -/
theorem read_lossless_wrapped :
    let image : Image := ⟨#[3, 0, 2, 0x75, 3, 0, 9]⟩
    let dictionary : Dictionary := ⟨⟨[(0, "a\uffef"), (3, "")]⟩⟩
    Dictionary.read image 0 2 = .ok dictionary ∧ Lossless image 0 2 dictionary ∧
      Dictionary.read image 0 3 = .error (.endOfFile .dictionary 16) ∧
      ¬∀ index < 3, ∃ place,
        Record.place? (wordEnd? image) 2 index = some place ∧ WordInside image place := by
  intro image dictionary
  have read : Dictionary.read image 0 2 = .ok dictionary := by decide +kernel
  have broken : Dictionary.read image 0 3 = .error (.endOfFile .dictionary 16) := by decide +kernel
  obtain ⟨accepted, -⟩ := read_lossless image 0 3
  refine ⟨read, (read_lossless image 0 2).2.1 dictionary read, broken, fun inside => ?_⟩
  obtain ⟨longer, read'⟩ := accepted.mpr inside
  cases broken.symm.trans read'

end Dictionary

end HugoStory
