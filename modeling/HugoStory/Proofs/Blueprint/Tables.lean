import HugoStory.Code
import HugoStory.Dictionary
import HugoStory.Event
import HugoStory.Property
import HugoStory.Proofs.Image.Holds
import HugoStory.SpecialWord
import HugoStory.TextBank
import HugoStory.Variables
/-! The plain tables of a story as they are written, record behind record, and that each of
them is read back from where it is held. -/
namespace HugoStory
open Outcome

variable {image : Image} {offset : Nat}

namespace Charset

def encode (byte : UInt8) : UInt8 := byte + 20

/-- The character that a plain byte comes back as. The last twenty bytes wrap around when
they are stored, and so come back at the end of the basic plane. -/
def plain (byte : UInt8) : Char :=
  if byte.toNat < 236 then Char.ofNat byte.toNat else Char.ofNat (0xff00 + byte.toNat)

def plainText (bytes : List UInt8) : String := String.ofList (bytes.map plain)

private theorem codePoint_encode (byte : UInt8) :
    codePoint (encode byte) = if byte.toNat < 236 then byte.toNat else 0xff00 + byte.toNat := by
  have bound := byte.toNat_lt
  have twenty : (20 : UInt8).toNat = 20 := rfl
  unfold codePoint encode
  rw [UInt8.toNat_add, twenty]
  split <;> omega

private theorem decode_eq_ofNat (byte : UInt8) : decode byte = Char.ofNat (codePoint byte) := by
  rw [← toNat_decode, Char.ofNat_toNat]

private theorem decode_encode (byte : UInt8) : decode (encode byte) = plain byte := by
  rw [decode_eq_ofNat, codePoint_encode]
  exact apply_ite Char.ofNat _ _ _

private theorem decodeText_encode (bytes : List UInt8) :
    decodeText (bytes.map encode) = plainText bytes := by
  unfold decodeText plainText
  rw [List.map_map]
  exact congrArg String.ofList (List.map_congr_left fun byte _ => decode_encode byte)

end Charset

private theorem Word.signed_eq_toInt (word : UInt16) : signed word = word.toInt16.toInt := by
  unfold signed
  rw [← Int16.toInt_toBitVec, UInt16.toBitVec_toInt16, BitVec.toInt_eq_toNat_cond,
    UInt16.toNat_toBitVec]
  split <;> split <;> omega

theorem Property.readDefaults_of_holds {words : List UInt16}
    (held : image.Holds (offset + 2) (words.flatMap Word.toBytes)) :
    Property.readDefaults image offset words.length =
      .ok (words.map fun word => [.value word.toInt16.toInt]) := by
  simp only [← Word.signed_eq_toInt]
  exact bind_eq_ok_iff.mpr ⟨words, held.words, rfl⟩

namespace Event

def store (event : Event) : List UInt8 := Word.toBytes event.object ++ Word.toBytes event.address

theorem readTable_of_holds {events : List Event}
    (held : image.Holds (offset + 2) (events.flatMap store)) :
    readTable image offset events.length = .ok events := by
  have done := Record.readCount_of_holds (readRecord image) store id held (by
    intro place event _ here
    refine ⟨{ value := event, width := 4 }, ?_, rfl, rfl⟩
    exact bind_eq_ok_iff.mpr ⟨_, here.left.wordAt, bind_eq_ok_iff.mpr ⟨_, here.right.wordAt, rfl⟩⟩)
  refine bind_eq_ok_iff.mpr ⟨_, done, congrArg Except.ok ?_⟩
  rw [Record.map_snd_map_placed, List.map_id]

end Event

namespace WordCategory

def toByte : WordCategory → UInt8
  | synonyms => 0
  | removals => 1
  | compounds => 2
  | punctuation => 3

theorem ofByte?_toByte (category : WordCategory) : ofByte? category.toByte = some category := by
  cases category <;> rfl

end WordCategory

namespace SpecialWords

def storeRecord (record : WordCategory × SpecialWord) : List UInt8 :=
  record.1.toByte :: (Word.toBytes record.2.first ++ Word.toBytes record.2.second)

def sorted (records : List (WordCategory × SpecialWord)) (category : WordCategory) :
    List SpecialWord :=
  records.filterMap fun (other, word) => if other = category then some word else none

def sortedApart (records : List (WordCategory × SpecialWord)) : SpecialWords where
  synonyms := sorted records .synonyms
  removals := sorted records .removals
  compounds := sorted records .compounds
  punctuation := sorted records .punctuation

private theorem select_eq_sorted (category : WordCategory)
    (records : List (WordCategory × SpecialWord)) :
    select category records = sorted records category := by
  unfold select sorted
  induction records with
  | nil => rfl
  | cons record rest ih => by_cases own : record.1 = category <;> simp [own, ih]

theorem read_of_holds {records : List (WordCategory × SpecialWord)}
    (held : image.Holds (offset + 2) (records.flatMap storeRecord)) :
    SpecialWords.read image offset records.length = .ok (sortedApart records) := by
  have done := Record.readCount_of_holds (readRecord image) storeRecord id held (by
    intro place record _ here
    obtain ⟨category, word⟩ := record
    refine ⟨{ value := (category, word), width := 5 }, ?_, rfl, rfl⟩
    refine bind_eq_ok_iff.mpr ⟨category.toByte, here.byteAt, bind_eq_ok_iff.mpr
      ⟨word.first, here.tail.left.wordAt, bind_eq_ok_iff.mpr ⟨word.second, here.tail.right.wordAt, ?_⟩⟩⟩
    rw [WordCategory.ofByte?_toByte]
    rfl)
  refine bind_eq_ok_iff.mpr ⟨_, done, congrArg Except.ok ?_⟩
  rw [Record.map_snd_map_placed, List.map_id]
  simp only [ofRecords, sortedApart, select_eq_sorted]

end SpecialWords

namespace Dictionary

def storeWord (word : List UInt8) : List UInt8 :=
  UInt8.ofNat word.length :: word.map Charset.encode

def entries (words : List (List UInt8)) : List (Int × String) :=
  (Record.placed (fun word => 1 + word.length) 0 words).map (Prod.map Int.ofNat Charset.plainText)

private theorem readWord_of_holds {word : List UInt8} (short : word.length ≤ 255)
    (held : image.Holds offset (storeWord word)) :
    ∃ record, readWord image offset = .ok record ∧ record.value = Charset.plainText word ∧
      record.width = (storeWord word).length := by
  have length := Word.toNat_byteCount short
  have text : image.textAt .dictionary (offset + 1) (UInt8.ofNat word.length).toNat =
      .ok (Charset.plainText word) := by
    rw [← Charset.decodeText_encode]
    refine bind_eq_ok_iff.mpr ⟨_, held.tail.slice ?_, rfl⟩
    rw [length, List.length_map]
  refine ⟨_, bind_eq_ok_iff.mpr ⟨_, held.byteAt, bind_eq_ok_iff.mpr ⟨_, text, rfl⟩⟩, rfl, ?_⟩
  change 1 + (UInt8.ofNat word.length).toNat = (word.map Charset.encode).length + 1
  rw [length, List.length_map]
  omega

private theorem width_storeWord (word : List UInt8) :
    (storeWord word).length = 1 + word.length := by
  unfold storeWord
  rw [List.length_cons, List.length_map, Nat.add_comm]

theorem read_of_holds {words : List (List UInt8)} (short : ∀ word ∈ words, word.length ≤ 255)
    (held : image.Holds (offset + 2) (words.flatMap storeWord)) :
    Dictionary.read image offset words.length = .ok ⟨⟨entries words⟩⟩ := by
  have done := Record.readCount_of_holds (readWord image) storeWord Charset.plainText held
    fun place word member here => readWord_of_holds (short word member) here
  refine bind_eq_ok_iff.mpr ⟨_, done, ?_⟩
  refine congrArg (fun entries => Except.ok (Dictionary.mk ⟨entries⟩)) ?_
  simp only [width_storeWord]
  rw [← Nat.add_zero (offset + 2), Record.placed_add, List.map_map, List.map_map]
  apply List.map_congr_left
  rintro ⟨place, word⟩ _
  change (((offset + 2 + place : Nat) : Int) - _, _) = ((place : Int), _)
  congr 1
  omega

theorem map_snd_entries (words : List (List UInt8)) :
    (entries words).map Prod.snd = words.map Charset.plainText :=
  Record.map_snd_map_placed _ _ _ _ _

private theorem nonneg_of_mem_keys {words : List (List UInt8)} {address : Int}
    (member : address ∈ (OrderedMap.mk (entries words)).keys) : 0 ≤ address := by
  obtain ⟨_, inside, rfl⟩ := List.mem_map.mp member
  obtain ⟨⟨place, word⟩, _, rfl⟩ := List.mem_map.mp inside
  exact Int.natCast_nonneg place

theorem withReserved_entries (words : List (List UInt8)) (serial : String) :
    Dictionary.withReserved ⟨⟨entries words⟩⟩ serial =
      ⟨⟨(parsedAddress, "") :: (serialAddress, serial) :: entries words⟩⟩ :=
  congrArg (fun entries => Dictionary.mk ⟨entries⟩)
    (withReserved_of_nonneg (fun _ member => nonneg_of_mem_keys member) serial)

end Dictionary

namespace TextBank

def storeText (text : List UInt8) : List UInt8 :=
  Word.toBytes (UInt16.ofNat text.length) ++ text.map Charset.encode

def entries (texts : List (List UInt8)) : List (Nat × String) :=
  (Record.placed (fun text => 2 + text.length) 0 texts).map (Prod.map id Charset.plainText)

theorem map_snd_entries (texts : List (List UInt8)) :
    (entries texts).map Prod.snd = texts.map Charset.plainText :=
  Record.map_snd_map_placed _ _ _ _ _

private theorem width_storeText (text : List UInt8) :
    (storeText text).length = 2 + text.length := by
  unfold storeText
  rw [List.length_append, List.length_map, Word.length_toBytes]

private theorem readText_of_holds {text : List UInt8} (short : text.length ≤ 65535)
    (held : image.Holds offset (storeText text)) :
    ∃ record, readText image offset = .ok (some record) ∧ record.value = Charset.plainText text ∧
      record.width = (storeText text).length := by
  have length := Word.toNat_count short
  refine ⟨_, bind_eq_ok_iff.mpr ⟨_, held.left.wordAt, rfl⟩, ?_, ?_⟩
  · have contents := held.right.extract
    rw [List.length_map] at contents
    change Charset.decodeText _ = _
    rw [length, ← Charset.decodeText_encode]
    exact congrArg Charset.decodeText contents
  · rw [width_storeText]
    exact congrArg (2 + ·) length

theorem read_of_holds {texts : List (List UInt8)} (short : ∀ text ∈ texts, text.length ≤ 65535)
    (held : image.Holds offset (texts.flatMap storeText)) :
    TextBank.read image offset (offset + (texts.flatMap storeText).length) =
      .ok ⟨⟨entries texts⟩⟩ := by
  have run := Record.run_of_holds
    (Record.FoundBefore (readText image) (offset + (texts.flatMap storeText).length))
    storeText Charset.plainText held (Nat.le_refl _) (by
      intro place text member here room
      obtain ⟨record, read, same, width⟩ := readText_of_holds (short text member) here
      have positive := width_storeText text
      exact ⟨record, ⟨by omega, read⟩, same, width⟩)
  refine bind_eq_ok_iff.mpr
    ⟨_, Record.readUpTo_eq_ok_iff.mpr ⟨_, run, .inl (Nat.le_refl _)⟩, ?_⟩
  refine congrArg (fun entries => Except.ok (TextBank.mk ⟨entries⟩)) ?_
  simp only [width_storeText]
  rw [← Nat.add_zero offset, Record.placed_add, List.map_map, List.map_map]
  apply List.map_congr_left
  rintro ⟨place, text⟩ _
  change (offset + place - offset, _) = (place, _)
  rw [Nat.add_sub_cancel_left]
  rfl

end TextBank

namespace Variables

def storeArray (array : List UInt16) : List UInt8 :=
  Word.toBytes (UInt16.ofNat array.length) ++ array.flatMap Word.toBytes

/-- The arrays by the places of their length words, counted in words from the globals. -/
def entries (arrays : List (List UInt16)) : List (Nat × List UInt16) :=
  Record.placed (fun array => 1 + array.length) 240 arrays

theorem width_storeArray (array : List UInt16) :
    (storeArray array).length = 2 * (1 + array.length) := by
  unfold storeArray
  rw [List.length_append, Word.length_flatMap_toBytes, Word.length_toBytes]
  omega

theorem readGlobals_of_holds {globals : List UInt16} (all : globals.length = globalCount)
    (held : image.Holds offset (globals.flatMap Word.toBytes)) :
    readGlobals image offset = .ok (globals.map fun word => word.toInt16.toInt) := by
  unfold readGlobals
  rw [← all]
  simp only [← Word.signed_eq_toInt]
  exact bind_eq_ok_iff.mpr ⟨globals, held.words, rfl⟩

private theorem readArray_of_holds {array : List UInt16} (short : array.length ≤ 65535)
    (held : image.Holds offset (storeArray array)) :
    ∃ record, readArray image offset = .ok (some record) ∧ record.value = array ∧
      record.width = (storeArray array).length := by
  have length := Word.toNat_count short
  have contents : image.words .arrays (offset + 2) (UInt16.ofNat array.length).toNat =
      .ok array := by
    rw [length]
    exact held.right.words
  refine ⟨_, bind_eq_ok_iff.mpr ⟨_, held.left.wordAt, bind_eq_ok_iff.mpr ⟨_, contents, rfl⟩⟩,
    rfl, ?_⟩
  rw [width_storeArray, Nat.mul_add]
  change 2 + 2 * _ = _
  rw [length]

theorem readArrays_of_holds {arrays : List (List UInt16)} {stop : Nat}
    (short : ∀ array ∈ arrays, array.length ≤ 65535)
    (held : image.Holds (offset + 2 * globalCount) (arrays.flatMap storeArray))
    (ends : stop = offset + 2 * globalCount + (arrays.flatMap storeArray).length) :
    readArrays image offset stop = .ok ⟨entries arrays⟩ := by
  have run := Record.run_of_holds (Record.FoundBefore (readArray image) stop)
    storeArray id held (Nat.le_of_eq ends.symm) (by
      intro place array member here room
      obtain ⟨record, read, same, width⟩ := readArray_of_holds (short array member) here
      have positive := width_storeArray array
      exact ⟨record, ⟨by omega, read⟩, same, width⟩)
  refine bind_eq_ok_iff.mpr
    ⟨_, Record.readUpTo_eq_ok_iff.mpr ⟨_, run, .inl (Nat.le_of_eq ends)⟩, ?_⟩
  refine congrArg (fun entries => Except.ok (OrderedMap.mk entries)) ?_
  simp only [width_storeArray]
  rw [Record.placed_add, Record.placed_mul, List.map_map, List.map_map, List.map_map]
  refine (List.map_congr_left ?_).trans (List.map_id _)
  rintro ⟨place, array⟩ _
  change ((offset + 2 * place - offset) / 2, _) = (place, _)
  rw [Nat.add_sub_cancel_left, Nat.mul_div_cancel_left _ (Nat.zero_lt_succ 1)]
  rfl

end Variables

namespace Code

/-- Code that zeros fill up to more bytes. It does not end with a zero itself. -/
structure PaddedTo (bytes code : List UInt8) : Prop where
  zeros : ∃ count, bytes = code ++ List.replicate count 0
  ends : code.getLast? ≠ some 0

variable {bytes code other : List UInt8}

theorem paddedTo_trimmed (bytes : List UInt8) : PaddedTo bytes (trimmed bytes) where
  zeros := by
    let zeros := (bytes.reverse.takeWhile (· == 0)).reverse
    have split : bytes = trimmed bytes ++ zeros := by
      rw [trimmed, ← List.reverse_append, List.takeWhile_append_dropWhile, List.reverse_reverse]
    have zero (byte : UInt8) (member : byte ∈ zeros) : byte = 0 :=
      eq_of_beq (List.all_eq_true.mp List.all_takeWhile byte (List.mem_reverse.mp member))
    exact ⟨zeros.length, split.trans (congrArg _ (List.eq_replicate_of_mem zero))⟩
  ends := getLast?_trimmed_ne_zero bytes

private theorem eq_of_append_zeros {count more : Nat} (ends : code.getLast? ≠ some 0)
    (same : code ++ List.replicate count 0 = other ++ List.replicate (more + count) 0) :
    code = other := by
  rw [← List.replicate_append_replicate, ← List.append_assoc] at same
  have code := List.append_cancel_right same
  cases more with
  | zero => rwa [List.replicate_zero, List.append_nil] at code
  | succ more =>
    rw [code, List.replicate_succ', ← List.append_assoc, List.getLast?_concat] at ends
    exact absurd rfl ends

theorem PaddedTo.unique (first : PaddedTo bytes code) (second : PaddedTo bytes other) :
    code = other := by
  obtain ⟨count, same⟩ := first.zeros
  obtain ⟨count', same'⟩ := second.zeros
  rcases Nat.le_total count count' with fewer | fewer
  · obtain ⟨more, rfl⟩ := Nat.exists_eq_add_of_le' fewer
    exact eq_of_append_zeros first.ends (same.symm.trans same')
  · obtain ⟨more, rfl⟩ := Nat.exists_eq_add_of_le' fewer
    exact (eq_of_append_zeros second.ends (same'.symm.trans same)).symm

theorem paddedTo_append_zeros_iff {count : Nat} :
    PaddedTo (bytes ++ List.replicate count 0) code ↔ PaddedTo bytes code := by
  have more {code : List UInt8} (padded : PaddedTo bytes code) :
      PaddedTo (bytes ++ List.replicate count 0) code := by
    obtain ⟨first, rfl⟩ := padded.zeros
    exact ⟨⟨first + count, by rw [List.append_assoc, List.replicate_append_replicate]⟩, padded.ends⟩
  constructor
  · intro padded
    have own := paddedTo_trimmed bytes
    rwa [padded.unique (more own)]
  · exact more

theorem exists_read {stop : Nat} (sliced : image.slice .code offset stop = .ok bytes) :
    ∃ code, Code.read image offset stop = .ok code ∧ PaddedTo bytes code :=
  ⟨_, bind_eq_ok_iff.mpr ⟨bytes, sliced, rfl⟩, paddedTo_trimmed bytes⟩

end Code

end HugoStory
