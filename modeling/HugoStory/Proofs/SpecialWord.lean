import HugoStory.Proofs.Consistent
import HugoStory.Proofs.Image.Missing
import HugoStory.Proofs.Truthful
/-! The special words are their table sorted apart. Every record goes to the category that its byte
stands for, and the records of one category stay in the order of the table. The first record that the
file does not hold to its end, or whose byte stands for no category, is the one that the table is
refused for. -/
namespace HugoStory
open Outcome

private theorem WordCategory.ofByte?_eq_some_iff {byte : UInt8} {category : WordCategory} :
    ofByte? byte = some category ↔ byte = category.toByte := by
  constructor
  · intro known
    have low : byte.toNat < 4 := by
      apply Nat.lt_of_not_le
      rw [← ofByte?_eq_none_iff, known]
      simp
    apply UInt8.toNat_inj.mp
    unfold ofByte? at known
    generalize byte.toNat = index at known low ⊢
    match index, low with
    | 0, _ | 1, _ | 2, _ | 3, _ =>
      cases known
      rfl
  · rintro rfl
    exact ofByte?_toByte category

private theorem WordCategory.toByte_lt (category : WordCategory) : category.toByte.toNat < 4 := by
  cases category <;> decide

private theorem WordCategory.toByte_inj {category other : WordCategory} :
    category.toByte = other.toByte ↔ category = other := by
  rw [← ofByte?_eq_some_iff, ofByte?_toByte, Option.some.injEq]

namespace SpecialWords

variable {image : Image} {offset count place : Nat} {byte : UInt8} {word : SpecialWord}

def fields? (image : Image) (place : Nat) : Option (UInt8 × SpecialWord) := do
  let byte ← image.byte? place
  let first ← image.word? (place + 1)
  let second ← image.word? (place + 3)
  return (byte, { first, second })

private theorem fields?_eq_some_iff :
    fields? image place = some (byte, word) ↔ image.byte? place = some byte ∧
      image.word? (place + 1) = some word.first ∧ image.word? (place + 3) = some word.second := by
  unfold fields?
  constructor
  · intro present
    obtain ⟨_, here, present⟩ := Option.bind_eq_some_iff.mp present
    obtain ⟨_, first, present⟩ := Option.bind_eq_some_iff.mp present
    obtain ⟨_, second, same⟩ := Option.bind_eq_some_iff.mp present
    cases same
    exact ⟨here, first, second⟩
  · rintro ⟨here, first, second⟩
    simp [here, first, second]

private theorem le_size_of_fields? {fields : UInt8 × SpecialWord}
    (present : fields? image place = some fields) : place + 5 ≤ image.size :=
  Image.le_size_of_word? (fields?_eq_some_iff.mp present).2.2

private theorem readRecord_eq_ok_iff {record : Record (WordCategory × SpecialWord)} :
    readRecord image place = .ok record ↔ ∃ byte category word,
      fields? image place = some (byte, word) ∧ byte = category.toByte ∧
        record = { value := (category, word), width := 5, width_pos := Nat.succ_pos 4 } := by
  constructor
  · intro read
    obtain ⟨byte, here, read⟩ := bind_eq_ok_iff.mp read
    obtain ⟨first, one, read⟩ := bind_eq_ok_iff.mp read
    obtain ⟨second, other, read⟩ := bind_eq_ok_iff.mp read
    cases known : WordCategory.ofByte? byte with
    | none =>
      rw [known] at read
      cases read
    | some category =>
      rw [known] at read
      cases read
      refine ⟨byte, category, _, fields?_eq_some_iff.mpr ⟨?_, ?_, ?_⟩,
        WordCategory.ofByte?_eq_some_iff.mp known, rfl⟩
      · exact Image.byteAt_eq_ok_iff.mp here
      · exact Image.wordAt_eq_ok_iff_word?.mp one
      · exact Image.wordAt_eq_ok_iff_word?.mp other
  · rintro ⟨byte, category, word, present, rfl, rfl⟩
    obtain ⟨here, first, second⟩ := fields?_eq_some_iff.mp present
    refine bind_eq_ok_iff.mpr ⟨_, Image.byteAt_eq_ok_iff.mpr here, ?_⟩
    refine bind_eq_ok_iff.mpr ⟨_, Image.wordAt_eq_ok_iff_word?.mpr first, ?_⟩
    refine bind_eq_ok_iff.mpr ⟨_, Image.wordAt_eq_ok_iff_word?.mpr second, ?_⟩
    rw [WordCategory.ofByte?_toByte]
    rfl

/-- What is wrong with a record: it is not in the file to its end, whatever its byte is, or it is and
its byte stands for no category. -/
inductive Offends (image : Image) (place : Nat) : Fault → Prop
  | cut (short : image.size < place + 5) :
    Offends image place (.endOfFile .specialWords (max place image.size))
  | unknown {byte : UInt8} {word : SpecialWord} (present : fields? image place = some (byte, word))
    (high : 4 ≤ byte.toNat) : Offends image place (.unknownWordCategory byte place)

theorem Offends.unique {fault other : Fault} (first : Offends image place fault)
    (second : Offends image place other) : fault = other := by
  cases first with
  | cut short =>
    cases second with
    | cut => rfl
    | unknown present => exact absurd (le_size_of_fields? present) (Nat.not_le.mpr short)
  | unknown present =>
    cases second with
    | cut short => exact absurd (le_size_of_fields? present) (Nat.not_le.mpr short)
    | unknown present' =>
      cases present.symm.trans present'
      rfl

private theorem offends_of_readRecord {fault : Fault}
    (failed : readRecord image place = .error fault) :
    Offends image place fault := by
  -- Behind the first byte the file is missed where it ends.
  have late {last : Nat} (behind : place ≤ last) (inside : last ≤ image.size)
      (short : image.size < place + 5) :
      Offends image place (.endOfFile .specialWords (max last image.size)) := by
    have cut := Offends.cut short
    rw [Nat.max_eq_right (Nat.le_trans behind inside)] at cut
    rwa [Nat.max_eq_right inside]
  rcases bind_eq_error_iff.mp failed with early | ⟨byte, here, failed⟩
  · obtain ⟨outside, rfl⟩ := Image.byteAt_eq_error_iff.mp early
    have cut : Offends image place _ := .cut (by omega)
    rwa [Nat.max_eq_left outside] at cut
  have present := Image.byteAt_eq_ok_iff.mp here
  rcases bind_eq_error_iff.mp failed with early | ⟨first, one, failed⟩
  · obtain ⟨short, rfl⟩ := Image.wordAt_eq_error_iff.mp early
    exact late (Nat.le_add_right _ _) (Image.lt_size_of_byte? present) (by omega)
  have half := Image.wordAt_eq_ok_iff_word?.mp one
  rcases bind_eq_error_iff.mp failed with early | ⟨second, other, failed⟩
  · obtain ⟨short, rfl⟩ := Image.wordAt_eq_error_iff.mp early
    exact late (Nat.le_add_right _ _) (Image.le_size_of_word? half) short
  cases known : WordCategory.ofByte? byte with
  | some category =>
    rw [known] at failed
    cases failed
  | none =>
    rw [known] at failed
    cases failed
    have held : fields? image place = some (byte, { first, second }) :=
      fields?_eq_some_iff.mpr ⟨present, half, Image.wordAt_eq_ok_iff_word?.mp other⟩
    exact .unknown held (WordCategory.ofByte?_eq_none_iff.mp known)

theorem readRecord_eq_error_iff {fault : Fault} :
    readRecord image place = .error fault ↔ Offends image place fault := by
  refine ⟨offends_of_readRecord, fun offends => ?_⟩
  cases outcome : readRecord image place with
  | error other => rw [offends.unique (offends_of_readRecord outcome)]
  | ok record =>
    obtain ⟨byte, category, word, present, rfl, -⟩ := readRecord_eq_ok_iff.mp outcome
    cases offends with
    | cut short => exact absurd (le_size_of_fields? present) (Nat.not_le.mpr short)
    | unknown present' high =>
      cases present.symm.trans present'
      exact absurd high (Nat.not_le.mpr category.toByte_lt)

theorem exists_readRecord_iff :
    (∃ record, readRecord image place = .ok record) ↔
      ∃ byte word, fields? image place = some (byte, word) ∧ byte.toNat < 4 := by
  constructor
  · rintro ⟨record, read⟩
    obtain ⟨byte, category, word, present, rfl, -⟩ := readRecord_eq_ok_iff.mp read
    exact ⟨_, word, present, category.toByte_lt⟩
  · rintro ⟨byte, word, present, low⟩
    cases known : WordCategory.ofByte? byte with
    | none => exact absurd low (Nat.not_lt.mpr (WordCategory.ofByte?_eq_none_iff.mp known))
    | some category =>
      exact ⟨_, readRecord_eq_ok_iff.mpr
        ⟨byte, category, word, present, WordCategory.ofByte?_eq_some_iff.mp known, rfl⟩⟩

/-- The records of a table sorted apart by their bytes: each category has its own in the order of the
table, and together they have all of them. -/
structure Partitioned (table : List (UInt8 × SpecialWord)) (words : SpecialWords) : Prop where
  known : ∀ record ∈ table, record.1.toNat < 4
  each : ∀ category,
    words.get category = (table.filter fun record => record.1 = category.toByte).map Prod.snd
  whole : (WordCategory.all.flatMap fun category =>
    (words.get category).map (Prod.mk category.toByte)).Perm table
  keys : words.toJson = .object [
    ("synonyms", .list (words.synonyms.map SpecialWord.toJson)),
    ("removals", .list (words.removals.map SpecialWord.toJson)),
    ("compounds", .list (words.compounds.map SpecialWord.toJson)),
    ("punctuation", .list (words.punctuation.map SpecialWord.toJson))]

private theorem partitioned_ofRecords (records : List (WordCategory × SpecialWord)) :
    Partitioned (records.map (Prod.map WordCategory.toByte id)) (ofRecords records) where
  known := by
    intro record member
    obtain ⟨⟨category, word⟩, -, rfl⟩ := List.mem_map.mp member
    exact category.toByte_lt
  each category := by
    rw [get_ofRecords, select, List.filter_map, List.map_map]
    have same : (fun record : UInt8 × SpecialWord => decide (record.1 = category.toByte)) ∘
        Prod.map WordCategory.toByte id = fun record => decide (record.1 = category) := by
      funext record
      simp [WordCategory.toByte_inj]
    rw [same]
    rfl
  whole := by
    have sorted := (perm_select records).map (Prod.map WordCategory.toByte id)
    rw [List.map_flatMap] at sorted
    simpa [get_ofRecords, Function.comp_def] using sorted
  keys := rfl

private theorem fields?_of_readCount {records : List (Nat × WordCategory × SpecialWord)}
    (done : Record.readCount (readRecord image) count offset = .ok records) :
    ∀ index < count, fields? image (offset + 5 * index) =
      ((records.map Prod.snd).map (Prod.map WordCategory.toByte id))[index]? := by
  intro index inside
  obtain ⟨rfl, stop, run⟩ := Record.readCount_eq_ok_iff.mp done
  obtain ⟨record, read, same⟩ :=
    run.found_at (fun _ _ read => (width_of_readRecord read).1) inside
  obtain ⟨byte, category, word, present, rfl, rfl⟩ := readRecord_eq_ok_iff.mp read
  rw [present, List.getElem?_map, List.getElem?_map, List.getElem?_eq_getElem inside, same]
  rfl

/-- If a table is read, the lists of its words are its records sorted apart. Otherwise it is refused
for its first record that is cut off or unknown. -/
theorem read_partitioned (image : Image) (offset count : Nat) :
    (∀ words, SpecialWords.read image offset count = .ok words →
      ∃ table : List (UInt8 × SpecialWord), table.length = count ∧
        (∀ index < count, fields? image (offset + 2 + 5 * index) = table[index]?) ∧
        Partitioned table words) ∧
    ∀ fault, SpecialWords.read image offset count = .error fault ↔
      ∃ index < count,
        (∀ earlier < index, ∃ byte word,
          fields? image (offset + 2 + 5 * earlier) = some (byte, word) ∧ byte.toNat < 4) ∧
        Offends image (offset + 2 + 5 * index) fault := by
  constructor
  · intro words read
    obtain ⟨records, done, read⟩ := bind_eq_ok_iff.mp read
    cases read
    refine ⟨_, ?_, fields?_of_readCount done, partitioned_ofRecords _⟩
    simpa using Record.length_of_readCount done
  · intro fault
    unfold SpecialWords.read
    rw [thenReturn_eq_error_iff, Record.readCount_eq_error_iff_of_even
      fun _ _ read => (width_of_readRecord read).1]
    simp only [exists_readRecord_iff, readRecord_eq_error_iff]

/-- Three words of two categories, and behind them a record that stands for none. The record that the
file breaks off stands for none either, but it is refused as broken off. -/
theorem read_partitioned_mixed :
    let image : Image := ⟨#[9, 9, 3, 48, 0, 0, 0, 0, 16, 0, 32, 0, 3, 64, 0, 0, 0, 4, 1, 0, 0, 0, 7, 1]⟩
    let words : SpecialWords := {
      synonyms := [⟨16, 32⟩], removals := [], compounds := [], punctuation := [⟨48, 0⟩, ⟨64, 0⟩] }
    SpecialWords.read image 0 3 = .ok words ∧
      (∃ table : List (UInt8 × SpecialWord), table.length = 3 ∧ Partitioned table words) ∧
      SpecialWords.read image 0 4 = .error (.unknownWordCategory 4 17) ∧
      (∃ index < 4, Offends image (0 + 2 + 5 * index) (.unknownWordCategory 4 17)) ∧
      SpecialWords.read image 20 1 = .error (.endOfFile .specialWords 24) ∧
      ∃ index < 1, Offends image (20 + 2 + 5 * index) (.endOfFile .specialWords 24) := by
  intro image words
  have read : SpecialWords.read image 0 3 = .ok words := by rfl
  have unknown : SpecialWords.read image 0 4 = .error (.unknownWordCategory 4 17) := by rfl
  have cut : SpecialWords.read image 20 1 = .error (.endOfFile .specialWords 24) := by rfl
  obtain ⟨table, length, -, partitioned⟩ := (read_partitioned image 0 3).1 words read
  obtain ⟨third, inside, -, offends⟩ := ((read_partitioned image 0 4).2 _).mp unknown
  obtain ⟨first, inside', -, offends'⟩ := ((read_partitioned image 20 1).2 _).mp cut
  exact ⟨read, ⟨table, length, partitioned⟩, unknown, ⟨third, inside, offends⟩, cut,
    first, inside', offends'⟩

end SpecialWords

end HugoStory
