import HugoStory.Proofs.RoundTrip
import HugoStory.Story.Json
/-! Stories that were read are consistent in themselves. Every table has as many entries as its
count declares, none lost under the key of another; the reserved words are there; every object
inherits as it should; and what is stored in blocks or padded comes out as it was meant. -/
namespace HugoStory
open Outcome

def EntryPoints.routines (points : EntryPoints) : List Nat :=
  [points.init, points.main, points.parse, points.parseError, points.findObject, points.endGame,
    points.speakTo, points.perform]

structure Dictionary.Consistent (dictionary : Dictionary) (count : Nat) (serial : String) :
    Prop where
  size : dictionary.size = count + 2
  parsed : dictionary.get? (-16) = some ""
  serial : dictionary.get? (-15) = some serial
  keys : ∀ key ∈ dictionary.words.keys, key = -16 ∨ key = -15 ∨ 0 ≤ key
  ascending : dictionary.words.Ascending

structure SpecialWords.Consistent (words : SpecialWords) (count : Nat) : Prop where
  total : words.synonyms.length + words.removals.length + words.compounds.length +
    words.punctuation.length = count
  categories : ∃ synonyms removals compounds punctuation, words.toJson =
    .object [("synonyms", synonyms), ("removals", removals), ("compounds", compounds),
      ("punctuation", punctuation)]

/-- Only the last entry can be without lines. -/
structure Grammar.Consistent (entries : List GrammarEntry) : Prop where
  lines : ∀ entry ∈ entries.dropLast, entry.lines ≠ []
  verbs : ∀ entry ∈ entries, entry.verbs.length ≤ 255
  tokens : ∀ entry ∈ entries, ∀ line ∈ entry.lines, line.length ≤ 254

structure Story.Consistent (defaults : List Property) (story : Story) : Prop where
  version : story.version = Version.supported
  serial : story.serial.length = 8
  file : story.file = none
  objects : story.objects.length = story.counts.objects.toNat
  events : story.events.length = story.counts.events.toNat
  dictionary : story.dictionary.Consistent story.counts.dictionaryWords.toNat story.serial
  specialWords : story.specialWords.Consistent story.counts.specialWords.toNat
  globals : story.globals.length = 240
  signed : ∀ value ∈ story.globals, -32768 ≤ value ∧ value ≤ 32767
  defaultCount : defaults.length = story.counts.properties.toNat
  properties : ∀ object ∈ story.objects, Object.Inherits defaults object.properties
  code : story.code.getLast? ≠ some 0
  arrays : story.arrays.Ascending ∧ ∀ key, story.arrays.keys.head? = some key → key = 240
  texts : story.textBank.texts.Ascending ∧
    ∀ key, story.textBank.texts.keys.head? = some key → key = 0
  entryPoints : ∀ point ∈ story.entryPoints.routines, 16 ∣ point
  grammar : Grammar.Consistent story.grammar
  ifids : story.ifids.Nodup

variable {image : Image}

namespace Header

private theorem supported_of_readVersion {version : Version}
    (read : readVersion image = .ok version) :
    version = Version.supported := by
  obtain ⟨byte, _, read⟩ := bind_eq_ok_iff.mp read
  dsimp only at read
  split at read
  · rename_i known
    cases read
    exact known
  · cases read

theorem length_of_readSerial {serial : String} (read : readSerial image = .ok serial) :
    serial.length = 8 := by
  obtain ⟨bytes, sliced, read⟩ := bind_eq_ok_iff.mp read
  cases read
  obtain ⟨inside, rfl⟩ := Image.slice_eq_ok_iff.mp sliced
  unfold Image.size at inside
  simp [serialOffset, serialLength] at inside ⊢
  omega

private theorem dvd_of_readBlock {offset start : Nat} (read : readBlock image offset = .ok start) :
    16 ∣ start := by
  obtain ⟨word, _, read⟩ := bind_eq_ok_iff.mp read
  cases read
  exact Nat.dvd_mul_left _ _

private theorem dvd_of_readEntryPoints {code : Nat} {points : EntryPoints}
    (read : readEntryPoints image code = .ok points) : ∀ point ∈ points.routines, 16 ∣ point := by
  obtain ⟨init, readInit, read⟩ := bind_eq_ok_iff.mp read
  obtain ⟨main, readMain, read⟩ := bind_eq_ok_iff.mp read
  obtain ⟨parse, readParse, read⟩ := bind_eq_ok_iff.mp read
  obtain ⟨parseError, readParseError, read⟩ := bind_eq_ok_iff.mp read
  obtain ⟨findObject, readFindObject, read⟩ := bind_eq_ok_iff.mp read
  obtain ⟨endGame, readEndGame, read⟩ := bind_eq_ok_iff.mp read
  obtain ⟨speakTo, readSpeakTo, read⟩ := bind_eq_ok_iff.mp read
  obtain ⟨perform, readPerform, read⟩ := bind_eq_ok_iff.mp read
  cases read
  simp only [EntryPoints.routines, List.forall_mem_cons]
  exact ⟨dvd_of_readBlock readInit, dvd_of_readBlock readMain, dvd_of_readBlock readParse,
    dvd_of_readBlock readParseError, dvd_of_readBlock readFindObject, dvd_of_readBlock readEndGame,
    dvd_of_readBlock readSpeakTo, dvd_of_readBlock readPerform, by simp⟩

end Header

theorem Property.defaults_of_readDefaults {offset count : Nat} {defaults : List Property}
    (read : Property.readDefaults image offset count = .ok defaults) :
    defaults.length = count ∧ Property.Defaults defaults := by
  obtain ⟨words, taken, read⟩ := bind_eq_ok_iff.mp read
  cases read
  refine ⟨by simpa using Image.length_of_words taken, ?_⟩
  intro property member
  obtain ⟨word, _, rfl⟩ := List.mem_map.mp member
  exact ⟨word, rfl⟩

private theorem Event.length_of_readTable {offset count : Nat} {events : List Event}
    (read : Event.readTable image offset count = .ok events) : events.length = count := by
  obtain ⟨records, done, read⟩ := bind_eq_ok_iff.mp read
  cases read
  simpa using Record.length_of_readCount done

namespace Record.Run

variable {κ α : Type} {finds : Nat → Record α → Prop} {start stop : Nat} {records : List (Nat × α)}

private theorem ascending_keys [LT κ] {gap : Nat}
    (wide : ∀ place record, finds place record → gap ≤ record.width) (key : Nat → κ)
    (grows : ∀ place later, start ≤ place → place + gap ≤ later → key place < key later)
    (run : Run finds start records stop) :
    OrderedMap.Ascending ⟨records.map fun (place, value) => (key place, value)⟩ := by
  have apart := run.places_apart wide
  unfold OrderedMap.Ascending OrderedMap.keys
  rw [List.map_map]
  rw [List.pairwise_map] at apart ⊢
  apply apart.imp_of_mem
  rintro ⟨place, value⟩ ⟨later, value'⟩ member member' distance
  exact grows place later (run.found member).1 distance

theorem head_key (run : Run finds start records stop) (key : Nat → κ) {first : κ}
    (head : (OrderedMap.mk (records.map fun (place, value) => (key place, value))).keys.head? =
      some first) : first = key start := by
  unfold OrderedMap.keys at head
  rw [List.map_map, List.head?_map, Option.map_eq_some_iff] at head
  obtain ⟨⟨place, value⟩, here, rfl⟩ := head
  rw [← run.head_place here]
  rfl

end Record.Run

namespace Variables

private theorem signed_of_readGlobals {offset : Nat} {globals : List Int}
    (read : readGlobals image offset = .ok globals) :
    globals.length = 240 ∧ ∀ value ∈ globals, -32768 ≤ value ∧ value ≤ 32767 := by
  obtain ⟨words, taken, read⟩ := bind_eq_ok_iff.mp read
  cases read
  refine ⟨?_, ?_⟩
  · rw [List.length_map]
    exact Image.length_of_words taken
  · intro value member
    obtain ⟨word, _, rfl⟩ := List.mem_map.mp member
    exact Word.signed_range word

/-- Arrays are at least two bytes apart, so their keys, counted in words, differ. -/
theorem ascending_of_readArrays {offset stop : Nat} {arrays : OrderedMap Nat (List UInt16)}
    (read : readArrays image offset stop = .ok arrays) :
    arrays.Ascending ∧ ∀ key, arrays.keys.head? = some key → key = 240 := by
  obtain ⟨records, done, read⟩ := bind_eq_ok_iff.mp read
  cases read
  obtain ⟨place, run, _⟩ := Record.readUpTo_eq_ok_iff.mp done
  have wide (place : Nat) (record : Record (List UInt16))
      (found : Record.FoundBefore (readArray image) stop place record) : 2 ≤ record.width := by
    obtain ⟨length, _, read⟩ := bind_eq_ok_iff.mp found.2
    obtain ⟨words, _, read⟩ := bind_eq_ok_iff.mp read
    cases read
    exact Nat.le_add_right _ _
  constructor
  · apply run.ascending_keys wide fun place => (place - offset) / 2
    intro place later after apart
    unfold globalCount at after
    omega
  · intro key head
    rw [run.head_key (fun place => (place - offset) / 2) head]
    unfold globalCount
    omega

end Variables

namespace TextBank

theorem ascending_of_read {offset stop : Nat} {bank : TextBank}
    (read : TextBank.read image offset stop = .ok bank) :
    bank.texts.Ascending ∧ ∀ key, bank.texts.keys.head? = some key → key = 0 := by
  obtain ⟨records, done, read⟩ := bind_eq_ok_iff.mp read
  cases read
  obtain ⟨place, run, _⟩ := Record.readUpTo_eq_ok_iff.mp done
  constructor
  · apply run.ascending_keys (fun _ record _ => record.width_pos) fun place => place - offset
    intro place later after apart
    omega
  · intro key head
    rw [run.head_key (fun place => place - offset) head]
    exact Nat.sub_self offset

end TextBank

private theorem Code.getLast?_ne_zero_of_read {offset stop : Nat} {code : List UInt8}
    (read : Code.read image offset stop = .ok code) : code.getLast? ≠ some 0 := by
  obtain ⟨bytes, _, read⟩ := bind_eq_ok_iff.mp read
  cases read
  exact Code.getLast?_trimmed_ne_zero bytes

namespace Dictionary

theorem keys_of_read {offset count : Nat} {dictionary : Dictionary}
    (read : Dictionary.read image offset count = .ok dictionary) :
    dictionary.size = count ∧ dictionary.words.Ascending ∧
      ∀ key ∈ dictionary.words.keys, 0 ≤ key := by
  obtain ⟨records, done, read⟩ := bind_eq_ok_iff.mp read
  cases read
  obtain ⟨length, stop, run⟩ := Record.readCount_eq_ok_iff.mp done
  refine ⟨by simpa [size, OrderedMap.size] using length, ?_, ?_⟩
  · apply run.ascending_keys (fun _ record _ => record.width_pos)
      fun place => (place : Int) - (offset + 2 : Nat)
    intro place later after apart
    omega
  · intro key member
    unfold OrderedMap.keys at member
    rw [List.map_map] at member
    obtain ⟨⟨place, word⟩, inside, rfl⟩ := List.mem_map.mp member
    have after := (run.found inside).1
    change 0 ≤ (place : Int) - _
    omega

theorem consistent_withReserved {dictionary : Dictionary} {count : Nat}
    (size : dictionary.size = count) (ascending : dictionary.words.Ascending)
    (positive : ∀ key ∈ dictionary.words.keys, 0 ≤ key) (serial : String) :
    (dictionary.withReserved serial).Consistent count serial := by
  have entries := withReserved_of_nonneg positive serial
  have keys : (dictionary.withReserved serial).words.keys =
      parsedAddress :: serialAddress :: dictionary.words.keys := by
    unfold OrderedMap.keys
    rw [entries]
    rfl
  refine ⟨?_, ?_, ?_, ?_, ?_⟩
  · unfold Dictionary.size OrderedMap.size at size ⊢
    rw [entries, List.length_cons, List.length_cons, size]
  · rw [get?_withReserved]
    rfl
  · rw [get?_withReserved]
    rfl
  · intro key member
    rw [keys] at member
    rcases List.mem_cons.mp member with here | later
    · exact .inl here
    · rcases List.mem_cons.mp later with here | old
      · exact .inr (.inl here)
      · exact .inr (.inr (positive key old))
  · unfold OrderedMap.Ascending
    rw [keys, List.pairwise_cons, List.pairwise_cons, List.forall_mem_cons]
    have below (address : Int) (reserved : address < 0) :
        ∀ key ∈ dictionary.words.keys, address < key :=
      fun key member => Int.lt_of_lt_of_le reserved (positive key member)
    exact ⟨⟨by decide, below parsedAddress (by decide)⟩, below serialAddress (by decide), ascending⟩

end Dictionary

namespace SpecialWords

private theorem map_mk_select (category : WordCategory)
    (records : List (WordCategory × SpecialWord)) :
    (select category records).map (Prod.mk category) =
      records.filter fun record => record.1 = category := by
  unfold select
  rw [List.map_map]
  refine (List.map_congr_left fun record member => ?_).trans (List.map_id _)
  have same := of_decide_eq_true (List.mem_filter.mp member).2
  exact Prod.ext same.symm rfl

/-- Every record has one category, so that sorting the records apart neither loses nor doubles one. -/
theorem perm_select (records : List (WordCategory × SpecialWord)) :
    (WordCategory.all.flatMap fun category =>
      (select category records).map (Prod.mk category)).Perm records := by
  apply List.perm_iff_count.mpr
  intro record
  have counted (category : WordCategory) :
      (records.filter fun record => record.1 = category).count record =
        if record.1 = category then records.count record else 0 := by
    split
    · rename_i same
      exact List.count_filter (decide_eq_true same)
    · rename_i differs
      apply List.count_eq_zero_of_not_mem
      simp [List.mem_filter, differs]
  simp only [WordCategory.all, List.flatMap_cons, List.flatMap_nil, List.count_append,
    map_mk_select, counted]
  cases record.1 <;> simp

private theorem total_ofRecords (records : List (WordCategory × SpecialWord)) :
    (ofRecords records).synonyms.length + (ofRecords records).removals.length +
      (ofRecords records).compounds.length + (ofRecords records).punctuation.length =
        records.length := by
  have sorted := (perm_select records).length_eq
  simpa [WordCategory.all, ofRecords, Nat.add_assoc] using sorted

private theorem consistent_of_read {offset count : Nat} {words : SpecialWords}
    (read : SpecialWords.read image offset count = .ok words) : words.Consistent count := by
  obtain ⟨records, done, read⟩ := bind_eq_ok_iff.mp read
  cases read
  refine ⟨?_, ⟨_, _, _, _, rfl⟩⟩
  rw [total_ofRecords, List.length_map, Record.length_of_readCount done]

end SpecialWords

namespace Grammar

private theorem length_of_readLine {place : Nat} {line : Record (List UInt8)}
    (read : readLine image place = .ok line) : line.value.length ≤ 254 := by
  obtain ⟨length, _, read⟩ := bind_eq_ok_iff.mp read
  obtain ⟨tokens, sliced, read⟩ := bind_eq_ok_iff.mp read
  cases read
  obtain ⟨_, rfl⟩ := Image.slice_eq_ok_iff.mp sliced
  have bound := length.toNat_lt
  simp
  omega

private theorem Lines.length_le {start stop : Nat} {lines : List (List UInt8)}
    (found : Lines image start lines stop) : ∀ line ∈ lines, line.length ≤ 254 := by
  induction found with
  | outside beyond => simp
  | last read after ends =>
    intro line member
    cases List.mem_singleton.mp member
    exact length_of_readLine read
  | more read after later ih =>
    intro line member
    rcases List.mem_cons.mp member with rfl | inside
    · exact length_of_readLine read
    · exact ih line inside

private theorem lines_of_run {start stop : Nat} {records : List (Nat × GrammarEntry)}
    (run : Record.Run (Record.FoundBefore (readEntry image) image.size) start records stop) :
    ∀ entry ∈ (records.map Prod.snd).dropLast, entry.lines ≠ [] := by
  induction run with
  | nil => simp
  | @cons place stop record records first later ih =>
    cases later with
    | nil => simp
    | @cons _ _ next rest second latest =>
      intro entry member
      rcases List.mem_cons.mp member with rfl | inside
      · intro none
        obtain ⟨kind, count, verbs, lines, _, _, _, found, held⟩ :=
          readEntry_eq_some_iff.mp first.2
        rw [held] at none
        subst none
        have ended := found.outside_of_nil
        have inside := second.1
        omega
      · exact ih entry inside

private theorem consistent_of_read {entries : List GrammarEntry}
    (read : Grammar.read image = .ok entries) : Consistent entries := by
  obtain ⟨records, done, read⟩ := bind_eq_ok_iff.mp read
  cases read
  obtain ⟨stop, run, _⟩ := Record.readUpTo_eq_ok_iff.mp done
  have described {entry : GrammarEntry} (member : entry ∈ records.map Prod.snd) :
      entry.verbs.length ≤ 255 ∧ ∀ line ∈ entry.lines, line.length ≤ 254 := by
    obtain ⟨⟨place, value⟩, inside, rfl⟩ := List.mem_map.mp member
    obtain ⟨_, record, found, same⟩ := run.found inside
    obtain ⟨kind, count, verbs, lines, _, _, named, lined, held⟩ :=
      readEntry_eq_some_iff.mp found.2
    have length := Image.length_of_words named
    have bound := count.toNat_lt
    rw [← same, held]
    exact ⟨by show verbs.length ≤ 255; omega, lined.length_le⟩
  exact ⟨lines_of_run run, fun _ member => (described member).1, fun _ member => (described member).2⟩

end Grammar

/-- Every story that a file is read as is consistent with the counts and the default properties
of the file. -/
theorem Story.consistent_of_accepted {story : Story} (accepted : Story.read image = .ok story) :
    ∃ preamble, Preamble.read image = .ok preamble ∧ story.counts = preamble.counts ∧
      story.Consistent preamble.defaults := by
  obtain ⟨preamble, known, read⟩ := bind_eq_ok_iff.mp accepted
  refine ⟨preamble, known, ?_⟩
  obtain ⟨header, named, known⟩ := bind_eq_ok_iff.mp known
  obtain ⟨counts, counted, known⟩ := bind_eq_ok_iff.mp known
  obtain ⟨defaults, defaulted, known⟩ := bind_eq_ok_iff.mp known
  cases known
  obtain ⟨version, versioned, named⟩ := bind_eq_ok_iff.mp named
  obtain ⟨id, _, named⟩ := bind_eq_ok_iff.mp named
  obtain ⟨serial, serialled, named⟩ := bind_eq_ok_iff.mp named
  obtain ⟨layout, _, named⟩ := bind_eq_ok_iff.mp named
  obtain ⟨points, pointed, named⟩ := bind_eq_ok_iff.mp named
  obtain ⟨debugStart, _, named⟩ := bind_eq_ok_iff.mp named
  cases named
  obtain ⟨arrays, arrayed, read⟩ := bind_eq_ok_iff.mp read
  obtain ⟨code, coded, read⟩ := bind_eq_ok_iff.mp read
  obtain ⟨dictionary, worded, read⟩ := bind_eq_ok_iff.mp read
  obtain ⟨events, timed, read⟩ := bind_eq_ok_iff.mp read
  obtain ⟨globals, valued, read⟩ := bind_eq_ok_iff.mp read
  obtain ⟨grammar, parsed, read⟩ := bind_eq_ok_iff.mp read
  obtain ⟨objects, listed, read⟩ := bind_eq_ok_iff.mp read
  obtain ⟨specialWords, sorted, read⟩ := bind_eq_ok_iff.mp read
  obtain ⟨textBank, banked, read⟩ := bind_eq_ok_iff.mp read
  cases read
  obtain ⟨length, plain⟩ := Property.defaults_of_readDefaults defaulted
  -- The defaults are counted by a word, so their numbers do not start over.
  have short : defaults.length ≤ Object.numberLimit := by
    have bound := counts.properties.toNat_lt
    unfold Object.numberLimit
    omega
  obtain ⟨all, inherits⟩ := Object.inherits_of_readTable plain short listed
  obtain ⟨count, signed⟩ := Variables.signed_of_readGlobals valued
  obtain ⟨size, ascending, positive⟩ := Dictionary.keys_of_read worded
  refine ⟨rfl, ?_⟩
  exact {
    version := Header.supported_of_readVersion versioned
    serial := Header.length_of_readSerial serialled
    file := rfl
    objects := all
    events := Event.length_of_readTable timed
    dictionary := Dictionary.consistent_withReserved size ascending positive serial
    specialWords := SpecialWords.consistent_of_read sorted
    globals := count
    signed
    defaultCount := length
    properties := inherits
    code := Code.getLast?_ne_zero_of_read coded
    arrays := Variables.ascending_of_readArrays arrayed
    texts := TextBank.ascending_of_read banked
    entryPoints := Header.dvd_of_readEntryPoints pointed
    grammar := Grammar.consistent_of_read parsed
    ifids := Ifid.nodup_eraseDups _ }

theorem Story.consistent_miniature :
    Story.read Blueprint.miniature.image = .ok Blueprint.miniatureStory ∧
      ∃ preamble, Preamble.read Blueprint.miniature.image = .ok preamble ∧
        Blueprint.miniatureStory.counts = preamble.counts ∧
          Blueprint.miniatureStory.Consistent preamble.defaults :=
  ⟨Blueprint.read_miniature, Story.consistent_of_accepted Blueprint.read_miniature⟩

end HugoStory
