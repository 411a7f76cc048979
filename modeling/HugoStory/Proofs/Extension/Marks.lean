import HugoStory.Proofs.Extension.Kept
import HugoStory.Proofs.Patch
/-! What ends with a mark, and the text bank, when the file grows. The grammar and the streams of
overrides may go on as far as the file does, but if a mark has closed them nothing behind it
counts. The text bank has a bound of its own, and only a text that the file broke off, which is
its last, can go on. -/
namespace HugoStory
open Outcome Image

variable {image : Image} {more : Array UInt8}

namespace Grammar

private theorem lines_extended {place stop : Nat} {lines : List (List UInt8)}
    (found : Lines image place lines stop) (inside : stop < image.size) :
    Lines (image.extended more) place lines stop := by
  have alike := kept_alike image more
  induction found with
  | outside beyond => exact absurd inside (Nat.not_lt.mpr beyond)
  | last read after ends => exact .last (alike.readLine _ _ read) (byte?_extended_of_some after) ends
  | more read after later ih =>
    exact .more (alike.readLine _ _ read) (byte?_extended_of_some after) (ih inside)

private theorem readEntry_extended {place : Nat} {record : Record GrammarEntry}
    (read : readEntry image place = .ok (some record)) (inside : place + record.width < image.size) :
    readEntry (image.extended more) place = .ok (some record) := by
  obtain ⟨kind, count, verbs, lines, present, counted, named, found, held⟩ :=
    readEntry_eq_some_iff.mp read
  exact readEntry_eq_some_iff.mpr ⟨kind, count, verbs, lines, byte?_extended_of_some present,
    byte?_extended_of_some counted, (kept_alike image more).words _ _ _ _ named,
    lines_extended found inside, held⟩

private theorem run_extended {place stop : Nat} {records : List (Nat × GrammarEntry)}
    (run : Record.Run (Record.FoundBefore (readEntry image) image.size) place records stop)
    (inside : stop < image.size) :
    Record.Run (Record.FoundBefore (readEntry (image.extended more)) (image.extended more).size)
      place records stop := by
  induction run with
  | nil => exact .nil _
  | cons first later ih =>
    have before : _ < image.size := Nat.lt_of_le_of_lt later.le inside
    exact .cons ⟨Nat.lt_of_lt_of_le first.1 size_le_extended, readEntry_extended first.2 before⟩
      (ih inside)

theorem read_extended {stop : Nat} {entries : List GrammarEntry}
    (read : Grammar.read image = .ok entries) (closed : ClosedAt image stop) :
    Grammar.read (image.extended more) = .ok entries := by
  obtain ⟨records, run, mark⟩ := closed
  have done := Record.readUpTo_eq_ok_iff.mpr ⟨stop, run, .inr (readEntry_eq_none_iff.mpr mark)⟩
  have run' : Record.Run
      (Record.FoundBefore (readEntry (image.extended more)) (image.extended more).size)
      start records stop := run_extended run (Image.lt_size_of_byte? mark)
  have done' := Record.readUpTo_eq_ok_iff.mpr
    ⟨stop, run', .inr (readEntry_eq_none_iff.mpr (byte?_extended_of_some mark))⟩
  unfold Grammar.read readTable at read ⊢
  rw [done] at read
  rw [done']
  exact read

end Grammar

namespace Override

/-- The stream that starts here ends with its closing mark, and not with the file. -/
def Closed (image : Image) (start : Nat) : Prop :=
  ∃ records stop, Record.Run (Record.FoundBefore (Override.read image) image.size) start records stop ∧
    image.byte? stop = some closingMark

private theorem readStream_extended {start : Nat} (closed : Closed image start) :
    readStream (image.extended more) start = readStream image start := by
  obtain ⟨records, stop, run, mark⟩ := closed
  have done := Record.readUpTo_eq_ok_iff.mpr ⟨stop, run, .inr (read_closingMark mark)⟩
  have run' : Record.Run
      (Record.FoundBefore (Override.read (image.extended more)) (image.extended more).size)
      start records stop := run.kept (kept_alike image more).readOverride size_le_extended
  have done' := Record.readUpTo_eq_ok_iff.mpr
    ⟨stop, run', .inr (read_closingMark (byte?_extended_of_some mark))⟩
  unfold readStream
  rw [done, done']

end Override

namespace Object

/-- The records of the table point to streams that all end with their mark. -/
def StreamsClosed (image : Image) (offset count propertyTable : Nat) : Prop :=
  ∀ index < count, ∃ stream,
    image.wordAt .objects (offset + 2 + recordWidth * index + streamOffset) = .ok stream ∧
      Override.Closed image (stream.toNat + propertyTable)

private theorem readRecord_extended {place propertyTable : Nat} {stream : UInt16}
    {defaults : OrderedMap Nat Property} {record : Record Object}
    (read : readRecord image propertyTable defaults place = .ok record)
    (pointer : image.wordAt .objects (place + streamOffset) = .ok stream)
    (closed : Override.Closed image (stream.toNat + propertyTable)) :
    readRecord (image.extended more) propertyTable defaults place = .ok record := by
  have alike := kept_alike image more
  have streamed := alike.wordAt _ _ _ pointer
  unfold readRecord at read ⊢
  rw [pointer] at read
  rw [streamed]
  refine alike.bind (alike.slice _ _ _) (fun bits => ?_) record read
  refine alike.bind (alike.wordAt _ _) fun parent => ?_
  refine alike.bind (alike.wordAt _ _) fun sibling => ?_
  refine alike.bind (alike.wordAt _ _) fun child => ?_
  change Kept (Override.readStream image (stream.toNat + propertyTable) >>= _)
    (Override.readStream (image.extended more) (stream.toNat + propertyTable) >>= _)
  rw [Override.readStream_extended closed]
  exact alike.refl _

theorem readTable_extended {offset count propertyTable : Nat} {defaults : List Property}
    {objects : List Object} (read : readTable image offset count propertyTable defaults = .ok objects)
    (closed : StreamsClosed image offset count propertyTable) :
    readTable (image.extended more) offset count propertyTable defaults = .ok objects := by
  obtain ⟨records, done, same⟩ := bind_eq_ok_iff.mp read
  obtain ⟨length, stop, run⟩ := Record.readCount_eq_ok_iff.mp done
  have each (index : Nat) (inside : index < records.length) (record : Record Object)
      (found : readRecord image propertyTable (numbered defaults)
        (offset + 2 + recordWidth * index) = .ok record) :
      readRecord (image.extended more) propertyTable (numbered defaults)
        (offset + 2 + recordWidth * index) = .ok record := by
    obtain ⟨stream, pointer, stops⟩ := closed index (length ▸ inside)
    exact readRecord_extended found pointer stops
  exact bind_eq_ok_iff.mpr ⟨records, Record.readCount_eq_ok_iff.mpr
    ⟨length, stop, run.imp_of_width (fun _ _ found => width_of_readRecord found) each⟩, same⟩

end Object

namespace TextBank

def CompleteAt (image : Image) (place : Nat) : Prop :=
  ∃ length, image.wordAt .textBank place = .ok length ∧ place + 2 + length.toNat ≤ image.size

def Complete (image : Image) (offset : Nat) (bank : TextBank) : Prop :=
  ∀ key ∈ bank.texts.keys, CompleteAt image (offset + key)

/-- The same texts, but that the last one may go on. -/
def LastGoesOn (texts texts' : List (Nat × String)) : Prop :=
  texts' = texts ∨ ∃ front key text rest,
    texts = front ++ [(key, text)] ∧ texts' = front ++ [(key, text ++ rest)]

theorem LastGoesOn.cons {texts texts' : List (Nat × String)} (goesOn : LastGoesOn texts texts')
    (first : Nat × String) : LastGoesOn (first :: texts) (first :: texts') := by
  rcases goesOn with rfl | ⟨front, key, text, rest, rfl, rfl⟩
  · exact .inl rfl
  · exact .inr ⟨first :: front, key, text, rest, rfl, rfl⟩

theorem LastGoesOn.map {texts texts' : List (Nat × String)} (goesOn : LastGoesOn texts texts')
    (key : Nat → Nat) :
    LastGoesOn (texts.map fun (place, text) => (key place, text))
      (texts'.map fun (place, text) => (key place, text)) := by
  rcases goesOn with rfl | ⟨front, place, text, rest, rfl, rfl⟩
  · exact .inl rfl
  · exact .inr ⟨_, key place, text, rest, List.map_append, List.map_append⟩

variable {start stop last : Nat}

private theorem clippedText_extended (image : Image) (more : Array UInt8) (place length : Nat) :
    ∃ rest, (image.extended more).clippedText place length =
      image.clippedText place length ++ rest := by
  unfold clippedText extended Charset.decodeText
  rw [Array.extract_append, Array.toList_append, List.map_append, String.ofList_append]
  exact ⟨_, rfl⟩

private theorem readText_extended {place : Nat} {record : Record String}
    (read : readText image place = .ok (some record)) :
    ∃ record' rest, readText (image.extended more) place = .ok (some record') ∧
      record'.width = record.width ∧ record'.value = record.value ++ rest ∧
      (CompleteAt image place → record' = record) ∧
      (image.size < place + record.width ∨ CompleteAt image place) := by
  obtain ⟨length, counted, read⟩ := bind_eq_ok_iff.mp read
  cases read
  obtain ⟨rest, goesOn⟩ := clippedText_extended image more (place + 2) length.toNat
  have counted' := (kept_alike image more).wordAt _ _ _ counted
  refine ⟨_, rest, bind_eq_ok_iff.mpr ⟨length, counted', rfl⟩, rfl, goesOn, ?_, ?_⟩
  · rintro ⟨length', counted', inside⟩
    cases counted.symm.trans counted'
    unfold clippedText
    simp only [extract_extended inside]
  · by_cases inside : place + 2 + length.toNat ≤ image.size
    · exact .inr ⟨length, counted, inside⟩
    · left
      change image.size < place + (2 + length.toNat)
      omega

/-- Behind a text that the file breaks off no other is found, so all but the last are complete. -/
private theorem run_extended (more : Array UInt8) {records : List (Nat × String)}
    (run : Record.Run (Record.FoundBefore (readText image) stop) start records last) :
    ∃ records', Record.Run (Record.FoundBefore (readText (image.extended more)) stop)
        start records' last ∧ LastGoesOn records records' ∧
      ((∀ place ∈ records.map Prod.fst, CompleteAt image place) → records' = records) := by
  induction run with
  | nil => exact ⟨[], .nil _, .inl rfl, fun _ => rfl⟩
  | @cons place last record records first later ih =>
    obtain ⟨record', rest, read, width, value, same, broken | complete⟩ := readText_extended first.2
    · cases later with
      | nil =>
        refine ⟨[(place, record'.value)], ?_, .inr ⟨[], place, record.value, rest, rfl, ?_⟩, ?_⟩
        · rw [← width]
          exact .cons ⟨first.1, read⟩ (.nil _)
        · rw [value]
          rfl
        · intro all
          rw [same (all place List.mem_cons_self)]
      | @cons _ _ next records second _ =>
        obtain ⟨length, counted, _⟩ := bind_eq_ok_iff.mp second.2
        obtain ⟨low, high, present, _⟩ := wordAt_eq_ok_iff.mp counted
        have inside := Image.lt_size_of_byte? present
        omega
    · cases same complete
      obtain ⟨records', run, goesOn, equal⟩ := ih
      refine ⟨_, .cons ⟨first.1, read⟩ run, goesOn.cons _, fun all => ?_⟩
      rw [equal (List.forall_mem_cons.mp all).2]

theorem read_extended (more : Array UInt8) {offset : Nat} {bank : TextBank}
    (read : TextBank.read image offset stop = .ok bank) :
    ∃ bank', TextBank.read (image.extended more) offset stop = .ok bank' ∧
      LastGoesOn bank.texts.entries bank'.texts.entries ∧
      (Complete image offset bank → bank' = bank) := by
  obtain ⟨records, done, read⟩ := bind_eq_ok_iff.mp read
  cases read
  obtain ⟨last, run, ended⟩ := Record.readUpTo_eq_ok_iff.mp done
  obtain ⟨records', run', goesOn, same⟩ := run_extended more run
  -- A text has no mark to close the bank with.
  have outside : stop ≤ last := by
    refine ended.resolve_right fun marked => ?_
    obtain ⟨_, _, marked⟩ := bind_eq_ok_iff.mp marked
    cases marked
  refine ⟨_, bind_eq_ok_iff.mpr
    ⟨records', Record.readUpTo_eq_ok_iff.mpr ⟨last, run', .inl outside⟩, rfl⟩,
    goesOn.map (· - offset), fun complete => ?_⟩
  rw [same]
  intro place member
  obtain ⟨⟨other, text⟩, inside, rfl⟩ := List.mem_map.mp member
  have behind : offset ≤ other := (run.found inside).1
  have key : other - offset ∈ (records.map fun (place, text) => (place - offset, text)).map Prod.fst :=
    List.mem_map_of_mem (List.mem_map_of_mem inside)
  have here := complete _ key
  rwa [Nat.add_sub_cancel' behind] at here

end TextBank

end HugoStory
