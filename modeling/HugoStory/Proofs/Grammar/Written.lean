import HugoStory.Proofs.Grammar.Stored
import Mathlib.Data.List.Basic
/-! What a grammar table that was read looked like in the file. Between the start of the table and
the place where reading ended stand the entries one behind the other, each with its kind, its
verbs and its lines. Two freedoms remain: nothing is asked of the byte in front of the first line
of an entry, and a line without tokens may have the length zero. A table without them is stored
as the format has it. -/
namespace HugoStory.Grammar
open Outcome

structure WrittenLine where
  mark : UInt8
  length : UInt8
  tokens : List UInt8
  counted : length.toNat - 1 = tokens.length

/-- An entry as it stands in a file. The lines behind the first one have their marks. -/
structure WrittenEntry where
  kind : VerbKind
  verbs : List UInt16
  lines : List WrittenLine
  few : verbs.length ≤ 255
  marked : ∀ line ∈ lines.tail, line.mark = lineMark

namespace WrittenLine

def bytes (line : WrittenLine) : List UInt8 := line.mark :: line.length :: line.tokens

def Regular (line : WrittenLine) : Prop := line.mark = lineMark ∧ line.length ≠ 0

private theorem bytes_eq_storeLine_iff (line : WrittenLine) :
    line.bytes = storeLine line.tokens ↔ line.Regular := by
  obtain ⟨mark, length, tokens, counted⟩ := line
  have bound := length.toNat_lt
  unfold bytes storeLine Regular
  simp only [List.cons.injEq, and_true]
  refine and_congr_right fun _ => ?_
  constructor
  · rintro same rfl
    have number := congrArg UInt8.toNat same
    rw [Word.toNat_byteCount (by omega)] at number
    exact Nat.succ_ne_zero _ number.symm
  · intro positive
    have nonzero : length.toNat ≠ 0 := fun zero => positive (UInt8.toNat_inj.mp zero)
    apply UInt8.toNat_inj.mp
    rw [Word.toNat_byteCount (by omega)]
    omega

private theorem length_bytes (line : WrittenLine) :
    line.bytes.length = (storeLine line.tokens).length := rfl

end WrittenLine

namespace WrittenEntry

def bytes (entry : WrittenEntry) : List UInt8 :=
  entry.kind.toByte :: UInt8.ofNat entry.verbs.length ::
    (entry.verbs.flatMap Word.toBytes ++ entry.lines.flatMap WrittenLine.bytes)

def entry (entry : WrittenEntry) : GrammarEntry where
  kind := entry.kind
  verbs := entry.verbs
  lines := entry.lines.map WrittenLine.tokens

def Regular (entry : WrittenEntry) : Prop := ∀ line ∈ entry.lines, line.Regular

end WrittenEntry

private theorem flatMap_eq_flatMap_iff {α : Type} {first second : α → List UInt8}
    (level : ∀ item, (first item).length = (second item).length) (items : List α) :
    items.flatMap first = items.flatMap second ↔ ∀ item ∈ items, first item = second item := by
  induction items with
  | nil => simp
  | cons item rest ih =>
    rw [List.flatMap_cons, List.flatMap_cons, List.forall_mem_cons, ← ih]
    constructor
    · intro same
      exact List.append_inj same (level item)
    · rintro ⟨head, tail⟩
      rw [head, tail]

namespace WrittenEntry

private theorem storeEntry_entry (entry : WrittenEntry) :
    storeEntry entry.entry = entry.kind.toByte :: UInt8.ofNat entry.verbs.length ::
      (entry.verbs.flatMap Word.toBytes ++
        entry.lines.flatMap fun line => storeLine line.tokens) := by
  unfold storeEntry WrittenEntry.entry
  rw [List.flatMap_map]

private theorem bytes_eq_storeEntry_iff (entry : WrittenEntry) :
    entry.bytes = storeEntry entry.entry ↔ entry.Regular := by
  rw [storeEntry_entry]
  unfold bytes
  rw [List.cons_inj_right, List.cons_inj_right, List.append_cancel_left_eq,
    flatMap_eq_flatMap_iff WrittenLine.length_bytes]
  exact forall₂_congr fun line _ => line.bytes_eq_storeLine_iff

private theorem length_bytes (entry : WrittenEntry) :
    entry.bytes.length = (storeEntry entry.entry).length := by
  have lines : (entry.lines.flatMap WrittenLine.bytes).length =
      (entry.lines.flatMap fun line => storeLine line.tokens).length := by
    rw [List.length_flatMap, List.length_flatMap]
    rfl
  rw [storeEntry_entry]
  simp only [bytes, List.length_cons, List.length_append, lines]

private theorem length_flatMap_bytes (entries : List WrittenEntry) :
    (entries.flatMap bytes).length =
      ((entries.map WrittenEntry.entry).flatMap storeEntry).length := by
  rw [List.flatMap_map, List.length_flatMap, List.length_flatMap]
  exact congrArg List.sum (List.map_congr_left fun entry _ => entry.length_bytes)

private theorem flatMap_bytes_eq_iff (entries : List WrittenEntry) :
    entries.flatMap bytes = (entries.map WrittenEntry.entry).flatMap storeEntry ↔
      ∀ entry ∈ entries, entry.Regular := by
  rw [List.flatMap_map, flatMap_eq_flatMap_iff length_bytes]
  exact forall₂_congr fun entry _ => entry.bytes_eq_storeEntry_iff

end WrittenEntry

variable {image : Image}

theorem written_of_readLine {place : Nat} {line : Record (List UInt8)}
    (read : readLine image place = .ok line) :
    ∃ written : WrittenLine, written.tokens = line.value ∧ image.Holds place written.bytes ∧
      written.bytes.length = line.width ∧ image.byte? place = some written.mark := by
  obtain ⟨length, counted, read⟩ := bind_eq_ok_iff.mp read
  obtain ⟨tokens, sliced, read⟩ := bind_eq_ok_iff.mp read
  cases read
  have behind := Image.holds_of_byte? (Image.byteAt_eq_ok_iff.mp counted)
  obtain ⟨held, size⟩ := Image.holds_of_slice (Nat.le_add_right _ _) sliced
  rw [Nat.add_sub_cancel_left] at size
  have inside := behind.inside
  rw [List.length_singleton] at inside
  have here : place < image.bytes.size := by
    unfold Image.size at inside
    omega
  have first : image.byte? place = some image.bytes[place] := Array.getElem?_eq_getElem here
  refine ⟨⟨image.bytes[place], length, tokens, size.symm⟩, rfl, ?_, ?_, first⟩
  · exact (Image.holds_of_byte? first).append (behind.append held)
  · change tokens.length + 1 + 1 = 2 + (length.toNat - 1)
    omega

/-- Lines behind the first one stand behind a mark, as reading would not go on to them without. -/
private theorem written_of_lines {place stop : Nat} {lines : List (List UInt8)}
    (inside : place ≤ image.size)
    (found : Lines image place lines stop) :
    ∃ written : List WrittenLine, written.map WrittenLine.tokens = lines ∧
      image.Holds place (written.flatMap WrittenLine.bytes) ∧
      place + (written.flatMap WrittenLine.bytes).length = stop ∧
      (∀ line ∈ written.tail, line.mark = lineMark) ∧
      ∀ line ∈ written.head?, image.byte? place = some line.mark := by
  induction found with
  | outside beyond => exact ⟨[], rfl, .nil inside, rfl, by simp, by simp⟩
  | @last place line byte read after ends =>
    obtain ⟨written, same, held, width, first⟩ := written_of_readLine read
    refine ⟨[written], by simp [same], by simpa using held, by simp [width], by simp, ?_⟩
    rintro line ⟨⟩
    exact first
  | @more place stop line lines read after later ih =>
    obtain ⟨written, same, held, width, first⟩ := written_of_readLine read
    have further : place + line.width ≤ image.size := by
      have reached := (Image.holds_of_byte? after).inside
      omega
    obtain ⟨rest, values, behind, ends, marks, next⟩ := ih further
    rw [← width] at behind
    refine ⟨written :: rest, by simp [same, values], ?_, ?_, ?_, ?_⟩
    · rw [List.flatMap_cons]
      exact held.append behind
    · rw [List.flatMap_cons, List.length_append, width]
      omega
    · intro line member
      cases rest with
      | nil => cases member
      | cons second others =>
        rcases List.mem_cons.mp member with rfl | later
        · have mark := next line rfl
          rw [after] at mark
          exact (Option.some.inj mark).symm
        · exact marks line later
    · rintro line ⟨⟩
      exact first

private theorem Lines.nil_iff {place stop : Nat} {lines : List (List UInt8)}
    (found : Lines image place lines stop) : lines = [] ↔ image.size ≤ stop := by
  constructor
  · rintro rfl
    exact found.outside_of_nil
  · intro beyond
    induction found with
    | outside => rfl
    | last read after ends =>
      rw [Image.byte?_eq_none_iff.mpr beyond] at after
      cases after
    | more read after later ih =>
      rw [ih beyond] at later
      cases later with
      | outside behind =>
        rw [Image.byte?_eq_none_iff.mpr behind] at after
        cases after

private theorem written_of_readEntry {place : Nat} {record : Record GrammarEntry}
    (read : readEntry image place = .ok (some record)) :
    ∃ written : WrittenEntry, written.entry = record.value ∧ image.Holds place written.bytes ∧
      written.bytes.length = record.width ∧
      (written.lines = [] ↔ image.size ≤ place + record.width) := by
  obtain ⟨kind, count, verbs, lines, present, counted, named, found, held⟩ :=
    readEntry_eq_some_iff.mp read
  have number := Image.length_of_words named
  have bound := count.toNat_lt
  have first := Image.holds_of_byte? present
  have second := Image.holds_of_byte? counted
  have reached := second.inside
  rw [List.length_singleton] at reached
  have third := Image.holds_of_words reached named
  have ends := third.inside
  rw [Word.length_flatMap_toBytes, number] at ends
  obtain ⟨written, values, fourth, stop, marks, -⟩ := written_of_lines ends found
  have count_eq : UInt8.ofNat verbs.length = count := by
    rw [number, UInt8.ofNat_toNat]
  have held' : image.Holds (place + 2 + (verbs.flatMap Word.toBytes).length)
      (written.flatMap WrittenLine.bytes) := by
    rw [Word.length_flatMap_toBytes, number]
    exact fourth
  refine ⟨⟨kind, verbs, written, by omega, marks⟩, ?_, ?_, ?_, ?_⟩
  · rw [held]
    exact congrArg (GrammarEntry.mk kind verbs) values
  · unfold WrittenEntry.bytes
    rw [count_eq]
    exact first.append (second.append (third.append held'))
  · have total : (verbs.flatMap Word.toBytes).length = 2 * count.toNat := by
      rw [Word.length_flatMap_toBytes, number]
    simp only [WrittenEntry.bytes, List.length_cons, List.length_append, total]
    omega
  · rw [← found.nil_iff, ← values, List.map_eq_nil_iff]

/-- Only the last entry can be without lines, and it is where the file ends behind its verbs. -/
private theorem written_of_run {start stop : Nat} {records : List (Nat × GrammarEntry)}
    (inside : start ≤ image.size)
    (run : Record.Run (Record.FoundBefore (readEntry image) image.size) start records stop) :
    ∃ written : List WrittenEntry, written.map WrittenEntry.entry = records.map Prod.snd ∧
      image.Holds start (written.flatMap WrittenEntry.bytes) ∧
      start + (written.flatMap WrittenEntry.bytes).length = stop ∧
      (∀ entry ∈ written.dropLast, entry.lines ≠ []) ∧
      ∀ entry ∈ written.getLast?, entry.lines = [] ↔ image.size ≤ stop := by
  induction run with
  | nil => exact ⟨[], rfl, .nil inside, rfl, by simp, by simp⟩
  | @cons place stop record records first later ih =>
    obtain ⟨entry, same, held, width, ends⟩ := written_of_readEntry first.2
    have further := held.inside
    rw [width] at further
    obtain ⟨rest, values, behind, total, lines, last⟩ := ih further
    rw [← width] at behind
    refine ⟨entry :: rest, by simp [same, values], ?_, ?_, ?_⟩
    · rw [List.flatMap_cons]
      exact held.append behind
    · rw [List.flatMap_cons, List.length_append, width]
      omega
    · cases later with
      | nil =>
        obtain rfl := List.map_eq_nil_iff.mp values
        refine ⟨by simp, ?_⟩
        rintro _ ⟨⟩
        exact ends
      | @cons _ _ next records second latest =>
        cases rest with
        | nil => cases values
        | cons other others =>
          rw [List.dropLast_cons_cons, List.getLast?_cons_cons, List.forall_mem_cons]
          refine ⟨⟨fun none => ?_, lines⟩, last⟩
          have beyond := ends.mp none
          have before := second.1
          omega

/-- However an entry is written, it takes up as much space as the format has for it. -/
theorem stop_of_run {start stop : Nat} {records : List (Nat × GrammarEntry)}
    (inside : start ≤ image.size)
    (run : Record.Run (Record.FoundBefore (readEntry image) image.size) start records stop) :
    stop = start + ((records.map Prod.snd).flatMap storeEntry).length := by
  obtain ⟨written, same, _, total, _⟩ := written_of_run inside run
  rw [← same, ← WrittenEntry.length_flatMap_bytes, total]

theorem readEntry_eq_none_iff {place : Nat} :
    readEntry image place = .ok none ↔ image.byte? place = some closingMark := by
  constructor
  · intro read
    obtain ⟨byte, present, read⟩ := bind_eq_ok_iff.mp read
    split at read
    · rename_i closing
      rw [← closing]
      exact Image.byteAt_eq_ok_iff.mp present
    · split at read
      · cases read
      · obtain ⟨count, _, read⟩ := bind_eq_ok_iff.mp read
        obtain ⟨verbs, _, read⟩ := bind_eq_ok_iff.mp read
        obtain ⟨lines, _, read⟩ := bind_eq_ok_iff.mp read
        cases read
  · intro present
    exact bind_eq_ok_iff.mpr ⟨closingMark, Image.byteAt_eq_ok_iff.mpr present, if_pos rfl⟩

/-- A table that was read stands in the file entry by entry, up to its closing mark or to the end
of the file. The bytes are those the format has for the entries exactly if no line has another
byte in place of its mark and none has the length zero. -/
theorem written_of_readTable {start : Nat} {entries : List GrammarEntry}
    (read : readTable image start = .ok entries) :
    ∃ (written : List WrittenEntry) (stop : Nat), written.map WrittenEntry.entry = entries ∧
      stop = start + (written.flatMap WrittenEntry.bytes).length ∧
      (image.bytes.extract start stop).toList = written.flatMap WrittenEntry.bytes ∧
      (image.byte? stop = some closingMark ∧ (∀ entry ∈ written, entry.lines ≠ []) ∨
        image.size ≤ stop ∧ (∀ entry ∈ written.dropLast, entry.lines ≠ []) ∧
          ∀ entry ∈ written.getLast?, entry.lines = []) ∧
      ((image.bytes.extract start stop).toList = entries.flatMap storeEntry ↔
        ∀ entry ∈ written, entry.Regular) := by
  obtain ⟨records, done, read⟩ := bind_eq_ok_iff.mp read
  cases read
  obtain ⟨stop, run, ended⟩ := Record.readUpTo_eq_ok_iff.mp done
  by_cases inside : start ≤ image.size
  · obtain ⟨written, same, held, total, lines, last⟩ := written_of_run inside run
    have consumed := held.extract
    rw [total] at consumed
    refine ⟨written, stop, same, total.symm, consumed, ?_, ?_⟩
    · by_cases beyond : image.size ≤ stop
      · exact .inr ⟨beyond, lines, fun entry member => (last entry member).mpr beyond⟩
      · refine .inl ⟨readEntry_eq_none_iff.mp (ended.resolve_left beyond), ?_⟩
        rcases written.eq_nil_or_concat' with rfl | ⟨earlier, entry, rfl⟩
        · simp
        · rw [List.dropLast_concat] at lines
          rw [List.getLast?_concat] at last
          have final := (last entry rfl).not.mpr beyond
          intro other member
          rcases List.mem_append.mp member with before | here
          · exact lines other before
          · rwa [List.mem_singleton.mp here]
    · rw [consumed, ← same]
      exact WrittenEntry.flatMap_bytes_eq_iff written
  · have outside := Nat.le_of_not_le inside
    rw [Record.readUpTo_of_le _ outside] at done
    cases done
    exact ⟨[], start, rfl, rfl, by simp, .inr ⟨outside, by simp, by simp⟩, by simp⟩

/-- A verb with a line of one token, and a last entry behind which the file ends. -/
theorem written_of_readTable_shortTable :
    let image : Image := ⟨#[0x2c, 0, 0x08, 2, 0x42, 0x2d, 0]⟩
    let entries : List GrammarEntry := [⟨.verb, [], [[0x42]]⟩, ⟨.xverb, [], []⟩]
    readTable image 0 = .ok entries ∧
      ∃ (written : List WrittenEntry) (stop : Nat), written.map WrittenEntry.entry = entries ∧
        stop = 0 + (written.flatMap WrittenEntry.bytes).length ∧
        (image.bytes.extract 0 stop).toList = written.flatMap WrittenEntry.bytes ∧
        (image.byte? stop = some closingMark ∧ (∀ entry ∈ written, entry.lines ≠ []) ∨
          image.size ≤ stop ∧ (∀ entry ∈ written.dropLast, entry.lines ≠ []) ∧
            ∀ entry ∈ written.getLast?, entry.lines = []) ∧
        ((image.bytes.extract 0 stop).toList = entries.flatMap storeEntry ↔
          ∀ entry ∈ written, entry.Regular) := by
  intro image entries
  have read : readTable image 0 = .ok entries := by decide +kernel
  exact ⟨read, written_of_readTable read⟩

/-- The entries stand at `start` as the format has them, each with a line at least. -/
def StoredAt (image : Image) (start : Nat) (entries : List GrammarEntry) : Prop :=
  (∀ entry ∈ entries, entry.lines ≠ []) ∧
    ∃ stop, (image.bytes.extract start stop).toList = entries.flatMap storeEntry

private theorem StoredAt.mem_of_mem {start : Nat} {entries : List GrammarEntry} {byte : UInt8}
    (stored : StoredAt image start entries) (written : byte ∈ entries.flatMap storeEntry) :
    byte ∈ image.bytes.toList := by
  obtain ⟨-, stop, same⟩ := stored
  rw [← same, Array.toList_extract, List.extract_eq_take_drop] at written
  exact List.mem_of_mem_drop (List.mem_of_mem_take written)

/-- Neither a length of zero, nor a file that ends behind the verbs of an entry, nor the closing
mark in front of a first line keeps a table from being read. -/
theorem readTable_lenient :
    (readTable ⟨#[0x2c, 0, 0x08, 0, 0xff]⟩ 0 = .ok [⟨.verb, [], [[]]⟩] ∧
      ¬StoredAt ⟨#[0x2c, 0, 0x08, 0, 0xff]⟩ 0 [⟨.verb, [], [[]]⟩]) ∧
    (readTable ⟨#[0x2c, 0]⟩ 0 = .ok [⟨.verb, [], []⟩] ∧
      ¬StoredAt ⟨#[0x2c, 0]⟩ 0 [⟨.verb, [], []⟩]) ∧
    (readTable ⟨#[0x2c, 0, 0xff, 1, 0xff]⟩ 0 = .ok [⟨.verb, [], [[]]⟩] ∧
      ¬StoredAt ⟨#[0x2c, 0, 0xff, 1, 0xff]⟩ 0 [⟨.verb, [], [[]]⟩]) := by
  refine ⟨⟨by decide +kernel, fun stored => ?_⟩, ⟨by decide +kernel, fun stored => ?_⟩,
    ⟨by decide +kernel, fun stored => ?_⟩⟩
  · have counted : (1 : UInt8) ∈ [0x2c, 0, 0x08, 0, 0xff] := stored.mem_of_mem (by decide)
    exact absurd counted (by decide)
  · exact stored.1 _ (List.mem_singleton.mpr rfl) rfl
  · have marked : lineMark ∈ [0x2c, 0, 0xff, 1, 0xff] := stored.mem_of_mem (by decide)
    exact absurd marked (by decide)

end HugoStory.Grammar
