import HugoStory.Proofs.Grammar.Written
import HugoStory.Proofs.Image.Remaining
/-! The language of grammar tables, as rules on lists of bytes that say nothing of a reader. A table is
read as just those entries that the rules derive from the bytes it begins with, so a byte among the
tokens of a line is never taken for a mark, and bytes behind the closing mark are never looked at. -/
namespace HugoStory.Grammar
open Outcome

/-- The bytes begin with these lines, behind which the others stand. One byte is in front of the length
of each line: of the first it may be any byte, of the others it is the mark that the line before
them is followed by. The last line is followed by the kind of the next entry or the end of the table. -/
inductive DerivesLines : List UInt8 → List (List UInt8) → List UInt8 → Prop
  | last {mark length after : UInt8} {tokens rest : List UInt8}
      (counted : tokens.length = max length.toNat 1 - 1)
      (ends : after = 0x2c ∨ after = 0x2d ∨ after = 0xff) :
      DerivesLines (mark :: length :: (tokens ++ after :: rest)) [tokens] (after :: rest)
  | more {mark length : UInt8} {tokens rest behind : List UInt8} {lines : List (List UInt8)}
      (counted : tokens.length = max length.toNat 1 - 1)
      (later : DerivesLines (0x08 :: rest) lines behind) :
      DerivesLines (mark :: length :: (tokens ++ 0x08 :: rest)) (tokens :: lines) behind

inductive KindByte : UInt8 → VerbKind → Prop
  | verb : KindByte 0x2c .verb
  | xverb : KindByte 0x2d .xverb

/-- The bytes begin with a table of these entries, and the others stand where it ends: none at the end
of the file, or the closing mark and what is behind it. If the file ends behind the verbs of an entry,
that entry is the last one and has no lines. -/
inductive Derives : List UInt8 → List GrammarEntry → List UInt8 → Prop
  | outside : Derives [] [] []
  | closed (rest : List UInt8) : Derives (0xff :: rest) [] (0xff :: rest)
  | bare {byte count : UInt8} {kind : VerbKind} {verbs : List UInt16} (known : KindByte byte kind)
      (counted : verbs.length = count.toNat) :
      Derives (byte :: count :: verbs.flatMap Word.toBytes) [{ kind, verbs, lines := [] }] []
  | entry {byte count : UInt8} {kind : VerbKind} {verbs : List UInt16} {lines : List (List UInt8)}
      {entries : List GrammarEntry} {bytes next behind : List UInt8} (known : KindByte byte kind)
      (counted : verbs.length = count.toNat) (lined : DerivesLines bytes lines next)
      (later : Derives next entries behind) :
      Derives (byte :: count :: (verbs.flatMap Word.toBytes ++ bytes))
        ({ kind, verbs, lines } :: entries) behind

private theorem kindByte_iff {byte : UInt8} {kind : VerbKind} :
    KindByte byte kind ↔ byte = kind.toByte := by
  constructor
  · rintro (_ | _) <;> rfl
  · rintro rfl
    cases kind
    · exact .verb
    · exact .xverb

variable {image : Image} {place : Nat}

private theorem readLine_eq_ok_iff {line : Record (List UInt8)} :
    readLine image place = .ok line ↔
      ∃ mark length, image.remaining place =
          mark :: length :: (line.value ++ image.remaining (place + line.width)) ∧
        line.value.length = max length.toNat 1 - 1 ∧ line.width = 2 + line.value.length := by
  constructor
  · intro read
    obtain ⟨written, same, held, width, -⟩ := written_of_readLine read
    have begins := Image.remaining_of_holds held
    have counted := written.counted
    rw [← same, ← width]
    refine ⟨written.mark, written.length, begins, by omega, ?_⟩
    change written.tokens.length + 1 + 1 = 2 + written.tokens.length
    omega
  · rintro ⟨mark, length, begins, counted, wide⟩
    obtain ⟨tokens, width, positive⟩ := line
    dsimp only at begins counted wide
    subst wide
    have second := Image.remaining_cons begins
    have third := Image.remaining_cons second
    have inside : place + 1 < image.size := Image.lt_size_of_remaining second
    have held := Image.holds_of_remaining (show place + 1 + 1 ≤ image.size from inside) third
    have size : length.toNat - 1 = tokens.length := by omega
    have sliced : image.slice .grammar (place + 2) (place + 2 + (length.toNat - 1)) = .ok tokens :=
      held.slice (by rw [size])
    refine bind_eq_ok_iff.mpr ⟨length, Image.byteAt_eq_ok_iff.mpr (Image.byte?_of_remaining second),
      bind_eq_ok_iff.mpr ⟨tokens, sliced, ?_⟩⟩
    simp only [size]
    rfl

private theorem derives_of_lines {stop : Nat} {lines : List (List UInt8)}
    (inside : place < image.size)
    (found : Lines image place lines stop) :
    DerivesLines (image.remaining place) lines (image.remaining stop) := by
  induction found with
  | outside beyond => exact absurd inside (Nat.not_lt.mpr beyond)
  | last read after ends =>
    obtain ⟨mark, length, begins, counted, -⟩ := readLine_eq_ok_iff.mp read
    rw [begins, Image.remaining_of_byte? after]
    exact .last counted (endsEntry_iff.mp ends)
  | more read after later ih =>
    obtain ⟨mark, length, begins, counted, -⟩ := readLine_eq_ok_iff.mp read
    have onward := Image.remaining_of_byte? after
    have rest := ih (Image.lt_size_of_remaining onward)
    rw [onward] at begins rest
    rw [begins]
    exact .more counted rest

private theorem lines_of_derives {bytes behind : List UInt8} {lines : List (List UInt8)}
    (derived : DerivesLines bytes lines behind) (begins : image.remaining place = bytes) :
    ∃ stop, Lines image place lines stop ∧ image.remaining stop = behind := by
  have first {place : Nat} {mark length : UInt8} {tokens rest : List UInt8}
      (counted : tokens.length = max length.toNat 1 - 1)
      (begins : image.remaining place = mark :: length :: (tokens ++ rest)) :
      ∃ line, readLine image place = .ok line ∧ line.value = tokens ∧
        image.remaining (place + line.width) = rest := by
    have onward : image.remaining (place + (2 + tokens.length)) = rest := by
      rw [← Nat.add_assoc]
      exact Image.remaining_append (Image.remaining_cons (Image.remaining_cons begins))
    refine ⟨{ value := tokens, width := 2 + tokens.length }, readLine_eq_ok_iff.mpr ?_, rfl, onward⟩
    exact ⟨mark, length, by rw [onward, begins], counted, rfl⟩
  induction derived generalizing place with
  | last counted ends =>
    obtain ⟨line, read, rfl, onward⟩ := first counted begins
    exact ⟨_, .last read (Image.byte?_of_remaining onward) (endsEntry_iff.mpr ends), onward⟩
  | more counted later ih =>
    obtain ⟨line, read, rfl, onward⟩ := first counted begins
    obtain ⟨stop, found, behind⟩ := ih onward
    exact ⟨stop, .more read (Image.byte?_of_remaining onward) found, behind⟩

private theorem lines_of_le {stop : Nat} {lines : List (List UInt8)} (outside : image.size ≤ place)
    (found : Lines image place lines stop) : lines = [] ∧ stop = place := by
  have collected := found.collectLines_eq_ok []
  rw [collectLines_of_le outside] at collected
  cases collected
  exact ⟨rfl, rfl⟩

private theorem derives_of_run {records : List (Nat × GrammarEntry)} {stop : Nat}
    (run : Record.Run (Record.FoundBefore (readEntry image) image.size) place records stop)
    (ended : image.size ≤ stop ∨ image.byte? stop = some closingMark) :
    Derives (image.remaining place) (records.map Prod.snd) (image.remaining stop) := by
  induction run with
  | nil =>
    rcases ended with outside | mark
    · rw [Image.remaining_eq_nil_iff.mpr outside]
      exact .outside
    · rw [Image.remaining_of_byte? mark]
      exact .closed _
  | @cons place stop record records first later ih =>
    obtain ⟨kind, count, verbs, lines, present, counted, named, found, held⟩ :=
      readEntry_eq_some_iff.mp first.2
    have number := Image.length_of_words named
    have behind := Image.remaining_of_byte? counted
    have words := Image.remaining_of_holds
      (Image.holds_of_words (Image.lt_size_of_remaining behind) named)
    rw [Word.length_flatMap_toBytes, number] at words
    rw [List.map_cons, held, Image.remaining_of_byte? present, behind, words]
    by_cases inside : place + 2 + 2 * count.toNat < image.size
    · exact .entry (kindByte_iff.mpr rfl) number (derives_of_lines inside found) (ih ended)
    · -- Behind an entry at which the file ends no other is found.
      obtain ⟨rfl, stops⟩ := lines_of_le (Nat.not_lt.mp inside) found
      have outside : image.size ≤ place + record.width := stops ▸ Nat.not_lt.mp inside
      cases later with
      | nil =>
        rw [Image.remaining_eq_nil_iff.mpr outside,
          Image.remaining_eq_nil_iff.mpr (Nat.not_lt.mp inside), List.append_nil]
        exact .bare (kindByte_iff.mpr rfl) number
      | cons second => exact absurd second.1 (Nat.not_lt.mpr outside)

private theorem entry_of_remaining {byte count : UInt8} {kind : VerbKind} {verbs : List UInt16}
    {bytes : List UInt8} (known : KindByte byte kind) (counted : verbs.length = count.toNat)
    (begins : image.remaining place = byte :: count :: (verbs.flatMap Word.toBytes ++ bytes)) :
    ∃ next, image.remaining next = bytes ∧ ∀ lines stop, Lines image next lines stop →
      ∃ record, Record.FoundBefore (readEntry image) image.size place record ∧
        record.value = { kind, verbs, lines } ∧ place + record.width = stop := by
  obtain rfl := kindByte_iff.mp known
  have second := Image.remaining_cons begins
  have third := Image.remaining_cons second
  have inside : place + 1 + 1 ≤ image.size := Image.lt_size_of_remaining second
  have named : image.words .grammar (place + 2) count.toNat = .ok verbs := by
    rw [← counted]
    exact (Image.holds_of_remaining inside third).words
  have fourth := Image.remaining_append third
  rw [Word.length_flatMap_toBytes, counted] at fourth
  refine ⟨_, fourth, fun lines stop found => ?_⟩
  have onward := found.le
  obtain ⟨width, rfl⟩ : ∃ width, stop = place + width := ⟨stop - place, by omega⟩
  let record : Record GrammarEntry := { value := { kind, verbs, lines }, width }
  refine ⟨record, ⟨Image.lt_size_of_remaining begins, ?_⟩, rfl, rfl⟩
  exact readEntry_eq_some_iff.mpr ⟨kind, count, verbs, lines, Image.byte?_of_remaining begins,
    Image.byte?_of_remaining second, named, found, rfl⟩

private theorem run_of_derives {bytes behind : List UInt8} {entries : List GrammarEntry}
    (derived : Derives bytes entries behind) (begins : image.remaining place = bytes) :
    ∃ records stop, Record.Run (Record.FoundBefore (readEntry image) image.size) place records stop ∧
      records.map Prod.snd = entries ∧ image.remaining stop = behind ∧
      (image.size ≤ stop ∨ image.byte? stop = some closingMark) := by
  induction derived generalizing place with
  | outside =>
    exact ⟨[], place, .nil place, rfl, begins, .inl (Image.remaining_eq_nil_iff.mp begins)⟩
  | closed rest =>
    exact ⟨[], place, .nil place, rfl, begins, .inr (Image.byte?_of_remaining begins)⟩
  | bare known counted =>
    rw [← List.append_nil (List.flatMap _ _)] at begins
    obtain ⟨next, ends, found⟩ := entry_of_remaining known counted begins
    have outside := Image.remaining_eq_nil_iff.mp ends
    obtain ⟨record, first, same, rfl⟩ := found [] next (.outside outside)
    refine ⟨_, _, .cons first (.nil _), ?_, ends, .inl outside⟩
    rw [List.map_cons, same, List.map_nil]
  | entry known counted lined later ih =>
    obtain ⟨next, begins, found⟩ := entry_of_remaining known counted begins
    obtain ⟨stop, within, behind⟩ := lines_of_derives lined begins
    obtain ⟨record, first, same, rfl⟩ := found _ stop within
    obtain ⟨records, last, run, values, rest, ended⟩ := ih behind
    refine ⟨_, last, .cons first run, ?_, rest, ended⟩
    rw [List.map_cons, same, values]

theorem readTable_eq_ok_iff {start : Nat} {entries : List GrammarEntry} :
    readTable image start = .ok entries ↔
      ∃ behind, Derives (image.remaining start) entries behind := by
  constructor
  · intro read
    obtain ⟨records, done, read⟩ := bind_eq_ok_iff.mp read
    cases read
    obtain ⟨stop, run, ended⟩ := Record.readUpTo_eq_ok_iff.mp done
    exact ⟨_, derives_of_run run (ended.imp_right readEntry_eq_none_iff.mp)⟩
  · rintro ⟨behind, derived⟩
    obtain ⟨records, stop, run, rfl, -, ended⟩ := run_of_derives derived rfl
    exact bind_eq_ok_iff.mpr ⟨records, Record.readUpTo_eq_ok_iff.mpr
      ⟨stop, run, ended.imp_right readEntry_eq_none_iff.mpr⟩, rfl⟩

private theorem DerivesLines.exists_append {bytes behind : List UInt8} {lines : List (List UInt8)}
    (derived : DerivesLines bytes lines behind) :
    ∃ consumed, bytes = consumed ++ behind ∧ ∀ behind', behind'.head? = behind.head? →
      DerivesLines (consumed ++ behind') lines behind' := by
  induction derived with
  | @last mark length after tokens rest counted ends =>
    refine ⟨mark :: length :: tokens, rfl, fun behind' same => ?_⟩
    obtain ⟨rest', rfl⟩ := List.head?_eq_some_iff.mp same
    exact .last counted ends
  | @more mark length tokens rest behind lines counted later ih =>
    obtain ⟨consumed, parts, swap⟩ := ih
    refine ⟨mark :: length :: (tokens ++ consumed), ?_, fun behind' same => ?_⟩
    · rw [parts, List.cons_append, List.cons_append, List.append_assoc]
    · have rest' := swap behind' same
      have first : (consumed ++ behind').head? = some 0x08 := by
        rw [List.head?_append, same, ← List.head?_append, ← parts, List.head?_cons]
      obtain ⟨others, next⟩ := List.head?_eq_some_iff.mp first
      rw [List.cons_append, List.cons_append, List.append_assoc]
      rw [next] at rest' ⊢
      exact .more counted rest'

/-- Nothing behind the closing mark counts. -/
theorem Derives.exists_append {bytes rest : List UInt8} {entries : List GrammarEntry}
    (derived : Derives bytes entries (closingMark :: rest)) :
    ∃ consumed, bytes = consumed ++ closingMark :: rest ∧ ∀ rest',
      Derives (consumed ++ closingMark :: rest') entries (closingMark :: rest') := by
  generalize stops : closingMark :: rest = behind at derived
  induction derived with
  | outside => cases stops
  | closed =>
    cases stops
    exact ⟨[], rfl, fun rest' => .closed rest'⟩
  | bare => cases stops
  | @entry byte count kind verbs lines entries bytes next behind known counted lined later ih =>
    subst stops
    obtain ⟨table, rfl, swap⟩ := ih rfl
    obtain ⟨consumed, rfl, swapLines⟩ := lined.exists_append
    refine ⟨byte :: count :: (verbs.flatMap Word.toBytes ++ (consumed ++ table)), ?_, fun rest' => ?_⟩
    · simp only [List.cons_append, List.append_assoc]
    · have same : (table ++ closingMark :: rest').head? = (table ++ closingMark :: rest).head? := by
        rw [List.head?_append, List.head?_append, List.head?_cons, List.head?_cons]
      have own := swapLines _ same
      rw [List.cons_append, List.cons_append, List.append_assoc, List.append_assoc]
      exact .entry known counted own (swap rest')

/-- A table is read as the entries that the rules derive from its bytes, and it is read if they derive
any. So tables are read that are stored as the format has them, and the bytes behind the closing mark
of a table may be any. -/
theorem readTable_derived (image : Image) (start : Nat) :
    (∀ entries, readTable image start = .ok entries ↔
      ∃ behind, Derives (image.remaining start) entries behind) ∧
    (∀ entries rest, (∀ entry ∈ entries, Storable entry) →
      image.remaining start = store entries ++ rest → readTable image start = .ok entries) ∧
    ∀ entries rest, Derives (image.remaining start) entries (closingMark :: rest) →
      ∃ consumed, image.remaining start = consumed ++ closingMark :: rest ∧
        ∀ image' start' rest', Image.remaining image' start' = consumed ++ closingMark :: rest' →
          readTable image' start' = .ok entries := by
  refine ⟨fun entries => readTable_eq_ok_iff, fun entries rest storable begins => ?_, ?_⟩
  · obtain ⟨byte, others, same, -⟩ := store_eq_cons entries
    have inside : start < image.size := by
      rw [same, List.cons_append] at begins
      exact Image.lt_size_of_remaining begins
    exact readTable_of_holds storable (Image.holds_of_remaining (Nat.le_of_lt inside) begins)
  · intro entries rest derived
    obtain ⟨consumed, parts, swap⟩ := derived.exists_append
    refine ⟨consumed, parts, fun image' start' rest' begins => readTable_eq_ok_iff.mpr ?_⟩
    rw [begins]
    exact ⟨_, swap rest'⟩

/-- Two entries whose tokens look like marks, and bytes behind the mark of the table. -/
theorem readTable_derived_disguised :
    let entries : List GrammarEntry :=
      [⟨.verb, [0x1234], [[0x08, 0xff], []]⟩, ⟨.xverb, [], [[0x2c]]⟩]
    let image : Image := ⟨(store entries ++ [0x2c, 0xff]).toArray⟩
    (∀ entry ∈ entries, Storable entry) ∧ image.remaining 0 = store entries ++ [0x2c, 0xff] ∧
      readTable image 0 = .ok entries ∧ ∃ behind, Derives (image.remaining 0) entries behind := by
  intro entries image
  have storable : ∀ entry ∈ entries, Storable entry := by decide
  obtain ⟨accepted, stored, -⟩ := readTable_derived image 0
  have read := stored entries [0x2c, 0xff] storable rfl
  exact ⟨storable, rfl, read, (accepted entries).mp read⟩

end HugoStory.Grammar
