import HugoStory.Proofs.Locality
import HugoStory.Proofs.RoundTrip
/-! Patching compiled code. Where the sections lie in the documented order, the code fills a
space of its own: the header and the grammar end in front of it and all tables start behind it.
So other bytes in that space make another code and leave the rest of the story as it is. -/
namespace HugoStory
open Outcome

variable {image image' : Image}

namespace Agree

private theorem readHeader (agree : Agree (· < Grammar.start) image image') :
    Header.read image = Header.read image' := by
  have word {region : Region} {place : Nat} (here : place + 1 < Grammar.start) :
      image.wordAt region place = image'.wordAt region place :=
    agree.wordAt (Nat.lt_of_succ_lt here) here
  have serial : Header.readSerial image = Header.readSerial image' := by
    unfold Header.readSerial
    rw [agree.slice fun place _ before => Nat.lt_trans before (by decide)]
  have debugStart : Header.readDebugStart image = Header.readDebugStart image' := by
    unfold Header.readDebugStart
    simp (disch := decide) only [agree.bytes, agree.byteAt]
  unfold Header.read Header.readVersion Header.readLayout Header.readEntryPoints Header.readBlock
  simp (disch := decide) only [agree.byteAt, word, serial, debugStart]

end Agree

namespace Grammar

/-- The table ends with its closing mark, and not with the file. -/
def ClosedAt (image : Image) (stop : Nat) : Prop :=
  ∃ records, Record.Run (Record.FoundBefore (readEntry image) image.size) start records stop ∧
    image.byte? stop = some closingMark

variable {stop : Nat} (agree : Agree (· ≤ stop) image image')
include agree

private theorem readLine_of_agree {place : Nat} {line : Record (List UInt8)}
    (read : readLine image place = .ok line) (inside : place + line.width ≤ stop) :
    readLine image' place = .ok line := by
  have wide := line.width_pos
  obtain ⟨length, counted, read⟩ := bind_eq_ok_iff.mp read
  obtain ⟨tokens, sliced, read⟩ := bind_eq_ok_iff.mp read
  cases read
  simp only at inside
  rw [agree.byteAt (by omega)] at counted
  rw [agree.slice fun _ _ before => by omega] at sliced
  exact bind_eq_ok_iff.mpr ⟨length, counted, bind_eq_ok_iff.mpr ⟨tokens, sliced, rfl⟩⟩

/-- The byte behind a line is looked at as well, so the stop itself must be the same. -/
private theorem lines_of_agree {place next : Nat} {lines : List (List UInt8)}
    (found : Lines image place lines next) (inside : next ≤ stop) :
    Lines image' place lines next := by
  induction found with
  | outside beyond =>
    rw [agree.size] at beyond
    exact .outside beyond
  | last read after ends =>
    rw [agree.bytes _ inside] at after
    exact .last (readLine_of_agree agree read inside) after ends
  | more read after later ih =>
    have before := later.le
    rw [agree.bytes _ (by omega)] at after
    exact .more (readLine_of_agree agree read (by omega)) after (ih inside)

private theorem readEntry_of_agree {place : Nat} {record : Record GrammarEntry}
    (read : readEntry image place = .ok (some record)) (inside : place + record.width ≤ stop) :
    readEntry image' place = .ok (some record) := by
  obtain ⟨kind, count, verbs, lines, present, counted, named, found, held⟩ :=
    readEntry_eq_some_iff.mp read
  have before := found.le
  rw [agree.bytes _ (by omega)] at present counted
  rw [agree.words_of_inside fun other _ before => by omega] at named
  exact readEntry_eq_some_iff.mpr
    ⟨kind, count, verbs, lines, present, counted, named, lines_of_agree agree found inside, held⟩

private theorem run_of_agree {place : Nat} {records : List (Nat × GrammarEntry)}
    (run : Record.Run (Record.FoundBefore (readEntry image) image.size) place records stop) :
    Record.Run (Record.FoundBefore (readEntry image') image'.size) place records stop := by
  induction run with
  | nil => exact .nil _
  | cons first later ih =>
    have inside := later.le
    have before := first.1
    rw [agree.size] at before
    exact .cons ⟨before, readEntry_of_agree agree first.2 inside⟩ (ih agree)

private theorem read_of_closedAt (closed : ClosedAt image stop) :
    Grammar.read image = Grammar.read image' := by
  obtain ⟨records, run, mark⟩ := closed
  have mark' := mark
  rw [agree.bytes stop (Nat.le_refl stop)] at mark'
  have done := Record.readUpTo_eq_ok_iff.mpr ⟨stop, run, .inr (readEntry_eq_none_iff.mpr mark)⟩
  have done' := Record.readUpTo_eq_ok_iff.mpr
    ⟨stop, run_of_agree agree run, .inr (readEntry_eq_none_iff.mpr mark')⟩
  unfold Grammar.read readTable
  rw [done, done']

end Grammar

/-- The order in which a compiler lays the sections out, as far as the code is concerned. -/
structure Layout.Ordered (image : Image) (layout : Layout) : Prop where
  grammar : ∃ stop, Grammar.ClosedAt image stop ∧ stop < layout.code
  code : layout.code ≤ layout.objects
  properties : layout.objects ≤ layout.properties
  events : layout.objects ≤ layout.events
  arrays : layout.objects ≤ layout.arrays
  dictionary : layout.objects ≤ layout.dictionary
  specialWords : layout.objects ≤ layout.specialWords
  textBank : layout.objects ≤ layout.textBank

/-- The files have one size, and the same bytes in front of the code and from the objects on. -/
def Layout.SameButCode (layout : Layout) (image image' : Image) : Prop :=
  Agree (fun place => place < layout.code ∨ layout.objects ≤ place) image image'

section Patch

variable {layout : Layout} (ordered : layout.Ordered image) (same : layout.SameButCode image image')
include ordered same

private theorem Layout.Ordered.grammar_eq : Grammar.read image = Grammar.read image' := by
  obtain ⟨stop, closed, before⟩ := ordered.grammar
  exact Grammar.read_of_closedAt (same.mono fun place here => .inl (by omega)) closed

private theorem Layout.Ordered.header_eq : Header.read image = Header.read image' := by
  obtain ⟨stop, ⟨records, run, _⟩, before⟩ := ordered.grammar
  have opens := run.le
  exact Agree.readHeader (same.mono fun place here => .inl (by omega))

end Patch

private theorem Preamble.read_of_sameButCode {preamble : Preamble}
    (known : Preamble.read image = .ok preamble) (ordered : preamble.header.layout.Ordered image)
    (same : preamble.header.layout.SameButCode image image') :
    Preamble.read image' = .ok preamble := by
  have tables : Agree (preamble.header.layout.objects ≤ ·) image image' := same.mono fun _ => .inr
  have after : ∀ table ∈ preamble.header.layout.counted,
      preamble.header.layout.objects ≤ table := by
    simp only [Layout.counted, List.forall_mem_cons]
    exact ⟨Nat.le_refl _, ordered.events, ordered.dictionary, ordered.specialWords,
      ordered.properties, by simp⟩
  rw [Preamble.read_eq_ok_iff, ordered.header_eq same, tables.readCounts after,
    tables.readDefaults ordered.properties] at known
  exact Preamble.read_eq_ok_iff.mpr known

theorem Story.Parts.patched {preamble : Preamble} {plain : Dictionary} {story : Story}
    (parts : Story.Parts image preamble plain story)
    (ordered : preamble.header.layout.Ordered image)
    (same : preamble.header.layout.SameButCode image image') {code : List UInt8}
    (coded : Code.read image' preamble.header.layout.code preamble.header.layout.objects =
      .ok code) : Story.Parts image' preamble plain { story with code } := by
  have tables : Agree (preamble.header.layout.objects ≤ ·) image image' := same.mono fun _ => .inr
  have textBankEnd : preamble.textBankEnd image = preamble.textBankEnd image' := by
    unfold Preamble.textBankEnd
    rw [tables.size]
  obtain ⟨arrays, _, dictionary, events, globals, grammar, objects, specialWords, textBank,
    assembled⟩ := parts
  rw [tables.readArrays ordered.arrays] at arrays
  rw [tables.readDictionary ordered.dictionary] at dictionary
  rw [tables.readEvents ordered.events] at events
  rw [tables.readGlobals ordered.arrays] at globals
  rw [ordered.grammar_eq same] at grammar
  rw [tables.readObjects (Nat.le_refl _) ordered.properties] at objects
  rw [tables.readSpecialWords ordered.specialWords] at specialWords
  rw [tables.readTextBank ordered.textBank, textBankEnd] at textBank
  rw [assembled]
  exact {
    arrays, dictionary, events, globals, grammar, objects, specialWords, textBank
    code := coded, assembled := rfl }

namespace Blueprint

variable {blueprint : Blueprint}

theorem Laid.closedAt (laid : blueprint.Laid image) (fits : blueprint.Fits) :
    ∃ stop, Grammar.ClosedAt image stop ∧ stop < blueprint.codeStart := by
  have held := laid.opening.left.left
  obtain ⟨records, stop, run, closed, values⟩ := Grammar.run_of_holds fits.grammar held
  have inside : Grammar.start ≤ image.size := Nat.le_of_add_right_le held.inside
  have ends := Grammar.stop_of_run inside run
  refine ⟨stop, ⟨records, run, Grammar.readEntry_eq_none_iff.mp closed⟩, ?_⟩
  rw [ends, values]
  unfold codeStart grammarTable Grammar.store
  rw [List.length_append, List.length_singleton]
  exact Nat.lt_succ_self _

private theorem codeStart_le_objectsStart : blueprint.codeStart ≤ blueprint.objectsStart := by
  unfold codeStart objectsStart padded opening
  rw [List.append_assoc, List.length_append]
  exact Nat.add_le_add_left (Nat.le_add_right _ _) _

private theorem Laid.ordered (laid : blueprint.Laid image) (fits : blueprint.Fits) :
    blueprint.layout.Ordered image := by
  have properties : blueprint.objectsStart ≤ blueprint.propertiesStart := Nat.le_add_right _ _
  have events : blueprint.objectsStart ≤ blueprint.eventsStart :=
    Nat.le_trans properties (Nat.le_add_right _ _)
  have arrays : blueprint.objectsStart ≤ blueprint.arraysStart :=
    Nat.le_trans events (Nat.le_add_right _ _)
  have specialWords : blueprint.objectsStart ≤ blueprint.specialWordsStart :=
    Nat.le_trans arrays (Nat.le_add_right _ _)
  have dictionary : blueprint.objectsStart ≤ blueprint.dictionaryStart :=
    Nat.le_trans specialWords (Nat.le_add_right _ _)
  have textBank : blueprint.objectsStart ≤ blueprint.textBankStart :=
    Nat.le_trans dictionary (Nat.le_add_right _ _)
  exact {
    grammar := laid.closedAt fits
    code := codeStart_le_objectsStart
    properties, events, arrays, dictionary, specialWords, textBank }

end Blueprint

def Image.patched (image : Image) (place : Nat) (byte : UInt8) : Image :=
  ⟨image.bytes.setIfInBounds place byte⟩

theorem Image.agree_patched (image : Image) (place : Nat) (byte : UInt8) :
    Agree (· ≠ place) image (image.patched place byte) where
  size := Array.size_setIfInBounds.symm
  bytes _ elsewhere := (Array.getElem?_setIfInBounds_ne (Ne.symm elsewhere)).symm

/-- Whatever is written into the space of the code, the file is still accepted. Its story differs in
the code alone, which is what was written there without the zeros at its end. -/
theorem Story.read_of_patched {header : Header} {story : Story}
    (accepted : Story.read image = .ok story) (known : Header.read image = .ok header)
    (ordered : header.layout.Ordered image) (same : header.layout.SameButCode image image') :
    ∃ code, Story.read image' = .ok { story with code } ∧
      Code.PaddedTo (image'.bytes.extract header.layout.code header.layout.objects).toList code := by
  obtain ⟨preamble, plain, prepared, parts⟩ := Story.read_eq_ok_iff.mp accepted
  cases known.symm.trans (Preamble.header_of_read prepared)
  have prepared' := Preamble.read_of_sameButCode prepared ordered same
  have inside : preamble.header.layout.objects ≤ image'.size := by
    rw [← same.size]
    exact Code.succeeds_read_iff.mp ⟨_, parts.code⟩
  obtain ⟨code, coded, padded⟩ := Code.exists_read (Image.slice_eq_ok_iff.mpr ⟨inside, rfl⟩)
  exact ⟨code, Story.read_eq_ok_iff.mpr ⟨preamble, plain, prepared', parts.patched ordered same coded⟩,
    padded⟩

/-- The first byte of the code of a file with something in every section, patched. The zeros at the
end of its space are not part of it. -/
theorem Story.read_of_patched_miniature :
    let image := Blueprint.miniature.image
    let image' := image.patched 83 0x63
    let layout := Blueprint.miniature.preamble.header.layout
    Story.read image = .ok Blueprint.miniatureStory ∧
      Header.read image = .ok Blueprint.miniature.preamble.header ∧
      layout.Ordered image ∧ layout.SameButCode image image' ∧
      (image'.bytes.extract 83 96).toList = [0x63, 0, 7] ++ List.replicate 10 0 ∧
      Story.read image' = .ok { Blueprint.miniatureStory with code := [0x63, 0, 7] } := by
  intro image image' layout
  have laid := Blueprint.miniature.laid
  have accepted : Story.read image = _ := Blueprint.read_miniature
  have known := laid.headerLaid.read Blueprint.miniature_fits
  have ordered : layout.Ordered image := laid.ordered Blueprint.miniature_fits
  have code : layout.code = 83 := by decide +kernel
  have objects : layout.objects = 96 := by decide +kernel
  have same : layout.SameButCode image image' :=
    (Image.agree_patched image 83 0x63).mono fun place here => by omega
  have bytes : (image'.bytes.extract 83 96).toList = [0x63, 0, 7] ++ List.replicate 10 0 := by
    decide +kernel
  obtain ⟨code', read, padded⟩ := read_of_patched accepted known ordered same
  have literal : Code.PaddedTo ([0x63, 0, 7] ++ List.replicate 10 0) [0x63, 0, 7] :=
    ⟨⟨10, rfl⟩, by decide⟩
  change Code.PaddedTo (image'.bytes.extract layout.code layout.objects).toList code' at padded
  rw [code, objects, bytes] at padded
  rw [padded.unique literal] at read
  exact ⟨accepted, known, ordered, same, bytes, read⟩

end HugoStory
