import HugoStory.Proofs.Parts
import HugoStory.Proofs.Truthful
/-! The region in whose name the end of a file is reported. A reader of one region reports its
end exactly if it does not succeed, and whether it succeeds is a matter of the size of the file.
So it can be read off the file in which regions it may be cut, and in which it never is. -/
namespace HugoStory
namespace Outcome

variable {α β : Type} {first : Except Fault α} {next : α → Except Fault β} {region own : Region}
  {image : Image}

def Succeeds (outcome : Except Fault α) : Prop := ∃ value, outcome = .ok value

def EndsIn (region : Region) (outcome : Except Fault α) : Prop :=
  ∃ offset, outcome = .error (.endOfFile region offset)

@[simp]
theorem succeeds_return (value : α) : Succeeds (pure value : Except Fault α) := ⟨value, rfl⟩

@[simp]
theorem not_endsIn_return (value : α) : ¬EndsIn region (pure value : Except Fault α) := by
  rintro ⟨offset, ended⟩
  cases ended

@[simp]
theorem exists_ok_iff : (∃ value, first = .ok value) ↔ Succeeds first := Iff.rfl

/-- Where what comes later hangs on the file alone and not on the value that was read. -/
@[simp]
theorem exists_ok_and_iff {condition : Prop} :
    (∃ value, first = .ok value ∧ condition) ↔ Succeeds first ∧ condition :=
  exists_and_right

@[simp]
theorem succeeds_bind_iff :
    Succeeds (first >>= next) ↔ ∃ value, first = .ok value ∧ Succeeds (next value) := by
  constructor
  · rintro ⟨result, done⟩
    obtain ⟨value, begun, later⟩ := bind_eq_ok_iff.mp done
    exact ⟨value, begun, result, later⟩
  · rintro ⟨value, begun, result, later⟩
    exact ⟨result, bind_eq_ok_iff.mpr ⟨value, begun, later⟩⟩

theorem endsIn_bind_iff :
    EndsIn region (first >>= next) ↔
      EndsIn region first ∨ ∃ value, first = .ok value ∧ EndsIn region (next value) := by
  constructor
  · rintro ⟨offset, failed⟩
    rcases bind_eq_error_iff.mp failed with early | ⟨value, begun, late⟩
    · exact .inl ⟨offset, early⟩
    · exact .inr ⟨value, begun, offset, late⟩
  · rintro (⟨offset, early⟩ | ⟨value, begun, offset, late⟩)
    · exact ⟨offset, bind_eq_error_iff.mpr (.inl early)⟩
    · exact ⟨offset, bind_eq_error_iff.mpr (.inr ⟨value, begun, late⟩)⟩

@[simp]
theorem succeeds_map_iff {result : α → β} : Succeeds (result <$> first) ↔ Succeeds first := by
  rw [map_eq_pure_bind, succeeds_bind_iff]
  simp

@[simp]
theorem endsIn_map_iff {result : α → β} :
    EndsIn region (result <$> first) ↔ EndsIn region first := by
  rw [map_eq_pure_bind, endsIn_bind_iff]
  simp

theorem EndsIn.not_succeeds (ended : EndsIn region first) : ¬Succeeds first := by
  obtain ⟨offset, failed⟩ := ended
  rintro ⟨value, done⟩
  rw [failed] at done
  cases done

private theorem EndsIn.region_eq (runsOut : FaultsIn (image.RunsOut own) first)
    (ended : EndsIn region first) : region = own := by
  obtain ⟨offset, failed⟩ := ended
  obtain ⟨_, _, same⟩ := runsOut _ failed
  cases same
  rfl

private theorem endsIn_iff_of_runsOut (runsOut : FaultsIn (image.RunsOut own) first) :
    EndsIn region first ↔ region = own ∧ ¬Succeeds first := by
  constructor
  · intro ended
    exact ⟨ended.region_eq runsOut, ended.not_succeeds⟩
  · rintro ⟨rfl, failed⟩
    cases done : first with
    | ok value => exact absurd ⟨value, done⟩ failed
    | error fault =>
      obtain ⟨offset, _, rfl⟩ := runsOut fault done
      exact ⟨offset, rfl⟩

end Outcome

open Outcome

variable {image : Image} {region : Region}

namespace Image

@[simp]
theorem succeeds_byteAt_iff {offset : Nat} :
    Succeeds (image.byteAt region offset) ↔ offset < image.size := by
  constructor
  · rintro ⟨byte, read⟩
    exact lt_size_of_byte? (byteAt_eq_ok_iff.mp read)
  · intro inside
    cases present : image.byte? offset with
    | none => exact absurd (byte?_eq_none_iff.mp present) (Nat.not_le.mpr inside)
    | some byte => exact ⟨byte, byteAt_eq_ok_iff.mpr present⟩

@[simp]
theorem succeeds_wordAt_iff {offset : Nat} :
    Succeeds (image.wordAt region offset) ↔ offset + 2 ≤ image.size := by
  simp [wordAt]
  omega

@[simp]
theorem succeeds_slice_iff {start stop : Nat} :
    Succeeds (image.slice region start stop) ↔ stop ≤ image.size := by
  constructor
  · rintro ⟨bytes, read⟩
    exact (slice_eq_ok_iff.mp read).1
  · intro inside
    exact ⟨_, slice_eq_ok_iff.mpr ⟨inside, rfl⟩⟩

private theorem endsIn_wordAt_iff {own : Region} {offset : Nat} :
    EndsIn region (image.wordAt own offset) ↔ region = own ∧ image.size < offset + 2 := by
  rw [endsIn_iff_of_runsOut (faultsIn_wordAt offset), succeeds_wordAt_iff, Nat.not_le]

@[simp]
theorem succeeds_words_iff {offset count : Nat} :
    Succeeds (image.words region offset count) ↔ count = 0 ∨ offset + 2 * count ≤ image.size := by
  induction count generalizing offset with
  | zero =>
    rw [words_zero]
    exact iff_of_true ⟨[], rfl⟩ (.inl rfl)
  | succ count ih =>
    rw [words_succ]
    simp [ih]
    omega

end Image

namespace Header

private theorem succeeds_readSerial_iff : Succeeds (readSerial image) ↔ 11 ≤ image.size := by
  simp [readSerial, serialOffset, serialLength]

@[simp]
theorem succeeds_readBlock_iff {offset : Nat} :
    Succeeds (readBlock image offset) ↔ offset + 2 ≤ image.size := by
  simp [readBlock]

private theorem succeeds_readLayout_iff : Succeeds (readLayout image) ↔ 0x2b ≤ image.size := by
  simp [readLayout, codeOffset, objectsOffset, propertiesOffset, eventsOffset, arraysOffset,
    dictionaryOffset, specialWordsOffset, textBankOffset]
  omega

private theorem succeeds_readEntryPoints_iff {code : Nat} :
    Succeeds (readEntryPoints image code) ↔ 0x29 ≤ image.size := by
  simp [readEntryPoints, entryPointsOffset]
  omega

private theorem succeeds_readVersion_iff :
    Succeeds (readVersion image) ↔ image.byte? 0 = some 31 := by
  constructor
  · rintro ⟨version, read⟩
    obtain ⟨byte, present, supported⟩ := bind_eq_ok_iff.mp read
    by_cases known : Version.ofByte byte = Version.supported
    · rw [← (Version.ofByte_eq_supported_iff byte).mp known]
      exact Image.byteAt_eq_ok_iff.mp present
    · simp only [known, if_false] at supported
      cases supported
  · intro present
    exact ⟨.supported, bind_eq_ok_iff.mpr ⟨31, Image.byteAt_eq_ok_iff.mpr present, rfl⟩⟩

private theorem endsIn_readVersion_iff :
    EndsIn region (readVersion image) ↔ region = .version ∧ image.size = 0 := by
  unfold readVersion
  rw [endsIn_bind_iff, endsIn_iff_of_runsOut (Image.faultsIn_byteAt 0), Image.succeeds_byteAt_iff,
    Nat.not_lt, Nat.le_zero, or_iff_left]
  rintro ⟨byte, -, offset, ended⟩
  by_cases known : Version.ofByte byte = Version.supported
  · simp only [known, if_true] at ended
    cases ended
  · simp only [known, if_false] at ended
    cases ended

/-- The debug flag is set, but the file ends before the offset behind it does. -/
def DebugCut (image : Image) : Prop :=
  0x3b ≤ image.size ∧ image.size < 0x3e ∧ image.byte? 0x3a ≠ some 0

private theorem succeeds_readDebugStart_iff :
    Succeeds (readDebugStart image) ↔ ¬DebugCut image := by
  unfold readDebugStart DebugCut debugFlagOffset
  cases present : image.byte? 0x3a with
  | none =>
    have outside := Image.byte?_eq_none_iff.mp present
    simp
    omega
  | some flag =>
    have inside := Image.lt_size_of_byte? present
    by_cases unset : flag = 0
    · simp [unset]
    · simp [unset, debugStartOffset]
      omega

private theorem endsIn_readSerial_iff :
    EndsIn region (readSerial image) ↔ region = .idAndSerial ∧ image.size < 11 := by
  rw [endsIn_iff_of_runsOut faultsIn_readSerial, succeeds_readSerial_iff, Nat.not_le]

private theorem endsIn_readLayout_iff :
    EndsIn region (readLayout image) ↔ region = .offsets ∧ image.size < 0x2b := by
  rw [endsIn_iff_of_runsOut faultsIn_readLayout, succeeds_readLayout_iff, Nat.not_le]

private theorem endsIn_readEntryPoints_iff {code : Nat} :
    EndsIn region (readEntryPoints image code) ↔ region = .offsets ∧ image.size < 0x29 := by
  rw [endsIn_iff_of_runsOut (faultsIn_readEntryPoints code), succeeds_readEntryPoints_iff,
    Nat.not_le]

private theorem endsIn_readDebugStart_iff :
    EndsIn region (readDebugStart image) ↔ region = .offsets ∧ DebugCut image := by
  rw [endsIn_iff_of_runsOut faultsIn_readDebugStart, succeeds_readDebugStart_iff, Classical.not_not]

/-- The entry points lie in front of the last offset of the layout, so they are always there. -/
theorem endsIn_read_iff :
    EndsIn region (Header.read image) ↔
      region = .version ∧ image.size = 0 ∨
      region = .idAndSerial ∧ image.byte? 0 = some 31 ∧ image.size < 11 ∨
      region = .offsets ∧ image.byte? 0 = some 31 ∧
        (11 ≤ image.size ∧ image.size < 0x2b ∨ DebugCut image) := by
  unfold Header.read
  simp only [endsIn_bind_iff, exists_ok_and_iff, bind_pure_comp, endsIn_map_iff,
    endsIn_readVersion_iff, succeeds_readVersion_iff, Image.endsIn_wordAt_iff,
    Image.succeeds_wordAt_iff, endsIn_readSerial_iff, succeeds_readSerial_iff,
    endsIn_readLayout_iff, succeeds_readLayout_iff, endsIn_readEntryPoints_iff,
    succeeds_readEntryPoints_iff, endsIn_readDebugStart_iff]
  have far : DebugCut image → 0x3b ≤ image.size := And.left
  have order : idOffset + 2 = 3 := rfl
  grind

end Header

def Layout.counted (layout : Layout) : List Nat :=
  [layout.objects, layout.events, layout.dictionary, layout.specialWords, layout.properties]

theorem Counts.succeeds_read_iff {layout : Layout} :
    Succeeds (Counts.read image layout) ↔ ∀ table ∈ layout.counted, table + 2 ≤ image.size := by
  simp [Counts.read, Layout.counted]

theorem Counts.endsIn_read_iff {layout : Layout} :
    EndsIn region (Counts.read image layout) ↔
      region = .counts ∧ ∃ table ∈ layout.counted, image.size < table + 2 := by
  rw [endsIn_iff_of_runsOut (faultsIn_read layout), succeeds_read_iff]
  simp

private theorem Property.endsIn_readDefaults_iff {offset count : Nat} :
    EndsIn region (readDefaults image offset count) ↔
      region = .propertyDefaults ∧ 1 ≤ count ∧ image.size < offset + 2 + 2 * count := by
  rw [endsIn_iff_of_runsOut (faultsIn_readDefaults offset count)]
  unfold readDefaults
  rw [bind_pure_comp, succeeds_map_iff, Image.succeeds_words_iff]
  refine and_congr_right fun _ => ?_
  omega

theorem Preamble.endsIn_read_iff :
    EndsIn region (Preamble.read image) ↔
      EndsIn region (Header.read image) ∨
      ∃ header, Header.read image = .ok header ∧
        (region = .counts ∧ (∃ table ∈ header.layout.counted, image.size < table + 2) ∨
          ∃ counts, Counts.read image header.layout = .ok counts ∧
            region = .propertyDefaults ∧ 1 ≤ counts.properties.toNat ∧
              image.size < header.layout.properties + 2 + 2 * counts.properties.toNat) := by
  unfold Preamble.read
  simp only [endsIn_bind_iff, Counts.endsIn_read_iff, bind_pure_comp, endsIn_map_iff,
    Property.endsIn_readDefaults_iff]

theorem Preamble.counted_of_read {preamble : Preamble} (read : Preamble.read image = .ok preamble) :
    ∀ table ∈ preamble.header.layout.counted, table + 2 ≤ image.size :=
  Counts.succeeds_read_iff.mp ⟨_, (read_eq_ok_iff.mp read).2.1⟩

private theorem Grammar.region_of_endsIn_read (ends : EndsIn region (Grammar.read image)) :
    region = .grammar := by
  obtain ⟨offset, failed⟩ := ends
  rcases faultsIn_readTable start _ failed with ⟨_, _, same⟩ | ⟨_, _, same, _⟩ | ⟨_, same, _⟩ <;>
    cases same
  rfl

private theorem SpecialWords.region_of_endsIn_read {offset count : Nat}
    (ends : EndsIn region (SpecialWords.read image offset count)) : region = .specialWords := by
  unfold SpecialWords.read at ends
  rw [bind_pure_comp, endsIn_map_iff] at ends
  obtain ⟨offset, failed⟩ := ends
  obtain ⟨records, place, fewer, run, stuck⟩ := Record.readCount_eq_error_iff.mp failed
  rcases faultsIn_readRecord place _ stuck with ⟨_, _, same⟩ | ⟨_, same, _⟩ <;> cases same
  rfl

namespace Story

/-- The sections whose readers may all run out of the file by themselves. -/
def openSections : List Region :=
  [.arrays, .dictionary, .events, .grammar, .objects, .specialWords, .textBank]

private theorem endsIn_readSections {preamble : Preamble}
    (ends : EndsIn region (readSections image preamble)) :
    region ∈ openSections ∨
    region = .code ∧ ¬Succeeds (Code.read image preamble.header.layout.code
      preamble.header.layout.objects) ∨
    region = .globals ∧ Succeeds (Variables.readArrays image preamble.header.layout.arrays
      preamble.header.layout.specialWords) ∧
      ¬Succeeds (Variables.readGlobals image preamble.header.layout.arrays) := by
  unfold readSections at ends
  rcases endsIn_bind_iff.mp ends with ends | ⟨arrays, walked, ends⟩
  · rw [ends.region_eq (Variables.faultsIn_readArrays _ _)]
    exact .inl (by decide)
  rcases endsIn_bind_iff.mp ends with ends | ⟨code, _, ends⟩
  · exact .inr (.inl ⟨ends.region_eq (Code.faultsIn_read _ _), ends.not_succeeds⟩)
  rcases endsIn_bind_iff.mp ends with ends | ⟨dictionary, _, ends⟩
  · rw [ends.region_eq (Dictionary.faultsIn_read _ _)]
    exact .inl (by decide)
  rcases endsIn_bind_iff.mp ends with ends | ⟨events, _, ends⟩
  · rw [ends.region_eq (Event.faultsIn_readTable _ _)]
    exact .inl (by decide)
  rcases endsIn_bind_iff.mp ends with ends | ⟨globals, _, ends⟩
  · exact .inr (.inr ⟨ends.region_eq (Variables.faultsIn_readGlobals _), ⟨arrays, walked⟩,
      ends.not_succeeds⟩)
  rcases endsIn_bind_iff.mp ends with ends | ⟨grammar, _, ends⟩
  · rw [Grammar.region_of_endsIn_read ends]
    exact .inl (by decide)
  rcases endsIn_bind_iff.mp ends with ends | ⟨objects, _, ends⟩
  · rw [ends.region_eq (Object.faultsIn_readTable _ _ _ _)]
    exact .inl (by decide)
  rcases endsIn_bind_iff.mp ends with ends | ⟨specialWords, _, ends⟩
  · rw [SpecialWords.region_of_endsIn_read ends]
    exact .inl (by decide)
  rw [bind_pure_comp, endsIn_map_iff] at ends
  rw [ends.region_eq (TextBank.faultsIn_read _ _)]
  exact .inl (by decide)

end Story

theorem Code.succeeds_read_iff {offset stop : Nat} :
    Succeeds (Code.read image offset stop) ↔ stop ≤ image.size := by
  unfold Code.read
  rw [bind_pure_comp, succeeds_map_iff, Image.succeeds_slice_iff]

namespace Variables

private theorem succeeds_readGlobals_iff {offset : Nat} :
    Succeeds (readGlobals image offset) ↔ offset + 480 ≤ image.size := by
  unfold readGlobals
  rw [bind_pure_comp, succeeds_map_iff, Image.succeeds_words_iff]
  unfold globalCount
  omega

/-- The arrays stand behind the globals, so a walk over them that took a step has passed by. -/
private theorem succeeds_readGlobals_of_readArrays {offset stop : Nat}
    (walked : Succeeds (readArrays image offset stop)) (reaches : offset + 480 < stop) :
    Succeeds (readGlobals image offset) := by
  obtain ⟨arrays, walked⟩ := walked
  obtain ⟨records, done, _⟩ := bind_eq_ok_iff.mp walked
  unfold globalCount at done
  rw [Record.readUpTo_of_lt _ reaches] at done
  obtain ⟨found, first, _⟩ := bind_eq_ok_iff.mp done
  obtain ⟨length, counted, _⟩ := bind_eq_ok_iff.mp first
  have inside := Image.succeeds_wordAt_iff.mp ⟨length, counted⟩
  rw [succeeds_readGlobals_iff]
  omega

end Variables

namespace Story

theorem endsIn_read_iff :
    EndsIn region (Story.read image) ↔ EndsIn region (Preamble.read image) ∨
      ∃ preamble, Preamble.read image = .ok preamble ∧
        EndsIn region (readSections image preamble) :=
  endsIn_bind_iff

/-- A region that is no section has been passed once the sections are read. -/
theorem endsIn_read_iff_of_early (early : region ∉ .code :: .globals :: openSections) :
    EndsIn region (Story.read image) ↔ EndsIn region (Preamble.read image) := by
  rw [endsIn_read_iff, or_iff_left]
  rintro ⟨preamble, _, ends⟩
  refine early ?_
  rw [List.mem_cons, List.mem_cons]
  rcases endsIn_readSections ends with inside | ⟨same, _⟩ | ⟨same, _⟩
  · exact .inr (.inr inside)
  · exact .inl same
  · exact .inr (.inl same)

def openings : List Region := [.version, .idAndSerial, .offsets, .counts, .propertyDefaults]

private theorem mem_openings_of_endsIn (ends : EndsIn region (Preamble.read image)) :
    region ∈ openings := by
  rw [Preamble.endsIn_read_iff, Header.endsIn_read_iff] at ends
  rcases ends with (⟨rfl, _⟩ | ⟨rfl, _⟩ | ⟨rfl, _⟩) | ⟨header, _, ⟨rfl, _⟩ | ⟨counts, _, rfl, _⟩⟩ <;>
    decide

private theorem endsIn_readSections_of_late (late : region ∉ openings)
    (ends : EndsIn region (Story.read image)) :
    ∃ preamble, Preamble.read image = .ok preamble ∧ EndsIn region (readSections image preamble) :=
  (endsIn_read_iff.mp ends).resolve_left fun early => late (mem_openings_of_endsIn early)

/-- The code ends where the object table begins, and that has been counted. -/
theorem not_endsIn_code : ¬EndsIn .code (Story.read image) := by
  intro ends
  obtain ⟨preamble, known, ends⟩ := endsIn_readSections_of_late (by decide) ends
  rcases endsIn_readSections ends with inside | ⟨_, failed⟩ | ⟨here, _⟩
  · exact absurd inside (by decide)
  · refine failed (Code.succeeds_read_iff.mpr ?_)
    have counted := Preamble.counted_of_read known _ List.mem_cons_self
    omega
  · cases here

/-- If an array is looked for behind the globals, all of them have been passed by then. -/
private theorem le_of_endsIn_globals (ends : EndsIn .globals (Story.read image)) :
    ∃ header, Header.read image = .ok header ∧
      header.layout.specialWords ≤ header.layout.arrays + 480 := by
  obtain ⟨preamble, known, ends⟩ := endsIn_readSections_of_late (by decide) ends
  refine ⟨preamble.header, Preamble.header_of_read known, Nat.le_of_not_lt fun reaches => ?_⟩
  rcases endsIn_readSections ends with inside | ⟨here, _⟩ | ⟨_, walked, failed⟩
  · exact absurd inside (by decide)
  · cases here
  · exact failed (Variables.succeeds_readGlobals_of_readArrays walked reaches)

/-- In front of the sections the end of the file is met exactly where the file is cut. The code
is never cut, as the table behind it has been counted, and the globals only are if no array is
looked for behind them. -/
theorem endsIn_read (image : Image) :
    (EndsIn .version (Story.read image) ↔ image.size = 0) ∧
    (EndsIn .idAndSerial (Story.read image) ↔
      image.byte? 0 = some 31 ∧ 1 ≤ image.size ∧ image.size < 11) ∧
    (EndsIn .offsets (Story.read image) ↔
      image.byte? 0 = some 31 ∧ (11 ≤ image.size ∧ image.size < 0x2b ∨
        0x3b ≤ image.size ∧ image.size < 0x3e ∧ image.byte? 0x3a ≠ some 0)) ∧
    (EndsIn .counts (Story.read image) ↔ ∃ header, Header.read image = .ok header ∧
      ∃ table ∈ header.layout.counted, image.size < table + 2) ∧
    (EndsIn .propertyDefaults (Story.read image) ↔ ∃ header counts,
      Header.read image = .ok header ∧ Counts.read image header.layout = .ok counts ∧
        1 ≤ counts.properties.toNat ∧
        image.size < header.layout.properties + 2 + 2 * counts.properties.toNat) ∧
    ¬EndsIn .code (Story.read image) ∧
    (EndsIn .globals (Story.read image) → ∃ header, Header.read image = .ok header ∧
      header.layout.specialWords ≤ header.layout.arrays + 480) := by
  refine ⟨?version, ?identity, ?offsets, ?counts, ?defaults, not_endsIn_code,
    le_of_endsIn_globals⟩
  all_goals
    rw [endsIn_read_iff_of_early (by decide), Preamble.endsIn_read_iff, Header.endsIn_read_iff]
  case version => simp
  case identity =>
    simp only [reduceCtorEq, false_and, true_and, false_or, or_false, and_false, exists_false]
    refine and_congr_right fun present => ?_
    exact (and_iff_right (Image.lt_size_of_byte? present)).symm
  case offsets => simp [Header.DebugCut]
  case counts => simp
  case defaults => simp

end Story

end HugoStory
