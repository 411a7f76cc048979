import HugoStory.Proofs.Outcome
import HugoStory.Story
/-! A reading taken apart. A preamble or a story is read exactly if each of its parts is, so what
is known of the readers of the parts can be used without going through their sequence again. -/
namespace HugoStory
open Outcome

variable {image : Image} {preamble : Preamble}

theorem Header.read_eq_ok_iff {header : Header} :
    Header.read image = .ok header ↔
      readVersion image = .ok header.version ∧
        image.wordAt .idAndSerial idOffset = .ok header.id ∧
        readSerial image = .ok header.serial ∧
        readLayout image = .ok header.layout ∧
        readEntryPoints image header.layout.code = .ok header.entryPoints ∧
        readDebugStart image = .ok header.debugStart := by
  constructor
  · intro read
    obtain ⟨version, versioned, read⟩ := bind_eq_ok_iff.mp read
    obtain ⟨id, identified, read⟩ := bind_eq_ok_iff.mp read
    obtain ⟨serial, serialled, read⟩ := bind_eq_ok_iff.mp read
    obtain ⟨layout, laid, read⟩ := bind_eq_ok_iff.mp read
    obtain ⟨points, pointed, read⟩ := bind_eq_ok_iff.mp read
    obtain ⟨debugStart, bounded, read⟩ := bind_eq_ok_iff.mp read
    cases read
    exact ⟨versioned, identified, serialled, laid, pointed, bounded⟩
  · rintro ⟨versioned, identified, serialled, laid, pointed, bounded⟩
    exact bind_eq_ok_iff.mpr ⟨_, versioned, bind_eq_ok_iff.mpr ⟨_, identified,
      bind_eq_ok_iff.mpr ⟨_, serialled, bind_eq_ok_iff.mpr ⟨_, laid,
        bind_eq_ok_iff.mpr ⟨_, pointed, bind_eq_ok_iff.mpr ⟨_, bounded, rfl⟩⟩⟩⟩⟩⟩

theorem Preamble.read_eq_ok_iff :
    Preamble.read image = .ok preamble ↔
      Header.read image = .ok preamble.header ∧
        Counts.read image preamble.header.layout = .ok preamble.counts ∧
        Property.readDefaults image preamble.header.layout.properties
          preamble.counts.properties.toNat = .ok preamble.defaults := by
  constructor
  · intro read
    obtain ⟨header, named, read⟩ := bind_eq_ok_iff.mp read
    obtain ⟨counts, counted, read⟩ := bind_eq_ok_iff.mp read
    obtain ⟨defaults, defaulted, read⟩ := bind_eq_ok_iff.mp read
    cases read
    exact ⟨named, counted, defaulted⟩
  · rintro ⟨named, counted, defaulted⟩
    exact bind_eq_ok_iff.mpr ⟨_, named, bind_eq_ok_iff.mpr ⟨_, counted,
      bind_eq_ok_iff.mpr ⟨_, defaulted, rfl⟩⟩⟩

theorem Preamble.header_of_read (read : Preamble.read image = .ok preamble) :
    Header.read image = .ok preamble.header :=
  (Preamble.read_eq_ok_iff.mp read).1

namespace Story

/-- The story is what its sections were read as, but for the dictionary: the `plain` one that was
read has been given its reserved words afterwards. -/
structure Parts (image : Image) (preamble : Preamble) (plain : Dictionary) (story : Story) :
    Prop where
  arrays : Variables.readArrays image preamble.header.layout.arrays
    preamble.header.layout.specialWords = .ok story.arrays
  code : Code.read image preamble.header.layout.code preamble.header.layout.objects =
    .ok story.code
  dictionary : Dictionary.read image preamble.header.layout.dictionary
    preamble.counts.dictionaryWords.toNat = .ok plain
  events : Event.readTable image preamble.header.layout.events preamble.counts.events.toNat =
    .ok story.events
  globals : Variables.readGlobals image preamble.header.layout.arrays = .ok story.globals
  grammar : Grammar.read image = .ok story.grammar
  objects : Object.readTable image preamble.header.layout.objects preamble.counts.objects.toNat
    preamble.header.layout.properties preamble.defaults = .ok story.objects
  specialWords : SpecialWords.read image preamble.header.layout.specialWords
    preamble.counts.specialWords.toNat = .ok story.specialWords
  textBank : TextBank.read image preamble.header.layout.textBank (preamble.textBankEnd image) =
    .ok story.textBank
  assembled : story = { story with
    version := preamble.header.version
    id := preamble.header.id
    serial := preamble.header.serial
    ifids := Ifid.findAll (plain.words.values ++ story.textBank.texts.values)
    entryPoints := preamble.header.entryPoints
    counts := preamble.counts
    dictionary := plain.withReserved preamble.header.serial
    file := none }

variable {story : Story}

theorem Parts.dictionary_eq {plain : Dictionary} (parts : Parts image preamble plain story) :
    story.dictionary = plain.withReserved preamble.header.serial := by
  rw [parts.assembled]

theorem Parts.ifids_eq {plain : Dictionary} (parts : Parts image preamble plain story) :
    story.ifids = Ifid.findAll (plain.words.values ++ story.textBank.texts.values) := by
  rw [parts.assembled]

theorem readSections_eq_ok_iff :
    readSections image preamble = .ok story ↔
      ∃ dictionary, Parts image preamble dictionary story := by
  constructor
  · intro read
    obtain ⟨arrays, arrayed, read⟩ := bind_eq_ok_iff.mp read
    obtain ⟨code, coded, read⟩ := bind_eq_ok_iff.mp read
    obtain ⟨dictionary, worded, read⟩ := bind_eq_ok_iff.mp read
    obtain ⟨events, timed, read⟩ := bind_eq_ok_iff.mp read
    obtain ⟨globals, valued, read⟩ := bind_eq_ok_iff.mp read
    obtain ⟨grammar, parsed, read⟩ := bind_eq_ok_iff.mp read
    obtain ⟨objects, listed, read⟩ := bind_eq_ok_iff.mp read
    obtain ⟨specialWords, sorted, read⟩ := bind_eq_ok_iff.mp read
    obtain ⟨textBank, banked, read⟩ := bind_eq_ok_iff.mp read
    cases read
    exact ⟨dictionary, arrayed, coded, worded, timed, valued, parsed, listed, sorted, banked, rfl⟩
  · rintro ⟨dictionary, parts⟩
    unfold readSections
    simp only [parts.arrays, parts.code, parts.dictionary, parts.events, parts.globals,
      parts.grammar, parts.objects, parts.specialWords, parts.textBank]
    exact congrArg Except.ok parts.assembled.symm

/-- An accepted file has a preamble that was read, and the parts that come behind it. -/
theorem read_eq_ok_iff :
    Story.read image = .ok story ↔
      ∃ preamble dictionary, Preamble.read image = .ok preamble ∧
        Parts image preamble dictionary story := by
  unfold Story.read
  simp only [bind_eq_ok_iff, readSections_eq_ok_iff, exists_and_left]

end Story

end HugoStory
