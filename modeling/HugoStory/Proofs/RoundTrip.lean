import HugoStory.Proofs.Blueprint.Header
/-! Reading undoes writing. Each section of a file that is laid out after a blueprint is read
back from where it lies, and all of them together make up the story of the blueprint. -/
namespace HugoStory
open Outcome

theorem Record.holds_of_mem_placed {α : Type} {store : α → List UInt8} {image : Image}
    {origin start : Nat} {items : List α} (held : image.Holds (origin + start) (items.flatMap store))
    {place : Nat} {item : α}
    (member : (place, item) ∈ placed (fun item => (store item).length) start items) :
    image.Holds (origin + place) (store item) := by
  induction items generalizing start with
  | nil => cases member
  | cons first rest ih =>
    rw [List.flatMap_cons] at held
    rcases List.mem_cons.mp member with same | later
    · cases same
      exact held.left
    · have behind := held.right
      rw [Nat.add_assoc] at behind
      exact ih behind later

namespace Blueprint

variable {blueprint : Blueprint} {image : Image}

section Counted

variable {start count : Nat} {bytes : List UInt8}

private theorem count_of_holds {region : Region}
    (held : image.Holds start (padded (counted count bytes))) :
    image.wordAt region start = .ok (UInt16.ofNat count) :=
  held.left.left.wordAt

theorem contents_of_holds (held : image.Holds start (padded (counted count bytes))) :
    image.Holds (start + 2) bytes :=
  held.left.right

end Counted

def preamble (blueprint : Blueprint) : Preamble where
  header := {
    version := Version.supported
    id := blueprint.id
    serial := blueprint.serialText
    layout := blueprint.layout
    entryPoints := blueprint.points
    debugStart := blueprint.debug.map fun _ => blueprint.debugStart }
  counts := blueprint.counts
  defaults := blueprint.defaultProperties

private theorem padding_eq_emptyArrays {size : Nat} (even : 2 ∣ size) :
    padding size =
      (List.replicate ((padding size).length / 2) []).flatMap Variables.storeArray := by
  have empty : Variables.storeArray [] = List.replicate 2 0 := rfl
  rw [List.flatMap_replicate, empty, List.flatten_replicate_replicate]
  unfold padding
  rw [List.length_replicate]
  congr 1
  omega

private theorem dvd_length_dataArea (blueprint : Blueprint) : 2 ∣ blueprint.dataArea.length := by
  unfold dataArea
  rw [List.length_append, Word.length_flatMap_toBytes]
  have even : 2 ∣ (blueprint.arrays.flatMap Variables.storeArray).length := by
    induction blueprint.arrays with
    | nil => exact Nat.dvd_zero 2
    | cons array rest ih =>
      rw [List.flatMap_cons, List.length_append, Variables.width_storeArray]
      omega
  omega

private theorem padded_dataArea (blueprint : Blueprint) :
    padded blueprint.dataArea = blueprint.globals.toList.flatMap Word.toBytes ++
      (blueprint.arrays ++ blueprint.emptyArrays).flatMap Variables.storeArray := by
  unfold padded
  rw [padding_eq_emptyArrays blueprint.dvd_length_dataArea, List.flatMap_append, ← List.append_assoc]
  rfl

private theorem length_defaultProperties (fits : blueprint.Fits) :
    blueprint.defaultProperties.length ≤ Object.numberLimit := by
  have count := fits.defaultCount
  unfold defaultProperties Object.numberLimit
  rw [List.length_map]
  omega

private theorem values_eq (blueprint : Blueprint) :
    (OrderedMap.mk (Dictionary.entries blueprint.words)).values ++
        (OrderedMap.mk (TextBank.entries blueprint.texts)).values =
      (blueprint.words ++ blueprint.texts).map Charset.plainText := by
  have words := Dictionary.map_snd_entries blueprint.words
  have texts := TextBank.map_snd_entries blueprint.texts
  rw [List.map_append, ← words, ← texts]
  rfl

namespace Laid

variable (laid : blueprint.Laid image)
include laid

private theorem readCounts : Counts.read image blueprint.layout = .ok blueprint.counts :=
  bind_eq_ok_iff.mpr ⟨_, count_of_holds laid.objects, bind_eq_ok_iff.mpr
    ⟨_, count_of_holds laid.events, bind_eq_ok_iff.mpr ⟨_, count_of_holds laid.dictionary,
      bind_eq_ok_iff.mpr ⟨_, count_of_holds laid.specialWords, bind_eq_ok_iff.mpr
        ⟨_, count_of_holds laid.properties, rfl⟩⟩⟩⟩⟩

theorem readPreamble (fits : blueprint.Fits) : Preamble.read image = .ok blueprint.preamble := by
  have defaults := Property.readDefaults_of_holds (contents_of_holds laid.properties).left
  rw [← Word.toNat_count fits.defaultCount] at defaults
  exact bind_eq_ok_iff.mpr ⟨_, laid.headerLaid.read fits, bind_eq_ok_iff.mpr
    ⟨_, laid.readCounts, bind_eq_ok_iff.mpr ⟨_, defaults, rfl⟩⟩⟩

private theorem textBankEnd : blueprint.preamble.textBankEnd image = blueprint.debugStart := by
  have size := laid.size
  unfold Preamble.textBankEnd preamble
  cases present : blueprint.debug with
  | none =>
    rw [present] at size
    exact size
  | some data =>
    have positive : 0 < blueprint.debugStart := by
      unfold debugStart textBankStart dictionaryStart specialWordsStart arraysStart eventsStart
        propertiesStart objectsStart
      omega
    exact if_pos positive

private theorem readArrays (fits : blueprint.Fits) :
    Variables.readArrays image blueprint.arraysStart blueprint.specialWordsStart =
      .ok ⟨Variables.entries (blueprint.arrays ++ blueprint.emptyArrays)⟩ := by
  have held := laid.arrays
  have ends : blueprint.specialWordsStart = blueprint.arraysStart + (padded blueprint.dataArea).length :=
    rfl
  rw [padded_dataArea] at held ends
  have arrays := held.right
  rw [List.length_append] at ends
  rw [Word.length_flatMap_toBytes, Vector.length_toList] at arrays ends
  refine Variables.readArrays_of_holds ?_ arrays (by unfold Variables.globalCount; omega)
  intro array member
  -- The zeros in front of the next table are read as well.
  rcases List.mem_append.mp member with own | empty
  · exact fits.arrays array own
  · rw [(List.mem_replicate.mp empty).2]
    exact Nat.zero_le _

theorem readGlobals :
    Variables.readGlobals image blueprint.arraysStart =
      .ok (blueprint.globals.toList.map fun word => word.toInt16.toInt) :=
  Variables.readGlobals_of_holds Vector.length_toList laid.arrays.left.left

private theorem readCode :
    ∃ code, Code.read image blueprint.codeStart blueprint.objectsStart = .ok code ∧
      Code.PaddedTo blueprint.code code := by
  have held := laid.opening
  have ends : blueprint.objectsStart = 0x40 + (padded blueprint.opening).length := rfl
  unfold padded Blueprint.opening at held ends
  rw [List.append_assoc] at held ends
  rw [List.length_append, ← Nat.add_assoc] at ends
  obtain ⟨code, read, padded⟩ := Code.exists_read (held.right.slice ends)
  exact ⟨code, read, Code.paddedTo_append_zeros_iff.mp padded⟩

private theorem readDictionary (fits : blueprint.Fits) :
    Dictionary.read image blueprint.dictionaryStart blueprint.counts.dictionaryWords.toNat =
      .ok ⟨⟨Dictionary.entries blueprint.words⟩⟩ := by
  have count : blueprint.counts.dictionaryWords.toNat = _ := Word.toNat_count fits.wordCount
  rw [count]
  exact Dictionary.read_of_holds fits.words (contents_of_holds laid.dictionary)

private theorem readEvents (fits : blueprint.Fits) :
    Event.readTable image blueprint.eventsStart blueprint.counts.events.toNat =
      .ok blueprint.events := by
  have count : blueprint.counts.events.toNat = _ := Word.toNat_count fits.eventCount
  rw [count]
  exact Event.readTable_of_holds (contents_of_holds laid.events)

private theorem readGrammar (fits : blueprint.Fits) : Grammar.read image = .ok blueprint.grammar :=
  Grammar.readTable_of_holds fits.grammar laid.opening.left.left

private theorem readObjects (fits : blueprint.Fits) :
    ∃ objects, Object.readTable image blueprint.objectsStart blueprint.counts.objects.toNat
        blueprint.propertiesStart blueprint.defaultProperties = .ok objects ∧
      List.Forall₂ (Object.Described blueprint.defaultProperties) blueprint.objects objects := by
  have count : blueprint.counts.objects.toNat = _ := Word.toNat_count fits.objectCount
  have listed : blueprint.streams.map Prod.snd = blueprint.objects := Record.map_snd_placed _ _ _
  have length : blueprint.streams.length = blueprint.objects.length := by
    rw [← listed, List.length_map]
  -- A stream is found by its distance from the property table, wherever that lies.
  have streams := (contents_of_holds laid.properties).right
  rw [Word.length_flatMap_toBytes, Nat.add_assoc] at streams
  let inherited := Object.numbered blueprint.defaultProperties
  have each (place : Nat) (entry : Nat × ObjectBlueprint) (member : entry ∈ blueprint.streams)
      (here : image.Holds place (entry.2.store entry.1)) :=
    ObjectBlueprint.readRecord_of_holds inherited
      (fits.overrides entry.2 (listed ▸ List.mem_map_of_mem member))
      (fits.streams entry member) here
      (Record.holds_of_mem_placed streams member)
  have done := Record.readCount_of_holds _
    (fun entry : Nat × ObjectBlueprint => entry.2.store entry.1)
    (fun entry => entry.2.inheriting inherited) (contents_of_holds laid.objects) each
  refine ⟨blueprint.objects.map (ObjectBlueprint.inheriting inherited), ?_, ?_⟩
  · unfold Object.readTable
    rw [count, ← length]
    refine bind_eq_ok_iff.mpr ⟨_, done, congrArg Except.ok ?_⟩
    rw [Record.map_snd_map_placed, ← listed, List.map_map]
    rfl
  · rw [List.forall₂_map_right_iff, List.forall₂_same]
    exact fun object _ => Object.described_inheriting (length_defaultProperties fits) object

private theorem readSpecialWords (fits : blueprint.Fits) :
    SpecialWords.read image blueprint.specialWordsStart blueprint.counts.specialWords.toNat =
      .ok (SpecialWords.sortedApart blueprint.specialWords) := by
  have count : blueprint.counts.specialWords.toNat = _ := Word.toNat_count fits.specialWordCount
  rw [count]
  exact SpecialWords.read_of_holds (contents_of_holds laid.specialWords)

private theorem readTextBank (fits : blueprint.Fits) :
    TextBank.read image blueprint.textBankStart blueprint.debugStart =
      .ok ⟨⟨TextBank.entries blueprint.texts⟩⟩ :=
  TextBank.read_of_holds fits.texts laid.textBank

theorem read (fits : blueprint.Fits) :
    ∃ story, Story.read image = .ok story ∧ blueprint.Describes story := by
  have textBank := laid.readTextBank fits
  rw [← laid.textBankEnd] at textBank
  obtain ⟨code, coded, padded⟩ := laid.readCode
  obtain ⟨objects, listed, described⟩ := laid.readObjects fits
  refine ⟨_, bind_eq_ok_iff.mpr ⟨_, laid.readPreamble fits, bind_eq_ok_iff.mpr
    ⟨_, laid.readArrays fits, bind_eq_ok_iff.mpr ⟨_, coded, bind_eq_ok_iff.mpr
      ⟨_, laid.readDictionary fits, bind_eq_ok_iff.mpr ⟨_, laid.readEvents fits, bind_eq_ok_iff.mpr
        ⟨_, laid.readGlobals, bind_eq_ok_iff.mpr ⟨_, laid.readGrammar fits, bind_eq_ok_iff.mpr
          ⟨_, listed, bind_eq_ok_iff.mpr ⟨_, laid.readSpecialWords fits, bind_eq_ok_iff.mpr
            ⟨_, textBank, rfl⟩⟩⟩⟩⟩⟩⟩⟩⟩⟩, ?_⟩
  constructor
  case ifids =>
    rw [Ifid.gathered_iff, ← values_eq]
  case dictionary => exact Dictionary.withReserved_entries _ _
  case code => exact padded
  case objects => exact described
  all_goals rfl

end Laid

def miniature : Blueprint where
  id := 0x1234
  serial := #v[48, 49, 45, 48, 50, 45, 48, 51]
  entryPoints := #v[4, 5, 6, 7, 8, 9, 10, 65535]
  grammar := [
    { kind := .verb, verbs := [0, 5], lines := [[0x51], []] },
    { kind := .xverb, verbs := [], lines := [[0x08, 0xff, 0x2c]] }]
  code := [0x62, 0, 7, 0]
  defaults := [0, 0xffff, 300]
  objects := [
    { attributes := #v[1, 0, 0, 0, 0, 0, 0, 0, 0, 0, 0, 0, 0, 0, 0, 128]
      parent := 0, sibling := 0, child := 1, overrides := [] },
    { attributes := #v[0, 0, 0, 0, 0, 0, 0, 0, 0, 0, 0, 0, 0, 0, 0, 0]
      parent := 0, sibling := 0, child := 0
      overrides := [.words 0 [5, 0xffff], .zeroFirst 0, .routine 254 0x40, .zeroFirst 1] }]
  events := [{ object := 1, address := 0x20 }]
  globals := (Vector.replicate 240 0).set 3 0xfffe
  arrays := [[1, 2, 3], []]
  specialWords := [(.punctuation, { first := 5, second := 0 }), (.synonyms, { first := 0, second := 5 })]
  words := [[108, 97, 109, 112], [103, 101, 116, 250]]
  texts := [[89, 101, 115, 46], []]
  debug := some [1, 2, 3]

theorem miniature_fits : miniature.Fits := by decide +kernel

/-- The four empty arrays are the zeros in front of the special words. -/
def miniatureStory : Story where
  version := ⟨31⟩
  id := 0x1234
  serial := "01-02-03"
  ifids := []
  entryPoints := {
    code := 83, init := 64, main := 80, parse := 96, parseError := 112, findObject := 128,
    endGame := 144, speakTo := 160, perform := 1048560 }
  counts := { objects := 2, events := 1, dictionaryWords := 2, specialWords := 2, properties := 3 }
  code := [0x62, 0, 7]
  objects := [
    { attributes := [0, 127], parent := 0, sibling := 0, child := 1
      properties := ⟨[(0, [.value 0]), (1, [.value (-1)]), (2, [.value 300])]⟩ },
    { attributes := [], parent := 0, sibling := 0, child := 0
      properties := ⟨[(0, [.value 0, .value 65535]), (1, [.value 0]), (2, [.value 300]),
        (254, [.routine 0x40])]⟩ }]
  dictionary := ⟨⟨[(-16, ""), (-15, "01-02-03"), (0, "lamp"), (5, "get\ufffa")]⟩⟩
  textBank := ⟨⟨[(0, "Yes."), (6, "")]⟩⟩
  grammar := [
    { kind := .verb, verbs := [0, 5], lines := [[0x51], []] },
    { kind := .xverb, verbs := [], lines := [[0x08, 0xff, 0x2c]] }]
  events := [{ object := 1, address := 0x20 }]
  arrays := ⟨[(240, [1, 2, 3]), (244, []), (245, []), (246, []), (247, [])]⟩
  globals := [0, 0, 0, -2] ++ List.replicate 236 0
  specialWords := {
    synonyms := [{ first := 0, second := 5 }], removals := [], compounds := []
    punctuation := [{ first := 5, second := 0 }] }
  file := none

theorem describes_miniatureStory : miniature.Describes miniatureStory := by
  constructor
  case ifids =>
    rw [Ifid.gathered_iff]
    decide +kernel
  case code => exact ⟨⟨1, rfl⟩, by decide⟩
  case objects =>
    have inherited : miniatureStory.objects = miniature.objects.map
        (ObjectBlueprint.inheriting (Object.numbered miniature.defaultProperties)) := by
      decide +kernel
    rw [inherited, List.forall₂_map_right_iff, List.forall₂_same]
    exact fun object _ => Object.described_inheriting (length_defaultProperties miniature_fits) object
  all_goals decide +kernel

theorem read_miniature : Story.read miniature.image = .ok miniatureStory := by
  obtain ⟨story, read, describes⟩ := miniature.laid.read miniature_fits
  rwa [describes.unique describes_miniatureStory] at read

/-- Reading undoes writing: a file laid out after a blueprint is accepted, as long as everything in
it fits where it is stored, and the story that is read is the one that the blueprint describes. -/
theorem read_image (fits : blueprint.Fits) :
    ∃ story, Story.read blueprint.image = .ok story ∧
      ∀ other, blueprint.Describes other ↔ other = story := by
  obtain ⟨story, read, describes⟩ := blueprint.laid.read fits
  refine ⟨story, read, fun other => ⟨fun same => same.unique describes, ?_⟩⟩
  rintro rfl
  exact describes

theorem read_image_miniature :
    miniature.Fits ∧ miniature.Describes miniatureStory ∧
      Story.read miniature.image = .ok miniatureStory := by
  obtain ⟨story, read, only⟩ := read_image miniature_fits
  obtain rfl := (only miniatureStory).mp describes_miniatureStory
  exact ⟨miniature_fits, describes_miniatureStory, read⟩

end Blueprint

end HugoStory
