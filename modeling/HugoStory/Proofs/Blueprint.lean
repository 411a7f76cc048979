import HugoStory.Proofs.Blueprint.Tables
import HugoStory.Proofs.Grammar.Stored
import HugoStory.Proofs.Ifid.Gathered
import HugoStory.Proofs.Object.Stored
import HugoStory.Story
import Mathlib.Data.List.Forall2
/-! What a story file is written from, the file itself and the story it stands for. The header
is followed by the grammar and the code, then by the tables that it points to, each filled up
with zeros to whole blocks, then by the text bank and last by debugging data if there is any. -/
namespace HugoStory

structure Blueprint where
  id : UInt16
  serial : Vector UInt8 8
  entryPoints : Vector UInt16 8
  grammar : List GrammarEntry
  code : List UInt8
  defaults : List UInt16
  objects : List ObjectBlueprint
  events : List Event
  globals : Vector UInt16 240
  arrays : List (List UInt16)
  specialWords : List (WordCategory × SpecialWord)
  words : List (List UInt8)
  texts : List (List UInt8)
  debug : Option (List UInt8)

namespace Blueprint

def padding (size : Nat) : List UInt8 := List.replicate ((16 - size % 16) % 16) 0

def padded (bytes : List UInt8) : List UInt8 := bytes ++ padding bytes.length

def counted (count : Nat) (bytes : List UInt8) : List UInt8 :=
  Word.toBytes (UInt16.ofNat count) ++ bytes

private theorem dvd_length_padded (bytes : List UInt8) : 16 ∣ (padded bytes).length := by
  unfold padded padding
  rw [List.length_append, List.length_replicate]
  omega

variable (blueprint : Blueprint)

def grammarTable : List UInt8 := Grammar.store blueprint.grammar

def opening : List UInt8 := blueprint.grammarTable ++ blueprint.code

def streams : List (Nat × ObjectBlueprint) :=
  Record.placed (fun object => object.storeStream.length) (2 + 2 * blueprint.defaults.length)
    blueprint.objects

def objectTable : List UInt8 :=
  counted blueprint.objects.length
    (blueprint.streams.flatMap fun (stream, object) => object.store stream)

def propertyTable : List UInt8 :=
  counted blueprint.defaults.length (blueprint.defaults.flatMap Word.toBytes ++
    blueprint.objects.flatMap ObjectBlueprint.storeStream)

def eventTable : List UInt8 :=
  counted blueprint.events.length (blueprint.events.flatMap Event.store)

def dataArea : List UInt8 :=
  blueprint.globals.toList.flatMap Word.toBytes ++
    blueprint.arrays.flatMap Variables.storeArray

def specialWordTable : List UInt8 :=
  counted blueprint.specialWords.length
    (blueprint.specialWords.flatMap SpecialWords.storeRecord)

def wordTable : List UInt8 :=
  counted blueprint.words.length (blueprint.words.flatMap Dictionary.storeWord)

def textTable : List UInt8 := blueprint.texts.flatMap TextBank.storeText

def codeStart : Nat := 0x40 + blueprint.grammarTable.length

def objectsStart : Nat := 0x40 + (padded blueprint.opening).length

def propertiesStart : Nat := blueprint.objectsStart + (padded blueprint.objectTable).length

def eventsStart : Nat := blueprint.propertiesStart + (padded blueprint.propertyTable).length

def arraysStart : Nat := blueprint.eventsStart + (padded blueprint.eventTable).length

def specialWordsStart : Nat := blueprint.arraysStart + (padded blueprint.dataArea).length

def dictionaryStart : Nat :=
  blueprint.specialWordsStart + (padded blueprint.specialWordTable).length

def textBankStart : Nat := blueprint.dictionaryStart + (padded blueprint.wordTable).length

def debugStart : Nat := blueprint.textBankStart + blueprint.textTable.length

def tableStarts : List Nat :=
  [blueprint.objectsStart, blueprint.propertiesStart, blueprint.eventsStart,
    blueprint.arraysStart, blueprint.dictionaryStart, blueprint.specialWordsStart]

def layoutWords : List UInt16 :=
  UInt16.ofNat blueprint.codeStart ::
    blueprint.tableStarts.map fun start => UInt16.ofNat (start / 16)

def debugBytes : List UInt8 :=
  match blueprint.debug with
  | none => [0, 0, 0, 0]
  | some _ => [1, UInt8.ofNat blueprint.debugStart, UInt8.ofNat (blueprint.debugStart / 256),
      UInt8.ofNat (blueprint.debugStart / 65536)]

def header : List UInt8 :=
  31 :: (Word.toBytes blueprint.id ++
    (blueprint.serial.toList ++ (blueprint.layoutWords.flatMap Word.toBytes ++
      (blueprint.entryPoints.toList.flatMap Word.toBytes ++
        (Word.toBytes (UInt16.ofNat (blueprint.textBankStart / 16)) ++
          (List.replicate 15 0 ++ (blueprint.debugBytes ++ [0, 0])))))))

def bytes : List UInt8 :=
  blueprint.header ++ (padded blueprint.opening ++ (padded blueprint.objectTable ++
    (padded blueprint.propertyTable ++ (padded blueprint.eventTable ++
      (padded blueprint.dataArea ++ (padded blueprint.specialWordTable ++
        (padded blueprint.wordTable ++ (blueprint.textTable ++ blueprint.debug.getD []))))))))

def image : Image := ⟨blueprint.bytes.toArray⟩

@[mk_iff]
structure Fits : Prop where
  grammar : ∀ entry ∈ blueprint.grammar, Grammar.Storable entry
  overrides : ∀ object ∈ blueprint.objects, object.Storable
  arrays : ∀ array ∈ blueprint.arrays, array.length ≤ 65535
  words : ∀ word ∈ blueprint.words, word.length ≤ 255
  texts : ∀ text ∈ blueprint.texts, text.length ≤ 65535
  defaultCount : blueprint.defaults.length ≤ 65535
  objectCount : blueprint.objects.length ≤ 65535
  eventCount : blueprint.events.length ≤ 65535
  specialWordCount : blueprint.specialWords.length ≤ 65535
  wordCount : blueprint.words.length ≤ 65535
  codeStart : blueprint.codeStart ≤ 65535
  blocks : blueprint.textBankStart / 16 ≤ 65535
  streams : ∀ entry ∈ blueprint.streams, entry.1 ≤ 65535
  debugStart : blueprint.debug.isSome → blueprint.debugStart < 0x1000000

instance : DecidablePred Fits := fun blueprint => decidable_of_iff _ (fits_iff blueprint).symm

def serialText : String :=
  String.ofList (blueprint.serial.toList.map fun byte => Char.ofNat byte.toNat)

def entryPoint (index : Fin 8) : Nat := 16 * blueprint.entryPoints[index].toNat

def points : EntryPoints where
  code := blueprint.codeStart
  init := blueprint.entryPoint 0
  main := blueprint.entryPoint 1
  parse := blueprint.entryPoint 2
  parseError := blueprint.entryPoint 3
  findObject := blueprint.entryPoint 4
  endGame := blueprint.entryPoint 5
  speakTo := blueprint.entryPoint 6
  perform := blueprint.entryPoint 7

def counts : Counts where
  objects := UInt16.ofNat blueprint.objects.length
  events := UInt16.ofNat blueprint.events.length
  dictionaryWords := UInt16.ofNat blueprint.words.length
  specialWords := UInt16.ofNat blueprint.specialWords.length
  properties := UInt16.ofNat blueprint.defaults.length

/-- The zeros behind the arrays read as arrays too, each word of them as an empty one. -/
def emptyArrays : List (List UInt16) :=
  List.replicate ((padding blueprint.dataArea.length).length / 2) []

def defaultProperties : List Property :=
  blueprint.defaults.map fun word => [.value word.toInt16.toInt]

/-- What a story has to be like to be the one that is written. -/
structure Describes (story : Story) : Prop where
  version : story.version = ⟨31⟩
  id : story.id = blueprint.id
  serial : story.serial = blueprint.serialText
  ifids : Ifid.Gathered ((blueprint.words ++ blueprint.texts).map Charset.plainText) story.ifids
  entryPoints : story.entryPoints = blueprint.points
  counts : story.counts = blueprint.counts
  code : Code.PaddedTo blueprint.code story.code
  objects : List.Forall₂ (Object.Described blueprint.defaultProperties) blueprint.objects story.objects
  dictionary : story.dictionary =
    ⟨⟨(-16, "") :: (-15, blueprint.serialText) :: Dictionary.entries blueprint.words⟩⟩
  textBank : story.textBank = ⟨⟨TextBank.entries blueprint.texts⟩⟩
  grammar : story.grammar = blueprint.grammar
  events : story.events = blueprint.events
  arrays : story.arrays = ⟨Variables.entries (blueprint.arrays ++ blueprint.emptyArrays)⟩
  globals : story.globals = blueprint.globals.toList.map fun word => word.toInt16.toInt
  specialWords : story.specialWords = SpecialWords.sortedApart blueprint.specialWords
  file : story.file = none

variable {blueprint}

theorem Describes.unique {story other : Story} (first : blueprint.Describes story)
    (second : blueprint.Describes other) : story = other := by
  have ifids : story.ifids = other.ifids :=
    (Ifid.gathered_iff.mp first.ifids).trans (Ifid.gathered_iff.mp second.ifids).symm
  have single : Relator.RightUnique (Object.Described blueprint.defaultProperties) :=
    fun _ _ _ => Object.Described.unique
  have objects : story.objects = other.objects := single.forall₂ first.objects second.objects
  cases story
  cases other
  rw [Story.mk.injEq]
  exact ⟨first.version.trans second.version.symm, first.id.trans second.id.symm,
    first.serial.trans second.serial.symm, ifids, first.entryPoints.trans second.entryPoints.symm,
    first.counts.trans second.counts.symm, first.code.unique second.code, objects,
    first.dictionary.trans second.dictionary.symm, first.textBank.trans second.textBank.symm,
    first.grammar.trans second.grammar.symm, first.events.trans second.events.symm,
    first.arrays.trans second.arrays.symm, first.globals.trans second.globals.symm,
    first.specialWords.trans second.specialWords.symm, first.file.trans second.file.symm⟩

/-- Where everything lies in an image that is laid out after a blueprint. -/
structure Laid (blueprint : Blueprint) (image : Image) : Prop where
  header : image.Holds 0 blueprint.header
  opening : image.Holds 0x40 (padded blueprint.opening)
  objects : image.Holds blueprint.objectsStart (padded blueprint.objectTable)
  properties : image.Holds blueprint.propertiesStart (padded blueprint.propertyTable)
  events : image.Holds blueprint.eventsStart (padded blueprint.eventTable)
  arrays : image.Holds blueprint.arraysStart (padded blueprint.dataArea)
  specialWords : image.Holds blueprint.specialWordsStart (padded blueprint.specialWordTable)
  dictionary : image.Holds blueprint.dictionaryStart (padded blueprint.wordTable)
  textBank : image.Holds blueprint.textBankStart blueprint.textTable
  size : image.size = blueprint.debugStart + (blueprint.debug.getD []).length

private theorem length_debugBytes : blueprint.debugBytes.length = 4 := by
  unfold debugBytes
  split <;> rfl

private theorem length_header : blueprint.header.length = 0x40 := by
  unfold header
  simp only [List.length_cons, List.length_append, Vector.length_toList, Word.length_toBytes,
    Word.length_flatMap_toBytes, List.length_replicate, length_debugBytes]
  rfl

theorem laid (blueprint : Blueprint) : blueprint.Laid blueprint.image := by
  have whole : blueprint.image.Holds 0 blueprint.bytes := .whole _
  unfold bytes at whole
  have opening := whole.right
  rw [length_header, Nat.zero_add] at opening
  have objects := opening.right
  have properties := objects.right
  have events := properties.right
  have arrays := events.right
  have specialWords := arrays.right
  have dictionary := specialWords.right
  have textBank := dictionary.right
  refine ⟨whole.left, opening.left, objects.left, properties.left, events.left, arrays.left,
    specialWords.left, dictionary.left, textBank.left, ?_⟩
  unfold Image.size image bytes
  simp only [List.size_toArray, List.length_append, length_header]
  unfold debugStart textBankStart dictionaryStart specialWordsStart arraysStart eventsStart
    propertiesStart objectsStart
  omega

theorem aligned (blueprint : Blueprint) :
    16 ∣ blueprint.textBankStart ∧
      ∀ start ∈ blueprint.tableStarts, 16 ∣ start ∧ start ≤ blueprint.textBankStart := by
  have opening := dvd_length_padded blueprint.opening
  have objects := dvd_length_padded blueprint.objectTable
  have properties := dvd_length_padded blueprint.propertyTable
  have events := dvd_length_padded blueprint.eventTable
  have arrays := dvd_length_padded blueprint.dataArea
  have specialWords := dvd_length_padded blueprint.specialWordTable
  have dictionary := dvd_length_padded blueprint.wordTable
  unfold tableStarts textBankStart dictionaryStart specialWordsStart arraysStart eventsStart
    propertiesStart objectsStart
  simp only [List.forall_mem_cons]
  refine ⟨?_, ?_, ?_, ?_, ?_, ?_, ?_, by simp⟩ <;> omega

end Blueprint

end HugoStory
