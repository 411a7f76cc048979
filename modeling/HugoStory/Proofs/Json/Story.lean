import HugoStory.Proofs.Attribute
import HugoStory.Proofs.Json
import HugoStory.Story.Json
/-! Nothing is lost when a story becomes a document. Each part of a story is written so that no two
of its values make the same document, and so is the story. -/
namespace HugoStory

namespace Json

variable {α κ : Type}

@[simp]
theorem byte_eq_iff (byte byte' : UInt8) : Json.byte byte = Json.byte byte' ↔ byte = byte' := by
  unfold Json.byte
  rw [whole.injEq, Int.ofNat_inj, UInt8.toNat_inj]

@[simp]
theorem word_eq_iff (word word' : UInt16) : Json.word word = Json.word word' ↔ word = word' := by
  unfold Json.word
  rw [whole.injEq, Int.ofNat_inj, UInt16.toNat_inj]

@[simp]
theorem count_eq_iff (number number' : Nat) :
    Json.count number = Json.count number' ↔ number = number' := by
  unfold Json.count
  rw [whole.injEq, Int.ofNat_inj]

private theorem list_map_eq_iff {write : α → Json} (injective : ∀ a b, write a = write b ↔ a = b)
    (items items' : List α) : list (items.map write) = list (items'.map write) ↔ items = items' := by
  rw [list.injEq]
  exact List.map_inj_right fun a b => (injective a b).mp

@[simp]
theorem texts_eq_iff (contents contents' : List String) :
    texts contents = texts contents' ↔ contents = contents' :=
  list_map_eq_iff (fun a b => iff_of_eq (text.injEq a b)) contents contents'

private theorem toJson_map_eq_iff [ToString κ] {write : α → Json}
    (keys : ∀ a b : κ, toString a = toString b → a = b)
    (injective : ∀ a b, write a = write b ↔ a = b) (map map' : OrderedMap κ α) :
    map.toJson write = map'.toJson write ↔ map = map' := by
  obtain ⟨entries⟩ := map
  obtain ⟨entries'⟩ := map'
  unfold OrderedMap.toJson
  rw [object.injEq, OrderedMap.mk.injEq]
  refine List.map_inj_right ?_
  rintro ⟨key, value⟩ ⟨key', value'⟩ same
  obtain ⟨names, values⟩ := Prod.mk.inj same
  rw [keys _ _ names, (injective _ _).mp values]

end Json

open Json

@[simp]
theorem EntryPoints.toJson_eq_iff (points points' : EntryPoints) :
    points.toJson = points'.toJson ↔ points = points' := by
  cases points
  cases points'
  simp [EntryPoints.toJson]

@[simp]
theorem Counts.toJson_eq_iff (counts counts' : Counts) :
    counts.toJson = counts'.toJson ↔ counts = counts' := by
  cases counts
  cases counts'
  simp [Counts.toJson]

@[simp]
theorem PropertyValue.toJson_eq_iff (value value' : PropertyValue) :
    value.toJson = value'.toJson ↔ value = value' := by
  cases value <;> cases value' <;> simp [PropertyValue.toJson]

@[simp]
theorem Property.toJson_eq_iff (property property' : Property) :
    Property.toJson property = Property.toJson property' ↔ property = property' :=
  list_map_eq_iff PropertyValue.toJson_eq_iff property property'

@[simp]
theorem Object.attributeNames_eq_iff (object object' : Object) :
    object.attributeNames = object'.attributeNames ↔ object.attributes = object'.attributes :=
  List.map_inj_right fun _ _ => Attribute.name_inj

@[simp]
theorem Object.toJson_eq_iff (object object' : Object) :
    object.toJson = object'.toJson ↔ object = object' := by
  have properties := toJson_map_eq_iff (fun _ _ => toString_nat_inj) Property.toJson_eq_iff
    object.properties object'.properties
  simp only [Object.toJson, Json.object.injEq, List.cons.injEq, Prod.mk.injEq, texts_eq_iff,
    attributeNames_eq_iff, word_eq_iff, properties, true_and, and_true]
  cases object
  cases object'
  simp

private theorem Dictionary.toJson_eq_iff (dictionary dictionary' : Dictionary) :
    dictionary.toJson = dictionary'.toJson ↔ dictionary = dictionary' := by
  cases dictionary
  cases dictionary'
  rw [Dictionary.mk.injEq]
  exact toJson_map_eq_iff (fun _ _ => toString_int_inj) (fun a b => iff_of_eq (text.injEq a b)) _ _

private theorem TextBank.toJson_eq_iff (bank bank' : TextBank) :
    bank.toJson = bank'.toJson ↔ bank = bank' := by
  cases bank
  cases bank'
  rw [TextBank.mk.injEq]
  exact toJson_map_eq_iff (fun _ _ => toString_nat_inj) (fun a b => iff_of_eq (text.injEq a b)) _ _

private theorem Variables.arraysToJson_eq_iff (arrays arrays' : OrderedMap Nat (List UInt16)) :
    arraysToJson arrays = arraysToJson arrays' ↔ arrays = arrays' :=
  toJson_map_eq_iff (fun _ _ => toString_nat_inj) (list_map_eq_iff word_eq_iff) arrays arrays'

private theorem VerbKind.label_eq_iff (kind kind' : VerbKind) :
    kind.label = kind'.label ↔ kind = kind' := by
  cases kind <;> cases kind' <;> decide

@[simp]
theorem GrammarEntry.toJson_eq_iff (entry entry' : GrammarEntry) :
    entry.toJson = entry'.toJson ↔ entry = entry' := by
  cases entry
  cases entry'
  simp only [GrammarEntry.toJson, Json.object.injEq, List.cons.injEq, Prod.mk.injEq,
    Json.text.injEq, VerbKind.label_eq_iff, list_map_eq_iff word_eq_iff,
    list_map_eq_iff (list_map_eq_iff byte_eq_iff), true_and, and_true, GrammarEntry.mk.injEq]

@[simp]
theorem Event.toJson_eq_iff (event event' : Event) : event.toJson = event'.toJson ↔ event = event' := by
  cases event
  cases event'
  simp [Event.toJson]

@[simp]
theorem SpecialWord.toJson_eq_iff (word word' : SpecialWord) :
    word.toJson = word'.toJson ↔ word = word' := by
  cases word
  cases word'
  simp [SpecialWord.toJson]

private theorem SpecialWords.toJson_eq_iff (words words' : SpecialWords) :
    words.toJson = words'.toJson ↔ words = words' := by
  cases words
  cases words'
  simp [SpecialWords.toJson, WordCategory.all, SpecialWords.get,
    list_map_eq_iff SpecialWord.toJson_eq_iff]

@[simp]
theorem FileInfo.toJson_eq_iff (file file' : FileInfo) : file.toJson = file'.toJson ↔ file = file' := by
  cases file
  cases file'
  simp [FileInfo.toJson]

private theorem Version.tenths_eq_iff (version version' : Version) :
    Json.tenths version.tenths = Json.tenths version'.tenths ↔ version = version' := by
  cases version
  cases version'
  simp

private theorem FileInfo.members_eq_iff (file file' : Option FileInfo) :
    (file.toList.map fun file => ("file", file.toJson)) =
      (file'.toList.map fun file => ("file", file.toJson)) ↔ file = file' := by
  cases file <;> cases file' <;> simp

/-- No two stories make the same document. -/
theorem Story.toJson_inj {story story' : Story} (same : story.toJson = story'.toJson) :
    story = story' := by
  have globals := list_map_eq_iff (fun a b => iff_of_eq (Json.whole.injEq a b))
    story.globals story'.globals
  simp only [Story.toJson, Json.object.injEq, List.cons_append, List.nil_append, List.cons.injEq,
    Prod.mk.injEq, true_and, Version.tenths_eq_iff, word_eq_iff, Json.text.injEq, texts_eq_iff,
    EntryPoints.toJson_eq_iff, Counts.toJson_eq_iff, list_map_eq_iff byte_eq_iff,
    list_map_eq_iff Object.toJson_eq_iff, Dictionary.toJson_eq_iff, TextBank.toJson_eq_iff,
    list_map_eq_iff GrammarEntry.toJson_eq_iff, list_map_eq_iff Event.toJson_eq_iff,
    Variables.arraysToJson_eq_iff, globals, SpecialWords.toJson_eq_iff,
    FileInfo.members_eq_iff] at same
  obtain ⟨version, id, serial, ifids, entryPoints, counts, code, objects, dictionary, textBank,
    grammar, events, arrays, globals, specialWords, file⟩ := same
  cases story
  cases story'
  simp only at *
  subst_vars
  rfl

end HugoStory
