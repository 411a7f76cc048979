import HugoStory.Proofs.Consistent
import HugoStory.Proofs.Json.Story
import HugoStory.Proofs.Parts
/-! The text that a story is printed as. It is the text of no other story, and whatever is keyed by
numbers stands in it in the order of the numbers, so that the reserved words come first. -/
namespace HugoStory

namespace Json

def member? : Json → String → Option Json
  | object members, name => members.lookup name
  | _, _ => none

def names : Json → List String
  | object members => members.map Prod.fst
  | _ => []

/-- The members are named by numbers, the lesser ones first. -/
def Ascending (document : Json) : Prop :=
  ∃ numbers : List Int, numbers.Pairwise (· < ·) ∧ document.names = numbers.map toString

structure Ordered (document : Json) : Prop where
  dictionary : ∃ words, document.member? "dictionary" = some words ∧ words.Ascending ∧
    ["-16", "-15"] <+: words.names
  textBank : ∃ texts, document.member? "textbank" = some texts ∧ texts.Ascending
  arrays : ∃ arrays, document.member? "arrays" = some arrays ∧ arrays.Ascending
  properties : ∃ objects, document.member? "objects" = some (list objects) ∧
    ∀ object ∈ objects, ∃ properties,
      object.member? "properties" = some properties ∧ properties.Ascending

private theorem names_toJson {κ α : Type} [ToString κ] (map : OrderedMap κ α) (write : α → Json) :
    (map.toJson write).names = map.keys.map toString := by
  unfold OrderedMap.toJson OrderedMap.keys
  rw [names, List.map_map, List.map_map]
  rfl

private theorem ascending_toJson_int {α : Type} {map : OrderedMap Int α} (ascending : map.Ascending)
    (write : α → Json) : (map.toJson write).Ascending :=
  ⟨map.keys, ascending, names_toJson map write⟩

private theorem ascending_toJson_nat {α : Type} {map : OrderedMap Nat α} (ascending : map.Ascending)
    (write : α → Json) : (map.toJson write).Ascending := by
  refine ⟨map.keys.map Int.ofNat, ?_, ?_⟩
  · rw [List.pairwise_map]
    exact ascending.imp Int.ofNat_lt.mpr
  · rw [names_toJson, List.map_map]
    rfl

end Json

namespace Story

variable {image : Image} {story : Story}

/-- The story was read from the file, and what is known of the file may have been added. -/
def LoadedFrom (image : Image) (story : Story) : Prop :=
  Story.read image = .ok story ∨
    ∃ plain file, Story.read image = .ok plain ∧ story = { plain with file := some file }

private theorem ordered_file {file : Option FileInfo} (ordered : story.toJson.Ordered) :
    ({ story with file } : Story).toJson.Ordered :=
  ⟨ordered.dictionary, ordered.textBank, ordered.arrays, ordered.properties⟩

theorem ordered_of_read (accepted : Story.read image = .ok story) : story.toJson.Ordered := by
  obtain ⟨preamble, plain, known, parts⟩ := read_eq_ok_iff.mp accepted
  obtain ⟨size, ascending, positive⟩ := Dictionary.keys_of_read parts.dictionary
  have reserved := Dictionary.consistent_withReserved size ascending positive
    preamble.header.serial
  rw [← parts.dictionary_eq] at reserved
  have defaulted := (Preamble.read_eq_ok_iff.mp known).2.2
  obtain ⟨length, defaults⟩ := Property.defaults_of_readDefaults defaulted
  have short : preamble.defaults.length ≤ Object.numberLimit := by
    have bound := preamble.counts.properties.toNat_lt
    unfold Object.numberLimit
    omega
  obtain ⟨-, inherits⟩ := Object.inherits_of_readTable defaults short parts.objects
  constructor
  · refine ⟨_, rfl, Json.ascending_toJson_int reserved.ascending _, ?_⟩
    unfold Dictionary.toJson
    rw [Json.names_toJson, parts.dictionary_eq]
    unfold OrderedMap.keys
    rw [Dictionary.withReserved_of_nonneg positive]
    exact ⟨_, rfl⟩
  · exact ⟨_, rfl, Json.ascending_toJson_nat (TextBank.ascending_of_read parts.textBank).1 _⟩
  · exact ⟨_, rfl, Json.ascending_toJson_nat (Variables.ascending_of_readArrays parts.arrays).1 _⟩
  · refine ⟨_, rfl, ?_⟩
    intro document member
    obtain ⟨object, inside, rfl⟩ := List.mem_map.mp member
    exact ⟨_, rfl, Json.ascending_toJson_nat (inherits object inside).ascending _⟩

/-- The text that a story is printed as is the text of no other story, and the document that has
this text is in order. -/
theorem pretty_of_loaded (loaded : story.LoadedFrom image) :
    (∀ other : Story, other.toJson.pretty = story.toJson.pretty → other = story) ∧
      ∀ document : Json, document.pretty = story.toJson.pretty → document.Ordered := by
  have ordered : story.toJson.Ordered := by
    rcases loaded with accepted | ⟨plain, file, accepted, rfl⟩
    · exact ordered_of_read accepted
    · exact ordered_file (ordered_of_read accepted)
  refine ⟨fun other same => toJson_inj (Json.pretty_inj same), fun document same => ?_⟩
  rw [Json.pretty_inj same]
  exact ordered

/-- A small story tells by its text whether its file is known. -/
theorem pretty_of_loaded_miniature :
    let story := Blueprint.miniatureStory
    let named : Story := { story with file := some { name := "small.hex", size := 747 } }
    named.LoadedFrom Blueprint.miniature.image ∧ story.toJson.pretty ≠ named.toJson.pretty ∧
      named.toJson.Ordered := by
  intro story named
  have loaded : named.LoadedFrom Blueprint.miniature.image :=
    .inr ⟨_, _, Blueprint.read_miniature, rfl⟩
  obtain ⟨unique, ordered⟩ := pretty_of_loaded loaded
  refine ⟨loaded, fun same => ?_, ordered _ rfl⟩
  have file := congrArg Story.file (unique story same)
  cases file

end Story

end HugoStory
