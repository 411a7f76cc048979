import HugoStory.Proofs.Consistent
import HugoStory.Proofs.Parts
/-! The identifiers of a story. They are gathered from the words and texts before the dictionary is
given its reserved words, and are the same if they are gathered again from the finished story: what
is added is too short to hold an identifier. -/
namespace HugoStory

namespace Ifid

variable {text id : String} {texts : List String}

private theorem find_eq_none_of_lt (short : text.length < length) : find text = none := by
  rw [find_eq_none_iff]
  intro before window after same identifier
  have size := length_of_identifier identifier
  rw [← String.length_toList, same, List.length_append, List.length_append] at short
  omega

/-- Neither reserved word has room for an identifier. -/
private theorem findAll_withReserved {dictionary : Dictionary}
    (nonneg : ∀ address ∈ dictionary.words.keys, 0 ≤ address) {serial : String}
    (short : serial.length < length) (texts : List String) :
    findAll ((dictionary.withReserved serial).words.values ++ texts) =
      findAll (dictionary.words.values ++ texts) := by
  have parsed : find "" = none := find_eq_none_of_lt (by decide)
  unfold findAll OrderedMap.values
  rw [Dictionary.withReserved_of_nonneg nonneg, List.map_cons, List.map_cons, List.cons_append,
    List.cons_append, List.filterMap_cons_none parsed,
    List.filterMap_cons_none (find_eq_none_of_lt short)]

end Ifid

namespace Story

variable {image : Image} {story : Story}

def strings (story : Story) : List String :=
  story.dictionary.words.values ++ story.textBank.texts.values

/-- The identifiers of the story are the first ones of its strings, taken in order. None is listed
that does not stand in a string, and no string that holds one is passed over. -/
structure Identified (story : Story) : Prop where
  words : story.dictionary.words.Ascending
  texts : story.textBank.texts.Ascending
  ifids : story.ifids = Ifid.findAll story.strings
  inside : ∀ id ∈ story.ifids, ∃ text ∈ story.strings, id.toList <:+: text.toList
  first : ∀ text ∈ story.strings, ∀ window, window <:+: text.toList → Ifid.Identifier window →
    ∃ id ∈ story.ifids, Ifid.FirstIn text.toList id.toList

private theorem identified_of_ifids (words : story.dictionary.words.Ascending)
    (texts : story.textBank.texts.Ascending) (ifids : story.ifids = Ifid.findAll story.strings) :
    story.Identified where
  words := words
  texts := texts
  ifids := ifids
  inside id member := by
    rw [ifids] at member
    obtain ⟨text, member, first⟩ := Ifid.mem_findAll_iff.mp member
    exact ⟨text, member, first.isInfix⟩
  first text member window inside identifier := by
    obtain ⟨id, first⟩ := Ifid.exists_firstIn_of_isInfix inside identifier
    rw [← String.toList_ofList (l := id)] at first
    refine ⟨_, ?_, first⟩
    rw [ifids]
    exact Ifid.mem_findAll_iff.mpr ⟨text, member, first⟩

/-- The identifiers of a story hang on its words and texts alone. They were gathered from the
dictionary as it was read, and would be the same with any serial number put into it. -/
theorem ifids_of_accepted (accepted : Story.read image = .ok story) :
    story.Identified ∧
      ∃ preamble plain, Preamble.read image = .ok preamble ∧ Parts image preamble plain story ∧
        ∀ serial : String, serial.length = Header.serialLength →
          Ifid.findAll ((plain.withReserved serial).words.values ++ story.textBank.texts.values) =
            Ifid.findAll (plain.words.values ++ story.textBank.texts.values) := by
  obtain ⟨preamble, plain, known, parts⟩ := read_eq_ok_iff.mp accepted
  obtain ⟨-, -, serialled, -⟩ := Header.read_eq_ok_iff.mp (Preamble.header_of_read known)
  obtain ⟨size, ascending, positive⟩ := Dictionary.keys_of_read parts.dictionary
  have same (serial : String) (length : serial.length = Header.serialLength) :
      Ifid.findAll ((plain.withReserved serial).words.values ++ story.textBank.texts.values) =
        Ifid.findAll (plain.words.values ++ story.textBank.texts.values) := by
    have short : serial.length < Ifid.length := by
      rw [length]
      decide
    exact Ifid.findAll_withReserved positive short _
  refine ⟨identified_of_ifids ?_ (TextBank.ascending_of_read parts.textBank).1 ?_,
    preamble, plain, known, parts, same⟩
  · rw [parts.dictionary_eq]
    exact (Dictionary.consistent_withReserved size ascending positive _).ascending
  · unfold strings
    rw [parts.ifids_eq, parts.dictionary_eq, same _ (Header.length_of_readSerial serialled)]

end Story

def Blueprint.identified : Blueprint :=
  let first := "12345678-9abc-DEF0-1234-56789abcdef0".toList
  let second := "00000000-0000-0000-0000-000000000000".toList
  { miniature with
    words := [first, "lamp".toList].map (List.map fun c => UInt8.ofNat c.toNat)
    texts := ["// ".toList ++ first ++ second, "0".toList ++ second].map
      (List.map fun c => UInt8.ofNat c.toNat) }

private theorem Blueprint.identified_fits : identified.Fits := by decide +kernel

theorem Story.ifids_of_identified :
    ∃ story, Story.read Blueprint.identified.image = .ok story ∧
      story.ifids = ["12345678-9abc-DEF0-1234-56789abcdef0",
        "00000000-0000-0000-0000-000000000000"] ∧
      story.ifids = Ifid.findAll story.strings := by
  obtain ⟨story, accepted, describes⟩ := Blueprint.identified.laid.read Blueprint.identified_fits
  have gathered := Ifid.gathered_iff.mp describes.ifids
  exact ⟨story, accepted, gathered.trans (by decide +kernel),
    (Story.ifids_of_accepted accepted).1.ifids⟩

end HugoStory
