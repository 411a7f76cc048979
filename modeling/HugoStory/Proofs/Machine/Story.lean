import HugoStory.Proofs.Machine.Grammar
import HugoStory.Proofs.Machine.Object
import HugoStory.Proofs.Machine.ObjectView
import HugoStory.Proofs.Machine.Preamble
import HugoStory.Proofs.Machine.Sections
/-! A complete story, read with the numbers of a machine. No number is ever out of range in a
file that is addressed by signed words of 32 bits, so the story that comes out is that of
unbounded numbers, and no entry is filed under the number of another. -/
namespace HugoStory.Machine
open Outcome

variable {image : Image}

def readSections (image : Image) (preamble : Preamble) : Checked Story := do
  let header := preamble.header
  let layout := header.layout
  let counts := preamble.counts
  let arrays ← readArrays image layout.arrays layout.specialWords
  let code ← readCode image layout.code layout.objects
  let dictionary ← readDictionary image layout.dictionary counts.dictionaryWords.toNat
  let events ← readEvents image layout.events counts.events.toNat
  let globals ← readGlobals image layout.arrays
  let grammar ← readGrammar image
  let objects ←
    readObjects image layout.objects counts.objects.toNat layout.properties preamble.defaults
  let specialWords ←
    readSpecialWords image layout.specialWords counts.specialWords.toNat
  let textBank ← readTextBank image layout.textBank (preamble.textBankEnd image)
  return {
    version := header.version
    id := header.id
    serial := header.serial
    ifids := Ifid.findAll (dictionary.words.values ++ textBank.texts.values)
    entryPoints := header.entryPoints
    dictionary := dictionary.withReserved header.serial
    file := none
    counts, code, objects, textBank, grammar, events, arrays, globals, specialWords }

def readStory (image : Image) : Checked Story := do
  let preamble ← readPreamble image
  readSections image preamble

private theorem length_of_readPreamble {preamble : Preamble}
    (read : Preamble.read image = .ok preamble) :
    preamble.defaults.length = preamble.counts.properties.toNat ∧
      Property.Defaults preamble.defaults := by
  obtain ⟨_, _, defaulted⟩ := Preamble.read_eq_ok_iff.mp read
  exact Property.defaults_of_readDefaults defaulted

private theorem defaults_le_of_readPreamble {preamble : Preamble}
    (read : Preamble.read image = .ok preamble) : preamble.defaults.length ≤ 0x10000 := by
  have bound := preamble.counts.properties.toNat_lt
  rw [(length_of_readPreamble read).1]
  omega

/-- Every table that is counted lies in the file, and the defaults are counted by a word. -/
private theorem readSections_eq_lift (small : Addressable image) {preamble : Preamble}
    (read : Preamble.read image = .ok preamble) :
    readSections image preamble = lift (Story.readSections image preamble) := by
  have few := defaults_le_of_readPreamble read
  have counted := Preamble.counted_of_read read
  simp only [Layout.counted, List.forall_mem_cons] at counted
  obtain ⟨objects, events, dictionary, specialWords, properties, -⟩ := counted
  have arrays := arrays_le_of_readHeader (Preamble.header_of_read read)
  unfold readSections Story.readSections
  simp (disch := omega) only [readArrays_eq_lift small arrays, readCode_eq_lift,
    readDictionary_eq_lift small, readEvents_eq_lift small, readGlobals_eq_lift small arrays,
    readGrammar_eq_lift small, readObjects_eq_lift small, readSpecialWords_eq_lift small,
    readTextBank_eq_lift small, lift_bind, lift_pure]

theorem readStory_eq_lift (small : Addressable image) :
    readStory image = lift (Story.read image) := by
  unfold readStory Story.read
  rw [readPreamble_eq_lift small, lift_bind]
  apply lift_bind_congr
  intro preamble read
  exact readSections_eq_lift small read

private theorem ranged_of_read {story : Story} (accepted : Story.read image = .ok story) :
    ∀ object ∈ story.objects, ObjectView.Ranged object := by
  obtain ⟨preamble, _, known, parts⟩ := Story.read_eq_ok_iff.mp accepted
  have plain := (length_of_readPreamble known).2
  have short := defaults_le_of_readPreamble known
  intro object member
  apply ObjectView.ranged_of_inherits
  exact (Object.inherits_of_readTable plain short parts.objects).2 object member

private theorem keys_of_read (small : Addressable image) {story : Story}
    (accepted : Story.read image = .ok story) :
    ∃ preamble words arrays numbers, Preamble.read image = .ok preamble ∧
      wordEntries image preamble.header.layout.dictionary
        preamble.counts.dictionaryWords.toNat = .ok words ∧
      arrayEntries image preamble.header.layout.arrays
        preamble.header.layout.specialWords = .ok arrays ∧
      numberEntries preamble.defaults = .ok numbers ∧
      (Dictionary.parsedAddress :: Dictionary.serialAddress :: words.map Prod.fst).Nodup ∧
      (arrays.map Prod.fst).Nodup ∧ (numbers.map Prod.fst).Nodup := by
  obtain ⟨preamble, dictionary, known, parts⟩ := Story.read_eq_ok_iff.mp accepted
  have counted := Preamble.counted_of_read known preamble.header.layout.dictionary
    (by simp [Layout.counted])
  have near := arrays_le_of_readHeader (Preamble.header_of_read known)
  have few := defaults_le_of_readPreamble known
  obtain ⟨-, ascending, positive⟩ := Dictionary.keys_of_read parts.dictionary
  refine ⟨preamble, dictionary.words.entries, story.arrays.entries, _, known, ?_, ?_,
    numberEntries_eq few, ?_, ?_, ?_⟩
  · rw [wordEntries_eq_lift small (by omega), parts.dictionary]
    rfl
  · rw [arrayEntries_eq_lift small near, parts.arrays]
    rfl
  · have distinct := OrderedMap.nodup_keys_of_ascending (fun _ _ => Int.lt_asymm) ascending
    rw [List.nodup_cons, List.nodup_cons, List.mem_cons, not_or]
    refine ⟨⟨by decide, fun parsed => ?_⟩, fun serial => ?_, distinct⟩
    · exact absurd (positive _ parsed) (by decide)
    · exact absurd (positive _ serial) (by decide)
  · exact OrderedMap.nodup_keys_of_ascending (fun _ _ => Nat.lt_asymm)
      (Variables.ascending_of_readArrays parts.arrays).1
  · exact OrderedMap.nodup_keys_of_ascending (fun _ _ => Nat.lt_asymm) (numbered_ascending few)

/-- No number of a reading or of the objects in words is out of range, whatever the file is, so
both say what they would with numbers of any size. In particular no number is cast to that of
another entry. -/
theorem reads_in_range (small : image.size ≤ 0x7fffffff) :
    readStory image = lift (Story.read image) ∧ readStory image ≠ .error .outOfRange ∧
    ∀ story, Story.read image = .ok story →
      (∀ index, ObjectView.render story index = .ok (Report.ObjectView.render story index)) ∧
      ∃ preamble words arrays numbers, Preamble.read image = .ok preamble ∧
        wordEntries image preamble.header.layout.dictionary
          preamble.counts.dictionaryWords.toNat = .ok words ∧
        arrayEntries image preamble.header.layout.arrays
          preamble.header.layout.specialWords = .ok arrays ∧
        numberEntries preamble.defaults = .ok numbers ∧
        (Dictionary.parsedAddress :: Dictionary.serialAddress :: words.map Prod.fst).Nodup ∧
        (arrays.map Prod.fst).Nodup ∧ (numbers.map Prod.fst).Nodup := by
  have same := readStory_eq_lift small
  refine ⟨same, ?_, fun story accepted => ⟨?_, keys_of_read small accepted⟩⟩
  · rw [same]
    exact lift_ne_outOfRange _
  · exact ObjectView.render_eq (ranged_of_read accepted)

private theorem addressable_miniature : Addressable Blueprint.miniature.image := by decide +kernel

/-- A story with something in every section, read and told with the numbers of a machine. -/
theorem reads_in_range_miniature :
    Blueprint.miniature.image.size ≤ 0x7fffffff ∧
      readStory Blueprint.miniature.image = .ok Blueprint.miniatureStory ∧
      ∀ index, ObjectView.render Blueprint.miniatureStory index =
        .ok (Report.ObjectView.render Blueprint.miniatureStory index) := by
  have accepted := Blueprint.read_miniature
  obtain ⟨same, -, told⟩ := reads_in_range addressable_miniature
  rw [accepted] at same
  exact ⟨addressable_miniature, same, (told _ accepted).1⟩

end HugoStory.Machine
