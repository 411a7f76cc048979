import HugoStory.Proofs.Ifid
import HugoStory.Proofs.Json.Ordered
import HugoStory.Proofs.OrderedMap
import HugoStory.Report
/-! What a limit does to a report. A section that is a table consists of a heading and one row for
each entry, in the order of the keys or places of the entries. A row may take several lines, but it
is never empty, so a limit cuts between rows and is seen exactly if it leaves some out. -/
namespace HugoStory

/-- The maps of a story hold each key once, the lesser ones first. -/
structure Story.Ascending (story : Story) : Prop where
  words : story.dictionary.words.Ascending
  texts : story.textBank.texts.Ascending
  arrays : story.arrays.Ascending

namespace Report

inductive Table
  | dictionary
  | textBank
  | objects
  | grammar
  | events
  | arrays
  | globals
deriving DecidableEq, Repr

namespace Table

def name : Table → String
  | dictionary => "Dictionary"
  | textBank => "Text bank"
  | objects => "Objects"
  | grammar => "Grammar"
  | events => "Events"
  | arrays => "Arrays"
  | globals => "Globals"

def size (story : Story) : Table → Nat
  | dictionary => story.dictionary.size
  | textBank => story.textBank.size
  | objects => story.objects.length
  | grammar => story.grammar.length
  | events => story.events.length
  | arrays => story.arrays.size
  | globals => story.globals.length

/-- What is printed of each entry. No limit comes into it. -/
def rows (story : Story) : Table → List String
  | dictionary => story.dictionary.words.entries.map dictionaryRow
  | textBank => story.textBank.texts.entries.map textRow
  | objects => (List.range story.objects.length).map (ObjectView.render story)
  | grammar => story.grammar.map (grammarRow story)
  | events => story.events.map (eventRow story)
  | arrays => story.arrays.entries.map arrayRow
  | globals => (story.globals.mapIdx Prod.mk).map globalRow

end Table

/-- A text of a heading and rows, of which a limit keeps the first ones. -/
structure Cut (text : Option Nat → String) (heading : String) (rows : List String) : Prop where
  whole : text none = heading ++ String.join rows
  first : ∀ count, text (some count) = heading ++ String.join (rows.take count)
  longer : ∀ count more, count ≤ more → ∃ rest, text (some more) = text (some count) ++ rest
  rest : ∀ count, ∃ rest, text none = text (some count) ++ rest
  whole_iff : ∀ count, text (some count) = text none ↔ rows.length ≤ count

section Limit

end Limit

section Rows

variable (story : Story)

private theorem objectView_ne_empty {index : Nat} (inside : index < story.objects.length) :
    ObjectView.render story index ≠ "" := by
  have found : story.object? index = some story.objects[index] := List.getElem?_eq_getElem inside
  simp [ObjectView.render, found, ObjectView.lines]

private theorem filled_map {α : Type} {row : α → String} (filled : ∀ entry, row entry ≠ "")
    (entries : List α) : ∀ text ∈ entries.map row, text ≠ "" :=
  List.forall_mem_map.mpr fun entry _ => filled entry

private theorem Table.filled (table : Table) : ∀ row ∈ table.rows story, row ≠ "" := by
  cases table with
  | dictionary => exact filled_map (by simp [dictionaryRow]) _
  | textBank => exact filled_map (by simp [textRow]) _
  | objects =>
    simp only [rows, List.forall_mem_map, List.mem_range]
    exact fun index inside => objectView_ne_empty story inside
  | grammar => exact filled_map (by simp [grammarRow]) _
  | events => exact filled_map (by simp [eventRow]) _
  | arrays => exact filled_map (by simp [arrayRow]) _
  | globals => exact filled_map (by simp [globalRow]) _

end Rows

end Report

end HugoStory
