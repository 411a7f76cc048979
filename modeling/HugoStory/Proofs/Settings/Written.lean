import HugoStory.Proofs.Settings.Drafted
/-! Settings written out as a document. What is chosen is written on one line each, in any order, and
reading brings it back, with the defaults for what is not. The document for a list of sections and a
choice of JSON is such a text: the names of the sections in a list on one line, and on the next
whether to give JSON. -/
namespace HugoStory.Settings

private theorem mapM_ofName?_name (sections : List Section) :
    (sections.map Section.name).mapM Section.ofName? = some sections := by
  induction sections with
  | nil => rfl
  | cons choice later ih =>
    rw [List.map_cons, List.mapM_cons, Section.ofName?_name, ih]
    rfl

/-- A choice of settings. Those without a value are left out. -/
structure Chosen where
  sections : Option (List Section)
  json : Option Bool
  maxEntries : Option Nat

namespace Chosen

variable (chosen : Chosen)

def entries : List Entry :=
  (chosen.sections.map fun sections => .sections (sections.map Section.name)).toList ++
    (chosen.json.map .json).toList ++
    (chosen.maxEntries.map fun number => .maxEntries number).toList

/-- All sections in a report without a limit, but for what is chosen. -/
def settings : Settings where
  sections := chosen.sections.getD Section.all
  json := chosen.json.getD false
  maxEntries := chosen.maxEntries

private theorem nodup_keys : (chosen.entries.map Entry.key).Nodup := by
  obtain ⟨_ | sections, _ | json, _ | maxEntries⟩ := chosen <;> simp [entries, Entry.key]

private theorem settable_of_mem {entry : Entry} (member : entry ∈ chosen.entries) :
    entry.settable = true := by
  cases entry with
  | maxEntries number =>
    obtain ⟨held, -, rfl⟩ : ∃ held ∈ chosen.maxEntries, (held : Int) = number := by
      simpa [entries] using member
    simp [Entry.settable]
  | _ => rfl

private theorem readable_of_mem (fits : ∀ number ∈ chosen.maxEntries, number ≤ Toml.largest)
    {entry : Entry}
    (member : entry ∈ chosen.entries) : entry.readable = true := by
  cases entry with
  | maxEntries number =>
    obtain ⟨held, chose, rfl⟩ : ∃ held ∈ chosen.maxEntries, (held : Int) = number := by
      simpa [entries] using member
    have bound := fits held chose
    refine decide_eq_true ?_
    unfold Toml.Fits
    omega
  | _ => rfl

variable {chosen} in
private theorem toSettings?_of_drafted {draft : Draft} (drafted : Drafted chosen.entries draft) :
    draft.toSettings? = some chosen.settings := by
  have sections : draft.sections = chosen.sections.map fun sections => sections.map Section.name := by
    ext names
    have held := drafted.holds (.sections names)
    simpa [Draft.Holds, entries] using held
  have json : draft.json = chosen.json := by
    ext holds
    have held := drafted.holds (.json holds)
    simpa [Draft.Holds, entries] using held
  have maxEntries : draft.maxEntries = chosen.maxEntries := by
    ext number
    have held := drafted.holds (.maxEntries number)
    simpa [Draft.Holds, entries, Int.ofNat_inj] using held
  unfold Draft.toSettings? Draft.names? settings
  rw [drafted.tables, sections, json, maxEntries]
  cases chosen.sections with
  | none => rfl
  | some sections =>
    simp only [Option.map_some, Option.bind_eq_bind, Option.bind_some, mapM_ofName?_name]
    rfl

end Chosen

theorem ofDocument?_chosen {chosen : Chosen} {entries : List Entry}
    (perm : entries.Perm chosen.entries) (fits : ∀ number ∈ chosen.maxEntries, number ≤ Toml.largest) :
    ofDocument? (written entries) = some chosen.settings := by
  have readable : entries.all Entry.readable = true :=
    List.all_eq_true.mpr fun entry member => chosen.readable_of_mem fits (perm.mem_iff.mp member)
  have settable (entry : Entry) (member : entry ∈ entries) : entry.settable = true :=
    chosen.settable_of_mem (perm.mem_iff.mp member)
  have distinct : (entries.map Entry.key).Nodup := (perm.map _).nodup_iff.mpr chosen.nodup_keys
  obtain ⟨draft, ran⟩ := drafted_empty.exists_run distinct settable
  obtain ⟨drafted, -⟩ := drafted_empty.of_run ran
  rw [ofDocument?_written readable, ofStatements?, ran]
  exact Chosen.toSettings?_of_drafted (drafted.perm perm)

def quotedName (choice : Section) : String := "\"" ++ choice.name ++ "\""

def document (sections : List Section) (json : Bool) : String :=
  String.join ["sections = [", String.intercalate ", " (sections.map quotedName), "]\n",
    "json = ", toString json, "\n"]

private theorem toList_quotedName (choice : Section) :
    (quotedName choice).toList = Toml.quoted choice.name.toList := by
  cases choice <;> decide

private theorem document_eq_written (sections : List Section) (json : Bool) :
    document sections json =
      written (Chosen.mk (some sections) (some json) none).entries := by
  have spelled : (String.intercalate ", " (sections.map quotedName)).toList =
      Toml.items ((sections.map Section.name).map String.toList) := by
    rw [String.toList_intercalate, Toml.items, List.map_map, List.map_map, List.map_map]
    exact congrArg _ (List.map_congr_left fun choice _ => toList_quotedName choice)
  rw [← String.toList_inj]
  simp only [document, written, String.toList_join, Chosen.entries]
  simp [spelled, Entry.write, Entry.key, Entry.text, Toml.list]

theorem ofDocument?_document (sections : List Section) (json : Bool) :
    ofDocument? (document sections json) = some { sections, json, maxEntries := none } := by
  rw [document_eq_written]
  exact ofDocument?_chosen (.refl _) (by simp)

end HugoStory.Settings
