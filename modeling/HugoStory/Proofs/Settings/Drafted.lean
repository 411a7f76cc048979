import HugoStory.Proofs.Settings.Entry
/-! The draft that is left when a run of lines has been gone through. A line is taken when its key is
new and its value can be set, so a draft holds just what its lines say and the order in which they
came does not show in it. -/
namespace HugoStory.Settings

open Toml (Statement Value)

def Draft.Holds (draft : Draft) : Entry → Prop
  | .sections names => draft.sections = some names
  | .json holds => draft.json = some holds
  | .maxEntries number => draft.maxEntries.map Int.ofNat = some number

def Draft.put (draft : Draft) : Entry → Draft
  | .sections names => { draft with sections := some names }
  | .json holds => { draft with json := some holds }
  | .maxEntries number => { draft with maxEntries := some number.toNat }

def Draft.Lacks (draft : Draft) : Entry → Prop
  | .sections _ => draft.sections = none
  | .json _ => draft.json = none
  | .maxEntries _ => draft.maxEntries = none

private theorem holds_put_iff {draft : Draft} {entry other : Entry}
    (settable : entry.settable = true) :
    (draft.put entry).Holds other ↔
      other = entry ∨ other.key ≠ entry.key ∧ draft.Holds other := by
  cases entry with
  | maxEntries number =>
    have kept : Int.ofNat number.toNat = number := Int.toNat_of_nonneg (of_decide_eq_true settable)
    cases other with
    | maxEntries held =>
      simp only [Draft.put, Draft.Holds, Entry.key, Option.map_some, kept, Option.some.injEq,
        Entry.maxEntries.injEq, ne_eq, not_true_eq_false, false_and, or_false, eq_comm]
    | _ => simp [Draft.put, Draft.Holds, Entry.key]
  | _ => cases other <;> simp [Draft.put, Draft.Holds, Entry.key, eq_comm]

private theorem lacks_iff {draft : Draft} {entry : Entry} :
    draft.Lacks entry ↔ ∀ other : Entry, other.key = entry.key → ¬draft.Holds other := by
  constructor
  · intro lacks other same
    cases entry <;> cases other <;> simp_all [Draft.Lacks, Draft.Holds, Entry.key]
  · intro unheld
    cases entry with
    | sections names => exact Option.eq_none_iff_forall_ne_some.mpr fun held => unheld (.sections held) rfl
    | json holds => exact Option.eq_none_iff_forall_ne_some.mpr fun held => unheld (.json held) rfl
    | maxEntries number =>
      refine Option.eq_none_iff_forall_ne_some.mpr fun held same => unheld (.maxEntries held) rfl ?_
      rw [Draft.Holds, same]
      rfl

theorem assignSetting_entry_iff {draft next : Draft} {entry : Entry} :
    draft.assignSetting entry.key entry.value = some next ↔
      draft.Lacks entry ∧ entry.settable = true ∧ next = draft.put entry := by
  cases entry <;>
    simp [Draft.assignSetting, Entry.key, Entry.value, Entry.settable, Draft.Lacks, Draft.put,
      eq_comm, and_assoc]

/-- A setting is made by its own key and with a value of its kind. -/
theorem entry_of_assignSetting {draft next : Draft} {key : String} {value : Value}
    (made : draft.assignSetting key value = some next) :
    ∃ entry : Entry, key = entry.key ∧ value = entry.value := by
  cases value with
  | names names =>
    obtain ⟨⟨rfl, -⟩, -⟩ := Option.ite_none_right_eq_some.mp made
    exact ⟨.sections names, rfl, rfl⟩
  | boolean holds =>
    obtain ⟨⟨rfl, -⟩, -⟩ := Option.ite_none_right_eq_some.mp made
    exact ⟨.json holds, rfl, rfl⟩
  | integer number =>
    obtain ⟨⟨rfl, -⟩, -⟩ := Option.ite_none_right_eq_some.mp made
    exact ⟨.maxEntries number, rfl, rfl⟩
  | blank => cases made

/-- A draft that holds what the entries say, and nothing else. -/
structure Drafted (entries : List Entry) (draft : Draft) : Prop where
  scope : draft.scope = .settings
  tables : draft.tables = []
  holds : ∀ entry, draft.Holds entry ↔ entry ∈ entries

theorem drafted_empty : Drafted [] .empty := by
  refine ⟨rfl, rfl, ?_⟩
  rintro (names | holds | number) <;> simp [Draft.Holds, Draft.empty]

namespace Drafted

variable {entries : List Entry} {draft next : Draft} (drafted : Drafted entries draft)
include drafted

theorem add_assign (key : String) (value : Value) :
    draft.add (.assign key value) = draft.assignSetting key value := by
  simp only [Draft.add, Draft.assign, drafted.scope]

theorem lacks_iff_not_mem {entry : Entry} :
    draft.Lacks entry ↔ entry.key ∉ entries.map Entry.key := by
  simp only [lacks_iff, drafted.holds, List.mem_map, not_exists, not_and]
  exact ⟨fun unheld other member same => unheld other same member,
    fun fresh other same member => fresh other member same⟩

private theorem add_entry_iff {entry : Entry} :
    draft.add entry.statement = some next ↔
      entry.key ∉ entries.map Entry.key ∧ entry.settable = true ∧ next = draft.put entry := by
  rw [Entry.statement, drafted.add_assign, assignSetting_entry_iff, drafted.lacks_iff_not_mem]

private theorem put {entry : Entry} (fresh : entry.key ∉ entries.map Entry.key)
    (settable : entry.settable = true) : Drafted (entries ++ [entry]) (draft.put entry) where
  scope := by
    have scope := drafted.scope
    cases entry <;> exact scope
  tables := by
    have tables := drafted.tables
    cases entry <;> exact tables
  holds other := by
    rw [holds_put_iff settable, drafted.holds, List.mem_append, List.mem_singleton]
    constructor
    · rintro (same | ⟨-, member⟩)
      · exact .inr same
      · exact .inl member
    · rintro (member | same)
      · exact .inr ⟨fun same => fresh (same ▸ List.mem_map_of_mem member), member⟩
      · exact .inl same

theorem perm {others : List Entry} (perm : entries.Perm others) : Drafted others draft :=
  ⟨drafted.scope, drafted.tables, fun entry => (drafted.holds entry).trans perm.mem_iff⟩

omit drafted in
theorem of_run {later : List Entry} (drafted : Drafted entries draft)
    (ran : (later.map Entry.statement).foldlM Draft.add draft = some next) :
    Drafted (entries ++ later) next ∧ ∀ entry ∈ later, entry.settable = true := by
  induction later generalizing entries draft with
  | nil =>
    obtain rfl := Option.some.inj ran
    rw [List.append_nil]
    exact ⟨drafted, by simp⟩
  | cons entry later ih =>
    rw [List.map_cons, List.foldlM_cons] at ran
    obtain ⟨middle, added, ran⟩ := Option.bind_eq_some_iff.mp ran
    obtain ⟨fresh, settable, rfl⟩ := drafted.add_entry_iff.mp added
    obtain ⟨drafted, rest⟩ := ih (drafted.put fresh settable) ran
    rw [List.append_assoc] at drafted
    exact ⟨drafted, List.forall_mem_cons.mpr ⟨settable, rest⟩⟩

omit drafted in
theorem exists_run {later : List Entry} (drafted : Drafted entries draft)
    (distinct : ((entries ++ later).map Entry.key).Nodup)
    (settable : ∀ entry ∈ later, entry.settable = true) :
    ∃ next, (later.map Entry.statement).foldlM Draft.add draft = some next := by
  induction later generalizing entries draft with
  | nil => exact ⟨draft, rfl⟩
  | cons entry later ih =>
    rw [List.forall_mem_cons] at settable
    have fresh : entry.key ∉ entries.map Entry.key := by
      rw [List.map_append, List.nodup_append] at distinct
      intro member
      exact distinct.2.2 _ member _ List.mem_cons_self rfl
    rw [List.append_cons] at distinct
    obtain ⟨next, ran⟩ := ih (drafted.put fresh settable.1) distinct settable.2
    refine ⟨next, ?_⟩
    rw [List.map_cons, List.foldlM_cons, drafted.add_entry_iff.mpr ⟨fresh, settable.1, rfl⟩]
    exact ran

end Drafted

/-- What a document has to meet to be accepted: its entries make a draft, which the rest goes on with. -/
theorem drafted_of_accepted {entries : List Entry} {text : String} {settings : Settings}
    (opened : Opened (written entries ++ text))
    (accepted : ofDocument? (written entries ++ text) = some settings) :
    ∃ bound later draft final, Toml.readStatements bound [] text.toList = some later ∧
      Drafted entries draft ∧ (∀ entry ∈ entries, entry.settable = true) ∧
      later.foldlM Draft.add draft = some final ∧ final.toSettings? = some settings := by
  obtain ⟨bound, read⟩ := ofDocument?_written_append entries text opened
  rw [read] at accepted
  obtain ⟨-, accepted⟩ := Option.ite_none_right_eq_some.mp accepted
  obtain ⟨later, behind, accepted⟩ := Option.bind_eq_some_iff.mp accepted
  obtain ⟨final, ran, accepted⟩ := Option.bind_eq_some_iff.mp accepted
  rw [List.foldlM_append] at ran
  obtain ⟨draft, first, ran⟩ := Option.bind_eq_some_iff.mp ran
  obtain ⟨drafted, settable⟩ := drafted_empty.of_run first
  exact ⟨bound, later, draft, final, behind, drafted, settable, ran, accepted⟩

end HugoStory.Settings
