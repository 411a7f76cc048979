import HugoStory.Proofs.Settings.Written
/-! Which documents are refused. Behind any lines, a further one that the settings cannot go on with
makes the whole document fail, and nothing that follows it mends that. -/
namespace HugoStory.Settings

open Toml (Bare Statement assignment)

/-- Text that settings cannot go on with behind some entries: another line with a key that there is
not or that has been set, with the name of no section, or with a negative number. -/
inductive Spoiled (entries : List Entry) : String → Prop
  | unknown {key : String} (bare : Bare key.toList) (unknown : key ∉ Entry.keys) (rest : String) :
    Spoiled entries (key ++ " = " ++ rest)
  | repeated {key : String} (repeated : key ∈ entries.map Entry.key) (rest : String) :
    Spoiled entries (key ++ " = " ++ rest)
  | misnamed {names : List String} {name : String} (named : name ∈ names)
    (unknown : name ∉ Section.all.map Section.name) (rest : String) :
    Spoiled entries ((Entry.sections names).write ++ rest)
  | negative {number : Int} (negative : number < 0) (rest : String) :
    Spoiled entries ((Entry.maxEntries number).write ++ rest)

private theorem fresh_of_accepted {entries : List Entry} {key rest : String} {settings : Settings}
    (bare : Bare key.toList)
    (accepted : ofDocument? (written entries ++ (key ++ " = " ++ rest)) = some settings) :
    key ∈ Entry.keys ∧ key ∉ entries.map Entry.key := by
  have begun : (key ++ " = " ++ rest).toList = assignment key.toList rest.toList := by
    simp [assignment]
  have opened := opened_written_append entries ⟨_, _, bare, begun⟩
  obtain ⟨bound, later, draft, final, read, drafted, -, ran, -⟩ := drafted_of_accepted opened accepted
  rw [begun] at read
  obtain ⟨value, behind, rfl⟩ := Toml.assign_of_readStatements bare read
  rw [String.ofList_toList, List.foldlM_cons] at ran
  obtain ⟨next, added, -⟩ := Option.bind_eq_some_iff.mp ran
  rw [drafted.add_assign] at added
  obtain ⟨entry, rfl, rfl⟩ := entry_of_assignSetting added
  exact ⟨entry.key_mem_keys, drafted.lacks_iff_not_mem.mp (assignSetting_entry_iff.mp added).1⟩

private theorem mapM_ofName?_of_mem {names : List String} {name : String} (named : name ∈ names)
    (unknown : name ∉ Section.all.map Section.name) : names.mapM Section.ofName? = none := by
  induction names with
  | nil => cases named
  | cons first later ih =>
    rw [List.mapM_cons]
    rcases List.mem_cons.mp named with rfl | behind
    · have unfound : Section.ofName? name = none := by
        refine List.find?_eq_none.mpr fun choice member same => unknown ?_
        exact List.mem_map.mpr ⟨choice, member, of_decide_eq_true same⟩
      rw [unfound]
      rfl
    · rw [ih behind]
      cases Section.ofName? first <;> rfl

/-- Sections that have been set stay as they are, and no tables spell out others. -/
structure Settled (names : List String) (draft : Draft) : Prop where
  scope : draft.scope = .settings
  tables : draft.tables = []
  sections : draft.sections = some names

private theorem Settled.add {names : List String} {draft next : Draft}
    (settled : Settled names draft)
    {statement : Statement} (added : draft.add statement = some next) : Settled names next := by
  obtain ⟨scope, tables, sections⟩ := settled
  cases statement with
  | assign key value =>
    simp only [Draft.add, Draft.assign, scope] at added
    obtain ⟨entry, rfl, rfl⟩ := entry_of_assignSetting added
    obtain ⟨lacks, -, rfl⟩ := assignSetting_entry_iff.mp added
    cases entry with
    | sections held => cases sections.symm.trans lacks
    | json holds => exact ⟨scope, tables, sections⟩
    | maxEntries number => exact ⟨scope, tables, sections⟩
  | element key => simp [Draft.add, sections] at added
  | table key name => simp [Draft.add, Draft.addName, tables] at added

private theorem Settled.run {names : List String} {draft next : Draft}
    (settled : Settled names draft)
    {statements : List Statement} (ran : statements.foldlM Draft.add draft = some next) :
    Settled names next := by
  induction statements generalizing draft with
  | nil =>
    obtain rfl := Option.some.inj ran
    exact settled
  | cons statement later ih =>
    rw [List.foldlM_cons] at ran
    obtain ⟨middle, added, ran⟩ := Option.bind_eq_some_iff.mp ran
    exact ih (settled.add added) ran

private theorem entry_of_accepted {entries : List Entry} {entry : Entry} {rest : String}
    {settings : Settings}
    (accepted : ofDocument? (written entries ++ (entry.write ++ rest)) = some settings) :
    ∃ (later : List Statement) (draft final : Draft), Drafted (entries ++ [entry]) draft ∧
      entry.settable = true ∧ later.foldlM Draft.add draft = some final ∧
      final.toSettings? = some settings := by
  have opened := opened_written_append entries (entry.opened_write_append rest)
  rw [written_concat] at accepted opened
  obtain ⟨_, later, draft, final, -, drafted, settable, ran, set⟩ :=
    drafted_of_accepted opened accepted
  exact ⟨later, draft, final, drafted, settable entry (by simp), ran, set⟩

private theorem named_of_accepted {entries : List Entry} {names : List String} {rest : String}
    {settings : Settings}
    (accepted : ofDocument? (written entries ++ ((Entry.sections names).write ++ rest)) =
      some settings) {name : String} (named : name ∈ names) : name ∈ Section.all.map Section.name := by
  obtain ⟨later, draft, final, drafted, -, ran, set⟩ := entry_of_accepted accepted
  have held : draft.sections = some names := (drafted.holds (.sections names)).mpr (by simp)
  obtain ⟨-, tables, sections⟩ := (Settled.mk drafted.scope drafted.tables held).run ran
  refine Decidable.byContradiction fun unknown => ?_
  unfold Draft.toSettings? Draft.names? at set
  rw [tables, sections] at set
  simp only [Option.bind_eq_bind, Option.bind_some, mapM_ofName?_of_mem named unknown] at set
  cases set

private theorem ofDocument?_spoiled {entries : List Entry} {text : String}
    (spoiled : Spoiled entries text) :
    ofDocument? (written entries ++ text) = none := by
  refine Option.eq_none_iff_forall_ne_some.mpr fun settings accepted => ?_
  cases spoiled with
  | unknown bare unknown rest => exact unknown (fresh_of_accepted bare accepted).1
  | repeated repeated rest =>
    obtain ⟨entry, -, rfl⟩ := List.mem_map.mp repeated
    exact (fresh_of_accepted (Entry.bare_of_mem_keys entry.key_mem_keys) accepted).2 repeated
  | misnamed named unknown rest => exact unknown (named_of_accepted accepted named)
  | negative negative rest =>
    obtain ⟨-, -, -, -, settable, -⟩ := entry_of_accepted accepted
    exact absurd (of_decide_eq_true settable) (Int.not_le.mpr negative)

/-- Lines for what is chosen, in any order, are read as the chosen settings with the defaults for the
others. A document with a line that spoils it is refused. -/
theorem ofDocument?_entries :
    (∀ (chosen : Chosen) (entries : List Entry), entries.Perm chosen.entries →
      (∀ number ∈ chosen.maxEntries, number ≤ Toml.largest) →
      ofDocument? (written entries) = some chosen.settings) ∧
    ∀ (entries : List Entry) (text : String), Spoiled entries text →
      ofDocument? (written entries ++ text) = none :=
  ⟨fun _ _ perm fits => ofDocument?_chosen perm fits, fun _ _ spoiled => ofDocument?_spoiled spoiled⟩

/-- A limit before the sections, one of them twice, and nothing on JSON. A second limit is not
allowed behind that, and neither are capital letters and negative limits anywhere. -/
theorem ofDocument?_entries_limit :
    let entries : List Entry := [.maxEntries 20, .sections ["grammar", "header", "grammar"]]
    written entries = "max_entries = 20\nsections = [\"grammar\", \"header\", \"grammar\"]\n" ∧
      ofDocument? (written entries) =
        some { sections := [.grammar, .header, .grammar], json := false, maxEntries := some 20 } ∧
      ofDocument? (written entries ++ ("max_entries" ++ " = " ++ "20")) = none ∧
      ofDocument? (written entries ++ ("Json" ++ " = " ++ "true")) = none ∧
      ofDocument? (written [.json true] ++ ((Entry.sections ["Header"]).write ++ "")) = none ∧
      ofDocument? (written [.json true] ++ ((Entry.maxEntries (-1)).write ++ "")) = none := by
  intro entries
  have bare : Bare "Json".toList := ⟨by decide, List.all_eq_true.mp (by decide)⟩
  have repeated : Spoiled entries ("max_entries" ++ " = " ++ "20") := .repeated (by decide) _
  have unknown : Spoiled entries ("Json" ++ " = " ++ "true") := .unknown bare (by decide) _
  have misnamed : Spoiled [.json true] ((Entry.sections ["Header"]).write ++ "") :=
    .misnamed List.mem_cons_self (by decide) _
  have negative : Spoiled [.json true] ((Entry.maxEntries (-1)).write ++ "") :=
    .negative (by decide) _
  refine ⟨by decide +kernel, ?_, ofDocument?_entries.2 _ _ repeated, ofDocument?_entries.2 _ _ unknown,
    ofDocument?_entries.2 _ _ misnamed, ofDocument?_entries.2 _ _ negative⟩
  exact ofDocument?_entries.1 ⟨some [.grammar, .header, .grammar], none, some 20⟩ entries
    (List.Perm.swap _ _ _) (by decide)

end HugoStory.Settings
