import HugoStory.Settings
import HugoStory.Toml.Statement
/-! Settings as TOML documents. Every setting may be left out and none may be set twice, and
there are no others. The sections are a list of exact names; the list may also be spelled out
as tables, one for each section, with its name as the only key and nothing below it. -/
namespace HugoStory.Settings

open Toml (Statement Value)

inductive Scope
  | settings
  | element
  | closed
deriving DecidableEq, Repr

structure Draft where
  scope : Scope
  sections : Option (List String)
  /-- The keys of the tables that spell out the sections, the last table first. -/
  tables : List (List String)
  json : Option Bool
  maxEntries : Option Nat
deriving DecidableEq, Repr

namespace Draft

def empty : Draft :=
  { scope := .settings, sections := none, tables := [], json := none, maxEntries := none }

def addName (draft : Draft) (name : String) : Option Draft :=
  match draft.tables with
  | [] => none
  | names :: others => some { draft with tables := (name :: names) :: others }

def assignSetting (draft : Draft) (key : String) (value : Value) : Option Draft :=
  match value with
  | .names names =>
    if key = "sections" ∧ draft.sections = none then some { draft with sections := some names }
    else none
  | .boolean holds =>
    if key = "json" ∧ draft.json = none then some { draft with json := some holds } else none
  | .integer number =>
    if key = "max_entries" ∧ draft.maxEntries = none ∧ 0 ≤ number then
      some { draft with maxEntries := some number.toNat }
    else none
  | .blank => none

def assign (draft : Draft) (key : String) (value : Value) : Option Draft :=
  match draft.scope with
  | .settings => draft.assignSetting key value
  | .element => if value = .blank ∨ value = .names [] then draft.addName key else none
  | .closed => none

def add (draft : Draft) : Statement → Option Draft
  | .assign key value => draft.assign key value
  | .element key =>
    if key = "sections" ∧ draft.sections = none then
      some { draft with scope := .element, tables := [] :: draft.tables }
    else none
  | .table key name =>
    if key = "sections" then (draft.addName name).map fun draft => { draft with scope := .closed }
    else none

def onlyName? : List String → Option String
  | [name] => some name
  | _ => none

/-- The names of the sections, if the document has any. -/
def names? (draft : Draft) : Option (Option (List String)) :=
  match draft.tables with
  | [] => some draft.sections
  | tables => (tables.reverse.mapM onlyName?).map some

def toSettings? (draft : Draft) : Option Settings := do
  let names ← draft.names?
  let sections ←
    match names with
    | none => some standard.sections
    | some names => names.mapM Section.ofName?
  return {
    sections
    json := draft.json.getD standard.json
    maxEntries := draft.maxEntries }

end Draft

def ofStatements? (statements : List Statement) : Option Settings := do
  let draft ← statements.foldlM Draft.add Draft.empty
  draft.toSettings?

def ofDocument? (document : String) : Option Settings := do
  let statements ← Toml.statements? document
  ofStatements? statements

end HugoStory.Settings
