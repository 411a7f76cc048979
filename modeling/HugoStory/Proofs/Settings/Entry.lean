import HugoStory.Proofs.Toml.Value
import HugoStory.Settings.Document
/-! The lines of a settings document, one for each thing that can be set, and the text they make when
they are written one after another. A document that begins with such lines gives their statements
first, whatever stands behind them. -/
namespace HugoStory.Settings

open Toml (Bare Statement Value assignment)

/-- What one line of a document says. Sections may be called anything, and a number may be negative. -/
inductive Entry
  | sections (names : List String)
  | json (holds : Bool)
  | maxEntries (number : Int)
deriving DecidableEq, Repr

namespace Entry

def key : Entry → String
  | sections _ => "sections"
  | json _ => "json"
  | maxEntries _ => "max_entries"

def keys : List String := ["sections", "json", "max_entries"]

def text : Entry → List Char
  | sections names => Toml.list (names.map String.toList)
  | json holds => (toString holds).toList
  | maxEntries number => (toString number).toList

def write (entry : Entry) : String := entry.key ++ " = " ++ String.ofList entry.text ++ "\n"

def value : Entry → Value
  | sections names => .names names
  | json holds => .boolean holds
  | maxEntries number => .integer number

/-- Whether the value can be read. A number must fit in 64 bits. -/
def readable : Entry → Bool
  | maxEntries number => decide (Toml.Fits number)
  | _ => true

/-- Whether the value can be set. A number must not be negative. -/
def settable : Entry → Bool
  | maxEntries number => decide (0 ≤ number)
  | _ => true

def statement (entry : Entry) : Statement := .assign entry.key entry.value

theorem bare_of_mem_keys {key : String} (known : key ∈ keys) : Bare key.toList := by
  have each : ∀ key ∈ keys, key.toList ≠ [] ∧ key.toList.all Toml.isBare = true := by decide
  exact ⟨(each key known).1, List.all_eq_true.mp (each key known).2⟩

theorem key_mem_keys (entry : Entry) : entry.key ∈ keys := by
  cases entry <;> simp [key, keys]

private theorem toList_write_append (entry : Entry) (rest : List Char) :
    entry.write.toList ++ rest = assignment entry.key.toList (entry.text ++ '\n' :: rest) := by
  simp [write, assignment]

private theorem readValue_text (entry : Entry) (rest : List Char) :
    Toml.readValue (entry.text ++ '\n' :: rest) =
      if entry.readable then some (entry.value, '\n' :: rest) else none := by
  cases entry with
  | sections names =>
    have same : (names.map String.toList).map String.ofList = names := by simp
    rw [text, Toml.readValue_list, same]
    rfl
  | json holds => exact Toml.readValue_boolean holds rest
  | maxEntries number =>
    rw [text, Toml.readValue_integer]
    simp only [readable, decide_eq_true_eq]
    rfl

private theorem text_eq_cons (entry : Entry) :
    ∃ c rest, entry.text = c :: rest ∧ Toml.isBlank c = false := by
  cases entry with
  | sections names => exact ⟨_, _, rfl, rfl⟩
  | json holds => cases holds <;> exact ⟨_, _, rfl, rfl⟩
  | maxEntries number =>
    cases spelled : (toString number).toList with
    | nil => exact absurd spelled (Json.toString_int_ne_nil number)
    | cons c rest =>
      refine ⟨c, rest, spelled, ?_⟩
      rcases Json.isDigit_or_minus_of_mem_toString (spelled ▸ List.mem_cons_self) with digit | rfl
      · have space : c ≠ ' ' := Toml.ne_of_isDigit digit rfl
        have tab : c ≠ '\t' := Toml.ne_of_isDigit digit rfl
        simp [Toml.isBlank, space, tab]
      · rfl

private theorem readStatement_write (entry : Entry) (rest : List Char) :
    Toml.readStatement (entry.write.toList ++ rest) =
      if entry.readable then some (entry.statement, rest) else none := by
  have begun : Toml.skipBlanks (entry.text ++ '\n' :: rest) = entry.text ++ '\n' :: rest := by
    obtain ⟨c, later, same, visible⟩ := entry.text_eq_cons
    rw [same]
    exact Toml.skipBlanks_cons visible _
  rw [toList_write_append, Toml.readStatement_assignment (bare_of_mem_keys entry.key_mem_keys), begun,
    readValue_text, String.ofList_toList]
  split <;> rfl

end Entry

def written (entries : List Entry) : String := String.join (entries.map Entry.write)

private theorem toList_written_cons (entry : Entry) (entries : List Entry) :
    (written (entry :: entries)).toList = entry.write.toList ++ (written entries).toList := by
  simp [written]

theorem written_concat (entries : List Entry) (entry : Entry) (text : String) :
    written entries ++ (entry.write ++ text) = written (entries ++ [entry]) ++ text := by
  simp [written, String.append_assoc]

private theorem readStatements_written (entries : List Entry) (bound : Nat) (done : List Statement)
    (rest : List Char) :
    Toml.readStatements (bound + entries.length) done ((written entries).toList ++ rest) =
      if entries.all Entry.readable then
        Toml.readStatements bound ((entries.map Entry.statement).reverse ++ done) rest
      else none := by
  induction entries generalizing done with
  | nil => simp [written]
  | cons entry later ih =>
    rw [toList_written_cons, List.append_assoc, Entry.toList_write_append, List.length_cons,
      ← Nat.add_assoc, Toml.readStatements_assignment (Entry.bare_of_mem_keys entry.key_mem_keys),
      ← Entry.toList_write_append, Entry.readStatement_write]
    cases read : entry.readable with
    | false => simp [read]
    | true => simp [read, ih]

private theorem length_le_written (entries : List Entry) :
    entries.length ≤ (written entries).toList.length := by
  induction entries with
  | nil => exact Nat.zero_le _
  | cons entry later ih =>
    have filled : 0 < entry.write.toList.length := by
      simp only [Entry.write, String.toList_append, List.length_append]
      exact Nat.succ_pos _
    rw [toList_written_cons, List.length_append, List.length_cons]
    omega

/-- The text starts with a bare key that is set to something. -/
def Opened (text : String) : Prop :=
  ∃ key rest, Bare key ∧ text.toList = assignment key rest

theorem Entry.opened_write_append (entry : Entry) (text : String) : Opened (entry.write ++ text) :=
  ⟨_, _, bare_of_mem_keys entry.key_mem_keys, by
    rw [String.toList_append, toList_write_append]⟩

theorem opened_written_append (entries : List Entry) {text : String} (opened : Opened text) :
    Opened (written entries ++ text) := by
  cases entries with
  | nil => simpa [written] using opened
  | cons entry later =>
    have first := entry.opened_write_append (written later ++ text)
    simpa [written, String.append_assoc] using first

/-- A document that starts with a line has the statements of its entries, and then those of the rest. -/
theorem ofDocument?_written_append (entries : List Entry) (text : String)
    (opened : Opened (written entries ++ text)) :
    ∃ bound, ofDocument? (written entries ++ text) =
      if entries.all Entry.readable then
        (Toml.readStatements bound [] text.toList).bind fun later =>
          ofStatements? (entries.map Entry.statement ++ later)
      else none := by
  obtain ⟨key, rest, bare, same⟩ := opened
  have read := Toml.statements?_assignment bare rest
  rw [← same, String.ofList_toList] at read
  have enough : entries.length ≤ (written entries ++ text).toList.length := by
    have counted := length_le_written entries
    rw [String.toList_append, List.length_append]
    omega
  obtain ⟨bound, length⟩ := Nat.exists_eq_add_of_le' enough
  refine ⟨bound, ?_⟩
  rw [length, String.toList_append, readStatements_written] at read
  unfold ofDocument?
  rw [read]
  split
  · rw [List.append_nil, Toml.readStatements_done, List.reverse_reverse]
    cases Toml.readStatements bound [] text.toList <;> rfl
  · rfl

theorem ofDocument?_written {entries : List Entry} (readable : entries.all Entry.readable = true) :
    ofDocument? (written entries) = ofStatements? (entries.map Entry.statement) := by
  cases entries with
  | nil => rfl
  | cons entry later =>
    have opened : Opened (written (entry :: later) ++ "") := by
      simpa [written] using entry.opened_write_append (written later)
    obtain ⟨bound, read⟩ := ofDocument?_written_append (entry :: later) "" opened
    rw [String.append_empty, if_pos readable] at read
    rw [read, String.toList_empty, Toml.readStatements_nil]
    exact congrArg ofStatements? (List.append_nil _)

end HugoStory.Settings
