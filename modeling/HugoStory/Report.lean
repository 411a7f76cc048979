import HugoStory.Report.ObjectView
import HugoStory.Settings
import HugoStory.Story.Summary
/-! The report on a story: the sections that are asked for, one behind the other. Every
section but the summary opens with a title and gives each of its entries a row of one or
more lines. -/
namespace HugoStory.Report

open Text

def shown {α : Type} (limit : Option Nat) (entries : List α) : List α :=
  match limit with
  | none => entries
  | some count => entries.take count

def title (name : String) : String := "***** " ++ name ++ " *****\n"

def table {α : Type} (name : String) (limit : Option Nat) (entries : List α)
    (row : α → String) : String :=
  title name ++ String.join ((shown limit entries).map row)

def dictionaryRow (entry : Int × String) : String :=
  Column.right 6 (toString entry.1) ++ "  " ++ entry.2 ++ "\n"

def textRow (entry : Nat × String) : String :=
  Hexadecimal.render 6 entry.1 ++ "  " ++ entry.2 ++ "\n"

def hexByte (byte : UInt8) : String :=
  String.ofList (Hexadecimal.digits 2 byte.toNat)

def grammarLine (tokens : List UInt8) : String :=
  "    * " ++ String.intercalate " " (tokens.map hexByte) ++ "\n"

def grammarRow (story : Story) (entry : GrammarEntry) : String :=
  entry.kind.label ++ " " ++
    String.intercalate ", " (entry.verbs.map fun verb => story.word verb.toNat) ++ "\n" ++
    String.join (entry.lines.map grammarLine)

def eventRow (story : Story) (event : Event) : String :=
  let owner := if event.object = 0 then "(global)" else story.objectName event.object.toNat
  Hexadecimal.render 4 event.address.toNat ++ "  " ++ owner ++ " (" ++
    toString event.object.toNat ++ ")\n"

def arrayRow (entry : Nat × List UInt16) : String :=
  "[" ++ toString entry.1 ++ "] (" ++ toString entry.2.length ++ ") [" ++
    String.intercalate ", " (entry.2.map fun word => toString word.toNat) ++ "]\n"

def globalRow (entry : Nat × Int) : String :=
  Column.right 3 (toString entry.1) ++ "  " ++ toString entry.2 ++ "\n"

def specialWordRow (story : Story) (word : SpecialWord) : String :=
  let first := story.word word.first.toNat
  if word.second = 0 then "    " ++ first ++ "\n"
  else "    " ++ first ++ " -> " ++ story.word word.second.toNat ++ "\n"

/-- The limit holds for each category by itself. -/
def categoryRows (story : Story) (limit : Option Nat) (category : WordCategory) : String :=
  category.label ++ ":\n" ++
    String.join ((shown limit (story.specialWords.get category)).map (specialWordRow story))

def sectionText (story : Story) (limit : Option Nat) : Section → String
  | .header => story.summary ++ "\n"
  | .dictionary => table "Dictionary" limit story.dictionary.words.entries dictionaryRow
  | .textBank => table "Text bank" limit story.textBank.texts.entries textRow
  | .objects =>
    table "Objects" limit (List.range story.objects.length) (ObjectView.render story)
  | .grammar => table "Grammar" limit story.grammar (grammarRow story)
  | .events => table "Events" limit story.events (eventRow story)
  | .arrays => table "Arrays" limit story.arrays.entries arrayRow
  | .globals =>
    table "Globals" limit (story.globals.mapIdx fun index value => (index, value)) globalRow
  | .specialWords =>
    title "Special words" ++ String.join (WordCategory.all.map (categoryRows story limit))

def render (story : Story) (settings : Settings) : String :=
  String.join (settings.sections.map (sectionText story settings.maxEntries))

end HugoStory.Report
