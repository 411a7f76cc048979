import HugoStory.Story
import HugoStory.Text.Column
/-! The summary of a story: one line for each of its main facts. -/
namespace HugoStory.Story

def summaryLine (label fact : String) : String := Text.Column.left 26 label ++ fact ++ "\n"

/-- The id of a story that was compiled from precompiled headers. -/
def precompiledId : UInt16 := 0x2424

def idText (id : UInt16) : String :=
  let number := Text.Hexadecimal.render 4 id.toNat
  if id = precompiledId then number ++ " (\"$$\", precompiled headers)" else number

def fileLine : Option FileInfo → String
  | none => ""
  | some file => summaryLine "File:" (file.name ++ " (" ++ toString file.size ++ " bytes)")

def summary (story : Story) : String :=
  fileLine story.file ++
  summaryLine "Compiler version:" story.version.toText ++
  summaryLine "Id:" (idText story.id) ++
  summaryLine "Serial number:" story.serial ++
  summaryLine "IFID:" (String.intercalate ", " story.ifids) ++
  summaryLine "Objects:" (toString story.counts.objects.toNat) ++
  summaryLine "Properties:" (toString story.counts.properties.toNat) ++
  summaryLine "Events:" (toString story.counts.events.toNat) ++
  summaryLine "Dictionary words:" (toString story.counts.dictionaryWords.toNat) ++
  summaryLine "Special words:" (toString story.counts.specialWords.toNat) ++
  summaryLine "Text bank strings:" (toString story.textBank.size) ++
  summaryLine "Grammar entries:" (toString story.grammar.length) ++
  summaryLine "Code size:" (Text.Hexadecimal.render 4 story.code.length)

end HugoStory.Story
