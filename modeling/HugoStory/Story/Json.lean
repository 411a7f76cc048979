import HugoStory.Json
import HugoStory.Story
/-! Stories as JSON documents. Maps become objects whose members are named by the decimal
form of their keys, in ascending order of the keys. -/
namespace HugoStory

namespace Json

def byte (byte : UInt8) : Json := whole byte.toNat

def word (word : UInt16) : Json := whole word.toNat

def count (number : Nat) : Json := whole number

def texts (contents : List String) : Json := list (contents.map text)

end Json

namespace EntryPoints

def toJson (points : EntryPoints) : Json :=
  .object [
    ("code", .count points.code), ("init", .count points.init), ("main", .count points.main),
    ("parse", .count points.parse), ("parseerror", .count points.parseError),
    ("findobject", .count points.findObject), ("endgame", .count points.endGame),
    ("speakto", .count points.speakTo), ("perform", .count points.perform)]

end EntryPoints

namespace Counts

def toJson (counts : Counts) : Json :=
  .object [
    ("objects", .word counts.objects), ("events", .word counts.events),
    ("dictwords", .word counts.dictionaryWords), ("specialWords", .word counts.specialWords),
    ("properties", .word counts.properties)]

end Counts

namespace PropertyValue

def toJson : PropertyValue → Json
  | value number => .object [("value", .whole number)]
  | routine address => .object [("routine", .word address)]

end PropertyValue

namespace Property

def toJson (property : Property) : Json := .list (property.map PropertyValue.toJson)

end Property

namespace OrderedMap

def toJson {κ α : Type} [ToString κ] (map : OrderedMap κ α) (value : α → Json) : Json :=
  .object (map.entries.map fun (key, held) => (toString key, value held))

end OrderedMap

namespace Object

def toJson (object : Object) : Json :=
  .object [
    ("attributes", .texts object.attributeNames), ("parent", .word object.parent),
    ("sibling", .word object.sibling), ("child", .word object.child),
    ("properties", object.properties.toJson Property.toJson)]

end Object

namespace Dictionary

def toJson (dictionary : Dictionary) : Json := dictionary.words.toJson .text

end Dictionary

namespace TextBank

def toJson (bank : TextBank) : Json := bank.texts.toJson .text

end TextBank

namespace GrammarEntry

def toJson (entry : GrammarEntry) : Json :=
  .object [
    ("type", .text entry.kind.label), ("verbs", .list (entry.verbs.map .word)),
    ("nouns", .list (entry.lines.map fun line => .list (line.map .byte)))]

end GrammarEntry

namespace Event

def toJson (event : Event) : Json :=
  .object [("obj", .word event.object), ("addr", .word event.address)]

end Event

namespace Variables

def arraysToJson (arrays : OrderedMap Nat (List UInt16)) : Json :=
  arrays.toJson fun words => .list (words.map .word)

end Variables

namespace SpecialWord

def toJson (word : SpecialWord) : Json :=
  .object [("addr1", .word word.first), ("addr2", .word word.second)]

end SpecialWord

namespace SpecialWords

def toJson (words : SpecialWords) : Json :=
  .object (WordCategory.all.map fun category =>
    (category.label, .list ((words.get category).map SpecialWord.toJson)))

end SpecialWords

namespace FileInfo

def toJson (file : FileInfo) : Json :=
  .object [("name", .text file.name), ("size", .count file.size)]

end FileInfo

namespace Story

/-- The member for the file is there only if the file is known. -/
def toJson (story : Story) : Json :=
  .object ([
    ("compilerVersion", .tenths story.version.tenths), ("id", .word story.id),
    ("serial", .text story.serial), ("ifids", .texts story.ifids),
    ("addresses", story.entryPoints.toJson), ("counts", story.counts.toJson),
    ("code", .list (story.code.map .byte)), ("objects", .list (story.objects.map Object.toJson)),
    ("dictionary", story.dictionary.toJson), ("textbank", story.textBank.toJson),
    ("grammar", .list (story.grammar.map GrammarEntry.toJson)),
    ("events", .list (story.events.map Event.toJson)),
    ("arrays", Variables.arraysToJson story.arrays),
    ("globals", .list (story.globals.map .whole)),
    ("specialwords", story.specialWords.toJson)] ++
    story.file.toList.map fun file => ("file", file.toJson))

end Story

end HugoStory
