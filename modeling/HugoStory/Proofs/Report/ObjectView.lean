import HugoStory.Proofs.OrderedMap
import HugoStory.Proofs.RoundTrip
import HugoStory.Report
/-! What the view of an object hangs on. Of most properties it shows the first value, and only if
that is set. Nouns and adjectives are also shown if there are several, and some numbers are never
asked for. So there are changes to a property that leave no trace in any view, and none in a report
either, since a report asks for nothing of an object but its view and its name. -/
namespace HugoStory

structure Object.SameBut (number : Nat) (object other : Object) : Prop where
  attributes : object.attributes = other.attributes
  parent : object.parent = other.parent
  sibling : object.sibling = other.sibling
  child : object.child = other.child
  property : ∀ key, key ≠ number → object.property? key = other.property? key
  ascending : object.properties.Ascending
  ascending' : other.properties.Ascending

/-- Stories that differ in one property of one object at most. -/
structure Story.SameBut (index number : Nat) (story other : Story) : Prop where
  rest : ∃ objects, other = { story with objects }
  count : story.objects.length = other.objects.length
  elsewhere : ∀ place, place ≠ index → story.object? place = other.object? place
  here : ∀ object object', story.object? index = some object → other.object? index = some object' →
    Object.SameBut number object object'

/-- A property that is absent or empty, or starts with a plain number that is not above zero. Of
nouns and adjectives there is one at most. -/
structure Object.Unset (number : Nat) (object : Object) : Prop where
  first : ∀ value, object.first? number = some value → ∃ held ≤ 0, value = .value held
  single : number = Library.noun ∨ number = Library.adjective →
    ∀ values, object.property? number = some values → values.length ≤ 1

namespace Report.ObjectView

/-- The numbers below those of the exits that have no meaning. -/
def unread : List Nat := [1, 2, 8, 9, 10, 11, 12, 15, 16, 17, 18, 19, 20]

private theorem northTo_add_not_mem_unread (place : Nat) : Library.northTo + place ∉ unread := by
  have low : ∀ number ∈ unread, number < Library.northTo := by decide
  intro member
  have less := low _ member
  omega

private theorem isRoom_eq_firstSet? (object : Object) :
    isRoom object =
      decide (firstSet? object Library.type = some (.value Library.roomType)) := by
  have set : PropertyValue.isSet (.value Library.roomType) = true := by decide
  simp only [isRoom, firstSet?, Option.filter_eq_some_iff, set, and_true]

structure NamedAlike (story other : Story) : Prop where
  word : ∀ address, story.word address = other.word address
  objectName : ∀ place, story.objectName place = other.objectName place

structure SeenAlike (object other : Object) : Prop where
  first : ∀ number, number ∉ unread → firstSet? object number = firstSet? other number
  words : ∀ number, number = Library.noun ∨ number = Library.adjective →
    ∀ story label, wordsLine story object label number = wordsLine story other label number
  custom : String.join (customLines object) = String.join (customLines other)
  attributes : object.attributes = other.attributes
  parent : object.parent = other.parent
  sibling : object.sibling = other.sibling
  child : object.child = other.child

section Views

variable {story other : Story} (named : NamedAlike story other)
include named

private theorem NamedAlike.wordFor (value : PropertyValue) :
    story.wordFor value = other.wordFor value := by
  cases value with
  | value address => exact named.word address
  | routine address => rfl

private theorem NamedAlike.nameOf (value : PropertyValue) :
    story.nameOf value = other.nameOf value := by
  cases value with
  | value index => simp only [Story.nameOf, named.objectName]
  | routine address => rfl

private theorem NamedAlike.show (wording : Wording) (value : PropertyValue) :
    wording.show story value = wording.show other value := by
  cases wording with
  | plain => rfl
  | objectName => exact named.nameOf value
  | word => exact named.wordFor value

private theorem NamedAlike.wordsLine (object : Object) (label : String) (number : Nat) :
    wordsLine story object label number = wordsLine other object label number := by
  simp only [ObjectView.wordsLine, funext named.wordFor]

private theorem NamedAlike.relativeLine (label : String) (relative : UInt16) :
    relativeLine story label relative = relativeLine other label relative := by
  simp only [ObjectView.relativeLine, named.objectName]

variable {object object' : Object} (seen : SeenAlike object object')
include seen

private theorem propertyLine_eq {number : Nat} (asked : number ∉ unread) (label : String)
    (wording : Wording) :
    propertyLine story object label number wording =
      propertyLine other object' label number wording := by
  simp only [propertyLine, seen.first number asked, named.show]

private theorem exitLines_eq : exitLines story object = exitLines other object' := by
  simp only [exitLines, propertyLine_eq named seen (northTo_add_not_mem_unread _)]

private theorem useLines_eq : useLines story object = useLines other object' := by
  simp only [useLines, propertyLine_eq named seen (northTo_add_not_mem_unread _)]

omit named in
private theorem isRoom_eq : isRoom object = isRoom object' := by
  have type := seen.first Library.type (by decide)
  simp only [isRoom_eq_firstSet?, type]

private theorem join_lines_eq (index : Nat) :
    String.join (lines story index object) = String.join (lines other index object') := by
  have property {number : Nat} (asked : number ∉ unread) (label : String) (wording : Wording) :=
    propertyLine_eq named seen asked label wording
  have words {number : Nat} (several : number = Library.noun ∨ number = Library.adjective)
      (label : String) : wordsLine story object label number = wordsLine other object' label number := by
    rw [named.wordsLine, seen.words number several]
  have rank : rankLine object = rankLine object' := by
    simp only [rankLine, seen.first Library.parseRank (by decide)]
  have exclusion : exclusionLine object = exclusionLine object' := by
    simp only [exclusionLine, seen.first Library.excludeFromAll (by decide)]
  have attributes : attributesLine object = attributesLine object' := by
    simp only [attributesLine, Object.attributeNames, seen.attributes]
  unfold lines
  simp only [String.join_append, seen.custom, isRoom_eq seen, exitLines_eq named seen,
    useLines_eq named seen, named.objectName, named.relativeLine, rank, exclusion, attributes,
    seen.parent, seen.child, seen.sibling, words (.inl rfl), words (.inr rfl)]
  simp (disch := decide) only [property]

end Views

section Changes

private theorem join_map_filter {α : Type} {row : α → String} {kept : α → Bool} {entries : List α}
    (empty : ∀ entry ∈ entries, kept entry = false → row entry = "") :
    String.join ((entries.filter kept).map row) = String.join (entries.map row) := by
  induction entries with
  | nil => rfl
  | cons entry rest ih =>
    rw [List.forall_mem_cons] at empty
    have rest := ih empty.2
    cases keep : kept entry with
    | true => simp [keep, rest]
    | false => simp [keep, rest, empty.1 keep]

variable {number : Nat} {object other : Object}

private theorem isSet_of_unset (unset : object.Unset number) {value : PropertyValue}
    (first : object.first? number = some value) : value.isSet = false := by
  obtain ⟨held, le, rfl⟩ := unset.first value first
  exact decide_eq_false (Int.not_lt.mpr le)

private theorem firstSet?_of_unset (unset : object.Unset number) : firstSet? object number = none :=
  Option.filter_eq_none_iff.mpr fun value first => by simp [isSet_of_unset unset first]

private theorem wordsLine_of_unset (unset : object.Unset number)
    (several : number = Library.noun ∨ number = Library.adjective) (story : Story) (label : String) :
    wordsLine story object label number = "" := by
  unfold wordsLine
  cases held : object.property? number with
  | none => rfl
  | some values =>
    have single := unset.single several values held
    have first : values.head?.any PropertyValue.isSet = false := by
      cases head : values.head? with
      | none => rfl
      | some value => exact isSet_of_unset unset (by rw [Object.first?, held]; exact head)
    simp [first, Nat.not_lt.mpr single]

private theorem join_customLines (ascending : object.properties.Ascending)
    (hidden : number < Library.cantGo ∨ object.Unset number) :
    String.join (customLines object) =
      String.join ((object.properties.entries.filter fun entry =>
        decide (Library.cantGo ≤ entry.1 ∧ entry.1 ≠ number)).map fun entry =>
          customLine entry.1 entry.2) := by
  have split : (object.properties.entries.filter fun entry =>
      decide (Library.cantGo ≤ entry.1 ∧ entry.1 ≠ number)) =
      (object.properties.entriesFrom Library.cantGo).filter fun entry => decide (entry.1 ≠ number) := by
    simp only [OrderedMap.entriesFrom, List.filter_filter, Bool.decide_and, Bool.and_comm]
  rw [split, join_map_filter]
  · rfl
  rintro ⟨key, values⟩ member left
  obtain rfl : key = number := by simpa using left
  obtain ⟨member, least⟩ := List.mem_filter.mp member
  have unset := hidden.resolve_left (Nat.not_lt.mpr (of_decide_eq_true least))
  have held : object.property? key = some values :=
    (OrderedMap.mem_entries_iff_of_ascending (fun _ _ => Nat.lt_asymm) ascending).mp member
  have none : values.head?.filter PropertyValue.isSet = none := by
    have first := firstSet?_of_unset unset
    rwa [firstSet?, Object.first?, held] at first
  simp only [customLine, none]

private theorem seenAlike_of_sameBut (same : Object.SameBut number object other)
    (hidden : number ∈ unread ∨ object.Unset number ∧ other.Unset number) :
    SeenAlike object other where
  first asked read := by
    by_cases changed : asked = number
    · obtain ⟨unset, unset'⟩ := hidden.resolve_left (changed ▸ read)
      rw [changed, firstSet?_of_unset unset, firstSet?_of_unset unset']
    · simp only [firstSet?, Object.first?, same.property asked changed]
  words asked several story label := by
    by_cases changed : asked = number
    · subst changed
      have read : asked ∉ unread := by rcases several with rfl | rfl <;> decide
      obtain ⟨unset, unset'⟩ := hidden.resolve_left read
      rw [wordsLine_of_unset unset several, wordsLine_of_unset unset' several]
    · simp only [wordsLine, same.property asked changed]
  custom := by
    have low (unread : number ∈ unread) : number < Library.cantGo := by
      have all : ∀ number ∈ ObjectView.unread, number < Library.cantGo := by decide
      exact all number unread
    let asked (key : Nat) : Bool := decide (Library.cantGo ≤ key ∧ key ≠ number)
    have kept (key : Nat) (there : asked key = true) : object.property? key = other.property? key :=
      same.property key (of_decide_eq_true there).2
    have entries : object.properties.entries.filter (fun entry => asked entry.1) =
        other.properties.entries.filter (fun entry => asked entry.1) :=
      OrderedMap.filter_entries_eq_of_get? (fun _ _ => Nat.lt_asymm) same.ascending same.ascending'
        kept
    rw [join_customLines same.ascending (hidden.imp low And.left),
      join_customLines same.ascending' (hidden.imp low And.right), entries]
  attributes := same.attributes
  parent := same.parent
  sibling := same.sibling
  child := same.child

end Changes

private theorem SeenAlike.refl (object : Object) : SeenAlike object object :=
  ⟨fun _ _ => rfl, fun _ _ _ _ => rfl, rfl, rfl, rfl, rfl, rfl⟩

section Stories

variable {story other : Story} {index number : Nat} (same : story.SameBut index number other)
include same

private theorem object?_sameBut (place : Nat) :
    story.object? place = other.object? place ∨
      ∃ object object', place = index ∧ story.object? place = some object ∧
        other.object? place = some object' ∧ Object.SameBut number object object' := by
  by_cases changed : place = index
  · subst changed
    cases found : story.object? place with
    | none =>
      have beyond := List.getElem?_eq_none_iff.mp found
      exact .inl (List.getElem?_eq_none (same.count ▸ beyond)).symm
    | some object =>
      obtain ⟨inside, -⟩ := List.getElem?_eq_some_iff.mp found
      have found' : other.object? place = some (other.objects.get ⟨place, same.count ▸ inside⟩) :=
        List.getElem?_eq_getElem _
      exact .inr ⟨object, _, rfl, rfl, found', same.here _ _ found found'⟩
  · exact .inl (same.elsewhere place changed)

private theorem namedAlike_of_sameBut (other_name : number ≠ Library.name) :
    NamedAlike story other where
  word address := by
    obtain ⟨objects, rfl⟩ := same.rest
    rfl
  objectName place := by
    have name : (story.object? place).bind (Object.first? · Library.name) =
        (other.object? place).bind (Object.first? · Library.name) := by
      rcases object?_sameBut same place with equal | ⟨object, object', -, found, found', alike⟩
      · rw [equal]
      · rw [found, found']
        simp only [Option.bind_some, Object.first?, alike.property _ other_name.symm]
    obtain ⟨objects, rfl⟩ := same.rest
    unfold Story.objectName
    rw [name]
    rfl

private theorem render_eq_of_sameBut (other_name : number ≠ Library.name)
    (hidden : number ∈ unread ∨ ∀ object, story.object? index = some object ∨
      other.object? index = some object → object.Unset number) (place : Nat) :
    render story place = render other place := by
  have named := namedAlike_of_sameBut same other_name
  unfold render
  rcases object?_sameBut same place with equal | ⟨object, object', rfl, found, found', alike⟩
  · rw [← equal]
    cases story.object? place with
    | none => rfl
    | some object => exact join_lines_eq named (.refl object) place
  · rw [found, found']
    have hidden := hidden.imp id fun unset => And.intro (unset object (.inl found))
      (unset object' (.inr found'))
    exact join_lines_eq named (seenAlike_of_sameBut alike hidden) place

end Stories

end Report.ObjectView

namespace Report
open ObjectView

private theorem sectionText_eq {story other : Story}
    (rest : ∃ objects, other = { story with objects })
    (count : story.objects.length = other.objects.length) (named : NamedAlike story other)
    (views : ∀ place, ObjectView.render story place = ObjectView.render other place)
    (limit : Option Nat) (choice : Section) :
    sectionText story limit choice = sectionText other limit choice := by
  have events : eventRow story = eventRow other := by
    funext event
    simp only [eventRow, named.objectName]
  obtain ⟨objects, rfl⟩ := rest
  cases choice with
  | objects => simp only [sectionText, funext views, count]
  | events => simp only [sectionText, events]
  | _ => rfl

/-- A property that is not the name can be changed without a trace if it has no meaning, or if it is
unset before and after. Every view and every report stays as it was. -/
theorem views_of_sameBut {story other : Story} {index number : Nat}
    (same : story.SameBut index number other) (other_name : number ≠ Library.name)
    (hidden : number ∈ unread ∨ ∀ object, story.object? index = some object ∨
      other.object? index = some object → object.Unset number) :
    (∀ place, ObjectView.render story place = ObjectView.render other place) ∧
      ∀ settings, render story settings = render other settings := by
  have views := render_eq_of_sameBut same other_name hidden
  refine ⟨views, fun settings => ?_⟩
  have named := namedAlike_of_sameBut same other_name
  have sections : sectionText story settings.maxEntries = sectionText other settings.maxEntries :=
    funext (sectionText_eq same.rest same.count named views settings.maxEntries)
  simp only [render, sections]

def lamp : Object where
  attributes := [11]
  parent := 0
  sibling := 0
  child := 0
  properties := ⟨[(Library.name, [.value 5]), (Library.foundIn, [.routine 0x40]),
    (40, [.value 3, .value 0])]⟩

/-- A lamp is given a noun, but with a number below zero. -/
theorem views_of_sameBut_noun :
    let unlit : Object := { lamp with properties := lamp.properties.insert Library.noun [.value (-7)] }
    let story : Story := { Blueprint.miniatureStory with objects := [lamp] }
    let other : Story := { story with objects := [unlit] }
    story.SameBut 0 Library.noun other ∧ unlit ≠ lamp ∧
      (∀ object, story.object? 0 = some object ∨ other.object? 0 = some object →
        object.Unset Library.noun) ∧
      (∀ place, ObjectView.render story place = ObjectView.render other place) ∧
      ∀ settings, render story settings = render other settings := by
  intro unlit story other
  have ascending : lamp.properties.Ascending := by
    unfold OrderedMap.Ascending
    decide
  have inserted : unlit.properties.Ascending := by
    unfold OrderedMap.Ascending
    decide
  have alike : Object.SameBut Library.noun lamp unlit := by
    refine ⟨rfl, rfl, rfl, rfl, fun key elsewhere => ?_, ascending, inserted⟩
    exact ((OrderedMap.get?_insert _ _ _ _).trans (if_neg elsewhere)).symm
  have same : story.SameBut 0 Library.noun other := by
    refine ⟨⟨_, rfl⟩, rfl, fun place elsewhere => ?_, ?_⟩
    · cases place with
      | zero => exact absurd rfl elsewhere
      | succ place => rfl
    · intro object object' found found'
      cases found
      cases found'
      exact alike
  have unset (object : Object)
      (found : story.object? 0 = some object ∨ other.object? 0 = some object) :
      object.Unset Library.noun := by
    rcases found with found | found <;> cases found
    · exact ⟨by rintro _ ⟨⟩, by rintro _ _ ⟨⟩⟩
    · refine ⟨?_, ?_⟩
      · rintro _ ⟨⟩
        exact ⟨-7, by decide, rfl⟩
      · rintro _ _ ⟨⟩
        decide
  exact ⟨same, by decide, unset, views_of_sameBut same (by decide) (.inr unset)⟩

end Report

end HugoStory
