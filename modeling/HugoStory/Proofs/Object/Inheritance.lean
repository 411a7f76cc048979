import HugoStory.Object
import HugoStory.Proofs.Record.Run
/-! How an object inherits. It starts from the default properties, each a list of one signed
word, and its overrides set lists of unsigned words, routines, or a leading zero. So every
number keeps a list with something in it, and a negative number is always a default that no
override has touched. -/
namespace HugoStory
open Outcome

namespace OrderedMap

variable {α : Type}

private theorem lookup_mapIdx (values : List α) (first key : Nat) :
    (values.mapIdx fun place value => (first + place, value)).lookup key =
      if first ≤ key then values[key - first]? else none := by
  induction values generalizing first with
  | nil => simp
  | cons value rest ih =>
    have shifted : (rest.mapIdx fun place value => (first + (place + 1), value)) =
        rest.mapIdx fun place value => (first + 1 + place, value) := by
      congr 1
      funext place value
      congr 1
      omega
    rw [List.mapIdx_cons, Nat.add_zero, lookup_entry_cons, shifted, ih]
    by_cases here : key = first
    · simp [here]
    · rw [if_neg here]
      by_cases later : first + 1 ≤ key
      · rw [if_pos later, if_pos (by omega)]
        have behind : key - first = key - (first + 1) + 1 := by omega
        rw [behind, List.getElem?_cons_succ]
      · rw [if_neg later, if_neg (by omega)]

theorem get?_mapIdx (values : List α) (key : Nat) :
    (OrderedMap.mk (values.mapIdx Prod.mk)).get? key = values[key]? := by
  have found := lookup_mapIdx values 0 key
  simpa [get?] using found

theorem ascending_mapIdx (values : List α) : (OrderedMap.mk (values.mapIdx Prod.mk)).Ascending := by
  have keys : (values.mapIdx Prod.mk).map Prod.fst = List.range values.length := by
    apply List.ext_getElem
    · simp
    · intro place left right
      simp
  unfold Ascending OrderedMap.keys
  rw [keys]
  exact List.pairwise_lt_range

end OrderedMap

namespace Override

/-- The overrides that a stream can hold: their numbers are not the closing mark, and what
counts their words is neither zero nor the mark of a routine. -/
def Storable : Override → Prop
  | routine number _ => number ≠ 0xff
  | zeroFirst number => number ≠ 0xff
  | words number held => number ≠ 0xff ∧ held ≠ [] ∧ held.length < 255

instance : DecidablePred Storable
  | routine number _ => inferInstanceAs (Decidable (number ≠ 0xff))
  | zeroFirst number => inferInstanceAs (Decidable (number ≠ 0xff))
  | words number held =>
    inferInstanceAs (Decidable (number ≠ 0xff ∧ held ≠ [] ∧ held.length < 255))

def number : Override → UInt8
  | routine number _ => number
  | zeroFirst number => number
  | words number _ => number

private theorem Storable.number_le {override : Override} (storable : override.Storable) :
    override.number.toNat ≤ 254 := by
  have unclosed : override.number ≠ closingMark := by
    cases override with
    | routine number address => exact storable
    | zeroFirst number => exact storable
    | words number held => exact storable.1
  have bound := override.number.toNat_lt
  have differs : override.number.toNat ≠ 255 := fun same => unclosed (UInt8.toNat_inj.mp same)
  omega

variable {image : Image}

theorem storable_of_read {place : Nat} {record : Record Override}
    (read : Override.read image place = .ok (some record)) : record.value.Storable := by
  obtain ⟨number, _, read⟩ := bind_eq_ok_iff.mp read
  split at read
  · cases read
  · rename_i goesOn
    obtain ⟨count, _, read⟩ := bind_eq_ok_iff.mp read
    split at read
    · obtain ⟨address, _, read⟩ := bind_eq_ok_iff.mp read
      cases read
      exact goesOn
    · rename_i unmarked
      split at read
      · cases read
        exact goesOn
      · rename_i nonzero
        obtain ⟨held, taken, read⟩ := bind_eq_ok_iff.mp read
        cases read
        have length := Image.length_of_words taken
        have bound := count.toNat_lt
        have positive : count.toNat ≠ 0 := fun same => nonzero (UInt8.toNat_inj.mp same)
        have below : count.toNat ≠ 255 := fun same => unmarked (UInt8.toNat_inj.mp same)
        refine ⟨goesOn, ?_, by omega⟩
        rintro rfl
        exact positive length.symm

private theorem storable_of_readStream {offset : Nat} {overrides : List Override}
    (read : readStream image offset = .ok overrides) :
    ∀ override ∈ overrides, override.Storable := by
  obtain ⟨records, done, read⟩ := bind_eq_ok_iff.mp read
  cases read
  obtain ⟨stop, run, _⟩ := Record.readUpTo_eq_ok_iff.mp done
  intro override member
  obtain ⟨⟨place, value⟩, inside, rfl⟩ := List.mem_map.mp member
  obtain ⟨_, record, found, same⟩ := run.found inside
  rw [← same]
  exact storable_of_read found.2

end Override

/-- What a list of values may be, given the default of its number: never empty, of words read
with or without a sign, and with a sign only if it is the default itself. -/
structure Property.Allowed (default? : Option Property) (property : Property) : Prop where
  filled : property ≠ []
  ranged : ∀ value, .value value ∈ property → -32768 ≤ value ∧ value ≤ 65535
  untouched : ∀ value, .value value ∈ property → value < 0 → default? = some property

def Property.Defaults (defaults : List Property) : Prop :=
  ∀ property ∈ defaults, ∃ word, property = [.value (Word.signed word)]

structure Object.Inherits (defaults : List Property) (properties : OrderedMap Nat Property) :
    Prop where
  ascending : properties.Ascending
  complete : ∀ number < defaults.length, (properties.get? number).isSome
  numbered : ∀ number property, properties.get? number = some property →
    number < defaults.length ∨ number ≤ 254
  allowed : ∀ number property, properties.get? number = some property →
    property.Allowed defaults[number]?

namespace Object

variable {defaults : List Property} {properties : OrderedMap Nat Property}

theorem inherits_numbered (plain : Property.Defaults defaults)
    (short : defaults.length ≤ numberLimit) : Inherits defaults (numbered defaults) := by
  rw [numbered_of_length_le short]
  have inside {number : Nat} {property : Property}
      (found : (OrderedMap.mk (defaults.mapIdx Prod.mk)).get? number = some property) :
      defaults[number]? = some property := by rwa [OrderedMap.get?_mapIdx] at found
  refine ⟨OrderedMap.ascending_mapIdx defaults, ?_, ?_, ?_⟩
  · intro number bound
    rw [OrderedMap.get?_mapIdx, List.getElem?_eq_getElem bound]
    rfl
  · intro number property found
    obtain ⟨bound, _⟩ := List.getElem?_eq_some_iff.mp (inside found)
    exact .inl bound
  · intro number property found
    obtain ⟨word, rfl⟩ := plain property (List.mem_of_getElem? (inside found))
    have range := Word.signed_range word
    refine ⟨List.cons_ne_nil _ _, ?_, fun _ _ _ => inside found⟩
    intro value member
    cases List.mem_singleton.mp member
    omega

theorem Inherits.insert (inherits : Inherits defaults properties) {number : Nat}
    {property : Property} (small : number ≤ 254) (allowed : property.Allowed defaults[number]?) :
    Inherits defaults (properties.insert number property) := by
  refine ⟨?_, ?_, ?_, ?_⟩
  · exact OrderedMap.ascending_insert (fun _ _ _ => Nat.lt_trans)
      (fun _ _ differ notLess => by omega) inherits.ascending number property
  · intro other bound
    rw [OrderedMap.get?_insert]
    split
    · rfl
    · exact inherits.complete other bound
  · intro other held found
    rw [OrderedMap.get?_insert] at found
    split at found
    · rename_i same
      exact .inr (same ▸ small)
    · exact inherits.numbered other held found
  · intro other held found
    rw [OrderedMap.get?_insert] at found
    split at found
    · rename_i same
      cases found
      exact same ▸ allowed
    · exact inherits.allowed other held found

private theorem allowed_words {default? : Option Property} {held : List UInt16}
    (nonempty : held ≠ []) :
    Property.Allowed default? (held.map fun word => .value word.toNat) := by
  have unsigned {value : Int}
      (member : PropertyValue.value value ∈ held.map fun word => .value word.toNat) :
      0 ≤ value ∧ value ≤ 65535 := by
    obtain ⟨word, _, same⟩ := List.mem_map.mp member
    cases same
    have bound := word.toNat_lt
    omega
  refine ⟨by simpa using nonempty, ?_, ?_⟩
  · intro value member
    have range := unsigned member
    omega
  · intro value member negative
    have range := unsigned member
    omega

/-- A zero in front replaces the sign if there was one, as only defaults have a sign and they
hold one value alone. -/
private theorem allowed_zeroHead (plain : Property.Defaults defaults)
    (inherits : Inherits defaults properties) (number : Nat) :
    Property.Allowed defaults[number]?
      (Override.zeroHead ((properties.get? number).getD [])) := by
  cases found : properties.get? number with
  | none =>
    refine ⟨List.cons_ne_nil _ _, ?_, ?_⟩
    · intro value member
      cases List.mem_singleton.mp member
      omega
    · intro value member negative
      cases List.mem_singleton.mp member
      omega
  | some property =>
    have allowed := inherits.allowed number property found
    obtain ⟨first, rest, rfl⟩ := List.exists_cons_of_ne_nil allowed.filled
    refine ⟨List.cons_ne_nil _ _, ?_, ?_⟩
    · intro value member
      rcases List.mem_cons.mp member with zero | later
      · cases zero
        omega
      · exact allowed.ranged value (List.mem_cons_of_mem _ later)
    · intro value member negative
      rcases List.mem_cons.mp member with zero | later
      · cases zero
        omega
      · have default := allowed.untouched value (List.mem_cons_of_mem _ later) negative
        obtain ⟨word, single⟩ := plain _ (List.mem_of_getElem? default)
        cases single
        cases later

theorem Inherits.apply (plain : Property.Defaults defaults)
    (inherits : Inherits defaults properties) {override : Override} (storable : override.Storable) :
    Inherits defaults (override.apply properties) := by
  have small := storable.number_le
  cases override with
  | routine number address =>
    refine inherits.insert small ⟨List.cons_ne_nil _ _, ?_, ?_⟩
    · intro value member
      cases List.mem_singleton.mp member
    · intro value member negative
      cases List.mem_singleton.mp member
  | zeroFirst number => exact inherits.insert small (allowed_zeroHead plain inherits _)
  | words number held => exact inherits.insert small (allowed_words storable.2.1)

theorem Inherits.foldl (plain : Property.Defaults defaults)
    (inherits : Inherits defaults properties) {overrides : List Override}
    (storable : ∀ override ∈ overrides, override.Storable) :
    Inherits defaults (overrides.foldl Override.apply properties) := by
  induction overrides generalizing properties with
  | nil => exact inherits
  | cons override rest ih =>
    have first := storable override List.mem_cons_self
    exact ih (inherits.apply plain first) fun other member =>
      storable other (List.mem_cons_of_mem _ member)

variable {image : Image}

theorem width_of_readRecord {place propertyTable : Nat} {defaults : OrderedMap Nat Property}
    {record : Record Object} (read : readRecord image propertyTable defaults place = .ok record) :
    record.width = recordWidth := by
  obtain ⟨bits, _, read⟩ := bind_eq_ok_iff.mp read
  obtain ⟨parent, _, read⟩ := bind_eq_ok_iff.mp read
  obtain ⟨sibling, _, read⟩ := bind_eq_ok_iff.mp read
  obtain ⟨child, _, read⟩ := bind_eq_ok_iff.mp read
  obtain ⟨stream, _, read⟩ := bind_eq_ok_iff.mp read
  obtain ⟨overrides, _, read⟩ := bind_eq_ok_iff.mp read
  cases read
  rfl

private theorem inherits_of_readRecord {place propertyTable : Nat} {record : Record Object}
    (plain : Property.Defaults defaults) (inherits : Inherits defaults properties)
    (read : readRecord image propertyTable properties place = .ok record) :
    Inherits defaults record.value.properties := by
  obtain ⟨bits, _, read⟩ := bind_eq_ok_iff.mp read
  obtain ⟨parent, _, read⟩ := bind_eq_ok_iff.mp read
  obtain ⟨sibling, _, read⟩ := bind_eq_ok_iff.mp read
  obtain ⟨child, _, read⟩ := bind_eq_ok_iff.mp read
  obtain ⟨stream, _, read⟩ := bind_eq_ok_iff.mp read
  obtain ⟨overrides, streamed, read⟩ := bind_eq_ok_iff.mp read
  cases read
  exact inherits.foldl plain (Override.storable_of_readStream streamed)

theorem inherits_of_readTable {offset count propertyTable : Nat} {objects : List Object}
    (plain : Property.Defaults defaults) (short : defaults.length ≤ numberLimit)
    (read : readTable image offset count propertyTable defaults = .ok objects) :
    objects.length = count ∧ ∀ object ∈ objects, Inherits defaults object.properties := by
  obtain ⟨records, done, read⟩ := bind_eq_ok_iff.mp read
  cases read
  obtain ⟨length, stop, run⟩ := Record.readCount_eq_ok_iff.mp done
  refine ⟨by simpa using length, ?_⟩
  intro object member
  obtain ⟨⟨place, value⟩, inside, rfl⟩ := List.mem_map.mp member
  obtain ⟨_, record, found, same⟩ := run.found inside
  rw [← same]
  exact inherits_of_readRecord plain (inherits_numbered plain short) found

end Object

end HugoStory
