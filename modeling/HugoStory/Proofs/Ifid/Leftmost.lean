import HugoStory.Ifid
/-! Where identifiers stand in a text. What the search takes for an identifier is hexadecimal
digits in groups of 8, 4, 4, 4 and 12 joined by hyphens, and of all identifiers in a text it finds
the one that starts first. -/
namespace HugoStory.Ifid

def groupLengths : List Nat := [8, 4, 4, 4, 12]

/-- Groups of digits, joined by hyphens. -/
def Joined (lengths : List Nat) (window : List Char) : Prop :=
  ∃ groups : List (List Char), groups.map List.length = lengths ∧
    (∀ group ∈ groups, ∀ c ∈ group, isHexDigit c = true) ∧
    window = List.intercalate ['-'] groups

def Identifier (window : List Char) : Prop := Joined groupLengths window

namespace Joined

variable {window : List Char}

private theorem singleton_iff {count : Nat} :
    Joined [count] window ↔ window.length = count ∧ ∀ c ∈ window, isHexDigit c = true := by
  constructor
  · rintro ⟨groups, lengths, digits, rfl⟩
    obtain ⟨group, rest, rfl, rfl, none⟩ := List.map_eq_cons_iff.mp lengths
    cases List.map_eq_nil_iff.mp none
    rw [List.intercalate_singleton]
    exact ⟨rfl, digits group (List.mem_singleton.mpr rfl)⟩
  · rintro ⟨rfl, digits⟩
    exact ⟨[window], rfl, by simpa using digits, List.intercalate_singleton.symm⟩

private theorem cons_cons_iff {count next : Nat} {lengths : List Nat} :
    Joined (count :: next :: lengths) window ↔
      ∃ group rest, window = group ++ '-' :: rest ∧ group.length = count ∧
        (∀ c ∈ group, isHexDigit c = true) ∧ Joined (next :: lengths) rest := by
  constructor
  · rintro ⟨groups, sizes, digits, rfl⟩
    obtain ⟨group, groups, rfl, rfl, later⟩ := List.map_eq_cons_iff.mp sizes
    obtain ⟨digit, digits⟩ := List.forall_mem_cons.mp digits
    obtain ⟨second, others, rfl, -, -⟩ := List.map_eq_cons_iff.mp later
    refine ⟨group, _, ?_, rfl, digit, second :: others, later, digits, rfl⟩
    rw [List.intercalate_cons_cons, List.append_assoc, List.singleton_append]
  · rintro ⟨group, _, rfl, rfl, digit, groups, sizes, digits, rfl⟩
    refine ⟨group :: groups, by rw [List.map_cons, sizes],
      List.forall_mem_cons.mpr ⟨digit, digits⟩, ?_⟩
    obtain ⟨second, others, rfl, -, -⟩ := List.map_eq_cons_iff.mp sizes
    rw [List.intercalate_cons_cons, List.append_assoc, List.singleton_append]

end Joined

theorem length_of_identifier {window : List Char} (identifier : Identifier window) :
    window.length = length := by
  simp only [Identifier, groupLengths, Joined.cons_cons_iff, Joined.singleton_iff] at identifier
  obtain ⟨_, _, rfl, first, _, _, _, rfl, second, _, _, _, rfl, third, _, _, _, rfl, fourth, _,
    fifth, _⟩ := identifier
  simp [first, second, third, fourth, fifth, length]

section Starts

variable {place : Nat} {text : List Char}

private theorem startsFrom_length (text : List Char) : startsFrom length text = true := by
  cases text <;> simp [startsFrom]

private theorem startsFrom_of_lt (inside : place < length) :
    startsFrom place text = true ↔
      ∃ c rest, text = c :: rest ∧ fitsAt place c = true ∧ startsFrom (place + 1) rest = true := by
  have unfinished : ¬length ≤ place := Nat.not_le.mpr inside
  cases text with
  | nil => simp [startsFrom, unfinished]
  | cons c rest =>
    simp only [startsFrom, unfinished, decide_false, Bool.false_or, Bool.and_eq_true]
    constructor
    · rintro ⟨fits, later⟩
      exact ⟨c, rest, rfl, fits, later⟩
    · rintro ⟨_, _, same, fits, later⟩
      cases same
      exact ⟨fits, later⟩

private theorem startsFrom_hyphen (inside : place < length) (hyphen : place ∈ hyphenPlaces) :
    startsFrom place text = true ↔
      ∃ rest, text = '-' :: rest ∧ startsFrom (place + 1) rest = true := by
  rw [startsFrom_of_lt inside]
  simp only [fitsAt, if_pos hyphen, beq_iff_eq]
  constructor
  · rintro ⟨_, rest, rfl, rfl, later⟩
    exact ⟨rest, rfl, later⟩
  · rintro ⟨rest, rfl, later⟩
    exact ⟨'-', rest, rfl, rfl, later⟩

private theorem startsFrom_digits {count : Nat} (inside : place + count ≤ length)
    (plain : ∀ hyphen ∈ hyphenPlaces, hyphen < place ∨ place + count ≤ hyphen) :
    startsFrom place text = true ↔
      ∃ digits rest, text = digits ++ rest ∧ digits.length = count ∧
        (∀ c ∈ digits, isHexDigit c = true) ∧ startsFrom (place + count) rest = true := by
  induction count generalizing place text with
  | zero =>
    constructor
    · intro starts
      exact ⟨[], text, rfl, rfl, by simp, starts⟩
    · rintro ⟨digits, rest, rfl, none, -, starts⟩
      cases List.length_eq_zero_iff.mp none
      exact starts
  | succ count ih =>
    have here : place ∉ hyphenPlaces := fun hyphen => by
      have apart := plain place hyphen
      omega
    have later (rest : List Char) := @ih (place + 1) rest (by omega) fun hyphen member => by
      have apart := plain hyphen member
      have differs : hyphen ≠ place := fun same => here (same ▸ member)
      omega
    rw [startsFrom_of_lt (by omega)]
    simp only [fitsAt, if_neg here, later, Nat.add_assoc, Nat.add_comm 1]
    constructor
    · rintro ⟨c, _, rfl, digit, digits, rest, rfl, size, all, starts⟩
      exact ⟨c :: digits, rest, rfl, by simp [size], List.forall_mem_cons.mpr ⟨digit, all⟩, starts⟩
    · rintro ⟨digits, rest, rfl, size, all, starts⟩
      obtain ⟨c, digits, rfl⟩ := List.exists_cons_of_length_eq_add_one size
      obtain ⟨digit, all⟩ := List.forall_mem_cons.mp all
      exact ⟨c, digits ++ rest, rfl, digit, digits, rest, rfl, by simpa using size, all, starts⟩

/-- From `place` on, groups of these lengths fill an identifier up between its hyphens. -/
def Layout : Nat → List Nat → Prop
  | _, [] => False
  | place, [count] =>
    (∀ hyphen ∈ hyphenPlaces, hyphen < place ∨ place + count ≤ hyphen) ∧ place + count = length
  | place, count :: next :: lengths =>
    (∀ hyphen ∈ hyphenPlaces, hyphen < place ∨ place + count ≤ hyphen) ∧
      place + count ∈ hyphenPlaces ∧ place + count < length ∧
      Layout (place + count + 1) (next :: lengths)

private theorem startsFrom_iff_of_layout {lengths : List Nat} (layout : Layout place lengths) :
    startsFrom place text = true ↔ ∃ window rest, text = window ++ rest ∧ Joined lengths window := by
  induction lengths generalizing place text with
  | nil => cases layout
  | cons count lengths ih =>
    cases lengths with
    | nil =>
      obtain ⟨plain, ends⟩ := layout
      simp only [startsFrom_digits (Nat.le_of_eq ends) plain, ends, startsFrom_length, and_true,
        Joined.singleton_iff]
    | cons next lengths =>
      obtain ⟨plain, hyphen, inside, layout⟩ := layout
      simp only [startsFrom_digits (Nat.le_of_lt inside) plain, startsFrom_hyphen inside hyphen,
        ih layout, Joined.cons_cons_iff]
      constructor
      · rintro ⟨digits, _, rfl, size, all, _, rfl, window, rest, rfl, joined⟩
        exact ⟨digits ++ '-' :: window, rest, by simp, digits, window, rfl, size, all, joined⟩
      · rintro ⟨_, rest, rfl, digits, window, rfl, size, all, joined⟩
        exact ⟨digits, '-' :: (window ++ rest), by simp, size, all, _, rfl, window, rest, rfl, joined⟩

private theorem startsFrom_zero_iff :
    startsFrom 0 text = true ↔ ∃ window rest, text = window ++ rest ∧ Identifier window :=
  startsFrom_iff_of_layout (by simp [groupLengths, Layout, hyphenPlaces, length])

end Starts

/-- An identifier in a text that no other one starts before. -/
structure FirstIn (text window : List Char) : Prop where
  identifier : Identifier window
  inside : ∃ before after, text = before ++ (window ++ after) ∧
    ∀ earlier other rest, text = earlier ++ (other ++ rest) → Identifier other →
      before.length ≤ earlier.length

theorem FirstIn.unique {text window other : List Char} (first : FirstIn text window)
    (second : FirstIn text other) : window = other := by
  obtain ⟨identifier, before, after, same, least⟩ := first
  obtain ⟨identifier', before', after', same', least'⟩ := second
  have places : before.length = before'.length :=
    Nat.le_antisymm (least _ _ _ same' identifier') (least' _ _ _ same identifier)
  obtain ⟨rfl, windows⟩ := List.append_inj (same.symm.trans same') places
  have sizes := (length_of_identifier identifier).trans (length_of_identifier identifier').symm
  exact (List.append_inj windows sizes).1

def Free (text : List Char) : Prop :=
  ∀ before window after, text = before ++ (window ++ after) → ¬Identifier window

theorem findIn_cases (text : List Char) :
    (findIn text = none ∧ Free text) ∨ ∃ window, findIn text = some window ∧ FirstIn text window := by
  induction text with
  | nil =>
    refine .inl ⟨rfl, fun before window after same identifier => ?_⟩
    obtain ⟨-, same⟩ := List.append_eq_nil_iff.mp same.symm
    obtain ⟨rfl, -⟩ := List.append_eq_nil_iff.mp same
    exact absurd (length_of_identifier identifier) (by decide)
  | cons c rest ih =>
    rw [findIn]
    by_cases starts : startsFrom 0 (c :: rest) = true
    · obtain ⟨window, after, same, identifier⟩ := startsFrom_zero_iff.mp starts
      rw [if_pos starts, same, ← length_of_identifier identifier, List.take_left]
      exact .inr ⟨window, rfl, identifier, [], after, rfl, fun _ _ _ _ _ => Nat.zero_le _⟩
    -- No identifier starts here, so each one's way to it is by way of `c`.
    · rw [if_neg starts]
      have behind {before window after : List Char} (same : c :: rest = before ++ (window ++ after))
          (identifier : Identifier window) :
          ∃ before', before = c :: before' ∧ rest = before' ++ (window ++ after) := by
        cases before with
        | nil => exact absurd (startsFrom_zero_iff.mpr ⟨window, after, same, identifier⟩) starts
        | cons first before' =>
          obtain ⟨rfl, later⟩ := List.cons_eq_cons.mp same
          exact ⟨before', rfl, later⟩
      obtain ⟨none, free⟩ | ⟨window, found, identifier, before, after, rfl, first⟩ := ih
      · refine .inl ⟨none, fun before window after same identifier => ?_⟩
        obtain ⟨before', -, later⟩ := behind same identifier
        exact free before' window after later identifier
      · refine .inr ⟨window, found, identifier, c :: before, after, rfl, ?_⟩
        intro earlier other more same identifier
        obtain ⟨earlier', rfl, later⟩ := behind same identifier
        exact Nat.succ_le_succ (first earlier' other more later identifier)

theorem findIn_eq_some_iff {text window : List Char} :
    findIn text = some window ↔ FirstIn text window := by
  obtain ⟨none, free⟩ | ⟨found, some, first⟩ := findIn_cases text
  · rw [none]
    refine ⟨nofun, fun ⟨identifier, before, after, same, _⟩ => ?_⟩
    exact absurd identifier (free before window after same)
  · rw [some, Option.some.injEq]
    constructor
    · rintro rfl
      exact first
    · exact fun other => first.unique other

theorem findIn_eq_none_iff {text : List Char} : findIn text = none ↔ Free text := by
  obtain ⟨none, free⟩ | ⟨found, some, first⟩ := findIn_cases text
  · exact iff_of_true none free
  · rw [some]
    refine ⟨nofun, fun free => ?_⟩
    obtain ⟨before, after, same, -⟩ := first.inside
    exact absurd first.identifier (free before found after same)

end HugoStory.Ifid
