import HugoStory.Proofs.Ifid.Leftmost
import Mathlib.Data.List.Induction
/-! What is gathered from many texts. They are gone through one behind the other, and the first
identifier of each is put behind those gathered before, unless it is among them. -/
namespace HugoStory.Ifid

variable {text id : String} {texts ids : List String}

theorem find_eq_some_iff : find text = some id ↔ FirstIn text.toList id.toList := by
  unfold find
  rw [Option.map_eq_some_iff]
  constructor
  · rintro ⟨window, found, rfl⟩
    rw [String.toList_ofList]
    exact findIn_eq_some_iff.mp found
  · intro first
    exact ⟨id.toList, findIn_eq_some_iff.mpr first, String.ofList_toList⟩

theorem mem_findAll_iff_find : id ∈ findAll texts ↔ ∃ text ∈ texts, find text = some id := by
  unfold findAll
  rw [List.mem_eraseDups, List.mem_filterMap]

theorem mem_findAll_iff : id ∈ findAll texts ↔ ∃ text ∈ texts, FirstIn text.toList id.toList := by
  simp only [mem_findAll_iff_find, find_eq_some_iff]

theorem FirstIn.isInfix {text window : List Char} (first : FirstIn text window) :
    window <:+: text := by
  obtain ⟨before, after, same, -⟩ := first.inside
  exact ⟨before, after, by rw [same, List.append_assoc]⟩

theorem exists_firstIn_of_isInfix {text window : List Char} (inside : window <:+: text)
    (identifier : Identifier window) : ∃ found, FirstIn text found := by
  obtain ⟨before, after, same⟩ := inside
  rw [List.append_assoc] at same
  obtain ⟨-, free⟩ | ⟨found, -, first⟩ := findIn_cases text
  · exact absurd identifier (free before window after same.symm)
  · exact ⟨found, first⟩

theorem nodup_eraseDups (texts : List String) : texts.eraseDups.Nodup := by
  generalize size : texts.length = n
  induction n using Nat.strongRecOn generalizing texts with
  | ind n ih =>
    cases texts with
    | nil => simp
    | cons text rest =>
      rw [List.eraseDups_cons, List.nodup_cons]
      have shorter := List.length_filter_le (fun other => !other == text) rest
      rw [List.length_cons] at size
      refine ⟨by simp [List.mem_eraseDups], ih _ (by omega) _ rfl⟩

theorem findAll_concat_of_none (none : find text = none) :
    findAll (texts ++ [text]) = findAll texts := by
  unfold findAll
  rw [List.filterMap_append, List.filterMap_cons_none none, List.filterMap_nil, List.append_nil]

theorem findAll_concat_of_some (found : find text = some id) :
    findAll (texts ++ [text]) =
      if id ∈ findAll texts then findAll texts else findAll texts ++ [id] := by
  unfold findAll
  rw [List.filterMap_append, List.filterMap_cons_some found, List.filterMap_nil,
    List.eraseDups_append]
  generalize texts.filterMap find = seen
  by_cases known : id ∈ seen <;> simp [List.removeAll, List.eraseDups_cons, known]

/-- The identifiers of texts, listed as they are first seen. -/
inductive Gathered : List String → List String → Prop
  | nil : Gathered [] []
  | free {texts ids : List String} {text : String} (gathered : Gathered texts ids)
      (free : Free text.toList) : Gathered (texts ++ [text]) ids
  | known {texts ids : List String} {text id : String} (gathered : Gathered texts ids)
      (first : FirstIn text.toList id.toList) (known : id ∈ ids) : Gathered (texts ++ [text]) ids
  | new {texts ids : List String} {text id : String} (gathered : Gathered texts ids)
      (first : FirstIn text.toList id.toList) (new : id ∉ ids) :
      Gathered (texts ++ [text]) (ids ++ [id])

theorem find_eq_none_iff : find text = none ↔ Free text.toList := by
  unfold find
  rw [Option.map_eq_none_iff, findIn_eq_none_iff]

theorem gathered_findAll (texts : List String) : Gathered texts (findAll texts) := by
  induction texts using List.reverseRecOn with
  | nil => exact .nil
  | append_singleton texts text ih =>
    cases found : find text with
    | none =>
      rw [findAll_concat_of_none found]
      exact .free ih (find_eq_none_iff.mp found)
    | some id =>
      have first := find_eq_some_iff.mp found
      rw [findAll_concat_of_some found]
      split
      · rename_i known
        exact .known ih first known
      · rename_i new
        exact .new ih first new

/-- There is one way to gather the identifiers of texts. -/
theorem gathered_iff : Gathered texts ids ↔ ids = findAll texts := by
  constructor
  · intro gathered
    induction gathered with
    | nil => rfl
    | free gathered free ih => rw [findAll_concat_of_none (find_eq_none_iff.mpr free), ih]
    | known gathered first known ih =>
      rw [findAll_concat_of_some (find_eq_some_iff.mpr first), if_pos (ih ▸ known), ih]
    | new gathered first new ih =>
      rw [findAll_concat_of_some (find_eq_some_iff.mpr first), if_neg (ih ▸ new), ih]
  · rintro rfl
    exact gathered_findAll texts

end HugoStory.Ifid
