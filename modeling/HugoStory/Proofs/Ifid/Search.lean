import HugoStory.Proofs.Ifid.Gathered
/-! The search for identifiers, told by places. A place is tried by the window of as many characters
as an identifier has, and the search stops at the first place whose window is one. What many texts
give is gathered text by text: an identifier is put behind those gathered before, unless it is among
them, so that all come in the order in which they are first seen. -/
namespace HugoStory.Ifid

def window (text : List Char) (place : Nat) : List Char := (text.drop place).take length

private theorem window_of_append {before found after : List Char} (size : found.length = length) :
    window (before ++ (found ++ after)) before.length = found := by
  rw [window, List.drop_left, ← size, List.take_left]

private theorem eq_append_window (text : List Char) (place : Nat) :
    text = text.take place ++ (window text place ++ (text.drop place).drop length) := by
  rw [window, List.take_append_drop, List.take_append_drop]

private theorem length_take_of_identifier {text : List Char} {place : Nat}
    (identifier : Identifier (window text place)) : (text.take place).length = place := by
  have size := length_of_identifier identifier
  unfold window length at size
  rw [List.length_take, List.length_drop] at size
  rw [List.length_take]
  omega

private theorem firstIn_iff_window {text found : List Char} :
    FirstIn text found ↔ ∃ place, Identifier (window text place) ∧
      (∀ earlier < place, ¬Identifier (window text earlier)) ∧ found = window text place := by
  constructor
  · rintro ⟨identifier, before, after, same, first⟩
    have here : window text before.length = found := by
      rw [same]
      exact window_of_append (length_of_identifier identifier)
    refine ⟨before.length, here.symm ▸ identifier, fun earlier nearer other => ?_, here.symm⟩
    have least := first _ _ _ (eq_append_window text earlier) other
    rw [length_take_of_identifier other] at least
    exact absurd nearer (Nat.not_lt.mpr least)
  · rintro ⟨place, identifier, least, rfl⟩
    refine ⟨identifier, _, _, eq_append_window text place, fun earlier other rest same found => ?_⟩
    rw [length_take_of_identifier identifier]
    apply Nat.le_of_not_lt
    intro nearer
    apply least earlier.length nearer
    rw [same, window_of_append (length_of_identifier found)]
    exact found

private theorem exists_find_iff_window {text : String} :
    (∃ id, find text = some id) ↔ ∃ place, Identifier (window text.toList place) := by
  constructor
  · rintro ⟨id, found⟩
    obtain ⟨place, identifier, -⟩ := firstIn_iff_window.mp (find_eq_some_iff.mp found)
    exact ⟨place, identifier⟩
  · rintro ⟨place, identifier⟩
    have inside : window text.toList place <:+: text.toList :=
      (List.take_prefix _ _).isInfix.trans (List.drop_suffix _ _).isInfix
    obtain ⟨found, first⟩ := exists_firstIn_of_isInfix inside identifier
    exact ⟨String.ofList found, find_eq_some_iff.mpr (by rwa [String.toList_ofList])⟩

/-- How many texts stand before the first one that has this identifier as its first. -/
def firstSeen (texts : List String) (id : String) : Nat :=
  texts.findIdx fun text => find text = some id

section Gathered

variable {texts : List String} {text id : String}

private theorem firstSeen_lt_iff : firstSeen texts id < texts.length ↔ id ∈ findAll texts := by
  unfold firstSeen
  simp only [List.findIdx_lt_length, decide_eq_true_iff, mem_findAll_iff_find]

private theorem firstSeen_concat_of_mem (member : id ∈ findAll texts) :
    firstSeen (texts ++ [text]) id = firstSeen texts id := by
  have earlier := firstSeen_lt_iff.mpr member
  unfold firstSeen at earlier ⊢
  rw [List.findIdx_append, if_pos earlier]

private theorem le_firstSeen_concat (unseen : id ∉ findAll texts) :
    texts.length ≤ firstSeen (texts ++ [text]) id := by
  rw [← firstSeen_lt_iff] at unseen
  unfold firstSeen at unseen ⊢
  rw [List.findIdx_append, if_neg unseen]
  exact Nat.le_add_left _ _

/-- What is gathered comes in the order in which it is first seen. -/
private theorem pairwise_firstSeen (texts : List String) :
    (findAll texts).Pairwise fun id later => firstSeen texts id < firstSeen texts later := by
  induction texts using List.reverseRecOn with
  | nil => exact .nil
  | append_singleton texts text ih =>
    have kept : (findAll texts).Pairwise fun id later =>
        firstSeen (texts ++ [text]) id < firstSeen (texts ++ [text]) later := by
      refine ih.imp_of_mem fun member later order => ?_
      rwa [firstSeen_concat_of_mem member, firstSeen_concat_of_mem later]
    cases found : find text with
    | none => rwa [findAll_concat_of_none found]
    | some id =>
      rw [findAll_concat_of_some found]
      split
      · exact kept
      · rename_i unseen
        rw [List.pairwise_append]
        refine ⟨kept, List.pairwise_singleton _ _, fun earlier member later last => ?_⟩
        obtain rfl := List.mem_singleton.mp last
        rw [firstSeen_concat_of_mem member]
        exact Nat.lt_of_lt_of_le (firstSeen_lt_iff.mpr member) (le_firstSeen_concat unseen)

end Gathered

/-- A text gives the window of the least place whose window is an identifier, and one that has such a
place gives one. What many texts give is listed once, in the order in which it is first seen. -/
theorem find_window_findAll_firstSeen :
    (∀ text id, find text = some id ↔ ∃ place, Identifier (window text.toList place) ∧
      (∀ earlier < place, ¬Identifier (window text.toList earlier)) ∧
      id.toList = window text.toList place) ∧
    (∀ text, (∃ id, find text = some id) ↔ ∃ place, Identifier (window text.toList place)) ∧
    ∀ texts, (findAll texts).Nodup ∧
      (∀ id, id ∈ findAll texts ↔ ∃ text ∈ texts, find text = some id) ∧
      (findAll texts).Pairwise fun id later => firstSeen texts id < firstSeen texts later := by
  refine ⟨fun text id => ?_, fun text => exists_find_iff_window, fun texts => ⟨?_, fun id => ?_, ?_⟩⟩
  · rw [find_eq_some_iff, firstIn_iff_window]
  · exact nodup_eraseDups _
  · exact mem_findAll_iff_find
  · exact pairwise_firstSeen texts

/-- A broken identifier is not skipped as a whole: a good one begins in it. -/
example : find "00000000-0000-12345678-9abc-DEF0-1234-56789abcdef0" =
    some "12345678-9abc-DEF0-1234-56789abcdef0" := by decide +kernel

end HugoStory.Ifid
