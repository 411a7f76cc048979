/-! Finite maps kept as lists of pairs with ascending keys. A look-up finds the value of the
last insertion under its key, and insertion keeps the keys in order. -/
namespace HugoStory

structure OrderedMap (κ α : Type) where
  entries : List (κ × α)
deriving DecidableEq, Repr

namespace OrderedMap

variable {κ α : Type}

def size (map : OrderedMap κ α) : Nat := map.entries.length

def isEmpty (map : OrderedMap κ α) : Bool := map.entries.isEmpty

def keys (map : OrderedMap κ α) : List κ := map.entries.map Prod.fst

def values (map : OrderedMap κ α) : List α := map.entries.map Prod.snd

/-- No key occurs twice, and each is less than those after it. -/
def Ascending [LT κ] (map : OrderedMap κ α) : Prop := map.keys.Pairwise (· < ·)

def get? [DecidableEq κ] (map : OrderedMap κ α) (key : κ) : Option α :=
  map.entries.lookup key

def insertEntry [LT κ] [DecidableLT κ] [DecidableEq κ] (key : κ) (value : α) :
    List (κ × α) → List (κ × α)
  | [] => [(key, value)]
  | (other, held) :: rest =>
    if key = other then (key, value) :: rest
    else if key < other then (key, value) :: (other, held) :: rest
    else (other, held) :: insertEntry key value rest

def insert [LT κ] [DecidableLT κ] [DecidableEq κ] (map : OrderedMap κ α) (key : κ) (value : α) :
    OrderedMap κ α :=
  ⟨insertEntry key value map.entries⟩

def entriesFrom [LE κ] [DecidableLE κ] (map : OrderedMap κ α) (least : κ) : List (κ × α) :=
  map.entries.filter fun entry => least ≤ entry.1

theorem lookup_entry_cons [DecidableEq κ] (key other : κ) (value : α) (rest : List (κ × α)) :
    ((key, value) :: rest).lookup other = if other = key then some value else rest.lookup other := by
  by_cases same : other = key
  · simp [same]
  · simp [List.lookup_cons, beq_eq_false_iff_ne.mpr same, same]

section Insert

variable [LT κ] [DecidableLT κ] [DecidableEq κ]

private theorem lookup_insertEntry (key other : κ) (value : α) (entries : List (κ × α)) :
    (insertEntry key value entries).lookup other =
      if other = key then some value else entries.lookup other := by
  induction entries with
  | nil => simp only [insertEntry, lookup_entry_cons]
  | cons entry rest ih =>
    obtain ⟨held, old⟩ := entry
    unfold insertEntry
    split
    · rename_i here
      subst here
      by_cases same : other = key <;> simp only [lookup_entry_cons, same, if_true, if_false]
    · rename_i elsewhere
      split
      · simp only [lookup_entry_cons]
      · by_cases found : other = held
        · subst found
          simp only [lookup_entry_cons, if_true, if_neg (Ne.symm elsewhere)]
        · simp only [lookup_entry_cons, if_neg found, ih]

theorem get?_insert (map : OrderedMap κ α) (key other : κ) (value : α) :
    (map.insert key value).get? other = if other = key then some value else map.get? other :=
  lookup_insertEntry key other value map.entries

private theorem mem_keys_insertEntry {key other : κ} {value : α} {entries : List (κ × α)}
    (member : other ∈ (insertEntry key value entries).map Prod.fst) :
    other = key ∨ other ∈ entries.map Prod.fst := by
  induction entries with
  | nil => simpa [insertEntry] using member
  | cons entry rest ih =>
    obtain ⟨held, old⟩ := entry
    unfold insertEntry at member
    split at member
    · rename_i here
      subst here
      simpa using member
    · split at member
      · simpa using member
      · simp only [List.map_cons, List.mem_cons] at member ⊢
        rcases member with here | later
        · exact .inr (.inl here)
        · rcases ih later with new | old
          · exact .inl new
          · exact .inr (.inr old)

theorem ascending_insert (transitive : ∀ a b c : κ, a < b → b < c → a < c)
    (connected : ∀ a b : κ, a ≠ b → ¬a < b → b < a)
    {map : OrderedMap κ α} (ascending : map.Ascending) (key : κ) (value : α) :
    (map.insert key value).Ascending := by
  obtain ⟨entries⟩ := map
  unfold Ascending keys insert at *
  simp only at *
  induction entries with
  | nil => simp [insertEntry]
  | cons entry rest ih =>
    obtain ⟨held, old⟩ := entry
    simp only [List.map_cons, List.pairwise_cons] at ascending
    obtain ⟨below, tail⟩ := ascending
    unfold insertEntry
    split
    · rename_i here
      subst here
      simp only [List.map_cons, List.pairwise_cons]
      exact ⟨below, tail⟩
    · rename_i elsewhere
      split
      · rename_i before
        simp only [List.map_cons, List.pairwise_cons, List.mem_cons]
        refine ⟨?_, below, tail⟩
        rintro other (rfl | later)
        · exact before
        · exact transitive _ _ _ before (below other later)
      · rename_i after
        simp only [List.map_cons, List.pairwise_cons]
        refine ⟨?_, ih tail⟩
        intro other member
        rcases mem_keys_insertEntry member with rfl | later
        · exact connected _ _ elsewhere after
        · exact below other later

end Insert

end OrderedMap

end HugoStory
