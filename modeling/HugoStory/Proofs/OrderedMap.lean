import HugoStory.OrderedMap
/-! Maps filled by insertion. Entries that come in ascending order are kept as they come: none of
them has the key of another, and none is moved. So a look-up finds each of them. -/
namespace HugoStory.OrderedMap

variable {κ α : Type}

private theorem mem_iff_lookup_of_nodup [DecidableEq κ] {key : κ} {value : α}
    {entries : List (κ × α)}
    (distinct : (entries.map Prod.fst).Nodup) :
    (key, value) ∈ entries ↔ entries.lookup key = some value := by
  induction entries with
  | nil => simp
  | cons entry rest ih =>
    obtain ⟨other, held⟩ := entry
    rw [List.map_cons, List.nodup_cons] at distinct
    obtain ⟨absent, distinct⟩ := distinct
    have later := ih distinct
    rw [List.mem_cons, Prod.mk.injEq, later, lookup_entry_cons]
    by_cases same : key = other
    · subst same
      have unfound : rest.lookup key ≠ some value := by
        intro found
        exact absent (List.mem_map.mpr ⟨_, later.mpr found, rfl⟩)
      simp [unfound, eq_comm]
    · simp [same]

variable [LT κ]

def ofEntries [DecidableLT κ] [DecidableEq κ] (entries : List (κ × α)) : OrderedMap κ α :=
  entries.foldl (fun map entry => map.insert entry.1 entry.2) ⟨[]⟩

variable (asymmetric : ∀ first second : κ, first < second → ¬second < first)
include asymmetric

private theorem ne_of_less {first second : κ} (less : first < second) : second ≠ first := by
  rintro rfl
  exact asymmetric _ _ less less

theorem nodup_keys_of_ascending {map : OrderedMap κ α} (ascending : map.Ascending) :
    map.keys.Nodup :=
  ascending.imp fun less => (ne_of_less asymmetric less).symm

theorem mem_entries_iff_of_ascending [DecidableEq κ] {map : OrderedMap κ α}
    (ascending : map.Ascending) {key : κ} {value : α} :
    (key, value) ∈ map.entries ↔ map.get? key = some value :=
  mem_iff_lookup_of_nodup (nodup_keys_of_ascending asymmetric ascending)

/-- Maps in which a look-up finds the same have the same entries, of those that a look-up is asked
for. -/
theorem filter_entries_eq_of_get? [DecidableEq κ] {map other : OrderedMap κ α}
    (ascending : map.Ascending) (ascending' : other.Ascending) {asked : κ → Bool}
    (same : ∀ key, asked key = true → map.get? key = other.get? key) :
    map.entries.filter (fun entry => asked entry.1) =
      other.entries.filter (fun entry => asked entry.1) := by
  have sorted {map : OrderedMap κ α} (ascending : map.Ascending) :
      (map.entries.filter fun entry => asked entry.1).Pairwise (fun first second =>
        first.1 < second.1) := (List.pairwise_map.mp ascending).filter _
  have distinct {map : OrderedMap κ α} (ascending : map.Ascending) :
      (map.entries.filter fun entry => asked entry.1).Nodup :=
    (sorted ascending).imp fun {_ _} less equal =>
      ne_of_less asymmetric less (congrArg Prod.fst equal).symm
  apply List.Perm.eq_of_pairwise ?_ (sorted ascending) (sorted ascending')
  · rw [List.perm_ext_iff_of_nodup (distinct ascending) (distinct ascending')]
    rintro ⟨key, value⟩
    rw [List.mem_filter, List.mem_filter, mem_entries_iff_of_ascending asymmetric ascending,
      mem_entries_iff_of_ascending asymmetric ascending']
    exact and_congr_left fun there => by rw [same key there]
  · exact fun _ _ _ _ less greater => absurd greater (asymmetric _ _ less)

/-- Maps in which every look-up finds the same are the same. -/
theorem ext_get? [DecidableEq κ] {map other : OrderedMap κ α} (ascending : map.Ascending)
    (ascending' : other.Ascending) (same : ∀ key, map.get? key = other.get? key) : map = other := by
  have entries := @filter_entries_eq_of_get? κ α _ asymmetric _ map other ascending ascending'
    (fun _ => true) fun key _ => same key
  rw [List.filter_eq_self.mpr fun _ _ => rfl, List.filter_eq_self.mpr fun _ _ => rfl] at entries
  exact congrArg OrderedMap.mk entries

variable [DecidableLT κ] [DecidableEq κ]

private theorem insertEntry_of_forall_lt {key : κ} (value : α) {entries : List (κ × α)}
    (last : ∀ other ∈ entries.map Prod.fst, other < key) :
    insertEntry key value entries = entries ++ [(key, value)] := by
  induction entries with
  | nil => rfl
  | cons entry rest ih =>
    obtain ⟨other, held⟩ := entry
    rw [List.map_cons, List.forall_mem_cons] at last
    unfold insertEntry
    rw [if_neg (ne_of_less asymmetric last.1), if_neg (asymmetric _ _ last.1), ih last.2,
      List.cons_append]

private theorem foldl_insert_of_ascending {entries later : List (κ × α)}
    (ascending : ((entries ++ later).map Prod.fst).Pairwise (· < ·)) :
    later.foldl (fun map entry => map.insert entry.1 entry.2) ⟨entries⟩ =
      (⟨entries ++ later⟩ : OrderedMap κ α) := by
  induction later generalizing entries with
  | nil => rw [List.foldl_nil, List.append_nil]
  | cons entry rest ih =>
    have order := ascending
    rw [List.map_append, List.map_cons, List.pairwise_append] at order
    have last (other : κ) (member : other ∈ entries.map Prod.fst) : other < entry.1 :=
      order.2.2 other member entry.1 List.mem_cons_self
    rw [List.append_cons] at ascending ⊢
    rw [List.foldl_cons, ← ih ascending]
    unfold insert
    rw [insertEntry_of_forall_lt asymmetric entry.2 last]

theorem ofEntries_of_ascending {entries : List (κ × α)}
    (ascending : Ascending (⟨entries⟩ : OrderedMap κ α)) : ofEntries entries = ⟨entries⟩ :=
  foldl_insert_of_ascending asymmetric ascending

end HugoStory.OrderedMap
