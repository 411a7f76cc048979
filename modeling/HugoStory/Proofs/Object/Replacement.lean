import HugoStory.Proofs.Object.Inheritance
/-! What a stream of overrides makes of one property. Overrides of other numbers do not count, and
neither does anything in front of the last one that replaces the whole list. Behind that one, or
behind the default if there is none, only zeros can follow, and many of them do what one does. -/
namespace HugoStory

namespace Override

/-- The list that an override puts in place of the old one. The count zero puts none. -/
def replacement? : Override → Option Property
  | routine _ address => some [.routine address]
  | zeroFirst _ => none
  | words _ held => some (held.map fun word => .value word.toNat)

def settle (number : Nat) (base? : Option Property) (override : Override) : Option Property :=
  if number = override.number.toNat then
    some (override.replacement?.getD (zeroHead (base?.getD [])))
  else base?

private theorem apply_eq_insert (override : Override) (properties : OrderedMap Nat Property) :
    override.apply properties = properties.insert override.number.toNat
      (override.replacement?.getD
        (zeroHead ((properties.get? override.number.toNat).getD []))) := by
  cases override <;> rfl

theorem get?_apply (override : Override) (properties : OrderedMap Nat Property) (number : Nat) :
    (override.apply properties).get? number = settle number (properties.get? number) override := by
  rw [apply_eq_insert, OrderedMap.get?_insert]
  unfold settle
  split
  · rename_i own
    rw [own]
  · rfl

theorem get?_foldl_apply (overrides : List Override) (properties : OrderedMap Nat Property)
    (number : Nat) : (overrides.foldl apply properties).get? number =
      overrides.foldl (settle number) (properties.get? number) := by
  induction overrides generalizing properties with
  | nil => rfl
  | cons override later ih => rw [List.foldl_cons, ih, get?_apply, List.foldl_cons]

theorem ascending_foldl_apply (overrides : List Override) {properties : OrderedMap Nat Property}
    (ascending : properties.Ascending) : (overrides.foldl apply properties).Ascending := by
  induction overrides generalizing properties with
  | nil => exact ascending
  | cons override later ih =>
    refine ih ?_
    rw [apply_eq_insert]
    exact OrderedMap.ascending_insert (fun _ _ _ => Nat.lt_trans)
      (fun _ _ differ notLess => by omega) ascending _ _

/-- No override of this number puts a new list in its place. -/
def Keep (number : Nat) (overrides : List Override) : Prop :=
  ∀ override ∈ overrides, number = override.number.toNat → override.replacement? = none

def zeroedBy (number : Nat) (overrides : List Override) (base? : Option Property) :
    Option Property :=
  if ∃ override ∈ overrides, number = override.number.toNat then
    some (.value 0 :: (base?.getD []).tail)
  else base?

private theorem zeroHead_eq_cons (property : Property) :
    zeroHead property = .value 0 :: property.tail := by
  cases property <;> rfl

private theorem foldl_settle_of_keep {number : Nat} {overrides : List Override}
    (keep : Keep number overrides) (base? : Option Property) :
    overrides.foldl (settle number) base? = zeroedBy number overrides base? := by
  induction overrides generalizing base? with
  | nil => simp [zeroedBy]
  | cons override later ih =>
    unfold Keep at keep
    rw [List.forall_mem_cons] at keep
    rw [List.foldl_cons, ih keep.2]
    unfold settle zeroedBy
    by_cases own : number = override.number.toNat
    · rw [if_pos own, keep.1 own, Option.getD_none, zeroHead_eq_cons, Option.getD_some, List.tail_cons,
        ite_self, if_pos ⟨override, List.mem_cons_self, own⟩]
    · simp [own]

end Override

open Override

/-- A property under a stream of overrides: the default, or what the last replacement puts in its
place, and with a zero in front if an override of the same number comes later. -/
inductive Property.Inherited (default? : Option Property) (number : Nat)
    (overrides : List Override) : Option Property → Prop
  | default (keep : Keep number overrides) :
      Inherited default? number overrides (zeroedBy number overrides default?)
  | replaced {before after : List Override} {last : Override} {property : Property}
      (parts : overrides = before ++ last :: after) (own : number = last.number.toNat)
      (replaces : last.replacement? = some property) (keep : Keep number after) :
      Inherited default? number overrides (zeroedBy number after (some property))

namespace Property

variable {default? : Option Property} {number : Nat} {overrides : List Override}

private theorem keep_or_exists_last (number : Nat) (overrides : List Override) :
    Keep number overrides ∨ ∃ before after last property,
      overrides = before ++ last :: after ∧ number = last.number.toNat ∧
        last.replacement? = some property ∧ Keep number after := by
  induction overrides with
  | nil => exact .inl (by simp [Keep])
  | cons override later ih =>
    rcases ih with keep | ⟨before, after, last, property, parts, own, replaces, keep⟩
    · by_cases own : number = override.number.toNat
      · cases replaces : override.replacement? with
        | none => exact .inl (List.forall_mem_cons.mpr ⟨fun _ => replaces, keep⟩)
        | some property =>
          exact .inr ⟨[], later, override, property, rfl, own, replaces, keep⟩
      · exact .inl (List.forall_mem_cons.mpr ⟨fun same => absurd same own, keep⟩)
    · exact .inr ⟨override :: before, after, last, property, by rw [parts, List.cons_append], own,
        replaces, keep⟩

private theorem foldl_settle_of_replaced {before after : List Override} {last : Override}
    {property : Property} (own : number = last.number.toNat)
    (replaces : last.replacement? = some property) (keep : Keep number after) :
    (before ++ last :: after).foldl (settle number) default? =
      zeroedBy number after (some property) := by
  have here (base? : Option Property) : settle number base? last = some property := by
    unfold settle
    rw [if_pos own, replaces, Option.getD_some]
  rw [List.foldl_append, List.foldl_cons, here, foldl_settle_of_keep keep]

/-- There is always one inherited property, and never another. -/
theorem inherited_iff {property? : Option Property} :
    Inherited default? number overrides property? ↔
      property? = overrides.foldl (settle number) default? := by
  constructor
  · intro inherited
    cases inherited with
    | default keep => exact (foldl_settle_of_keep keep default?).symm
    | replaced parts own replaces keep =>
      rw [parts]
      exact (foldl_settle_of_replaced own replaces keep).symm
  · rintro rfl
    rcases keep_or_exists_last number overrides with
      keep | ⟨before, after, last, property, parts, own, replaces, keep⟩
    · rw [foldl_settle_of_keep keep]
      exact .default keep
    · have settled : overrides.foldl (settle number) default? =
          zeroedBy number after (some property) := by
        rw [parts]
        exact foldl_settle_of_replaced own replaces keep
      rw [settled]
      exact .replaced parts own replaces keep

end Property

end HugoStory
