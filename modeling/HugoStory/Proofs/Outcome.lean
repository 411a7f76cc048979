import HugoStory.Fault
/-! How a reading made of several steps ends. It succeeds if every step does, and otherwise it
ends with the fault of the first step that fails. -/
namespace HugoStory.Outcome

variable {ε α β : Type}

section Bind

variable {first : Except ε α} {next : α → Except ε β}

theorem bind_eq_ok_iff {result : β} :
    (first >>= next) = .ok result ↔ ∃ value, first = .ok value ∧ next value = .ok result := by
  cases first with
  | error fault => simp [bind, Except.bind]
  | ok value => simp [bind, Except.bind]

theorem bind_eq_error_iff {fault : ε} :
    (first >>= next) = .error fault ↔
      first = .error fault ∨ ∃ value, first = .ok value ∧ next value = .error fault := by
  cases first with
  | error earlier => simp [bind, Except.bind]
  | ok value => simp [bind, Except.bind]

theorem exists_thenReturn_iff {result : α → β} :
    (∃ last, (first >>= fun value => pure (result value)) = .ok last) ↔ ∃ value, first = .ok value := by
  constructor
  · rintro ⟨last, done⟩
    obtain ⟨value, begun, -⟩ := bind_eq_ok_iff.mp done
    exact ⟨value, begun⟩
  · rintro ⟨value, begun⟩
    exact ⟨result value, bind_eq_ok_iff.mpr ⟨value, begun, rfl⟩⟩

theorem thenReturn_eq_error_iff {result : α → β} {fault : ε} :
    (first >>= fun value => pure (result value)) = .error fault ↔ first = .error fault := by
  rw [bind_eq_error_iff, or_iff_left]
  rintro ⟨value, -, never⟩
  cases never

end Bind

variable {first : Except Fault α} {next : α → Except Fault β}

/-- A reading that fails at all fails with one of the `allowed` faults. -/
def FaultsIn (allowed : Fault → Prop) (outcome : Except Fault α) : Prop :=
  ∀ fault, outcome = .error fault → allowed fault

variable {allowed : Fault → Prop}

theorem FaultsIn.ok (value : α) : FaultsIn allowed (.ok value : Except Fault α) := by
  intro fault failed
  cases failed

theorem FaultsIn.return (value : α) : FaultsIn allowed (pure value : Except Fault α) :=
  FaultsIn.ok value

theorem FaultsIn.error {fault : Fault} (inside : allowed fault) :
    FaultsIn allowed (.error fault : Except Fault α) := by
  intro other failed
  cases failed
  exact inside

theorem FaultsIn.bind (head : FaultsIn allowed first)
    (tail : ∀ value, first = .ok value → FaultsIn allowed (next value)) :
    FaultsIn allowed (first >>= next) := by
  intro fault failed
  rcases bind_eq_error_iff.mp failed with early | ⟨value, done, late⟩
  · exact head fault early
  · exact tail value done fault late

theorem FaultsIn.thenReturn {result : α → β} (head : FaultsIn allowed first) :
    FaultsIn allowed (first >>= fun value => pure (result value)) :=
  head.bind fun _ _ => .return _

theorem FaultsIn.mono {wider : Fault → Prop} {outcome : Except Fault α}
    (inside : FaultsIn allowed outcome) (imply : ∀ fault, allowed fault → wider fault) :
    FaultsIn wider outcome :=
  fun fault failed => imply fault (inside fault failed)

end HugoStory.Outcome
