import HugoStory.Invocation
/-! Options as lists of choices. An option that is well formed stands for a choice, and a list of
options is taken up to the first one that does not: such an option is refused, whatever stands
behind it. -/
namespace HugoStory

namespace Section

private theorem ofName?_eq_some_iff {name : String} {choice : Section} :
    ofName? name = some choice ↔ name = choice.name := by
  constructor
  · intro found
    have same := List.find?_some found
    exact (of_decide_eq_true same).symm
  · rintro rfl
    exact ofName?_name choice

private theorem mem_names_iff {name : String} :
    name ∈ all.map Section.name ↔ ∃ choice, ofName? name = some choice := by
  constructor
  · intro member
    obtain ⟨choice, -, rfl⟩ := List.mem_map.mp member
    exact ⟨choice, ofName?_name choice⟩
  · rintro ⟨choice, found⟩
    rw [ofName?_eq_some_iff.mp found]
    exact List.mem_map_of_mem (by cases choice <;> decide)

end Section

inductive Choice
  | json
  | part (spelling : String)
  | config (name : String)
deriving DecidableEq, Repr

namespace Choice

def arguments : Choice → List String
  | json => ["--json"]
  | part spelling => ["--section", spelling]
  | config name => ["--config", name]

def spell (choices : List Choice) : List String := choices.flatMap arguments

/-- Sections go by their names, in capitals or not. -/
def Known : Choice → Prop
  | json => True
  | part spelling => Section.lowerCase spelling ∈ Section.all.map Section.name
  | config _ => True

instance : DecidablePred Known
  | json => inferInstanceAs (Decidable True)
  | part spelling =>
    inferInstanceAs (Decidable (Section.lowerCase spelling ∈ Section.all.map Section.name))
  | config _ => inferInstanceAs (Decidable True)

def names : List Choice → List String
  | [] => []
  | json :: later => names later
  | part spelling :: later => Section.lowerCase spelling :: names later
  | config _ :: later => names later

def sections (choices : List Choice) : List Section :=
  (names choices).filterMap Section.ofName?

def lastConfig? : List Choice → Option String
  | [] => none
  | json :: later => lastConfig? later
  | part _ :: later => lastConfig? later
  | config name :: later => (lastConfig? later).or (some name)

end Choice

namespace Invocation

/-- What is asked for when choices are added to what was asked for before them. -/
def asking (invocation : Invocation) (choices : List Choice) : Invocation where
  story := invocation.story
  config := (Choice.lastConfig? choices).or invocation.config
  json := invocation.json || decide (Choice.json ∈ choices)
  sections := invocation.sections ++ Choice.sections choices

private theorem asking_nil (invocation : Invocation) : invocation.asking [] = invocation := by
  simp [asking, Choice.lastConfig?, Choice.sections, Choice.names]

private theorem asking_cons (invocation : Invocation) (choice : Choice) (later : List Choice) :
    (invocation.asking [choice]).asking later = invocation.asking (choice :: later) := by
  cases choice with
  | json => simp [asking, Choice.lastConfig?, Choice.sections, Choice.names]
  | part spelling =>
    cases wanted : Section.ofName? (Section.lowerCase spelling) <;>
      simp [asking, Choice.lastConfig?, Choice.sections, Choice.names, wanted]
  | config name => simp [asking, Choice.lastConfig?, Choice.sections, Choice.names]

variable {invocation : Invocation}

private theorem withOptions_arguments {choice : Choice} (known : choice.Known)
    (rest : List String) :
    invocation.withOptions (choice.arguments ++ rest) =
      (invocation.asking [choice]).withOptions rest := by
  cases choice with
  | json =>
    rw [Choice.arguments, List.singleton_append, withOptions.eq_def]
    simp [asking, Choice.lastConfig?, Choice.sections, Choice.names]
  | part spelling =>
    obtain ⟨wanted, found⟩ := Section.mem_names_iff.mp known
    simp [Choice.arguments, withOptions, asking, Choice.lastConfig?, Choice.sections, Choice.names,
      Section.parse?, found]
  | config name =>
    simp [Choice.arguments, withOptions, asking, Choice.lastConfig?, Choice.sections, Choice.names]

theorem withOptions_spell {choices : List Choice} (known : ∀ choice ∈ choices, choice.Known)
    (rest : List String) :
    invocation.withOptions (Choice.spell choices ++ rest) =
      (invocation.asking choices).withOptions rest := by
  induction choices generalizing invocation with
  | nil =>
    rw [asking_nil]
    rfl
  | cons choice later ih =>
    rw [List.forall_mem_cons] at known
    unfold Choice.spell at *
    rw [List.flatMap_cons, List.append_assoc, withOptions_arguments known.1, ih known.2, asking_cons]

end Invocation

/-- An option that is refused, and why. What stands behind it does not matter. -/
inductive Refused : List String → OptionFault → Prop
  | withoutSection : Refused ["--section"] .missingSectionName
  | strangeSection {spelling : String} (unknown : ¬(Choice.part spelling).Known)
      (rest : List String) : Refused ("--section" :: spelling :: rest) (.unknownSection spelling)
  | withoutConfig : Refused ["--config"] .missingConfigName
  | stranger {option : String} (unknown : option ∉ ["--json", "--section", "--config"])
      (rest : List String) : Refused (option :: rest) (.unknownOption option)

theorem Refused.withOptions {options : List String} {fault : OptionFault}
    (refused : Refused options fault) (invocation : Invocation) :
    invocation.withOptions options = .error fault := by
  cases refused with
  | withoutSection => rfl
  | @strangeSection spelling unknown rest =>
    have unfound : Section.parse? spelling = none :=
      Option.eq_none_iff_forall_ne_some.mpr fun wanted found =>
        unknown (Section.mem_names_iff.mpr ⟨wanted, found⟩)
    simp [Invocation.withOptions, unfound]
  | withoutConfig => rfl
  | stranger unknown rest =>
    simp only [List.mem_cons, List.not_mem_nil, or_false, not_or] at unknown
    rw [Invocation.withOptions.eq_def]
    simp [unknown]

/-- The options in front, which are all well formed, and what is left of them. -/
structure Choice.Front (options : List String) (choices : List Choice) (rest : List String) :
    Prop where
  known : ∀ choice ∈ choices, choice.Known
  spelled : options = Choice.spell choices ++ rest

private theorem Choice.Front.cons {options rest : List String} {choices : List Choice}
    {choice : Choice}
    (known : choice.Known) (front : Front options choices rest) :
    Front (choice.arguments ++ options) (choice :: choices) rest := by
  refine ⟨List.forall_mem_cons.mpr ⟨known, front.known⟩, ?_⟩
  unfold spell
  rw [List.flatMap_cons, List.append_assoc, front.spelled]
  rfl

/-- Options spell choices up to one that is refused, or to their end. -/
theorem Choice.exists_front (options : List String) :
    ∃ choices rest, Front options choices rest ∧ (rest = [] ∨ ∃ fault, Refused rest fault) := by
  have refused {options : List String} {fault : OptionFault} (first : Refused options fault) :
      ∃ choices rest, Front options choices rest ∧ (rest = [] ∨ ∃ fault, Refused rest fault) :=
    ⟨[], options, ⟨by simp, rfl⟩, .inr ⟨fault, first⟩⟩
  have goesOn (choice : Choice) (known : choice.Known) {options : List String} :
      (∃ choices rest, Front options choices rest ∧ (rest = [] ∨ ∃ fault, Refused rest fault)) →
        ∃ choices rest, Front (choice.arguments ++ options) choices rest ∧
          (rest = [] ∨ ∃ fault, Refused rest fault) := by
    rintro ⟨choices, rest, front, ended⟩
    exact ⟨choice :: choices, rest, front.cons known, ended⟩
  induction Invocation.ofStory "", options using Invocation.withOptions.induct with
  | case1 => exact ⟨[], [], ⟨by simp, rfl⟩, .inl rfl⟩
  | case2 invocation rest ih => exact goesOn .json trivial ih
  | case3 => exact refused .withoutSection
  | case4 invocation spelling rest unfound =>
    refine refused (.strangeSection (fun known => ?_) rest)
    obtain ⟨wanted, found⟩ := Section.mem_names_iff.mp known
    cases unfound.symm.trans found
  | case5 invocation spelling rest wanted found _ ih =>
    exact goesOn (.part spelling) (Section.mem_names_iff.mpr ⟨wanted, found⟩) ih
  | case6 => exact refused .withoutConfig
  | case7 invocation name rest _ _ ih => exact goesOn (.config name) trivial ih
  | case8 invocation option rest notJson notSection notConfig =>
    exact refused (.stranger (by simp [notJson, notSection, notConfig]) rest)

end HugoStory
