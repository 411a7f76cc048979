import HugoStory.CommandLine
import HugoStory.Proofs.Invocation
import HugoStory.Proofs.Outcome
import HugoStory.Proofs.RoundTrip
/-! The outcome of the command line is all or nothing. Either a whole answer goes to standard
output and nothing to standard error, or the other way round, and the arguments and the files say
which. -/
namespace HugoStory
open Outcome

namespace CommandLine

variable {files : String → Lookup} {path : String} {options rest : List String}
  {choices : List Choice} {settings : Settings}

def SettingsAt (files : String → Lookup) (name : String) (settings : Settings) : Prop :=
  ∃ contents document, files name = .file contents ∧ String.fromUTF8? contents = some document ∧
    Settings.ofDocument? document = some settings

/-- The settings are those of the last settings file, or the standard ones if there is none. -/
def SettingsFor (files : String → Lookup) (choices : List Choice) (settings : Settings) : Prop :=
  match Choice.lastConfig? choices with
  | none => settings = Settings.standard
  | some name => SettingsAt files name settings

theorem readSettings_eq_ok_iff {name : String} :
    readSettings files name = .ok settings ↔ SettingsAt files name settings := by
  unfold readSettings SettingsAt
  cases files name with
  | missing => simp
  | directory => simp
  | throughFile => simp
  | file contents =>
    cases text : String.fromUTF8? contents with
    | none => simp [text]
    | some document =>
      cases held : Settings.ofDocument? document with
      | none => simp [text, held]
      | some settings => simp [text, held]

theorem answer_of_refused {fault : OptionFault} (front : Choice.Front options choices rest)
    (refused : Refused rest fault) : answer files path options = .error (.options fault) := by
  unfold answer
  rw [front.spelled, Invocation.withOptions_spell front.known, refused.withOptions]
  rfl

theorem answer_of_front (front : Choice.Front options choices []) :
    answer files path options = (do
      let settings ← chooseSettings files ((Invocation.ofStory path).asking choices)
      let story ← readStory files path
      return display settings story) := by
  unfold answer
  rw [front.spelled, Invocation.withOptions_spell front.known]
  rfl

def overridden (choices : List Choice) (settings : Settings) : Settings where
  sections := if Choice.sections choices = [] then settings.sections else Choice.sections choices
  json := decide (Choice.json ∈ choices) || settings.json
  maxEntries := settings.maxEntries

private theorem adjust_asking (path : String) (choices : List Choice) (settings : Settings) :
    ((Invocation.ofStory path).asking choices).adjust settings = overridden choices settings := by
  cases asked : Choice.sections choices <;>
    simp [Invocation.asking, Invocation.adjust, Invocation.ofStory, overridden, asked]

private theorem chooseSettings_of_none {invocation : Invocation}
    (config : invocation.config = none) :
    chooseSettings files invocation = .ok (invocation.adjust .standard) := by
  unfold chooseSettings
  rw [config]
  rfl

theorem chooseSettings_of_some {invocation : Invocation} {name : String}
    (config : invocation.config = some name) :
    chooseSettings files invocation = (do
      let settings ← readSettings files name
      return invocation.adjust settings) := by
  unfold chooseSettings
  rw [config]

theorem chooseSettings_eq_ok_iff {effective : Settings} :
    chooseSettings files ((Invocation.ofStory path).asking choices) = .ok effective ↔
      ∃ settings, SettingsFor files choices settings ∧ effective = overridden choices settings := by
  have config : ((Invocation.ofStory path).asking choices).config = Choice.lastConfig? choices :=
    Option.or_none
  unfold SettingsFor
  cases last : Choice.lastConfig? choices with
  | none =>
    rw [chooseSettings_of_none (config.trans last), adjust_asking]
    simp [eq_comm]
  | some name =>
    rw [chooseSettings_of_some (config.trans last), bind_eq_ok_iff]
    refine exists_congr fun settings => ?_
    simp [adjust_asking, pure, Except.pure, eq_comm, ← readSettings_eq_ok_iff]

theorem readStory_eq_ok_iff {loaded : Story} :
    readStory files path = .ok loaded ↔
      ∃ contents story, files path = .file contents ∧ Story.read ⟨contents.data⟩ = .ok story ∧
        loaded = { story with
          file := some { name := (FileTree.lastName? path).getD path, size := contents.size } } := by
  unfold readStory Story.withFile
  cases files path with
  | missing => simp
  | directory => simp
  | throughFile => simp
  | file contents =>
    cases read : Story.read ⟨contents.data⟩ with
    | error fault => simp [read]
    | ok story => simp [read, eq_comm]

structure Granted (files : String → Lookup) (path : String) (options : List String)
    (choices : List Choice) (settings : Settings) (contents : ByteArray) (story : Story) : Prop where
  wellFormed : Choice.Front options choices []
  settled : SettingsFor files choices settings
  found : files path = .file contents
  accepted : Story.read ⟨contents.data⟩ = .ok story

/-- What a run is to put out, and on what terms. The story is put out with the last name on the path
to its file, and the size of the file. -/
inductive Answered (program : String) (files : String → Lookup) : List String → String → Prop
  | help : Answered program files [] (usage program)
  | story {path : String} {options : List String} {choices : List Choice} {settings : Settings}
      {contents : ByteArray} {story loaded : Story}
      (granted : Granted files path options choices settings contents story)
      (filed : loaded = { story with
        file := some { name := (FileTree.lastName? path).getD path, size := contents.size } }) :
      Answered program files (path :: options)
        (if Choice.json ∈ choices ∨ settings.json = true then loaded.toJson.pretty ++ "\n"
        else Report.render loaded (overridden choices settings))

private theorem display_overridden (choices : List Choice) (settings : Settings) (story : Story) :
    display (overridden choices settings) story =
      if Choice.json ∈ choices ∨ settings.json = true then story.toJson.pretty ++ "\n"
      else Report.render story (overridden choices settings) := by
  simp [display, overridden]

theorem answer_eq_ok_iff {program output : String} :
    answer files path options = .ok output ↔ Answered program files (path :: options) output := by
  constructor
  · intro answered
    obtain ⟨choices, rest, front, rfl | ⟨fault, refused⟩⟩ := Choice.exists_front options
    · rw [answer_of_front front] at answered
      obtain ⟨effective, chosen, answered⟩ := bind_eq_ok_iff.mp answered
      obtain ⟨loaded, read, answered⟩ := bind_eq_ok_iff.mp answered
      obtain ⟨settings, settled, rfl⟩ := chooseSettings_eq_ok_iff.mp chosen
      obtain ⟨contents, story, found, accepted, filed⟩ := readStory_eq_ok_iff.mp read
      cases answered
      rw [display_overridden]
      exact .story ⟨front, settled, found, accepted⟩ filed
    · rw [answer_of_refused front refused] at answered
      cases answered
  · intro answered
    cases answered with
    | story granted filed =>
      rw [answer_of_front granted.wellFormed, ← display_overridden]
      exact bind_eq_ok_iff.mpr ⟨_, chooseSettings_eq_ok_iff.mpr ⟨_, granted.settled, rfl⟩,
        bind_eq_ok_iff.mpr ⟨_, readStory_eq_ok_iff.mpr
          ⟨_, _, granted.found, granted.accepted, filed⟩, rfl⟩⟩

theorem runAs_of_answered {program output : String} {complaint : String → Option String}
    {arguments : List String} (answered : Answered program files arguments output) :
    runAs program complaint files arguments = { exitCode := 0, output, errors := "" } := by
  cases arguments with
  | nil =>
    cases answered
    rfl
  | cons path options => simp only [runAs, answer_eq_ok_iff.mpr answered]

end CommandLine

end HugoStory
