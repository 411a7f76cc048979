import HugoStory.Proofs.CommandLine
/-! What the outcome of the command line hangs on. Of options that are all well formed the order
does not count, nor how often they are given, but for the order of the sections and for the last
settings file. An option that is refused decides the outcome before any file is looked at, and
settings that cannot be had decide it before the story is. -/
namespace HugoStory

/-- The same sections in the same order, the same last settings file, and JSON from both or from
neither. -/
structure Choice.Alike (first second : List Choice) : Prop where
  names : names first = names second
  lastConfig : lastConfig? first = lastConfig? second
  json : Choice.json ∈ first ↔ Choice.json ∈ second

theorem Choice.Alike.asking {first second : List Choice} (alike : Alike first second)
    (invocation : Invocation) : invocation.asking first = invocation.asking second := by
  unfold Invocation.asking Choice.sections
  rw [alike.names, alike.lastConfig, decide_eq_decide.mpr alike.json]

namespace CommandLine

variable {options options' rest : List String} {choices choices' : List Choice}
  {complaint : String → Option String}

def refused (complaint : String → Option String) (refusal : Refusal) : Outcome :=
  { exitCode := 1, output := "", errors := refusal.report complaint }

private theorem runAs_of_error {program path : String} {files : String → Lookup} {refusal : Refusal}
    (failed : answer files path options = .error refusal) :
    runAs program complaint files (path :: options) = refused complaint refusal := by
  simp only [runAs, failed, refused]

private theorem runAs_of_alike (program : String) (files : String → Lookup) (path : String)
    (front : Choice.Front options choices []) (front' : Choice.Front options' choices' [])
    (alike : Choice.Alike choices choices') :
    runAs program complaint files (path :: options) =
      runAs program complaint files (path :: options') := by
  have same : answer files path options = answer files path options' := by
    rw [answer_of_front front, answer_of_front front', alike.asking]
  simp only [runAs, same]

private theorem runAs_of_refused (program : String) (files : String → Lookup) (path : String)
    {fault : OptionFault} (front : Choice.Front options choices rest) (first : Refused rest fault) :
    runAs program complaint files (path :: options) = refused complaint (.options fault) :=
  runAs_of_error (answer_of_refused front first)

private theorem readSettings_congr {files files' : String → Lookup} {name : String}
    (same : files' name = files name) : readSettings files' name = readSettings files name := by
  unfold readSettings
  rw [same]

private theorem runAs_of_unsettled (program : String) {files : String → Lookup} (path : String)
    {name : String} (front : Choice.Front options choices [])
    (last : Choice.lastConfig? choices = some name) {refusal : Refusal}
    (failed : readSettings files name = .error refusal) :
    runAs program complaint files (path :: options) = refused complaint refusal := by
  apply runAs_of_error
  have config : ((Invocation.ofStory path).asking choices).config = some name :=
    Option.or_none.trans last
  rw [answer_of_front front, chooseSettings_of_some config, failed]
  rfl

/-- Well-formed options that ask for the same count the same. The first option that is refused
decides alone, and so does what the last settings file leads to if no settings can be had there. -/
theorem runAs_decided (program : String) (complaint : String → Option String) :
    (∀ files path options options' choices choices', Choice.Front options choices [] →
      Choice.Front options' choices' [] → Choice.Alike choices choices' →
        runAs program complaint files (path :: options) =
          runAs program complaint files (path :: options')) ∧
    (∀ options, (∃ choices, Choice.Front options choices []) ∨
      ∃ before rest fault, Choice.Front options before rest ∧ Refused rest fault) ∧
    (∀ options before rest fault, Choice.Front options before rest → Refused rest fault →
      ∀ files path,
        runAs program complaint files (path :: options) = refused complaint (.options fault)) ∧
    ∀ files files' path path' options options' choices choices' name,
      Choice.Front options choices [] → Choice.Front options' choices' [] →
      Choice.lastConfig? choices = some name → Choice.lastConfig? choices' = some name →
      files' name = files name → (¬∃ settings, SettingsAt files name settings) →
        runAs program complaint files' (path' :: options') =
          runAs program complaint files (path :: options) := by
  refine ⟨?_, ?_, ?_, ?_⟩
  · intro files path options options' choices choices' front front' alike
    exact runAs_of_alike program files path front front' alike
  · intro options
    obtain ⟨before, rest, front, rfl | ⟨fault, first⟩⟩ := Choice.exists_front options
    · exact .inl ⟨before, front⟩
    · exact .inr ⟨before, rest, fault, front, first⟩
  · intro options before rest fault front first files path
    exact runAs_of_refused program files path front first
  · intro files files' path path' options options' choices choices' name front front' last last'
      same unsettled
    cases read : readSettings files name with
    | ok settings => exact absurd ⟨settings, readSettings_eq_ok_iff.mp read⟩ unsettled
    | error refusal =>
      rw [runAs_of_unsettled program path front last read,
        runAs_of_unsettled program path' front' last' ((readSettings_congr same).trans read)]

/-- An interleaving, a section that does not exist, a settings file that is not there, and one that
sets JSON to a number. -/
theorem runAs_decided_interleaved :
    let spoiled := Lookup.file "json = 1".toUTF8
    (∀ complaint files path,
      runAs programName complaint files
          [path, "--config", "a", "--section", "GRAMMAR", "--config", "b"] =
        runAs programName complaint files [path, "--section", "grammar", "--config", "b"]) ∧
    (∀ complaint files path,
      runAs programName complaint files [path, "--json", "--section", "verbs", "--colour"] =
        refused complaint (.options (.unknownSection "verbs"))) ∧
    (∀ complaint path,
      runAs programName complaint (fun _ => .missing) [path, "--json", "--config", "b"] =
        runAs programName complaint (fun name => if name = "b" then .missing else .directory)
          ["c", "--config", "b"]) ∧
    ∀ complaint path,
      runAs programName complaint (fun name => if name = "b" then spoiled else .missing)
          [path, "--json", "--config", "b"] =
        runAs programName complaint (fun name => if name = "b" then spoiled else .directory)
          ["c", "--config", "b"] := by
  intro spoiled
  refine ⟨fun complaint files path => ?_, fun complaint files path => ?_, fun complaint path => ?_,
    fun complaint path => ?_⟩
  all_goals obtain ⟨order, -, malformed, settings⟩ := runAs_decided programName complaint
  · exact order files path _ _ [.config "a", .part "GRAMMAR", .config "b"]
      [.part "grammar", .config "b"] ⟨by decide, rfl⟩ ⟨by decide, rfl⟩ ⟨by decide, rfl, by decide⟩
  · exact malformed _ [.json] _ _ ⟨by decide, rfl⟩ (.strangeSection (by decide) ["--colour"]) files path
  · exact settings _ _ _ _ _ _ [.config "b"] [.json, .config "b"] "b" ⟨by decide, rfl⟩
      ⟨by decide, rfl⟩ rfl rfl rfl (by rintro ⟨settings, contents, document, found, -⟩; cases found)
  · refine settings _ _ _ _ _ _ [.config "b"] [.json, .config "b"] "b" ⟨by decide, rfl⟩
      ⟨by decide, rfl⟩ rfl rfl rfl ?_
    rintro ⟨settings, held⟩
    have refused : readSettings (fun name => if name = "b" then spoiled else .directory) "b" =
      .error (.invalidConfig "json = 1") := by decide +kernel
    rw [readSettings_eq_ok_iff.mpr held] at refused
    cases refused

end CommandLine

end HugoStory
