import HugoStory.Proofs.CommandLine
import HugoStory.Proofs.FileTree
import HugoStory.Proofs.Settings.Written
/-! Options and settings documents ask for the same. What options say about sections and JSON can as
well be written into a new file that the story's path has nothing to do with. -/
namespace HugoStory.CommandLine

variable {files : String → Lookup} {path name : String} {options : List String}
  {choices : List Choice} {sections : List Section} {json : Bool}

private theorem fromUTF8?_toUTF8 (text : String) : String.fromUTF8? text.toUTF8 = some text := by
  unfold String.fromUTF8?
  rw [String.toUTF8_eq_toByteArray, dif_pos text.isValidUTF8]
  rfl

private theorem sections_of_names (named : Choice.names choices = sections.map Section.name) :
    Choice.sections choices = sections := by
  have each : Section.ofName? ∘ Section.name = some := funext Section.ofName?_name
  rw [Choice.sections, named, List.filterMap_map, each, List.filterMap_some]

private theorem overridden_standard (some : sections ≠ [])
    (named : Choice.names choices = sections.map Section.name)
    (asked : Choice.json ∈ choices ↔ json = true) :
    overridden choices .standard = { sections, json, maxEntries := none } := by
  simp [overridden, Settings.standard, sections_of_names named, some, asked]

private theorem overridden_config (settings : Settings) :
    overridden [.config name] settings = settings := by
  simp [overridden, Choice.sections, Choice.names]

private theorem settingsAt_document
    (written : files name = .file (Settings.document sections json).toUTF8) :
    SettingsAt files name { sections, json, maxEntries := none } :=
  ⟨_, _, written, fromUTF8?_toUTF8 _, Settings.ofDocument?_document sections json⟩

private theorem answer_of_settled {settings : Settings} (front : Choice.Front options choices [])
    (settled : SettingsFor files choices settings) :
    answer files path options = (do
      let story ← readStory files path
      return display (overridden choices settings) story) := by
  have chosen : chooseSettings files ((Invocation.ofStory path).asking choices) =
      .ok (overridden choices settings) := chooseSettings_eq_ok_iff.mpr ⟨settings, settled, rfl⟩
  rw [answer_of_front front, chosen]
  rfl

private theorem readStory_congr {files files' : String → Lookup} (same : files' path = files path) :
    readStory files' path = readStory files path := by
  unfold readStory
  rw [same]

private theorem runAs_of_granted {program output : String} {complaint : String → Option String}
    {settings : Settings} {contents : ByteArray} {story loaded : Story}
    (granted : Granted files path options choices settings contents story)
    (filed : loaded = { story with
      file := some { name := (FileTree.lastName? path).getD path, size := contents.size } })
    (shown : (if Choice.json ∈ choices ∨ settings.json = true then loaded.toJson.pretty ++ "\n"
      else Report.render loaded (overridden choices settings)) = output) :
    runAs program complaint files (path :: options) = { exitCode := 0, output, errors := "" } := by
  rw [← shown]
  exact runAs_of_answered (.story granted filed)

/-- Asking by options for some sections, and for JSON or not, comes to the same as asking by a new
file with a document that says so, as long as the path of the story does not stop by that file. -/
theorem runAs_document (program : String) (complaint : String → Option String)
    (files : List (String × ByteArray)) (path : String)
    (front : Choice.Front options choices []) (unsettled : Choice.lastConfig? choices = none)
    (some : sections ≠ []) (named : Choice.names choices = sections.map Section.name)
    (asked : Choice.json ∈ choices ↔ json = true)
    (spare : (FileTree.ofList files).Spare name)
    (unnamed : [name.toList] ∉ (FileTree.ofList files).stopsOn path) :
    runAs program complaint
        (FileTree.ofList ((name, (Settings.document sections json).toUTF8) :: files)).lookup
        [path, "--config", name] =
      runAs program complaint (FileTree.ofList files).lookup (path :: options) := by
  have standard : SettingsFor (FileTree.ofList files).lookup choices .standard := by
    unfold SettingsFor
    rw [unsettled]
  have found : (FileTree.ofList ((name, (Settings.document sections json).toUTF8) :: files)).lookup
      name = .file (Settings.document sections json).toUTF8 := spare.lookup_ofList_cons
  have alone : Choice.Front ["--config", name] [.config name] [] := ⟨by simp [Choice.Known], rfl⟩
  have same : answer
      (FileTree.ofList ((name, (Settings.document sections json).toUTF8) :: files)).lookup path
      ["--config", name] = answer (FileTree.ofList files).lookup path options := by
    rw [answer_of_settled front standard, overridden_standard some named asked,
      answer_of_settled alone (settingsAt_document found), overridden_config,
      readStory_congr (spare.lookup_ofList_cons_of_unnamed unnamed)]
  simp only [runAs, same]

/-- A story shown as JSON, and the same story shown in two sections. -/
theorem runAs_document_cloak :
    let image : ByteArray := ⟨Blueprint.miniature.image.bytes⟩
    let story := FileTree.ofList [("games/cloak.hex", image)]
    let settled sections json := FileTree.ofList
      [("show.toml", (Settings.document sections json).toUTF8), ("games/cloak.hex", image)]
    let loaded := { Blueprint.miniatureStory with file := some { name := "cloak.hex", size := 747 } }
    let asJson : Outcome :=
      { exitCode := 0, output := loaded.toJson.pretty ++ "\n", errors := "" }
    let asText : Outcome :=
      { exitCode := 0
        output :=
          "***** Events *****\n" ++
          "0x0020   (1)\n" ++
          "***** Grammar *****\n" ++
          "verb lamp, get\ufffa\n    * 51\n    * \n" ++
          "xverb \n    * 08 ff 2c\n"
        errors := "" }
    (runAs programName (fun _ => none) (settled [.grammar, .header] true).lookup
        ["games/cloak.hex", "--config", "show.toml"] =
      runAs programName (fun _ => none) story.lookup
        ["games/cloak.hex", "--section", "GRAMMAR", "--json", "--section", "Header"] ∧
    runAs programName (fun _ => none) story.lookup
        ["games/cloak.hex", "--section", "GRAMMAR", "--json", "--section", "Header"] = asJson) ∧
    runAs programName (fun _ => none) (settled [.events, .grammar] false).lookup
        ["games/cloak.hex", "--config", "show.toml"] =
      runAs programName (fun _ => none) story.lookup
        ["games/cloak.hex", "--section", "Events", "--section", "GRAMMAR"] ∧
    runAs programName (fun _ => none) story.lookup
        ["games/cloak.hex", "--section", "Events", "--section", "GRAMMAR"] = asText := by
  intro image story settled loaded asJson asText
  have json : Choice.Front ["--section", "GRAMMAR", "--json", "--section", "Header"]
      [.part "GRAMMAR", .json, .part "Header"] [] := ⟨by decide, rfl⟩
  have text : Choice.Front ["--section", "Events", "--section", "GRAMMAR"]
      [.part "Events", .part "GRAMMAR"] [] := ⟨by decide, rfl⟩
  have spare : story.Spare "show.toml" := ⟨by decide, by decide, rfl⟩
  have unnamed : ["show.toml".toList] ∉ story.stopsOn "games/cloak.hex" := by decide
  have found : story.lookup "games/cloak.hex" = .file image := rfl
  have size : image.size = 747 := by decide +kernel
  have filed : loaded = { Blueprint.miniatureStory with
      file := some {
        name := (FileTree.lastName? "games/cloak.hex").getD "games/cloak.hex"
        size := image.size } } := by
    rw [size]
    rfl
  refine ⟨⟨?_, ?_⟩, ?_, ?_⟩
  · exact runAs_document programName (fun _ => none) [("games/cloak.hex", image)]
      "games/cloak.hex" json rfl (by decide) (by decide) (by decide) spare unnamed
  · exact runAs_of_granted ⟨json, rfl, found, Blueprint.read_miniature⟩ filed (if_pos (by decide))
  · exact runAs_document programName (fun _ => none) [("games/cloak.hex", image)]
      "games/cloak.hex" text rfl (by decide) (by decide) (by decide) spare unnamed
  · refine runAs_of_granted ⟨text, rfl, found, Blueprint.read_miniature⟩ filed ?_
    decide +kernel

end HugoStory.CommandLine
