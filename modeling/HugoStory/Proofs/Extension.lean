import HugoStory.Proofs.Extension.Marks
/-! Debugging data stays out of the story. Where a file says that debugging data starts, and its
grammar and its streams of overrides end with their marks, nothing that is appended to the file
becomes part of the story, except for the end of a text that the file had broken off. -/
namespace HugoStory

variable {image : Image} {preamble : Preamble} {story : Story}

/-- All that could go on with the file is closed by a mark in it. -/
structure Preamble.Closed (image : Image) (preamble : Preamble) : Prop where
  grammar : ∃ stop, Grammar.ClosedAt image stop
  streams : Object.StreamsClosed image preamble.header.layout.objects
    preamble.counts.objects.toNat preamble.header.layout.properties

private theorem Preamble.textBankEnd_of_debug {start : Nat}
    (debug : preamble.header.debugStart = some start) (positive : 0 < start) (image : Image) :
    preamble.textBankEnd image = start := by
  unfold textBankEnd
  rw [debug]
  exact if_pos positive

theorem Story.Parts.extended {plain : Dictionary} {start : Nat}
    (parts : Parts image preamble plain story)
    (debug : preamble.header.debugStart = some start) (positive : 0 < start)
    (closed : preamble.Closed image) (more : Array UInt8) :
    ∃ bank, TextBank.LastGoesOn story.textBank.texts.entries bank.texts.entries ∧
      (TextBank.Complete image preamble.header.layout.textBank story.textBank →
        bank = story.textBank) ∧
      Parts (image.extended more) preamble plain { story with
        textBank := bank
        ifids := Ifid.findAll (plain.words.values ++ bank.texts.values) } := by
  have alike := Image.kept_alike image more
  have read := parts.textBank
  rw [Preamble.textBankEnd_of_debug debug positive] at read
  obtain ⟨bank, banked, goesOn, same⟩ := TextBank.read_extended more read
  rw [← Preamble.textBankEnd_of_debug debug positive (image.extended more)] at banked
  obtain ⟨stop, grammar⟩ := closed.grammar
  refine ⟨bank, goesOn, same, ?_⟩
  exact {
    arrays := alike.readArrays _ _ _ parts.arrays
    code := alike.readCode _ _ _ parts.code
    dictionary := alike.readDictionary _ _ _ parts.dictionary
    events := alike.readEvents _ _ _ parts.events
    globals := alike.readGlobals _ _ parts.globals
    grammar := Grammar.read_extended parts.grammar grammar
    objects := Object.readTable_extended parts.objects closed.streams
    specialWords := alike.readSpecialWords _ _ _ parts.specialWords
    textBank := banked
    assembled := by
      have assembled := parts.assembled
      rw [assembled] }

/-- What is appended to a file with debugging data never becomes part of its story: the longer file
is the same story, or, if the last text had been broken off, a story that differs in the end of
that text and in the identifiers. -/
theorem Story.read_of_appended {start : Nat} (accepted : Story.read image = .ok story)
    (known : Preamble.read image = .ok preamble)
    (debug : preamble.header.debugStart = some start) (positive : 0 < start)
    (closed : preamble.Closed image) (more : Array UInt8) :
    ∃ whole, Story.read (image.extended more) = .ok whole ∧
      whole = { story with textBank := whole.textBank, ifids := whole.ifids } ∧
      TextBank.LastGoesOn story.textBank.texts.entries whole.textBank.texts.entries ∧
      (TextBank.Complete image preamble.header.layout.textBank story.textBank → whole = story) := by
  obtain ⟨preamble', plain, prepared, parts⟩ := read_eq_ok_iff.mp accepted
  cases known.symm.trans prepared
  obtain ⟨bank, goesOn, same, parts'⟩ := parts.extended debug positive closed more
  refine ⟨_, read_eq_ok_iff.mpr
    ⟨preamble, plain, Preamble.read_extended known debug more, parts'⟩, rfl, goesOn, fun complete => ?_⟩
  rw [same complete, ← parts.ifids_eq]

namespace Blueprint

variable {blueprint : Blueprint}

private theorem Laid.streamsClosed (laid : blueprint.Laid image) (fits : blueprint.Fits) :
    Object.StreamsClosed image blueprint.objectsStart blueprint.counts.objects.toNat
      blueprint.propertiesStart := by
  have count : blueprint.counts.objects.toNat = _ := Word.toNat_count fits.objectCount
  have listed : blueprint.streams.map Prod.snd = blueprint.objects := Record.map_snd_placed _ _ _
  have streams := (contents_of_holds laid.properties).right
  rw [Word.length_flatMap_toBytes, Nat.add_assoc] at streams
  -- Every record of the table is as it was stored, with the place of a stream that is held.
  have run := Record.run_of_holds
    (fun place record => record.width = Object.recordWidth ∧
      ∃ entry ∈ blueprint.streams, image.Holds place (entry.2.store entry.1))
    (fun entry : Nat × ObjectBlueprint => entry.2.store entry.1) Prod.snd
    (contents_of_holds laid.objects) (Nat.le_refl _) fun place entry member here _ =>
      ⟨{ value := entry.2, width := Object.recordWidth, width_pos := by decide },
        ⟨rfl, entry, member, here⟩, rfl, (entry.2.length_store entry.1).symm⟩
  intro index inside
  have length : blueprint.streams.length = blueprint.objects.length := by
    rw [← listed, List.length_map]
  obtain ⟨_, ⟨_, entry, member, here⟩, -⟩ := run.found_at (fun _ _ found => found.1) (by
    rw [List.length_map, ← List.length_map Prod.snd, Record.map_snd_placed, length, ← count]
    exact inside)
  refine ⟨UInt16.ofNat entry.1, ObjectBlueprint.stream_of_holds here, ?_⟩
  rw [Word.toNat_count (fits.streams entry member), Nat.add_comm]
  have storable := fits.overrides entry.2 (listed ▸ List.mem_map_of_mem member)
  obtain ⟨records, stop, run, -, mark⟩ :=
    Override.run_of_holds storable (Record.holds_of_mem_placed streams member)
  exact ⟨records, stop, run, mark⟩

private theorem Laid.closed (laid : blueprint.Laid image) (fits : blueprint.Fits) :
    blueprint.preamble.Closed image where
  grammar := by
    obtain ⟨stop, closed, -⟩ := laid.closedAt fits
    exact ⟨stop, closed⟩
  streams := laid.streamsClosed fits

end Blueprint

/-- A file with debugging data and complete texts, and three bytes behind it. -/
theorem Story.read_of_appended_miniature :
    Story.read Blueprint.miniature.image = .ok Blueprint.miniatureStory ∧
      Preamble.read Blueprint.miniature.image = .ok Blueprint.miniature.preamble ∧
      Blueprint.miniature.preamble.header.debugStart = some Blueprint.miniature.debugStart ∧
      0 < Blueprint.miniature.debugStart ∧
      Blueprint.miniature.preamble.Closed Blueprint.miniature.image ∧
      Story.read (Blueprint.miniature.image.extended #[0xff, 0, 0x2c]) =
        .ok Blueprint.miniatureStory := by
  have laid := Blueprint.miniature.laid
  have fits := Blueprint.miniature_fits
  have accepted := Blueprint.read_miniature
  have known := laid.readPreamble fits
  have closed := laid.closed fits
  have positive : 0 < Blueprint.miniature.debugStart := by decide +kernel
  have complete : TextBank.Complete Blueprint.miniature.image
      Blueprint.miniature.preamble.header.layout.textBank Blueprint.miniatureStory.textBank := by
    have keys : Blueprint.miniatureStory.textBank.texts.keys = [0, 6] := by decide +kernel
    unfold TextBank.Complete
    rw [keys, List.forall_mem_cons, List.forall_mem_singleton]
    exact ⟨⟨4, by decide +kernel, by decide +kernel⟩, ⟨0, by decide +kernel, by decide +kernel⟩⟩
  obtain ⟨whole, read, -, -, same⟩ :=
    Story.read_of_appended accepted known rfl positive closed #[0xff, 0, 0x2c]
  rw [same complete] at read
  exact ⟨accepted, known, rfl, positive, closed, read⟩

end HugoStory
