import HugoStory.Proofs.Truncation.Survival
/-! Truncation. A story file that was cut short is never taken for a file with another defect:
if the whole file is a story, the cut one is a story too or is reported to end too early. And
what is read with checked bounds alone is the same in both stories; only the texts, the
identifiers among them, the grammar and the properties of objects can be cut off quietly. -/
namespace HugoStory
open Image

structure Object.SameRecord (object object' : Object) : Prop where
  attributes : object.attributes = object'.attributes
  parent : object.parent = object'.parent
  sibling : object.sibling = object'.sibling
  child : object.child = object'.child

/-- The two stories agree in everything whose reading never ends quietly with the file. -/
structure Story.SameChecked (story story' : Story) : Prop where
  version : story.version = story'.version
  id : story.id = story'.id
  serial : story.serial = story'.serial
  entryPoints : story.entryPoints = story'.entryPoints
  counts : story.counts = story'.counts
  code : story.code = story'.code
  arrays : story.arrays = story'.arrays
  globals : story.globals = story'.globals
  events : story.events = story'.events
  specialWords : story.specialWords = story'.specialWords
  dictionary : story.dictionary = story'.dictionary
  objects : List.Forall₂ Object.SameRecord story.objects story'.objects
  file : story.file = story'.file

variable {image : Image} {more : Array UInt8}

namespace Header

private theorem survives_read :
    Survives image (fun header header' => header' = { header with debugStart := header'.debugStart })
      (Header.read image) (Header.read (image.extended more)) := by
  have alike := survives_alike image more
  unfold Header.read
  refine alike.readVersion.bindSame fun version => ?_
  refine (alike.wordAt _ _).bindSame fun id => ?_
  refine alike.readSerial.bindSame fun serial => ?_
  refine alike.readLayout.bindSame fun layout => ?_
  refine (alike.readEntryPoints _).bindSame fun entryPoints => ?_
  exact (Survives.of_faultsIn faultsIn_readDebugStart).bind fun _ _ _ => .agreed rfl

end Header

/-- All that is known before the sections is the same, but for the start of debugging data. -/
def Preamble.SameButDebug (preamble preamble' : Preamble) : Prop :=
  preamble' = { preamble with
    header := { preamble.header with debugStart := preamble'.header.debugStart } }

private theorem Preamble.survives_read :
    Survives image SameButDebug (Preamble.read image) (Preamble.read (image.extended more)) := by
  have alike := survives_alike image more
  unfold Preamble.read
  refine Header.survives_read.bind fun header header' same => ?_
  rw [same]
  refine (alike.readCounts _).bindSame fun counts => ?_
  exact (alike.readDefaults _ _).bindSame fun defaults => .agreed rfl

namespace Grammar

private theorem survives_collectLines (offset : Nat) (seen : List (List UInt8)) :
    Survives image (fun found found' => found.2 = found'.2 ∨ image.size ≤ found.2)
      (collectLines image offset seen) (collectLines (image.extended more) offset seen) := by
  generalize remaining : image.size - offset = n
  induction n using Nat.strongRecOn generalizing offset seen with
  | ind n ih =>
    by_cases inside : offset < image.size
    · have inside' : offset < (image.extended more).size :=
        Nat.lt_of_lt_of_le inside size_le_extended
      rw [collectLines_of_lt inside, collectLines_of_lt inside']
      refine ((survives_alike image more).readLine offset).bindSame fun line => ?_
      refine (survives_byteAt _).bindSame fun byte => ?_
      split
      · have positive := line.width_pos
        exact ih _ (by omega) _ _ rfl
      · split
        · exact .agreed (.inl rfl)
        · exact .refused
    · have outside := Nat.not_lt.mp inside
      rw [collectLines_of_le outside]
      cases collectLines (image.extended more) offset seen with
      | error fault => exact .refused
      | ok found => exact .agreed (.inr outside)

private theorem survives_readLines (place : Nat) :
    Survives image (fun found found' => found.2 = found'.2 ∨ image.size ≤ place + found.2)
      (readLines image place) (readLines (image.extended more) place) := by
  apply (survives_collectLines place []).bind
  rintro ⟨lines, stop⟩ ⟨lines', stop'⟩ same
  apply Survives.agreed
  rcases same with level | beyond
  · exact .inl (congrArg (· - place) level)
  · right
    change image.size ≤ place + (stop - place)
    omega

private theorem survives_readEntry (place : Nat) :
    Survives image (Record.InStep image.size place) (readEntry image place)
      (readEntry (image.extended more) place) := by
  unfold readEntry
  refine (survives_byteAt place).bindSame fun byte => ?_
  split
  · exact .agreed .closed
  · split
    · exact .refused
    · refine (survives_byteAt _).bindSame fun count => ?_
      refine ((survives_alike image more).words _ _ _).bindSame fun verbs => ?_
      apply (survives_readLines _).bind
      rintro ⟨lines, taken⟩ ⟨lines', taken'⟩ same
      apply Survives.agreed
      rcases same with rfl | beyond
      · exact .level rfl
      · apply Record.InStep.last
        change image.size ≤ place + (2 + 2 * count.toNat + taken)
        omega

private theorem survives_read :
    Survives image (fun _ _ => True) (Grammar.read image) (Grammar.read (image.extended more)) := by
  exact (Record.survives_readUpTo size_le_extended survives_readEntry start).bind
    fun _ _ _ => .agreed trivial

end Grammar

private theorem Object.survives_readTable (offset count propertyTable : Nat)
    (defaults : List Property) :
    Survives image (List.Forall₂ SameRecord)
      (Object.readTable image offset count propertyTable defaults)
      (Object.readTable (image.extended more) offset count propertyTable defaults) := by
  have alike := survives_alike image more
  refine (Record.survives_readCount SameRecord (fun place => ?_) _ _).bind ?_
  · refine (survives_slice _ _).bindSame fun bits => ?_
    refine (alike.wordAt _ _).bindSame fun parent => ?_
    refine (alike.wordAt _ _).bindSame fun sibling => ?_
    refine (alike.wordAt _ _).bindSame fun child => ?_
    refine (alike.wordAt _ _).bindSame fun stream => ?_
    refine (Survives.of_faultsIn (Override.faultsIn_readStream _)).bind fun _ _ _ => ?_
    exact .agreed ⟨rfl, rfl, rfl, rfl, rfl⟩
  · intro objects objects' related
    apply Survives.agreed
    rw [List.forall₂_map_left_iff, List.forall₂_map_right_iff]
    exact related.imp fun _ _ => And.right

private theorem Story.survives_readSections {preamble preamble' : Preamble}
    (same : preamble.SameButDebug preamble') :
    Survives image SameChecked (Story.readSections image preamble)
      (Story.readSections (image.extended more) preamble') := by
  have alike := survives_alike image more
  unfold Story.readSections
  rw [same]
  refine (alike.readArrays _ _).bindSame fun arrays => ?_
  refine (alike.readCode _ _).bindSame fun code => ?_
  refine (alike.readDictionary _ _).bindSame fun dictionary => ?_
  refine (alike.readEvents _ _).bindSame fun events => ?_
  refine (alike.readGlobals _).bindSame fun globals => ?_
  refine Grammar.survives_read.bind fun grammar grammar' _ => ?_
  refine (Object.survives_readTable _ _ _ _).bind fun objects objects' related => ?_
  refine (alike.readSpecialWords _ _).bindSame fun specialWords => ?_
  refine (Survives.of_faultsIn (TextBank.faultsIn_read _ _)).bind fun textBank textBank' _ => ?_
  exact .agreed ⟨rfl, rfl, rfl, rfl, rfl, rfl, rfl, rfl, rfl, rfl, rfl, related, rfl⟩

theorem Story.survives_read :
    Survives image SameChecked (Story.read image) (Story.read (image.extended more)) :=
  Preamble.survives_read.bind fun _ _ same => survives_readSections same

/-- If the whole file is a story, then so is the cut one, with the same checked sections, or the
cut one is reported to end too early, at an offset that it does not reach. -/
theorem Story.read_of_extended (image : Image) (more : Array UInt8) :
    match Story.read image, Story.read (image.extended more) with
    | .ok story, .ok whole => story.SameChecked whole
    | .error fault, .ok _ => ∃ region offset, image.size ≤ offset ∧ fault = .endOfFile region offset
    | _, .error _ => True := by
  have survived : Survives image SameChecked (Story.read image) (Story.read (image.extended more)) :=
    Story.survives_read
  generalize Story.read image = part at survived ⊢
  generalize Story.read (image.extended more) = outcome at survived ⊢
  cases survived with
  | agreed same => exact same
  | @cut region fault outcome short =>
    cases outcome with
    | error fault' => trivial
    | ok whole =>
      obtain ⟨offset, beyond, rfl⟩ := short
      exact ⟨region, offset, beyond, rfl⟩
  | refused => cases part <;> trivial

end HugoStory
