import HugoStory.Proofs.Outcome
import HugoStory.Story
/-! Two files read side by side. Where a relation between two readings is kept by reading on, it is
enough that it holds of single bytes and of slices: it then holds of every reader whose bounds do
not hang on the size of the file. -/
namespace HugoStory

/-- A relation between two readings of one thing that is kept by reading on. -/
structure Outcome.Congruence (related : ∀ {α : Type}, Except Fault α → Except Fault α → Prop) :
    Prop where
  refl {α : Type} (outcome : Except Fault α) : related outcome outcome
  bind {α β : Type} {part whole : Except Fault α} {next next' : α → Except Fault β}
    (head : related part whole) (tail : ∀ value, related (next value) (next' value)) :
    related (part >>= next) (whole >>= next')

/-- The bytes of the two files are related, one by one and in slices. -/
structure Image.Alike (related : ∀ {α : Type}, Except Fault α → Except Fault α → Prop)
    (image image' : Image) : Prop extends Outcome.Congruence related where
  byteAt (region : Region) (place : Nat) :
    related (image.byteAt region place) (image'.byteAt region place)
  slice (region : Region) (start stop : Nat) :
    related (image.slice region start stop) (image'.slice region start stop)

variable {related : ∀ {α : Type}, Except Fault α → Except Fault α → Prop} {α β : Type}

namespace Outcome.Congruence

variable (steps : Congruence related)
include steps

theorem thenReturn {part whole : Except Fault α} {result : α → β} (head : related part whole) :
    related (part >>= fun value => pure (result value))
      (whole >>= fun value => pure (result value)) :=
  steps.bind head fun _ => steps.refl _

theorem readCount {read read' : Nat → Except Fault (Record α)}
    (each : ∀ place, related (read place) (read' place)) (count start : Nat) :
    related (Record.readCount read count start) (Record.readCount read' count start) := by
  induction count generalizing start with
  | zero => exact steps.refl _
  | succ count ih =>
    rw [Record.readCount_succ, Record.readCount_succ]
    exact steps.bind (each start) fun record => steps.thenReturn (ih (start + record.width))

theorem readUpTo {read read' : Nat → Except Fault (Option (Record α))}
    (each : ∀ place, related (read place) (read' place)) (stop start : Nat) :
    related (Record.readUpTo read stop start) (Record.readUpTo read' stop start) := by
  generalize remaining : stop - start = n
  induction n using Nat.strongRecOn generalizing start with
  | ind n ih =>
    by_cases inside : start < stop
    · rw [Record.readUpTo_of_lt read inside, Record.readUpTo_of_lt read' inside]
      refine steps.bind (each start) fun found => ?_
      cases found with
      | none => exact steps.refl _
      | some record =>
        have positive := record.width_pos
        exact steps.thenReturn (ih _ (by omega) _ rfl)
    · have outside := Nat.not_lt.mp inside
      rw [Record.readUpTo_of_le read outside, Record.readUpTo_of_le read' outside]
      exact steps.refl _

end Outcome.Congruence

namespace Image.Alike

variable {image image' : Image} (alike : Alike related image image')
include alike

theorem wordAt (region : Region) (place : Nat) :
    related (image.wordAt region place) (image'.wordAt region place) :=
  alike.bind (alike.byteAt _ _) fun _ => alike.thenReturn (alike.byteAt _ _)

private theorem textAt (region : Region) (place length : Nat) :
    related (image.textAt region place length) (image'.textAt region place length) :=
  alike.thenReturn (alike.slice _ _ _)

theorem words (region : Region) (place count : Nat) :
    related (image.words region place count) (image'.words region place count) :=
  alike.thenReturn (alike.readCount (fun _ => alike.thenReturn (alike.wordAt _ _)) _ _)

theorem readVersion : related (Header.readVersion image) (Header.readVersion image') :=
  alike.bind (alike.byteAt _ _) fun _ => alike.refl _

theorem readSerial : related (Header.readSerial image) (Header.readSerial image') :=
  alike.thenReturn (alike.slice _ _ _)

private theorem readBlock (place : Nat) :
    related (Header.readBlock image place) (Header.readBlock image' place) :=
  alike.thenReturn (alike.wordAt _ _)

theorem readLayout : related (Header.readLayout image) (Header.readLayout image') := by
  unfold Header.readLayout
  refine alike.bind (alike.wordAt _ _) fun code => ?_
  refine alike.bind (alike.readBlock _) fun objects => ?_
  refine alike.bind (alike.readBlock _) fun properties => ?_
  refine alike.bind (alike.readBlock _) fun events => ?_
  refine alike.bind (alike.readBlock _) fun arrays => ?_
  refine alike.bind (alike.readBlock _) fun dictionary => ?_
  refine alike.bind (alike.readBlock _) fun specialWords => ?_
  exact alike.thenReturn (alike.readBlock _)

theorem readEntryPoints (code : Nat) :
    related (Header.readEntryPoints image code) (Header.readEntryPoints image' code) := by
  unfold Header.readEntryPoints
  refine alike.bind (alike.readBlock _) fun init => ?_
  refine alike.bind (alike.readBlock _) fun main => ?_
  refine alike.bind (alike.readBlock _) fun parse => ?_
  refine alike.bind (alike.readBlock _) fun parseError => ?_
  refine alike.bind (alike.readBlock _) fun findObject => ?_
  refine alike.bind (alike.readBlock _) fun endGame => ?_
  refine alike.bind (alike.readBlock _) fun speakTo => ?_
  exact alike.thenReturn (alike.readBlock _)

theorem readCounts (layout : Layout) :
    related (Counts.read image layout) (Counts.read image' layout) := by
  unfold Counts.read
  refine alike.bind (alike.wordAt _ _) fun objects => ?_
  refine alike.bind (alike.wordAt _ _) fun events => ?_
  refine alike.bind (alike.wordAt _ _) fun dictionaryWords => ?_
  refine alike.bind (alike.wordAt _ _) fun specialWords => ?_
  exact alike.thenReturn (alike.wordAt _ _)

theorem readDefaults (offset count : Nat) :
    related (Property.readDefaults image offset count) (Property.readDefaults image' offset count) :=
  alike.thenReturn (alike.words _ _ _)

theorem readArrays (offset stop : Nat) :
    related (Variables.readArrays image offset stop) (Variables.readArrays image' offset stop) := by
  refine alike.thenReturn (alike.readUpTo (fun place => ?_) _ _)
  exact alike.bind (alike.wordAt _ _) fun length => alike.thenReturn (alike.words _ _ _)

theorem readGlobals (offset : Nat) :
    related (Variables.readGlobals image offset) (Variables.readGlobals image' offset) :=
  alike.thenReturn (alike.words _ _ _)

theorem readCode (offset stop : Nat) :
    related (Code.read image offset stop) (Code.read image' offset stop) :=
  alike.thenReturn (alike.slice _ _ _)

theorem readDictionary (offset count : Nat) :
    related (Dictionary.read image offset count) (Dictionary.read image' offset count) := by
  refine alike.thenReturn (alike.readCount (fun place => ?_) _ _)
  exact alike.bind (alike.byteAt _ _) fun length => alike.thenReturn (alike.textAt _ _ _)

theorem readEvents (offset count : Nat) :
    related (Event.readTable image offset count) (Event.readTable image' offset count) := by
  refine alike.thenReturn (alike.readCount (fun place => ?_) _ _)
  exact alike.bind (alike.wordAt _ _) fun object => alike.thenReturn (alike.wordAt _ _)

theorem readSpecialWords (offset count : Nat) :
    related (SpecialWords.read image offset count) (SpecialWords.read image' offset count) := by
  refine alike.thenReturn (alike.readCount (fun place => ?_) _ _)
  refine alike.bind (alike.byteAt _ _) fun byte => ?_
  refine alike.bind (alike.wordAt _ _) fun first => ?_
  exact alike.bind (alike.wordAt _ _) fun second => alike.refl _

theorem readLine (place : Nat) :
    related (Grammar.readLine image place) (Grammar.readLine image' place) :=
  alike.bind (alike.byteAt _ _) fun _ => alike.thenReturn (alike.slice _ _ _)

theorem readOverride (place : Nat) :
    related (Override.read image place) (Override.read image' place) := by
  unfold Override.read
  refine alike.bind (alike.byteAt _ _) fun number => ?_
  split
  · exact alike.refl _
  · refine alike.bind (alike.byteAt _ _) fun count => ?_
    split
    · exact alike.thenReturn (alike.wordAt _ _)
    · split
      · exact alike.refl _
      · exact alike.thenReturn (alike.words _ _ _)

end Image.Alike

end HugoStory
