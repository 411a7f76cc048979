import HugoStory.Proofs.Record.Run
import HugoStory.Story
/-! Readers that only ever ask for bytes. Each of them fails in one way alone: it runs out of
the file, says so in the name of its own region, and gives an offset that the file does not
reach. -/
namespace HugoStory
open Outcome

def Image.RunsOut (image : Image) (region : Region) (fault : Fault) : Prop :=
  ∃ offset, image.size ≤ offset ∧ fault = .endOfFile region offset

variable {image : Image} {region : Region}

namespace Image

theorem faultsIn_byteAt (offset : Nat) :
    FaultsIn (image.RunsOut region) (image.byteAt region offset) := by
  intro fault failed
  exact ⟨offset, byteAt_eq_error_iff.mp failed⟩

theorem faultsIn_wordAt (offset : Nat) :
    FaultsIn (image.RunsOut region) (image.wordAt region offset) := by
  refine (faultsIn_byteAt offset).bind fun low _ => ?_
  exact (faultsIn_byteAt (offset + 1)).thenReturn

theorem faultsIn_slice (start stop : Nat) :
    FaultsIn (image.RunsOut region) (image.slice region start stop) := by
  intro fault failed
  obtain ⟨short, rfl⟩ := slice_eq_error_iff.mp failed
  exact ⟨stop, Nat.le_of_lt short, rfl⟩

private theorem faultsIn_textAt (offset length : Nat) :
    FaultsIn (image.RunsOut region) (image.textAt region offset length) :=
  (faultsIn_slice offset (offset + length)).thenReturn

theorem faultsIn_words (offset count : Nat) :
    FaultsIn (image.RunsOut region) (image.words region offset count) := by
  have each (place : Nat) : FaultsIn (image.RunsOut region) (image.wordRecord region place) :=
    (faultsIn_wordAt place).thenReturn
  exact (Record.faultsIn_readCount each).thenReturn

end Image

open Image

namespace Header

theorem faultsIn_readSerial : FaultsIn (image.RunsOut .idAndSerial) (readSerial image) :=
  (faultsIn_slice _ _).thenReturn

private theorem faultsIn_readBlock (offset : Nat) :
    FaultsIn (image.RunsOut .offsets) (readBlock image offset) :=
  (faultsIn_wordAt offset).thenReturn

theorem faultsIn_readLayout : FaultsIn (image.RunsOut .offsets) (readLayout image) := by
  unfold readLayout
  refine (faultsIn_wordAt _).bind fun code _ => ?_
  refine (faultsIn_readBlock _).bind fun objects _ => ?_
  refine (faultsIn_readBlock _).bind fun properties _ => ?_
  refine (faultsIn_readBlock _).bind fun events _ => ?_
  refine (faultsIn_readBlock _).bind fun arrays _ => ?_
  refine (faultsIn_readBlock _).bind fun dictionary _ => ?_
  refine (faultsIn_readBlock _).bind fun specialWords _ => ?_
  exact (faultsIn_readBlock _).thenReturn

theorem faultsIn_readEntryPoints (code : Nat) :
    FaultsIn (image.RunsOut .offsets) (readEntryPoints image code) := by
  unfold readEntryPoints
  refine (faultsIn_readBlock _).bind fun init _ => ?_
  refine (faultsIn_readBlock _).bind fun main _ => ?_
  refine (faultsIn_readBlock _).bind fun parse _ => ?_
  refine (faultsIn_readBlock _).bind fun parseError _ => ?_
  refine (faultsIn_readBlock _).bind fun findObject _ => ?_
  refine (faultsIn_readBlock _).bind fun endGame _ => ?_
  refine (faultsIn_readBlock _).bind fun speakTo _ => ?_
  exact (faultsIn_readBlock _).thenReturn

theorem faultsIn_readDebugStart : FaultsIn (image.RunsOut .offsets) (readDebugStart image) := by
  unfold readDebugStart
  split
  · exact .return _
  · exact .return _
  · refine (faultsIn_byteAt _).bind fun low _ => ?_
    refine (faultsIn_byteAt _).bind fun middle _ => ?_
    exact (faultsIn_byteAt _).thenReturn

end Header

theorem Counts.faultsIn_read (layout : Layout) :
    FaultsIn (image.RunsOut .counts) (Counts.read image layout) := by
  unfold Counts.read
  refine (faultsIn_wordAt _).bind fun objects _ => ?_
  refine (faultsIn_wordAt _).bind fun events _ => ?_
  refine (faultsIn_wordAt _).bind fun dictionaryWords _ => ?_
  refine (faultsIn_wordAt _).bind fun specialWords _ => ?_
  exact (faultsIn_wordAt _).thenReturn

theorem Property.faultsIn_readDefaults (offset count : Nat) :
    FaultsIn (image.RunsOut .propertyDefaults) (Property.readDefaults image offset count) :=
  (faultsIn_words _ _).thenReturn

namespace Variables

theorem faultsIn_readGlobals (offset : Nat) :
    FaultsIn (image.RunsOut .globals) (readGlobals image offset) :=
  (faultsIn_words _ _).thenReturn

theorem faultsIn_readArrays (offset stop : Nat) :
    FaultsIn (image.RunsOut .arrays) (readArrays image offset stop) := by
  refine (Record.faultsIn_readUpTo fun place => ?_).thenReturn
  refine (faultsIn_wordAt place).bind fun length _ => ?_
  exact (faultsIn_words _ _).thenReturn

end Variables

theorem Code.faultsIn_read (offset stop : Nat) :
    FaultsIn (image.RunsOut .code) (Code.read image offset stop) :=
  (faultsIn_slice _ _).thenReturn

theorem Dictionary.faultsIn_read (offset count : Nat) :
    FaultsIn (image.RunsOut .dictionary) (Dictionary.read image offset count) := by
  refine (Record.faultsIn_readCount fun place => ?_).thenReturn
  refine (faultsIn_byteAt place).bind fun length _ => ?_
  exact (faultsIn_textAt _ _).thenReturn

theorem Event.faultsIn_readTable (offset count : Nat) :
    FaultsIn (image.RunsOut .events) (Event.readTable image offset count) := by
  refine (Record.faultsIn_readCount fun place => ?_).thenReturn
  refine (faultsIn_wordAt place).bind fun object _ => ?_
  exact (faultsIn_wordAt _).thenReturn

namespace Override

private theorem faultsIn_read (offset : Nat) :
    FaultsIn (image.RunsOut .objects) (Override.read image offset) := by
  unfold Override.read
  refine (faultsIn_byteAt offset).bind fun number _ => ?_
  split
  · exact .return _
  · refine (faultsIn_byteAt _).bind fun count _ => ?_
    split
    · exact (faultsIn_wordAt _).thenReturn
    · split
      · exact .return _
      · exact (faultsIn_words _ _).thenReturn

theorem faultsIn_readStream (offset : Nat) :
    FaultsIn (image.RunsOut .objects) (readStream image offset) :=
  (Record.faultsIn_readUpTo faultsIn_read).thenReturn

end Override

theorem Object.faultsIn_readTable (offset count propertyTable : Nat) (defaults : List Property) :
    FaultsIn (image.RunsOut .objects)
      (Object.readTable image offset count propertyTable defaults) := by
  refine (Record.faultsIn_readCount fun place => ?_).thenReturn
  refine (faultsIn_slice _ _).bind fun bits _ => ?_
  refine (faultsIn_wordAt _).bind fun parent _ => ?_
  refine (faultsIn_wordAt _).bind fun sibling _ => ?_
  refine (faultsIn_wordAt _).bind fun child _ => ?_
  refine (faultsIn_wordAt _).bind fun stream _ => ?_
  exact (Override.faultsIn_readStream _).thenReturn

theorem TextBank.faultsIn_read (offset stop : Nat) :
    FaultsIn (image.RunsOut .textBank) (TextBank.read image offset stop) := by
  refine (Record.faultsIn_readUpTo fun place => ?_).thenReturn
  exact (faultsIn_wordAt place).thenReturn

end HugoStory
