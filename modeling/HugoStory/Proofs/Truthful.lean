import HugoStory.Proofs.Grammar.Entries
/-! Faults are truthful: what a fault says about the file is so. An end of the file is reported
at an offset that the file does not reach, and a byte is reported with the place where it
stands and only where it has no meaning. -/
namespace HugoStory
open Outcome

def Fault.Truthful (image : Image) : Fault → Prop
  | unsupportedVersion found =>
    ∃ byte, image.byte? 0 = some byte ∧ byte ≠ 31 ∧ found = Version.ofByte byte
  | endOfFile _ offset => image.size ≤ offset
  | unknownVerbKind byte offset =>
    offset = 0x40 ∧ image.byte? offset = some byte ∧ byte ≠ 0x2c ∧ byte ≠ 0x2d ∧ byte ≠ 0xff
  | strayGrammarByte byte offset =>
    0x40 < offset ∧ offset < image.size ∧ image.byte? offset = some byte ∧
      byte ≠ 0x08 ∧ byte ≠ 0x2c ∧ byte ≠ 0x2d ∧ byte ≠ 0xff
  | unknownWordCategory byte offset =>
    ∃ preamble index, Preamble.read image = .ok preamble ∧
      index < preamble.counts.specialWords.toNat ∧
      offset = preamble.header.layout.specialWords + 2 + 5 * index ∧
      offset + 5 ≤ image.size ∧ image.byte? offset = some byte ∧ 4 ≤ byte.toNat ∧
      ∀ earlier < index, ∃ other,
        image.byte? (preamble.header.layout.specialWords + 2 + 5 * earlier) = some other ∧
          other.toNat < 4

variable {image : Image}

private theorem Fault.truthful_of_runsOut {region : Region} {fault : Fault}
    (short : image.RunsOut region fault) : fault.Truthful image := by
  obtain ⟨offset, beyond, rfl⟩ := short
  exact beyond

theorem Image.lt_size_of_byte? {offset : Nat} {byte : UInt8}
    (present : image.byte? offset = some byte) : offset < image.size := by
  have known : image.byte? offset ≠ none := by simp [present]
  rw [Ne, byte?_eq_none_iff] at known
  exact Nat.not_le.mp known

namespace Header

private theorem faultsIn_readVersion : FaultsIn (Fault.Truthful image) (readVersion image) := by
  unfold readVersion
  refine ((Image.faultsIn_byteAt 0).mono fun _ => Fault.truthful_of_runsOut).bind ?_
  intro byte present
  have here := Image.byteAt_eq_ok_iff.mp present
  by_cases known : Version.ofByte byte = Version.supported
  · simp only [known, if_true]
    exact .return _
  · simp only [known, if_false]
    refine .error ⟨byte, here, ?_, rfl⟩
    rwa [Ne, ← Version.ofByte_eq_supported_iff]

private theorem faultsIn_read : FaultsIn (Fault.Truthful image) (Header.read image) := by
  unfold Header.read
  refine faultsIn_readVersion.bind fun version _ => ?_
  refine ((Image.faultsIn_wordAt _).mono fun _ => Fault.truthful_of_runsOut).bind fun id _ => ?_
  refine (faultsIn_readSerial.mono fun _ => Fault.truthful_of_runsOut).bind fun serial _ => ?_
  refine (faultsIn_readLayout.mono fun _ => Fault.truthful_of_runsOut).bind fun layout _ => ?_
  refine ((faultsIn_readEntryPoints _).mono fun _ => Fault.truthful_of_runsOut).bind ?_
  intro entryPoints _
  exact (faultsIn_readDebugStart.mono fun _ => Fault.truthful_of_runsOut).thenReturn

end Header

private theorem Preamble.faultsIn_read : FaultsIn (Fault.Truthful image) (Preamble.read image) := by
  unfold Preamble.read
  refine Header.faultsIn_read.bind fun header _ => ?_
  refine ((Counts.faultsIn_read _).mono fun _ => Fault.truthful_of_runsOut).bind fun counts _ => ?_
  exact ((Property.faultsIn_readDefaults _ _).mono fun _ => Fault.truthful_of_runsOut).thenReturn

namespace Grammar

def Unkind (image : Image) (place : Nat) (fault : Fault) : Prop :=
  ∃ byte, fault = .unknownVerbKind byte place ∧ image.byte? place = some byte ∧ ¬EndsEntry byte

private theorem faultsIn_readEntry (place : Nat) :
    FaultsIn (fun fault => image.RunsOut .grammar fault ∨ Strays image place fault ∨
      Unkind image place fault) (readEntry image place) := by
  unfold readEntry
  refine ((Image.faultsIn_byteAt place).mono fun _ => .inl).bind fun byte present => ?_
  have here := Image.byteAt_eq_ok_iff.mp present
  split
  · exact .return _
  · rename_i goesOn
    split
    · rename_i unknown
      refine .error (.inr (.inr ⟨byte, rfl, here, ?_⟩))
      simp [EndsEntry, unknown, goesOn]
    · refine ((Image.faultsIn_byteAt _).mono fun _ => .inl).bind fun count _ => ?_
      refine ((Image.faultsIn_words _ _).mono fun _ => .inl).bind fun verbs _ => ?_
      refine FaultsIn.bind ?_ fun lines _ => .return _
      refine ((faultsIn_collectLines _ []).thenReturn).mono fun fault failed => ?_
      rcases failed with short | ⟨byte, stray, is, behind, rest⟩
      · exact .inl short
      · exact .inr (.inl ⟨byte, stray, is, by omega, rest⟩)

/-- Only the entry that the table starts with can be of an unknown kind: each later one begins
at the byte that ended the entry before it. -/
theorem faultsIn_readTable (offset : Nat) :
    FaultsIn (fun fault => image.RunsOut .grammar fault ∨ Strays image offset fault ∨
      Unkind image offset fault) (readTable image offset) := by
  refine FaultsIn.thenReturn fun fault failed => ?_
  obtain ⟨records, place, run, inside, stuck⟩ := Record.readUpTo_eq_error_iff.mp failed
  have after := run.le
  rcases faultsIn_readEntry place fault stuck with short | ⟨byte, stray, is, behind, rest⟩ | unkind
  · exact .inl short
  · exact .inr (.inl ⟨byte, stray, is, by omega, rest⟩)
  · obtain ⟨byte, is, here, unended⟩ := unkind
    rcases run.stop_cases with rfl | ⟨previous, record, found, rfl⟩
    · exact .inr (.inr ⟨byte, is, here, unended⟩)
    · rcases followed_of_readEntry found.2 with outside | ⟨next, present, ends⟩
      · omega
      · rw [here] at present
        cases present
        exact absurd ends unended

private theorem faultsIn_read : FaultsIn (Fault.Truthful image) (Grammar.read image) := by
  refine (faultsIn_readTable start).mono fun fault failed => ?_
  rcases failed with short | ⟨byte, place, rfl, behind, here, unmarked, unended⟩ |
    ⟨byte, rfl, here, unended⟩
  · exact Fault.truthful_of_runsOut short
  · rw [endsEntry_iff, not_or, not_or] at unended
    exact ⟨behind, Image.lt_size_of_byte? here, here, unmarked, unended⟩
  · rw [endsEntry_iff, not_or, not_or] at unended
    exact ⟨rfl, here, unended⟩

end Grammar

namespace SpecialWords

theorem width_of_readRecord {place : Nat} {record : Record (WordCategory × SpecialWord)}
    (read : readRecord image place = .ok record) :
    record.width = 5 ∧ ∃ byte, image.byte? place = some byte ∧ byte.toNat < 4 := by
  obtain ⟨byte, present, read⟩ := bind_eq_ok_iff.mp read
  obtain ⟨first, _, read⟩ := bind_eq_ok_iff.mp read
  obtain ⟨second, _, read⟩ := bind_eq_ok_iff.mp read
  cases known : WordCategory.ofByte? byte with
  | none =>
    rw [known] at read
    cases read
  | some category =>
    rw [known] at read
    cases read
    refine ⟨rfl, byte, Image.byteAt_eq_ok_iff.mp present, ?_⟩
    have low : ¬4 ≤ byte.toNat := by simp [← WordCategory.ofByte?_eq_none_iff, known]
    omega

theorem faultsIn_readRecord (place : Nat) :
    FaultsIn (fun fault => image.RunsOut .specialWords fault ∨
      ∃ byte, fault = .unknownWordCategory byte place ∧ place + 5 ≤ image.size ∧
        image.byte? place = some byte ∧ 4 ≤ byte.toNat) (readRecord image place) := by
  unfold readRecord
  refine ((Image.faultsIn_byteAt place).mono fun _ => .inl).bind fun byte present => ?_
  refine ((Image.faultsIn_wordAt _).mono fun _ => .inl).bind fun first _ => ?_
  refine ((Image.faultsIn_wordAt _).mono fun _ => .inl).bind fun second complete => ?_
  split
  · rename_i unknown
    obtain ⟨low, high, _, last, _⟩ := Image.wordAt_eq_ok_iff.mp complete
    have inside := Image.lt_size_of_byte? last
    exact .error (.inr ⟨byte, rfl, by omega, Image.byteAt_eq_ok_iff.mp present,
      WordCategory.ofByte?_eq_none_iff.mp unknown⟩)
  · exact .return _

private theorem faultsIn_read {preamble : Preamble} (known : Preamble.read image = .ok preamble) :
    FaultsIn (Fault.Truthful image) (SpecialWords.read image preamble.header.layout.specialWords
      preamble.counts.specialWords.toNat) := by
  refine FaultsIn.thenReturn fun fault failed => ?_
  obtain ⟨records, place, fewer, run, stuck⟩ := Record.readCount_eq_error_iff.mp failed
  have even (place : Nat) (record : Record (WordCategory × SpecialWord))
      (read : readRecord image place = .ok record) : record.width = 5 :=
    (width_of_readRecord read).1
  rcases faultsIn_readRecord place fault stuck with short | ⟨byte, rfl, inside, here, high⟩
  · exact Fault.truthful_of_runsOut short
  · refine ⟨preamble, records.length, known, fewer, run.stop_of_width even, inside, here, high, ?_⟩
    intro earlier before
    obtain ⟨record, read, -⟩ := run.found_at even before
    exact (width_of_readRecord read).2

end SpecialWords

private theorem Story.faultsIn_readSections {preamble : Preamble}
    (known : Preamble.read image = .ok preamble) :
    FaultsIn (Fault.Truthful image) (Story.readSections image preamble) := by
  unfold Story.readSections
  have truthful {region : Region} (fault : Fault) : image.RunsOut region fault →
    fault.Truthful image := Fault.truthful_of_runsOut
  refine ((Variables.faultsIn_readArrays _ _).mono truthful).bind fun arrays _ => ?_
  refine ((Code.faultsIn_read _ _).mono truthful).bind fun code _ => ?_
  refine ((Dictionary.faultsIn_read _ _).mono truthful).bind fun dictionary _ => ?_
  refine ((Event.faultsIn_readTable _ _).mono truthful).bind fun events _ => ?_
  refine ((Variables.faultsIn_readGlobals _).mono truthful).bind fun globals _ => ?_
  refine Grammar.faultsIn_read.bind fun grammar _ => ?_
  refine ((Object.faultsIn_readTable _ _ _ _).mono truthful).bind fun objects _ => ?_
  refine (SpecialWords.faultsIn_read known).bind fun specialWords _ => ?_
  exact ((TextBank.faultsIn_read _ _).mono truthful).thenReturn

/-- Whatever a file is refused for is so: every fault tells the truth about the file. -/
theorem Story.truthful_of_read {fault : Fault} (refused : Story.read image = .error fault) :
    fault.Truthful image := by
  rcases bind_eq_error_iff.mp refused with early | ⟨preamble, known, late⟩
  · exact Preamble.faultsIn_read fault early
  · exact faultsIn_readSections known fault late

def Image.headerAlone : Image :=
  ⟨(31 :: (List.replicate 12 0 ++ 4 :: List.replicate 50 0)).toArray⟩

theorem Story.truthful_headerAlone :
    Story.read Image.headerAlone = .error (.endOfFile .counts 64) ∧
      (Fault.endOfFile .counts 64).Truthful Image.headerAlone := by
  have refused : Story.read Image.headerAlone = .error (.endOfFile .counts 64) := by rfl
  exact ⟨refused, Story.truthful_of_read refused⟩

end HugoStory
