import HugoStory.Proofs.EndOfFile
/-! The walk through the verb grammar, told by the bytes it meets. The lines of an entry go on
while a line mark follows and end at a byte that belongs to the table: the kind of the next
entry or the closing mark. So an entry that was read is followed by such a byte or by the end
of the file, and only the first entry can have an unknown kind. -/
namespace HugoStory.Grammar
open Outcome

def EndsEntry (byte : UInt8) : Prop := (VerbKind.ofByte? byte).isSome ∨ byte = closingMark

theorem endsEntry_iff {byte : UInt8} : EndsEntry byte ↔ byte = 0x2c ∨ byte = 0x2d ∨ byte = 0xff := by
  unfold EndsEntry VerbKind.ofByte? VerbKind.verbByte VerbKind.xverbByte closingMark
  by_cases verb : byte = 0x2c
  · simp [verb]
  · by_cases xverb : byte = 0x2d
    · simp [xverb]
    · simp [verb, xverb]

private theorem not_endsEntry_lineMark : ¬EndsEntry lineMark := by
  rw [endsEntry_iff]
  decide

/-- The lines found from a place on and the place behind them. There are none only where the
file has ended. -/
inductive Lines (image : Image) : Nat → List (List UInt8) → Nat → Prop
  | outside {place : Nat} (beyond : image.size ≤ place) : Lines image place [] place
  | last {place : Nat} {line : Record (List UInt8)} {byte : UInt8}
      (read : readLine image place = .ok line)
      (after : image.byte? (place + line.width) = some byte) (ends : EndsEntry byte) :
      Lines image place [line.value] (place + line.width)
  | more {place stop : Nat} {line : Record (List UInt8)} {lines : List (List UInt8)}
      (read : readLine image place = .ok line)
      (after : image.byte? (place + line.width) = some lineMark)
      (later : Lines image (place + line.width) lines stop) :
      Lines image place (line.value :: lines) stop

/-- A fault of a line that is followed by a byte with no meaning there. -/
def Strays (image : Image) (start : Nat) (fault : Fault) : Prop :=
  ∃ byte place, fault = .strayGrammarByte byte place ∧ start < place ∧
    image.byte? place = some byte ∧ byte ≠ lineMark ∧ ¬EndsEntry byte

variable {image : Image} {region : Region}

private theorem faultsIn_readLine (offset : Nat) :
    FaultsIn (image.RunsOut .grammar) (readLine image offset) :=
  (Image.faultsIn_byteAt _).bind fun _ _ => (Image.faultsIn_slice _ _).thenReturn

theorem collectLines_of_lt {offset : Nat} (inside : offset < image.size)
    (seen : List (List UInt8)) :
    collectLines image offset seen = (do
      let line ← readLine image offset
      let byte ← image.byteAt .grammar (offset + line.width)
      if byte = lineMark then
        collectLines image (offset + line.width) (line.value :: seen)
      else if (VerbKind.ofByte? byte).isSome ∨ byte = closingMark then
        return ((line.value :: seen).reverse, offset + line.width)
      else throw (.strayGrammarByte byte (offset + line.width))) := by
  rw [collectLines, if_pos inside]
  cases readLine image offset with
  | error fault => rfl
  | ok line =>
    cases present : image.byteAt .grammar (offset + line.width) with
    | error fault => simp only [present, bind, Except.bind]
    | ok byte => simp only [present, bind, Except.bind, pure, Except.pure, throw, throwThe,
        MonadExceptOf.throw]

theorem collectLines_of_le {offset : Nat} (outside : image.size ≤ offset)
    (seen : List (List UInt8)) : collectLines image offset seen = .ok (seen.reverse, offset) := by
  rw [collectLines, if_neg (Nat.not_lt.mpr outside)]

private theorem byteAt_of_byte? {place : Nat} {byte : UInt8}
    (present : image.byte? place = some byte) :
    image.byteAt .grammar place = .ok byte :=
  Image.byteAt_eq_ok_iff.mpr present

namespace Lines

variable {start stop : Nat} {lines : List (List UInt8)}

theorem le (found : Lines image start lines stop) : start ≤ stop := by
  induction found with
  | outside beyond => exact Nat.le_refl _
  | last read after ends => omega
  | more read after later ih => omega

private theorem followed (found : Lines image start lines stop) :
    image.size ≤ stop ∨ ∃ byte, image.byte? stop = some byte ∧ EndsEntry byte := by
  induction found with
  | outside beyond => exact .inl beyond
  | last read after ends => exact .inr ⟨_, after, ends⟩
  | more read after later ih => exact ih

theorem outside_of_nil (found : Lines image start [] stop) : image.size ≤ stop := by
  cases found with
  | outside beyond => exact beyond

theorem collectLines_eq_ok (found : Lines image start lines stop) (seen : List (List UInt8)) :
    collectLines image start seen = .ok (seen.reverse ++ lines, stop) := by
  -- A byte that follows a line lies in the file, so the line does too.
  have inside {place width : Nat} {byte : UInt8} (after : image.byte? (place + width) = some byte) :
      place < image.size := by
    have present : image.byte? (place + width) ≠ none := by simp [after]
    rw [Ne, Image.byte?_eq_none_iff] at present
    omega
  induction found generalizing seen with
  | outside beyond => rw [collectLines_of_le beyond, List.append_nil]
  | last read after ends =>
    have next := byteAt_of_byte? after
    have unlike := fun same : _ = lineMark => not_endsEntry_lineMark (same ▸ ends)
    unfold EndsEntry at ends
    rw [collectLines_of_lt (inside after)]
    refine bind_eq_ok_iff.mpr ⟨_, read, bind_eq_ok_iff.mpr ⟨_, next, ?_⟩⟩
    rw [if_neg unlike, if_pos ends, List.reverse_cons]
    rfl
  | more read after later ih =>
    have next := byteAt_of_byte? after
    rw [collectLines_of_lt (inside after)]
    refine bind_eq_ok_iff.mpr ⟨_, read, bind_eq_ok_iff.mpr ⟨_, next, ?_⟩⟩
    rw [if_pos rfl, ih, List.reverse_cons, List.append_assoc, List.singleton_append]

end Lines

private theorem lines_of_collectLines {start stop : Nat} {seen lines : List (List UInt8)}
    (done : collectLines image start seen = .ok (lines, stop)) :
    ∃ own, Lines image start own stop ∧ lines = seen.reverse ++ own := by
  fun_induction collectLines image start seen with
  | case1 => cases done
  | case2 => cases done
  | case3 start seen inside line read next after ih =>
    obtain ⟨own, later, rfl⟩ := ih done
    exact ⟨_, .more read (Image.byteAt_eq_ok_iff.mp after) later, by simp⟩
  | case4 start seen inside line read next byte after unlike ends =>
    simp only [Except.ok.injEq, Prod.mk.injEq] at done
    obtain ⟨rfl, rfl⟩ := done
    exact ⟨_, .last read (Image.byteAt_eq_ok_iff.mp after) ends, by simp⟩
  | case5 => cases done
  | case6 start seen outside =>
    cases done
    exact ⟨[], .outside (Nat.not_lt.mp outside), by simp⟩

theorem faultsIn_collectLines (start : Nat) (seen : List (List UInt8)) :
    FaultsIn (fun fault => image.RunsOut .grammar fault ∨ Strays image start fault)
      (collectLines image start seen) := by
  intro fault failed
  fun_induction collectLines image start seen with
  | case1 start seen inside earlier unread =>
    cases failed
    exact .inl (faultsIn_readLine start _ unread)
  | case2 start seen inside line read next earlier missing =>
    cases failed
    exact .inl (Image.faultsIn_byteAt next _ missing)
  | case3 start seen inside line read next after ih =>
    rcases ih failed with short | ⟨byte, place, stray, behind, rest⟩
    · exact .inl short
    · have positive := line.width_pos
      exact .inr ⟨byte, place, stray, by omega, rest⟩
  | case4 => cases failed
  | case5 start seen inside line read next byte after unlike goesOn =>
    cases failed
    have positive := line.width_pos
    exact .inr ⟨byte, next, rfl, by omega, Image.byteAt_eq_ok_iff.mp after, unlike, goesOn⟩
  | case6 => cases failed

private theorem readLines_eq_ok_iff {start taken : Nat} {lines : List (List UInt8)} :
    readLines image start = .ok (lines, taken) ↔ Lines image start lines (start + taken) := by
  unfold readLines
  constructor
  · intro done
    obtain ⟨⟨all, stop⟩, collected, done⟩ := bind_eq_ok_iff.mp done
    cases done
    obtain ⟨own, found, rfl⟩ := lines_of_collectLines collected
    have behind := found.le
    rw [Nat.add_sub_cancel' behind]
    exact found
  · intro found
    refine bind_eq_ok_iff.mpr ⟨_, found.collectLines_eq_ok [], ?_⟩
    simp [pure, Except.pure]

theorem readEntry_eq_some_iff {place : Nat} {record : Record GrammarEntry} :
    readEntry image place = .ok (some record) ↔
      ∃ kind count verbs lines, image.byte? place = some (VerbKind.toByte kind) ∧
        image.byte? (place + 1) = some count ∧
        image.words .grammar (place + 2) count.toNat = .ok verbs ∧
        Lines image (place + 2 + 2 * count.toNat) lines (place + record.width) ∧
        record.value = { kind, verbs, lines } := by
  unfold readEntry
  constructor
  · intro read
    obtain ⟨byte, present, read⟩ := bind_eq_ok_iff.mp read
    split at read
    · cases read
    · split at read
      · cases read
      · rename_i kind known
        obtain ⟨count, counted, read⟩ := bind_eq_ok_iff.mp read
        obtain ⟨verbs, named, read⟩ := bind_eq_ok_iff.mp read
        obtain ⟨⟨lines, taken⟩, lined, read⟩ := bind_eq_ok_iff.mp read
        cases read
        rw [VerbKind.ofByte?_eq_some_iff] at known
        have found := readLines_eq_ok_iff.mp lined
        refine ⟨kind, count, verbs, lines, ?_, Image.byteAt_eq_ok_iff.mp counted, named, ?_, rfl⟩
        · rw [← known]
          exact Image.byteAt_eq_ok_iff.mp present
        · simpa only [Nat.add_assoc] using found
  · intro described
    obtain ⟨kind, count, verbs, lines, present, counted, named, found, held⟩ := described
    obtain ⟨value, width, positive⟩ := record
    subst held
    have behind : place + 2 + 2 * count.toNat ≤ place + width := found.le
    obtain ⟨taken, rfl⟩ : ∃ taken, width = 2 + 2 * count.toNat + taken :=
      ⟨width - (2 + 2 * count.toNat), by omega⟩
    refine bind_eq_ok_iff.mpr ⟨_, Image.byteAt_eq_ok_iff.mpr present, ?_⟩
    have known : VerbKind.ofByte? kind.toByte = some kind := VerbKind.ofByte?_eq_some_iff.mpr rfl
    have unclosed : kind.toByte ≠ closingMark := by cases kind <;> decide
    rw [if_neg unclosed, known]
    refine bind_eq_ok_iff.mpr ⟨_, Image.byteAt_eq_ok_iff.mpr counted, ?_⟩
    refine bind_eq_ok_iff.mpr ⟨_, named, ?_⟩
    refine bind_eq_ok_iff.mpr ⟨(lines, taken), readLines_eq_ok_iff.mpr ?_, rfl⟩
    simpa only [Nat.add_assoc] using found

theorem followed_of_readEntry {place : Nat} {record : Record GrammarEntry}
    (read : readEntry image place = .ok (some record)) :
    image.size ≤ place + record.width ∨
      ∃ byte, image.byte? (place + record.width) = some byte ∧ EndsEntry byte := by
  obtain ⟨kind, count, verbs, lines, _, _, _, found, _⟩ := readEntry_eq_some_iff.mp read
  exact found.followed

end HugoStory.Grammar
