import HugoStory.Proofs.Grammar.Entries
import HugoStory.Proofs.Image.Holds
import Mathlib.Tactic.MkIffOfInductiveProp
/-! Grammar tables as they are written: the entries with their lines, and the closing mark. A
table that is held where it is looked for is read back, each entry being followed by the next
one or by the mark. -/
namespace HugoStory
open Outcome

variable {image : Image} {place : Nat}

namespace Grammar

def storeLine (line : List UInt8) : List UInt8 :=
  lineMark :: UInt8.ofNat (line.length + 1) :: line

/-- The verbs are counted by one byte, and the length of a line counts itself. -/
@[mk_iff]
structure Storable (entry : GrammarEntry) : Prop where
  verbs : entry.verbs.length ≤ 255
  lines : entry.lines ≠ []
  tokens : ∀ line ∈ entry.lines, line.length ≤ 254

instance : DecidablePred Storable := fun entry => decidable_of_iff _ (storable_iff entry).symm

def storeEntry (entry : GrammarEntry) : List UInt8 :=
  entry.kind.toByte :: UInt8.ofNat entry.verbs.length ::
    (entry.verbs.flatMap Word.toBytes ++ entry.lines.flatMap storeLine)

def store (entries : List GrammarEntry) : List UInt8 :=
  entries.flatMap storeEntry ++ [closingMark]

private theorem readLine_of_holds {line : List UInt8} (short : line.length ≤ 254)
    (held : image.Holds place (storeLine line)) :
    ∃ record, readLine image place = .ok record ∧ record.value = line ∧
      record.width = (storeLine line).length := by
  have length : (UInt8.ofNat (line.length + 1)).toNat - 1 = line.length := by
    rw [Word.toNat_byteCount (Nat.add_le_add_right short 1), Nat.add_sub_cancel]
  have tokens : image.slice .grammar (place + 2)
      (place + 2 + ((UInt8.ofNat (line.length + 1)).toNat - 1)) = .ok line :=
    held.tail.tail.slice (by rw [length])
  refine ⟨_, bind_eq_ok_iff.mpr ⟨_, held.tail.byteAt, bind_eq_ok_iff.mpr ⟨_, tokens, rfl⟩⟩, rfl, ?_⟩
  change 2 + ((UInt8.ofNat (line.length + 1)).toNat - 1) = line.length + 1 + 1
  rw [length]
  omega

private theorem lines_of_holds {lines : List (List UInt8)} {byte : UInt8} (filled : lines ≠ [])
    (short : ∀ line ∈ lines, line.length ≤ 254)
    (held : image.Holds place (lines.flatMap storeLine ++ [byte])) (ends : EndsEntry byte) :
    Lines image place lines (place + (lines.flatMap storeLine).length) := by
  induction lines generalizing place with
  | nil => exact absurd rfl filled
  | cons line rest ih =>
    rw [List.flatMap_cons, List.append_assoc] at held
    rw [List.flatMap_cons, List.length_append, ← Nat.add_assoc]
    obtain ⟨record, read, rfl, width⟩ := readLine_of_holds (short _ List.mem_cons_self) held.left
    have behind := held.right
    rw [← width] at behind ⊢
    -- Behind the last line stands the byte that ends the entry, behind others the next mark.
    cases rest with
    | nil => exact .last read behind.head? ends
    | cons next others =>
      have later := ih (List.cons_ne_nil _ _)
        (fun other member => short other (List.mem_cons_of_mem _ member)) behind
      exact .more read behind.head? later

private theorem readEntry_of_holds {entry : GrammarEntry} {byte : UInt8} (storable : Storable entry)
    (held : image.Holds place (storeEntry entry ++ [byte])) (ends : EndsEntry byte) :
    ∃ record, readEntry image place = .ok (some record) ∧ record.value = entry ∧
      record.width = (storeEntry entry).length := by
  obtain ⟨kind, verbs, lines⟩ := entry
  obtain ⟨few, filled, short⟩ := storable
  dsimp only at few filled short
  have count := Word.toNat_byteCount few
  have contents : image.Holds (place + 2)
      (verbs.flatMap Word.toBytes ++ (lines.flatMap storeLine ++ [byte])) := by
    rw [← List.append_assoc]
    exact held.tail.tail
  have named : image.words .grammar (place + 2) (UInt8.ofNat verbs.length).toNat = .ok verbs := by
    rw [count]
    exact contents.left.words
  have found := lines_of_holds filled short contents.right ends
  rw [Word.length_flatMap_toBytes] at found
  let record : Record GrammarEntry :=
    { value := { kind, verbs, lines }
      width := 2 + 2 * verbs.length + (lines.flatMap storeLine).length }
  refine ⟨record, readEntry_eq_some_iff.mpr ⟨kind, _, verbs, lines, held.head?, held.tail.head?,
    named, ?_, rfl⟩, rfl, ?_⟩
  · rw [count]
    simpa only [record, Nat.add_assoc] using found
  · change 2 + 2 * verbs.length + _ = (verbs.flatMap Word.toBytes ++ lines.flatMap storeLine).length + 2
    rw [List.length_append, Word.length_flatMap_toBytes]
    omega

theorem store_eq_cons (entries : List GrammarEntry) :
    ∃ byte rest, store entries = byte :: rest ∧ EndsEntry byte := by
  cases entries with
  | nil => exact ⟨closingMark, [], rfl, .inr rfl⟩
  | cons entry rest =>
    refine ⟨entry.kind.toByte, _, rfl, .inl ?_⟩
    rw [VerbKind.ofByte?_eq_some_iff.mpr rfl]
    rfl

theorem run_of_holds {entries : List GrammarEntry} (storable : ∀ entry ∈ entries, Storable entry)
    (held : image.Holds place (store entries)) :
    ∃ records stop, Record.Run (Record.FoundBefore (readEntry image) image.size) place records stop ∧
      readEntry image stop = .ok none ∧ records.map Prod.snd = entries := by
  induction entries generalizing place with
  | nil =>
    refine ⟨[], place, .nil place, bind_eq_ok_iff.mpr ⟨closingMark, held.byteAt, ?_⟩, rfl⟩
    exact if_pos rfl
  | cons entry rest ih =>
    have split : store (entry :: rest) = storeEntry entry ++ store rest := by
      unfold store
      rw [List.flatMap_cons, List.append_assoc]
    rw [split] at held
    obtain ⟨byte, others, next, ends⟩ := store_eq_cons rest
    have followed : image.Holds place (storeEntry entry ++ [byte]) := by
      rw [next, List.append_cons] at held
      exact held.left
    obtain ⟨record, read, same, width⟩ :=
      readEntry_of_holds (storable entry List.mem_cons_self) followed ends
    have behind := held.right
    rw [← width] at behind
    obtain ⟨records, stop, run, closed, values⟩ :=
      ih (fun other member => storable other (List.mem_cons_of_mem _ member)) behind
    have inside := followed.inside
    rw [List.length_append, List.length_singleton] at inside
    refine ⟨_, stop, .cons ⟨by omega, read⟩ run, closed, ?_⟩
    rw [List.map_cons, values, same]

theorem readTable_of_holds {entries : List GrammarEntry}
    (storable : ∀ entry ∈ entries, Storable entry) (held : image.Holds place (store entries)) :
    readTable image place = .ok entries := by
  obtain ⟨records, stop, run, closed, values⟩ := run_of_holds storable held
  refine bind_eq_ok_iff.mpr ⟨_, Record.readUpTo_eq_ok_iff.mpr ⟨stop, run, .inr closed⟩, ?_⟩
  exact congrArg Except.ok values

end Grammar

end HugoStory
