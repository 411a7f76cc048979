import HugoStory.Image.Words
import HugoStory.Proofs.Record.Run
/-! What an image holds at an offset. Where it holds bytes it also holds their parts, and each
checked read gives back what was stored there, and what a checked read gave is held there. Items
stored one behind the other make up a run of records, each at the place where those before it
end. -/
namespace HugoStory
open Outcome

namespace Word

def toBytes (word : UInt16) : List UInt8 :=
  [UInt8.ofNat word.toNat, UInt8.ofNat (word.toNat / 256)]

theorem length_toBytes (word : UInt16) : (toBytes word).length = 2 := rfl

theorem ofBytes_toBytes (word : UInt16) :
    ofBytes (UInt8.ofNat word.toNat) (UInt8.ofNat (word.toNat / 256)) = word := by
  have bound := word.toNat_lt
  apply UInt16.toNat_inj.mp
  rw [toNat_ofBytes, UInt8.toNat_ofNat', UInt8.toNat_ofNat']
  omega

theorem toBytes_ofBytes (low high : UInt8) : toBytes (ofBytes low high) = [low, high] := by
  have lowBound := low.toNat_lt
  have highBound := high.toNat_lt
  have lowByte : UInt8.ofNat (low.toNat + 256 * high.toNat) = low := by
    apply UInt8.toNat_inj.mp
    rw [UInt8.toNat_ofNat']
    omega
  have highByte : UInt8.ofNat ((low.toNat + 256 * high.toNat) / 256) = high := by
    apply UInt8.toNat_inj.mp
    rw [UInt8.toNat_ofNat']
    omega
  unfold toBytes
  rw [toNat_ofBytes, lowByte, highByte]

theorem toNat_count {count : Nat} (fits : count ≤ 65535) : (UInt16.ofNat count).toNat = count :=
  UInt16.toNat_ofNat_of_lt' (Nat.lt_succ_of_le fits)

theorem toNat_byteCount {count : Nat} (fits : count ≤ 255) : (UInt8.ofNat count).toNat = count :=
  UInt8.toNat_ofNat_of_lt' (Nat.lt_succ_of_le fits)

theorem length_flatMap_toBytes (words : List UInt16) :
    (words.flatMap toBytes).length = 2 * words.length := by
  induction words with
  | nil => rfl
  | cons word rest ih =>
    rw [List.flatMap_cons, List.length_append, ih, length_toBytes, List.length_cons]
    omega

end Word

namespace Image

variable {image : Image} {region : Region} {offset : Nat}

def Holds (image : Image) (offset : Nat) (bytes : List UInt8) : Prop :=
  ∃ before after, image.bytes.toList = before ++ (bytes ++ after) ∧ before.length = offset

namespace Holds

variable {bytes first rest : List UInt8}

theorem whole (bytes : List UInt8) : Holds ⟨bytes.toArray⟩ 0 bytes :=
  ⟨[], [], by simp, rfl⟩

theorem left (held : image.Holds offset (first ++ rest)) : image.Holds offset first := by
  obtain ⟨before, after, same, length⟩ := held
  exact ⟨before, rest ++ after, by rw [same, List.append_assoc], length⟩

theorem right (held : image.Holds offset (first ++ rest)) :
    image.Holds (offset + first.length) rest := by
  obtain ⟨before, after, same, length⟩ := held
  refine ⟨before ++ first, after, ?_, ?_⟩
  · rw [same, List.append_assoc, List.append_assoc]
  · rw [List.length_append, length]

theorem append (held : image.Holds offset first) (behind : image.Holds (offset + first.length) rest) :
    image.Holds offset (first ++ rest) := by
  obtain ⟨before, after, same, length⟩ := held
  obtain ⟨before', after', same', length'⟩ := behind
  have split : (before ++ first) ++ after = before' ++ (rest ++ after') := by
    rw [List.append_assoc, ← same, same']
  have aligned : (before ++ first).length = before'.length := by
    rw [List.length_append, length, length']
  obtain ⟨-, later⟩ := List.append_inj split aligned
  exact ⟨before, after', by rw [same, later, List.append_assoc], length⟩

theorem nil (inside : offset ≤ image.size) : image.Holds offset [] :=
  ⟨image.bytes.toList.take offset, image.bytes.toList.drop offset, by simp,
    by rw [List.length_take, Array.length_toList]; exact Nat.min_eq_left inside⟩

theorem inside (held : image.Holds offset bytes) : offset + bytes.length ≤ image.size := by
  obtain ⟨before, after, same, length⟩ := held
  have size := congrArg List.length same
  rw [List.length_append, List.length_append, Array.length_toList] at size
  unfold Image.size
  omega

theorem byte? (held : image.Holds offset bytes) {place : Nat} (found : place < bytes.length) :
    image.byte? (offset + place) = some bytes[place] := by
  obtain ⟨before, after, same, length⟩ := held
  unfold Image.byte?
  rw [← Array.getElem?_toList, same, ← length,
    List.getElem?_append_right (Nat.le_add_right _ _), Nat.add_sub_cancel_left,
    List.getElem?_append_left found, List.getElem?_eq_getElem found]

theorem head? {byte : UInt8} (held : image.Holds offset (byte :: rest)) :
    image.byte? offset = some byte :=
  held.byte? (Nat.zero_lt_succ rest.length)

theorem byteAt {byte : UInt8} (held : image.Holds offset (byte :: rest)) :
    image.byteAt region offset = .ok byte :=
  byteAt_eq_ok_iff.mpr held.head?

theorem tail {byte : UInt8} (held : image.Holds offset (byte :: rest)) :
    image.Holds (offset + 1) rest := by
  rw [← List.singleton_append] at held
  exact held.right

theorem wordAt {word : UInt16} (held : image.Holds offset (Word.toBytes word)) :
    image.wordAt region offset = .ok word :=
  wordAt_eq_ok_iff.mpr ⟨_, _, held.head?, held.tail.head?, (Word.ofBytes_toBytes word).symm⟩

theorem word {words : List UInt16} (held : image.Holds offset (words.flatMap Word.toBytes))
    {index : Nat} (found : index < words.length) :
    image.Holds (offset + 2 * index) (Word.toBytes words[index]) := by
  induction words generalizing offset index with
  | nil => simp at found
  | cons word rest ih =>
    rw [List.flatMap_cons] at held
    cases index with
    | zero => exact held.left
    | succ index =>
      have later := ih held.right (Nat.lt_of_succ_lt_succ found)
      rw [Word.length_toBytes, Nat.add_assoc, Nat.add_comm 2, ← Nat.mul_succ] at later
      exact later

theorem extract (held : image.Holds offset bytes) :
    (image.bytes.extract offset (offset + bytes.length)).toList = bytes := by
  obtain ⟨before, after, same, length⟩ := held
  rw [Array.toList_extract, same, List.extract_eq_take_drop, ← length, List.drop_left,
    Nat.add_sub_cancel_left, List.take_left]

theorem slice {stop : Nat} (held : image.Holds offset bytes) (ends : stop = offset + bytes.length) :
    image.slice region offset stop = .ok bytes := by
  subst ends
  exact slice_eq_ok_iff.mpr ⟨held.inside, held.extract.symm⟩

end Holds

end Image

namespace Record

variable {α β : Type}

/-- Items in a row, each with the place where it starts. -/
def placed (width : α → Nat) : Nat → List α → List (Nat × α)
  | _, [] => []
  | start, item :: rest => (start, item) :: placed width (start + width item) rest

theorem map_snd_placed (width : α → Nat) (start : Nat) (items : List α) :
    (placed width start items).map Prod.snd = items := by
  induction items generalizing start with
  | nil => rfl
  | cons item rest ih => rw [placed, List.map_cons, ih]

theorem map_snd_map_placed {κ : Type} (width : α → Nat) (start : Nat) (items : List α)
    (key : Nat → κ) (value : α → β) :
    ((placed width start items).map (Prod.map key value)).map Prod.snd = items.map value := by
  have values := congrArg (List.map value) (map_snd_placed width start items)
  rw [List.map_map] at values ⊢
  exact values

theorem placed_add (width : α → Nat) (base start : Nat) (items : List α) :
    placed width (base + start) items =
      (placed width start items).map (Prod.map (base + ·) id) := by
  induction items generalizing start with
  | nil => rfl
  | cons item rest ih =>
    rw [placed, placed, List.map_cons, Nat.add_assoc, ih]
    rfl

theorem placed_mul (width : α → Nat) (factor start : Nat) (items : List α) :
    placed (fun item => factor * width item) (factor * start) items =
      (placed width start items).map (Prod.map (factor * ·) id) := by
  induction items generalizing start with
  | nil => rfl
  | cons item rest ih =>
    rw [placed, placed, List.map_cons, ← Nat.mul_add, ih]
    rfl

variable {image : Image} {start stop : Nat} {items : List β}

theorem run_of_holds (finds : Nat → Record α → Prop) (store : β → List UInt8) (value : β → α)
    (held : image.Holds start (items.flatMap store))
    (room : start + (items.flatMap store).length ≤ stop)
    (each : ∀ place, ∀ item ∈ items, image.Holds place (store item) →
      place + (store item).length ≤ stop →
        ∃ record, finds place record ∧ record.value = value item ∧
          record.width = (store item).length) :
    Run finds start
      ((placed (fun item => (store item).length) start items).map (Prod.map id value))
      (start + (items.flatMap store).length) := by
  induction items generalizing start with
  | nil => exact .nil start
  | cons item rest ih =>
    rw [List.flatMap_cons] at held
    rw [List.flatMap_cons, List.length_append] at room
    obtain ⟨record, first, same, width⟩ :=
      each start item List.mem_cons_self held.left (by omega)
    have later := ih held.right (by omega) fun place other member =>
      each place other (List.mem_cons_of_mem _ member)
    rw [placed, List.map_cons, List.flatMap_cons, List.length_append, ← Nat.add_assoc]
    change Run finds start ((start, value item) :: _) _
    rw [← same, ← width] at *
    exact .cons first later

theorem readCount_of_holds (read : Nat → Except Fault (Record α)) (store : β → List UInt8)
    (value : β → α) (held : image.Holds start (items.flatMap store))
    (each : ∀ place, ∀ item ∈ items, image.Holds place (store item) →
      ∃ record, read place = .ok record ∧ record.value = value item ∧
        record.width = (store item).length) :
    readCount read items.length start =
      .ok ((placed (fun item => (store item).length) start items).map (Prod.map id value)) := by
  have run := run_of_holds (fun place record => read place = .ok record) store value held
    (Nat.le_refl _) fun place item member here _ => each place item member here
  refine readCount_eq_ok_iff.mpr ⟨?_, _, run⟩
  have length := congrArg List.length
    (map_snd_placed (fun item => (store item).length) start items)
  rwa [List.length_map] at length ⊢

namespace Run

variable {finds : Nat → Record α → Prop} {records : List (Nat × α)} {store : α → List UInt8}

/-- Records that are each held as they are stored fill the space from the start of a run to its end. -/
theorem holds (each : ∀ place record, finds place record →
      image.Holds place (store record.value) ∧ record.width = (store record.value).length)
    (inside : start ≤ image.size) (run : Run finds start records stop) :
    image.Holds start ((records.map Prod.snd).flatMap store) ∧
      stop = start + ((records.map Prod.snd).flatMap store).length := by
  induction run with
  | nil => exact ⟨.nil inside, rfl⟩
  | cons first later ih =>
    obtain ⟨held, width⟩ := each _ _ first
    have behind := held.inside
    rw [← width] at behind
    obtain ⟨rest, stops⟩ := ih behind
    rw [width] at rest stops
    refine ⟨held.append rest, ?_⟩
    rw [List.map_cons, List.flatMap_cons, List.length_append, ← Nat.add_assoc]
    exact stops

theorem extract (each : ∀ place record, finds place record →
      image.Holds place (store record.value) ∧ record.width = (store record.value).length)
    (run : Run finds start records stop) :
    (image.bytes.extract start stop).toList = (records.map Prod.snd).flatMap store := by
  by_cases inside : start ≤ image.size
  · obtain ⟨held, rfl⟩ := run.holds each inside
    exact held.extract
  · cases run with
    | nil => simp
    | cons first later =>
      have reached := (each _ _ first).1.inside
      omega

end Run

end Record

namespace Image

variable {image : Image} {region : Region} {offset : Nat}

theorem Holds.words {words : List UInt16} (held : image.Holds offset (words.flatMap Word.toBytes)) :
    image.words region offset words.length = .ok words := by
  have done := Record.readCount_of_holds (image.wordRecord region) Word.toBytes id held
    fun place word _ here =>
      ⟨{ value := word, width := 2 }, bind_eq_ok_iff.mpr ⟨word, here.wordAt, rfl⟩, rfl, rfl⟩
  refine bind_eq_ok_iff.mpr ⟨_, done, congrArg Except.ok ?_⟩
  rw [Record.map_snd_map_placed, List.map_id]

theorem holds_of_byte? {byte : UInt8} (present : image.byte? offset = some byte) :
    image.Holds offset [byte] := by
  obtain ⟨inside, rfl⟩ := Array.getElem?_eq_some_iff.mp present
  refine ⟨image.bytes.toList.take offset, image.bytes.toList.drop (offset + 1), ?_, ?_⟩
  · rw [List.singleton_append, ← Array.getElem_toList, ← List.drop_eq_getElem_cons,
      List.take_append_drop]
  · rw [List.length_take, Array.length_toList]
    omega

theorem holds_of_slice {stop : Nat} {bytes : List UInt8} (forward : offset ≤ stop)
    (sliced : image.slice region offset stop = .ok bytes) :
    image.Holds offset bytes ∧ bytes.length = stop - offset := by
  obtain ⟨inside, rfl⟩ := slice_eq_ok_iff.mp sliced
  unfold Image.size at inside
  have parts : (image.bytes.extract offset stop).toList =
      (image.bytes.toList.drop offset).take (stop - offset) := by
    rw [Array.toList_extract, List.extract_eq_take_drop]
  refine ⟨⟨image.bytes.toList.take offset, image.bytes.toList.drop stop, ?_, ?_⟩, ?_⟩
  · have rest : image.bytes.toList.drop stop =
        (image.bytes.toList.drop offset).drop (stop - offset) := by
      rw [List.drop_drop, Nat.add_sub_cancel' forward]
    rw [parts, rest, List.take_append_drop, List.take_append_drop]
  · rw [List.length_take, Array.length_toList]
    omega
  · rw [Array.length_toList, Array.size_extract]
    omega

theorem holds_of_wordAt {word : UInt16} (read : image.wordAt region offset = .ok word) :
    image.Holds offset (Word.toBytes word) := by
  obtain ⟨low, high, first, second, rfl⟩ := wordAt_eq_ok_iff.mp read
  rw [Word.toBytes_ofBytes, ← List.singleton_append]
  exact (holds_of_byte? first).append (holds_of_byte? second)

theorem holds_of_words {count : Nat} {words : List UInt16} (inside : offset ≤ image.size)
    (read : image.words region offset count = .ok words) :
    image.Holds offset (words.flatMap Word.toBytes) := by
  obtain ⟨records, done, same⟩ := bind_eq_ok_iff.mp read
  obtain ⟨-, stop, run⟩ := Record.readCount_eq_ok_iff.mp done
  cases same
  refine (run.holds (fun place record first => ?_) inside).1
  obtain ⟨word, here, same⟩ := bind_eq_ok_iff.mp first
  cases same
  exact ⟨holds_of_wordAt here, rfl⟩

end Image

end HugoStory
