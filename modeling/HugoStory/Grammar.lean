import HugoStory.Image.Words
/-! The verb grammar. Its table starts right behind the header and is a run of entries: a
byte for the kind of verb, a count, that many dictionary addresses, and the lines. A line is
a mark, a length that counts itself, and its tokens. The byte behind a line says how to go
on: with the mark of the next line, with the next entry, or not at all. -/
namespace HugoStory

/-- Verbs take a turn of the game, xverbs do not. -/
inductive VerbKind
  | verb
  | xverb
deriving DecidableEq, Repr

namespace VerbKind

def verbByte : UInt8 := 0x2c
def xverbByte : UInt8 := 0x2d

def ofByte? (byte : UInt8) : Option VerbKind :=
  if byte = verbByte then some verb
  else if byte = xverbByte then some xverb
  else none

def toByte : VerbKind → UInt8
  | verb => verbByte
  | xverb => xverbByte

def label : VerbKind → String
  | verb => "verb"
  | xverb => "xverb"

theorem ofByte?_eq_some_iff {byte : UInt8} {kind : VerbKind} :
    ofByte? byte = some kind ↔ byte = kind.toByte := by
  unfold ofByte?
  constructor
  · intro found
    split at found
    · rename_i same
      cases found
      exact same
    · split at found
      · rename_i same
        cases found
        exact same
      · cases found
  · rintro rfl
    cases kind <;> rfl

end VerbKind

structure GrammarEntry where
  kind : VerbKind
  verbs : List UInt16
  lines : List (List UInt8)
deriving DecidableEq, Repr

namespace Grammar

def start : Nat := 0x40

def lineMark : UInt8 := 0x08

def closingMark : UInt8 := 0xff

/-- The length of a line counts itself. Nothing is asked of the mark in front of it. -/
def readLine (image : Image) (offset : Nat) : Except Fault (Record (List UInt8)) := do
  let length ← image.byteAt .grammar (offset + 1)
  let tokens ← image.slice .grammar (offset + 2) (offset + 2 + (length.toNat - 1))
  return { value := tokens, width := 2 + (length.toNat - 1) }

/-- Reads lines on from `offset`; `seen` holds the lines already read, the last one first.
Gives all lines and the offset behind them. -/
def collectLines (image : Image) (offset : Nat) (seen : List (List UInt8)) :
    Except Fault (List (List UInt8) × Nat) :=
  if offset < image.size then
    match readLine image offset with
    | .error fault => .error fault
    | .ok line =>
      let next := offset + line.width
      match image.byteAt .grammar next with
      | .error fault => .error fault
      | .ok byte =>
        if byte = lineMark then collectLines image next (line.value :: seen)
        else if (VerbKind.ofByte? byte).isSome ∨ byte = closingMark then
          .ok ((line.value :: seen).reverse, next)
        else .error (.strayGrammarByte byte next)
  else .ok (seen.reverse, offset)
termination_by image.size - offset
decreasing_by
  have := line.width_pos
  omega

def readLines (image : Image) (offset : Nat) : Except Fault (List (List UInt8) × Nat) := do
  let (lines, next) ← collectLines image offset []
  return (lines, next - offset)

/-- The entry at `offset`, or none at the mark that closes the table. -/
def readEntry (image : Image) (offset : Nat) : Except Fault (Option (Record GrammarEntry)) := do
  let byte ← image.byteAt .grammar offset
  if byte = closingMark then return none
  else
    match VerbKind.ofByte? byte with
    | none => throw (.unknownVerbKind byte offset)
    | some kind =>
      let count ← image.byteAt .grammar (offset + 1)
      let verbs ← image.words .grammar (offset + 2) count.toNat
      let (lines, taken) ← readLines image (offset + 2 + 2 * count.toNat)
      return some {
        value := { kind, verbs, lines }
        width := 2 + 2 * count.toNat + taken }

def readTable (image : Image) (offset : Nat) : Except Fault (List GrammarEntry) := do
  let entries ← Record.readUpTo (readEntry image) image.size offset
  return entries.map Prod.snd

def read (image : Image) : Except Fault (List GrammarEntry) := readTable image start

end Grammar

end HugoStory
