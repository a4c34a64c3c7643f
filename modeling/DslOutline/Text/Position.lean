import DslOutline.Text.Basic

/-!
# Lines and positions

The library counts in bytes, its users in lines and columns. The index of a text leads from the one
to the other.
-/

namespace DslOutline.Text

/-!
## Lines

A line ends with `\n`, which belongs to it; what follows the last `\n` is one more line unless it
is empty. Carriage returns before the line feed count as part of the terminator.

Two accounts of lines stand side by side. `numberedLines` cuts a text into its lines. `LineIndex`
keeps the offsets at which lines start, so that a line number becomes a range of bytes and an
offset becomes a position.
-/

/-- A text cut after every `\n`. -/
def splitLines : List Char → List (List Char)
  | [] => []
  | c :: cs =>
    if c = '\n' then [c] :: splitLines cs
    else
      match splitLines cs with
      | [] => [[c]]
      | line :: lines => (c :: line) :: lines

/-- The line without the carriage returns and line feeds at its end. -/
def trimTerminator (cs : List Char) : List Char :=
  dropEndWhile (fun c => c == '\r' || c == '\n') cs

/-- A line of a text with its number, counted from 1. -/
structure NumberedLine where
  /-- The line's number. -/
  number : Nat
  /-- The line without its terminator. -/
  text : List Char
deriving Repr, DecidableEq

/-- The lines in order, the first of them numbered `number`. -/
def numberFrom (number : Nat) : List (List Char) → List NumberedLine
  | [] => []
  | line :: lines => ⟨number, trimTerminator line⟩ :: numberFrom (number + 1) lines

/-- The lines of a text, numbered from 1. The empty text has none. -/
def numberedLines (cs : List Char) : List NumberedLine :=
  numberFrom 1 (splitLines cs)

/-! ### Line offsets -/

/-- The offsets just past each `\n` of a text that starts at `offset`. -/
def startsAfterNewlines (offset : Nat) : List Char → List Nat
  | [] => []
  | c :: cs =>
    if c = '\n' then (offset + c.utf8Size) :: startsAfterNewlines (offset + c.utf8Size) cs
    else startsAfterNewlines (offset + c.utf8Size) cs

/-- Where the lines of a text start. -/
structure LineIndex where
  /-- Offset 0 and the offset just past each `\n`, in increasing order. -/
  starts : List Nat
  /-- The number of bytes of the text. -/
  length : Nat
  /-- Whether the text ends with `\n`. -/
  endsWithNewline : Bool
deriving Repr, DecidableEq

namespace LineIndex

/-- The index of a text. -/
def ofText (cs : List Char) : LineIndex where
  starts := 0 :: startsAfterNewlines 0 cs
  length := byteLength cs
  endsWithNewline := cs.getLast? == some '\n'

/-- The number of lines; the empty remainder after a final `\n` is not one. -/
def lineCount (index : LineIndex) : Nat :=
  if index.length = 0 then 0
  else if index.endsWithNewline then index.starts.length - 1
  else index.starts.length

/-- The offset at which line `n` starts; the end of the text if there is no such line. -/
def lineStart (index : LineIndex) (n : Nat) : Nat :=
  index.starts.getD (n - 1) index.length

/-- The offset just past line `n`, terminator included. -/
def lineEnd (index : LineIndex) (n : Nat) : Nat :=
  index.starts.getD n index.length

/-- Line `n` of a text with this index, without its terminator. -/
def lineText (index : LineIndex) (cs : List Char) (n : Nat) : List Char :=
  trimTerminator (slice (index.lineStart n) (index.lineEnd n) cs)

end LineIndex

/-!
## Positions

A position is a line and a column, both counted from 1; columns count characters, not bytes.
Positions are ordered by line, then by column.
-/

/-- A place in a text as line and column. -/
structure Position where
  /-- The line, counted from 1. -/
  line : Nat
  /-- The column in characters, counted from 1. -/
  column : Nat
deriving Repr, DecidableEq, Inhabited

namespace Position

instance : LT Position where
  lt p q := p.line < q.line ∨ (p.line = q.line ∧ p.column < q.column)

instance : LE Position where
  le p q := p.line < q.line ∨ (p.line = q.line ∧ p.column ≤ q.column)

instance (p q : Position) : Decidable (p < q) :=
  inferInstanceAs (Decidable (p.line < q.line ∨ (p.line = q.line ∧ p.column < q.column)))

instance (p q : Position) : Decidable (p ≤ q) :=
  inferInstanceAs (Decidable (p.line < q.line ∨ (p.line = q.line ∧ p.column ≤ q.column)))

/-- Line and column counted from 0. -/
def zeroBased (p : Position) : Nat × Nat :=
  (p.line - 1, p.column - 1)

/-- The position as it is shown to the user. -/
def render (p : Position) : String :=
  "L" ++ toString p.line ++ ":" ++ toString p.column

end Position

namespace LineIndex

/-- The position of an offset in a text with this index; offsets past the end count as the end. -/
def position (index : LineIndex) (cs : List Char) (offset : Nat) : Position :=
  let offset := min offset index.length
  let line := (index.starts.takeWhile (· ≤ offset)).length
  ⟨line, (slice (index.lineStart line) offset cs).length + 1⟩

/-- The position just past the last character of line `n`. -/
def endOfLine (index : LineIndex) (cs : List Char) (n : Nat) : Position :=
  ⟨max n 1, (index.lineText cs n).length + 1⟩

end LineIndex

end DslOutline.Text
