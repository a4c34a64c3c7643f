import DslOutline.Lexeme.Basic
import DslOutline.Text.Position

/-!
# Documents

A document is a source text prepared for reading line by line: the text, its mask, and one line
index, which serves both because masking moves no line feed. A byte order mark at the start is
blanked too, so that the first line reads as if it were not there.
-/

namespace DslOutline

open Text (Position LineIndex)

/-- A source text with its mask and line index. -/
structure Document where
  /-- The text as written. -/
  text : List Char
  /-- The text with literals, comments and a leading byte order mark blanked. -/
  masked : List Char
  /-- The line offsets of both. -/
  index : LineIndex
deriving Repr, DecidableEq

/-- The character that may mark the start of a UTF-8 file. -/
def byteOrderMark : Char := '\ufeff'

/-- A masked text with a leading byte order mark blanked. -/
def blankByteOrderMark : List Char → List Char
  | [] => []
  | c :: cs => if c = byteOrderMark then List.replicate c.utf8Size ' ' ++ cs else c :: cs

namespace Document

/-- The document of a text. -/
def ofText (cs : List Char) : Document where
  text := cs
  masked := blankByteOrderMark (mask cs)
  index := .ofText cs

/-- The document of a string. -/
def ofString (s : String) : Document := ofText s.toList

/-- The number of lines. -/
def lineCount (d : Document) : Nat := d.index.lineCount

/-- Line `n` as written, without its terminator. -/
def line (d : Document) (n : Nat) : List Char := d.index.lineText d.text n

/-- Line `n` of the mask, without its terminator. -/
def maskedLine (d : Document) (n : Nat) : List Char := d.index.lineText d.masked n

/-- The offset at which line `n` starts. -/
def lineStart (d : Document) (n : Nat) : Nat := d.index.lineStart n

/-- The offset just past line `n`, terminator included. -/
def lineEnd (d : Document) (n : Nat) : Nat := d.index.lineEnd n

/-- The position of an offset. -/
def position (d : Document) (offset : Nat) : Position := d.index.position d.text offset

/-- The position of an offset that does not fall inside a character. -/
def position? (d : Document) (offset : Nat) : Option Position :=
  if Text.isBoundary (min offset (Text.byteLength d.text)) d.text then some (d.position offset)
  else none

/-- The position just past the last character of line `n`. -/
def endOfLine (d : Document) (n : Nat) : Position := d.index.endOfLine d.text n

/-- The number of bytes of white space at the start of line `n`, measured on the mask. -/
def indentation (d : Document) (n : Nat) : Nat :=
  Text.byteLength ((d.maskedLine n).takeWhile Text.isBlank)

/-- The position of the first character of line `n` that is not blank on the mask. -/
def firstNonBlank (d : Document) (n : Nat) : Position :=
  d.position (d.lineStart n + d.indentation n)

end Document

/-! ## Lines as written and as masked -/

/-- A line as written and as masked. -/
structure SourceLine where
  /-- The line's number. -/
  number : Nat
  /-- The line as written. -/
  text : List Char
  /-- The line on the mask. -/
  masked : List Char
deriving Repr, DecidableEq

namespace Document

/-- All lines: the lines of the mask, each with the line of that number as written. -/
def sourceLines (d : Document) : List SourceLine :=
  (Text.numberedLines d.masked).map fun l => ⟨l.number, d.line l.number, l.text⟩

/-- Lines `first` to just before `stop`. -/
def linesBetween (d : Document) (first stop : Nat) : List SourceLine :=
  (List.range' first (stop - first)).map fun n => ⟨n, d.line n, d.maskedLine n⟩

end Document

end DslOutline
