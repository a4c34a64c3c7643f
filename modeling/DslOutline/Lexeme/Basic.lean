import DslOutline.Lexeme.State
import DslOutline.Text.Basic

/-!
# Lexemes and the mask

A text is read into units of code, literals and comments. Everything that looks for words works on
the code alone, on the units themselves or on the mask, which blanks the rest.
-/

namespace DslOutline

/-!
## Lexemes

`lex` reads a text unit by unit and says of each unit whether it is code, literal or comment. The
texts of the lexemes in order are the text that was read: nothing is skipped and nothing is read
twice. Masking, block tokens and the cut of a trailing comment are all functions of this list.

Reading may also start in the middle of a text. If the place is inside a character, the bytes left
of that character count as code, one span each, and lexemes start at the next character.
-/

/-- A unit of source text and what it is. -/
structure Lexeme where
  /-- The characters of the unit. -/
  text : List Char
  /-- The unit belongs to a literal, delimiters and interpolated code included. -/
  literal : Bool
  /-- The unit belongs to a comment. -/
  comment : Bool
  /-- The reader's state after the unit. -/
  after : LexState
deriving Repr, DecidableEq

/-- Whether keywords count in this unit: it is neither literal nor comment. -/
def Lexeme.isCode (l : Lexeme) : Bool :=
  !l.literal && !l.comment

/-- Reads a text from state `s`; `before` is the character in front of it. -/
def lex (s : LexState) (before : Option Char) : List Char → List Lexeme
  | [] => []
  | c :: rest =>
    let m := s.move before c rest
    let unit := c :: rest.take m.extra
    ⟨unit, m.literal, m.comment, m.next⟩ ::
      lex m.next unit.getLast? (rest.drop m.extra)
termination_by cs => cs.length
decreasing_by
  simp only [List.length_drop, List.length_cons]
  omega

/-- The lexemes of a whole text. -/
def lexemes (cs : List Char) : List Lexeme :=
  lex .start none cs

/-! ### Spans -/

/-- A lexeme's place as a range of bytes. -/
structure Span where
  /-- The offset of the first byte. -/
  start : Nat
  /-- The offset just past the last byte. -/
  stop : Nat
  /-- The bytes belong to a literal. -/
  literal : Bool
  /-- The bytes belong to a comment. -/
  comment : Bool
  /-- A literal or comment is open after these bytes. -/
  leavesOpen : Bool
deriving Repr, DecidableEq

/-- The spans of consecutive lexemes, the first of which starts at `offset`. -/
def spansOf (offset : Nat) : List Lexeme → List Span
  | [] => []
  | l :: ls =>
    let stop := offset + Text.byteLength l.text
    ⟨offset, stop, l.literal, l.comment, l.after.isOpen⟩ :: spansOf stop ls

/-- One code span for each of `n` bytes of a cut character. -/
def straySpans (offset : Nat) : Nat → List Span
  | 0 => []
  | n + 1 => ⟨offset, offset + 1, false, false, false⟩ :: straySpans (offset + 1) n

/-- The spans from offset `start` to the end of a text, read as code at the start. -/
def spansFrom (cs : List Char) (start : Nat) : List Span :=
  let entry := Text.enterAt none start cs
  let offset := min start (Text.byteLength cs)
  straySpans offset entry.stray ++
    spansOf (offset + entry.stray) (lex .start entry.before entry.rest)

/-! ### The comment at the end of a line of code -/

/-- The text in front of the first comment. -/
def beforeComment : List Lexeme → List Char
  | [] => []
  | l :: ls => if l.comment then [] else l.text ++ beforeComment ls

/-- A piece of code up to its trailing comment, if it has one. -/
def withoutComment (cs : List Char) : List Char :=
  beforeComment (lexemes cs)

/-!
## Masked text

Masking blanks literals and comments: each of their characters becomes as many spaces as it has
bytes, and line feeds stay. Byte offsets and line numbers are therefore the same in a text and in
its mask, and a search for keywords on the mask can work line by line.
-/

/-- The blanks that stand for one character: a line feed stays. -/
def blankChar (c : Char) : List Char :=
  if c = '\n' then ['\n'] else List.replicate c.utf8Size ' '

/-- A lexeme in the masked text: code stays as it is. -/
def Lexeme.masked (l : Lexeme) : List Char :=
  if l.isCode then l.text else l.text.flatMap blankChar

/-- A text with literals and comments blanked. -/
def mask (cs : List Char) : List Char :=
  (lexemes cs).flatMap Lexeme.masked

end DslOutline
