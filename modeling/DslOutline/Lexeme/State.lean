import DslOutline.Text.Basic

/-!
# Reading one unit of source text

The reader knows just enough of the language's lexical grammar to tell code from literals and
comments. Its state is the kind of text it stands in (`Mode`) and the interpolations it is inside
of; one call of `LexState.move` reads one unit: a character, or a whole delimiter, escape sequence,
character literal or sigil opener.

A literal may contain `#{ ... }`, whose content is code again and may contain literals. So the
state keeps, for every open interpolation, the mode to resume and the number of braces opened
inside it. Everything inside an interpolation still belongs to the literal around it.
-/

namespace DslOutline

/-- The two quotation marks that delimit strings, charlists and heredocs. -/
inductive Quote where
  | double
  | single
deriving Repr, DecidableEq

namespace Quote

/-- The mark itself. -/
def mark : Quote → Char
  | double => '"'
  | single => '\''

/-- The quote that a character is, if it is one. -/
def ofChar? (c : Char) : Option Quote :=
  if c = '"' then some double else if c = '\'' then some single else none

end Quote

/-- The kind of text that the reader stands in. -/
inductive Mode where
  /-- Plain code. -/
  | code
  /-- From `#` to the end of the line. -/
  | comment
  /-- Between two quotation marks. -/
  | quoted (quote : Quote)
  /-- Between two tripled quotation marks. -/
  | heredoc (quote : Quote)
  /-- Inside a sigil, with the number of openers that wait for their closer. -/
  | sigil (opener closer : Char) (depth : Nat)
deriving Repr, DecidableEq

/-- What the reader remembers between units. -/
structure LexState where
  /-- The kind of text at this place. -/
  mode : Mode
  /-- The open interpolations, innermost first: the mode to resume and the unclosed braces. -/
  interpolations : List (Mode × Nat)
deriving Repr, DecidableEq

/-- What reading one unit does. -/
structure Move where
  /-- How many characters the unit has after its first one. -/
  extra : Nat
  /-- The unit belongs to a string, charlist, sigil or character literal, delimiters included. -/
  literal : Bool
  /-- The unit belongs to a comment. -/
  comment : Bool
  /-- The state after the unit. -/
  next : LexState
deriving Repr, DecidableEq

/-- Whether a character can be part of an identifier or atom, judged by ASCII alone. -/
def isIdentChar (c : Char) : Bool :=
  c.isAlphanum || c == '_' || c == '?' || c == '!'

/-- The closer that belongs to a sigil's opening delimiter. -/
def sigilCloser? (opener : Char) : Option Char :=
  if opener = '(' then some ')'
  else if opener = '[' then some ']'
  else if opener = '\x7b' then some '\x7d'
  else if opener = '<' then some '>'
  else if opener = '/' ∨ opener = '|' ∨ opener = '"' ∨ opener = '\'' then some opener
  else none

/-- Whether a text starts with the same mark three times. -/
def startsWithTriple (mark : Char) (cs : List Char) : Bool :=
  [mark, mark, mark].isPrefixOf cs

/-- The mode that a sigil opens, and the length of its opener after the `~`; `cs` is what follows
the `~`. A name of ASCII letters and a delimiter are both required. -/
def sigilOpening? (cs : List Char) : Option (Nat × Mode) :=
  let name := cs.takeWhile Char.isAlpha
  if name.isEmpty then none
  else
    match cs.drop name.length with
    | [] => none
    | d :: rest =>
      match Quote.ofChar? d with
      | some q =>
        if startsWithTriple d (d :: rest) then some (name.length + 3, .heredoc q)
        else some (name.length + 1, .sigil d d 0)
      | none => (sigilCloser? d).map fun closer => (name.length + 1, .sigil d closer 0)

/-- Whether a `?` starts a character literal: it must not end an identifier, and something other
than ASCII white space must follow. -/
def startsCharLiteral (before : Option Char) (rest : List Char) : Bool :=
  !before.any isIdentChar && rest.head?.any fun c => !Text.isAsciiBlank c

/-- How many characters a character literal has after its `?`. -/
def charLiteralBody (rest : List Char) : Nat :=
  if rest.head? = some '\\' then 2 else 1

namespace LexState

/-- Code outside of every interpolation: the state at the start of a text. -/
def start : LexState := ⟨.code, []⟩

/-- Whether a literal, comment or interpolation is open. -/
def isOpen (s : LexState) : Bool :=
  s.mode != .code || !s.interpolations.isEmpty

/-- The state with another mode. -/
def withMode (s : LexState) (mode : Mode) : LexState :=
  ⟨mode, s.interpolations⟩

/-- The state after a brace inside an interpolation. The closing brace that matches no opening one
ends the interpolation. -/
def brace (s : LexState) (c : Char) : LexState :=
  match s.interpolations with
  | [] => s
  | (resume, depth) :: outer =>
    if c = '\x7b' then ⟨s.mode, (resume, depth + 1) :: outer⟩
    else
      match depth with
      | 0 => ⟨resume, outer⟩
      | d + 1 => ⟨s.mode, (resume, d) :: outer⟩

/-- The state inside an interpolation that starts here. -/
def interpolate (s : LexState) : LexState :=
  ⟨.code, (s.mode, 0) :: s.interpolations⟩

/-- Reads a unit in code. -/
def moveInCode (s : LexState) (before : Option Char) (c : Char) (rest : List Char) : Move :=
  match Quote.ofChar? c with
  | some q =>
    if startsWithTriple c (c :: rest) then ⟨2, true, false, s.withMode (.heredoc q)⟩
    else ⟨0, true, false, s.withMode (.quoted q)⟩
  | none =>
    if (c = '\x7b' ∨ c = '\x7d') ∧ !s.interpolations.isEmpty then ⟨0, false, false, s.brace c⟩
    else if c = '#' then ⟨0, false, true, s.withMode .comment⟩
    else if c = '?' ∧ startsCharLiteral before rest then ⟨charLiteralBody rest, true, false, s⟩
    else if c = '~' then
      match sigilOpening? rest with
      | some (extra, mode) => ⟨extra, true, false, s.withMode mode⟩
      | none => ⟨0, false, false, s⟩
    else ⟨0, false, false, s⟩

/-- Reads a unit whose first character is `c`; `before` is the character in front of it and `rest`
what follows. Whether the unit counts as inside a literal because of an interpolation around it is
left to `move`. -/
def moveInMode (s : LexState) (before : Option Char) (c : Char) (rest : List Char) : Move :=
  match s.mode with
  | .code => s.moveInCode before c rest
  | .comment =>
    if c = '\n' then ⟨0, false, false, s.withMode .code⟩ else ⟨0, false, true, s⟩
  | .quoted q =>
    if c = '#' ∧ rest.head? = some '\x7b' then ⟨1, true, false, s.interpolate⟩
    else if c = '\\' then ⟨1, true, false, s⟩
    else if c = q.mark then ⟨0, true, false, s.withMode .code⟩
    else ⟨0, true, false, s⟩
  | .heredoc q =>
    if c = '#' ∧ rest.head? = some '\x7b' then ⟨1, true, false, s.interpolate⟩
    else if c = '\\' then ⟨1, true, false, s⟩
    else if startsWithTriple q.mark (c :: rest) then ⟨2, true, false, s.withMode .code⟩
    else ⟨0, true, false, s⟩
  | .sigil opener closer depth =>
    if c = '\\' then ⟨1, true, false, s⟩
    else if c = closer then
      match depth with
      | 0 => ⟨0, true, false, s.withMode .code⟩
      | d + 1 => ⟨0, true, false, s.withMode (.sigil opener closer d)⟩
    else if c = opener then ⟨0, true, false, s.withMode (.sigil opener closer (depth + 1))⟩
    else ⟨0, true, false, s⟩

/-- Reads one unit. A unit inside an interpolation belongs to the literal around it. -/
def move (s : LexState) (before : Option Char) (c : Char) (rest : List Char) : Move :=
  let m := s.moveInMode before c rest
  { m with literal := m.literal || !s.interpolations.isEmpty }

end LexState

end DslOutline
