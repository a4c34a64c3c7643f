import DslOutline.Charset.Property
import DslOutline.Pattern.Bracket
import DslOutline.Pattern.Size

/-!
# Reading a pattern

The reader goes through the pattern once. What it has read of a group is a list of alternatives and
the pieces of the alternative it is in; groups that are still open wait on a stack. Flags take
effect from where they are written to the end of their group.

A pattern is refused if it is malformed, nests too deeply, or has an automaton that is too large.
Why it is refused makes no difference to the caller, so the reader answers with an `Option`.
-/

namespace DslOutline.Pattern

/-- A part of a pattern that has been read. -/
structure Piece where
  /-- Its meaning. -/
  expr : Expr
  /-- How deeply its parts are nested. -/
  depth : Nat
  /-- It sets flags and matches nothing, so it cannot be repeated. -/
  setsFlags : Bool := false

/-- An open group, with what was read before it in the group around it. -/
structure Frame where
  /-- The finished alternatives, last first. -/
  alternatives : List Piece
  /-- The pieces of the current alternative, last first. -/
  pieces : List Piece
  /-- The flags to return to. -/
  flags : Flags
  /-- The number under which the group's text is kept. -/
  capture : Option Nat

/-- What the reader knows at a place of the pattern. -/
structure ReadState where
  /-- The open groups, innermost first. -/
  stack : List Frame := []
  /-- The finished alternatives of the innermost group, last first. -/
  alternatives : List Piece := []
  /-- The pieces of the current alternative, last first. -/
  pieces : List Piece := []
  /-- The flags in force. -/
  flags : Flags := {}
  /-- How many numbered groups have been opened. -/
  groups : Nat := 0
  /-- The group names in use. -/
  names : List (List Char) := []

/-- How deeply the parts of a pattern may be nested. -/
def depthLimit : Nat := 250

/-- Joins pieces that are listed last first. Several pieces are a level of their own. -/
def joinPieces (join : List Expr → Expr) (ps : List Piece) : Piece :=
  let deepest := (ps.map Piece.depth).foldl Nat.max 0
  { expr := join (ps.reverse.map Piece.expr)
    depth := if ps.length ≤ 1 then deepest else deepest + 1 }

namespace ReadState

/-- The state with one more piece. -/
def push (s : ReadState) (p : Piece) : ReadState :=
  { s with pieces := p :: s.pieces }

/-- Everything read of the innermost group. -/
def body (s : ReadState) : Piece :=
  joinPieces .choice (joinPieces .sequence s.pieces :: s.alternatives)

/-- Opens a group whose text is kept under the number `capture`, if there is one. -/
def openGroup (s : ReadState) (capture : Option Nat) (inner : Flags) : ReadState :=
  { s with
    stack := ⟨s.alternatives, s.pieces, s.flags, capture⟩ :: s.stack
    alternatives := []
    pieces := []
    flags := inner }

/-- Opens a numbered group. -/
def openCapture (s : ReadState) : ReadState :=
  { s.openGroup (some (s.groups + 1)) s.flags with groups := s.groups + 1 }

/-- Closes the innermost group, if there is an open one. -/
def closeGroup (s : ReadState) : Option ReadState :=
  match s.stack with
  | [] => none
  | f :: stack =>
    let body := s.body
    let expr := match f.capture with | some n => .group n body.expr | none => body.expr
    some
      { s with
        stack := stack
        alternatives := f.alternatives
        pieces := { expr := expr, depth := body.depth + 1 } :: f.pieces
        flags := f.flags }

/-- Repeats the last piece, if there is one that can be repeated. -/
def repeatLast (s : ReadState) (min : Nat) (max : Option Nat) (lazy : Bool) : Option ReadState :=
  match s.pieces with
  | [] => none
  | p :: ps =>
    if p.setsFlags then none
    else
      let greedy := lazy == s.flags.swapGreed
      let p : Piece := { expr := p.expr.repeated min max greedy, depth := p.depth + 1 }
      some { s with pieces := p :: ps }

end ReadState

/-- Whether a character may be part of a group name. -/
def isNameChar (first : Bool) (c : Char) : Bool :=
  c == '_' || isLetter c ||
    (!first && (c == '.' || c == '[' || c == ']' || isLetterOrNumber c))

/-- Reads a group name up to its `>`. -/
def readName (cs : List Char) : Option (List Char × List Char) :=
  let name := cs.takeWhile (· != '>')
  match name, cs.dropWhile (· != '>') with
  | c :: tail, _ :: rest =>
    if isNameChar true c && tail.all (isNameChar false) then some (name, rest) else none
  | _, _ => none

/-- Reads what follows an opening parenthesis. -/
def readGroupOpening (s : ReadState) (cs : List Char) : Option (ReadState × List Char) :=
  let named (cs : List Char) : Option (ReadState × List Char) := do
    let (name, rest) ← readName cs
    if s.names.contains name then none
    else return ({ s.openCapture with names := name :: s.names }, rest)
  match s.flags.skip cs with
  | '?' :: '=' :: _ => none
  | '?' :: '!' :: _ => none
  | '?' :: '<' :: '=' :: _ => none
  | '?' :: '<' :: '!' :: _ => none
  | '?' :: 'P' :: '<' :: rest => named rest
  | '?' :: '<' :: rest => named rest
  | '?' :: rest => do
    let (flags, noFlag, scope, rest) ← s.flags.read [] true rest
    match scope with
    | .newGroup => return (s.openGroup none flags, rest)
    | .restOfGroup =>
      if noFlag then none
      else
        let s := s.push { expr := .empty, depth := 0, setsFlags := true }
        return ({ s with flags := flags }, rest)
  | rest => some (s.openCapture, rest)

/-- Reads decimal digits; in verbose patterns white space and comments between them are skipped. -/
def readDigits (fs : Flags) (acc : Nat × Nat) : Nat → List Char → (Nat × Nat) × List Char
  | 0, cs => (acc, cs)
  | fuel + 1, cs =>
    match cs with
    | [] => (acc, cs)
    | c :: rest =>
      if c.isDigit then
        readDigits fs (acc.1 + 1, 10 * acc.2 + (c.toNat - '0'.toNat)) fuel (fs.skip rest)
      else (acc, cs)

/-- Reads the number of rounds, which must fit into 32 bits, with white space around it. -/
def readCount (fs : Flags) (cs : List Char) : Option (Nat × List Char) :=
  let ((digits, value), rest) :=
    readDigits fs (0, 0) (cs.length + 1) (cs.dropWhile Text.isBlank)
  if digits = 0 ∨ 0x100000000 ≤ value then none
  else some (value, fs.skip (rest.dropWhile Text.isBlank))

/-- Reads the bounds of a counted repetition after its opening brace, and the brace that closes
them. -/
def readBounds (fs : Flags) (cs : List Char) : Option (Nat × Option Nat × List Char) := do
  let (min, cs) ← readCount fs (fs.skip cs)
  match cs with
  | '\x7d' :: rest => return (min, some min, rest)
  | ',' :: rest =>
    match fs.skip rest with
    | '\x7d' :: rest => return (min, none, rest)
    | rest =>
      let (max, cs) ← readCount fs rest
      match cs with
      | '\x7d' :: rest => if max < min then none else return (min, some max, rest)
      | _ => none
  | _ => none

/-- Reads the `?` that turns a repetition's preference around. -/
def readLazy (cs : List Char) : Bool × List Char :=
  match cs with
  | '?' :: rest => (true, rest)
  | cs => (false, cs)

/-- Reads one item of a pattern, which starts with `c`. -/
def readItem (s : ReadState) (c : Char) (cs : List Char) : Option (ReadState × List Char) :=
  let again (min : Nat) (max : Option Nat) (cs : List Char) : Option (ReadState × List Char) :=
    let (lazy, rest) := readLazy cs
    (s.repeatLast min max lazy).map fun s => (s, rest)
  match c with
  | '(' => readGroupOpening s cs
  | ')' => s.closeGroup.map fun s => (s, cs)
  | '|' =>
    some
      ({ s with alternatives := joinPieces .sequence s.pieces :: s.alternatives, pieces := [] }, cs)
  | '[' => do
    let (part, rest) ← readBracket s.flags cs
    return (s.push { expr := .set part.set, depth := part.depth }, rest)
  | '?' => again 0 (some 1) cs
  | '*' => again 0 none cs
  | '+' => again 1 none cs
  | '\x7b' => do
    let (min, max, rest) ← readBounds s.flags cs
    again min max (s.flags.skip rest)
  | _ => do
    let (atom, rest) ← readAtom s.flags c cs
    let expr ← atom.expr? s.flags
    return (s.push { expr := expr, depth := 0 }, rest)

/-- Reads items until the pattern ends. Every item takes at least one character, so as much fuel as
there are characters, and one more, is enough. -/
def readItems (s : ReadState) : Nat → List Char → Option ReadState
  | 0, _ => none
  | fuel + 1, cs =>
    match s.flags.skip cs with
    | [] => if s.stack.isEmpty then some s else none
    | c :: cs => do
      let (s, rest) ← readItem s c cs
      readItems s fuel rest

/-- The expression that a pattern stands for and the number of its groups; nothing if the pattern is
refused. -/
def readExpr? (pattern : List Char) : Option (Expr × Nat) := do
  let s ← readItems {} (pattern.length + 1) pattern
  let body := s.body
  if depthLimit < body.depth || !body.expr.fits then none
  else return (body.expr, s.groups)

end DslOutline.Pattern
