import DslOutline.Charset.Basic

/-!
# Expressions

A pattern is a regular expression with numbered groups. `Expr` is its meaning after flags have been
resolved: every set of characters already knows about letter case, and every repetition whether it
prefers more or fewer rounds.
-/

namespace DslOutline.Pattern

/-! ## Places and expressions -/

/-- A condition on a place between two characters. -/
inductive Look where
  | textStart
  | textEnd
  /-- The start of a line; with `crlf`, `\r` ends a line too. -/
  | lineStart (crlf : Bool)
  | lineEnd (crlf : Bool)
  /-- One of the two neighbours is a word character. -/
  | wordBoundary (ascii : Bool)
  | notWordBoundary (ascii : Bool)
  | wordStart (ascii : Bool)
  | wordEnd (ascii : Bool)
  /-- The character before is no word character. -/
  | wordStartHalf (ascii : Bool)
  /-- The character after is no word character. -/
  | wordEndHalf (ascii : Bool)
deriving Repr, DecidableEq

namespace Look

/-- Whether there is a word character on this side. -/
def isWord (ascii : Bool) (c : Option Char) : Bool :=
  c.any fun c => if ascii then Charset.asciiWord.contains c else isWordChar c

/-- Whether the condition holds between two neighbours. -/
def holds (l : Look) (before after : Option Char) : Bool :=
  match l with
  | textStart => before.isNone
  | textEnd => after.isNone
  | lineStart false => before.all (· == '\n')
  | lineStart true => before.all fun c => c == '\n' || (c == '\r' && after != some '\n')
  | lineEnd false => after.all (· == '\n')
  | lineEnd true => after.all fun c => c == '\r' || (c == '\n' && before != some '\r')
  | wordBoundary ascii => isWord ascii before != isWord ascii after
  | notWordBoundary ascii => isWord ascii before == isWord ascii after
  | wordStart ascii => !isWord ascii before && isWord ascii after
  | wordEnd ascii => isWord ascii before && !isWord ascii after
  | wordStartHalf ascii => !isWord ascii before
  | wordEndHalf ascii => !isWord ascii after

end Look

/-- A regular expression. -/
inductive Expr where
  | empty
  /-- One character of a set. -/
  | set (s : Charset)
  | look (l : Look)
  /-- A group whose text is kept under a number. -/
  | group (index : Nat) (e : Expr)
  | seq (a b : Expr)
  /-- The first alternative is preferred. -/
  | alt (a b : Expr)
  /-- At least `min` and at most `max` rounds; greedy prefers more of them. -/
  | rounds (e : Expr) (min : Nat) (max : Option Nat) (greedy : Bool)
deriving Repr, DecidableEq, Inhabited

/-!
## Building expressions

Expressions are built in a normal form, so that patterns that differ only in how they are written
get the same program:

* sequences and choices are flat, that is, nested to the right only, and nothing stands empty in a
  sequence;
* a choice between characters, or between sets of characters, is one set;
* a choice has no part with which all of its alternatives start;
* what can only match the empty text is not repeated.

The text that a pattern matches and the groups in it are the same with or without this.
-/

namespace Expr

/-! ### Repetitions -/

/-- Whether the expression matches nothing but the empty text. -/
def onlyEmpty : Expr → Bool
  | empty => true
  | set _ => false
  | look _ => true
  | group _ e => e.onlyEmpty
  | seq a b => a.onlyEmpty && b.onlyEmpty
  | alt a b => a.onlyEmpty && b.onlyEmpty
  | rounds e _ max _ => max.isSome && e.onlyEmpty

/-- The expression repeated. A second round that reads nothing changes nothing. -/
def repeated (e : Expr) (min : Nat) (max : Option Nat) (greedy : Bool) : Expr :=
  let (min, max) :=
    if e.onlyEmpty then (Nat.min min 1, some (Nat.min (max.getD 1) 1)) else (min, max)
  if max = some 0 then empty
  else if min = 1 ∧ max = some 1 then e
  else rounds e min max greedy

/-! ### Sequences -/

/-- The parts of a sequence. -/
def parts : Expr → List Expr
  | empty => []
  | seq a b => a.parts ++ b.parts
  | e => [e]

/-- The sequence with these parts, which are no sequences. -/
def ofParts : List Expr → Expr
  | [] => empty
  | [e] => e
  | e :: es => seq e (ofParts es)

/-- One expression after the other. -/
def sequence (es : List Expr) : Expr :=
  ofParts (es.flatMap parts)

/-! ### Choices -/

/-- The alternatives of a choice. -/
def alternatives : Expr → List Expr
  | alt a b => a.alternatives ++ b.alternatives
  | e => [e]

/-- The choice with these alternatives, which are no choices. -/
def ofAlternatives : List Expr → Expr
  | [] => set .empty
  | [e] => e
  | e :: es => alt e (ofAlternatives es)

/-- The set of characters that an expression is. -/
def set? : Expr → Option Charset
  | set s => some s
  | _ => none

/-- Whether the expression is a single character. -/
def isLiteral (e : Expr) : Bool :=
  e.set?.any fun s => s.onlyPoint?.isSome

/-- A choice between alternatives that have no common start. Characters make one set, and so do
sets with more members; a mixture of both stays a choice. -/
def choiceOf (es : List Expr) : Expr :=
  let es := es.flatMap alternatives
  let sets := es.filterMap set?
  if sets.length = es.length ∧ (es.all isLiteral ∨ !es.any isLiteral) then set (.unions sets)
  else ofAlternatives es

/-- The parts of a sequence, where neighbouring characters make one phrase. -/
def phrases : List Expr → List (List Expr)
  | [] => []
  | e :: es =>
    match phrases es with
    | (f :: fs) :: rest =>
      if e.isLiteral && f.isLiteral then (e :: f :: fs) :: rest else [e] :: (f :: fs) :: rest
    | rest => [e] :: rest

/-- What two lists start with. -/
def commonStart {α : Type} [DecidableEq α] : List α → List α → List α
  | a :: as, b :: bs => if a = b then a :: commonStart as bs else []
  | _, _ => []

/-- The phrases with which all alternatives start, if each of them has at least two. -/
def sharedPhrases (branches : List (List (List Expr))) : List (List Expr) :=
  match branches with
  | first :: second :: rest =>
    if branches.any fun b => b.length < 2 then [] else (second :: rest).foldl commonStart first
  | _ => []

/-- A choice between alternatives, the preferred one first. -/
def choice (es : List Expr) : Expr :=
  let es := es.flatMap alternatives
  let branches := es.map fun e => phrases e.parts
  let shared := sharedPhrases branches
  if shared.isEmpty then choiceOf es
  else
    let rests := branches.map fun b => ofParts (b.drop shared.length).flatten
    sequence (shared.flatten ++ [choiceOf rests])

end Expr

end DslOutline.Pattern
