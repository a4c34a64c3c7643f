import DslOutline.Pattern.Expr
import DslOutline.Pattern.Reader

/-!
# Patterns

A pattern is compiled once, when a schema is loaded, and then applied to many lines: its expression
becomes a program, and the program is run on the text. Only the text of the first group is ever
asked for.
-/

namespace DslOutline

/-!
## Pattern programs

A pattern is run as a small program. An instruction either reads a character, checks the place,
remembers the place, or chooses between two ways to go on, the preferred one first. Counted
repetitions are written out, and `e*` is compiled as an optional `e+`, so that a round that reads
nothing cannot be repeated forever and does not change which way is preferred.
-/

namespace Pattern

/-- A step of a pattern program; all but `split`, `jump` and `accept` go on with the next one. -/
inductive Instr where
  /-- Reads one character of the set. -/
  | read (s : Charset)
  | look (l : Look)
  /-- Remembers the place under a number. -/
  | save (slot : Nat)
  /-- Goes on at either place, preferably at the first. -/
  | split (preferred other : Nat)
  | jump (target : Nat)
  | accept
deriving Repr, DecidableEq, Inhabited

/-- An instruction that chooses between going on at `here` and going on at `other`. -/
def Instr.choose (greedy : Bool) (here other : Nat) : Instr :=
  if greedy then .split here other else .split other here

/-- The number of instructions of an expression. -/
def Expr.length : Expr → Nat
  | empty => 0
  | set _ => 1
  | look _ => 1
  | group _ e => e.length + 2
  | seq a b => a.length + b.length
  | alt a b => a.length + b.length + 2
  | rounds e min none _ => if min = 0 then e.length + 2 else min * e.length + 1
  | rounds e min (some max) _ => min * e.length + (max - min) * (e.length + 1)

/-- Appends what `part` appends, `n` times over. -/
def emitTimes (part : Array Instr → Array Instr) : Nat → Array Instr → Array Instr
  | 0, code => code
  | n + 1, code => emitTimes part n (part code)

/-- Appends what `part` appends, with a choice to go back after it. -/
def emitPlus (greedy : Bool) (part : Array Instr → Array Instr) (code : Array Instr) :
    Array Instr :=
  let start := code.size
  let code := part code
  code.push (.choose greedy start (code.size + 1))

/-- Appends the instructions of an expression. -/
def Expr.emit : Expr → Array Instr → Array Instr
  | empty, code => code
  | set s, code => code.push (.read s)
  | look l, code => code.push (.look l)
  | group n e, code => (e.emit (code.push (.save (2 * n)))).push (.save (2 * n + 1))
  | seq a b, code => b.emit (a.emit code)
  | alt a b, code =>
    let second := code.size + a.length + 2
    let code := a.emit (code.push (.split (code.size + 1) second))
    b.emit (code.push (.jump (second + b.length)))
  | rounds e min none greedy, code =>
    match min with
    | 0 =>
      let stop := code.size + e.length + 2
      emitPlus greedy e.emit (code.push (.choose greedy (code.size + 1) stop))
    | n + 1 => emitPlus greedy e.emit (emitTimes e.emit n code)
  | rounds e min (some max) greedy, code =>
    let code := emitTimes e.emit min code
    let stop := code.size + (max - min) * (e.length + 1)
    let round (code : Array Instr) : Array Instr :=
      e.emit (code.push (.choose greedy (code.size + 1) stop))
    emitTimes round (max - min) code

/-- The program of an expression: its whole match is kept as group 0. -/
def Expr.program (e : Expr) : Array Instr :=
  ((Expr.group 0 e).emit #[]).push .accept

/-!
## Running a pattern

All ways to match are followed at once, one character after the other. A thread is a place in the
program with the places it has remembered. The threads at one character are ordered: those that
started further left come first, and among them the preferred ways. When a thread accepts, the
threads after it are dropped, since whatever they find would not be preferred. So the answer is the
leftmost match, and of the matches that start there the one that the pattern prefers.

Two threads at the same instruction differ only in what they remember, and the first of them is
preferred; hence an instruction is entered once per character.
-/

/-- The places remembered so far: characters counted from the start of the text. -/
abbrev Slots := Array (Option Nat)

/-- A way to match that is still possible. -/
structure Thread where
  /-- The instruction to run next. -/
  next : Nat
  /-- What has been remembered. -/
  slots : Slots
deriving Repr, Inhabited

/-- The threads at one place, as they are being collected. -/
structure Frontier where
  /-- Which instructions have been entered. -/
  entered : Array Bool
  /-- The threads that wait for a character or accept, last first. -/
  threads : List Thread

/-- A place in a text: how many characters are before it, and its neighbours. -/
structure Place where
  /-- The number of characters before the place. -/
  index : Nat
  /-- The character before it. -/
  before : Option Char
  /-- The character after it. -/
  after : Option Char

/-- Follows the threads of `pending`, preferred ones first, up to instructions that read or accept.
Every round enters an instruction for the first time or drops a thread, and entering one adds at
most two threads, so twice the program's length is enough fuel. -/
def advance (code : Array Instr) (place : Place) :
    Nat → List Thread → Frontier → Frontier
  | 0, _, f => f
  | _, [], f => f
  | fuel + 1, t :: pending, f =>
    if f.entered.getD t.next true then advance code place fuel pending f
    else
      let f := { f with entered := f.entered.setIfInBounds t.next true }
      match code[t.next]? with
      | none => advance code place fuel pending f
      | some (.read _) => advance code place fuel pending { f with threads := t :: f.threads }
      | some .accept => advance code place fuel pending { f with threads := t :: f.threads }
      | some (.look l) =>
        if l.holds place.before place.after then
          advance code place fuel ({ t with next := t.next + 1 } :: pending) f
        else advance code place fuel pending f
      | some (.save slot) =>
        let slots := t.slots.setIfInBounds slot (some place.index)
        advance code place fuel (⟨t.next + 1, slots⟩ :: pending) f
      | some (.jump target) => advance code place fuel ({ t with next := target } :: pending) f
      | some (.split first second) =>
        advance code place fuel ({ t with next := first } :: { t with next := second } :: pending) f

/-- The threads at a place, in order, that come from the threads of `pending`. -/
def settle (code : Array Instr) (place : Place) (pending : List Thread) : List Thread :=
  let start : Frontier := ⟨Array.replicate code.size false, []⟩
  (advance code place (2 * code.size + pending.length + 2) pending start).threads.reverse

/-- The thread after it has read `c`, if its instruction allows that. -/
def Thread.read? (code : Array Instr) (c : Char) (t : Thread) : Option Thread :=
  match code[t.next]? with
  | some (.read s) => if s.contains c then some { t with next := t.next + 1 } else none
  | _ => none

/-- Whether the thread has found a match. -/
def Thread.accepts (code : Array Instr) (t : Thread) : Bool :=
  code[t.next]? == some .accept

/-- Goes through a text from a place with these threads; `found` is the best match so far. -/
def search (code : Array Instr) (fresh : Thread) (index : Nat) (threads : List Thread)
    (found : Option Slots) : List Char → Option Slots
  | [] =>
    match threads.find? (Thread.accepts code) with
    | some t => some t.slots
    | none => found
  | c :: cs =>
    let found :=
      match threads.find? (Thread.accepts code) with
      | some t => some t.slots
      | none => found
    let alive := threads.takeWhile fun t => !t.accepts code
    let moved := alive.filterMap (Thread.read? code c)
    let pending := if found.isNone then moved ++ [fresh] else moved
    if pending.isEmpty then found
    else
      let threads := settle code ⟨index + 1, some c, cs.head?⟩ pending
      search code fresh (index + 1) threads found cs

/-- The places that the preferred leftmost match remembers, if there is a match. -/
def run (code : Array Instr) (slotCount : Nat) (text : List Char) : Option Slots :=
  let fresh : Thread := ⟨0, Array.replicate slotCount none⟩
  search code fresh 0 (settle code ⟨0, none, text.head?⟩ [fresh]) none text

end Pattern

/-! ## Compiled patterns -/

/-- A pattern that has been accepted. -/
structure Pattern where
  /-- The pattern as written. -/
  source : String
  /-- Its program. -/
  code : Array Pattern.Instr
  /-- The number of its groups. -/
  groups : Nat
deriving Repr, DecidableEq

namespace Pattern

/-- Compiles a pattern, unless it is refused. -/
def compile? (source : String) : Option Pattern :=
  (readExpr? source.toList).map fun (expr, groups) => ⟨source, expr.program, groups⟩

/-- The text of group `n` in the match of a pattern; nothing if there is no match, no such group, or
the group took no part in the match. -/
def group? (p : Pattern) (n : Nat) (text : List Char) : Option (List Char) := do
  let slots ← run p.code (2 * (p.groups + 1)) text
  let start ← slots.getD (2 * n) none
  let stop ← slots.getD (2 * n + 1) none
  return (text.drop start).take (stop - start)

end Pattern

end DslOutline
