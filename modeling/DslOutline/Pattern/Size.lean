import Std.Data.HashMap
import DslOutline.Charset.Basic
import DslOutline.Pattern.Expr

/-!
# The size of a pattern's automata

A pattern stands for two automata over bytes, one that reads a text forward and one that reads it
backward, and it is refused if one of them takes more memory than a limit. The automata themselves
are not needed, so this module lays them out only as far as to know their sizes.

A state takes 32 bytes, an edge of a state that leads different bytes to different states takes 8
more, and each of the alternatives between which a state chooses takes 4 more. A part of an
automaton has one entry and one last state. If the last state is one that chooses, then to put
something after the part is to give that state another alternative.

Among the states of a set of characters, one that was made before is used again if it is still
remembered. A state is remembered at a place that depends on its edges, until another state with
the same place is made; so the numbers of the states matter.
-/

namespace DslOutline.Pattern

/-- The memory, in bytes, that an automaton may take. -/
def sizeLimit : Nat := 10 * 1024 * 1024

/-- The direction in which an automaton reads. -/
inductive Direction where
  | forward
  | backward
deriving Repr, DecidableEq

/-- An automaton as far as it has been laid out. -/
structure Layout where
  /-- The number of its states, which is the number of the next state. -/
  states : Nat := 0
  /-- The memory for edges and alternatives. -/
  edgeBytes : Nat := 0
deriving Repr, DecidableEq

namespace Layout

/-- The memory that the automaton takes. -/
def size (l : Layout) : Nat :=
  32 * l.states + l.edgeBytes

/-- The layout with more states and more memory for their edges, unless it gets too large. -/
def add (l : Layout) (states edgeBytes : Nat) : Option Layout :=
  let l : Layout := ⟨l.states + states, l.edgeBytes + edgeBytes⟩
  if l.size ≤ sizeLimit then some l else none

/-- The layout with more alternatives. -/
def addAlternatives (l : Layout) (count : Nat) : Option Layout :=
  l.add 0 (4 * count)

end Layout

/-! ## Sets of characters -/

/-- A layout with the states that are remembered: at each place the edges and the number of one. -/
structure Workshop where
  /-- The automaton. -/
  layout : Layout
  /-- The remembered states. -/
  remembered : Std.HashMap Nat (List Nat × Nat) := {}

/-- A number that depends on all numbers of a list. -/
def mix (ns : List Nat) : UInt64 :=
  ns.foldl (fun h n => (h ^^^ n.toUInt64) * 0x100000001B3) 0xCBF29CE484222325

/-- The number of the state with these edges, if it is remembered at the place. -/
def Workshop.recall? (w : Workshop) (place : Nat) (edges : List Nat) : Option Nat :=
  match w.remembered[place]? with
  | some (others, number) => if others = edges then some number else none
  | none => none

/-- The number of the state with these edges, which is made unless it is remembered; there are
`places` places. -/
def Workshop.state (w : Workshop) (places : UInt64) (edges : List Nat) (edgeBytes : Nat) :
    Option (Nat × Workshop) :=
  let place := (mix edges % places).toNat
  match w.recall? place edges with
  | some number => some (number, w)
  | none => do
    let number := w.layout.states
    let layout ← w.layout.add 1 edgeBytes
    return (number, ⟨layout, w.remembered.insert place (edges, number)⟩)

/-- Sequences by the range that they start with; neighbours with the same one are put together. -/
def groupByFirst :
    List (List Charset.ByteRange) → List (Charset.ByteRange × List (List Charset.ByteRange))
  | [] => []
  | [] :: rest => groupByFirst rest
  | (r :: rs) :: rest =>
    match groupByFirst rest with
    | [] => [(r, [rs])]
    | (q, qs) :: groups =>
      if q = r then (r, rs :: qs) :: groups else (r, [rs]) :: (q, qs) :: groups

/-- Lays out a state from which the sequences lead to the state `target`; its number. Sequences have
at most as many ranges as there is fuel. -/
def layForward (target : Nat) :
    Nat → List (List Charset.ByteRange) → Workshop → Option (Nat × Workshop)
  | 0, _, w => some (target, w)
  | fuel + 1, sequences, w => do
    let (edges, w) ←
      (groupByFirst sequences).foldlM
        (fun (edges, w) (r, rests) => do
          if rests = [[]] then return (target :: r.2 :: r.1 :: edges, w)
          else
            let (next, w) ← layForward target fuel rests w
            return (next :: r.2 :: r.1 :: edges, w))
        (([], w) : List Nat × Workshop)
    w.state 10000 edges.reverse (8 * (edges.length / 3))

/-- Lays out states that read a sequence backward before the state `next`; the first of them. -/
def layBackward (next : Nat) : List Charset.ByteRange → Workshop → Option (Nat × Workshop)
  | [], w => some (next, w)
  | r :: rs, w => do
    let (next, w) ← w.state 1000 [next, r.1, r.2] 0
    layBackward next rs w

/-- Lays out a set of characters. -/
def Layout.addSet (d : Direction) (l : Layout) (s : Charset) : Option Layout :=
  match s.onlyPoint? with
  | some n => l.add (Charset.encodedLength n) 0
  | none =>
    if s.isAscii then l.add 2 (8 * s.ranges.length)
    else
      match d with
      | .forward => do
        let target := l.states
        let l ← l.add 1 0
        let (_, w) ← layForward target 4 s.encodings { layout := l }
        return w.layout
      | .backward => do
        let target := l.states + 1
        let l ← l.add 2 0
        let w ←
          s.encodings.foldlM
            (fun w sequence => do
              let (_, w) ← layBackward target sequence w
              return { w with layout := ← w.layout.addAlternatives 1 })
            ({ layout := l } : Workshop)
        return w.layout

/-! ## Alternatives that are all texts -/

/-- The bytes of an alternative that is a text, in the order in which they are read. -/
def Expr.textBytes? (d : Direction) : Expr → Option (List UInt8)
  | set s => do
    let n ← s.onlyPoint?
    let bytes := (String.singleton (Char.ofNat n)).toUTF8.toList
    return match d with | .forward => bytes | .backward => bytes.reverse
  | seq a b => do
    let first ← a.textBytes? d
    let second ← b.textBytes? d
    return match d with | .forward => first ++ second | .backward => second ++ first
  | _ => none

/-- The bytes of all alternatives of a choice, if they are texts. -/
def Expr.texts? (d : Direction) : Expr → Option (List (List UInt8))
  | alt a b => do
    let first ← a.textBytes? d
    let rest ← b.texts? d
    return first :: rest
  | e => e.textBytes? d |>.map fun bytes => [bytes]

/-- The groups of texts between those that end here. Texts are looked up within a group only, since
a text that ends here is preferred to all that come after it. -/
def textGroups (texts : List (List UInt8)) : List (List (List UInt8)) :=
  match texts with
  | [] :: rest => [] :: (rest.dropWhile List.isEmpty).splitOnP List.isEmpty
  | _ => texts.splitOnP List.isEmpty

/-- The first bytes of texts, each once. -/
def firstBytes (texts : List (List UInt8)) : List UInt8 :=
  (texts.filterMap List.head?).eraseDups

/-- The texts that start with a byte, without it. -/
def textsAfter (b : UInt8) (texts : List (List UInt8)) : List (List UInt8) :=
  texts.filterMap fun text =>
    match text with
    | c :: rest => if c = b then some rest else none
    | [] => none

/-- The states and the memory for edges of an automaton that tells texts apart byte by byte. A place
where all texts have ended needs no state. Texts are not longer than there is fuel. -/
def textTree : Nat → List (List UInt8) → Nat × Nat
  | 0, _ => (0, 0)
  | fuel + 1, texts =>
    if texts.all List.isEmpty then (0, 0)
    else
      let groups := textGroups texts
      let start := (1, 4 * (groups.length - 1))
      groups.foldl
        (fun total group =>
          let bytes := firstBytes group
          let own :=
            if bytes.isEmpty then (0, 0)
            else if bytes.length = 1 then (1, 4)
            else (1, 8 * bytes.length + 4)
          bytes.foldl
            (fun total b =>
              let below := textTree fuel (textsAfter b group)
              (total.1 + below.1, total.2 + below.2))
            (total.1 + own.1, total.2 + own.2))
        start

/-- Lays out a choice between texts. -/
def Layout.addTexts (l : Layout) (texts : List (List UInt8)) : Option Layout :=
  let (states, edgeBytes) := textTree ((texts.map List.length).foldl Nat.max 0) texts
  l.add (states + 1) edgeBytes

/-! ## Expressions -/

/-- Lays out a part of an automaton: the layout with it, and whether its last state chooses. -/
abbrev Lay := Layout → Option (Layout × Bool)

/-- The number of alternatives that a last state gains when something is put after it. -/
def gain (chooses : Bool) : Nat :=
  if chooses then 1 else 0

namespace Lay

/-- Nothing. -/
def empty : Lay := fun l => do
  return (← l.add 1 0, false)

/-- One part after another. -/
def after (first second : Lay) : Lay := fun l => do
  let (l, chooses) ← first l
  let (l, chooses') ← second l
  return (← l.addAlternatives (gain chooses), chooses')

/-- A part `n` times over, after a part whose last state may choose. -/
def moreTimes (part : Lay) : Nat → Layout → Bool → Option (Layout × Bool)
  | 0, l, chooses => some (l, chooses)
  | n + 1, l, chooses => do
    let (l, chooses') ← part l
    let l ← l.addAlternatives (gain chooses)
    moreTimes part n l chooses'

/-- A part exactly `n` times. -/
def times (part : Lay) : Nat → Lay
  | 0 => empty
  | n + 1 => fun l => do
    let (l, chooses) ← part l
    moreTimes part n l chooses

/-- At most `n` more rounds of a part, each with a choice to stop. -/
def moreRounds (part : Lay) : Nat → Layout → Bool → Option (Layout × Bool)
  | 0, l, chooses => some (l, chooses)
  | n + 1, l, chooses => do
    let l ← l.add 1 0
    let (l, chooses') ← part l
    let l ← l.addAlternatives (gain chooses + 2)
    moreRounds part n l chooses'

/-- A part at most once. -/
def optional (part : Lay) : Lay := fun l => do
  let l ← l.add 1 0
  let (l, chooses) ← part l
  return (← l.add 1 (4 * (gain chooses + 2)), false)

/-- A part at least `min` and at most `max` times. -/
def between (part : Lay) (min max : Nat) : Lay := fun l => do
  let (l, chooses) ← times part min l
  let l ← l.add 1 0
  let (l, chooses) ← moreRounds part (max - min) l chooses
  return (← l.addAlternatives (gain chooses), false)

/-- A part at least `min` times, but at least once. -/
def atLeast (part : Lay) (min : Nat) : Lay := fun l => do
  let (l, chooses) ← times part min l
  return (← l.add 1 (4 * (gain chooses + 1)), true)

/-- A part any number of times; a part that may read nothing needs a detour. -/
def star (readsSomething : Bool) (part : Lay) : Lay := fun l => do
  if readsSomething then
    let l ← l.add 1 0
    let (l, chooses) ← part l
    return (← l.addAlternatives (gain chooses + 1), true)
  else
    let (l, chooses) ← part l
    return (← l.add 3 (4 * (gain chooses + 4)), false)

/-- A part between two states that remember a place. -/
def remember (part : Lay) : Lay := fun l => do
  let l ← l.add 1 0
  let (l, chooses) ← part l
  return (← l.add 1 (4 * gain chooses), false)

/-- One alternative of a choice after another. -/
def andThen (first second : Lay) : Lay := fun l => do
  let (l, _) ← first l
  second l

end Lay

/-- The least number of bytes of a match; nothing if the expression cannot match. -/
def Expr.leastBytes? : Expr → Option Nat
  | empty => some 0
  | set s => s.ranges.head?.map fun r => Charset.encodedLength r.1
  | look _ => some 0
  | group _ e => e.leastBytes?
  | seq a b => do return (← a.leastBytes?) + (← b.leastBytes?)
  | alt a b => do return Nat.min (← a.leastBytes?) (← b.leastBytes?)
  | rounds e min _ _ => e.leastBytes?.map (min * ·)

/-- Whether every match reads something. -/
def Expr.readsSomething (e : Expr) : Bool :=
  e.leastBytes?.any (0 < ·)

/-- How an expression takes part in a choice: not at all, as the second of its alternatives, or as
another one. -/
inductive BranchRole where
  | alone
  | second
  | another
deriving Repr, DecidableEq

/-- A part as an alternative of a choice. The states with which the choice starts and ends come
after its second alternative. -/
def Lay.branch (role : BranchRole) (part : Lay) : Lay := fun l => do
  let (l, chooses) ← part l
  match role with
  | .alone => return (l, chooses)
  | .second => return (← l.add 2 (4 * (gain chooses + 1)), false)
  | .another => return (← l.addAlternatives (gain chooses + 1), false)

/-- A repeated part. -/
def Lay.rounds (readsSomething : Bool) (part : Lay) (min : Nat) : Option Nat → Lay
  | none => if min = 0 then star readsSomething part else atLeast part min
  | some max =>
    if min = 0 ∧ max = 1 then optional part
    else if min = max then times part min
    else between part min max

/-- Lays out an expression. -/
def Expr.lay (d : Direction) : Expr → BranchRole → Lay
  | empty, role => .branch role .empty
  | set s, role => .branch role fun l => do return (← l.addSet d s, false)
  | look _, role => .branch role .empty
  | group _ e, role =>
    match d with
    | .forward => .branch role (.remember (e.lay d .alone))
    | .backward => .branch role (e.lay d .alone)
  | seq a b, role =>
    match d with
    | .forward => .branch role (.after (a.lay d .alone) (b.lay d .alone))
    | .backward => .branch role (.after (b.lay d .alone) (a.lay d .alone))
  | alt a b, .alone =>
    match (Expr.alt a b).texts? d with
    | some texts => fun l => do return (← l.addTexts texts, false)
    | none => .andThen (.branch .another (a.lay d .alone)) (b.lay d .second)
  | alt a b, .second => .andThen (.branch .second (a.lay d .alone)) (b.lay d .another)
  | alt a b, .another => .andThen (.branch .another (a.lay d .alone)) (b.lay d .another)
  | rounds e min max _, role =>
    .branch role (.rounds e.readsSomething (e.lay d .alone) min max)

/-- Whether every match starts at the start of the text, or ends at its end, whichever comes first
in the direction. -/
def Expr.isAnchored (d : Direction) : Expr → Bool
  | look .textStart => d = .forward
  | look .textEnd => d = .backward
  | group _ e => e.isAnchored d
  | seq a b =>
    match d with
    | .forward => a.isAnchored d || (a.onlyEmpty && b.isAnchored d)
    | .backward => b.isAnchored d || (b.onlyEmpty && a.isAnchored d)
  | alt a b => a.isAnchored d && b.isAnchored d
  | rounds e min _ _ => min != 0 && e.isAnchored d
  | _ => false

/-- Whether the automaton of an expression fits into the limit. Unless it is anchored, three states
in front of it skip what is before the match. The forward automaton remembers where the whole match
is. -/
def Expr.fitsIn (d : Direction) (e : Expr) : Bool :=
  let whole : Option Layout := do
    let l ← if e.isAnchored d then Layout.add {} 1 0 else Layout.add {} 3 16
    let (l, chooses) ←
      match d with
      | .forward => Lay.remember (e.lay d .alone) l
      | .backward => e.lay d .alone l
    l.add 1 (4 * gain chooses)
  whole.isSome

/-- A number that the size of an expression's automata does not exceed. -/
def Expr.sizeBound : Expr → Nat
  | empty => 40
  | set s =>
    if s.onlyPoint?.isSome then 400
    else 100 + 170 * s.ranges.foldl (fun n r => n + Charset.sequenceBound r) 0
  | look _ => 40
  | group _ e => 80 + e.sizeBound
  | seq a b => 10 + a.sizeBound + b.sizeBound
  | alt a b => 150 + a.sizeBound + b.sizeBound
  | rounds e min none _ => 200 + Nat.max min 1 * (e.sizeBound + 10)
  | rounds e _ (some max) _ => 200 + max * (e.sizeBound + 80)

/-- Whether both automata of an expression fit into the limit. They are laid out only if the bound
for their size does not settle that. -/
def Expr.fits (e : Expr) : Bool :=
  e.sizeBound + 400 ≤ sizeLimit || (e.fitsIn .forward && e.fitsIn .backward)

end DslOutline.Pattern
