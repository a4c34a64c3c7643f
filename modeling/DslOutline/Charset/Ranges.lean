/-!
# Ranges of code points

The tables of character properties are written as text, each range as two hexadecimal numbers with
a hyphen between them and a single code point as one number. This module reads that notation, tests
membership and combines ranges.

Ranges are combined by a sweep over their edges, the code points at which membership changes. Only
there can membership in the combination change, so its edges are among those of the two operands,
and the result has no two ranges that touch.
-/

namespace DslOutline.Charset

/-- Closed ranges of code points in increasing order. -/
abbrev Ranges := List (Nat × Nat)

/-- The value of a hexadecimal digit, if the character is one. -/
def hexValue? (c : Char) : Option Nat :=
  if '0' ≤ c ∧ c ≤ '9' then some (c.toNat - '0'.toNat)
  else if 'a' ≤ c ∧ c ≤ 'f' then some (c.toNat - 'a'.toNat + 10)
  else if 'A' ≤ c ∧ c ≤ 'F' then some (c.toNat - 'A'.toNat + 10)
  else none

/-- The number that a run of hexadecimal digits denotes; other characters are passed over. -/
def hexNumber (cs : List Char) : Nat :=
  cs.foldl (fun n c => match hexValue? c with | some d => 16 * n + d | none => n) 0

/-- One range from its notation. -/
def Ranges.decodeOne (cs : List Char) : Nat × Nat :=
  let first := cs.takeWhile (· != '-')
  match cs.dropWhile (· != '-') with
  | [] => (hexNumber first, hexNumber first)
  | _ :: second => (hexNumber first, hexNumber second)

/-- The entries on the lines of a table, with a space between them. -/
def tableEntries (lines : List String) : List (List Char) :=
  lines.flatMap fun line => (line.toList.splitOnP (· == ' ')).filter fun cs => !cs.isEmpty

/-- The ranges on the lines of a table. -/
def Ranges.decode (lines : List String) : Ranges :=
  (tableEntries lines).map Ranges.decodeOne

/-- Whether a code point is in one of the ranges, which are in increasing order. -/
def Ranges.contains : Ranges → Nat → Bool
  | [], _ => false
  | (low, high) :: rs, n => if n < low then false else n ≤ high || Ranges.contains rs n

/-! ## Combining ranges -/

/-- The code points at which membership changes, in increasing order. -/
def Ranges.edges (rs : Ranges) : List Nat :=
  rs.flatMap fun r => [r.1, r.2 + 1]

/-- The ranges with these edges. -/
def Ranges.ofEdges : List Nat → Ranges
  | first :: next :: rest => (first, next - 1) :: Ranges.ofEdges rest
  | _ => []

/-- An edge of one of two operands, and whether it is one of the left operand. -/
abbrev Edge := Nat × Bool

/-- Puts an edge in its place among others; `rest` merges what follows it. -/
def mergeEdge (e : Edge) (rest : List Edge → List Edge) : List Edge → List Edge
  | [] => e :: rest []
  | d :: ds => if e.1 ≤ d.1 then e :: rest (d :: ds) else d :: mergeEdge e rest ds

/-- The edges of two operands in increasing order. -/
def mergeEdges : List Edge → List Edge → List Edge
  | [], ds => ds
  | e :: es, ds => mergeEdge e (mergeEdges es) ds

/-- The edges of a combination. What is known of the code points before the next edge is whether
they are in the left operand, in the right one and in the combination; edges at the same code point
count together. -/
def sweep (op : Bool → Bool → Bool) (inLeft inRight inside : Bool) : List Edge → List Nat
  | [] => []
  | (point, isLeft) :: rest =>
    let inLeft := inLeft != isLeft
    let inRight := inRight == isLeft
    if rest.head?.any fun e => e.1 == point then sweep op inLeft inRight inside rest
    else if op inLeft inRight == inside then sweep op inLeft inRight inside rest
    else point :: sweep op inLeft inRight (!inside) rest

/-- The code points for which `op` holds of their membership in two operands. What is in neither
must not be in the combination. -/
def Ranges.combine (op : Bool → Bool → Bool) (a b : Ranges) : Ranges :=
  Ranges.ofEdges
    (sweep op false false false
      (mergeEdges (a.edges.map fun e => (e, true)) (b.edges.map fun e => (e, false))))

/-! ## Classes -/

/-- The classes on the lines of a table, each with a comma between its members. -/
def decodeClasses (lines : List String) : List (List Nat) :=
  (tableEntries lines).map fun cs => (cs.splitOnP (· == ',')).map hexNumber

end DslOutline.Charset
