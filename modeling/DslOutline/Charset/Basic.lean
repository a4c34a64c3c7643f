import DslOutline.Charset.CategoryTable
import DslOutline.Charset.FoldTable
import DslOutline.Charset.WordTable
import DslOutline.Text.Basic

/-!
# Sets of characters

Sets of characters, the operations on them, and the bytes that their members are written with.
-/

namespace DslOutline

/-!
## Sets as ranges

A set of characters is kept as the ranges of its code points, in increasing order and with a gap
after each. So two sets with the same members are equal, and it can be read off a set how many
ranges it has and whether it has a single member.
-/

/-- A set of characters. -/
structure Charset where
  /-- Its ranges in increasing order. -/
  ranges : Charset.Ranges
deriving Repr, DecidableEq, Inhabited

namespace Charset

/-- Whether a code point is in the set. -/
def containsPoint (s : Charset) (n : Nat) : Bool :=
  s.ranges.contains n

/-- Whether a character is in the set. -/
def contains (s : Charset) (c : Char) : Bool :=
  s.containsPoint c.toNat

/-- The set with no member. -/
def empty : Charset := ⟨[]⟩

/-- The set of all characters; the code points between its two ranges are none. -/
def all : Charset := ⟨[(0, 0xD7FF), (0xE000, 0x10FFFF)]⟩

/-- The set with one member. -/
def single (c : Char) : Charset := ⟨[(c.toNat, c.toNat)]⟩

/-- What is in one set or the other. -/
def union (a b : Charset) : Charset :=
  ⟨a.ranges.combine (· || ·) b.ranges⟩

/-- What is in both sets. -/
def inter (a b : Charset) : Charset :=
  ⟨a.ranges.combine (· && ·) b.ranges⟩

/-- What is in the first set only. -/
def diff (a b : Charset) : Charset :=
  ⟨a.ranges.combine (fun inA inB => inA && !inB) b.ranges⟩

/-- What is in exactly one of the sets. -/
def symmDiff (a b : Charset) : Charset :=
  ⟨a.ranges.combine (· != ·) b.ranges⟩

/-- The characters that are not in the set. -/
def compl (s : Charset) : Charset :=
  all.diff s

/-- The union of several sets. -/
def unions (ss : List Charset) : Charset :=
  ss.foldl union empty

/-- The characters from one code point to another. -/
def between (first last : Nat) : Charset :=
  all.inter ⟨[(first, last)]⟩

/-- The code point of the only member, if there is exactly one. -/
def onlyPoint? (s : Charset) : Option Nat :=
  match s.ranges with
  | [(first, last)] => if first = last then some first else none
  | _ => none

/-- Whether all members are ASCII characters. -/
def isAscii (s : Charset) : Bool :=
  s.ranges.all fun r => r.2 < 0x80

/-! ### Letter case -/

/-- The code points that simple case folding identifies with `n`, itself included. -/
def foldClass (n : Nat) : List Nat :=
  (foldClasses.find? fun ns => ns.contains n).getD [n]

/-- The set of these code points, which are in increasing order. -/
def ofPoints (ns : List Nat) : Charset :=
  empty.union ⟨ns.map fun n => (n, n)⟩

/-- The characters that differ at most in case from a member. -/
def folded (s : Charset) : Charset :=
  foldClasses.foldl
    (fun t ns =>
      if ns.any s.containsPoint && !ns.all s.containsPoint then t.union (ofPoints ns) else t)
    s

/-- The set itself, or what differs at most in case from it. -/
def foldIf (ignoreCase : Bool) (s : Charset) : Charset :=
  if ignoreCase then s.folded else s

/-- The set itself, or its complement. -/
def negateIf (negated : Bool) (s : Charset) : Charset :=
  if negated then s.compl else s

/-! ### Well-known sets -/

/-- The ASCII characters. -/
def ascii : Charset := ⟨[(0, 0x7F)]⟩

/-- Word characters. -/
def word : Charset := ⟨wordRanges⟩

/-- Decimal digits. -/
def digit : Charset := ⟨categoryNd⟩

/-- White space. -/
def blank : Charset := ⟨Text.blankRanges⟩

/-- Word characters among ASCII. -/
def asciiWord : Charset := ⟨[(0x30, 0x39), (0x41, 0x5A), (0x5F, 0x5F), (0x61, 0x7A)]⟩

/-- Decimal digits among ASCII. -/
def asciiDigit : Charset := ⟨[(0x30, 0x39)]⟩

/-- White space among ASCII. -/
def asciiBlank : Charset := ⟨[(0x09, 0x0D), (0x20, 0x20)]⟩

end Charset

/-- Whether a character counts as part of a word. -/
def isWordChar (c : Char) : Bool :=
  Charset.wordRanges.contains c.toNat

/-!
## Sets as byte sequences

An automaton that reads UTF-8 sees a character as one to four bytes. The encodings of a set of
characters are given by sequences of byte ranges: a sequence stands for all texts that have, at each
place, a byte of the range there. A range of code points splits into such sequences because the
encodings of a block of 64, 4096 or 262144 code points share their first bytes.
-/

namespace Charset

/-- A closed range of bytes. -/
abbrev ByteRange := Nat × Nat

/-- The first byte of an encoding with `k` further bytes, less the bits of the code point. -/
def leadByte (k : Nat) : Nat :=
  match k with
  | 0 => 0
  | 1 => 0xC0
  | 2 => 0xE0
  | _ => 0xF0

/-- The sequences for the numbers from `low` to `high`, each written as digits to base 64 with `k`
digits after the first; the first digit is added to `lead`, the others to `0x80`. -/
def digitSequences (lead : Nat) : Nat → Nat → Nat → List (List ByteRange)
  | 0, low, high => [[(lead + low, lead + high)]]
  | k + 1, low, high =>
    let block := Nat.pow 64 (k + 1)
    let below (first low high : Nat) : List (List ByteRange) :=
      (digitSequences 0x80 k low high).map ((lead + first, lead + first) :: ·)
    let first := low / block
    let last := high / block
    if first = last then below first (low % block) (high % block)
    else
      let headPart := low % block ≠ 0
      let tailPart := high % block + 1 ≠ block
      let start := if headPart then first + 1 else first
      let stop := if tailPart then last else last + 1
      (if headPart then below first (low % block) (block - 1) else [])
        ++ (if start < stop then
            [(lead + start, lead + stop - 1) :: List.replicate (k + 1) (0x80, 0xBF)]
          else [])
        ++ (if tailPart then below last 0 (high % block) else [])

/-- The ranges of code points whose encodings have the same length. -/
def encodingRanges : List (Nat × Nat × Nat) :=
  [(0, 0, 0x7F), (1, 0x80, 0x7FF), (2, 0x800, 0xFFFF), (3, 0x10000, 0x10FFFF)]

/-- The sequences for the code points from `low` to `high`. -/
def byteSequences (low high : Nat) : List (List ByteRange) :=
  encodingRanges.flatMap fun (k, first, last) =>
    let low := Nat.max low first
    let high := Nat.min high last
    if low ≤ high then digitSequences (leadByte k) k low high else []

/-- The sequences for the members of a set, in increasing order. -/
def encodings (s : Charset) : List (List ByteRange) :=
  s.ranges.flatMap fun r => byteSequences r.1 r.2

/-- The number of bytes of the encoding of a code point. -/
def encodedLength (n : Nat) : Nat :=
  if n < 0x80 then 1 else if n < 0x800 then 2 else if n < 0x10000 then 3 else 4

/-- A number that the sequences for a range do not exceed: at most one in a block of 64, and few
in a block of 4096. -/
def sequenceBound (r : Nat × Nat) : Nat :=
  if r.1 / 64 = r.2 / 64 then 1 else if r.1 / 4096 = r.2 / 4096 then 7 else 24

end Charset

end DslOutline
