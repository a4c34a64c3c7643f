import DslOutline.Pattern.Atom

/-!
# Bracketed classes

Between brackets stand characters, ranges, classes and further brackets. The operators `&&`, `--`
and `~~` combine what is on their left with what is on their right; all bind equally and group to
the left. A `]` right after the opening bracket and hyphens next to a bracket are plain characters.

How deeply a class is nested counts towards the limit for the whole pattern: each bracket, each
operator and each row of several items is a level.
-/

namespace DslOutline.Pattern

/-- An operator between two parts of a bracketed class. -/
inductive SetOperator where
  | inter
  | diff
  | symmDiff
deriving Repr, DecidableEq

/-- The set that an operator makes of two sets. -/
def SetOperator.apply : SetOperator → Charset → Charset → Charset
  | inter => .inter
  | diff => .diff
  | symmDiff => .symmDiff

/-- A part of a bracketed class: a row of items, or two parts with an operator between them. -/
structure ClassPart where
  /-- Its members. -/
  set : Charset
  /-- How deeply it is nested. -/
  depth : Nat

/-- Items that stand next to each other. -/
structure ItemRow where
  /-- Their members. -/
  set : Charset := .empty
  /-- The number of items. -/
  count : Nat := 0
  /-- How deeply the deepest of them is nested. -/
  depth : Nat := 0

namespace ItemRow

/-- The row with one more item. -/
def push (row : ItemRow) (s : Charset) (depth : Nat := 0) : ItemRow :=
  ⟨row.set.union s, row.count + 1, Nat.max row.depth depth⟩

/-- The row as a part of a class. -/
def part (row : ItemRow) : ClassPart :=
  ⟨row.set, if row.count ≤ 1 then row.depth else row.depth + 1⟩

end ItemRow

/-- What is unfinished while a bracketed class is read. -/
inductive BracketFrame where
  /-- An open bracket, and what stood before it in the bracket around it. -/
  | opened (negated : Bool) (outer : ItemRow)
  /-- An operator and its left operand. -/
  | operator (op : SetOperator) (left : ClassPart)

/-- Reads hyphens as plain characters and adds them to a row. -/
def readHyphens (fs : Flags) (row : ItemRow) : Nat → List Char → ItemRow × List Char
  | 0, cs => (row, cs)
  | fuel + 1, cs =>
    match cs with
    | '-' :: rest => readHyphens fs (row.push (.single '-')) fuel (fs.skip rest)
    | _ => (row, cs)

/-- Reads what follows an opening bracket up to its first ordinary item: whether the class is
negated, and the characters that are plain only here. -/
def readOpening (fs : Flags) (cs : List Char) : Bool × ItemRow × List Char :=
  let (negated, cs) :=
    match fs.skip cs with
    | '^' :: rest => (true, fs.skip rest)
    | cs => (false, cs)
  match readHyphens fs {} (cs.length + 1) cs with
  | (row, ']' :: rest) =>
    if row.count = 0 then (negated, row.push (.single ']'), fs.skip rest)
    else (negated, row, ']' :: rest)
  | (row, rest) => (negated, row, rest)

/-- Finishes an operator, if one waits for its right operand. -/
def applyOperator (fs : Flags) (stack : List BracketFrame) (right : ClassPart) :
    List BracketFrame × ClassPart :=
  match stack with
  | .operator op left :: stack =>
    let set := op.apply (left.set.foldIf fs.ignoreCase) (right.set.foldIf fs.ignoreCase)
    (stack, ⟨set, Nat.max left.depth right.depth + 1⟩)
  | _ => (stack, right)

/-- The set of a bracket whose items have been read. -/
def closeBracket (fs : Flags) (negated : Bool) (items : Charset) : Option Charset :=
  let s := (items.foldIf fs.ignoreCase).negateIf negated
  if fs.unicode then some s else asciiOnly? s

/-- Reads one character or class between brackets. -/
def readBracketAtom (fs : Flags) (cs : List Char) : Option (Atom × List Char) :=
  match cs with
  | [] => none
  | '\\' :: cs => readEscape fs cs
  | c :: cs => some (.literal c false, cs)

/-- The range between two atoms, which must be characters. -/
def rangeOf? (fs : Flags) : Atom → Atom → Option Charset
  | .literal a _, .literal b _ =>
    if b.toNat < a.toNat then none
    else if !fs.unicode && 0x80 ≤ b.toNat then none
    else some (.between a.toNat b.toNat)
  | _, _ => none

/-- The first character after white space and at most one `#`. -/
def firstBeyondBlanks? (seenMark : Bool) : List Char → Option Char
  | [] => none
  | c :: cs =>
    if Text.isBlank c then firstBeyondBlanks? seenMark cs
    else if c = '#' ∧ !seenMark then firstBeyondBlanks? true cs
    else some c

/-- The character after a hyphen that tells whether the hyphen makes a range. In verbose patterns it
is looked for beyond white space and the `#` of a comment, but not beyond the comment itself. -/
def charAfterHyphen? (fs : Flags) (cs : List Char) : Option Char :=
  if fs.verbose then firstBeyondBlanks? false cs <|> cs.head? else cs.head?

/-- Reads one item between brackets: a range or a single atom. -/
def readBracketItem (fs : Flags) (cs : List Char) : Option (Charset × List Char) := do
  let (first, cs) ← readBracketAtom fs cs
  match fs.skip cs with
  | [] => none
  | '-' :: rest =>
    let next := charAfterHyphen? fs rest
    if next = some ']' ∨ next = some '-' then return (← first.set? fs, '-' :: rest)
    else
      let (last, cs) ← readBracketAtom fs (fs.skip rest)
      return (← rangeOf? fs first last, cs)
  | cs => return (← first.set? fs, cs)

/-- Reads a class such as `[:alpha:]`, if there is one; `cs` starts after its bracket. -/
def readAsciiClass? (fs : Flags) (cs : List Char) : Option (Charset × List Char) :=
  match cs with
  | ':' :: cs =>
    let (negated, cs) := match cs with | '^' :: cs => (true, cs) | cs => (false, cs)
    match cs.dropWhile (· != ':') with
    | ':' :: ']' :: rest =>
      (Charset.asciiClass? (cs.takeWhile (· != ':'))).map fun s =>
        ((s.foldIf fs.ignoreCase).negateIf negated, rest)
    | _ => none
  | _ => none

/-- Reads the rest of a bracketed class; every round reads at least one character, so as much fuel
as there are characters is enough. -/
def readBracketRest (fs : Flags) (stack : List BracketFrame) (row : ItemRow) :
    Nat → List Char → Option (ClassPart × List Char)
  | 0, _ => none
  | fuel + 1, cs =>
    match fs.skip cs with
    | [] => none
    | '[' :: rest =>
      match readAsciiClass? fs rest with
      | some (s, rest) =>
        if !fs.unicode && !isAsciiOnly s then none
        else readBracketRest fs stack (row.push s) fuel rest
      | none =>
        let (negated, inner, rest) := readOpening fs rest
        readBracketRest fs (.opened negated row :: stack) inner fuel rest
    | ']' :: rest =>
      match applyOperator fs stack row.part with
      | (.opened negated outer :: stack, part) => do
        let s ← closeBracket fs negated part.set
        let depth := part.depth + 1
        if stack.isEmpty then some (⟨s, depth⟩, rest)
        else readBracketRest fs stack (outer.push s depth) fuel rest
      | _ => none
    | '&' :: '&' :: rest => operator .inter rest fuel
    | '-' :: '-' :: rest => operator .diff rest fuel
    | '~' :: '~' :: rest => operator .symmDiff rest fuel
    | cs => do
      let (s, rest) ← readBracketItem fs cs
      readBracketRest fs stack (row.push s) fuel rest
where
  /-- Goes on after an operator. -/
  operator (op : SetOperator) (rest : List Char) (fuel : Nat) : Option (ClassPart × List Char) :=
    let (stack, left) := applyOperator fs stack row.part
    readBracketRest fs (.operator op left :: stack) {} fuel rest

/-- Reads a bracketed class; `cs` starts after its opening bracket. -/
def readBracket (fs : Flags) (cs : List Char) : Option (ClassPart × List Char) :=
  let (negated, row, rest) := readOpening fs cs
  readBracketRest fs [.opened negated {}] row (cs.length + 1) rest

end DslOutline.Pattern
