import DslOutline.Lexeme.Basic

/-!
# Blocks

A block reaches from a `do` or `fn` to the `end` that closes it. The keywords in the code of a text
are listed first, and the end of a block is found by counting them.
-/

namespace DslOutline

/-!
## Block keywords

A block is opened by `do` or `fn` and closed by `end`. A keyword counts only as a whole word, which
is decided by the characters next to it: `do:`, `:end`, `x.end`, `@do`, `done` and `undo` are not
block keywords.
-/

/-- Whether a keyword may stand after this character, or at the start of the text. -/
def admitsBefore : Option Char → Bool
  | none => true
  | some c => [' ', '\t', '\n', '\r', '(', '[', '\x7b', ',', ';', '='].contains c

/-- Whether a keyword may stand before this character, or at the end of the text. -/
def admitsAfter : Option Char → Bool
  | none => true
  | some c => [' ', '\t', '\n', '\r', ')', ']', '\x7d', ',', ';', '(', '#'].contains c

/-- Whether `word` stands as a whole word at the start of `cs`, which follows `before`. -/
def wordHere (word : List Char) (before : Option Char) (cs : List Char) : Bool :=
  admitsBefore before &&
    match word.isPrefixOf? cs with
    | some rest => admitsAfter rest.head?
    | none => false

/-- The offsets at which `word` stands as a whole word in `cs`, which starts at `offset`. -/
def wordOffsets (word : List Char) (before : Option Char) (offset : Nat) : List Char → List Nat
  | [] => if wordHere word before [] then [offset] else []
  | c :: cs =>
    let rest := wordOffsets word (some c) (offset + c.utf8Size) cs
    if wordHere word before (c :: cs) then offset :: rest else rest

/-- Whether a line starts with `word`, and not with a longer identifier or a key `word:`. -/
def startsWithKeyword (word line : List Char) : Bool :=
  match word.isPrefixOf? line with
  | none => false
  | some rest => rest.head?.all fun c => !isIdentChar c && c != ':'

/-- A block keyword. -/
inductive BlockToken where
  /-- The word `do`. -/
  | doBlock
  /-- The word `fn`. -/
  | fnBlock
  /-- The word `end`. -/
  | close
deriving Repr, DecidableEq

namespace BlockToken

/-- The keyword as it is written. -/
def word : BlockToken → List Char
  | doBlock => ['d', 'o']
  | fnBlock => ['f', 'n']
  | close => ['e', 'n', 'd']

/-- The number of bytes of the keyword. -/
def size (t : BlockToken) : Nat := t.word.length

/-- What the keyword adds to the nesting depth. -/
def delta : BlockToken → Int
  | doBlock => 1
  | fnBlock => 1
  | close => -1

/-- The keyword that stands at the start of `cs`, which follows `before`. -/
def here? (before : Option Char) (cs : List Char) : Option BlockToken :=
  if wordHere doBlock.word before cs then some doBlock
  else if wordHere fnBlock.word before cs then some fnBlock
  else if wordHere close.word before cs then some close
  else none

end BlockToken

/-- A block keyword at its place. -/
structure PlacedToken where
  /-- The offset of its first byte. -/
  start : Nat
  /-- The keyword. -/
  token : BlockToken
deriving Repr, DecidableEq

/-- The offset just past the keyword. -/
def PlacedToken.stop (t : PlacedToken) : Nat :=
  t.start + t.token.size

/-- The block keyword at this place, if there is one. -/
def PlacedToken.here? (before : Option Char) (offset : Nat) (cs : List Char) : Option PlacedToken :=
  (BlockToken.here? before cs).map (⟨offset, ·⟩)

/-- Every block keyword of `cs`, in literals and comments too. -/
def tokensIn (before : Option Char) (offset : Nat) : List Char → List PlacedToken
  | [] => []
  | c :: cs =>
    (PlacedToken.here? before offset (c :: cs)).toList ++
      tokensIn (some c) (offset + c.utf8Size) cs

/-- What a line adds to the nesting depth. It is meant for masked lines, in which keywords inside
literals and comments are gone. -/
def netDepth (line : List Char) : Int :=
  (tokensIn none 0 line).foldr (fun t depth => t.token.delta + depth) 0

/-- The block keywords at the code units among `lexemes`, whose joined texts are `cs`. -/
def codeTokens (before : Option Char) (offset : Nat) (cs : List Char) :
    List Lexeme → List PlacedToken
  | [] => []
  | l :: ls =>
    (if l.isCode then (PlacedToken.here? before offset cs).toList else []) ++
      codeTokens l.text.getLast? (offset + Text.byteLength l.text) (cs.drop l.text.length) ls

/-- The block keywords in the code of a text from offset `start` on, read as code at the start. -/
def codeTokensFrom (cs : List Char) (start : Nat) : List PlacedToken :=
  let entry := Text.enterAt none start cs
  let offset := min start (Text.byteLength cs) + entry.stray
  codeTokens entry.before offset entry.rest (lex .start entry.before entry.rest)

/-!
## The end of a block

The search starts somewhere before a block and looks for the `end` of the first block that opens
at its own level. A `fn` in front of the block's `do` opens something that closes before it, so
what opens in there is not the block that is sought: `skipping` counts how much of that is open.
-/

/-- The offset just past the `end` that closes the innermost of `depth` open blocks, once the
others have closed too. -/
def closeOf (depth : Nat) : List PlacedToken → Option Nat
  | [] => none
  | t :: ts =>
    match t.token with
    | .close => if depth ≤ 1 then some t.stop else closeOf (depth - 1) ts
    | _ => closeOf (depth + 1) ts

/-- The offset just past the `end` of the first `do` block that is not inside one of the
`skipping` blocks that are open already. -/
def endOfFirstBlock (skipping : Nat) : List PlacedToken → Option Nat
  | [] => none
  | t :: ts =>
    match t.token with
    | .doBlock => if skipping = 0 then closeOf 1 ts else endOfFirstBlock (skipping + 1) ts
    | .fnBlock => endOfFirstBlock (skipping + 1) ts
    | .close => endOfFirstBlock (skipping - 1) ts

/-- The end of the first block at or after `start`, if its `end` stands before `limit`. -/
def blockEndWithin (cs : List Char) (start limit : Nat) : Option Nat :=
  endOfFirstBlock 0 ((codeTokensFrom cs start).takeWhile fun t => t.stop ≤ limit)

/-- The end of the first block at or after `start`. -/
def blockEnd (cs : List Char) (start : Nat) : Option Nat :=
  blockEndWithin cs start (Text.byteLength cs)

end DslOutline
