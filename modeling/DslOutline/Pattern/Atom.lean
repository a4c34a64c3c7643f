import DslOutline.Charset.Named
import DslOutline.Pattern.Expr
import DslOutline.Text.Basic

/-!
# Flags and atoms

What the smallest parts of a pattern mean depends on the flags that are in force where they stand.
-/

namespace DslOutline.Pattern

/-!
## Pattern flags

Flags change how the rest of a group is read: `(?i)` sets one, `(?-i)` clears one, and a list may
do both, with each flag at most once.
-/

/-- The flags in force at a place of a pattern. -/
structure Flags where
  /-- `i`: letter case makes no difference. -/
  ignoreCase : Bool := false
  /-- `m`: `^` and `$` also match at line ends. -/
  multiLine : Bool := false
  /-- `s`: `.` also matches `\n`. -/
  dotMatchesNewline : Bool := false
  /-- `U`: repetitions prefer fewer rounds, and `?` after one reverses that. -/
  swapGreed : Bool := false
  /-- `u`: classes cover all of Unicode. -/
  unicode : Bool := true
  /-- `R`: `\r` ends a line too. -/
  crlf : Bool := false
  /-- `x`: white space and comments in the pattern are skipped. -/
  verbose : Bool := false
deriving Repr, DecidableEq, Inhabited

namespace Flags

/-- Sets or clears the flag with this letter, if there is one. -/
def assign (fs : Flags) (letter : Char) (value : Bool) : Option Flags :=
  match letter with
  | 'i' => some { fs with ignoreCase := value }
  | 'm' => some { fs with multiLine := value }
  | 's' => some { fs with dotMatchesNewline := value }
  | 'U' => some { fs with swapGreed := value }
  | 'u' => some { fs with unicode := value }
  | 'R' => some { fs with crlf := value }
  | 'x' => some { fs with verbose := value }
  | _ => none

/-- What a flag list ends with. -/
inductive Scope where
  /-- `)`: the flags hold for the rest of the group around the list. -/
  | restOfGroup
  /-- `:`: the flags hold inside the group that the list opens. -/
  | newGroup
deriving Repr, DecidableEq

/-- Reads a flag list and the character that ends it. `seen` holds the letters so far and `value`
what a letter assigns; a `-` must be followed by a letter, and may occur once. -/
def read (fs : Flags) (seen : List Char) (value : Bool) :
    List Char → Option (Flags × Bool × Scope × List Char)
  | [] => none
  | c :: cs =>
    if c = ':' ∨ c = ')' then
      if seen.head? = some '-' then none
      else some (fs, seen.isEmpty, if c = ':' then .newGroup else .restOfGroup, cs)
    else if seen.contains c then none
    else if c = '-' then read fs (c :: seen) false cs
    else
      match fs.assign c value with
      | some fs => read fs (c :: seen) value cs
      | none => none

end Flags

/-- What follows white space and comments; `inComment` says whether a comment is open. -/
def skipBlanks (inComment : Bool) : List Char → List Char
  | [] => []
  | c :: cs =>
    if inComment then skipBlanks (c != '\n') cs
    else if Text.isBlank c then skipBlanks false cs
    else if c = '#' then skipBlanks true cs
    else c :: cs

/-- What comes next in a pattern: in verbose patterns, after white space and comments. -/
def Flags.skip (fs : Flags) (cs : List Char) : List Char :=
  if fs.verbose then skipBlanks false cs else cs

/-!
## The smallest parts of a pattern

An atom is a single character, a class written with one escape, the dot, or a condition on a place.
What an atom means depends on the flags in force. With `u` cleared a pattern works on bytes, and
everything that could match a part of a multi-byte character is refused.
-/

/-- A part of a pattern that is read as a unit. -/
inductive Atom where
  /-- A character; `byteForm` if it was written as two hexadecimal digits. -/
  | literal (c : Char) (byteForm : Bool)
  /-- One of the classes `\d`, `\s` and `\w`, with its ASCII members, or what is outside of it. -/
  | shorthand (unicode ascii : Charset) (negated : Bool)
  /-- A class named by a character property. -/
  | property (s : Charset) (negated : Bool)
  | dot
  | look (l : Flags → Look)

/-- The characters that have a meaning of their own in a pattern. -/
def isMetaChar (c : Char) : Bool :=
  "\\.+*?()|[]\x7b\x7d^$#&-~".toList.contains c

/-- Whether a backslash before the character stands for the character itself. -/
def isEscapable (c : Char) : Bool :=
  isMetaChar c || (c.toNat < 0x80 && !c.isAlphanum && c != '<' && c != '>')

/-- The character with a code point, if it is one. -/
def charOfPoint? (n : Nat) : Option Char :=
  if h : n.isValidChar then some (Char.ofNatAux n h) else none

/-- Reads exactly `count` hexadecimal digits. -/
def readHexDigits (fs : Flags) (acc : List Char) : Nat → List Char → Option (List Char × List Char)
  | 0, cs => some (acc.reverse, cs)
  | count + 1, cs =>
    match cs with
    | [] => none
    | c :: cs =>
      if (Charset.hexValue? c).isNone then none
      else readHexDigits fs (c :: acc) count (fs.skip cs)

/-- Reads up to a closing brace; in verbose patterns white space and comments are dropped. -/
def readBraced (fs : Flags) (acc : List Char) : Nat → List Char → Option (List Char × List Char)
  | 0, _ => none
  | fuel + 1, cs =>
    match fs.skip cs with
    | [] => none
    | c :: cs => if c = '\x7d' then some (acc.reverse, cs) else readBraced fs (c :: acc) fuel cs

/-- Reads the rest of `\x`, `\u` or `\U`; `count` digits if there is no brace. -/
def readHex (fs : Flags) (count : Nat) (cs : List Char) : Option (Atom × List Char) := do
  match fs.skip cs with
  | [] => none
  | '\x7b' :: cs =>
    let (digits, rest) ← readBraced fs [] (cs.length + 1) cs
    if digits.isEmpty || digits.any fun c => (Charset.hexValue? c).isNone then none
    else
      let c ← charOfPoint? (Charset.hexNumber digits)
      return (.literal c false, rest)
  | cs =>
    let (digits, rest) ← readHexDigits fs [] count cs
    let c ← charOfPoint? (Charset.hexNumber digits)
    return (.literal c (count == 2), rest)

/-- The set that the text between the braces of `\p` asks for, and whether it asks for what is
outside of it. -/
def propertyOf? (name : List Char) : Option (Charset × Bool) :=
  match splitAtOperator name with
  | some (property, value, negated) => (Charset.valued? property value).map fun s => (s, negated)
  | none => (Charset.named? name).map fun s => (s, false)
where
  /-- The two sides of `!=`, or else of the first `:`, or else of the first `=`. -/
  splitAtOperator (cs : List Char) : Option (List Char × List Char × Bool) :=
    match splitAtUnequal [] cs with
    | some (a, b) => some (a, b, true)
    | none =>
      match splitAtChar ':' cs with
      | some (a, b) => some (a, b, false)
      | none => (splitAtChar '=' cs).map fun (a, b) => (a, b, false)
  /-- The two sides of the first `!=`. -/
  splitAtUnequal (acc : List Char) : List Char → Option (List Char × List Char)
    | '!' :: '=' :: cs => some (acc.reverse, cs)
    | c :: cs => splitAtUnequal (c :: acc) cs
    | [] => none
  /-- The two sides of the first occurrence of a character. -/
  splitAtChar (c : Char) (cs : List Char) : Option (List Char × List Char) :=
    match cs.dropWhile (· != c) with
    | [] => none
    | _ :: rest => some (cs.takeWhile (· != c), rest)

/-- Reads the rest of `\p` or `\P`. -/
def readProperty (fs : Flags) (negated : Bool) (cs : List Char) : Option (Atom × List Char) := do
  match fs.skip cs with
  | [] => none
  | '\x7b' :: cs =>
    let (name, rest) ← readBraced fs [] (cs.length + 1) cs
    let (s, outside) ← propertyOf? name
    return (.property s (negated != outside), rest)
  | c :: cs =>
    if c = '\\' then none
    else
      let s ← Charset.named? [c]
      return (.property s negated, cs)

/-- The condition that a name in braces after `\b` stands for. -/
def namedBoundary? (name : List Char) : Option (Bool → Look) :=
  match String.ofList name with
  | "start" => some .wordStart
  | "end" => some .wordEnd
  | "start-half" => some .wordStartHalf
  | "end-half" => some .wordEndHalf
  | _ => none

/-- Reads what follows `\b`. A brace with a letter or hyphen in it must name a condition; any other
brace is left for a repetition. -/
def readBoundary (fs : Flags) (cs : List Char) : Option (Atom × List Char) :=
  let plain := some (Atom.look fun fs => .wordBoundary !fs.unicode, cs)
  match cs with
  | '\x7b' :: inner =>
    match fs.skip inner with
    | [] => none
    | c :: rest =>
      if c.isAlpha || c == '-' then do
        let (name, rest) ← readBraced fs [] (rest.length + 2) (c :: rest)
        let kind ← namedBoundary? name
        return (.look fun fs => kind !fs.unicode, rest)
      else plain
  | _ => plain

/-- Reads the part of an escape after the backslash. -/
def readEscape (fs : Flags) (cs : List Char) : Option (Atom × List Char) :=
  match cs with
  | [] => none
  | c :: cs =>
    match c with
    | 'x' => readHex fs 2 cs
    | 'u' => readHex fs 4 cs
    | 'U' => readHex fs 8 cs
    | 'p' => readProperty fs false cs
    | 'P' => readProperty fs true cs
    | 'd' => some (.shorthand .digit .asciiDigit false, cs)
    | 'D' => some (.shorthand .digit .asciiDigit true, cs)
    | 's' => some (.shorthand .blank .asciiBlank false, cs)
    | 'S' => some (.shorthand .blank .asciiBlank true, cs)
    | 'w' => some (.shorthand .word .asciiWord false, cs)
    | 'W' => some (.shorthand .word .asciiWord true, cs)
    | 'a' => some (.literal '\x07' false, cs)
    | 'f' => some (.literal '\x0c' false, cs)
    | 't' => some (.literal '\t' false, cs)
    | 'n' => some (.literal '\n' false, cs)
    | 'r' => some (.literal '\r' false, cs)
    | 'v' => some (.literal '\x0b' false, cs)
    | 'A' => some (.look fun _ => .textStart, cs)
    | 'z' => some (.look fun _ => .textEnd, cs)
    | 'b' => readBoundary fs cs
    | 'B' => some (.look fun fs => .notWordBoundary !fs.unicode, cs)
    | '<' => some (.look fun fs => .wordStart !fs.unicode, cs)
    | '>' => some (.look fun fs => .wordEnd !fs.unicode, cs)
    | _ => if isEscapable c then some (.literal c false, cs) else none

/-- Reads the atom that starts with `c`, outside of brackets. -/
def readAtom (fs : Flags) (c : Char) (cs : List Char) : Option (Atom × List Char) :=
  match c with
  | '\\' => readEscape fs cs
  | '.' => some (.dot, cs)
  | '^' => some (.look fun fs => if fs.multiLine then .lineStart fs.crlf else .textStart, cs)
  | '$' => some (.look fun fs => if fs.multiLine then .lineEnd fs.crlf else .textEnd, cs)
  | _ => some (.literal c false, cs)

/-- Whether a set, read as a set of bytes, holds only ASCII. -/
def isAsciiOnly (s : Charset) : Bool :=
  (List.range 0x80).all fun n => !s.containsPoint (n + 0x80)

/-- A set as patterns on bytes may use it: ASCII only. -/
def asciiOnly? (s : Charset) : Option Charset :=
  if isAsciiOnly s then some (.inter .ascii s) else none

/-- The set of the characters that a literal matches. -/
def literalSet (fs : Flags) (c : Char) : Charset :=
  if !fs.ignoreCase then .single c
  else if fs.unicode then .ofPoints (Charset.foldClass c.toNat)
  else if c.isAlpha then .union (.single c.toUpper) (.single c.toLower)
  else .single c

/-- The meaning of an atom under the flags in force. -/
def Atom.expr? (fs : Flags) : Atom → Option Expr
  | literal c byteForm =>
    if byteForm && !fs.unicode && 0x80 ≤ c.toNat then none else some (.set (literalSet fs c))
  | shorthand unicode ascii negated =>
    if fs.unicode then some (.set (unicode.negateIf negated))
    else if negated then none
    else some (.set ascii)
  | property s negated =>
    if fs.unicode then some (.set ((s.foldIf fs.ignoreCase).negateIf negated)) else none
  | dot =>
    if !fs.unicode then none
    else if fs.dotMatchesNewline then some (.set .all)
    else if fs.crlf then some (.set (.compl (.union (.single '\n') (.single '\r'))))
    else some (.set (.compl (.single '\n')))
  | look l => some (.look (l fs))

/-- The meaning of an atom between brackets: conditions are refused. -/
def Atom.set? (fs : Flags) : Atom → Option Charset
  | literal c _ => if !fs.unicode && 0x80 ≤ c.toNat then none else some (.single c)
  | shorthand unicode ascii negated =>
    if fs.unicode then some (unicode.negateIf negated)
    else if negated then none
    else some ascii
  | property s negated =>
    if fs.unicode then some ((s.foldIf fs.ignoreCase).negateIf negated) else none
  | dot => none
  | look _ => none

end DslOutline.Pattern
