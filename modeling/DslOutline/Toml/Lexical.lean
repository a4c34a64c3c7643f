import DslOutline.Charset.Ranges

/-!
# Strings, keys and scalars of TOML

Each reader takes the characters from the start of its construct and gives back what it read and
what is left.
-/

namespace DslOutline.Toml

/-- Whether a character may stand in a comment or a string: tab is the only control character that
may. -/
def isPlain (c : Char) : Bool :=
  c == '\t' || (0x20 ≤ c.toNat && c.toNat != 0x7F)

/-- What follows spaces and tabs. -/
def skipSpaces (cs : List Char) : List Char :=
  cs.dropWhile fun c => c == ' ' || c == '\t'

/-- Reads a line end, if there is one. -/
def readNewline? : List Char → Option (List Char)
  | '\n' :: cs => some cs
  | '\r' :: '\n' :: cs => some cs
  | _ => none

/-- Reads a comment, if there is one; nothing if it holds a control character. -/
def skipComment? : List Char → Option (List Char)
  | '#' :: cs =>
    let rest := cs.dropWhile isPlain
    if rest.isEmpty || (readNewline? rest).isSome then some rest else none
  | cs => some cs

/-- Skips white space, line ends and comments, as inside an array. -/
def skipTrivia : Nat → List Char → Option (List Char)
  | 0, cs => some cs
  | fuel + 1, cs => do
    let cs ← skipComment? (skipSpaces cs)
    match readNewline? cs with
    | some cs => skipTrivia fuel cs
    | none => return cs

/-! ## Strings -/

/-- The character whose code point is written as `count` hexadecimal digits. -/
def readCodePoint (count : Nat) (cs : List Char) : Option (Char × List Char) :=
  let digits := cs.take count
  if digits.length < count || digits.any fun c => (Charset.hexValue? c).isNone then none
  else
    let n := Charset.hexNumber digits
    if h : n.isValidChar then some (Char.ofNatAux n h, cs.drop count) else none

/-- Reads an escape after its backslash. -/
def readEscape : List Char → Option (Char × List Char)
  | 'b' :: cs => some ('\x08', cs)
  | 't' :: cs => some ('\t', cs)
  | 'n' :: cs => some ('\n', cs)
  | 'f' :: cs => some ('\x0c', cs)
  | 'r' :: cs => some ('\r', cs)
  | 'e' :: cs => some ('\x1b', cs)
  | '"' :: cs => some ('"', cs)
  | '\\' :: cs => some ('\\', cs)
  | 'x' :: cs => readCodePoint 2 cs
  | 'u' :: cs => readCodePoint 4 cs
  | 'U' :: cs => readCodePoint 8 cs
  | _ => none

/-- Reads a string in double quotes after the opening one; `acc` holds what was read, last first. -/
def readBasic (acc : List Char) : Nat → List Char → Option (List Char × List Char)
  | 0, _ => none
  | fuel + 1, cs =>
    match cs with
    | [] => none
    | '"' :: rest => some (acc.reverse, rest)
    | '\\' :: rest => do
      let (c, rest) ← readEscape rest
      readBasic (c :: acc) fuel rest
    | c :: rest => if isPlain c then readBasic (c :: acc) fuel rest else none

/-- Reads a string in single quotes after the opening one. -/
def readLiteral (cs : List Char) : Option (List Char × List Char) :=
  let body := cs.takeWhile fun c => c != '\'' && isPlain c
  match cs.drop body.length with
  | '\'' :: rest => some (body, rest)
  | _ => none

/-- What a string over several lines goes on with after its opening quotes: a line end right there
is dropped. -/
def skipFirstNewline (cs : List Char) : List Char :=
  (readNewline? cs).getD cs

/-- What follows white space and line ends. -/
def skipLines : List Char → List Char
  | ' ' :: cs => skipLines cs
  | '\t' :: cs => skipLines cs
  | '\n' :: cs => skipLines cs
  | '\r' :: '\n' :: cs => skipLines cs
  | cs => cs

/-- What follows a backslash at the end of a line: the next character that is not white space. -/
def skipLineEnd? (cs : List Char) : Option (List Char) :=
  (readNewline? (skipSpaces cs)).map skipLines

/-- Reads quotes inside a string over several lines. Three or more of them end the string, and up to
two in front of the last three belong to it. -/
def readQuotes (quote : Char) (cs : List Char) : Option (Nat × Bool × List Char) :=
  let run := (cs.takeWhile (· == quote)).length
  let rest := cs.drop run
  if run < 3 then some (run, false, rest)
  else if run ≤ 5 then some (run - 3, true, rest)
  else none

/-- Reads a string over several lines after its opening quotes; `escapes` says whether a backslash
has a meaning in it. -/
def readMultiLine (quote : Char) (escapes : Bool) (acc : List Char) :
    Nat → List Char → Option (List Char × List Char)
  | 0, _ => none
  | fuel + 1, cs =>
    match cs with
    | [] => none
    | '\n' :: rest => readMultiLine quote escapes ('\n' :: acc) fuel rest
    | '\r' :: '\n' :: rest => readMultiLine quote escapes ('\n' :: '\r' :: acc) fuel rest
    | c :: rest =>
      if c = quote then do
        let (count, ends, rest) ← readQuotes quote cs
        let acc := List.replicate count quote ++ acc
        if ends then return (acc.reverse, rest) else readMultiLine quote escapes acc fuel rest
      else if escapes ∧ c = '\\' then
        match skipLineEnd? rest with
        | some rest => readMultiLine quote escapes acc fuel rest
        | none => do
          let (c, rest) ← readEscape rest
          readMultiLine quote escapes (c :: acc) fuel rest
      else if isPlain c then readMultiLine quote escapes (c :: acc) fuel rest
      else none

/-- Reads a string of any kind. -/
def readString (cs : List Char) : Option (List Char × List Char) :=
  match cs with
  | '"' :: '"' :: '"' :: rest =>
    readMultiLine '"' true [] (rest.length + 1) (skipFirstNewline rest)
  | '\'' :: '\'' :: '\'' :: rest =>
    readMultiLine '\'' false [] (rest.length + 1) (skipFirstNewline rest)
  | '"' :: rest => readBasic [] (rest.length + 1) rest
  | '\'' :: rest => readLiteral rest
  | _ => none

/-! ## Keys -/

/-- Whether a character may stand in a key without quotes. -/
def isBareKeyChar (c : Char) : Bool :=
  c.isAlphanum || c == '_' || c == '-'

/-- Reads one part of a key. -/
def readKeyPart (cs : List Char) : Option (String × List Char) :=
  match cs with
  | '"' :: rest =>
    (readBasic [] (rest.length + 1) rest).map fun (name, rest) => (String.ofList name, rest)
  | '\'' :: rest => (readLiteral rest).map fun (name, rest) => (String.ofList name, rest)
  | _ =>
    let name := cs.takeWhile isBareKeyChar
    if name.isEmpty then none else some (String.ofList name, cs.drop name.length)

/-- The number of parts that a key may have, and of levels that a value may have. -/
def depthLimit : Nat := 80

/-- Reads a key with dots between its parts: the parts but the last, and the last. -/
def readKey (acc : List String) : Nat → List Char → Option ((List String × String) × List Char)
  | 0, _ => none
  | fuel + 1, cs => do
    let (part, rest) ← readKeyPart cs
    match skipSpaces rest with
    | '.' :: rest => readKey (part :: acc) fuel (skipSpaces rest)
    | rest => if acc.length < depthLimit then return ((acc.reverse, part), rest) else none

end DslOutline.Toml
