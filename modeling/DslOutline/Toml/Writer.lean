import DslOutline.Toml.Value

/-!
# Writing TOML

Only flat files are written: strings, whole numbers, truth values and lists of strings. A string
takes the first of these forms that can hold it: double quotes without any escape, single quotes,
triple double quotes without any escape, triple single quotes, and at last double quotes with
escapes. A list of two or more strings has one item a line.
-/

namespace DslOutline.Toml

/-- What decides the form of a string. -/
structure StringTraits where
  /-- The longest run of single quotes. -/
  singleQuotes : Nat
  /-- The longest run of double quotes. -/
  doubleQuotes : Nat
  /-- There is a control character other than tab and line feed. -/
  control : Bool
  /-- There is a backslash. -/
  backslash : Bool
  /-- There is a line feed. -/
  newline : Bool

/-- The length of the longest run of a character; `run` is the length of the run before `cs`. -/
def longestRun (mark : Char) (run : Nat) : List Char → Nat
  | [] => run
  | c :: cs => if c = mark then longestRun mark (run + 1) cs else Nat.max run (longestRun mark 0 cs)

/-- Whether a character can only be written as an escape. -/
def isControl (c : Char) : Bool :=
  (c.toNat < 0x20 || c.toNat == 0x7F) && c != '\t' && c != '\n'

/-- The traits of a string. -/
def StringTraits.of (cs : List Char) : StringTraits where
  singleQuotes := longestRun '\'' 0 cs
  doubleQuotes := longestRun '"' 0 cs
  control := cs.any isControl
  backslash := cs.contains '\\'
  newline := cs.contains '\n'

/-- The forms of a string. -/
inductive StringForm where
  | basic
  | literal
  | multiLineBasic
  | multiLineLiteral
deriving Repr, DecidableEq

/-- The form in which a string is written. -/
def StringTraits.form (t : StringTraits) : StringForm :=
  if !t.control && !t.backslash && t.doubleQuotes == 0 && !t.newline then .basic
  else if !t.control && t.singleQuotes == 0 && !t.newline then .literal
  else if !t.control && !t.backslash && t.doubleQuotes ≤ 2 then .multiLineBasic
  else if !t.control && t.singleQuotes ≤ 2 then .multiLineLiteral
  else if t.newline then .multiLineBasic
  else .basic

/-- A code point as four hexadecimal digits in upper case. -/
def fourHexDigits (n : Nat) : List Char :=
  let digits := (Nat.toDigits 16 n).map Char.toUpper
  List.replicate (4 - digits.length) '0' ++ digits

/-- A character in a string with double quotes. -/
def escapeChar (multiLine : Bool) (c : Char) : List Char :=
  match c with
  | '\x08' => ['\\', 'b']
  | '\t' => ['\\', 't']
  | '\n' => if multiLine then ['\n'] else ['\\', 'n']
  | '\x0c' => ['\\', 'f']
  | '\r' => ['\\', 'r']
  | '\\' => ['\\', '\\']
  | c => if isControl c then ['\\', 'u'] ++ fourHexDigits c.toNat else [c]

/-- The content of a string with double quotes: at most `allowed` of them may stand in a row, and
the next one is escaped. -/
def escapeString (multiLine : Bool) (allowed run : Nat) : List Char → List Char
  | [] => []
  | c :: cs =>
    if c = '"' then
      if run < allowed then '"' :: escapeString multiLine allowed (run + 1) cs
      else '\\' :: '"' :: escapeString multiLine allowed 0 cs
    else escapeChar multiLine c ++ escapeString multiLine allowed 0 cs

/-- A string as it is written. -/
def renderString (s : String) : String :=
  let cs := s.toList
  let traits := StringTraits.of cs
  let newline := if traits.newline then "\n" else ""
  match traits.form with
  | .basic => "\"" ++ String.ofList (escapeString false 0 0 cs) ++ "\""
  | .literal => "'" ++ s ++ "'"
  | .multiLineBasic =>
    "\"\"\"" ++ newline ++ String.ofList (escapeString true 2 0 cs) ++ "\"\"\""
  | .multiLineLiteral => "'''" ++ newline ++ s ++ "'''"

/-- A list of strings as it is written. -/
def renderStrings : List String → String
  | [] => "[]"
  | [s] => "[" ++ renderString s ++ "]"
  | ss => "[\n" ++ String.join (ss.map fun s => "    " ++ renderString s ++ ",\n") ++ "]"

/-- A truth value as it is written. -/
def renderBool (b : Bool) : String :=
  if b then "true" else "false"

/-- A line that gives a name a value. -/
def renderField (name value : String) : String :=
  name ++ " = " ++ value ++ "\n"

end DslOutline.Toml
