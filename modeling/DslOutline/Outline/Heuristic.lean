import DslOutline.Outline.Declaration
import DslOutline.Outline.Section

/-!
# Sections without a schema

Where no schema finds anything, the structure of the first module is guessed. Every block
`name do` directly inside the module becomes a section, unless the name is a construct of the
language itself; a line directly inside the section that reads like a call with an atom, a string or
a module becomes an entry. The nesting depth is counted line by line on the mask.
-/

namespace DslOutline

/-- Words that open blocks of the language itself. -/
def languageWords : List String :=
  ["def", "defp", "defmacro", "defmacrop", "defmodule", "defstruct", "defimpl", "defprotocol",
   "defdelegate", "defguard", "use", "import", "require", "alias", "if", "unless", "case", "cond",
   "with", "for", "try", "receive", "quote", "unquote"]

/-- Whether a word may head a section or an entry. -/
def isDslWord (word : List Char) : Bool :=
  !languageWords.contains (String.ofList word)

/-- Whether a character may start a call's name. -/
def isCallStart (c : Char) : Bool :=
  c.isLower || c == '_'

/-- Whether a character may continue a call's name or an atom. -/
def isCallChar (c : Char) : Bool :=
  isWordChar c || c == '?' || c == '!'

/-- The name in front of `do` on a line that has nothing else. -/
def blockHead? (line : List Char) : Option (List Char) := do
  match line with
  | [] => none
  | c :: cs =>
    if isCallStart c then
      if (← afterBlanks? (cs.dropWhile isCallChar)) = ['d', 'o'] then
        return c :: cs.takeWhile isCallChar
      else none
    else none

/-- The first argument of a call: an atom, a string or a module, possibly after a parenthesis. -/
def argument? (cs : List Char) : Option (List Char) :=
  let cs := Text.trimStart cs
  let cs := match cs with | '(' :: rest => Text.trimStart rest | cs => cs
  match cs with
  | ':' :: c :: rest =>
    if c.isAlpha || c == '_' then some (':' :: c :: rest.takeWhile isCallChar) else none
  | '"' :: rest =>
    if rest.contains '"' then some ('"' :: rest.takeWhile (· != '"') ++ ['"']) else none
  | cs => (readModuleName? cs).map Prod.fst

/-- The name and first argument of the call that a line starts with. The name is as long as it can
be while an argument still follows. -/
def callHead? (line : List Char) : Option (List Char × List Char) :=
  match line with
  | [] => none
  | c :: cs =>
    if isCallStart c then
      let run := (cs.takeWhile isCallChar).length
      (List.range (run + 1)).reverse.findSome? fun n =>
        (argument? (cs.drop n)).map fun arg => (c :: cs.take n, arg)
    else none

/-- The entry on line `n`, whose mask without white space around it is `masked`. -/
def heuristicChild? (d : Document) (n : Nat) (masked : List Char) : Option Child := do
  let (word, arg) ← callHead? (Text.trimStart (d.line n))
  if isDslWord word && startsWithKeyword word masked then
    return {
      keyword := String.ofList word
      name := some (String.ofList arg)
      detail := none
      start := d.firstNonBlank n
      isDefinition := false
      reference := none }
  else none

/-- The nesting depth after a masked line; it does not fall below zero. -/
def depthAfter (depth : Nat) (masked : List Char) : Nat :=
  ((depth : Int) + netDepth masked).toNat

/-- The entries on the given lines that are not inside a block, `depth` blocks being open. -/
def firstLevelChildren (d : Document) (depth : Nat) : List Nat → List Child
  | [] => []
  | n :: ns =>
    let masked := Text.trim (d.maskedLine n)
    (if depth = 0 then (heuristicChild? d n masked).toList else []) ++
      firstLevelChildren d (depthAfter depth masked) ns

/-- The section that a block opens on line `n` of a module body that ends on line `last`. -/
def heuristicSection (d : Document) (name : List Char) (n last : Nat) : Section :=
  let start := d.firstNonBlank n
  match d.blockEnd? n last with
  | none => ⟨String.ofList name, [], start, d.endOfLine last, false⟩
  | some stop =>
    let body := List.range' (n + 1) (stop.line - (n + 1))
    ⟨String.ofList name, firstLevelChildren d 0 body, start, stop, true⟩

/-- The sections on the given lines of a module body that ends on line `last`. Lines before `resume`
belong to a section already found. -/
def heuristicSectionsOn (d : Document) (last depth resume : Nat) : List Nat → List Section
  | [] => []
  | n :: ns =>
    if n < resume then heuristicSectionsOn d last depth resume ns
    else
      let masked := Text.trim (d.maskedLine n)
      match (blockHead? masked).filter isDslWord, depth with
      | some name, 0 =>
        let s := heuristicSection d name n last
        s :: heuristicSectionsOn d last 0 (s.stop.line + 1) ns
      | _, _ => heuristicSectionsOn d last (depthAfter depth masked) resume ns

/-- The last line of the body of a module that opens on line `n`. -/
def moduleBodyEnd (d : Document) (n : Nat) : Nat :=
  match blockEnd d.text (d.lineStart n) with
  | some stop => (d.position stop).line - 1
  | none => d.lineCount

/-- The sections guessed from the structure of a document's first module. -/
def heuristicSections (d : Document) : List Section :=
  match d.moduleHead? with
  | none => []
  | some (n, _) =>
    let last := moduleBodyEnd d n
    heuristicSectionsOn d last 0 0 (List.range' (n + 1) (last - n))

end DslOutline
