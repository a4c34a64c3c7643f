import DslOutline.Charset.Basic
import DslOutline.Document

/-!
# What a file declares

A file says on some of its lines what it uses, and on one which module it defines. These lines are
found on the mask, before any schema is looked at.
-/

namespace DslOutline

/-!
## `use` declarations

A declaration starts on a line that reads `use Module` and goes on over the following lines as long
as a bracket is open or the last line ends with a comma. Brackets and commas inside literals and
comments do not count, so the mask is what is looked at; the declaration's text is taken from the
source as written.
-/

/-- A `use` declaration, possibly over several lines. -/
structure UseDeclaration where
  /-- The line it starts on. -/
  line : Nat
  /-- Its lines, joined by line feeds. -/
  text : List Char
  /-- Whether it was complete before the file ended. -/
  closed : Bool
deriving Repr, DecidableEq

/-- Whether a masked line starts a declaration: the word `use`, white space, an uppercase letter. -/
def startsUse (masked : List Char) : Bool :=
  match ['u', 's', 'e'].isPrefixOf? (Text.trimStart masked) with
  | some (c :: rest) => Text.isBlank c && (Text.trimStart rest).head?.any Char.isUpper
  | _ => false

/-- What a character adds to the number of open brackets. -/
def bracketDelta (c : Char) : Int :=
  if c = '[' ∨ c = '(' ∨ c = '\x7b' then 1
  else if c = ']' ∨ c = ')' ∨ c = '\x7d' then -1
  else 0

/-- The number of open brackets after a masked line; more closing than opening ones leave none. -/
def openBrackets (before : Nat) (masked : List Char) : Nat :=
  ((before : Int) + masked.foldr (fun c change => bracketDelta c + change) 0).toNat

/-- Whether a masked line ends with a comma. -/
def endsWithComma (masked : List Char) : Bool :=
  (Text.trimEnd masked).getLast? == some ','

/-- A declaration that may go on. -/
structure OpenUse where
  /-- The line it starts on. -/
  line : Nat
  /-- Its lines so far, joined by line feeds. -/
  text : List Char
  /-- The number of open brackets. -/
  brackets : Nat
deriving Repr, DecidableEq

namespace OpenUse

/-- The declaration that starts on a line. -/
def start (l : SourceLine) : OpenUse :=
  ⟨l.number, l.text, openBrackets 0 l.masked⟩

/-- The declaration with one more line. -/
def extend (o : OpenUse) (l : SourceLine) : OpenUse :=
  ⟨o.line, o.text ++ '\n' :: l.text, openBrackets o.brackets l.masked⟩

/-- Whether the declaration is complete after its last line `l`. -/
def isComplete (o : OpenUse) (l : SourceLine) : Bool :=
  o.brackets == 0 && !endsWithComma l.masked

/-- The declaration as it stands. -/
def finish (o : OpenUse) (closed : Bool) : UseDeclaration :=
  ⟨o.line, o.text, closed⟩

end OpenUse

/-- The declarations on consecutive lines, the first of which may belong to an open declaration. -/
def scanUses : Option OpenUse → List SourceLine → List UseDeclaration
  | none, [] => []
  | some o, [] => [o.finish false]
  | none, l :: ls =>
    if startsUse l.masked then
      let o := OpenUse.start l
      if o.isComplete l then o.finish true :: scanUses none ls else scanUses (some o) ls
    else scanUses none ls
  | some o, l :: ls =>
    let o := o.extend l
    if o.isComplete l then o.finish true :: scanUses none ls else scanUses (some o) ls

/-- The `use` declarations of a document. -/
def Document.useDeclarations (d : Document) : List UseDeclaration :=
  scanUses none d.sourceLines

/-!
## Module heads

The module of a file is named by the first line that reads `defmodule Name do` and nothing else.
-/

/-- What follows at least one white-space character and all that come after it. -/
def afterBlanks? (cs : List Char) : Option (List Char) :=
  if cs.head?.any Text.isBlank then some (Text.trimStart cs) else none

/-- Whether a character continues a module name. -/
def isModuleChar (c : Char) : Bool :=
  isWordChar c || c == '.'

/-- The module name at the start of a text, which begins with an uppercase letter, and the rest. -/
def readModuleName? : List Char → Option (List Char × List Char)
  | [] => none
  | c :: cs =>
    if c.isUpper then some (c :: cs.takeWhile isModuleChar, cs.dropWhile isModuleChar) else none

/-- The module that a masked line opens. -/
def moduleHead? (masked : List Char) : Option (List Char) := do
  let rest ← "defmodule".toList.isPrefixOf? (Text.trimStart masked)
  let (name, rest) ← readModuleName? (← afterBlanks? rest)
  let rest ← ['d', 'o'].isPrefixOf? (← afterBlanks? rest)
  if rest.all Text.isBlank then return name else none

/-- The line and name of the first module of a document. -/
def Document.moduleHead? (d : Document) : Option (Nat × List Char) :=
  (List.range' 1 d.lineCount).findSome? fun n =>
    (DslOutline.moduleHead? (d.maskedLine n)).map fun name => (n, name)

end DslOutline
