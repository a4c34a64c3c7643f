import DslOutline.Block.Ending
import DslOutline.Document
import DslOutline.Outline.Declaration
import DslOutline.Schema.Basic
import DslOutline.Text.Position

/-!
# Sections and their entries

The schemas that a document activates tell which sections to look for and which keywords start an
entry there. `findSections` finds the sections, each with its entries.
-/

namespace DslOutline

open Text (Position)

/-!
## What to look for in a document

A document's `use` declarations decide which schemas are active: those whose declaration pattern
occurs in one of them. The sections of the active schemas are then put together by name, so that
two schemas may both contribute entries to a section.
-/

/-- Whether `part` occurs in a text. -/
def occursIn (part : List Char) : List Char → Bool
  | [] => part.isEmpty
  | c :: cs => part.isPrefixOf (c :: cs) || occursIn part cs

/-- Adds the schemas that a declaration activates and that are not active yet. -/
def activate (active : List Schema) (text : List Char) : List Schema → List Schema
  | [] => active
  | s :: ss =>
    let seen := active.any fun a => a.declarationPattern == s.declarationPattern
    if !seen && occursIn s.declarationPattern.toList text then activate (active ++ [s]) text ss
    else activate active text ss

/-- The schemas that the texts of `use` declarations activate, in the order in which they do. -/
def activeSchemas (r : Registry) (texts : List (List Char)) : List Schema :=
  texts.foldl (fun active text => activate active text r.schemas) []

/-- A section to look for. -/
structure SectionSpec where
  /-- The word in front of its `do`. -/
  name : String
  /-- The entry keywords that all active schemas give it. -/
  patterns : List ChildPattern
  /-- The tool that can draw it, from the first schema that gives one. -/
  diagram : Option String
deriving Repr, DecidableEq

/-- Adds a schema's section to those to look for: to the one of the same name, or at the end. -/
def addSection (s : SectionSchema) : List SectionSpec → List SectionSpec
  | [] => [⟨s.name, s.children, s.diagram⟩]
  | spec :: specs =>
    if spec.name = s.name then
      ⟨spec.name, spec.patterns ++ s.children, spec.diagram <|> s.diagram⟩ :: specs
    else spec :: addSection s specs

/-- The sections to look for, given the active schemas. -/
def sectionSpecs (schemas : List Schema) : List SectionSpec :=
  (schemas.flatMap Schema.sections).foldl (fun specs s => addSection s specs) []

/-!
## Entries of a section

An entry is a line of a section's body that starts with one of the section's keywords. The keyword
is looked for on the mask, where literals and comments are blank; name, detail and reference are
taken from the line as written, up to its comment.
-/

/-- The definition that an entry refers to. -/
structure ChildReference where
  /-- The section of the definition. -/
  target : String
  /-- The name of the definition. -/
  name : String
deriving Repr, DecidableEq

/-- An entry of a section. -/
structure Child where
  /-- The keyword it starts with. -/
  keyword : String
  /-- What it names. -/
  name : Option String
  /-- A further value. -/
  detail : Option String
  /-- Where the keyword stands. -/
  start : Position
  /-- Whether it defines its name. -/
  isDefinition : Bool
  /-- What it refers to. -/
  reference : Option ChildReference
deriving Repr, DecidableEq

/-- The first group of a pattern in a text, without white space around it, unless it is blank. -/
def capture? (p : Option Pattern) (text : List Char) : Option String := do
  let value := Text.trim (← (← p).group? 1 text)
  if value.isEmpty then none else return String.ofList value

/-- The entry that a keyword starts on a line, `indent` bytes after the start of the line. -/
def ChildPattern.child (p : ChildPattern) (l : SourceLine) (indent : Nat) : Child :=
  let after := Text.dropBytes (indent + Text.byteLength p.keyword.toList) l.text
  let remainder := withoutComment after
  let name := capture? p.namePattern remainder
  { keyword := p.keyword
    name := name
    detail := capture? p.detailPattern remainder
    start := ⟨l.number, (Text.takeBytes indent l.text).length + 1⟩
    isDefinition := p.isDefinition
    reference :=
      p.reference.bind fun ref =>
        (capture? ref.namePattern remainder <|> name).map fun name => ⟨ref.target, name⟩ }

/-- The entry on a line, if one of the keywords starts it; the first keyword that does counts. -/
def matchChild (patterns : List ChildPattern) (l : SourceLine) : Option Child :=
  let blanks := l.masked.takeWhile Text.isBlank
  let code := Text.trimStart l.masked
  if code.isEmpty then none
  else
    (patterns.find? fun p => startsWithKeyword p.keyword.toList code).map fun p =>
      p.child l (Text.byteLength blanks)

/-- The entries on some lines. -/
def matchChildren (patterns : List ChildPattern) (lines : List SourceLine) : List Child :=
  lines.filterMap (matchChild patterns)

/-!
## Finding the sections

A section starts on a line that reads `name do` and nothing else, for one of the names to look for.
It provisionally extends to the line before the next section start, or to the end of the file. Its
real end is the matching `end` in that range; a section without one keeps its provisional end and
gets no entries.
-/

/-- A section of a document. -/
structure Section where
  /-- The word in front of its `do`. -/
  name : String
  /-- Its entries. -/
  children : List Child
  /-- Where its name stands. -/
  start : Position
  /-- Just past its `end`, or past the last line it may extend to. -/
  stop : Position
  /-- Whether its `end` was found. -/
  closed : Bool
deriving Repr, DecidableEq

/-- Whether a line is between the first and the last line of the section. -/
def Section.containsLine (s : Section) (line : Nat) : Bool :=
  s.start.line ≤ line && line ≤ s.stop.line

/-- Whether a line, without white space around it, reads `name do`. -/
def isSectionStart (name line : List Char) : Bool :=
  match name.isPrefixOf? line with
  | some (c :: rest) => Text.isBlank c && Text.trim rest == ['d', 'o']
  | _ => false

/-- A line on which a section starts. -/
structure SectionStart where
  /-- The line's number. -/
  line : Nat
  /-- What the section is. -/
  spec : SectionSpec
deriving Repr, DecidableEq

/-- The section that starts on line `n`, if one does. -/
def sectionStart? (d : Document) (specs : List SectionSpec) (n : Nat) : Option SectionStart :=
  let line := Text.trim (d.maskedLine n)
  (specs.find? fun spec => isSectionStart spec.name.toList line).map (⟨n, ·⟩)

/-- The lines on which sections start, in order. -/
def sectionStarts (d : Document) (specs : List SectionSpec) : List SectionStart :=
  (List.range' 1 d.lineCount).filterMap (sectionStart? d specs)

/-- The end of the block that opens on line `first`, if its `end` is on line `last` or before. -/
def Document.blockEnd? (d : Document) (first last : Nat) : Option Position :=
  (blockEndWithin d.text (d.lineStart first) (d.lineEnd last)).map d.position

/-- The section that starts on a line and may extend to line `last`. -/
def SectionStart.toSection (s : SectionStart) (d : Document) (last : Nat) : Section :=
  let start := d.firstNonBlank s.line
  match d.blockEnd? s.line last with
  | none => ⟨s.spec.name, [], start, d.endOfLine last, false⟩
  | some stop =>
    let body := d.linesBetween (s.line + 1) stop.line
    ⟨s.spec.name, matchChildren s.spec.patterns body, start, stop, true⟩

/-- The sections with these starts. -/
def sectionsFrom (d : Document) : List SectionStart → List Section
  | [] => []
  | [s] => [s.toSection d d.lineCount]
  | s :: t :: rest => s.toSection d (t.line - 1) :: sectionsFrom d (t :: rest)

/-- The sections of a document. -/
def findSections (d : Document) (specs : List SectionSpec) : List Section :=
  sectionsFrom d (sectionStarts d specs)

end DslOutline
