import DslOutline.Outline.Heuristic
import DslOutline.Outline.Section

/-!
# Outlines

The outline of a document lists its sections, what their entries define and refer to, and what can
be drawn of them.
-/

namespace DslOutline

open Text (Position)

/-!
## Definitions, links and diagrams

Entries that define a name make up the definitions of a document. An entry that refers to a name is
linked to the first definition of that name in the section it refers to.
-/

/-- A name that an entry defines. -/
structure DefinitionEntry where
  /-- The section of the entry. -/
  sectionName : String
  /-- The name. -/
  name : String
  /-- Where the entry starts. -/
  position : Position
deriving Repr, DecidableEq

/-- A reference and the definition it leads to. -/
structure Link where
  /-- The name referred to. -/
  name : String
  /-- Where the referring entry starts. -/
  source : Position
  /-- Where the defining entry starts. -/
  target : Position
  /-- The section of the definition. -/
  targetSection : String
deriving Repr, DecidableEq

/-- A section that a tool can draw. -/
structure DiagramTarget where
  /-- The section. -/
  sectionName : String
  /-- The tool. -/
  tool : String
  /-- Where the section starts. -/
  position : Position
deriving Repr, DecidableEq

/-- What an entry of a section defines. -/
def Child.definition? (sectionName : String) (c : Child) : Option DefinitionEntry :=
  if c.isDefinition then c.name.map fun name => ⟨sectionName, name, c.start⟩ else none

/-- The definitions of sections, in order; repeated names are kept. -/
def definitionsOf (sections : List Section) : List DefinitionEntry :=
  sections.flatMap fun s => s.children.filterMap (Child.definition? s.name)

/-- The link from an entry, if it refers to one of the definitions. -/
def Child.link? (definitions : List DefinitionEntry) (c : Child) : Option Link := do
  let ref ← c.reference
  if ref.name.isEmpty then none
  else
    let d ← definitions.find? fun d => d.sectionName == ref.target && d.name == ref.name
    return ⟨ref.name, c.start, d.position, d.sectionName⟩

/-- The links between sections, in the order of the referring entries. -/
def linksOf (sections : List Section) (definitions : List DefinitionEntry) : List Link :=
  (sections.flatMap Section.children).filterMap (Child.link? definitions)

/-- The sections that a tool can draw. -/
def diagramsOf (specs : List SectionSpec) (sections : List Section) : List DiagramTarget :=
  sections.filterMap fun s => do
    let spec ← specs.find? fun spec => spec.name == s.name
    return ⟨s.name, ← spec.diagram, s.start⟩

/-!
## Extraction and fallback

`extract` reads a document with the schemas that its `use` declarations activate. `outline` falls
back to guessing where that finds no section and guessing is allowed.
-/

/-- Everything extracted from a document. -/
structure Extraction where
  /-- The name of the first module. -/
  moduleName : Option String := none
  /-- The `use` declarations. -/
  uses : List UseDeclaration := []
  /-- The names of the active schemas, in the order of their activation. -/
  schemas : List String := []
  /-- The sections, in order. -/
  sections : List Section := []
  /-- The names that entries define. -/
  definitions : List DefinitionEntry := []
  /-- The references between entries. -/
  links : List Link := []
  /-- The sections that a tool can draw. -/
  diagrams : List DiagramTarget := []
deriving Repr, DecidableEq, Inhabited

namespace Extraction

/-- The section that contains a line. -/
def sectionAt? (e : Extraction) (line : Nat) : Option Section :=
  e.sections.find? fun s => s.containsLine line

/-- The number of entries in all sections. -/
def childCount (e : Extraction) : Nat :=
  e.sections.foldr (fun s count => s.children.length + count) 0

end Extraction

/-- How the sections of a document were found. -/
inductive Strategy where
  /-- By the active schemas. -/
  | configured
  /-- By guessing. -/
  | heuristic
deriving Repr, DecidableEq, Inhabited

/-- The strategy as it is shown to the user. -/
def Strategy.render : Strategy → String
  | configured => "configured"
  | heuristic => "heuristic"

/-- What the schemas found is kept unless it is nothing and guessing is allowed. -/
def chooseStrategy (fallback : Bool) (sections : List Section) : Strategy :=
  if fallback && sections.isEmpty then .heuristic else .configured

/-- What was extracted from a document, and how. -/
structure Outline where
  /-- How the sections were found. -/
  strategy : Strategy
  /-- What was found. -/
  result : Extraction
deriving Repr, DecidableEq, Inhabited

/-- The schemas that a document activates. -/
def Document.activeSchemas (d : Document) (r : Registry) : List Schema :=
  DslOutline.activeSchemas r (d.useDeclarations.map UseDeclaration.text)

/-- Reads a document by the schemas it activates. -/
def extract (r : Registry) (d : Document) : Extraction :=
  let schemas := d.activeSchemas r
  let specs := sectionSpecs schemas
  let sections := findSections d specs
  let definitions := definitionsOf sections
  { moduleName := d.moduleHead?.map fun (_, name) => String.ofList name
    uses := d.useDeclarations
    schemas := schemas.map Schema.name
    sections := sections
    definitions := definitions
    links := linksOf sections definitions
    diagrams := diagramsOf specs sections }

/-- An extraction with guessed sections in place of those of the schemas. -/
def Extraction.withGuess (e : Extraction) (sections : List Section) : Extraction :=
  { e with sections := sections, definitions := [], links := [], diagrams := [] }

/-- Reads a document; `fallback` allows guessing. -/
def outline (r : Registry) (fallback : Bool) (d : Document) : Outline :=
  let configured := extract r d
  match chooseStrategy fallback configured.sections with
  | .configured => ⟨.configured, configured⟩
  | .heuristic => ⟨.heuristic, configured.withGuess (heuristicSections d)⟩

end DslOutline
