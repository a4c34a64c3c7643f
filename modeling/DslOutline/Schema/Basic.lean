import DslOutline.Pattern.Basic
import DslOutline.Schema.Definition
import DslOutline.Text.Basic
import DslOutline.Toml.Reader

/-!
# Schemas and registries

Definitions are checked and compiled to schemas, and a registry holds the schemas that are in use.
-/

namespace DslOutline

/-!
## Schemas

Compiling a schema checks everything a document could trip over later: no declaration pattern and no
keyword is blank, and every pattern can be applied. The first defect in reading order is reported.
-/

/-- Which of an entry's patterns is meant. -/
inductive PatternField where
  | name
  | detail
  | reference
deriving Repr, DecidableEq

/-- The field under which a definition gives the pattern. -/
def PatternField.label : PatternField → String
  | name => "name_pattern"
  | detail => "detail_pattern"
  | reference => "reference_pattern"

/-- Why schemas cannot be used. -/
inductive SchemaError where
  /-- A pattern is refused. -/
  | invalidPattern (schema sectionName keyword : String) (field : PatternField)
  /-- Two schemas have the same declaration pattern. -/
  | duplicatePattern (pattern : String)
  /-- A schema's declaration pattern is blank. -/
  | blankPattern (schema : String)
  /-- An entry keyword is blank. -/
  | blankKeyword (schema sectionName : String)
  /-- A file is not valid TOML, or lacks a field, or has a value of the wrong kind. -/
  | malformed
  /-- A file cannot be read. -/
  | unreadable (path cause : String)
deriving Repr, DecidableEq

/-- The wording of a schema error. -/
def SchemaError.message : SchemaError → String
  | invalidPattern schema sectionName keyword field =>
    "Invalid " ++ field.label ++ " for `" ++ keyword ++ "` in " ++ schema ++ " > " ++ sectionName
  | duplicatePattern pattern => "Duplicate declaration pattern: " ++ pattern
  | blankPattern schema => "Schema " ++ schema ++ " has an empty declaration pattern"
  | blankKeyword schema sectionName =>
    "Schema " ++ schema ++ " > " ++ sectionName ++ " has a child pattern with an empty keyword"
  | malformed => "Failed to parse schema definitions"
  | unreadable path cause => "Failed to read schema file at " ++ path ++ ": " ++ cause

/-- What an entry refers to. -/
structure CrossReference where
  /-- The section that holds the definitions. -/
  target : String
  /-- Finds the name referred to; without it, the entry's own name is meant. -/
  namePattern : Option Pattern
deriving Repr, DecidableEq

/-- An entry keyword of a section. -/
structure ChildPattern where
  /-- The keyword, without white space around it. -/
  keyword : String
  /-- Finds the entry's name. -/
  namePattern : Option Pattern
  /-- Finds the entry's detail. -/
  detailPattern : Option Pattern
  /-- Whether the entry defines its name. -/
  isDefinition : Bool
  /-- What the entry refers to. -/
  reference : Option CrossReference
deriving Repr, DecidableEq

/-- A section of a schema. -/
structure SectionSchema where
  /-- The word in front of the section's `do`. -/
  name : String
  /-- The tool that can draw the section. -/
  diagram : Option String
  /-- The entry keywords, the first match of which counts. -/
  children : List ChildPattern
deriving Repr, DecidableEq

/-- A schema. -/
structure Schema where
  /-- The name shown to users. -/
  name : String
  /-- The text that activates the schema; it identifies the schema within a registry. -/
  declarationPattern : String
  /-- The sections. -/
  sections : List SectionSchema
deriving Repr, DecidableEq

/-- Compiles a pattern that a definition may give. -/
def compilePattern (refused : SchemaError) : Option String → Except SchemaError (Option Pattern)
  | none => .ok none
  | some source =>
    match Pattern.compile? source with
    | some p => .ok (some p)
    | none => .error refused

/-- Compiles an entry keyword. A reference pattern is checked even if nothing is referred to. -/
def ChildPattern.compile (schema sectionName : String) (d : ChildDef) :
    Except SchemaError ChildPattern :=
  if Text.isBlankString d.keyword then .error (.blankKeyword schema sectionName)
  else do
    let refused := SchemaError.invalidPattern schema sectionName d.keyword
    let name ← compilePattern (refused .name) d.namePattern
    let detail ← compilePattern (refused .detail) d.detailPattern
    let reference ← compilePattern (refused .reference) d.referencePattern
    return {
      keyword := Text.trimString d.keyword
      namePattern := name
      detailPattern := detail
      isDefinition := d.definition
      reference := d.references.map fun target => ⟨target, reference⟩ }

/-- Compiles a section. -/
def SectionSchema.compile (schema : String) (d : SectionDef) :
    Except SchemaError SectionSchema := do
  let children ← d.children.mapM (ChildPattern.compile schema d.name)
  return ⟨d.name, d.diagram, children⟩

namespace Schema

/-- Compiles a schema. -/
def compile (d : SchemaDef) : Except SchemaError Schema :=
  if Text.isBlankString d.declarationPattern then .error (.blankPattern d.name)
  else do
    let sections ← d.sections.mapM (SectionSchema.compile d.name)
    return ⟨d.name, d.declarationPattern, sections⟩

/-- The first section with a name. -/
def section? (s : Schema) (name : String) : Option SectionSchema :=
  s.sections.find? fun sec => sec.name == name

end Schema

/-!
## Registries

A registry holds schemas in the order in which they were added, no two of them with the same
declaration pattern. Adding the schemas of another registry stops at the first one whose pattern is
held already; the ones before it stay.
-/

/-- An ordered collection of schemas with distinct declaration patterns. -/
structure Registry where
  /-- The schemas, oldest first. -/
  schemas : List Schema := []
deriving Repr, DecidableEq, Inhabited

namespace Registry

/-- The registry without schemas. -/
def empty : Registry := {}

/-- The number of schemas. -/
def size (r : Registry) : Nat := r.schemas.length

/-- The schema with a declaration pattern. -/
def get? (r : Registry) (pattern : String) : Option Schema :=
  r.schemas.find? fun s => s.declarationPattern == pattern

/-- The declaration patterns, oldest first. -/
def patterns (r : Registry) : List String :=
  r.schemas.map Schema.declarationPattern

/-- Adds a schema, unless its declaration pattern is held already. -/
def insert (r : Registry) (s : Schema) : Except SchemaError Registry :=
  if (r.get? s.declarationPattern).isSome then .error (.duplicatePattern s.declarationPattern)
  else .ok ⟨r.schemas ++ [s]⟩

/-- Adds schemas one after the other until one cannot be added; gives back the registry after the
last success, and the error if there was one. -/
def insertAll (r : Registry) : List Schema → Registry × Option SchemaError
  | [] => (r, none)
  | s :: ss =>
    match r.insert s with
    | .ok r => r.insertAll ss
    | .error e => (r, some e)

/-- Adds the schemas of another registry. -/
def merge (r other : Registry) : Registry × Option SchemaError :=
  r.insertAll other.schemas

/-- Adds the schemas of another registry, all or none. -/
def merged (r other : Registry) : Except SchemaError Registry :=
  match r.merge other with
  | (r, none) => .ok r
  | (_, some e) => .error e

/-- Adds the schemas of definitions; each is compiled before the next is looked at. -/
def insertDefinitions (r : Registry) : List SchemaDef → Except SchemaError Registry
  | [] => .ok r
  | d :: ds => do
    let s ← Schema.compile d
    let r ← r.insert s
    r.insertDefinitions ds

/-- The registry of definitions. -/
def ofDefinitions (ds : List SchemaDef) : Except SchemaError Registry :=
  empty.insertDefinitions ds

/-- The registry of definitions written in TOML. -/
def ofToml (file : String) : Except SchemaError Registry :=
  match (Toml.parse? file).bind SchemaDef.ofFields? with
  | some ds => ofDefinitions ds
  | none => .error .malformed

/-- The tool that draws sections with a name: the first one that the first section of that name in
a schema gives. -/
def diagramTool? (r : Registry) (name : String) : Option String :=
  (r.schemas.filterMap fun s => s.section? name).findSome? SectionSchema.diagram

end Registry

end DslOutline
