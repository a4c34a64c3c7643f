import DslOutline.Toml.Value

/-!
# Schema definitions

A schema describes what to look for in the files of one kind of module: sections by name, and in
each section the keywords of its entries. A definition holds patterns as written; `Schema.compile`
turns it into a schema that can be applied.

Definitions are written in TOML. A table may leave out the fields that have a default, and an array
may stand for a table and then gives the fields in order.
-/

namespace DslOutline

/-- An entry keyword of a section, as written. -/
structure ChildDef where
  /-- The keyword that starts the entry. -/
  keyword : String
  /-- Its first group is the entry's name. -/
  namePattern : Option String := none
  /-- Its first group is the entry's detail. -/
  detailPattern : Option String := none
  /-- Whether the entry defines its name. -/
  definition : Bool := false
  /-- The section whose definitions the entry refers to. -/
  references : Option String := none
  /-- Its first group is the name referred to, where that is not the entry's own. -/
  referencePattern : Option String := none
deriving Repr, DecidableEq, Inhabited

/-- A section of a schema, as written. -/
structure SectionDef where
  /-- The word in front of the section's `do`. -/
  name : String
  /-- The tool that can draw the section. -/
  diagram : Option String := none
  /-- The entry keywords. -/
  children : List ChildDef := []
deriving Repr, DecidableEq, Inhabited

/-- A schema, as written. -/
structure SchemaDef where
  /-- The name shown to users. -/
  name : String
  /-- The schema applies to files with a `use` declaration that contains this text. -/
  declarationPattern : String
  /-- The sections. -/
  sections : List SectionDef := []
deriving Repr, DecidableEq, Inhabited

/-! ## Reading definitions from TOML -/

namespace SchemaDef

open Toml

/-- The fields of a record: those of a table, or the items of an array under these names. -/
def record? (names : List String) : Value → Option Fields
  | .table _ fields => some fields
  | v => v.items?.map names.zip

/-- A field that may be left out; a value of the wrong kind is an error. -/
def optional {α : Type} (read : Value → Option α) (fields : Fields) (name : String) :
    Option (Option α) :=
  match fields.get? name with
  | none => some none
  | some v => (read v).map some

/-- A field that must be given. -/
def required {α : Type} (read : Value → Option α) (fields : Fields) (name : String) : Option α :=
  (fields.get? name).bind read

/-- A list of records, which may be left out. -/
def records {α : Type} (read : Value → Option α) (fields : Fields) (name : String) :
    Option (List α) :=
  match fields.get? name with
  | none => some []
  | some v => v.items?.bind fun items => items.mapM read

/-- Reads an entry keyword. -/
def child? (v : Value) : Option ChildDef := do
  let fields ←
    record?
      ["keyword", "name_pattern", "detail_pattern", "definition", "references",
       "reference_pattern"] v
  return {
    keyword := ← required Value.string? fields "keyword"
    namePattern := ← optional Value.string? fields "name_pattern"
    detailPattern := ← optional Value.string? fields "detail_pattern"
    definition := (← optional Value.boolean? fields "definition").getD false
    references := ← optional Value.string? fields "references"
    referencePattern := ← optional Value.string? fields "reference_pattern" }

/-- Reads a section. -/
def section? (v : Value) : Option SectionDef := do
  let fields ← record? ["name", "diagram", "child"] v
  return {
    name := ← required Value.string? fields "name"
    diagram := ← optional Value.string? fields "diagram"
    children := ← records child? fields "child" }

/-- Reads a schema. -/
def schema? (v : Value) : Option SchemaDef := do
  let fields ← record? ["name", "declaration_pattern", "section"] v
  return {
    name := ← required Value.string? fields "name"
    declarationPattern := ← required Value.string? fields "declaration_pattern"
    sections := ← records section? fields "section" }

/-- The schemas of a file with these fields; other fields are ignored. -/
def ofFields? (fields : Fields) : Option (List SchemaDef) :=
  records schema? fields "schema"

end SchemaDef

end DslOutline
