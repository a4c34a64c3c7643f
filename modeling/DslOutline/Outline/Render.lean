import DslOutline.Outline.Basic

/-!
# Outlines as text

An outline is shown one item a line: the module, the strategy and the schemas, then each section
with its entries, then definitions, references and diagrams where there are any.
-/

namespace DslOutline

/-- The line of an entry. -/
def Child.render (c : Child) : String :=
  "  " ++ c.keyword
    ++ (match c.name with | some name => " " ++ name | none => "")
    ++ (match c.detail with | some detail => " (" ++ detail ++ ")" | none => "")
    ++ " " ++ c.start.render
    ++ (if c.isDefinition then " [definition]" else "")
    ++ (match c.reference with | some ref => " -> " ++ ref.target ++ " " ++ ref.name | none => "")

/-- The lines of a section. -/
def Section.render (s : Section) : List String :=
  ("section " ++ s.name ++ " " ++ s.start.render ++ ".." ++ s.stop.render)
    :: s.children.map Child.render

/-- The line of a definition. -/
def DefinitionEntry.render (d : DefinitionEntry) : String :=
  "  " ++ d.sectionName ++ " " ++ d.name ++ " " ++ d.position.render

/-- The line of a link. -/
def Link.render (l : Link) : String :=
  "  " ++ l.name ++ " " ++ l.source.render ++ " -> " ++ l.targetSection ++ " " ++ l.target.render

/-- The line of a diagram. -/
def DiagramTarget.render (t : DiagramTarget) : String :=
  "  " ++ t.sectionName ++ " " ++ t.tool ++ " " ++ t.position.render

/-- Lines under a title; nothing at all if there are none. -/
def titled (title : String) (lines : List String) : List String :=
  if lines.isEmpty then [] else title :: lines

/-- The lines of an outline. -/
def Outline.render (o : Outline) : List String :=
  let e := o.result
  let schemas := if e.schemas.isEmpty then "-" else ", ".intercalate e.schemas
  ["module " ++ e.moduleName.getD "?", "strategy " ++ o.strategy.render, "schemas " ++ schemas]
    ++ e.sections.flatMap Section.render
    ++ titled "definitions" (e.definitions.map DefinitionEntry.render)
    ++ titled "references" (e.links.map Link.render)
    ++ titled "diagrams" (e.diagrams.map DiagramTarget.render)

end DslOutline
