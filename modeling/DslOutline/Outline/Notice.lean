import DslOutline.Outline.Basic

/-!
# Notices

Reading a document never fails, but it leaves a trace of what it met: constructs without an end, and
a summary. A notice is the event; its wording and its level are functions of it. All notices of a
reading follow from what was read.
-/

namespace DslOutline

/-- How much a notice matters. -/
inductive Level where
  | warn
  | debug
  | trace
deriving Repr, DecidableEq

/-- The level as it is shown. -/
def Level.render : Level → String
  | warn => "WARN"
  | debug => "DEBUG"
  | trace => "TRACE"

/-- Something that was met while reading documents. -/
inductive Notice where
  /-- A `use` declaration goes on to the end of the file. -/
  | openUse (line : Nat)
  /-- A section has no `end` before a line. -/
  | openSection (name : String) (line before : Nat)
  /-- A document was read by its schemas. -/
  | extracted (lines schemas sections definitions links : Nat)
  /-- A guessed section has no `end`. -/
  | openBlock (name : String) (line : Nat)
  /-- Sections were guessed. -/
  | guessed (sections : Nat)
  /-- An outline was found in the cache. -/
  | cacheHit (uri : String) (version : Int)
  /-- An outline is older than the one in the cache. -/
  | stale (uri : String) (version held : Int)
deriving Repr, DecidableEq

namespace Notice

/-- The level of a notice. -/
def level : Notice → Level
  | openUse _ => .warn
  | openSection .. => .warn
  | extracted .. => .debug
  | openBlock .. => .debug
  | guessed _ => .debug
  | cacheHit .. => .trace
  | stale .. => .debug

/-- The wording of a notice. -/
def message : Notice → String
  | openUse line =>
    "use declaration at line " ++ toString line ++ " is not terminated before end of file"
  | openSection name line before =>
    "section `" ++ name ++ "` at line " ++ toString line ++ " has no matching end before line "
      ++ toString before
  | extracted lines schemas sections definitions links =>
    "parsed " ++ toString lines ++ " lines: " ++ toString schemas ++ " schemas, "
      ++ toString sections ++ " sections, " ++ toString definitions ++ " definitions, "
      ++ toString links ++ " references"
  | openBlock name line =>
    "block `" ++ name ++ "` at line " ++ toString line ++ " has no matching end"
  | guessed sections => "heuristic fallback found " ++ toString sections ++ " sections"
  | cacheHit uri version => "cache hit for " ++ uri ++ " v" ++ toString version
  | stale uri version held =>
    "ignoring stale parse of " ++ uri ++ " v" ++ toString version ++ " (have v" ++ toString held
      ++ ")"

/-- Level and wording. -/
def render (n : Notice) : String :=
  n.level.render ++ " " ++ n.message

end Notice

/-- The notices that `use` declarations give rise to. -/
def noticesOfUses (uses : List UseDeclaration) : List Notice :=
  (uses.filter fun u => !u.closed).map fun u => .openUse u.line

/-- The notices that sections found by schemas give rise to. -/
def noticesOfSections (sections : List Section) : List Notice :=
  (sections.filter fun s => !s.closed).map fun s =>
    .openSection s.name s.start.line (s.stop.line + 1)

/-- The notices that guessed sections give rise to. -/
def noticesOfGuess (sections : List Section) : List Notice :=
  (sections.filter fun s => !s.closed).map fun s => .openBlock s.name s.start.line

/-- The notices of reading a document by its schemas. -/
def Extraction.notices (e : Extraction) (lineCount : Nat) : List Notice :=
  noticesOfUses e.uses ++ noticesOfSections e.sections ++
    [.extracted lineCount e.schemas.length e.sections.length e.definitions.length e.links.length]

/-- The notices of reading a document. -/
def outlineNotices (r : Registry) (fallback : Bool) (d : Document) : List Notice :=
  let configured := extract r d
  let guess :=
    match chooseStrategy fallback configured.sections with
    | .configured => []
    | .heuristic =>
      let sections := heuristicSections d
      noticesOfGuess sections ++ [.guessed sections.length]
  configured.notices d.lineCount ++ guess

end DslOutline
