import DslOutline.Cache
import DslOutline.Files.Source
import DslOutline.Outline.Render
import DslOutline.Schema.Load

/-!
# The browser

The browser lists the source files of a project and shows the outline of the selected one. Outlines
are cached by the time of a file's last change, so going back to a file does not read its structure
again; a reload does. The list of files is made once, when the project is opened.
-/

namespace DslOutline

/-- An open project. -/
structure Browser where
  /-- The project's folder. -/
  project : String
  /-- The schemas in use. -/
  registry : Registry
  /-- Whether sections are guessed where no schema finds one. -/
  fallback : Bool
  /-- The size above which a file is not read. -/
  maxFileBytes : Nat
  /-- The source files, each as the parts of its path. -/
  files : List (List String)
  /-- The index of the selected file. -/
  selected : Option Nat
  /-- The outlines read so far. -/
  cache : Cache Outline
  /-- What is shown. -/
  content : List String

namespace Browser

/-- The selected file. -/
def selectedFile? (b : Browser) : Option (List String) :=
  b.selected.bind fun i => b.files[i]?

/-- The lines shown for an outline. -/
def shown (o : Outline) : List String :=
  if o.result.sections.isEmpty then o.render ++ ["", "No structure found"] else o.render

/-- Shows the selected file as it is now. -/
def refresh (b : Browser) (fs : FileSystem) : Browser :=
  match b.selectedFile? with
  | none => b
  | some file =>
    match fs.readSource b.project file b.maxFileBytes with
    | .error e => { b with content := ["Error reading file: " ++ e.message] }
    | .ok text =>
      let key : DocumentKey := ⟨Path.render file, fs.version (Path.below b.project file)⟩
      let (o, cache) := cachedOutline b.registry b.fallback b.cache key (Document.ofString text)
      { b with cache := cache, content := shown o }

/-- Selects a file and shows it. -/
def select (b : Browser) (fs : FileSystem) (i : Nat) : Browser :=
  { b with selected := some i }.refresh fs

/-- Opens a project; its first file is selected, if it has one. -/
def «open» (fs : FileSystem) (c : Config) (registry : Registry) (project : String) :
    Except SourceError Browser :=
  match fs.sourceFiles project c.fileExtensions with
  | .error e => .error e
  | .ok files =>
    let b : Browser :=
      { project := project
        registry := registry
        fallback := c.heuristicFallback
        maxFileBytes := c.maxFileBytes
        files := files
        selected := none
        cache := {}
        content := [] }
    .ok (if files.isEmpty then b else b.select fs 0)

/-- Goes to the next file; the first follows the last. -/
def next (b : Browser) (fs : FileSystem) : Browser :=
  if b.files.isEmpty then b
  else
    match b.selected with
    | some i => b.select fs ((i + 1) % b.files.length)
    | none => b.select fs 0

/-- Goes to the previous file; the last precedes the first. -/
def previous (b : Browser) (fs : FileSystem) : Browser :=
  if b.files.isEmpty then b
  else
    match b.selected with
    | some (i + 1) => b.select fs i
    | _ => b.select fs (b.files.length - 1)

/-- Reads the selected file again, whatever the cache holds. -/
def reload (b : Browser) (fs : FileSystem) : Browser :=
  match b.selectedFile? with
  | some file => { b with cache := b.cache.invalidate (Path.render file) }.refresh fs
  | none => b.refresh fs

/-- The colours in which lines are shown. -/
inductive Style where
  | cyan
  | plain
  | yellow
deriving Repr, DecidableEq

/-- The style of a line: sections stand out, and so does what is not indented. -/
def style (line : String) : Style :=
  if "section ".toList.isPrefixOf line.toList then .cyan
  else if "  ".toList.isPrefixOf line.toList then .plain
  else .yellow

end Browser

end DslOutline
