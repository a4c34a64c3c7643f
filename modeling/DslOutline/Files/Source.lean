import DslOutline.Files.Tree

/-!
# Source files

A project's source files are those below its folder with one of the wanted extensions, except in
folders that hold build output, dependencies or hidden files. They are listed in the order of their
paths. A file is read only if it is not larger than a limit.
-/

namespace DslOutline

/-- Why source files cannot be listed or read. -/
inductive SourceError where
  | missing (path : String)
  | failed (cause : FileError)
  | notAProject (path : String)
  | tooLarge (path : String) (size limit : Nat)
deriving Repr, DecidableEq

namespace SourceError

/-- The wording of a source error. -/
def message : SourceError → String
  | missing path => "File not found: " ++ path
  | failed cause => "IO error: " ++ cause.message
  | notAProject path => "Invalid project directory: " ++ path ++ " is not a directory"
  | tooLarge path size limit =>
    "File " ++ path ++ " is " ++ toString size ++ " bytes, over the " ++ toString limit
      ++ " byte limit"

/-- The wording of the error and of what caused it. -/
def chain (e : SourceError) : List String :=
  match e with
  | failed cause => [e.message, cause.message]
  | _ => [e.message]

end SourceError

/-- Whether a folder below the project is left out. -/
def isSkippedFolder (name : String) : Bool :=
  name.toList.head? == some '.' || ["_build", "deps", "node_modules"].contains name

/-- Whether a file has one of the extensions. -/
def hasExtension (extensions : List String) (name : String) : Bool :=
  (Path.extension? name).any extensions.contains

/-- The source files among the entries of a folder and below, each as its parts after `path`. -/
def sourcesAmong (extensions : List String) (path : List String) :
    List (String × Tree) → List (List String)
  | [] => []
  | (name, .file ..) :: rest =>
    let others := sourcesAmong extensions path rest
    if hasExtension extensions name then (path ++ [name]) :: others else others
  | (name, .folder entries) :: rest =>
    let inner :=
      if isSkippedFolder name then [] else sourcesAmong extensions (path ++ [name]) entries
    inner ++ sourcesAmong extensions path rest

namespace FileSystem

/-- Checks that a path leads to a folder. -/
def checkProject (fs : FileSystem) (project : String) : Except SourceError Unit :=
  if fs.isFolder project then .ok () else .error (.notAProject project)

/-- The source files of a project, in the order of their paths. -/
def sourceFiles (fs : FileSystem) (project : String) (extensions : List String) :
    Except SourceError (List (List String)) :=
  match fs.node? project with
  | some (.folder entries) => .ok ((sourcesAmong extensions [] entries).mergeSort Path.lessEq)
  | _ => .error (.notAProject project)

/-- The size that is reported for a folder. -/
def folderSize : Nat := 4096

/-- The number of bytes of a file. -/
def sizeOf (t : Tree) : Nat :=
  match t with
  | .file content _ => content.size
  | .folder _ => folderSize

/-- The text of a source file that is not larger than `limit`. -/
def readSource (fs : FileSystem) (project : String) (relative : List String) (limit : Nat) :
    Except SourceError String :=
  let path := Path.below project relative
  match fs.node? path with
  | none => .error (.missing path)
  | some t =>
    if limit < sizeOf t then .error (.tooLarge path (sizeOf t) limit)
    else
      match fs.readText path with
      | .ok s => .ok s
      | .error e => .error (.failed e)

/-- The version of a source file: the time of its last change, or 0 if that is before 1970. -/
def version (fs : FileSystem) (path : String) : Int :=
  match fs.node? path with
  | some (.file _ modified) => max modified 0
  | _ => 0

end FileSystem

end DslOutline
