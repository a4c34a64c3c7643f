/-!
# Paths and file trees

Files are named by paths, and a tree holds what the names stand for.
-/

namespace DslOutline

/-!
## Paths

A path is a string with `/` between its parts. Two paths are the same if they agree part by part,
where empty parts and parts `.` other than the first make no difference.
-/

namespace Path

/-- The text between the slashes of a path. -/
def segments (path : String) : List String :=
  (path.toList.splitOnP (· == '/')).map String.ofList

/-- Whether a path starts at the root. -/
def isAbsolute (path : String) : Bool :=
  path.toList.head? == some '/'

/-- The parts of a path that matter: a leading `.` of a relative path does. -/
def parts (path : String) : List String :=
  let named := fun s => s != "" && s != "."
  match segments path with
  | "." :: rest => "." :: rest.filter named
  | all => all.filter named

/-- Whether two paths agree part by part. -/
def same (a b : String) : Bool :=
  isAbsolute a == isAbsolute b && parts a == parts b

/-- A path followed by another one; an absolute path stands for itself. -/
def join (base path : String) : String :=
  if isAbsolute path || base.isEmpty then path
  else if base.toList.getLast? == some '/' then base ++ path
  else base ++ "/" ++ path

/-- The path of a file, given by its parts, below a folder. -/
def below (folder : String) (relative : List String) : String :=
  relative.foldl (fun path part => if path.isEmpty then part else path ++ "/" ++ part) folder

/-- A relative path in writing. -/
def render (relative : List String) : String :=
  "/".intercalate relative

/-- The parts of a relative path. -/
def relativeParts (path : String) : List String :=
  (segments path).filter fun s => s != ""

/-- Whether a segment leads nowhere. -/
def isIdle (segment : String) : Bool :=
  segment == "" || segment == "."

/-- The segments without idle ones at the end. -/
def dropIdleEnd (segments : List String) : List String :=
  (segments.reverse.dropWhile isIdle).reverse

/-- The last part of a path, if it is a name, and the path in front of it as written. The first
segment never counts as idle: it says where the path starts. -/
def splitName? (path : String) : Option (String × String) :=
  match segments path with
  | [] => none
  | first :: rest =>
    match (dropIdleEnd rest).reverse with
    | [] => if isIdle first || first == ".." then none else some ("", first)
    | name :: front =>
      if name == ".." then none
      else
        match dropIdleEnd front.reverse with
        | [] => some (if first == "" then "/" else first, name)
        | front => some ("/".intercalate (first :: front), name)

/-- The extension of a file name: what follows its last dot, unless that dot is its first
character. -/
def extension? (name : String) : Option String :=
  let cs := name.toList
  let ext := (cs.reverse.takeWhile (· != '.')).reverse
  let stem := cs.take (cs.length - ext.length - 1)
  if cs.contains '.' && !stem.isEmpty && name != ".." then some (String.ofList ext) else none

/-- The order of relative paths: part by part, each by its characters. -/
def lessEq : List String → List String → Bool
  | [], _ => true
  | _ :: _, [] => false
  | a :: as, b :: bs => a < b || (a == b && lessEq as bs)

end Path

/-!
## File trees

A file system is a tree of folders and files as it is at one moment, together with the folder that
relative paths start from. Operations that change it give back the changed tree.
-/

/-- A file, or a folder with what is in it. -/
inductive Tree where
  /-- A file with its content and the time of its last change, in milliseconds since 1970. -/
  | file (content : ByteArray) (modified : Int)
  | folder (entries : List (String × Tree))

instance : Inhabited Tree := ⟨.folder []⟩

/-- Why a file operation failed. -/
inductive FileError where
  | missing
  | notAFolder
  | isAFolder
  | alreadyThere
  /-- The content is not UTF-8. -/
  | notText
deriving Repr, DecidableEq

/-- The wording of a file error. -/
def FileError.message : FileError → String
  | missing => "No such file or directory (os error 2)"
  | notAFolder => "Not a directory (os error 20)"
  | isAFolder => "Is a directory (os error 21)"
  | alreadyThere => "File exists (os error 17)"
  | notText => "stream did not contain valid UTF-8"

namespace Tree

/-- What a folder has under a name. -/
def child? : Tree → String → Option Tree
  | file .., _ => none
  | folder entries, name => (entries.find? fun e => e.1 == name).map Prod.snd

/-- What is at the end of a path of names. -/
def at? : List String → Tree → Option Tree
  | [], t => some t
  | name :: path, t => (t.child? name).bind (at? path)

/-- Whether it is a folder. -/
def isFolder : Tree → Bool
  | file .. => false
  | folder _ => true

/-- Entries with one under a name put in, or put in place of the one that is there. -/
def setEntry (name : String) (t : Tree) : List (String × Tree) → List (String × Tree)
  | [] => [(name, t)]
  | e :: es => if e.1 = name then (name, t) :: es else e :: setEntry name t es

/-- The tree with something put at a path of names; folders lead to it. -/
def put (new : Tree) : List String → Tree → Tree
  | _, file content modified => file content modified
  | [], folder _ => new
  | [name], folder entries => folder (setEntry name new entries)
  | name :: path, folder entries =>
    match (folder entries).child? name with
    | none => folder entries
    | some inner => folder (setEntry name (put new path inner) entries)

/-- The tree without what is at a path. -/
def remove : List String → Tree → Tree
  | _, file content modified => file content modified
  | [], folder entries => folder entries
  | [name], folder entries => folder (entries.filter fun e => e.1 != name)
  | name :: path, folder entries =>
    match (folder entries).child? name with
    | none => folder entries
    | some inner => folder (setEntry name (remove path inner) entries)

end Tree

/-- A file system at one moment. -/
structure FileSystem where
  /-- What is below `/`. -/
  root : Tree
  /-- The folder from which relative paths start, as names from the root. -/
  current : List String := []

namespace FileSystem

/-- Follows the segments of a path from the node at `here`, both given as names from the root. -/
def walk (fs : FileSystem) (here : List String) : List String → Except FileError (List String)
  | [] => .ok here
  | s :: rest =>
    match fs.root.at? here with
    | none => .error .missing
    | some (.file ..) => .error .notAFolder
    | some (.folder entries) =>
      if s = "" ∨ s = "." then fs.walk here rest
      else if s = ".." then fs.walk here.dropLast rest
      else if entries.any fun e => e.1 == s then fs.walk (here ++ [s]) rest
      else .error .missing

/-- Where a path starts, as names from the root. -/
def start (fs : FileSystem) (path : String) : List String :=
  if Path.isAbsolute path then [] else fs.current

/-- What a path leads to. -/
def node (fs : FileSystem) (path : String) : Except FileError Tree :=
  if path.isEmpty then .error .missing
  else
    match fs.walk (fs.start path) (Path.segments path) with
    | .ok names =>
      match fs.root.at? names with
      | some t => .ok t
      | none => .error .missing
    | .error e => .error e

/-- What a path leads to, if anything. -/
def node? (fs : FileSystem) (path : String) : Option Tree :=
  (fs.node path).toOption

/-- Whether a path leads to a file. -/
def isFile (fs : FileSystem) (path : String) : Bool :=
  (fs.node? path).any fun t => !t.isFolder

/-- Whether a path leads to a folder. -/
def isFolder (fs : FileSystem) (path : String) : Bool :=
  (fs.node? path).any Tree.isFolder

/-- The text of the file that a path leads to. -/
def readText (fs : FileSystem) (path : String) : Except FileError String :=
  match fs.node path with
  | .error e => .error e
  | .ok (.folder _) => .error .isAFolder
  | .ok (.file content _) =>
    match String.fromUTF8? content with
    | some s => .ok s
    | none => .error .notText

/-! ### Changes -/

/-- The folder to which segments lead, as names from the root, and what is in it. -/
def folderAt (fs : FileSystem) (start segments : List String) :
    Except FileError (List String × List (String × Tree)) :=
  match fs.walk start segments with
  | .error e => .error e
  | .ok names =>
    match fs.root.at? names with
    | some (.folder entries) => .ok (names, entries)
    | some (.file ..) => .error .notAFolder
    | none => .error .missing

/-- The file system with one more folder; the folder around it exists. -/
def addFolder (fs : FileSystem) (start segments : List String) : Except FileError FileSystem :=
  match segments.getLast? with
  | none => .error .alreadyThere
  | some name => do
    let (names, entries) ← fs.folderAt start segments.dropLast
    if name = "." || name = ".." || entries.any fun e => e.1 == name then .error .alreadyThere
    else return { fs with root := Tree.put (.folder []) (names ++ [name]) fs.root }

/-- The file system with a folder, and with the folders that lead to it. The segments are listed
last first. That something is there already is an error only if it is not a folder. -/
def addFolders (fs : FileSystem) (start : List String) : List String → Except FileError FileSystem
  | [] => .ok fs
  | name :: outer =>
    let segments := (name :: outer).reverse
    let unlessThere (fs : FileSystem) (e : FileError) : Except FileError FileSystem :=
      if (fs.folderAt start segments).isOk then .ok fs else .error e
    match fs.addFolder start segments with
    | .ok fs => .ok fs
    | .error .missing =>
      match fs.addFolders start outer with
      | .error e => .error e
      | .ok fs =>
        match fs.addFolder start segments with
        | .ok fs => .ok fs
        | .error e => unlessThere fs e
    | .error e => unlessThere fs e

/-- The file system with a file; the folder around it exists. A path that ends with a slash or with
dots means a folder. -/
def writeFile (fs : FileSystem) (path : String) (content : ByteArray) (modified : Int) :
    Except FileError FileSystem :=
  let segments := Path.segments path
  let named := (segments.reverse.dropWhile (· == "")).reverse
  match named.getLast? with
  | none => .error (if path.isEmpty then .missing else .isAFolder)
  | some name => do
    let (names, entries) ← fs.folderAt (fs.start path) named.dropLast
    let isFolder := (Tree.folder entries).child? name |>.any Tree.isFolder
    if name = "." || name = ".." || named.length < segments.length || isFolder then
      .error .isAFolder
    else return { fs with root := Tree.put (.file content modified) (names ++ [name]) fs.root }

/-- The file system with a file, and with the folders that lead to it. -/
def save (fs : FileSystem) (path : String) (content : ByteArray) (modified : Int) :
    Except FileError FileSystem := do
  let fs ← fs.addFolders (fs.start path) (Path.parts path).dropLast.reverse
  fs.writeFile path content modified

/-- The file system with a folder, and with the folders that lead to it. -/
def saveFolder (fs : FileSystem) (path : String) : Except FileError FileSystem :=
  fs.addFolders (fs.start path) (Path.parts path).reverse

/-- The file system without what a path leads to. -/
def remove (fs : FileSystem) (path : String) : FileSystem :=
  match fs.walk (fs.start path) (Path.segments path) with
  | .ok names => { fs with root := fs.root.remove names }
  | .error _ => fs

end FileSystem

end DslOutline
