import DslOutline.Browser

/-!
# The command line

The command takes at most one argument: a source file, whose outline is printed, or a project
folder, which is opened in the browser. Without an argument the configured project is taken.
-/

namespace DslOutline.Command

/-- What the command line asks to look at. -/
inductive Target where
  /-- Print the outline of a file. -/
  | file (path : String)
  /-- Browse the source files of a folder. -/
  | project (path : String)
deriving Repr, DecidableEq

/-- What a path is, as a target. -/
def target (fs : FileSystem) (path : String) : Target :=
  if fs.isFile path then .file path else .project path

/-- What running the command leads to. -/
inductive Run where
  /-- The program ends with an exit code, after printing these lines. -/
  | done (code : Nat) (output errors : List String)
  /-- A project is open in the browser. -/
  | browse (b : Browser)

/-- The name of the program. -/
def program : String := "ash-outline"

/-- The program ends with an error. -/
def fail (errors : List String) : Run :=
  .done 1 [] errors

/-- The program ends with an error and its causes. -/
def failWith (chain : List String) : Run :=
  match chain with
  | [] => fail []
  | e :: causes => fail (("Error: " ++ e) :: causes.map ("Caused by: " ++ ·))

/-- Prints the outline of a file. -/
def printOutline (fs : FileSystem) (c : Config) (registry : Registry) (path : String) : Run :=
  match Path.splitName? path with
  | none => failWith [path ++ " has no file name"]
  | some (folder, name) =>
    match fs.readSource folder [name] c.maxFileBytes with
    | .error e => failWith e.chain
    | .ok text =>
      .done 0 (outline registry c.heuristicFallback (Document.ofString text)).render []

/-- Opens a project. -/
def openProject (fs : FileSystem) (c : Config) (registry : Registry) (path : String)
    (origin : String) : Run :=
  match fs.checkProject path with
  | .error e =>
    fail ["Error: Project path '" ++ path ++ "'" ++ origin ++ " is invalid: " ++ e.message]
  | .ok () =>
    match Browser.open fs c registry path with
    | .error e => failWith e.chain
    | .ok b => .browse b

/-- Loads the schemas and looks at a path; `origin` says where the path came from. -/
def look (fs : FileSystem) (c : Config) (path origin : String) : Run :=
  match Registry.ofConfig fs c with
  | .error e => failWith e.chain
  | .ok registry =>
    match target fs path with
    | .file path => printOutline fs c registry path
    | .project path => openProject fs c registry path origin

/-- Runs the command with its arguments. -/
def run (env : Environment) (fs : FileSystem) (args : List String) : Run :=
  let configPath := Config.defaultPath env
  match Config.loadOrDefault env fs with
  | .error e => fail ["Error: Failed to load config file: " ++ e.message]
  | .ok c =>
    match args with
    | [path] => look fs c path ""
    | [] =>
      match c.projectPath with
      | some path => look fs c path (" from config file '" ++ configPath ++ "'")
      | none =>
        fail
          ["Error: No project path provided and none configured",
           "Usage: " ++ program ++ " <project-folder-or-file>",
           "Or set project_path in a config file at " ++ configPath]
    | _ => fail ["Usage: " ++ program ++ " [project-folder-or-file]"]

end DslOutline.Command
