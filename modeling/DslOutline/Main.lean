import DslOutline.Command

/-!
# The program

The program takes a picture of the files that it may need: the configuration, the schema files that
the configuration names, and the target. Everything else is `Command.run` on that picture.
-/

namespace DslOutline.Program

/-- The file system with everything on the way to a path. -/
def withPath (fs : FileSystem) (path : String) : FileSystem :=
  let segments := Path.segments path
  (List.range segments.length).foldl
    (fun fs n => (fs.saveFolder ("/".intercalate (segments.take n))).toOption.getD fs) fs

/-- The file system before anything has been looked at; relative paths start from a folder that no
absolute path leads to. -/
def unseen : FileSystem :=
  ⟨.folder [(".", .folder [])], ["."]⟩

/-- Adds what a path leads to. -/
def look (fs : FileSystem) (path : String) : IO FileSystem := do
  match ← (IO.FS.readBinFile path).toBaseIO with
  | .ok content => return ((withPath fs path).save path content 0).toOption.getD fs
  | .error (.inappropriateType ..) =>
    return ((withPath fs path).saveFolder path).toOption.getD fs
  | .error _ => return fs

/-- The runs of characters in a text that may be names of variables. -/
def possibleNames (text : String) : List String :=
  ((text.toList.splitOnP fun c => !Environment.isVariableChar c).filter (!·.isEmpty)).map
    String.ofList

/-- The variables with some names that are set. -/
def environmentOf (names : List String) : IO Environment :=
  names.filterMapM fun name => do
    return (← IO.getEnv name).map fun value => (name, value)

/-- The paths that a configuration names. -/
def configuredPaths (env : Environment) (fs : FileSystem) : List String :=
  match Config.loadOrDefault env fs with
  | .ok c => c.schemaPaths ++ c.projectPath.toList
  | .error _ => []

/-- Runs the program and gives back its exit code. -/
def run (args : List String) : IO UInt32 := do
  let home ← environmentOf ["HOME"]
  let configPath := Config.defaultPath home
  let fs ← look unseen configPath
  let env := home ++ (← environmentOf (possibleNames ((fs.readText configPath).toOption.getD "")))
  let fs ← (configuredPaths env fs ++ args).foldlM look fs
  match Command.run env fs args with
  | .done code output errors =>
    for line in output do IO.println line
    for line in errors do IO.eprintln line
    return UInt32.ofNat code
  | .browse b =>
    IO.eprintln (b.project ++ " is a folder: name one of its files to see an outline")
    return 1

end DslOutline.Program

/-- The command line. -/
def main (args : List String) : IO UInt32 :=
  DslOutline.Program.run args
