import DslOutline.Charset.Property
import DslOutline.Files.Tree
import DslOutline.Toml.Reader
import DslOutline.Toml.Writer

/-!
# Configuration

The configuration is kept in a file, and the paths in it may refer to the environment.
-/

namespace DslOutline

/-!
## Expanding paths

A configured path may start with `~` for the home folder and may contain `$NAME`, `${NAME}` and
`${NAME:-default}` for variables; `$$` is a dollar sign. Variables are put in first, and what they
contain is not expanded again; a `~` that a variable brings to the front stays. If a variable is
not set and has no default, the whole path stays as it is written.
-/

/-- The variables that are set, and their values. -/
abbrev Environment := List (String × String)

namespace Environment

/-- The value of a variable, if it is set. Variables are kept as `name=value`, and the value is what
follows the name and a `=`; so a name may reach into the value as far as a `=` in it. -/
def get? (env : Environment) (name : String) : Option String :=
  env.findSome? fun v =>
    ((name ++ "=").toList.isPrefixOf? (v.1 ++ "=" ++ v.2).toList).map String.ofList

/-- The home folder. -/
def home? (env : Environment) : Option String := env.get? "HOME"

/-- The environment with a variable set. -/
def set (env : Environment) (name value : String) : Environment :=
  (name, value) :: env

/-- Whether a character may be part of a variable's name. -/
def isVariableChar (c : Char) : Bool :=
  c == '_' || isLetterOrNumber c

/-- The name and the default in a reference with braces. A default needs a name in front of it. -/
def splitDefault (body : List Char) : List Char × Option (List Char) :=
  match split [] body with
  | some ([], _) => (body, none)
  | some (name, default) => (name, some default)
  | none => (body, none)
where
  /-- The two sides of the first `:-`. -/
  split (acc : List Char) : List Char → Option (List Char × List Char)
    | ':' :: '-' :: rest => some (acc.reverse, rest)
    | c :: rest => split (c :: acc) rest
    | [] => none

/-- What a reference stands for: the variable's value, else the default; nothing if there is
neither. -/
def reference? (env : Environment) (name : List Char) (default : Option (List Char)) :
    Option (List Char) :=
  match env.get? (String.ofList name) with
  | some value => some value.toList
  | none => default

/-- Puts in the values of variables; nothing if one is not set and has no default. -/
def expandVariables (env : Environment) : Nat → List Char → Option (List Char)
  | 0, cs => some cs
  | fuel + 1, cs =>
    match cs with
    | [] => some []
    | '$' :: '\x7b' :: rest =>
      match rest.dropWhile (· != '\x7d') with
      | [] => (env.expandVariables fuel rest).map fun out => '$' :: '\x7b' :: out
      | _ :: after => do
        let (name, default) := splitDefault (rest.takeWhile (· != '\x7d'))
        let value ← env.reference? name default
        return value ++ (← env.expandVariables fuel after)
    | '$' :: '$' :: rest => (env.expandVariables fuel rest).map ('$' :: ·)
    | '$' :: rest =>
      let name := rest.takeWhile isVariableChar
      if name.isEmpty then (env.expandVariables fuel rest).map ('$' :: ·)
      else do
        let value ← env.reference? name none
        return value ++ (← env.expandVariables fuel (rest.drop name.length))
    | c :: rest => (env.expandVariables fuel rest).map (c :: ·)

/-- Puts in the home folder for a `~` that stands alone or before a slash at the start. -/
def expandHome (env : Environment) (cs : List Char) : List Char :=
  match cs with
  | '~' :: rest =>
    match env.home? with
    | some home => if rest.isEmpty || rest.head? == some '/' then home.toList ++ rest else cs
    | none => cs
  | _ => cs

/-- A path with home folder and variables put in; the path as written if that is not possible. -/
def expand (env : Environment) (path : String) : String :=
  let cs := path.toList
  match env.expandVariables (cs.length + 1) cs with
  | none => path
  | some out =>
    if cs.head? == some '~' then String.ofList (env.expandHome out) else String.ofList out

end Environment

/-!
## Settings

The configuration says which project to open, which schemas to use and which files to read. Every
field may be left out and then has its default; unknown fields are ignored. Paths are expanded when
a configuration is loaded, and saved as they are then.
-/

/-- The user's settings. -/
structure Config where
  /-- The project to open when none is named. -/
  projectPath : Option String := none
  /-- Schema files to load after the built-in schemas. -/
  schemaPaths : List String := []
  /-- Whether the built-in schemas are used. -/
  includeBuiltinSchemas : Bool := true
  /-- The extensions of source files, without the dot. -/
  fileExtensions : List String := ["ex", "exs"]
  /-- The size in bytes above which a file is not read. -/
  maxFileBytes : Nat := 2 * 1024 * 1024
  /-- Whether sections are guessed where no schema finds one. -/
  heuristicFallback : Bool := true
deriving Repr, DecidableEq, Inhabited

/-- Why a configuration cannot be loaded. -/
inductive ConfigError where
  | unreadable (path : String) (cause : FileError)
  /-- The file is not valid TOML or has a value of the wrong kind. -/
  | malformed (path : String)
deriving Repr, DecidableEq

/-- The wording of a configuration error. -/
def ConfigError.message : ConfigError → String
  | unreadable path cause => "Failed to read config file at " ++ path ++ ": " ++ cause.message
  | malformed path => "Failed to parse config file at " ++ path

namespace Config

/-! ### The file format -/

/-- The list of strings that a value is. -/
def strings? (v : Toml.Value) : Option (List String) :=
  v.items?.bind fun items => items.mapM Toml.Value.string?

/-- The size in bytes that a value is: a whole number that fits into 64 bits. -/
def size? : Toml.Value → Option Nat
  | .integer n => if 0 ≤ n ∧ n < 0x10000000000000000 then some n.toNat else none
  | _ => none

/-- A field that has a default; nothing if its value is of the wrong kind. -/
def field {α : Type} (read : Toml.Value → Option α) (default : α) (fields : Toml.Fields)
    (name : String) : Option α :=
  match fields.get? name with
  | none => some default
  | some v => read v

/-- Reads a configuration from the fields of a file. -/
def ofFields? (fields : Toml.Fields) : Option Config := do
  let base : Config := {}
  return {
    projectPath := ← field (fun v => v.string?.map some) base.projectPath fields "project_path"
    schemaPaths := ← field strings? base.schemaPaths fields "schema_paths"
    includeBuiltinSchemas :=
      ← field Toml.Value.boolean? base.includeBuiltinSchemas fields "include_builtin_schemas"
    fileExtensions := ← field strings? base.fileExtensions fields "file_extensions"
    maxFileBytes := ← field size? base.maxFileBytes fields "max_file_bytes"
    heuristicFallback :=
      ← field Toml.Value.boolean? base.heuristicFallback fields "heuristic_fallback" }

/-- Reads a configuration file. -/
def parse? (file : String) : Option Config :=
  (Toml.parse? file).bind ofFields?

/-- The configuration as a file. -/
def render (c : Config) : String :=
  (match c.projectPath with
    | some path => Toml.renderField "project_path" (Toml.renderString path)
    | none => "")
    ++ Toml.renderField "schema_paths" (Toml.renderStrings c.schemaPaths)
    ++ Toml.renderField "include_builtin_schemas" (Toml.renderBool c.includeBuiltinSchemas)
    ++ Toml.renderField "file_extensions" (Toml.renderStrings c.fileExtensions)
    ++ Toml.renderField "max_file_bytes" (toString c.maxFileBytes)
    ++ Toml.renderField "heuristic_fallback" (Toml.renderBool c.heuristicFallback)

/-! ### Loading and saving -/

/-- The configuration with its paths expanded. -/
def expandPaths (env : Environment) (c : Config) : Config :=
  { c with
    projectPath := c.projectPath.map env.expand
    schemaPaths := c.schemaPaths.map env.expand }

/-- The configuration in a file, if there is a file. -/
def load (env : Environment) (fs : FileSystem) (path : String) :
    Except ConfigError (Option Config) :=
  match fs.node? path with
  | none => .ok none
  | some _ =>
    match fs.readText path with
    | .error cause => .error (.unreadable path cause)
    | .ok file =>
      match parse? file with
      | some c => .ok (some (c.expandPaths env))
      | none => .error (.malformed path)

/-- Saves a configuration, and makes the folders that lead to its file. -/
def save (c : Config) (fs : FileSystem) (path : String) : Except FileError FileSystem :=
  fs.save path c.render.toUTF8 0

/-- Where the configuration is kept. -/
def defaultPath (env : Environment) : String :=
  Path.join (String.ofList (env.expandHome "~/.config/ash-outline".toList)) "config.toml"

/-- The configuration in its usual place, or the defaults. -/
def loadOrDefault (env : Environment) (fs : FileSystem) : Except ConfigError Config :=
  (load env fs (defaultPath env)).map fun c => c.getD {}

/-- Whether two configurations say the same; paths are compared part by part. -/
def same (a b : Config) : Bool :=
  (match a.projectPath, b.projectPath with
    | some p, some q => Path.same p q
    | none, none => true
    | _, _ => false)
    && a.schemaPaths.length == b.schemaPaths.length
    && (a.schemaPaths.zip b.schemaPaths).all (fun (p, q) => Path.same p q)
    && a.includeBuiltinSchemas == b.includeBuiltinSchemas
    && a.fileExtensions == b.fileExtensions
    && a.maxFileBytes == b.maxFileBytes
    && a.heuristicFallback == b.heuristicFallback

end Config

end DslOutline
