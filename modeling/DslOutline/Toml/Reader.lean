import DslOutline.Toml.Scalar

/-!
# Reading TOML

`parse?` reads a whole file. Why a file is not valid TOML makes no difference to the caller, so the
answer is an `Option`.
-/

namespace DslOutline.Toml

mutual

/-- Reads a value; arrays and tables may be nested in it as deeply as `room` says. -/
def readValue (room : Nat) : Nat → List Char → Option (Value × List Char)
  | 0, _ => none
  | fuel + 1, cs =>
    match cs with
    | '[' :: rest => if room = 0 then none else readArray (room - 1) [] fuel rest
    | '\x7b' :: rest => if room = 0 then none else readInline (room - 1) ⟨.inline, []⟩ fuel rest
    | c :: _ =>
      if c = '"' ∨ c = '\'' then
        (readString cs).map fun (s, rest) => (.string (String.ofList s), rest)
      else readScalar cs
    | [] => none

/-- Reads the rest of an array; `acc` holds the items so far, last first. A comma may stand after
the last item. -/
def readArray (room : Nat) (acc : List Value) : Nat → List Char → Option (Value × List Char)
  | 0, _ => none
  | fuel + 1, cs => do
    match ← skipTrivia (cs.length + 1) cs with
    | ']' :: rest => return (.array acc.reverse, rest)
    | cs =>
      let (v, rest) ← readValue room fuel cs
      match ← skipTrivia (rest.length + 1) rest with
      | ',' :: rest => readArray room (v :: acc) fuel rest
      | ']' :: rest => return (.array (v :: acc).reverse, rest)
      | _ => none

/-- Reads the rest of a table in braces. Lines may end anywhere but inside a key, and a comma may
stand after the last field. -/
def readInline (room : Nat) (table : Table) : Nat → List Char → Option (Value × List Char)
  | 0, _ => none
  | fuel + 1, cs => do
    match ← skipTrivia (cs.length + 1) cs with
    | '\x7d' :: rest => return (table.toValue, rest)
    | cs =>
      let ((keys, name), rest) ← readKey [] (cs.length + 1) cs
      let rest ← ['='].isPrefixOf? (← skipTrivia (rest.length + 1) rest)
      let (v, rest) ← readValue room fuel (← skipTrivia (rest.length + 1) rest)
      let table ← table.insert keys name v
      match ← skipTrivia (rest.length + 1) rest with
      | ',' :: rest => readInline room table fuel rest
      | '\x7d' :: rest => return (table.toValue, rest)
      | _ => none

end

/-- A file as far as it has been read. -/
structure FileState where
  /-- Everything read so far. -/
  root : Table := ⟨.header, []⟩
  /-- The path of the table to which fields are added. -/
  current : List String := []

/-- Reads a header after its brackets have been taken off. -/
def readHeaderKey (cs : List Char) : Option ((List String × String) × List Char) :=
  let cs := skipSpaces cs
  (readKey [] (cs.length + 1) cs).map fun (key, rest) => (key, skipSpaces rest)

/-- Reads one header or field. -/
def readStatement (s : FileState) (cs : List Char) : Option (FileState × List Char) :=
  match cs with
  | '[' :: '[' :: rest => do
    let ((path, name), rest) ← readHeaderKey rest
    let rest ← [']', ']'].isPrefixOf? rest
    let root ← s.root.openElement path name
    return (⟨root, path ++ [name]⟩, rest)
  | '[' :: rest => do
    let ((path, name), rest) ← readHeaderKey rest
    let rest ← [']'].isPrefixOf? rest
    let root ← s.root.openHeader path name
    return (⟨root, path ++ [name]⟩, rest)
  | _ => do
    let ((keys, name), rest) ← readKey [] (cs.length + 1) cs
    let rest ← ['='].isPrefixOf? (skipSpaces rest)
    let rest := skipSpaces rest
    let (v, rest) ← readValue depthLimit (rest.length + 1) rest
    let root ← Table.modify false s.current s.root (Table.insert keys name v)
    return ({ s with root := root }, rest)

/-- Reads lines until the file ends. -/
def readLines (s : FileState) : Nat → List Char → Option FileState
  | 0, _ => none
  | fuel + 1, cs => do
    let cs ← skipComment? (skipSpaces cs)
    match cs with
    | [] => return s
    | _ =>
      match readNewline? cs with
      | some rest => readLines s fuel rest
      | none =>
        let (s, rest) ← readStatement s cs
        let rest ← skipComment? (skipSpaces rest)
        match rest, readNewline? rest with
        | [], _ => return s
        | _, some rest => readLines s fuel rest
        | _, none => none

/-- The fields of a TOML file; nothing if it is not valid. A byte order mark at its start is
skipped. -/
def parse? (file : String) : Option Fields :=
  let cs := match file.toList with | '\ufeff' :: cs => cs | cs => cs
  (readLines {} (cs.length + 1) cs).map fun s => s.root.fields

end DslOutline.Toml
