/-!
# TOML values

A TOML file is a table of values. A table remembers how it came about, because that decides what
may still be added to it: a table written in braces is closed, one with a header of its own may not
get a second header, and dotted keys may only extend tables that dotted keys made.
-/

namespace DslOutline.Toml

/-- How a table came about. -/
inductive TableKind where
  /-- It has a header of its own, or is the root. -/
  | header
  /-- A longer header named it on the way. -/
  | implied
  /-- Dotted keys made it. -/
  | dotted
  /-- It was written in braces. -/
  | inline
deriving Repr, DecidableEq, Inhabited

/-- A TOML value. Floating-point numbers and dates keep their text, since nothing here computes with
them. -/
inductive Value where
  | string (s : String)
  | integer (n : Int)
  | float (text : String)
  | boolean (b : Bool)
  | dateTime (text : String)
  /-- An array written in brackets. -/
  | array (items : List Value)
  /-- An array of tables, each under a header in double brackets. -/
  | tables (items : List Value)
  | table (kind : TableKind) (fields : List (String × Value))
deriving Repr, Inhabited

namespace Value

/-- The string that a value is. -/
def string? : Value → Option String
  | string s => some s
  | _ => none

/-- The truth value that a value is. -/
def boolean? : Value → Option Bool
  | boolean b => some b
  | _ => none

/-- The items of an array, however it was written. -/
def items? : Value → Option (List Value)
  | array items => some items
  | tables items => some items
  | _ => none

end Value

/-- The named values of a table, in order. -/
abbrev Fields := List (String × Value)

/-- The value under a name. -/
def Fields.get? (fields : Fields) (name : String) : Option Value :=
  (fields.find? fun f => f.1 == name).map Prod.snd

/-- The fields with the value under a name replaced. -/
def Fields.replace (fields : Fields) (name : String) (value : Value) : Fields :=
  fields.map fun f => if f.1 == name then (name, value) else f

/-- A table under construction. -/
structure Table where
  /-- How it came about. -/
  kind : TableKind
  /-- What it holds. -/
  fields : Fields
deriving Repr, Inhabited

namespace Table

/-- The table as a value. -/
def toValue (t : Table) : Value := .table t.kind t.fields

/-- The table with one more field. -/
def push (t : Table) (name : String) (value : Value) : Table :=
  { t with fields := t.fields ++ [(name, value)] }

/-- Changes the table at the end of a path, and makes the tables on the way that do not exist yet.
With `dotted`, the path comes from a dotted key. -/
def modify (dotted : Bool) : List String → Table → (Table → Option Table) → Option Table
  | [], t, change => change t
  | name :: path, t, change =>
    match t.fields.get? name with
    | none =>
      (modify dotted path ⟨if dotted then .dotted else .implied, []⟩ change).map fun inner =>
        t.push name inner.toValue
    | some (.table kind fields) =>
      if kind = .inline ∨ (dotted ∧ kind = .header) then none
      else
        (modify dotted path ⟨kind, fields⟩ change).map fun inner =>
          { t with fields := t.fields.replace name inner.toValue }
    | some (.tables items) =>
      match items.getLast? with
      | some (.table kind fields) =>
        (modify dotted path ⟨kind, fields⟩ change).map fun inner =>
          { t with fields := t.fields.replace name (.tables (items.dropLast ++ [inner.toValue])) }
      | _ => none
    | some _ => none

/-- Adds a value under a dotted key. No name may be given twice. -/
def insert (keys : List String) (name : String) (value : Value) (t : Table) : Option Table :=
  modify true keys t fun inner =>
    if (inner.fields.get? name).isSome ∨ (!keys.isEmpty ∧ inner.kind ≠ .dotted) then none
    else some (inner.push name value)

/-- Gives the table at a path a header of its own. -/
def openHeader (path : List String) (name : String) (t : Table) : Option Table :=
  modify false path t fun parent =>
    match parent.fields.get? name with
    | none => some (parent.push name (.table .header []))
    | some (.table .implied fields) =>
      some { parent with fields := parent.fields.replace name (.table .header fields) }
    | some _ => none

/-- Starts a new table in the array of tables at a path. -/
def openElement (path : List String) (name : String) (t : Table) : Option Table :=
  modify false path t fun parent =>
    match parent.fields.get? name with
    | none => some (parent.push name (.tables [.table .header []]))
    | some (.tables items) =>
      let items := items ++ [.table .header []]
      some { parent with fields := parent.fields.replace name (.tables items) }
    | some _ => none

end Table

end DslOutline.Toml
