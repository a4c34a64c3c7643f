import DslOutline.Config.Basic
import DslOutline.Schema.Basic

/-!
# The schemas in use

Some schemas are built in, others come from files that the configuration lists.
-/

namespace DslOutline

/-!
## Built-in schemas

The schemas for the Ash framework and its common extensions. Patterns are applied to what follows
the keyword on its line.
-/

namespace Builtin

/-! ### Patterns -/

/-- The first argument, if it is an atom. -/
def atomArgument : String :=
  r"^\s*\(?\s*(:[A-Za-z_][\w?!]*)"

/-- The second argument, after an atom. -/
def secondArgument : String :=
  r"^\s*\(?\s*:[A-Za-z_][\w?!]*\s*,\s*([^,\s)]+)"

/-- The first argument, if it is a string. -/
def stringArgument : String :=
  r#"^\s*\(?\s*("[^"]*")"#

/-- The second argument, if it is an atom after an atom. -/
def secondAtom : String :=
  r"^\s*\(?\s*:[A-Za-z_][\w?!]*\s*,\s*(:[A-Za-z_][\w?!]*)"

/-- The first argument, whatever it is. -/
def anyArgument : String :=
  r"^\s*\(?\s*([^,(]+)"

/-- The first argument, if it is a module. -/
def moduleArgument : String :=
  r"^\s*\(?\s*([A-Z][\w.]*)"

/-- All that stands before the `do` at the end of the line. -/
def blockHead : String :=
  r"^\s*(.+?)\s+do\s*$"

/-- The first argument, if it is a list. -/
def listArgument : String :=
  r"^\s*\(?\s*(\[[^\]]*\])"

/-- The second argument, if it is a list after an atom. -/
def secondList : String :=
  r"^\s*\(?\s*:[A-Za-z_][\w?!]*\s*,\s*(\[[^\]]*\])"

/-- The atom given as `action`. -/
def actionOption : String :=
  r"action:\s*(:[A-Za-z_][\w?!]*)"

/-- The atom given as `calculation`. -/
def calculationOption : String :=
  r"calculation:\s*(:[A-Za-z_][\w?!]*)"

/-- The first argument, if it is a truth value. -/
def flagArgument : String :=
  r"^\s*\(?\s*(true|false)"

/-- The first argument, if it is an atom or a list. -/
def atomOrListArgument : String :=
  r"^\s*\(?\s*(:[A-Za-z_][\w?!]*|\[[^\]]*\])"

/-- The atom or list given as `to`. -/
def targetOption : String :=
  r"to:\s*(:[A-Za-z_][\w?!]*|\[[^\]]*\])"

/-- An entry whose name a pattern finds. -/
def entry (keyword namePattern : String) : ChildDef :=
  { keyword := keyword, namePattern := some namePattern }

/-- An entry that is known by its keyword alone. -/
def bare (keyword : String) : ChildDef :=
  { keyword := keyword }

/-- The entry as one that defines its name. -/
def defines (d : ChildDef) : ChildDef :=
  { d with definition := true }

/-- The entry with a pattern for its detail. -/
def withDetail (detailPattern : String) (d : ChildDef) : ChildDef :=
  { d with detailPattern := some detailPattern }

/-- The entry as one that refers to a definition of another section by its own name. -/
def refersTo (target : String) (d : ChildDef) : ChildDef :=
  { d with references := some target }

/-- The entry as one that refers to a definition of another section by a name that a pattern
finds. -/
def refersBy (target referencePattern : String) (d : ChildDef) : ChildDef :=
  { d with references := some target, referencePattern := some referencePattern }

/-! ### Schemas -/

/-- Modules that use `Ash.Resource`. -/
def ashResource : SchemaDef :=
  { name := "Ash Resource"
    declarationPattern := "Ash.Resource"
    sections := [
      { name := "resource"
        children := [
          entry "description" stringArgument,
          entry "short_name" atomArgument,
          entry "plural_name" atomArgument] },
      { name := "attributes"
        children := [
          entry "attribute" atomArgument |> withDetail secondArgument |> defines,
          entry "uuid_primary_key" atomArgument |> defines,
          entry "uuid_v7_primary_key" atomArgument |> defines,
          entry "integer_primary_key" atomArgument |> defines,
          entry "create_timestamp" atomArgument |> defines,
          entry "update_timestamp" atomArgument |> defines,
          bare "timestamps"] },
      { name := "relationships"
        children := [
          entry "belongs_to" atomArgument |> withDetail secondArgument |> defines,
          entry "has_one" atomArgument |> withDetail secondArgument |> defines,
          entry "has_many" atomArgument |> withDetail secondArgument |> defines,
          entry "many_to_many" atomArgument |> withDetail secondArgument |> defines] },
      { name := "actions"
        children := [
          bare "defaults",
          bare "default_accept",
          entry "create" atomArgument |> defines,
          entry "read" atomArgument |> defines,
          entry "update" atomArgument |> defines,
          entry "destroy" atomArgument |> defines,
          entry "action" atomArgument |> withDetail secondArgument |> defines] },
      { name := "calculations"
        children := [
          entry "calculate" atomArgument |> withDetail secondArgument |> defines] },
      { name := "aggregates"
        children := [
          entry "count" atomArgument |> withDetail secondArgument |> defines,
          entry "exists" atomArgument |> withDetail secondArgument |> defines,
          entry "first" atomArgument |> withDetail secondArgument |> defines,
          entry "sum" atomArgument |> withDetail secondArgument |> defines,
          entry "list" atomArgument |> withDetail secondArgument |> defines,
          entry "max" atomArgument |> defines,
          entry "min" atomArgument |> defines,
          entry "avg" atomArgument |> defines] },
      { name := "identities"
        children := [
          entry "identity" atomArgument |> withDetail secondList |> defines] },
      { name := "code_interface"
        children := [
          entry "define" atomArgument |> refersBy "actions" actionOption,
          entry "define_calculation" atomArgument |> refersBy "calculations" calculationOption] },
      { name := "validations"
        children := [
          entry "validate" anyArgument] },
      { name := "changes"
        children := [
          entry "change" anyArgument] },
      { name := "preparations"
        children := [
          entry "prepare" anyArgument] },
      { name := "pub_sub"
        children := [
          entry "prefix" stringArgument,
          entry "publish" atomArgument |> refersTo "actions",
          entry "publish_all" atomArgument] },
      { name := "multitenancy"
        children := [
          entry "strategy" atomArgument,
          entry "attribute" atomArgument] }] }

/-- Modules that use `Ash.Domain`. -/
def ashDomain : SchemaDef :=
  { name := "Ash Domain"
    declarationPattern := "Ash.Domain"
    sections := [
      { name := "resources"
        diagram := some "ash.generate_resource_diagrams"
        children := [
          entry "resource" moduleArgument |> defines] },
      { name := "authorization"
        children := [
          entry "authorize" atomArgument,
          entry "require_actor?" flagArgument] }] }

/-- Modules that use `Ash.Policy.Authorizer`. -/
def ashPolicyAuthorizer : SchemaDef :=
  { name := "Ash Policy Authorizer"
    declarationPattern := "Ash.Policy.Authorizer"
    sections := [
      { name := "policies"
        diagram := some "ash.generate_policy_charts"
        children := [
          entry "policy" blockHead,
          entry "bypass" blockHead,
          entry "policy_group" blockHead] },
      { name := "field_policies"
        children := [
          entry "field_policy" atomOrListArgument] }] }

/-- Modules that use `AshPostgres.DataLayer`. -/
def ashPostgresDataLayer : SchemaDef :=
  { name := "AshPostgres Data Layer"
    declarationPattern := "AshPostgres.DataLayer"
    sections := [
      { name := "postgres"
        children := [
          entry "table" stringArgument,
          entry "repo" moduleArgument,
          entry "schema" stringArgument,
          entry "reference" atomArgument |> refersTo "relationships",
          entry "index" listArgument] }] }

/-- Modules that use `AshGraphql.Resource`. -/
def ashGraphqlResource : SchemaDef :=
  { name := "AshGraphql Resource"
    declarationPattern := "AshGraphql.Resource"
    sections := [
      { name := "graphql"
        children := [
          entry "type" atomArgument,
          entry "get" atomArgument |> refersBy "actions" secondAtom,
          entry "list" atomArgument |> refersBy "actions" secondAtom,
          entry "create" atomArgument |> refersBy "actions" secondAtom,
          entry "update" atomArgument |> refersBy "actions" secondAtom,
          entry "destroy" atomArgument |> refersBy "actions" secondAtom,
          entry "action" atomArgument |> refersBy "actions" secondAtom] }] }

/-- Modules that use `AshJsonApi.Resource`. -/
def ashJsonApiResource : SchemaDef :=
  { name := "AshJsonApi Resource"
    declarationPattern := "AshJsonApi.Resource"
    sections := [
      { name := "json_api"
        children := [
          entry "type" stringArgument,
          entry "base" stringArgument,
          entry "get" atomArgument |> refersTo "actions",
          entry "index" atomArgument |> refersTo "actions",
          entry "post" atomArgument |> refersTo "actions",
          entry "patch" atomArgument |> refersTo "actions",
          entry "delete" atomArgument |> refersTo "actions"] }] }

/-- Modules that use `AshStateMachine`. -/
def ashStateMachine : SchemaDef :=
  { name := "Ash State Machine"
    declarationPattern := "AshStateMachine"
    sections := [
      { name := "state_machine"
        diagram := some "ash_state_machine.generate_flow_charts"
        children := [
          entry "initial_states" listArgument,
          entry "default_initial_state" atomArgument,
          entry "transition" atomArgument |> withDetail targetOption |> refersTo "actions"] }] }

/-- Modules that use `AshAuthentication`. -/
def ashAuthentication : SchemaDef :=
  { name := "Ash Authentication"
    declarationPattern := "AshAuthentication"
    sections := [
      { name := "authentication"
        children := [
          entry "password" atomArgument |> defines,
          entry "magic_link" atomArgument |> defines,
          entry "api_key" atomArgument |> defines,
          entry "oauth2" atomArgument |> defines,
          entry "token_resource" moduleArgument] }] }

/-- All built-in schemas, in the order in which they are looked up. -/
def definitions : List SchemaDef :=
  [ashResource, ashDomain, ashPolicyAuthorizer, ashPostgresDataLayer, ashGraphqlResource,
   ashJsonApiResource, ashStateMachine, ashAuthentication]

end Builtin

/-- The registry of the built-in schemas. -/
def Registry.builtin : Except SchemaError Registry :=
  ofDefinitions Builtin.definitions

/-!
## Loading schemas

The schemas in use are the built-in ones, unless they are switched off, followed by those of each
configured schema file.
-/

/-- Why the configured schemas cannot be used. -/
inductive LoadError where
  /-- A schema file is faulty. -/
  | file (path : String) (cause : SchemaError)
  /-- The schemas of a file clash with earlier ones. -/
  | clash (cause : SchemaError)
deriving Repr, DecidableEq

namespace SchemaError

/-- The wording of the error and of what caused it. -/
def chain (e : SchemaError) : List String :=
  match e with
  | unreadable _ cause => [e.message, cause]
  | _ => [e.message]

/-- Whether the error comes with an explanation of what is wrong with a text. -/
def hasExplanation : SchemaError → Bool
  | invalidPattern .. => true
  | malformed => true
  | _ => false

end SchemaError

namespace LoadError

/-- The schema error behind a load error. -/
def cause : LoadError → SchemaError
  | file _ cause => cause
  | clash cause => cause

/-- The wording of the error and of what caused it. -/
def chain : LoadError → List String
  | file path cause => ("loading schemas from " ++ path) :: cause.chain
  | clash cause => cause.chain

end LoadError

namespace Registry

/-- The registry of a schema file. -/
def loadFile (fs : FileSystem) (path : String) : Except SchemaError Registry :=
  match fs.readText path with
  | .error e => .error (.unreadable path e.message)
  | .ok file => ofToml file

/-- Adds the schemas of files one after the other. -/
def loadFiles (fs : FileSystem) (r : Registry) : List String → Except LoadError Registry
  | [] => .ok r
  | path :: paths =>
    match loadFile fs path with
    | .error e => .error (.file path e)
    | .ok extra =>
      match r.merged extra with
      | .error e => .error (.clash e)
      | .ok r => loadFiles fs r paths

/-- The registry that a configuration asks for. -/
def ofConfig (fs : FileSystem) (c : Config) : Except LoadError Registry :=
  if c.includeBuiltinSchemas then
    match builtin with
    | .ok r => loadFiles fs r c.schemaPaths
    | .error e => .error (.clash e)
  else loadFiles fs empty c.schemaPaths

end Registry

end DslOutline
