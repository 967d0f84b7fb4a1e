set_option autoImplicit false

/-! Command lines. A flag takes its value from the text after an equals sign or from the argument
after it; arguments that belong to no flag are not accepted. -/

namespace UniversalQuery.CommandLine

/-- What a query is compiled for. -/
inductive Target where
  | relational
  | document
deriving DecidableEq, Repr

def Target.ofName? (name : String) : Option Target :=
  if name = "postgres" then some .relational
  else if name = "mongo" then some .document
  else none

/-- What is done with the target table. -/
inductive Operation where
  | select
  | count
  | insert
  | update
  | remove
deriving DecidableEq, Repr

namespace Operation

def all : List Operation := [.select, .count, .insert, .update, .remove]

def name : Operation → String
  | .select => "select"
  | .count => "count"
  | .insert => "insert"
  | .update => "update"
  | .remove => "remove"

def ofName? (name : String) : Option Operation :=
  all.find? (·.name == name)

def needsQuery : Operation → Bool
  | .insert => false
  | _ => true

def needsData : Operation → Bool
  | .insert | .update => true
  | _ => false

end Operation

/-- A query to compile. -/
structure Request where
  model : String
  target : Target
  operation : Operation
  /-- The file of the query, which is read from the standard input otherwise. -/
  query : Option String
  data : Option String
  table : Option String
deriving Repr

/-- What a command line asks for. -/
inductive Command where
  | transpile (request : Request)
  | validate (models : List String)
  | types
deriving Repr

/-! ## Flags -/

/-- A flag with a value. -/
structure Flag where
  name : String
  /-- Whether it takes all arguments up to the next flag, and may be repeated. -/
  isMany : Bool
  /-- Whether its value may be the empty text. -/
  mayBeEmpty : Bool
deriving DecidableEq, Repr

/-- The arguments read so far. -/
structure Settings where
  /-- The values of flags, in order. -/
  values : List (Flag × String)
  /-- The flag that takes the next argument. -/
  taking : Option Flag
  /-- Whether that flag has a value already. -/
  satisfied : Bool

namespace Settings

def empty : Settings := ⟨[], none, true⟩

/-- Ends the values of the last flag, which has to have one. -/
def finish (settings : Settings) : Option Settings :=
  if settings.satisfied then some { settings with taking := none } else none

/-- Gives a value to a flag. One that is not for many values takes only one. -/
def give (settings : Settings) (flag : Flag) (value : String) : Option Settings :=
  if (value = "" ∧ !flag.mayBeEmpty) ∨ (!flag.isMany ∧ settings.values.any (·.1 == flag)) then none
  else some { settings with values := settings.values ++ [(flag, value)] }

def valuesOf (settings : Settings) (flag : Flag) : List String :=
  (settings.values.filter (·.1 == flag)).map Prod.snd

def value? (settings : Settings) (flag : Flag) : Option String :=
  (settings.valuesOf flag).head?

end Settings

/-- Whether an argument asks for more messages, by letters or by name. -/
def isVerbosity (argument : String) : Bool :=
  match argument.toList with
  | '-' :: 'v' :: rest => rest.all (· == 'v')
  | _ => argument == "--verbose"

def longFlag? (argument : String) : Option (String × Option String) :=
  match argument.toList with
  | '-' :: '-' :: rest =>
    let name := String.ofList (rest.takeWhile (· != '='))
    match rest.dropWhile (· != '=') with
    | [] => some (name, none)
    | _ :: value => some (name, some (String.ofList value))
  | _ => none

/-- Whether an argument looks like a flag. A single dash does not. -/
def looksLikeFlag (argument : String) : Bool :=
  match argument.toList with
  | '-' :: _ :: _ => true
  | _ => false

/-- Reads the arguments of a command. After two dashes nothing may follow. -/
def readSettings (flags : List Flag) : Settings → List String → Option Settings
  | settings, [] => settings.finish
  | settings, argument :: rest =>
    if argument = "--" then if rest = [] then settings.finish else none
    else if isVerbosity argument then do
      let settings ← settings.finish
      readSettings flags settings rest
    else if looksLikeFlag argument then do
      let settings ← settings.finish
      let (name, value) ← longFlag? argument
      let flag ← flags.find? (·.name == name)
      match value with
      | some value =>
        let settings ← settings.give flag value
        readSettings flags settings rest
      | none => readSettings flags { settings with taking := some flag, satisfied := false } rest
    else do
      let flag ← settings.taking
      let settings ← settings.give flag argument
      readSettings flags
        { settings with taking := if flag.isMany then some flag else none, satisfied := true } rest

/-! ## Commands -/

namespace Flag

def model : Flag := ⟨"model", false, false⟩

def models : Flag := ⟨"model", true, false⟩

def target : Flag := ⟨"target", false, true⟩

def operation : Flag := ⟨"op", false, true⟩

def query : Flag := ⟨"query", false, false⟩

def data : Flag := ⟨"data", false, false⟩

def table : Flag := ⟨"table", false, true⟩

end Flag

def Request.ofArguments? (arguments : List String) : Option Request := do
  let settings ←
    readSettings [.model, .target, .operation, .query, .data, .table] .empty arguments
  let model ← settings.value? .model
  let target ← Target.ofName? ((settings.value? .target).getD "postgres")
  let operation ← Operation.ofName? ((settings.value? .operation).getD "select")
  some ⟨model, target, operation, settings.value? .query, settings.value? .data,
    settings.value? .table⟩

/-- The command of a command line. Flags for more messages may stand in front of its name. -/
def Command.ofArguments? : List String → Option Command
  | [] => none
  | argument :: rest =>
    if isVerbosity argument then ofArguments? rest
    else if argument = "transpile" then (Request.ofArguments? rest).map .transpile
    else if argument = "validate" then do
      let settings ← readSettings [.models] .empty rest
      match settings.valuesOf .models with
      | [] => none
      | models => some (.validate models)
    else if argument = "types" then (readSettings [] .empty rest).map fun _ => .types
    else none

end UniversalQuery.CommandLine
