import StatementMapper.Text.Search

set_option autoImplicit false

namespace StatementMapper.CommandLine

structure Render where
  template : String
  parameters : Option String := none
  parametersFile : Option String := none
  database : Option String := none
  squeeze : Bool := false
  nullable : Bool := false
deriving DecidableEq, Repr

inductive Task where
  | render (arguments : Render)
  | check (template : String)
deriving DecidableEq, Repr

structure Given where
  plain : List String := []
  flags : List String := []
  values : List (String × String) := []

namespace Given

def hasFlag (name : String) (given : Given) : Bool := given.flags.contains name

def value? (name : String) (given : Given) : Option String :=
  (given.values.find? fun entry => entry.1 = name).map Prod.snd

def addFlag? (name : String) (given : Given) : Option Given :=
  if given.hasFlag name then none else some { given with flags := name :: given.flags }

def addValue? (name value : String) (given : Given) : Option Given :=
  if (given.value? name).isSome then none else some { given with values := (name, value) :: given.values }

def addPlain (argument : String) (given : Given) : Given := { given with plain := given.plain ++ [argument] }

end Given

structure Options where
  flags : List String
  values : List String

def isOption (argument : String) : Bool :=
  match argument.toList with
  | '-' :: _ :: _ => true
  | _ => false

def splitOption (argument : String) : String × Option String :=
  let (name, value) := Text.splitFirst '=' argument.toList
  (String.ofList name, value.map String.ofList)

def collect? (options : Options) (given : Given) : List String → Option Given
  | [] => some given
  | "--" :: rest => some { given with plain := given.plain ++ rest }
  | argument :: rest =>
    if isOption argument then
      let (name, value) := splitOption argument
      if options.flags.contains name then
        match value with
        | none => (given.addFlag? name).bind fun next => collect? options next rest
        | some _ => none
      else if options.values.contains name then
        match value, rest with
        | some value, rest => (given.addValue? name value).bind fun next => collect? options next rest
        | none, value :: more =>
          if isOption value then none
          else (given.addValue? name value).bind fun next => collect? options next more
        | none, [] => none
      else none
    else collect? options (given.addPlain argument) rest

def path? (text : String) : Option String := if text.isEmpty then none else some text

def template? (given : Given) : Option String :=
  match given.plain with
  | [template] => path? template
  | _ => none

def renderOptions : Options where
  flags := ["--shrink", "--nullable-foreach"]
  values := ["--params", "--params-file", "--database-id"]

def render? (arguments : List String) : Option Render := do
  let given ← collect? renderOptions {} arguments
  let template ← template? given
  let parameters := given.value? "--params"
  let file := given.value? "--params-file"
  if parameters.isSome && file.isSome then none
  else if file = some "" then none
  else some {
    template := template
    parameters := parameters
    parametersFile := file
    database := given.value? "--database-id"
    squeeze := given.hasFlag "--shrink"
    nullable := given.hasFlag "--nullable-foreach" }

def Task.parse? : List String → Option Task
  | "render" :: rest => (render? rest).map Task.render
  | "check" :: rest => ((collect? ⟨[], []⟩ {} rest).bind template?).map Task.check
  | _ => none

end StatementMapper.CommandLine
