import StatementMapper.CommandLine.Arguments
import StatementMapper.Document.Reader
import StatementMapper.Source

set_option autoImplicit false

/-! Files come from a reading function, so that a run is a value. -/

namespace StatementMapper.CommandLine

structure Outcome where
  code : Nat
  output : String := ""
  error : String := ""
deriving DecidableEq, Repr

abbrev Files := String → Option String

def readTemplate (files : Files) (path : String) : Except String String :=
  match files path with
  | some text => .ok text
  | none => .error s!"Failed to read template '{path}'"

def parameterText (files : Files) (arguments : Render) : Except String (Option String) :=
  match arguments.parameters, arguments.parametersFile with
  | some text, _ => .ok (some text)
  | none, none => .ok none
  | none, some path =>
    match files path with
    | some text => .ok (some text)
    | none => .error s!"Failed to read parameters '{path}'"

def parameter (files : Files) (arguments : Render) : Except String Parameter := do
  match ← parameterText files arguments with
  | none => .ok .none
  | some text =>
    match Document.parse? text with
    | some document => .ok (.document document)
    | none => .error "Parameters must be valid JSON"

def compile (options : Template.Options) (path text : String) : Except String Source :=
  (Source.compile options text).mapError fun cause => path ++ ": " ++ cause.message

def aligned (n : Nat) : String :=
  let digits := toString n
  if digits.length < 2 then " " ++ digits else digits

def describeMarkers (number : Nat) : List (Mapping × Value) → String
  | [] => ""
  | (mapping, value) :: rest =>
    "  " ++ aligned number ++ ": " ++ mapping.property ++ " = " ++ value.display ++ " (" ++ value.kind.name ++ ", " ++
      mapping.mode.name ++ ")\n" ++ describeMarkers (number + 1) rest

def describe (command : Command) : String :=
  command.sql ++ "\n" ++ describeMarkers 1 (command.mappings.zip command.values)

def render (files : Files) (arguments : Render) : Except String String := do
  let parameter ← parameter files arguments
  let text ← readTemplate files arguments.template
  let source ← compile ⟨arguments.squeeze, arguments.nullable⟩ arguments.template text
  let command ← (source.command parameter arguments.database).mapError Fault.message
  .ok (describe command)

def check (files : Files) (path : String) : Except String String := do
  let text ← readTemplate files path
  let _ ← compile {} path text
  .ok (path ++ ": ok\n")

def Task.run (files : Files) : Task → Except String String
  | .render arguments => CommandLine.render files arguments
  | .check path => CommandLine.check files path

def Task.files : Task → List String
  | .render arguments => arguments.template :: arguments.parametersFile.toList
  | .check path => [path]

def run (files : Files) (arguments : List String) : Outcome :=
  match Task.parse? arguments with
  | none => { code := 2 }
  | some task =>
    match task.run files with
    | .ok output => { code := 0, output }
    | .error cause => { code := 1, error := "Error: " ++ cause ++ "\n" }

end StatementMapper.CommandLine
