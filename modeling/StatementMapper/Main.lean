import StatementMapper.CommandLine

set_option autoImplicit false

namespace StatementMapper.CommandLine

def readFile? (path : String) : IO (Option String) := do
  match ← (IO.FS.readFile path).toBaseIO with
  | .ok text => return some text
  | .error _ => return none

def readFiles : List String → IO (List (String × Option String))
  | [] => return []
  | path :: rest => do
    let text ← readFile? path
    let more ← readFiles rest
    return (path, text) :: more

def requested (arguments : List String) : List String :=
  match Task.parse? arguments with
  | some task => task.files
  | none => []

end StatementMapper.CommandLine

open StatementMapper.CommandLine in
def main (arguments : List String) : IO UInt32 := do
  let texts ← readFiles (requested arguments)
  let outcome := run (fun path => (texts.lookup path).join) arguments
  IO.print outcome.output
  IO.eprint outcome.error
  return outcome.code.toUInt32
