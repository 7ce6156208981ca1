import StatementMapper.Command
import StatementMapper.Template.Construction
import StatementMapper.Template.Placeholder
import StatementMapper.Template.Render

set_option autoImplicit false

/-! A template without directives is rendered once, when it is compiled; any other for each parameter object. -/

namespace StatementMapper

open Template

inductive Source where
  | fixed (sql : String) (mappings : List Mapping)
  | dynamic (root : Node) (squeeze : Bool)

namespace Source

def rendered (root : Node) (start : Rendering) : Except Fault (List Char × Table String Value) :=
  match root.render start with
  | .ok (_, last) => .ok (last.draft.finish, last.draft.bindings)
  | .error cause => .error (.evaluation cause)

def placed (squeeze : Bool) (sql : List Char) : Except Fault (String × List Mapping) :=
  match bindPlaceholders squeeze sql with
  | .ok (text, mappings) => .ok (String.ofList text, mappings)
  | .error cause => .error (.template cause)

def blank : Rendering := ⟨{}, Scope.root .none none⟩

-- What a template is rendered in for a parameter object. The built-in names are bound for placeholders too.
def start (parameter : Parameter) (database : Option String) : Rendering :=
  let draft : Draft := {}
  ⟨(draft.bind Scope.parameterName parameter.toValue).bind Scope.databaseName (.ofText? database),
    Scope.root parameter database⟩

def ofNode (squeeze : Bool) (root : Node) : Except Fault Source :=
  if root.isDynamic then .ok (.dynamic root squeeze)
  else do
    let (text, _) ← rendered root blank
    let (sql, mappings) ← placed squeeze text
    .ok (.fixed sql mappings)

def plain (sql : String) : Except Fault Source := ofNode false (.static sql.toList)

def compile (options : Options) (template : String) : Except Fault Source :=
  match Node.compile options template with
  | .ok root => ofNode options.squeeze root
  | .error cause => .error (.template cause)

def isDynamic : Source → Bool
  | fixed _ _ => false
  | dynamic _ _ => true

def render (squeeze : Bool) (root : Node) (parameter : Parameter) (database : Option String) :
    Except Fault Command := do
  let (text, bindings) ← rendered root (start parameter database)
  let (sql, mappings) ← placed squeeze text
  Command.bind sql mappings parameter bindings

def command (source : Source) (parameter : Parameter) (database : Option String) : Except Fault Command :=
  match source with
  | fixed sql mappings => Command.bind sql mappings parameter []
  | dynamic root squeeze => render squeeze root parameter database

end Source

end StatementMapper
