import StatementMapper.Document.Reader
import StatementMapper.Settings

set_option autoImplicit false

/-! Unknown fields of an object do not count; a known one that is written twice is refused. -/

namespace StatementMapper.Settings

def textOf? : Document → Option String
  | .text s => some s
  | _ => none

def flagOf? : Document → Option Bool
  | .boolean b => some b
  | _ => none

def numberOf? (bound : Nat) : Document → Option Nat
  | .integer (.ofNat n) => if n < bound then some n else none
  | _ => none

def optional? {A : Type} (read? : Document → Option A) : Document → Option (Option A)
  | .null => some none
  | document => (read? document).map some

def scopeOfName? : String → Option LocalScope
  | "SESSION" => some .session
  | "STATEMENT" => some .statement
  | _ => none

-- A scope by its name, which may also be the only field of an object that holds null.
def scopeOf? : Document → Option LocalScope
  | .text name => scopeOfName? name
  | .object [(name, .null)] => scopeOfName? name
  | _ => none

def fieldNames : List String :=
  ["environment_id", "database_id", "cache_enabled", "local_cache_scope", "default_statement_timeout",
    "default_fetch_size", "shrink_whitespaces_in_sql", "nullable_on_for_each"]

-- The settings with one field read; an unknown field leaves them as they are.
def withField? (settings : Settings) (name : String) (document : Document) : Option Settings :=
  match name with
  | "environment_id" => (textOf? document).map fun environment => { settings with environment }
  | "database_id" => (optional? textOf? document).map fun database => { settings with database }
  | "cache_enabled" => (flagOf? document).map fun sharing => { settings with sharing }
  | "local_cache_scope" => (scopeOf? document).map fun localScope => { settings with localScope }
  | "default_statement_timeout" =>
    (optional? (numberOf? Word.bound64) document).map fun timeout => { settings with timeout }
  | "default_fetch_size" =>
    (optional? (numberOf? Word.bound32) document).map fun fetchSize => { settings with fetchSize }
  | "shrink_whitespaces_in_sql" => (flagOf? document).map fun squeeze => { settings with squeeze }
  | "nullable_on_for_each" => (flagOf? document).map fun nullable => { settings with nullable }
  | _ => some settings

def withFields? (settings : Settings) : List (String × Document) → Option Settings
  | [] => some settings
  | (name, document) :: rest => (settings.withField? name document).bind fun next => next.withFields? rest

def repeats (fields : List (String × Document)) : Bool :=
  fieldNames.any fun name => (fields.filter fun field => field.1 = name).length > 1

def ofDocument? : Document → Option Settings
  | .object fields => if repeats fields then none else withFields? {} fields
  | .array items => if items.length > fieldNames.length then none else withFields? {} (fieldNames.zip items)
  | _ => none

def read (source : String) : Except Fault Settings :=
  match (Document.parse? source).bind ofDocument? with
  | none => .error (.settings .unreadable)
  | some settings => settings.validate.map fun _ => settings

end StatementMapper.Settings
