import StatementMapper.Parameter

set_option autoImplicit false

/-! Lookups fall through the layers, innermost first; writes land in the innermost layer. -/

namespace StatementMapper

structure Scope where
  layers : List (Table String Value)
  parameter : Parameter

namespace Scope

def parameterName : String := "_parameter"

def databaseName : String := "_databaseId"

-- The name a scalar parameter has besides.
def scalarName : String := "value"

def empty : Scope := ⟨[[]], .none⟩

def set (name : String) (value : Value) (scope : Scope) : Scope :=
  match scope.layers with
  | [] => { scope with layers := [Table.put name value []] }
  | top :: below => { scope with layers := Table.put name value top :: below }

def root (parameter : Parameter) (database : Option String) : Scope :=
  let whole := parameter.toValue
  let base : Scope := ⟨[[]], parameter⟩
  let named := if parameter.isScalar then base.set scalarName whole else base
  (named.set parameterName whole).set databaseName (.ofText? database)

def push (scope : Scope) : Scope := { scope with layers := [] :: scope.layers }

def pop (scope : Scope) : Scope := { scope with layers := scope.layers.drop 1 }

def getIn? (name : String) : List (Table String Value) → Option Value
  | [] => none
  | layer :: below => (Table.get? name layer).or (getIn? name below)

def get? (name : String) (scope : Scope) : Option Value := getIn? name scope.layers

-- The value at a dotted path: from the variable its first segment names, else from the parameter object.
def resolve? (path : String) (scope : Scope) : Option Value :=
  let (head, rest) := Value.splitPath path
  match scope.get? head with
  | some value => Parameter.follow? rest value
  | none => scope.parameter.lookup? path

theorem get_set (name other : String) (value : Value) (scope : Scope) :
    (scope.set name value).get? other = if other = name then some value else scope.get? other := by
  unfold set get?
  cases scope.layers with
  | nil =>
      by_cases same : other = name
      · simp [getIn?, same, Table.get_put_same]
      · simp [getIn?, same, Table.get_put_other same, Table.get?]
  | cons top below =>
      by_cases same : other = name
      · simp [getIn?, same, Table.get_put_same]
      · simp [getIn?, same, Table.get_put_other same]

end Scope

end StatementMapper
