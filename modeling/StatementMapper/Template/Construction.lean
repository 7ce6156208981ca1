import StatementMapper.Markup.Reader
import StatementMapper.Template.Node
import StatementMapper.Template.Token

set_option autoImplicit false

namespace StatementMapper.Template

structure Options where
  -- Whether runs of white space in finished SQL become single spaces.
  squeeze : Bool := false
  -- Whether a loop that does not say so takes null for an empty collection.
  nullable : Bool := false
deriving DecidableEq, Repr

abbrev Attributes := List (String × String)

namespace Node

def required (element key : String) (attributes : Attributes) : Except TemplateFault String :=
  match Table.get? key attributes with
  | some value => .ok value
  | none => .error (.missingAttribute element key)

def expressionOf (element key : String) (attributes : Attributes) : Except TemplateFault Expression := do
  let source ← required element key attributes
  Expression.parse source

def truthFlag? (flag : String) : Option Bool :=
  match Text.trimmed flag with
  | "true" => some true
  | "false" => some false
  | _ => none

def nullableOf (options : Options) (attributes : Attributes) : Except TemplateFault Bool :=
  match Table.get? "nullable" attributes with
  | none => .ok options.nullable
  | some flag =>
    match truthFlag? flag with
    | some nullable => .ok nullable
    | none => .error (.nullableFlag flag)

def loopHead (attributes : Attributes) (nullable : Bool) (collection : Expression) : Loop where
  collection := collection
  item := Table.get? "item" attributes
  index := Table.get? "index" attributes
  opening := (Table.get? "open" attributes).getD ""
  closing := (Table.get? "close" attributes).getD ""
  separator := (Table.get? "separator" attributes).getD ""
  nullable := nullable

def trimmingOf (attributes : Attributes) : Trimming where
  before := Table.get? "prefix" attributes
  after := Table.get? "suffix" attributes
  leading := Trimming.overrides (Table.get? "prefixOverrides" attributes)
  trailing := Trimming.overrides (Table.get? "suffixOverrides" attributes)

def partsOf : List Segment → Except TemplateFault (List Part)
  | [] => .ok []
  | .literal content :: rest => do
    let more ← partsOf rest
    .ok (.literal content :: more)
  | .token content :: rest => do
    let expression ← Expression.parse (String.ofList content)
    let more ← partsOf rest
    .ok (.substitution expression :: more)

def literalsOf : List Segment → List Char
  | [] => []
  | .literal content :: rest => content ++ literalsOf rest
  | .token content :: rest => content ++ literalsOf rest

def ofText (content : List Char) : Except TemplateFault Node :=
  let segments := Delimiters.substitution.segments content
  if segments.any Segment.isToken then (partsOf segments).map Node.text
  else
    let plain := literalsOf segments
    .ok (if Delimiters.placeholder.hasTokens plain then .parameterized plain else .static plain)

abbrev Branches := List (Expression × Node) × List Node

def choice (branches : Branches) : Except TemplateFault Node :=
  match branches.2 with
  | [] => .ok (.choose branches.1 none)
  | [fallback] => .ok (.choose branches.1 (some fallback))
  | _ => .error .severalDefaults

mutual
def ofMarkup (options : Options) (markup : Markup) : Except TemplateFault Node :=
  match markup with
  | .text content => ofText content.toList
  | .element name attributes children =>
    match name with
    | "if" => do
      let test ← expressionOf name "test" attributes
      let body ← ofChildren options children
      .ok (.when test (.sequence body))
    | "choose" => do
      let branches ← ofBranches options children
      choice branches
    | "trim" => do
      let body ← ofChildren options children
      .ok (.trim .trim (trimmingOf attributes) (.sequence body))
    | "where" => do
      let body ← ofChildren options children
      .ok (.trim .where .whereClause (.sequence body))
    | "set" => do
      let body ← ofChildren options children
      .ok (.trim .set .setClause (.sequence body))
    | "foreach" => do
      let nullable ← nullableOf options attributes
      let body ← ofChildren options children
      let collection ← expressionOf name "collection" attributes
      .ok (.loop (loopHead attributes nullable collection) (.sequence body))
    | "bind" => do
      let target ← required name "name" attributes
      let value ← expressionOf name "value" attributes
      .ok (.bind target value)
    | _ => .error (.unknownElement name)
def ofChildren (options : Options) (children : List Markup) : Except TemplateFault (List Node) :=
  match children with
  | [] => .ok []
  | child :: rest => do
    let node ← ofMarkup options child
    let more ← ofChildren options rest
    .ok (node :: more)
-- The branches and the defaults of a choice; text between them carries no meaning.
def ofBranches (options : Options) (children : List Markup) : Except TemplateFault Branches :=
  match children with
  | [] => .ok ([], [])
  | .text _ :: rest => ofBranches options rest
  | .element name attributes body :: rest =>
    match name with
    | "when" | "if" => do
      let test ← expressionOf name "test" attributes
      let nodes ← ofChildren options body
      let (branches, defaults) ← ofBranches options rest
      .ok ((test, .sequence nodes) :: branches, defaults)
    | "otherwise" => do
      let nodes ← ofChildren options body
      let (branches, defaults) ← ofBranches options rest
      .ok (branches, .sequence nodes :: defaults)
    | _ => .error (.unknownBranch name)
end

def isBlankText : Markup → Bool
  | .text content => Text.allBlank content.toList
  | .element _ _ _ => false

def unwrap (nodes : List Markup) : List Markup :=
  match nodes.filter (!isBlankText ·) with
  | [.element "script" _ children] => children
  | _ => nodes

def compile (options : Options) (source : String) : Except TemplateFault Node := do
  let nodes ← Markup.parse source
  let children ← ofChildren options (unwrap nodes)
  .ok (.sequence children)

end Node

end StatementMapper.Template
