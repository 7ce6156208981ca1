import StatementMapper.Template.Node
import StatementMapper.Template.Draft
import StatementMapper.Template.Token

set_option autoImplicit false

/-! The answer of a rendering says whether a node contributed, which decides between the branches of a choice. -/

namespace StatementMapper.Template

structure Rendering where
  draft : Draft
  scope : Scope

-- The outcome of rendering a node: whether it contributed, and what is carried on.
abbrev Rendered := Except EvaluationFault (Bool × Rendering)

namespace Rendering

def append (fragment : List Char) (r : Rendering) : Rendering := { r with draft := r.draft.append fragment }

def bind (name : String) (value : Value) (r : Rendering) : Rendering :=
  ⟨r.draft.bind name value, r.scope.set name value⟩

end Rendering

namespace Loop

def entries? : Value → Option (List (Value × Value))
  | .list items => some (items.mapIdx fun position item => (.integer (Int64.ofNat position), item))
  | .map fields => some (fields.map fun field => (.text field.1, field.2))
  | _ => none

def boundName (name : String) (number : Nat) : String := "__frch_" ++ name ++ "_" ++ toString number

-- Whether what follows a variable's name in a placeholder leaves it the whole first segment.
def endsName : List Char → Bool
  | [] => true
  | c :: _ => c == '.' || c == ',' || c == ':' || Text.isBlank c

-- The content of a placeholder with the loop variable at its front renamed, if it is there.
def rename? (name : String) (number : Nat) (content : List Char) : Option (List Char) :=
  match Text.after? name.toList (Text.trimStart content) with
  | some rest => if endsName rest then some ((boundName name number).toList ++ rest) else none
  | none => none

def renameBy (named? : Option String) (number : Nat) (content : List Char) : List Char :=
  match named? with
  | some name => (rename? name number content).getD content
  | none => content

def itemize (head : Loop) (number : Nat) (body : List Char) : List Char :=
  Delimiters.placeholder.mapTokens (fun content => renameBy head.index number (renameBy head.item number content)) body

def introduce (named? : Option String) (number : Nat) (value : Value) (r : Rendering) : Rendering :=
  match named? with
  | some name => ⟨r.draft.bind (boundName name number) value, r.scope.set name value⟩
  | none => r

def separated (head : Loop) (bodies : List (List Char)) : List Char :=
  head.separator.toList.intercalate (bodies.filter (!Text.allBlank ·))

def iterate (head : Loop) (body : Rendering → Rendered) :
    List (Value × Value) → Rendering → Except EvaluationFault (List (List Char) × Rendering)
  | [], r => .ok ([], r)
  | (index, item) :: rest, r => do
    let (number, draft) := r.draft.fresh
    let inner := introduce head.index number index
      (introduce head.item number item ⟨draft.aside, r.scope.push⟩)
    let (_, after) ← body inner
    let (more, last) ← iterate head body rest ⟨r.draft.resume after.draft, r.scope⟩
    .ok (itemize head number after.draft.sql :: more, last)

-- Null is refused unless the loop takes it for empty; an empty collection contributes without output.
def render (head : Loop) (body : Rendering → Rendered) (collection : Value) (r : Rendering) : Rendered :=
  match entries? collection with
  | none =>
    if !collection.isNull then .error (.notIterable head.collection.source collection.kind)
    else if head.nullable then .ok (true, r)
    else .error (.nullCollection head.collection.source)
  | some [] => .ok (true, r)
  | some entries => do
    let (bodies, after) ← iterate head body entries r
    .ok (true, after.append (head.opening.toList ++ separated head bodies ++ head.closing.toList))

end Loop

def Part.render (scope : Scope) : Part → Except EvaluationFault (List Char)
  | literal text => .ok text
  | substitution expression =>
    (expression.evaluate scope).map fun value => if value.isNull then [] else value.display.toList

def Part.renderAll (scope : Scope) : List Part → Except EvaluationFault (List Char)
  | [] => .ok []
  | part :: rest => do
    let text ← part.render scope
    let more ← renderAll scope rest
    .ok (text ++ more)

def Trimming.close (t : Trimming) (outer : Draft) (inner : Rendering) : Rendering :=
  let body := Text.trim inner.draft.sql
  let draft := outer.resume inner.draft
  ⟨if body.isEmpty then draft else draft.append (t.decorate body), inner.scope⟩

namespace Node

mutual
def render (node : Node) (r : Rendering) : Rendered :=
  match node with
  | static content => .ok (true, r.append content)
  | parameterized content => .ok (true, r.append content)
  | text parts => do
    let content ← Part.renderAll r.scope parts
    .ok (true, r.append content)
  | when test body => do
    let holds ← test.holds r.scope
    if holds then
      let (_, after) ← body.render r
      .ok (true, after)
    else .ok (false, r)
  | choose branches otherwise => do
    let (chosen, after) ← renderFirst branches r
    if chosen then .ok (true, after)
    else match otherwise with
      | some fallback =>
        let (_, last) ← fallback.render after
        .ok (true, last)
      | none => .ok (false, after)
  | trim _ trimming body => do
    let (contributed, inner) ← body.render ⟨r.draft.aside, r.scope⟩
    .ok (contributed, trimming.close r.draft inner)
  | loop head body => do
    let collection ← head.collection.evaluate r.scope
    head.render body.render collection r
  | bind name value => do
    let found ← value.evaluate r.scope
    .ok (true, r.bind name found)
  | sequence children => do
    let after ← renderAll children r
    .ok (true, after)
def renderAll (children : List Node) (r : Rendering) : Except EvaluationFault Rendering :=
  match children with
  | [] => .ok r
  | child :: rest => do
    let (_, after) ← child.render r
    renderAll rest after
def renderFirst (branches : List (Expression × Node)) (r : Rendering) : Rendered :=
  match branches with
  | [] => .ok (false, r)
  | (test, body) :: rest => do
    let holds ← test.holds r.scope
    if holds then
      let (_, after) ← body.render r
      .ok (true, after)
    else renderFirst rest r
end

end Node

end StatementMapper.Template
