import StatementMapper.Proofs.Mapping
import StatementMapper.Proofs.Table
import StatementMapper.Proofs.Template.Loops

set_option autoImplicit false

/-! What happens on the walk over a template: which values are bound, and where each placeholder is emitted. -/

namespace StatementMapper.Template

open Delimiters (placeholder)

-- It is taken when a loop around it has renamed it for a variable of its own.
structure Emission where
  written : List Char
  content : List Char
  taken : Bool
  scope : Scope

structure Trace where
  bound : List (String × Value) := []
  emitted : List Emission := []

namespace Trace

def append (first second : Trace) : Trace := ⟨first.bound ++ second.bound, first.emitted ++ second.emitted⟩

def ofText (text : List Char) (scope : Scope) : Trace where
  emitted := (contents (placeholder.scan text)).map fun content => ⟨content, content, false, scope⟩

def contents (trace : Trace) : List (List Char) := trace.emitted.map Emission.content

def bindings (trace : Trace) (before : Table String Value) : Table String Value :=
  trace.bound.foldl (fun table entry => Table.put entry.1 entry.2 table) before

end Trace

namespace Loop

def takes (named? : Option String) (content : List Char) : Bool :=
  match named? with
  | some name => (rename? name 0 content).isSome
  | none => false

def names (head : Loop) : List String := head.item.toList ++ head.index.toList

def emission (head : Loop) (number : Nat) (inner : Emission) : Emission where
  written := inner.written
  content := head.renamed number inner.content
  taken := inner.taken || takes head.item inner.content || takes head.index (renameBy head.item number inner.content)
  scope := inner.scope

def entered (head : Loop) (index item : Value) (r : Rendering) : Rendering :=
  introduce head.index r.draft.next index
    (introduce head.item r.draft.next item ⟨{ r.draft with next := r.draft.next + 1 }.aside, r.scope.push⟩)

def introduced (named? : Option String) (number : Nat) (value : Value) : List (String × Value) :=
  match named? with
  | some name => [(boundName name number, value)]
  | none => []

def iteration (head : Loop) (number : Nat) (index item : Value) (body : Trace) : Trace where
  bound := introduced head.item number item ++ (introduced head.index number index ++ body.bound)
  emitted := body.emitted.map (head.emission number)

def trace (head : Loop) (body : Rendering → Rendered) (traced : Rendering → Trace) :
    List (Value × Value) → Rendering → Trace
  | [], _ => {}
  | (index, item) :: rest, r =>
    (head.iteration r.draft.next index item (traced (head.entered index item r))).append
      (match body (head.entered index item r) with
      | .ok (_, after) => trace head body traced rest ⟨r.draft.resume after.draft, r.scope⟩
      | .error _ => {})

structure Plain (head : Loop) (seam : Seam) : Prop where
  opening : Holds (some seam) head.opening.toList []
  separator : Holds (some seam) head.separator.toList []
  closing : Holds (some seam) head.closing.toList []

end Loop

namespace Node

-- Every placeholder lies within one text, and the texts in a loop fit each other.
mutual
def Whole (seam? : Option Seam) : Node → Prop
  | static content => Holds seam? content (contents (placeholder.scan content))
  | parameterized content => Holds seam? content (contents (placeholder.scan content))
  | when _ body => body.Whole seam?
  | loop head body =>
    ∃ seam, (seam? = none ∨ seam? = some seam) ∧ head.Plain seam ∧ body.Whole (some seam)
  | bind _ _ => True
  | sequence children => AllWhole seam? children
  | _ => False
def AllWhole (seam? : Option Seam) : List Node → Prop
  | [] => True
  | child :: rest => child.Whole seam? ∧ AllWhole seam? rest
end

mutual
def trace (node : Node) (r : Rendering) : Trace :=
  match node with
  | static content => .ofText content r.scope
  | parameterized content => .ofText content r.scope
  | when test body =>
    match test.holds r.scope with
    | .ok true => body.trace r
    | _ => {}
  | loop head body =>
    match head.collection.evaluate r.scope with
    | .ok collection => head.trace body.render body.trace ((Loop.entries? collection).getD []) r
    | .error _ => {}
  | bind name value =>
    match value.evaluate r.scope with
    | .ok found => { bound := [(name, found)] }
    | .error _ => {}
  | sequence children => traceAll children r
  | _ => {}
def traceAll (children : List Node) (r : Rendering) : Trace :=
  match children with
  | [] => {}
  | child :: rest =>
    (child.trace r).append
      (match child.render r with
      | .ok (_, after) => traceAll rest after
      | .error _ => {})
end

end Node

end StatementMapper.Template
