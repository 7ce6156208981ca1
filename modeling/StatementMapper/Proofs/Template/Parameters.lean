import StatementMapper.Proofs.Outcome
import StatementMapper.Template.Render

set_option autoImplicit false

namespace StatementMapper

open Outcome (Related related_refl related_bind)

namespace Scope

structure Alike (scope other : Scope) : Prop where
  layers : scope.layers = other.layers
  lookup : ∀ path, scope.parameter.lookup? path = other.parameter.lookup? path

variable {scope other : Scope}

theorem alike_set (alike : Alike scope other) (name : String) (value : Value) :
    Alike (scope.set name value) (other.set name value) := by
  unfold set
  rw [← alike.layers]
  cases scope.layers with
  | nil => exact ⟨rfl, alike.lookup⟩
  | cons top below => exact ⟨rfl, alike.lookup⟩

theorem alike_push (alike : Alike scope other) : Alike scope.push other.push :=
  ⟨congrArg (List.cons []) alike.layers, alike.lookup⟩

theorem resolve_alike (alike : Alike scope other) (path : String) : scope.resolve? path = other.resolve? path := by
  have held (name : String) : scope.get? name = other.get? name := congrArg (getIn? name) alike.layers
  simp only [resolve?, held, alike.lookup]

end Scope

namespace Expr

variable {scope other : Scope}

mutual
theorem evaluate_alike (alike : Scope.Alike scope other) (expr : Expr) : expr.evaluate scope = expr.evaluate other := by
  cases expr with
  | literal value => rw [evaluate, evaluate]
  | property path => rw [evaluate, evaluate, Scope.resolve_alike alike]
  | call target method => rw [evaluate, evaluate, Scope.resolve_alike alike]
  | binary operator left right => rw [evaluate, evaluate, evaluate_alike alike left, evaluate_alike alike right]
  | not operand => rw [evaluate, evaluate, evaluate_alike alike operand]
  | negate operand => rw [evaluate, evaluate, evaluate_alike alike operand]
  | isNull operand negated => rw [evaluate, evaluate, evaluate_alike alike operand]
  | isIn needle candidates negated =>
      rw [evaluate, evaluate, evaluate_alike alike needle, evaluate_all_alike alike candidates]
theorem evaluate_all_alike (alike : Scope.Alike scope other) (exprs : List Expr) :
    evaluateAll scope exprs = evaluateAll other exprs := by
  cases exprs with
  | nil => rw [evaluateAll, evaluateAll]
  | cons expr rest => rw [evaluateAll, evaluateAll, evaluate_alike alike expr, evaluate_all_alike alike rest]
end

end Expr

namespace Expression

variable {scope other : Scope} (alike : Scope.Alike scope other) (expression : Expression)

include alike

theorem evaluate_alike : expression.evaluate scope = expression.evaluate other := by
  rw [evaluate, evaluate, Expr.evaluate_alike alike]

theorem holds_alike : expression.holds scope = expression.holds other := by
  rw [holds, holds, evaluate_alike alike]

end Expression

namespace Template

structure Rendering.Alike (r other : Rendering) : Prop where
  draft : r.draft = other.draft
  scope : Scope.Alike r.scope other.scope

def Rendering.Carried {A : Type} (first second : A × Rendering) : Prop :=
  first.1 = second.1 ∧ first.2.Alike second.2

open Rendering (Alike Carried)

variable {r other : Rendering}

theorem alike_append (alike : Alike r other) (fragment : List Char) : Alike (r.append fragment) (other.append fragment) :=
  ⟨congrArg (Draft.append fragment) alike.draft, alike.scope⟩

theorem alike_bind (alike : Alike r other) (name : String) (value : Value) :
    Alike (r.bind name value) (other.bind name value) :=
  ⟨congrArg (Draft.bind name value) alike.draft, Scope.alike_set alike.scope name value⟩

theorem render_parts_alike {scope other : Scope} (alike : Scope.Alike scope other) (parts : List Part) :
    Part.renderAll scope parts = Part.renderAll other parts := by
  induction parts with
  | nil => rfl
  | cons part rest ih =>
      have first : part.render scope = part.render other := by
        cases part with
        | literal text => rfl
        | substitution expression => rw [Part.render, Part.render, Expression.evaluate_alike alike]
      rw [Part.renderAll, Part.renderAll, first, ih]

namespace Loop

theorem alike_introduce (alike : Alike r other) (named? : Option String) (number : Nat) (value : Value) :
    Alike (introduce named? number value r) (introduce named? number value other) := by
  cases named? with
  | none => exact alike
  | some name =>
      exact ⟨congrArg (Draft.bind (boundName name number) value) alike.draft, Scope.alike_set alike.scope name value⟩

variable {body : Rendering → Rendered}
  (same : ∀ r other, Alike r other → Related Carried (body r) (body other))

include same

theorem iterate_alike (head : Loop) (entries : List (Value × Value)) (r other : Rendering) (alike : Alike r other) :
    Related Carried (head.iterate body entries r) (head.iterate body entries other) := by
  induction entries generalizing r other with
  | nil => exact .ok ⟨rfl, alike⟩
  | cons entry rest ih =>
      rcases entry with ⟨index, item⟩
      rw [iterate, iterate, ← alike.draft]
      have entered : Alike ⟨(r.draft.fresh).2.aside, r.scope.push⟩ ⟨(r.draft.fresh).2.aside, other.scope.push⟩ :=
        ⟨rfl, Scope.alike_push alike.scope⟩
      apply related_bind (same _ _ (alike_introduce (alike_introduce entered head.item _ item) head.index _ index))
      rintro ⟨_, after⟩ ⟨_, ended⟩ ⟨_, left⟩
      have resumed : Alike ⟨r.draft.resume after.draft, r.scope⟩ ⟨r.draft.resume ended.draft, other.scope⟩ :=
        ⟨congrArg r.draft.resume left.draft, alike.scope⟩
      apply related_bind (ih _ _ resumed)
      rintro ⟨more, last⟩ ⟨others, final⟩ ⟨bodies, finished⟩
      have bodies : more = others := bodies
      have text : after.draft.sql = ended.draft.sql := congrArg Draft.sql left.draft
      exact .ok ⟨by rw [bodies, text], finished⟩

theorem render_alike (head : Loop) (collection : Value) (r other : Rendering) (alike : Alike r other) :
    Related Carried (head.render body collection r) (head.render body collection other) := by
  rw [render, render]
  cases entries? collection with
  | none =>
      by_cases null : collection.isNull = true
      · by_cases nullable : head.nullable = true
        · rw [null, nullable]
          exact .ok ⟨rfl, alike⟩
        · rw [null, Bool.eq_false_iff.mpr nullable]
          exact .error _
      · rw [Bool.eq_false_iff.mpr null]
        exact .error _
  | some entries =>
      cases entries with
      | nil => exact .ok ⟨rfl, alike⟩
      | cons entry rest =>
          apply related_bind (iterate_alike same head (entry :: rest) r other alike)
          rintro ⟨bodies, after⟩ ⟨others, ended⟩ ⟨texts, left⟩
          have texts : bodies = others := texts
          rw [texts]
          exact .ok ⟨rfl, alike_append left _⟩

end Loop

theorem close_alike {outer draft : Draft} (same : outer = draft) {inner ended : Rendering} (alike : Alike inner ended)
    (trimming : Trimming) : Alike (trimming.close outer inner) (trimming.close draft ended) := by
  rw [Trimming.close, Trimming.close, same, alike.draft]
  exact ⟨rfl, alike.scope⟩

namespace Node

mutual
theorem render_alike (node : Node) (r other : Rendering) (alike : Alike r other) :
    Related Carried (node.render r) (node.render other) := by
  cases node with
  | static content =>
      rw [render, render]
      exact .ok ⟨rfl, alike_append alike content⟩
  | parameterized content =>
      rw [render, render]
      exact .ok ⟨rfl, alike_append alike content⟩
  | text parts =>
      rw [render, render, render_parts_alike alike.scope]
      apply related_bind (related_refl _)
      rintro content _ rfl
      exact .ok ⟨rfl, alike_append alike content⟩
  | when test body =>
      rw [render, render, Expression.holds_alike alike.scope]
      apply related_bind (related_refl _)
      rintro holds _ rfl
      cases holds with
      | false => exact .ok ⟨rfl, alike⟩
      | true => exact related_bind (render_alike body r other alike) fun _ _ left => .ok ⟨rfl, left.2⟩
  | choose branches otherwise =>
      rw [render, render]
      apply related_bind (render_first_alike branches r other alike)
      rintro ⟨chosen, after⟩ ⟨_, ended⟩ ⟨same, left⟩
      cases same
      cases chosen with
      | true => exact .ok ⟨rfl, left⟩
      | false =>
          cases otherwise with
          | none => exact .ok ⟨rfl, left⟩
          | some fallback =>
              exact related_bind (render_alike fallback after ended left) fun _ _ last => .ok ⟨rfl, last.2⟩
  | trim tag trimming body =>
      rw [render, render]
      have aside : Alike ⟨r.draft.aside, r.scope⟩ ⟨other.draft.aside, other.scope⟩ :=
        ⟨congrArg Draft.aside alike.draft, alike.scope⟩
      apply related_bind (render_alike body _ _ aside)
      intro inner ended left
      exact .ok ⟨left.1, close_alike alike.draft left.2 trimming⟩
  | loop head body =>
      rw [render, render, Expression.evaluate_alike alike.scope]
      apply related_bind (related_refl _)
      rintro collection _ rfl
      exact Loop.render_alike (fun r other alike => render_alike body r other alike) head collection r other alike
  | bind name value =>
      rw [render, render, Expression.evaluate_alike alike.scope]
      apply related_bind (related_refl _)
      rintro found _ rfl
      exact .ok ⟨rfl, alike_bind alike name found⟩
  | sequence children =>
      rw [render, render]
      exact related_bind (render_all_alike children r other alike) fun _ _ left => .ok ⟨rfl, left⟩
theorem render_all_alike (children : List Node) (r other : Rendering) (alike : Alike r other) :
    Related Alike (renderAll children r) (renderAll children other) := by
  cases children with
  | nil =>
      rw [renderAll, renderAll]
      exact .ok alike
  | cons child rest =>
      rw [renderAll, renderAll]
      exact related_bind (render_alike child r other alike) fun first second left =>
        render_all_alike rest first.2 second.2 left.2
theorem render_first_alike (branches : List (Expression × Node)) (r other : Rendering) (alike : Alike r other) :
    Related Carried (renderFirst branches r) (renderFirst branches other) := by
  cases branches with
  | nil =>
      rw [renderFirst, renderFirst]
      exact .ok ⟨rfl, alike⟩
  | cons branch rest =>
      rcases branch with ⟨test, body⟩
      rw [renderFirst, renderFirst, Expression.holds_alike alike.scope]
      apply related_bind (related_refl _)
      rintro holds _ rfl
      cases holds with
      | true => exact related_bind (render_alike body r other alike) fun _ _ left => .ok ⟨rfl, left.2⟩
      | false => exact render_first_alike rest r other alike
end

end Node

end Template

end StatementMapper
