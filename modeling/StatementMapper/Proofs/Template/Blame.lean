import StatementMapper.Proofs.Outcome
import StatementMapper.Template.Render

set_option autoImplicit false

namespace StatementMapper.Template

open Outcome (bind_error map_error)

-- An expression where it stands in a template: for its value, or for the entries of a loop.
inductive Use where
  | value (expression : Expression)
  | collection (expression : Expression)

namespace Use

def expression : Use → Expression
  | value expression => expression
  | collection expression => expression

inductive Blames : Use → EvaluationFault → Prop where
  | evaluation {use : Use} {scope : Scope} {cause : EvaluationFault}
      (failed : use.expression.root.evaluate scope = .error cause) :
      Blames use (.inExpression use.expression.source cause)
  | null {expression : Expression} {scope : Scope} {value : Value} (evaluated : expression.evaluate scope = .ok value)
      (absent : value.isNull = true) : Blames (.collection expression) (.nullCollection expression.source)
  | scalar {expression : Expression} {scope : Scope} {value : Value} (evaluated : expression.evaluate scope = .ok value)
      (present : value.isNull = false) (entryless : Loop.entries? value = none) :
      Blames (.collection expression) (.notIterable expression.source value.kind)

theorem evaluation_blames (use : Use) (scope : Scope) (cause : EvaluationFault)
    (failed : use.expression.evaluate scope = .error cause) : use.Blames cause := by
  rw [Expression.evaluate] at failed
  cases inner : use.expression.root.evaluate scope with
  | ok value =>
      rw [inner] at failed
      cases failed
  | error reason =>
      rw [inner] at failed
      cases failed
      exact .evaluation inner

end Use

def Part.use? : Part → Option Use
  | literal _ => none
  | substitution expression => some (.value expression)

namespace Node

mutual
def uses : Node → List Use
  | static _ => []
  | parameterized _ => []
  | text parts => parts.filterMap Part.use?
  | when test body => .value test :: uses body
  | choose branches otherwise => branchUses branches ++ defaultUses otherwise
  | trim _ _ body => uses body
  | loop head body => .collection head.collection :: uses body
  | bind _ value => [.value value]
  | sequence children => allUses children
def allUses : List Node → List Use
  | [] => []
  | child :: rest => uses child ++ allUses rest
def branchUses : List (Expression × Node) → List Use
  | [] => []
  | (test, body) :: rest => .value test :: (uses body ++ branchUses rest)
def defaultUses : Option Node → List Use
  | none => []
  | some fallback => uses fallback
end

end Node

def Blamed (uses : List Use) (cause : EvaluationFault) : Prop := ∃ use ∈ uses, use.Blames cause

theorem blamed_of_subset {uses others : List Use} {cause : EvaluationFault} (all : ∀ use ∈ uses, use ∈ others)
    (blamed : Blamed uses cause) : Blamed others cause := by
  obtain ⟨use, member, blames⟩ := blamed
  exact ⟨use, all use member, blames⟩

theorem parts_blamed (scope : Scope) (parts : List Part) (cause : EvaluationFault)
    (failed : Part.renderAll scope parts = .error cause) : Blamed (parts.filterMap Part.use?) cause := by
  induction parts with
  | nil => cases failed
  | cons part rest ih =>
      rw [Part.renderAll] at failed
      obtain own | ⟨text, _, failed⟩ := (bind_error _ _ _).mp failed
      · cases part with
        | literal content => cases own
        | substitution expression =>
            have blames := Use.evaluation_blames (.value expression) scope cause ((map_error _ _ _).mp own)
            exact ⟨.value expression, List.mem_cons_self, blames⟩
      · obtain others | ⟨more, _, failed⟩ := (bind_error _ _ _).mp failed
        · refine blamed_of_subset (fun use member => ?_) (ih others)
          obtain ⟨other, inside, found⟩ := List.mem_filterMap.mp member
          exact List.mem_filterMap.mpr ⟨other, List.mem_cons_of_mem _ inside, found⟩
        · cases failed

theorem Loop.iterate_fails (head : Loop) (body : Rendering → Rendered) (entries : List (Value × Value)) (r : Rendering)
    (cause : EvaluationFault) (failed : head.iterate body entries r = .error cause) :
    ∃ inner, body inner = .error cause := by
  induction entries generalizing r with
  | nil => cases failed
  | cons entry rest ih =>
      rw [iterate] at failed
      obtain own | ⟨after, _, failed⟩ := (bind_error _ _ _).mp failed
      · exact ⟨_, own⟩
      · obtain others | ⟨more, _, failed⟩ := (bind_error _ _ _).mp failed
        · exact ih _ others
        · cases failed

theorem Loop.render_fails (head : Loop) (body : Rendering → Rendered) (scope : Scope) (collection : Value) (r : Rendering)
    (evaluated : head.collection.evaluate scope = .ok collection) (cause : EvaluationFault)
    (failed : head.render body collection r = .error cause) :
    (Use.collection head.collection).Blames cause ∨ ∃ inner, body inner = .error cause := by
  unfold Loop.render at failed
  split at failed
  · rename_i entryless
    split at failed
    · cases failed
      exact Or.inl (.scalar evaluated (by simp_all) entryless)
    · split at failed
      · cases failed
      · cases failed
        exact Or.inl (.null evaluated (by simp_all))
  · cases failed
  · obtain inside | ⟨bodies, _, failed⟩ := (bind_error _ _ _).mp failed
    · exact Or.inr (iterate_fails head body _ r cause inside)
    · cases failed

namespace Node

mutual
theorem render_blamed (node : Node) (r : Rendering) (cause : EvaluationFault) (failed : node.render r = .error cause) :
    Blamed node.uses cause := by
  cases node with
  | static content => rw [render] at failed; cases failed
  | parameterized content => rw [render] at failed; cases failed
  | text parts =>
      rw [render] at failed
      rw [uses]
      obtain inside | ⟨content, _, failed⟩ := (bind_error _ _ _).mp failed
      · exact parts_blamed r.scope parts cause inside
      · cases failed
  | when test body =>
      rw [render] at failed
      rw [uses]
      obtain verdict | ⟨holds, _, failed⟩ := (bind_error _ _ _).mp failed
      · exact ⟨.value test, List.mem_cons_self, Use.evaluation_blames _ _ _ ((map_error _ _ _).mp verdict)⟩
      · cases holds with
        | false => cases failed
        | true =>
            obtain inside | ⟨after, _, failed⟩ := (bind_error _ _ _).mp failed
            · exact blamed_of_subset (fun use => List.mem_cons_of_mem _) (render_blamed body r cause inside)
            · cases failed
  | choose branches otherwise =>
      rw [render] at failed
      rw [uses]
      obtain inside | ⟨⟨chosen, after⟩, _, failed⟩ := (bind_error _ _ _).mp failed
      · exact blamed_of_subset (fun use => List.mem_append_left _) (render_first_blamed branches r cause inside)
      · cases chosen with
        | true => cases failed
        | false =>
            cases otherwise with
            | none => cases failed
            | some fallback =>
                rw [defaultUses]
                obtain inside | ⟨last, _, failed⟩ := (bind_error _ _ _).mp failed
                · exact blamed_of_subset (fun use => List.mem_append_right _) (render_blamed fallback after cause inside)
                · cases failed
  | trim tag trimming body =>
      rw [render] at failed
      rw [uses]
      obtain inside | ⟨inner, _, failed⟩ := (bind_error _ _ _).mp failed
      · exact render_blamed body _ cause inside
      · cases failed
  | loop head body =>
      rw [render] at failed
      rw [uses]
      obtain verdict | ⟨collection, evaluated, failed⟩ := (bind_error _ _ _).mp failed
      · exact ⟨.collection head.collection, List.mem_cons_self, Use.evaluation_blames _ _ _ verdict⟩
      · obtain own | ⟨inner, inside⟩ := head.render_fails body.render r.scope collection r evaluated cause failed
        · exact ⟨.collection head.collection, List.mem_cons_self, own⟩
        · exact blamed_of_subset (fun use => List.mem_cons_of_mem _) (render_blamed body inner cause inside)
  | bind name value =>
      rw [render] at failed
      rw [uses]
      obtain verdict | ⟨found, _, failed⟩ := (bind_error _ _ _).mp failed
      · exact ⟨.value value, List.mem_cons_self, Use.evaluation_blames _ _ _ verdict⟩
      · cases failed
  | sequence children =>
      rw [render] at failed
      rw [uses]
      obtain inside | ⟨after, _, failed⟩ := (bind_error _ _ _).mp failed
      · exact render_all_blamed children r cause inside
      · cases failed
theorem render_all_blamed (children : List Node) (r : Rendering) (cause : EvaluationFault)
    (failed : renderAll children r = .error cause) : Blamed (allUses children) cause := by
  cases children with
  | nil => rw [renderAll] at failed; cases failed
  | cons child rest =>
      rw [renderAll] at failed
      rw [allUses]
      obtain first | ⟨after, _, others⟩ := (bind_error _ _ _).mp failed
      · exact blamed_of_subset (fun use => List.mem_append_left _) (render_blamed child r cause first)
      · exact blamed_of_subset (fun use => List.mem_append_right _) (render_all_blamed rest after.2 cause others)
theorem render_first_blamed (branches : List (Expression × Node)) (r : Rendering) (cause : EvaluationFault)
    (failed : renderFirst branches r = .error cause) : Blamed (branchUses branches) cause := by
  cases branches with
  | nil => rw [renderFirst] at failed; cases failed
  | cons branch rest =>
      obtain ⟨test, body⟩ := branch
      rw [renderFirst] at failed
      rw [branchUses]
      obtain verdict | ⟨holds, _, failed⟩ := (bind_error _ _ _).mp failed
      · exact ⟨.value test, List.mem_cons_self, Use.evaluation_blames _ _ _ ((map_error _ _ _).mp verdict)⟩
      · refine blamed_of_subset (fun use => List.mem_cons_of_mem _) ?_
        cases holds with
        | true =>
            obtain inside | ⟨after, _, failed⟩ := (bind_error _ _ _).mp failed
            · exact blamed_of_subset (fun use => List.mem_append_left _) (render_blamed body r cause inside)
            · cases failed
        | false => exact blamed_of_subset (fun use => List.mem_append_right _) (render_first_blamed rest r cause failed)
end

end Node

end StatementMapper.Template
