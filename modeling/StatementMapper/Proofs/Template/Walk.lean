import StatementMapper.Proofs.Outcome
import StatementMapper.Proofs.Template.Iterations

set_option autoImplicit false

namespace StatementMapper.Template.Node

open Outcome (bind_ok)

mutual
theorem render_traced (seam? : Option Seam) (names : List String) (node : Node) (whole : node.Whole seam?)
    (r after : Rendering) (contributed : Bool) (ran : node.render r = .ok (contributed, after)) :
    Traced seam? names (node.trace r) r after := by
  cases node with
  | static content =>
      rw [render] at ran
      cases ran
      rw [trace]
      exact traced_text content r whole
  | parameterized content =>
      rw [render] at ran
      cases ran
      rw [trace]
      exact traced_text content r whole
  | when test body =>
      rw [render] at ran
      obtain ⟨holds, verdict, ran⟩ := (bind_ok _ _ _).mp ran
      rw [trace, verdict]
      cases holds with
      | false =>
          cases ran
          exact traced_none r
      | true =>
          rw [if_pos rfl] at ran
          obtain ⟨outcome, inner, ran⟩ := (bind_ok _ _ _).mp ran
          cases ran
          exact render_traced seam? names body whole r outcome.2 outcome.1 inner
  | loop head body =>
      rw [render] at ran
      obtain ⟨collection, value, ran⟩ := (bind_ok _ _ _).mp ran
      rw [trace, value]
      obtain ⟨seam, outer, plain, inside⟩ := whole
      exact Loop.render_traced head body.render body.trace outer plain
        (fun r contributed after ran => render_traced (some seam) _ body inside r after contributed ran) collection r
        after _ ran
  | bind name value =>
      rw [render] at ran
      obtain ⟨found, evaluated, ran⟩ := (bind_ok _ _ _).mp ran
      rw [trace, evaluated]
      cases ran
      exact traced_bind name found r
  | sequence children =>
      rw [render] at ran
      obtain ⟨last, rendered, ran⟩ := (bind_ok _ _ _).mp ran
      rw [trace]
      cases ran
      exact render_all_traced seam? names children whole r after rendered
  | text parts => exact nomatch whole
  | choose branches otherwise => exact nomatch whole
  | trim tag trimming body => exact nomatch whole
theorem render_all_traced (seam? : Option Seam) (names : List String) (children : List Node)
    (whole : AllWhole seam? children) (r after : Rendering) (ran : renderAll children r = .ok after) :
    Traced seam? names (traceAll children r) r after := by
  cases children with
  | nil =>
      rw [renderAll] at ran
      cases ran
      rw [traceAll]
      exact traced_none r
  | cons child rest =>
      rw [renderAll] at ran
      obtain ⟨outcome, first, ran⟩ := (bind_ok _ _ _).mp ran
      rw [traceAll, first]
      exact traced_append (render_traced seam? names child whole.1 r outcome.2 outcome.1 first)
        (render_all_traced seam? names rest whole.2 outcome.2 after ran)
end

end StatementMapper.Template.Node
