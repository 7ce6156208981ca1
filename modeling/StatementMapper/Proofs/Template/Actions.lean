import StatementMapper.Action
import StatementMapper.Proofs.Template.Iterations

set_option autoImplicit false

/-! Rendering as an action, which leaves what it has done so far also where it fails. -/

namespace StatementMapper.Template

namespace Rendering

variable {A : Type}

def outcome (found : Except EvaluationFault A) : Action Rendering A := Action.ofExcept (found.mapError .evaluation)

def capture (enter : Rendering → Rendering) (leave : Scope → Scope → Scope) (action : Action Rendering A) :
    Action Rendering (A × List Char) := fun r =>
  match action.run (enter r) with
  | (done, inner) =>
    (done.map fun a => (a, inner.draft.sql), ⟨r.draft.resume inner.draft, leave r.scope inner.scope⟩)

def aside (action : Action Rendering A) : Action Rendering (A × List Char) :=
  capture (fun r => ⟨r.draft.aside, r.scope⟩) (fun _ inner => inner) action

end Rendering

open Rendering (outcome capture aside)

namespace Loop

def actRound (head : Loop) (body : Action Rendering Bool) (index item : Value) : Action Rendering (List Char) := do
  let number ← Action.look fun r => r.draft.next
  let (_, written) ← capture (head.entered index item) (fun outer _ => outer) body
  pure (head.itemize number written)

def actRounds (head : Loop) (body : Action Rendering Bool) : List (Value × Value) → Action Rendering (List (List Char))
  | [] => pure []
  | (index, item) :: rest => do
    let text ← head.actRound body index item
    let more ← actRounds head body rest
    pure (text :: more)

def act (head : Loop) (body : Action Rendering Bool) (collection : Value) : Action Rendering Bool :=
  match entries? collection with
  | none =>
    if !collection.isNull then outcome (.error (.notIterable head.collection.source collection.kind))
    else if head.nullable then pure true
    else outcome (.error (.nullCollection head.collection.source))
  | some [] => pure true
  | some entries => do
    let bodies ← head.actRounds body entries
    Action.change (·.append (head.opening.toList ++ separated head bodies ++ head.closing.toList))
    pure true

end Loop

def Trimming.put (t : Trimming) (text : List Char) (r : Rendering) : Rendering :=
  if (Text.trim text).isEmpty then r else r.append (t.decorate (Text.trim text))

namespace Node

mutual
def act (node : Node) : Action Rendering Bool :=
  match node with
  | static content => do
    Action.change (·.append content)
    pure true
  | parameterized content => do
    Action.change (·.append content)
    pure true
  | text parts => do
    let scope ← Action.look Rendering.scope
    let content ← outcome (Part.renderAll scope parts)
    Action.change (·.append content)
    pure true
  | when test body => do
    let scope ← Action.look Rendering.scope
    let holds ← outcome (test.holds scope)
    if holds then
      let _ ← body.act
      pure true
    else pure false
  | choose branches otherwise => do
    let chosen ← actFirst branches
    if chosen then pure true
    else match otherwise with
      | some fallback =>
        let _ ← fallback.act
        pure true
      | none => pure false
  | trim _ trimming body => do
    let (contributed, written) ← aside body.act
    Action.change (trimming.put written)
    pure contributed
  | loop head body => do
    let scope ← Action.look Rendering.scope
    let collection ← outcome (head.collection.evaluate scope)
    head.act body.act collection
  | bind name value => do
    let scope ← Action.look Rendering.scope
    let found ← outcome (value.evaluate scope)
    Action.change (·.bind name found)
    pure true
  | sequence children => do
    actAll children
    pure true
def actAll (children : List Node) : Action Rendering Unit :=
  match children with
  | [] => pure ()
  | child :: rest => do
    let _ ← child.act
    actAll rest
def actFirst (branches : List (Expression × Node)) : Action Rendering Bool :=
  match branches with
  | [] => pure false
  | (test, body) :: rest => do
    let scope ← Action.look Rendering.scope
    let holds ← outcome (test.holds scope)
    if holds then
      let _ ← body.act
      pure true
    else actFirst rest
end

end Node

-- An action does what a rendering comes to.
structure Follows {A : Type} (action : Action Rendering A) (r : Rendering)
    (rendered : Except EvaluationFault (A × Rendering)) : Prop where
  answers : ∀ a after, rendered = .ok (a, after) → action.run r = (.ok a, after)
  fails : ∀ cause, rendered = .error cause → ∃ left, action.run r = (.error (.evaluation cause), left)

section

variable {A B : Type}

theorem follows_pure (a : A) (r : Rendering) : Follows (pure a) r (.ok (a, r)) where
  answers other after same := by
    cases same
    rfl
  fails cause same := nomatch same

theorem follows_failure {action : Action Rendering A} {r left : Rendering} {cause : EvaluationFault}
    (failed : action.run r = (.error (.evaluation cause), left)) : Follows action r (.error cause) where
  answers a after same := nomatch same
  fails other same := by
    cases same
    exact ⟨left, failed⟩

theorem follows_look {B : Type} (view : Rendering → A) (second : A → Action Rendering B) (r : Rendering)
    (rendered : Except EvaluationFault (B × Rendering)) (goes : Follows (second (view r)) r rendered) :
    Follows (Action.look view >>= second) r rendered := ⟨goes.answers, goes.fails⟩

theorem follows_change {B : Type} (f : Rendering → Rendering) (second : Unit → Action Rendering B) (r : Rendering)
    (rendered : Except EvaluationFault (B × Rendering)) (goes : Follows (second ()) (f r) rendered) :
    Follows (Action.change f >>= second) r rendered := ⟨goes.answers, goes.fails⟩

theorem follows_outcome (found : Except EvaluationFault A) (second : A → Action Rendering B) (r : Rendering)
    (next : A → Except EvaluationFault (B × Rendering)) (goes : ∀ a, found = .ok a → Follows (second a) r (next a)) :
    Follows (outcome found >>= second) r (found >>= next) := by
  cases found with
  | ok a => exact goes a rfl
  | error cause => exact follows_failure rfl

theorem follows_bind {first : Action Rendering A} {second : A → Action Rendering B} {r : Rendering}
    {rendered : Except EvaluationFault (A × Rendering)} {next : A × Rendering → Except EvaluationFault (B × Rendering)}
    (begins : Follows first r rendered)
    (goes : ∀ a middle, rendered = .ok (a, middle) → Follows (second a) middle (next (a, middle))) :
    Follows (first >>= second) r (rendered >>= next) := by
  cases rendered with
  | ok done =>
      obtain ⟨a, middle⟩ := done
      have ran : (first >>= second).run r = (second a).run middle := Action.run_bind_ok (begins.answers a middle rfl)
      have later := goes a middle rfl
      refine ⟨fun b after same => ran.trans (later.answers b after same), fun cause same => ?_⟩
      obtain ⟨left, failed⟩ := later.fails cause same
      exact ⟨left, ran.trans failed⟩
  | error cause =>
      obtain ⟨left, failed⟩ := begins.fails cause rfl
      exact follows_failure (Action.run_bind_error failed)

theorem follows_capture (enter : Rendering → Rendering) (leave : Scope → Scope → Scope) {action : Action Rendering A}
    {r : Rendering} {rendered : Except EvaluationFault (A × Rendering)} (inside : Follows action (enter r) rendered) :
    Follows (capture enter leave action) r (rendered.map fun done =>
      ((done.1, done.2.draft.sql), ⟨r.draft.resume done.2.draft, leave r.scope done.2.scope⟩)) := by
  cases rendered with
  | ok done =>
      have ran : action.run (enter r) = _ := inside.answers done.1 done.2 rfl
      refine ⟨fun a after same => ?_, fun cause same => (nomatch same)⟩
      cases same
      rw [Action.run, capture, ran]
      rfl
  | error cause =>
      obtain ⟨left, failed⟩ := inside.fails cause rfl
      have back : (capture enter leave action).run r =
          (.error (.evaluation cause), ⟨r.draft.resume left.draft, leave r.scope left.scope⟩) := by
        rw [Action.run, capture, failed]
        rfl
      exact follows_failure back

end

namespace Loop

def round (head : Loop) (body : Rendering → Rendered) (index item : Value) (r : Rendering) :
    Except EvaluationFault (List Char × Rendering) :=
  (body (head.entered index item r)).map fun done =>
    (head.itemize r.draft.next done.2.draft.sql, ⟨r.draft.resume done.2.draft, r.scope⟩)

theorem iterate_cons (head : Loop) (body : Rendering → Rendered) (index item : Value) (rest : List (Value × Value))
    (r : Rendering) :
    iterate head body ((index, item) :: rest) r =
      head.round body index item r >>= fun done =>
        iterate head body rest done.2 >>= fun later => .ok (done.1 :: later.1, later.2) := by
  rw [round]
  cases rendered : body (head.entered index item r) with
  | ok done =>
      change body (head.entered index item r) >>= _ = _
      rw [rendered]
      rfl
  | error cause =>
      change body (head.entered index item r) >>= _ = _
      rw [rendered]
      rfl

variable (head : Loop) (body : Rendering → Rendered) (action : Action Rendering Bool)

theorem round_follows (sound : ∀ r, Follows action r (body r)) (index item : Value) (r : Rendering) :
    Follows (head.actRound action index item) r (head.round body index item r) := by
  have inside := follows_capture (head.entered index item) (fun outer _ => outer) (sound (head.entered index item r))
  have whole : head.round body index item r =
      ((body (head.entered index item r)).map fun done =>
        ((done.1, done.2.draft.sql), (⟨r.draft.resume done.2.draft, r.scope⟩ : Rendering))) >>= fun done =>
          .ok (head.itemize r.draft.next done.1.2, done.2) := by
    rw [round]
    cases body (head.entered index item r) <;> rfl
  rw [whole]
  refine follows_look (fun r => r.draft.next) _ r _ ?_
  exact follows_bind inside fun done middle _ => follows_pure (head.itemize r.draft.next done.2) middle

theorem rounds_follow (sound : ∀ r, Follows action r (body r)) (entries : List (Value × Value)) (r : Rendering) :
    Follows (head.actRounds action entries) r (iterate head body entries r) := by
  induction entries generalizing r with
  | nil => exact follows_pure [] r
  | cons entry rest ih =>
      rcases entry with ⟨index, item⟩
      rw [iterate_cons]
      exact follows_bind (round_follows head body action sound index item r) fun written middle _ =>
        follows_bind (ih middle) fun more last _ => follows_pure _ _

theorem act_follows (sound : ∀ r, Follows action r (body r)) (collection : Value) (r : Rendering) :
    Follows (head.act action collection) r (head.render body collection r) := by
  have refused (cause : EvaluationFault) : Follows (outcome (.error cause) : Action Rendering Bool) r (.error cause) :=
    follows_failure rfl
  unfold act render
  cases found : entries? collection with
  | none =>
      by_cases null : collection.isNull = true
      · by_cases nullable : head.nullable = true
        · simpa [null, nullable] using follows_pure true r
        · simpa [null, nullable] using refused _
      · simpa [null] using refused _
  | some entries =>
      cases entries with
      | nil => exact follows_pure true r
      | cons entry rest =>
          exact follows_bind (rounds_follow head body action sound (entry :: rest) r) fun bodies last _ =>
            follows_change _ _ _ _ (follows_pure true _)

end Loop

theorem Trimming.put_eq (t : Trimming) (outer : Draft) (inner : Rendering) :
    t.put inner.draft.sql ⟨outer.resume inner.draft, inner.scope⟩ = t.close outer inner := by
  unfold put close
  by_cases blank : (Text.trim inner.draft.sql).isEmpty = true
  · simp only [if_pos blank]
  · simp only [if_neg blank]
    rfl

namespace Node

mutual
theorem act_follows (node : Node) (r : Rendering) : Follows node.act r (node.render r) := by
  cases node with
  | static content =>
      rw [act, render]
      exact follows_change _ _ _ _ (follows_pure true (r.append content))
  | parameterized content =>
      rw [act, render]
      exact follows_change _ _ _ _ (follows_pure true (r.append content))
  | text parts =>
      rw [act, render]
      refine follows_look Rendering.scope _ r _ (follows_outcome _ _ r _ fun content _ => ?_)
      exact follows_change _ _ _ _ (follows_pure true (r.append content))
  | when test body =>
      rw [act, render]
      refine follows_look Rendering.scope _ r _ (follows_outcome _ _ r _ fun holds _ => ?_)
      cases holds with
      | false => exact follows_pure false r
      | true => exact follows_bind (act_follows body r) fun _ after _ => follows_pure true after
  | choose branches otherwise =>
      cases otherwise with
      | none =>
          rw [act, render]
          refine follows_bind (act_first_follows branches r) fun chosen middle _ => ?_
          cases chosen <;> exact follows_pure _ middle
      | some fallback =>
          rw [act, render]
          refine follows_bind (act_first_follows branches r) fun chosen middle _ => ?_
          cases chosen with
          | true => exact follows_pure true middle
          | false => exact follows_bind (act_follows fallback middle) fun _ last _ => follows_pure true last
  | trim tag trimming body =>
      have inside := follows_capture (fun r => ⟨r.draft.aside, r.scope⟩) (fun _ inner => inner)
        (act_follows body ⟨r.draft.aside, r.scope⟩)
      have whole : (trim tag trimming body).render r = ((body.render ⟨r.draft.aside, r.scope⟩).map fun done =>
          ((done.1, done.2.draft.sql), (⟨r.draft.resume done.2.draft, done.2.scope⟩ : Rendering))) >>= fun done =>
            .ok (done.1.1, trimming.put done.1.2 done.2) := by
        rw [render]
        cases body.render ⟨r.draft.aside, r.scope⟩ with
        | ok done =>
            change _ = Except.ok (done.1, trimming.put done.2.draft.sql ⟨r.draft.resume done.2.draft, done.2.scope⟩)
            rw [trimming.put_eq]
            rfl
        | error cause => rfl
      rw [act, whole]
      exact follows_bind inside fun done middle _ => follows_change _ _ _ _ (follows_pure done.1 _)
  | loop head body =>
      rw [act, render]
      refine follows_look Rendering.scope _ r _ (follows_outcome _ _ r _ fun collection _ => ?_)
      exact head.act_follows body.render body.act (fun r => act_follows body r) collection r
  | bind name value =>
      rw [act, render]
      refine follows_look Rendering.scope _ r _ (follows_outcome _ _ r _ fun found _ => ?_)
      exact follows_change _ _ _ _ (follows_pure true (r.bind name found))
  | sequence children =>
      have whole : (sequence children).render r =
          ((renderAll children r).map fun after => ((), after)) >>= fun done => .ok (true, done.2) := by
        rw [render]
        cases renderAll children r <;> rfl
      rw [act, whole]
      exact follows_bind (act_all_follows children r) fun _ after _ => follows_pure true after
theorem act_all_follows (children : List Node) (r : Rendering) :
    Follows (actAll children) r ((renderAll children r).map fun after => ((), after)) := by
  cases children with
  | nil =>
      rw [actAll, renderAll]
      exact follows_pure () r
  | cons child rest =>
      have whole : (renderAll (child :: rest) r).map (fun after => ((), after)) =
          child.render r >>= fun done => (renderAll rest done.2).map fun after => ((), after) := by
        rw [renderAll]
        cases child.render r <;> rfl
      rw [actAll, whole]
      exact follows_bind (act_follows child r) fun _ middle _ => act_all_follows rest middle
theorem act_first_follows (branches : List (Expression × Node)) (r : Rendering) :
    Follows (actFirst branches) r (renderFirst branches r) := by
  cases branches with
  | nil =>
      rw [actFirst, renderFirst]
      exact follows_pure false r
  | cons branch rest =>
      rcases branch with ⟨test, body⟩
      rw [actFirst, renderFirst]
      refine follows_look Rendering.scope _ r _ (follows_outcome _ _ r _ fun holds _ => ?_)
      cases holds with
      | true => exact follows_bind (act_follows body r) fun _ after _ => follows_pure true after
      | false => exact act_first_follows rest r
end

end Node

end StatementMapper.Template
