import StatementMapper.Proofs.Template.Actions
import StatementMapper.Proofs.Template.Joining
import StatementMapper.Proofs.Template.Rounds

set_option autoImplicit false

/-! Rendering only appends to the SQL in front of it, and does not depend on it. -/

namespace StatementMapper.Template

open Loop (joined_nil joined_empty)

namespace Draft

theorem joined_gap (left right : List Char) :
    joined left right = left ++ ((if fuses left right then [' '] else []) ++ right) := by
  unfold joined
  by_cases fused : fuses left right = true
  · rw [if_pos fused, if_pos fused]
    rfl
  · rw [if_neg fused, if_neg fused]
    rfl

-- A space between two texts is decided next to where they meet, unless the text between two others is empty.
theorem joined_assoc (first second third : List Char) :
    joined (joined first second) third = joined first (joined second third) := by
  cases second with
  | nil => rw [joined_nil, joined_empty]
  | cons c rest =>
      have last : (joined first (c :: rest)).getLast? = (c :: rest).getLast? := by
        rw [last_joined (c :: rest) rfl, List.getLast?_append_of_ne_nil _ (List.cons_ne_nil c rest)]
      have head : (joined (c :: rest) third).head? = (c :: rest).head? := by
        rw [joined_gap]
        rfl
      have behind : fuses (joined first (c :: rest)) third = fuses (c :: rest) third := by rw [fuses, fuses, last]
      have before : fuses first (joined (c :: rest) third) = fuses first (c :: rest) := by rw [fuses, fuses, head]
      rw [joined_gap _ third, behind, joined_gap first (joined _ _), before, joined_gap first, joined_gap _ third]
      simp only [List.append_assoc]

def behind (text : List Char) (draft : Draft) : Draft := { draft with sql := joined text draft.sql }

def holding (text : List Char) (draft : Draft) : Draft := { draft with sql := text }

end Draft

open Draft (joined Extends)

namespace Rendering

def behind (text : List Char) (r : Rendering) : Rendering := ⟨r.draft.behind text, r.scope⟩

def holding (text : List Char) (r : Rendering) : Rendering := ⟨r.draft.holding text, r.scope⟩

theorem append_behind (text fragment : List Char) (r : Rendering) :
    (r.behind text).append fragment = (r.append fragment).behind text := by
  rw [behind, append, append, behind, Draft.behind, Draft.append, Draft.append, Draft.behind, Draft.joined_assoc]

theorem holding_behind (text : List Char) (r : Rendering) : (r.holding []).behind text = r.holding text := by
  rw [holding, behind, Draft.holding, Draft.behind, joined_nil]
  rfl

theorem holding_self (r : Rendering) : r.holding r.draft.sql = r := rfl

end Rendering

open Rendering (outcome capture aside)

-- What an action does behind some text is what it does without it.
def Unaffected {A : Type} (action : Action Rendering A) : Prop :=
  ∀ text r, action.run (r.behind text) = ((action.run r).1, (action.run r).2.behind text)

section

variable {A B : Type}

theorem unaffected_pure (a : A) : Unaffected (pure a) := fun _ _ => rfl

theorem unaffected_outcome (found : Except EvaluationFault A) : Unaffected (outcome found) := by
  intro text r
  cases found <;> rfl

theorem unaffected_look (view : Rendering → A) (same : ∀ text r, view (r.behind text) = view r) :
    Unaffected (Action.look view) := by
  intro text r
  rw [Action.run_look, Action.run_look, same]

theorem unaffected_scope : Unaffected (Action.look Rendering.scope) := unaffected_look _ fun _ _ => rfl

theorem unaffected_change (f : Rendering → Rendering) (same : ∀ text r, f (r.behind text) = (f r).behind text) :
    Unaffected (Action.change f) := by
  intro text r
  rw [Action.run_change, Action.run_change, same]

theorem unaffected_append (fragment : List Char) : Unaffected (Action.change (·.append fragment)) :=
  unaffected_change _ fun text r => r.append_behind text fragment

theorem unaffected_bind {first : Action Rendering A} {second : A → Action Rendering B} (begins : Unaffected first)
    (goes : ∀ a, Unaffected (second a)) : Unaffected (first >>= second) := by
  intro text r
  have same := begins text r
  rcases ran : first.run r with ⟨done, middle⟩
  rw [ran] at same
  cases done with
  | ok a => rw [Action.run_bind_ok same, Action.run_bind_ok ran, goes a text middle]
  | error cause => rw [Action.run_bind_error same, Action.run_bind_error ran]

-- An action on SQL of its own may depend on that SQL as it likes.
theorem unaffected_capture (enter : Rendering → Rendering) (leave : Scope → Scope → Scope) (action : Action Rendering A)
    (same : ∀ text r, enter (r.behind text) = enter r) : Unaffected (capture enter leave action) := by
  intro text r
  rw [Action.run, Action.run, capture, capture, same]
  rfl

end

namespace Loop

theorem rounds_unaffected (head : Loop) (body : Action Rendering Bool) (entries : List (Value × Value)) :
    Unaffected (head.actRounds body entries) := by
  induction entries with
  | nil => exact unaffected_pure []
  | cons entry rest ih =>
      rcases entry with ⟨index, item⟩
      have round : Unaffected (head.actRound body index item) :=
        unaffected_bind (unaffected_look _ fun _ _ => rfl) fun number =>
          unaffected_bind (unaffected_capture _ _ body fun _ _ => rfl) fun done => unaffected_pure _
      exact unaffected_bind round fun written => unaffected_bind ih fun more => unaffected_pure _

-- The body of a loop is rendered aside, so nothing is asked of it.
theorem act_unaffected (head : Loop) (body : Action Rendering Bool) (collection : Value) :
    Unaffected (head.act body collection) := by
  unfold act
  cases entries? collection with
  | none =>
      by_cases null : collection.isNull = true
      · by_cases nullable : head.nullable = true
        · simpa [null, nullable] using unaffected_pure true
        · simpa [null, nullable] using unaffected_outcome _
      · simpa [null] using unaffected_outcome _
  | some entries =>
      cases entries with
      | nil => exact unaffected_pure true
      | cons entry rest =>
          exact unaffected_bind (head.rounds_unaffected body (entry :: rest)) fun bodies =>
            unaffected_bind (unaffected_append _) fun _ => unaffected_pure true

end Loop

theorem Trimming.unaffected_put (t : Trimming) (text : List Char) : Unaffected (Action.change (t.put text)) := by
  unfold put
  by_cases blank : (Text.trim text).isEmpty = true
  · simp only [if_pos blank]
    exact unaffected_change _ fun _ _ => rfl
  · simp only [if_neg blank]
    exact unaffected_append _

namespace Node

mutual
theorem act_unaffected (node : Node) : Unaffected node.act := by
  cases node with
  | static content =>
      rw [act]
      exact unaffected_bind (unaffected_append content) fun _ => unaffected_pure true
  | parameterized content =>
      rw [act]
      exact unaffected_bind (unaffected_append content) fun _ => unaffected_pure true
  | text parts =>
      rw [act]
      exact unaffected_bind unaffected_scope fun scope => unaffected_bind (unaffected_outcome _) fun content =>
        unaffected_bind (unaffected_append content) fun _ => unaffected_pure true
  | when test body =>
      rw [act]
      refine unaffected_bind unaffected_scope fun scope => unaffected_bind (unaffected_outcome _) fun holds => ?_
      cases holds with
      | false => exact unaffected_pure false
      | true => exact unaffected_bind (act_unaffected body) fun _ => unaffected_pure true
  | choose branches otherwise =>
      have first := act_first_unaffected branches
      cases otherwise with
      | none =>
          rw [act]
          refine unaffected_bind first fun chosen => ?_
          cases chosen <;> exact unaffected_pure _
      | some fallback =>
          rw [act]
          refine unaffected_bind first fun chosen => ?_
          cases chosen with
          | true => exact unaffected_pure true
          | false => exact unaffected_bind (act_unaffected fallback) fun _ => unaffected_pure true
  | trim tag trimming body =>
      rw [act]
      exact unaffected_bind (unaffected_capture _ _ body.act fun _ _ => rfl) fun done =>
        unaffected_bind (trimming.unaffected_put done.2) fun _ => unaffected_pure done.1
  | loop head body =>
      rw [act]
      exact unaffected_bind unaffected_scope fun scope => unaffected_bind (unaffected_outcome _) fun collection =>
        head.act_unaffected body.act collection
  | bind name value =>
      rw [act]
      exact unaffected_bind unaffected_scope fun scope => unaffected_bind (unaffected_outcome _) fun found =>
        unaffected_bind (unaffected_change _ fun _ _ => rfl) fun _ => unaffected_pure true
  | sequence children =>
      rw [act]
      exact unaffected_bind (act_all_unaffected children) fun _ => unaffected_pure true
theorem act_all_unaffected (children : List Node) : Unaffected (actAll children) := by
  cases children with
  | nil =>
      rw [actAll]
      exact unaffected_pure ()
  | cons child rest =>
      rw [actAll]
      exact unaffected_bind (act_unaffected child) fun _ => act_all_unaffected rest
theorem act_first_unaffected (branches : List (Expression × Node)) : Unaffected (actFirst branches) := by
  cases branches with
  | nil =>
      rw [actFirst]
      exact unaffected_pure false
  | cons branch rest =>
      rcases branch with ⟨test, body⟩
      rw [actFirst]
      refine unaffected_bind unaffected_scope fun scope => unaffected_bind (unaffected_outcome _) fun holds => ?_
      cases holds with
      | true => exact unaffected_bind (act_unaffected body) fun _ => unaffected_pure true
      | false => exact act_first_unaffected rest
end

end Node

-- All but the SQL is the same, and the same fragment has been joined to the two texts.
structure Alongside (start left other last : Rendering) : Prop where
  bindings : last.draft.bindings = left.draft.bindings
  next : last.draft.next = left.draft.next
  scope : last.scope = left.scope
  fragment : ∃ fragment, left.draft.sql = joined start.draft.sql fragment ∧ last.draft.sql = joined other.draft.sql fragment
  words : ∃ added more, left.draft.sql = start.draft.sql ++ added ∧ last.draft.sql = other.draft.sql ++ more ∧
    Text.words added = Text.words more

theorem words_added (text fragment : List Char) :
    ∃ added, joined text fragment = text ++ added ∧ Text.words added = Text.words fragment := by
  refine ⟨_, Draft.joined_gap text fragment, ?_⟩
  by_cases fused : Draft.fuses text fragment = true
  · rw [if_pos fused]
    exact Text.words_cons_blank ' ' fragment (by decide)
  · rw [if_neg fused]
    rfl

theorem alongside_behind (start left : Rendering) (text : List Char) :
    Alongside start (left.behind start.draft.sql) (start.holding text) (left.behind text) := by
  obtain ⟨added, own, words⟩ := words_added start.draft.sql left.draft.sql
  obtain ⟨more, other, same⟩ := words_added text left.draft.sql
  exact ⟨rfl, rfl, rfl, ⟨left.draft.sql, rfl, rfl⟩, added, more, own, other, words.trans same.symm⟩

theorem unaffected_alongside {A : Type} {action : Action Rendering A} (unaffected : Unaffected action) (r : Rendering)
    (text : List Char) :
    (action.run (r.holding text)).1 = (action.run r).1 ∧
      Alongside r (action.run r).2 (r.holding text) (action.run (r.holding text)).2 := by
  have own := unaffected r.draft.sql (r.holding [])
  have other := unaffected text (r.holding [])
  rw [Rendering.holding_behind] at own other
  rw [r.holding_self] at own
  rw [own, other]
  exact ⟨rfl, alongside_behind r _ text⟩

namespace Node

theorem rendered_alongside (node : Node) (r : Rendering) (text : List Char) :
    Outcome.Related (fun one other => other.1 = one.1 ∧ Alongside r one.2 (r.holding text) other.2) (node.render r)
      (node.render (r.holding text)) := by
  obtain ⟨same, left⟩ := unaffected_alongside node.act_unaffected r text
  have own := node.act_follows r
  have other := node.act_follows (r.holding text)
  cases first : node.render r with
  | ok done =>
      have ran := own.answers _ _ first
      cases second : node.render (r.holding text) with
      | ok more =>
          have also := other.answers _ _ second
          rw [ran, also] at same left
          exact .ok ⟨Except.ok.inj same, left⟩
      | error cause =>
          obtain ⟨_, failed⟩ := other.fails cause second
          rw [ran, failed] at same
          cases same
  | error cause =>
      obtain ⟨_, failed⟩ := own.fails cause first
      cases second : node.render (r.holding text) with
      | ok more =>
          have also := other.answers _ _ second
          rw [failed, also] at same
          cases same
      | error reason =>
          obtain ⟨_, broken⟩ := other.fails reason second
          rw [failed, broken] at same
          cases same
          exact .error _

theorem only_appends (node : Node) (r : Rendering) (text : List Char) :
    (∀ contributed after, node.render r = .ok (contributed, after) → Extends r.draft after.draft) ∧
      Outcome.Related (fun one other => other.1 = one.1 ∧ Alongside r one.2 (r.holding text) other.2) (node.render r)
        (node.render (r.holding text)) ∧
      (∀ r, Follows node.act r (node.render r)) ∧
      (node.act.run (r.holding text)).1 = (node.act.run r).1 ∧
      Alongside r (node.act.run r).2 (r.holding text) (node.act.run (r.holding text)).2 :=
  ⟨fun contributed after => node.render_extends r after contributed, node.rendered_alongside r text, node.act_follows,
    unaffected_alongside node.act_unaffected r text⟩

end Node

namespace Sizes

-- A loop that fails in its second round: a number has no size.
def loop : Loop := ⟨⟨"xs", .property "xs"⟩, some "x", none, "(", ")", ",", false⟩

def node : Node := .loop loop (.text [.substitution ⟨"x.size()", .call "x" .size⟩])

def before : Rendering := ⟨{ sql := "IN".toList }, ⟨[[("xs", .list [.list [], .integer 7])]], .none⟩⟩

example :
    let left := (node.act.run before).2.draft
    left.sql = "IN".toList ∧ left.next = 2 ∧ Table.keys left.bindings = ["__frch_x_0", "__frch_x_1"] := by decide +kernel

end Sizes

end StatementMapper.Template
