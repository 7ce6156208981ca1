import StatementMapper.Proofs.Table
import StatementMapper.Proofs.Template.Nesting
import StatementMapper.Proofs.Value.Fields

set_option autoImplicit false

/-! A loop writes the texts of its rounds that are not blank, with one separator between every two. -/

namespace StatementMapper.Template

open Outcome (bind_ok)

structure Draft.Extends (before after : Draft) : Prop where
  sql : before.sql <+: after.sql
  names : ∀ name ∈ Table.keys before.bindings, name ∈ Table.keys after.bindings
  next : before.next ≤ after.next

namespace Draft

theorem extends_refl (draft : Draft) : Extends draft draft := ⟨List.prefix_refl _, fun _ => id, Nat.le_refl _⟩

theorem extends_trans {first second third : Draft} (one : Extends first second) (other : Extends second third) :
    Extends first third :=
  ⟨one.sql.trans other.sql, fun name bound => other.names name (one.names name bound), Nat.le_trans one.next other.next⟩

theorem extends_append (fragment : List Char) (draft : Draft) : Extends draft (draft.append fragment) := by
  refine ⟨?_, fun _ => id, Nat.le_refl _⟩
  rw [append, joined]
  by_cases fused : fuses draft.sql fragment = true
  · rw [if_pos fused]
    exact List.prefix_append _ _
  · rw [if_neg fused]
    exact List.prefix_append _ _

theorem extends_bind (name : String) (value : Value) (draft : Draft) : Extends draft (draft.bind name value) :=
  ⟨List.prefix_refl _, fun other bound => (Table.keys_put name other value _).mpr (Or.inr bound), Nat.le_refl _⟩

theorem extends_resume {outer inner : Draft} (aside : Extends outer.aside inner) : Extends outer (outer.resume inner) :=
  ⟨List.prefix_refl _, aside.names, aside.next⟩

end Draft

open Draft (Extends extends_refl extends_trans extends_append extends_bind extends_resume)

theorem close_extends (t : Trimming) (outer : Draft) (inner : Rendering) (aside : Extends outer.aside inner.draft) :
    Extends outer (t.close outer inner).draft := by
  have resumed := extends_resume aside
  unfold Trimming.close
  by_cases blank : (Text.trim inner.draft.sql).isEmpty = true
  · simpa only [if_pos blank] using resumed
  · simpa only [if_neg blank] using extends_trans resumed (extends_append _ _)

namespace Loop

theorem introduce_extends (named? : Option String) (number : Nat) (value : Value) (r : Rendering) :
    Extends r.draft (introduce named? number value r).draft := by
  cases named? with
  | none => exact extends_refl _
  | some name => exact extends_bind _ _ _

theorem entered_extends (head : Loop) (index item : Value) (r : Rendering) :
    Extends r.draft.fresh.2.aside (head.entered index item r).draft :=
  extends_trans (introduce_extends _ _ _ ⟨r.draft.fresh.2.aside, r.scope.push⟩) (introduce_extends _ _ _ _)

structure Round where
  index : Value
  item : Value
  number : Nat
  body : List Char

def Round.entry (round : Round) : Value × Value := (round.index, round.item)

def Round.text (head : Loop) (round : Round) : List Char := head.itemize round.number round.body

-- Rounds in which every body can be rendered, each after what the rounds in front of it have left.
inductive Rounds (head : Loop) (body : Rendering → Rendered) : Rendering → List Round → Rendering → Prop where
  | none (r : Rendering) : Rounds head body r [] r
  | next {index item : Value} {r inside last : Rendering} {contributed : Bool} {later : List Round}
      (rendered : body (head.entered index item r) = .ok (contributed, inside))
      (more : Rounds head body ⟨r.draft.resume inside.draft, r.scope⟩ later last) :
      Rounds head body r (⟨index, item, r.draft.next, inside.draft.sql⟩ :: later) last

theorem iterate_ok_iff (head : Loop) (body : Rendering → Rendered) (entries : List (Value × Value)) (r last : Rendering)
    (texts : List (List Char)) :
    iterate head body entries r = .ok (texts, last) ↔
      ∃ rounds, Rounds head body r rounds last ∧ rounds.map Round.entry = entries ∧ rounds.map (Round.text head) = texts := by
  constructor
  · intro ran
    induction entries generalizing r texts with
    | nil =>
        cases ran
        exact ⟨[], .none last, rfl, rfl⟩
    | cons entry rest ih =>
        rcases entry with ⟨index, item⟩
        obtain ⟨contributed, inside, more, first, others, rfl⟩ := (iterate_cons_ok _ _ _ _ _ _ _ _).mp ran
        obtain ⟨rounds, later, rfl, rfl⟩ := ih _ _ others
        exact ⟨_, .next first later, rfl, rfl⟩
  · rintro ⟨rounds, passed, rfl, rfl⟩
    induction passed with
    | none r => rfl
    | next rendered more ih => exact (iterate_cons_ok _ _ _ _ _ _ _ _).mpr ⟨_, _, _, rendered, ih, rfl⟩

-- What rounds leave: the SQL and the scope are as they were, and every round has had a number of its own.
structure Passed (before : Rendering) (rounds : List Round) (after : Rendering) : Prop where
  sql : after.draft.sql = before.draft.sql
  scope : after.scope = before.scope
  names : ∀ name ∈ Table.keys before.draft.bindings, name ∈ Table.keys after.draft.bindings
  next : before.draft.next + rounds.length ≤ after.draft.next
  numbers : ∀ round ∈ rounds, before.draft.next ≤ round.number ∧ round.number < after.draft.next
  ascending : (rounds.map Round.number).Pairwise (· < ·)

theorem rounds_passed (head : Loop) (body : Rendering → Rendered)
    (extending : ∀ r contributed after, body r = .ok (contributed, after) → Extends r.draft after.draft)
    {r last : Rendering} {rounds : List Round} (passed : Rounds head body r rounds last) : Passed r rounds last := by
  induction passed with
  | none r => exact ⟨rfl, rfl, fun _ => id, Nat.le_refl _, fun _ member => (nomatch member), .nil⟩
  | @next index item r inside last contributed later rendered more ih =>
      have grown : Extends r.draft.fresh.2 (r.draft.resume inside.draft) :=
        extends_resume (extends_trans (entered_extends head index item r) (extending _ _ _ rendered))
      have first : r.draft.next + 1 ≤ inside.draft.next := grown.next
      have rest : inside.draft.next + later.length ≤ last.draft.next := ih.next
      have behind : ∀ round ∈ later, inside.draft.next ≤ round.number ∧ round.number < last.draft.next := ih.numbers
      refine ⟨ih.sql, ih.scope, fun name bound => ih.names name (grown.names name bound), ?_, ?_, ?_⟩
      · rw [List.length_cons]
        omega
      · intro round member
        rcases List.mem_cons.mp member with rfl | there
        · exact ⟨Nat.le_refl _, by change r.draft.next < _; omega⟩
        · have bounds := behind round there
          exact ⟨by omega, bounds.2⟩
      · refine List.pairwise_cons.mpr ⟨fun number member => ?_, ih.ascending⟩
        obtain ⟨round, there, rfl⟩ := List.mem_map.mp member
        have bounds := behind round there
        change r.draft.next < _
        omega

theorem render_extends (head : Loop) (body : Rendering → Rendered)
    (extending : ∀ r contributed after, body r = .ok (contributed, after) → Extends r.draft after.draft)
    (collection : Value) (r after : Rendering) (contributed : Bool)
    (ran : head.render body collection r = .ok (contributed, after)) : Extends r.draft after.draft := by
  rcases render_cases head body collection r after contributed ran with ⟨_, rfl⟩ | ⟨texts, last, iterated, rfl⟩
  · exact extends_refl _
  · obtain ⟨rounds, passed, _, _⟩ := (iterate_ok_iff _ _ _ _ _ _).mp iterated
    have left := rounds_passed head body extending passed
    have same : r.draft.sql <+: last.draft.sql := left.sql ▸ List.prefix_refl r.draft.sql
    have grown : Extends r.draft last.draft := ⟨same, left.names, Nat.le_trans (Nat.le_add_right _ _) left.next⟩
    exact extends_trans grown (extends_append _ _)

end Loop

namespace Node

mutual
theorem render_extends (node : Node) (r after : Rendering) (contributed : Bool)
    (ran : node.render r = .ok (contributed, after)) : Extends r.draft after.draft := by
  cases node with
  | static content =>
      rw [render] at ran
      cases ran
      exact extends_append _ _
  | parameterized content =>
      rw [render] at ran
      cases ran
      exact extends_append _ _
  | text parts =>
      rw [render] at ran
      obtain ⟨content, _, ran⟩ := (bind_ok _ _ _).mp ran
      cases ran
      exact extends_append _ _
  | when test body =>
      rw [render] at ran
      obtain ⟨holds, _, ran⟩ := (bind_ok _ _ _).mp ran
      cases holds with
      | false =>
          cases ran
          exact extends_refl _
      | true =>
          rw [if_pos rfl] at ran
          obtain ⟨outcome, inner, ran⟩ := (bind_ok _ _ _).mp ran
          cases ran
          exact render_extends body r outcome.2 outcome.1 inner
  | choose branches otherwise =>
      rw [render] at ran
      obtain ⟨⟨chosen, middle⟩, first, ran⟩ := (bind_ok _ _ _).mp ran
      have grown := render_first_extends branches r middle chosen first
      cases chosen with
      | true =>
          cases ran
          exact grown
      | false =>
          cases otherwise with
          | none =>
              cases ran
              exact grown
          | some fallback =>
              obtain ⟨outcome, last, ran⟩ := (bind_ok _ _ _).mp ran
              cases ran
              exact extends_trans grown (render_extends fallback middle outcome.2 outcome.1 last)
  | trim tag trimming body =>
      rw [render] at ran
      obtain ⟨outcome, inner, ran⟩ := (bind_ok _ _ _).mp ran
      cases ran
      exact close_extends _ _ _ (render_extends body ⟨r.draft.aside, r.scope⟩ outcome.2 outcome.1 inner)
  | loop head body =>
      rw [render] at ran
      obtain ⟨collection, _, ran⟩ := (bind_ok _ _ _).mp ran
      exact Loop.render_extends head body.render
        (fun r contributed after ran => render_extends body r after contributed ran) collection r after _ ran
  | bind name value =>
      rw [render] at ran
      obtain ⟨found, _, ran⟩ := (bind_ok _ _ _).mp ran
      cases ran
      exact extends_bind _ _ _
  | sequence children =>
      rw [render] at ran
      obtain ⟨last, rendered, ran⟩ := (bind_ok _ _ _).mp ran
      cases ran
      exact render_all_extends children r after rendered
theorem render_all_extends (children : List Node) (r after : Rendering) (ran : renderAll children r = .ok after) :
    Extends r.draft after.draft := by
  cases children with
  | nil =>
      rw [renderAll] at ran
      cases ran
      exact extends_refl _
  | cons child rest =>
      rw [renderAll] at ran
      obtain ⟨outcome, first, ran⟩ := (bind_ok _ _ _).mp ran
      exact extends_trans (render_extends child r outcome.2 outcome.1 first) (render_all_extends rest outcome.2 after ran)
theorem render_first_extends (branches : List (Expression × Node)) (r after : Rendering) (chosen : Bool)
    (ran : renderFirst branches r = .ok (chosen, after)) : Extends r.draft after.draft := by
  cases branches with
  | nil =>
      rw [renderFirst] at ran
      cases ran
      exact extends_refl _
  | cons branch rest =>
      rcases branch with ⟨test, body⟩
      rw [renderFirst] at ran
      obtain ⟨holds, _, ran⟩ := (bind_ok _ _ _).mp ran
      cases holds with
      | true =>
          rw [if_pos rfl] at ran
          obtain ⟨outcome, inner, ran⟩ := (bind_ok _ _ _).mp ran
          cases ran
          exact render_extends body r outcome.2 outcome.1 inner
      | false => exact render_first_extends rest r after chosen ran
end

end Node

namespace Loop

def between (head : Loop) : List (List Char) → List Char
  | [] => []
  | first :: rest => first ++ rest.flatMap (head.separator.toList ++ ·)

theorem between_eq (head : Loop) (bodies : List (List Char)) :
    head.between bodies = head.separator.toList.intercalate bodies := by
  cases bodies with
  | nil => rfl
  | cons first rest =>
      induction rest generalizing first with
      | nil => simp [between]
      | cons second more ih =>
          rw [List.intercalate_cons_cons, ← ih second]
          simp [between]

def written (head : Loop) (rounds : List Round) : List Char :=
  head.opening.toList ++ head.between ((rounds.map (Round.text head)).filter (!Text.allBlank ·)) ++ head.closing.toList

structure InOrder (collection : Value) (rounds : List Round) : Prop where
  items : ∀ items, collection = .list items → rounds.map Round.item = items
  fields : ∀ fields, collection = .map fields → Value.Ordered fields →
    rounds.map Round.item = fields.map Prod.snd ∧
      rounds.Pairwise fun round later => ∃ name next, round.index = .text name ∧ later.index = .text next ∧ name < next

theorem rounds_in_order (collection : Value) (rounds : List Round)
    (entries : entries? collection = some (rounds.map Round.entry)) : InOrder collection rounds := by
  refine ⟨?_, ?_⟩
  · rintro items rfl
    obtain ⟨listed, found, same⟩ := row_entries items
    rw [found, Option.some.injEq] at entries
    rw [← same, entries, List.map_map]
    rfl
  · rintro fields rfl ordered
    have same : fields.map (fun field => (Value.text field.1, field.2)) = rounds.map Round.entry := Option.some.inj entries
    refine ⟨?_, ?_⟩
    · have values := congrArg (List.map Prod.snd) same
      rw [List.map_map, List.map_map] at values
      exact values.symm
    · have ascending : (rounds.map Round.entry).Pairwise fun one other =>
          ∃ name next, one.1 = .text name ∧ other.1 = .text next ∧ name < next := by
        rw [← same, List.pairwise_map]
        exact ordered.imp fun less => ⟨_, _, rfl, rfl, less⟩
      exact List.pairwise_map.mp ascending

theorem rounds_written (head : Loop) (body : Node) (r last : Rendering) (collection : Value) (rounds : List Round)
    (evaluated : head.collection.evaluate r.scope = .ok collection)
    (entries : entries? collection = some (rounds.map Round.entry)) (passed : Rounds head body.render r rounds last) :
    ∃ after, (Node.loop head body).render r = .ok (true, after) ∧
      after.draft.sql = (if rounds = [] then r.draft.sql else Draft.joined r.draft.sql (head.written rounds)) ∧
      after.scope = r.scope ∧ r.draft.next + rounds.length ≤ after.draft.next ∧ InOrder collection rounds ∧
      (rounds.map Round.number).Pairwise (· < ·) ∧
      ∀ round ∈ rounds, r.draft.next ≤ round.number ∧ round.number < after.draft.next := by
  have left := rounds_passed head body.render (fun r contributed after => body.render_extends r after contributed) passed
  have iterated := (iterate_ok_iff head body.render _ r last _).mpr ⟨rounds, passed, rfl, rfl⟩
  have ran := loop_rendered head body collection _ r last _ evaluated entries iterated
  refine ⟨_, ran, ?_, left.scope, left.next, rounds_in_order collection rounds entries, left.ascending, left.numbers⟩
  cases rounds with
  | nil =>
      change Draft.joined last.draft.sql [] = _
      rw [joined_nil, left.sql, if_pos rfl]
  | cons round later =>
      change Draft.joined last.draft.sql (head.listing _) = _
      rw [left.sql, if_neg (List.cons_ne_nil round later), written, between_eq]
      rfl

end Loop

namespace Flags

def loop : Loop := ⟨⟨"xs", .property "xs"⟩, some "i", none, "(", ")", ", ", false⟩

def flag : Node := .when ⟨"i", .property "i"⟩ (.parameterized "#\x7bi\x7d".toList)

def values : List Value := [.integer 0, .integer 7, .integer 0, .integer 9]

def before : Rendering := ⟨{ sql := "id IN".toList }, ⟨[[("xs", .list values)]], .none⟩⟩

def entries : List (Value × Value) :=
  [(.integer 0, .integer 0), (.integer 1, .integer 7), (.integer 2, .integer 0), (.integer 3, .integer 9)]

theorem flags_written :
    ∃ after, (Node.loop loop flag).render before = .ok (true, after) ∧
      after.draft.sql = "id IN (#\x7b__frch_i_1\x7d, #\x7b__frch_i_3\x7d)".toList ∧ after.scope = before.scope ∧
        4 ≤ after.draft.next := by
  obtain ⟨last, ran⟩ : ∃ last, loop.iterate flag.render entries before = .ok ([loop.itemize 0 [],
      loop.itemize 1 "#\x7bi\x7d".toList, loop.itemize 2 [], loop.itemize 3 "#\x7bi\x7d".toList], last) := ⟨_, rfl⟩
  obtain ⟨rounds, passed, own, texts⟩ := (Loop.iterate_ok_iff _ _ _ _ _ _).mp ran
  obtain ⟨after, whole, sql, scope, next, _⟩ :=
    Loop.rounds_written loop flag before last (.list values) rounds rfl (by rw [own]; rfl) passed
  have four : rounds.length = 4 := by
    rw [← List.length_map Loop.Round.entry, own]
    rfl
  have nonempty : rounds ≠ [] := List.ne_nil_of_length_pos (by omega)
  refine ⟨after, whole, ?_, scope, by omega⟩
  rw [sql, if_neg nonempty, Loop.written, texts]
  decide +kernel

end Flags

end StatementMapper.Template
