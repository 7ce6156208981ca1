import StatementMapper.Proofs.Template.Rounds
import StatementMapper.Proofs.Template.Writes

set_option autoImplicit false

/-! No value that is bound for an iteration shares its name with another one that is bound. -/

namespace StatementMapper.Template

open Outcome (bind_ok)
open Loop (boundName Generated)
open Write (Apart applied)

theorem Trimming.close_still (t : Trimming) (outer : Draft) (inner : Rendering) :
    (t.close outer inner).draft.next = inner.draft.next ∧ (t.close outer inner).draft.bindings = inner.draft.bindings := by
  unfold close
  by_cases blank : (Text.trim inner.draft.sql).isEmpty = true
  · simp only [if_pos blank]
    exact ⟨rfl, rfl⟩
  · simp only [if_neg blank]
    exact ⟨rfl, rfl⟩

def Leaves (outcome : Rendered) (draft : Draft) : Prop :=
  ∃ contributed after, outcome = .ok (contributed, after) ∧ after.draft = draft

theorem leaves_body {body : Rendered} {draft : Draft}
    (left : Leaves (do let (_, after) ← body; .ok (true, after)) draft) : Leaves body draft := by
  obtain ⟨contributed, after, ran, rfl⟩ := left
  obtain ⟨outcome, inner, ran⟩ := (bind_ok _ _ _).mp ran
  cases ran
  exact ⟨_, _, inner, rfl⟩

namespace Loop

def Distinct (head : Loop) : Prop := ∀ name, head.item = some name → head.index ≠ some name

def introduces (named? : Option String) (number : Nat) (value : Value) : List Write :=
  match named? with
  | some name => [.loop name number value]
  | none => []

def enters (head : Loop) (number : Nat) (index item : Value) : List Write :=
  introduces head.item number item ++ introduces head.index number index

def writes (head : Loop) (body : Rendering → Rendered) (written : Rendering → List Write) :
    List (Value × Value) → Rendering → List Write
  | [], _ => []
  | (index, item) :: rest, r =>
    head.enters r.draft.next index item ++ (written (head.entered index item r) ++
      match body (head.entered index item r) with
      | .ok (_, after) => writes head body written rest ⟨r.draft.resume after.draft, r.scope⟩
      | .error _ => [])

theorem introduce_applied (named? : Option String) (number : Nat) (value : Value) (r : Rendering) :
    (introduce named? number value r).draft.bindings = applied (introduces named? number value) r.draft.bindings ∧
      (introduce named? number value r).draft.next = r.draft.next := by
  cases named? <;> exact ⟨rfl, rfl⟩

theorem introduces_named (named? : Option String) (number : Nat) (value : Value) (write : Write)
    (member : write ∈ introduces named? number value) : ∃ name, named? = some name ∧ write = .loop name number value := by
  cases named? with
  | none => cases member
  | some name => exact ⟨name, rfl, List.mem_singleton.mp member⟩

-- The variables of an iteration take the number that is next, and the iteration starts with the one behind it.
theorem enters_logged (head : Loop) (distinct : head.Distinct) (index item : Value) (r : Rendering) :
    Logged (head.enters r.draft.next index item) r.draft (· = (head.entered index item r).draft) := by
  have own : ∀ write ∈ head.enters r.draft.next index item, write.number? = some r.draft.next := by
    refine List.forall_mem_append.mpr ⟨fun write member => ?_, fun write member => ?_⟩
    · obtain ⟨name, _, rfl⟩ := introduces_named _ _ _ write member
      rfl
    · obtain ⟨name, _, rfl⟩ := introduces_named _ _ _ write member
      rfl
  have each (named? : Option String) (value : Value) : (introduces named? r.draft.next value).Pairwise Apart := by
    cases named? <;> simp [introduces]
  obtain ⟨bindings, next⟩ :=
    introduce_applied head.item r.draft.next item ⟨{ r.draft with next := r.draft.next + 1 }.aside, r.scope.push⟩
  obtain ⟨both, after⟩ := introduce_applied head.index r.draft.next index
    (introduce head.item r.draft.next item ⟨{ r.draft with next := r.draft.next + 1 }.aside, r.scope.push⟩)
  have behind : (head.entered index item r).draft.next = r.draft.next + 1 := after.trans next
  constructor
  · intro write member plain
    rw [own write member] at plain
    cases plain
  · intro write member number numbered
    rw [own write member] at numbered
    exact Nat.le_of_eq (Option.some.inj numbered)
  · refine List.pairwise_append.mpr ⟨each _ _, each _ _, fun write member other among _ same => ?_⟩
    obtain ⟨name, named, rfl⟩ := introduces_named _ _ _ write member
    obtain ⟨also, called, rfl⟩ := introduces_named _ _ _ other among
    obtain ⟨rfl, _⟩ := (bound_name_iff name also _ _).mp same
    exact distinct name named called
  · rintro draft rfl
    omega
  · rintro draft rfl write member number numbered
    rw [own write member] at numbered
    cases numbered
    omega
  · rintro draft rfl
    rw [entered, both, bindings, enters, Write.applied_append]
    rfl

theorem iterate_logged (head : Loop) (distinct : head.Distinct) (body : Rendering → Rendered) (written : Rendering → List Write)
    (sound : ∀ r, Logged (written r) r.draft (Leaves (body r))) (entries : List (Value × Value)) (r : Rendering) :
    Logged (head.writes body written entries r) r.draft
      fun draft => ∃ texts last, head.iterate body entries r = .ok (texts, last) ∧ last.draft = draft := by
  induction entries generalizing r with
  | nil =>
      refine Logged.none ?_
      rintro draft ⟨texts, last, ran, rfl⟩
      cases ran
      exact ⟨Nat.le_refl _, rfl⟩
  | cons entry rest ih =>
      rcases entry with ⟨index, item⟩
      rw [writes]
      refine (head.enters_logged distinct index item r).append rfl ?_
      cases rendered : body (head.entered index item r) with
      | error cause =>
          simp only [List.append_nil]
          refine (sound _).failed ?_
          rintro draft ⟨texts, last, ran, rfl⟩
          obtain ⟨_, _, _, first, _⟩ := (iterate_cons_ok _ _ _ _ _ _ _ _).mp ran
          rw [rendered] at first
          cases first
      | ok outcome =>
          obtain ⟨contributed, after⟩ := outcome
          have more : Logged _ after.draft _ := (ih ⟨r.draft.resume after.draft, r.scope⟩).since rfl rfl
          refine ((sound _).append ⟨contributed, after, rendered, rfl⟩ more).weaken ?_
          rintro draft ⟨texts, last, ran, rfl⟩
          obtain ⟨_, middle, more, first, others, _⟩ := (iterate_cons_ok _ _ _ _ _ _ _ _).mp ran
          rw [rendered] at first
          cases first
          exact ⟨more, last, others, rfl⟩

theorem render_logged (head : Loop) (distinct : head.Distinct) (body : Rendering → Rendered) (written : Rendering → List Write)
    (sound : ∀ r, Logged (written r) r.draft (Leaves (body r))) (collection : Value) (r : Rendering) :
    Logged (head.writes body written ((entries? collection).getD []) r) r.draft (Leaves (head.render body collection r)) := by
  refine (head.iterate_logged distinct body written sound _ r).reach ?_
  rintro draft ⟨contributed, after, ran, rfl⟩
  rcases render_cases head body collection r after contributed ran with ⟨empty, rfl⟩ | ⟨texts, last, iterated, rfl⟩
  · rw [empty]
    exact ⟨after.draft, ⟨[], after, rfl, rfl⟩, rfl, rfl⟩
  · exact ⟨last.draft, ⟨texts, last, iterated, rfl⟩, rfl, rfl⟩

end Loop

namespace Node

-- No bind has a name such as loops generate, and no loop has one name for both of its variables.
mutual
def Distinct : Node → Prop
  | when _ body => body.Distinct
  | choose branches none => FirstDistinct branches
  | choose branches (some fallback) => FirstDistinct branches ∧ fallback.Distinct
  | trim _ _ body => body.Distinct
  | loop head body => head.Distinct ∧ body.Distinct
  | bind name _ => ¬ Generated name
  | sequence children => AllDistinct children
  | static _ => True
  | parameterized _ => True
  | text _ => True
def AllDistinct : List Node → Prop
  | [] => True
  | child :: rest => child.Distinct ∧ AllDistinct rest
def FirstDistinct : List (Expression × Node) → Prop
  | [] => True
  | (_, body) :: rest => body.Distinct ∧ FirstDistinct rest
end

-- What a rendering binds, in order and as far as it comes.
mutual
def writes (node : Node) (r : Rendering) : List Write :=
  match node with
  | when test body =>
    match test.holds r.scope with
    | .ok true => body.writes r
    | _ => []
  | choose branches otherwise =>
    writesFirst branches r ++
      match renderFirst branches r with
      | .ok (false, after) =>
        match otherwise with
        | some fallback => fallback.writes after
        | none => []
      | _ => []
  | trim _ _ body => body.writes ⟨r.draft.aside, r.scope⟩
  | loop head body =>
    match head.collection.evaluate r.scope with
    | .ok collection => head.writes body.render body.writes ((Loop.entries? collection).getD []) r
    | .error _ => []
  | bind name value =>
    match value.evaluate r.scope with
    | .ok found => [.bind name found]
    | .error _ => []
  | sequence children => writesAll children r
  | static _ => []
  | parameterized _ => []
  | text _ => []
def writesAll (children : List Node) (r : Rendering) : List Write :=
  match children with
  | [] => []
  | child :: rest =>
    child.writes r ++
      match child.render r with
      | .ok (_, after) => writesAll rest after
      | .error _ => []
def writesFirst (branches : List (Expression × Node)) (r : Rendering) : List Write :=
  match branches with
  | [] => []
  | (test, body) :: rest =>
    match test.holds r.scope with
    | .ok true => body.writes r
    | .ok false => writesFirst rest r
    | .error _ => []
end

theorem logged_still (r : Rendering) (outcome : Rendered)
    (still : ∀ contributed after, outcome = .ok (contributed, after) →
      after.draft.next = r.draft.next ∧ after.draft.bindings = r.draft.bindings) : Logged [] r.draft (Leaves outcome) := by
  refine Logged.none ?_
  rintro draft ⟨contributed, after, ran, rfl⟩
  obtain ⟨next, bindings⟩ := still contributed after ran
  exact ⟨Nat.le_of_eq next.symm, bindings⟩

theorem bind_logged (name : String) (value : Value) (r : Rendering) (distinct : ¬ Generated name) :
    Logged [.bind name value] r.draft (· = (r.bind name value).draft) where
  ungenerated write member _ := by
    cases List.mem_singleton.mp member
    exact distinct
  above write member number own := by
    cases List.mem_singleton.mp member
    cases own
  apart := List.pairwise_singleton _ _
  later := by
    rintro draft rfl
    exact Nat.le_refl _
  below draft _ write member number own := by
    cases List.mem_singleton.mp member
    cases own
  bindings := by
    rintro draft rfl
    rfl

mutual
theorem render_logged (node : Node) (distinct : node.Distinct) (r : Rendering) :
    Logged (node.writes r) r.draft (Leaves (node.render r)) := by
  cases node with
  | static content =>
      rw [render, writes]
      refine logged_still r _ fun contributed after ran => ?_
      cases ran
      exact ⟨rfl, rfl⟩
  | parameterized content =>
      rw [render, writes]
      refine logged_still r _ fun contributed after ran => ?_
      cases ran
      exact ⟨rfl, rfl⟩
  | text parts =>
      rw [render, writes]
      refine logged_still r _ fun contributed after ran => ?_
      obtain ⟨content, _, ran⟩ := (bind_ok _ _ _).mp ran
      cases ran
      exact ⟨rfl, rfl⟩
  | when test body =>
      rw [render, writes]
      cases verdict : test.holds r.scope with
      | error cause => exact logged_still r _ fun contributed after ran => nomatch ran
      | ok holds =>
          cases holds with
          | false =>
              refine logged_still r _ fun contributed after ran => ?_
              cases ran
              exact ⟨rfl, rfl⟩
          | true => exact (render_logged body distinct r).weaken fun draft left => leaves_body left
  | choose branches otherwise =>
      have early : FirstDistinct branches := by
        cases otherwise with
        | none => exact distinct
        | some fallback => exact distinct.1
      have first := first_logged branches early r
      rw [render, writes]
      cases chosen : renderFirst branches r with
      | error cause =>
          rw [chosen] at first
          rw [List.append_nil]
          exact first.weaken fun draft ⟨contributed, after, ran, same⟩ => nomatch ran
      | ok outcome =>
          obtain ⟨found, middle⟩ := outcome
          rw [chosen] at first
          cases found with
          | true =>
              rw [List.append_nil]
              refine first.weaken ?_
              rintro draft ⟨contributed, after, ran, rfl⟩
              cases ran
              exact ⟨_, _, rfl, rfl⟩
          | false =>
              cases otherwise with
              | none =>
                  rw [List.append_nil]
                  refine first.weaken ?_
                  rintro draft ⟨contributed, after, ran, rfl⟩
                  cases ran
                  exact ⟨_, _, rfl, rfl⟩
              | some fallback =>
                  have last := (render_logged fallback distinct.2 middle).weaken fun draft left => leaves_body left
                  exact first.append ⟨false, middle, rfl, rfl⟩ last
  | trim tag trimming body =>
      have inside := render_logged body distinct ⟨r.draft.aside, r.scope⟩
      rw [render, writes]
      refine (inside.since rfl rfl : Logged _ r.draft _).reach ?_
      rintro draft ⟨contributed, after, ran, rfl⟩
      obtain ⟨outcome, inner, ran⟩ := (bind_ok _ _ _).mp ran
      cases ran
      obtain ⟨next, bindings⟩ := trimming.close_still r.draft outcome.2
      exact ⟨_, ⟨_, _, inner, rfl⟩, next, bindings⟩
  | loop head body =>
      rw [render, writes]
      cases value : head.collection.evaluate r.scope with
      | error cause => exact logged_still r _ fun contributed after ran => nomatch ran
      | ok collection =>
          exact head.render_logged distinct.1 body.render body.writes (fun r => render_logged body distinct.2 r) collection r
  | bind name value =>
      rw [render, writes]
      cases evaluated : value.evaluate r.scope with
      | error cause => exact logged_still r _ fun contributed after ran => nomatch ran
      | ok found =>
          refine (bind_logged name found r distinct).weaken ?_
          rintro draft ⟨contributed, after, ran, rfl⟩
          cases ran
          rfl
  | sequence children =>
      rw [render, writes]
      refine (all_logged children distinct r).weaken ?_
      rintro draft ⟨contributed, after, ran, rfl⟩
      obtain ⟨last, rendered, ran⟩ := (bind_ok _ _ _).mp ran
      cases ran
      exact ⟨_, rendered, rfl⟩
theorem all_logged (children : List Node) (distinct : AllDistinct children) (r : Rendering) :
    Logged (writesAll children r) r.draft fun draft => ∃ after, renderAll children r = .ok after ∧ after.draft = draft := by
  cases children with
  | nil =>
      rw [renderAll, writesAll]
      refine Logged.none ?_
      rintro draft ⟨after, ran, rfl⟩
      cases ran
      exact ⟨Nat.le_refl _, rfl⟩
  | cons child rest =>
      have first := render_logged child distinct.1 r
      rw [renderAll, writesAll]
      cases rendered : child.render r with
      | error cause =>
          rw [rendered] at first
          rw [List.append_nil]
          exact first.failed fun draft ⟨after, ran, same⟩ => nomatch ran
      | ok outcome =>
          obtain ⟨contributed, middle⟩ := outcome
          rw [rendered] at first
          exact first.append ⟨contributed, middle, rfl, rfl⟩ (all_logged rest distinct.2 middle)
theorem first_logged (branches : List (Expression × Node)) (distinct : FirstDistinct branches) (r : Rendering) :
    Logged (writesFirst branches r) r.draft (Leaves (renderFirst branches r)) := by
  cases branches with
  | nil =>
      rw [renderFirst, writesFirst]
      refine logged_still r _ fun contributed after ran => ?_
      cases ran
      exact ⟨rfl, rfl⟩
  | cons branch rest =>
      rcases branch with ⟨test, body⟩
      rw [renderFirst, writesFirst]
      cases verdict : test.holds r.scope with
      | error cause => exact logged_still r _ fun contributed after ran => nomatch ran
      | ok holds =>
          cases holds with
          | true => exact (render_logged body distinct.1 r).weaken fun draft left => leaves_body left
          | false => exact first_logged rest distinct.2 r
end

theorem names_never_collide (node : Node) (distinct : node.Distinct) (r : Rendering) :
    (node.writes r).Pairwise Apart ∧
      (∀ contributed after, node.render r = .ok (contributed, after) →
        after.draft.bindings = applied (node.writes r) r.draft.bindings ∧
          ∀ name number value, .loop name number value ∈ node.writes r →
            Table.get? (boundName name number) after.draft.bindings = some value) ∧
      ∀ name number other next, boundName name number = boundName other next ↔ name = other ∧ number = next := by
  have logged := node.render_logged distinct r
  refine ⟨logged.apart, fun contributed after ran => ?_, fun name number other next =>
    Loop.bound_name_iff name other number next⟩
  have bindings := logged.bindings after.draft ⟨contributed, after, ran, rfl⟩
  refine ⟨bindings, fun name number value member => ?_⟩
  rw [bindings]
  exact Write.get_applied_loop _ r.draft.bindings logged.apart (.loop name number value) member rfl

end Node

namespace Grid

-- Loops in each other whose names end alike, with a bind in between.
def rows : Loop := ⟨⟨"m", .property "m"⟩, some "a_1", some "a", "", "", "", false⟩

def cells : Loop := ⟨⟨"a_1", .property "a_1"⟩, some "a", some "a_1", "", "", ",", false⟩

def node : Node :=
  .loop rows (.sequence [.bind "frch_a" ⟨"a", .property "a"⟩, .loop cells (.parameterized "#\x7ba\x7d".toList)])

def before : Rendering :=
  ⟨{}, ⟨[[("m", .list [.list [.integer 5, .integer 6], .list [.integer 7]])]], .none⟩⟩

def log : List Write := [
  .loop "a_1" 0 (.list [.integer 5, .integer 6]), .loop "a" 0 (.integer 0), .bind "frch_a" (.integer 0),
  .loop "a" 1 (.integer 5), .loop "a_1" 1 (.integer 0), .loop "a" 2 (.integer 6), .loop "a_1" 2 (.integer 1),
  .loop "a_1" 3 (.list [.integer 7]), .loop "a" 3 (.integer 1), .bind "frch_a" (.integer 1),
  .loop "a" 4 (.integer 7), .loop "a_1" 4 (.integer 0)]

theorem cells_apart :
    log.Pairwise Apart ∧ ∃ after, node.render before = .ok (true, after) ∧
      Table.get? "__frch_a_1_0" after.draft.bindings = some (.list [.integer 5, .integer 6]) ∧
      Table.get? "__frch_a_1" after.draft.bindings = some (.integer 5) ∧
      Table.get? "__frch_a_1_1" after.draft.bindings = some (.integer 0) := by
  have outer : rows.Distinct := fun name item index => absurd (item.trans index.symm) (by decide)
  have inner : cells.Distinct := fun name item index => absurd (item.trans index.symm) (by decide)
  have plain : ¬ Generated "frch_a" := by
    rw [Generated, ← List.isPrefixOf_iff_prefix]
    decide
  have written : node.writes before = log := by rfl
  obtain ⟨apart, kept, _⟩ := node.names_never_collide ⟨outer, plain, ⟨inner, trivial⟩, trivial⟩ before
  obtain ⟨after, ran⟩ : ∃ after, node.render before = .ok (true, after) := ⟨_, rfl⟩
  obtain ⟨_, bound⟩ := kept true after ran
  rw [written] at apart bound
  refine ⟨apart, after, ran, bound "a_1" 0 _ ?_, bound "a" 1 _ ?_, bound "a_1" 1 _ ?_⟩ <;> simp [log]

end Grid

end StatementMapper.Template
