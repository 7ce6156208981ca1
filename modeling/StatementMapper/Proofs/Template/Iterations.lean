import StatementMapper.Proofs.Outcome
import StatementMapper.Proofs.Template.Traced

set_option autoImplicit false

namespace StatementMapper.Template.Loop

open Outcome (bind_ok)

variable {seam? : Option Seam} {seam : Seam} {names : List String}

theorem renamed_of_free (named? : Option String) (number : Nat) (content : List Char)
    (free : takes named? content = false) : renameBy named? number content = content := by
  cases named? with
  | none => rfl
  | some name =>
      simp only [takes, Option.isSome_eq_false_iff, Option.isNone_iff_eq_none] at free
      cases found : rename? name number content with
      | none => simp only [renameBy, found, Option.getD_none]
      | some result =>
          obtain ⟨rest, shape, ends, _⟩ := (rename_some_iff name number content result).mp found
          rw [(rename_some_iff name 0 content _).mpr ⟨rest, shape, ends, rfl⟩] at free
          cases free

theorem takes_named (content : List Char) (mapping : Mapping) (parsed : Mapping.parse content = .ok mapping) :
    takes (some (Value.splitPath mapping.property).1) content = true := by
  obtain ⟨rest, shape, ends⟩ := Mapping.parse_front content mapping parsed
  rw [takes, (rename_some_iff _ 0 content _).mpr ⟨rest, shape, ends, rfl⟩]
  rfl

theorem anchored_emission (head : Loop) (number : Nat) (names : List String) (bindings : Table String Value)
    (inner : Emission) (anchored : Anchored (head.names ++ names) bindings inner) :
    Anchored names bindings (head.emission number inner) := by
  intro free
  simp only [emission, Bool.or_eq_false_iff] at free
  obtain ⟨⟨untaken, item⟩, index⟩ := free
  obtain ⟨same, bound⟩ := anchored untaken
  have unchanged : head.renamed number inner.content = inner.written := by
    rw [renamed, renamed_of_free _ _ _ index, renamed_of_free _ _ _ item, same]
  rw [renamed_of_free _ _ _ item, same] at index
  rw [same] at item
  refine ⟨unchanged, fun mapping parsed seen => ?_⟩
  rcases bound mapping parsed seen with named | there
  · -- The loop would have taken a placeholder named like its item or its index.
    have takes := takes_named inner.written mapping parsed
    simp only [Loop.names, List.mem_append, Option.mem_toList] at named
    rcases named with (isItem | isIndex) | outer
    · rw [isItem, takes] at item
      exact nomatch item
    · rw [isIndex, takes] at index
      exact nomatch index
    · exact Or.inl outer
  · exact Or.inr there

theorem introduce_bindings (named? : Option String) (number : Nat) (value : Value) (r : Rendering) :
    (introduce named? number value r).draft.bindings =
      ({ bound := introduced named? number value } : Trace).bindings r.draft.bindings := by
  cases named? <;> rfl

theorem introduce_sql (named? : Option String) (number : Nat) (value : Value) (r : Rendering) :
    (introduce named? number value r).draft.sql = r.draft.sql := by
  cases named? <;> rfl

theorem introduce_seen (named? : Option String) (number : Nat) (value : Value) (r : Rendering) (name : String)
    (seen : ((introduce named? number value r).scope.get? name).isSome = true) :
    named? = some name ∨ (r.scope.get? name).isSome = true := by
  cases named? with
  | none => exact Or.inr seen
  | some known =>
      simp only [introduce, Scope.get_set] at seen
      by_cases same : name = known
      · exact Or.inl (congrArg some same.symm)
      · rw [if_neg same] at seen
        exact Or.inr seen

theorem entered_bindings (head : Loop) (index item : Value) (r : Rendering) (body : Trace) :
    body.bindings (head.entered index item r).draft.bindings =
      (head.iteration r.draft.next index item body).bindings r.draft.bindings := by
  rw [entered, introduce_bindings, introduce_bindings]
  simp only [Trace.bindings, iteration, List.foldl_append]
  rfl

theorem entered_covered (head : Loop) (index item : Value) (r : Rendering) (covered : Covered names r) :
    Covered (head.names ++ names) (head.entered index item r) := by
  intro name seen
  rcases introduce_seen _ _ _ _ _ seen with isIndex | seen
  · exact Or.inl (by simp [Loop.names, isIndex])
  · rcases introduce_seen _ _ _ _ _ seen with isItem | seen
    · exact Or.inl (by simp [Loop.names, isItem])
    · rcases covered name seen with outer | bound
      · exact Or.inl (List.mem_append_right _ outer)
      · refine Or.inr ?_
        rw [entered, introduce_bindings, introduce_bindings]
        exact Trace.bound_persists _ _ _ (Trace.bound_persists _ _ _ bound)

theorem iteration_contents (head : Loop) (number : Nat) (index item : Value) (body : Trace) :
    (head.iteration number index item body).contents = body.contents.map (head.renamed number) := by
  simp only [Trace.contents, iteration, List.map_map]
  rfl

structure Iterated (seam : Seam) (names : List String) (bodies : List (List Char × List (List Char))) (trace : Trace)
    (before after : Rendering) : Prop where
  hold : ∀ body ∈ bodies, Holds (some seam) body.1 body.2
  contents : bodies.flatMap Prod.snd = trace.contents
  sql : after.draft.sql = before.draft.sql
  scope : after.scope = before.scope
  bindings : after.draft.bindings = trace.bindings before.draft.bindings
  anchored : Covered names before → ∀ emission ∈ trace.emitted, Anchored names after.draft.bindings emission

theorem iterated_none (r : Rendering) : Iterated seam names [] {} r r :=
  ⟨fun _ member => (nomatch member), rfl, rfl, rfl, rfl, fun _ _ member => (nomatch member)⟩

theorem iterated_cons (head : Loop) (index item : Value) (inner later : Trace) (r middle after : Rendering)
    (bodies : List (List Char × List (List Char)))
    (body : Traced (some seam) (head.names ++ names) inner (head.entered index item r) middle)
    (rest : Iterated seam names bodies later ⟨r.draft.resume middle.draft, r.scope⟩ after) :
    Iterated seam names
      ((head.itemize r.draft.next middle.draft.sql, inner.contents.map (head.renamed r.draft.next)) :: bodies)
      ((head.iteration r.draft.next index item inner).append later) r after := by
  have bound : middle.draft.bindings = (head.iteration r.draft.next index item inner).bindings r.draft.bindings := by
    rw [body.bindings, entered_bindings]
  have empty : Holds (some seam) (head.entered index item r).draft.sql [] := by
    rw [entered, introduce_sql, introduce_sql]
    exact holds_nil (some seam)
  refine ⟨?_, ?_, rest.sql, rest.scope, ?_, ?_⟩
  · intro other member
    rcases List.mem_cons.mp member with rfl | there
    · exact holds_itemize head r.draft.next (body.holds [] empty)
    · exact rest.hold other there
  · rw [List.flatMap_cons, rest.contents, Trace.contents_append, iteration_contents]
  · rw [Trace.bindings_append, ← bound]
    exact rest.bindings
  · intro covered emission member
    rcases List.mem_append.mp member with here | there
    · obtain ⟨written, among, rfl⟩ := List.mem_map.mp here
      have seen := body.anchored (entered_covered head index item r covered) written among
      rw [rest.bindings]
      exact anchored_later _ _ _ _ (anchored_emission head r.draft.next names _ written seen)
    · exact rest.anchored (covered_later _ r _ rfl bound covered) emission there

theorem iterate_cons_ok (head : Loop) (body : Rendering → Rendered) (index item : Value) (rest : List (Value × Value))
    (r after : Rendering) (texts : List (List Char)) :
    iterate head body ((index, item) :: rest) r = .ok (texts, after) ↔
      ∃ contributed middle more, body (head.entered index item r) = .ok (contributed, middle) ∧
        iterate head body rest ⟨r.draft.resume middle.draft, r.scope⟩ = .ok (more, after) ∧
        texts = head.itemize r.draft.next middle.draft.sql :: more := by
  constructor
  · intro ran
    obtain ⟨outcome, first, ran⟩ := (bind_ok _ _ _).mp ran
    obtain ⟨others, later, ran⟩ := (bind_ok _ _ _).mp ran
    cases ran
    exact ⟨outcome.1, outcome.2, others.1, first, later, rfl⟩
  · rintro ⟨contributed, middle, more, first, later, rfl⟩
    exact (bind_ok _ _ _).mpr ⟨_, first, (bind_ok _ _ _).mpr ⟨_, later, rfl⟩⟩

theorem iterate_traced (head : Loop) (body : Rendering → Rendered) (traced : Rendering → Trace)
    (sound : ∀ r contributed after, body r = .ok (contributed, after) →
      Traced (some seam) (head.names ++ names) (traced r) r after)
    (entries : List (Value × Value)) (r after : Rendering) (texts : List (List Char))
    (ran : iterate head body entries r = .ok (texts, after)) :
    ∃ bodies, texts = bodies.map Prod.fst ∧ Iterated seam names bodies (head.trace body traced entries r) r after := by
  induction entries generalizing r texts with
  | nil =>
      cases ran
      exact ⟨[], rfl, iterated_none after⟩
  | cons entry rest ih =>
      rcases entry with ⟨index, item⟩
      obtain ⟨contributed, middle, more, first, others, rfl⟩ := (iterate_cons_ok _ _ _ _ _ _ _ _).mp ran
      obtain ⟨bodies, rfl, later⟩ := ih _ _ others
      rw [trace, first]
      exact ⟨_, rfl, iterated_cons head index item _ _ r middle after bodies (sound _ _ _ first) later⟩

-- Only null has no entries and can still be rendered, without output.
theorem render_cases (head : Loop) (body : Rendering → Rendered) (collection : Value) (r after : Rendering)
    (contributed : Bool) (ran : head.render body collection r = .ok (contributed, after)) :
    ((entries? collection).getD [] = [] ∧ after = r) ∨
      ∃ texts last, iterate head body ((entries? collection).getD []) r = .ok (texts, last) ∧
        after = last.append (head.opening.toList ++ head.separated texts ++ head.closing.toList) := by
  unfold render at ran
  cases found : entries? collection with
  | none =>
      rw [found] at ran
      simp only at ran
      split at ran
      · exact nomatch ran
      · split at ran
        · cases ran
          exact Or.inl ⟨rfl, rfl⟩
        · exact nomatch ran
  | some entries =>
      rw [found] at ran
      cases entries with
      | nil =>
          cases ran
          exact Or.inl ⟨rfl, rfl⟩
      | cons entry rest =>
          obtain ⟨outcome, bodies, ran⟩ := (bind_ok _ _ _).mp ran
          cases ran
          exact Or.inr ⟨outcome.1, outcome.2, bodies, rfl⟩

theorem render_traced (head : Loop) (body : Rendering → Rendered) (traced : Rendering → Trace)
    (outer : seam? = none ∨ seam? = some seam) (plain : head.Plain seam)
    (sound : ∀ r contributed after, body r = .ok (contributed, after) →
      Traced (some seam) (head.names ++ names) (traced r) r after)
    (collection : Value) (r after : Rendering) (contributed : Bool)
    (ran : head.render body collection r = .ok (contributed, after)) :
    Traced seam? names (head.trace body traced ((entries? collection).getD []) r) r after := by
  rcases render_cases head body collection r after contributed ran with ⟨none, rfl⟩ | ⟨texts, last, iterated, rfl⟩
  · rw [none]
    exact traced_none after
  · obtain ⟨bodies, rfl, walked⟩ := iterate_traced head body traced sound _ _ _ _ iterated
    refine ⟨fun tokens holds => ?_, walked.bindings, covered_later _ _ _ walked.scope walked.bindings, walked.anchored⟩
    have inside := holds_append plain.opening (holds_separated head plain.separator bodies walked.hold)
    have joined := holds_append inside plain.closing
    rw [walked.contents, List.append_nil, List.nil_append] at joined
    rw [← walked.sql] at holds
    exact holds_joined holds (holds_outside outer joined)

end StatementMapper.Template.Loop
