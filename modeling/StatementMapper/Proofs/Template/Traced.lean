import StatementMapper.Proofs.Template.Trace

set_option autoImplicit false

namespace StatementMapper.Template

namespace Trace

theorem bindings_append (first second : Trace) (before : Table String Value) :
    (first.append second).bindings before = second.bindings (first.bindings before) := List.foldl_append

theorem contents_append (first second : Trace) : (first.append second).contents = first.contents ++ second.contents :=
  List.map_append

theorem bound_persists (trace : Trace) (name : String) (before : Table String Value)
    (bound : (Table.get? name before).isSome = true) : (Table.get? name (trace.bindings before)).isSome = true := by
  unfold bindings
  induction trace.bound generalizing before with
  | nil => exact bound
  | cons entry rest ih =>
      refine ih _ ?_
      by_cases same : name = entry.1
      · rw [same, Table.get_put_same]
        rfl
      · rwa [Table.get_put_other same]

end Trace

-- Every variable is bound for placeholders too, but for those the loops around have brought in under other names.
def Covered (names : List String) (r : Rendering) : Prop :=
  ∀ name, (r.scope.get? name).isSome = true → name ∈ names ∨ (Table.get? name r.draft.bindings).isSome = true

theorem covered_later {names : List String} (trace : Trace) (before after : Rendering) (scope : after.scope = before.scope)
    (bindings : after.draft.bindings = trace.bindings before.draft.bindings) (covered : Covered names before) :
    Covered names after := by
  intro name seen
  rw [scope] at seen
  rw [bindings]
  rcases covered name seen with outer | there
  · exact Or.inl outer
  · exact Or.inr (trace.bound_persists _ _ there)

-- A placeholder that no loop has taken stands as it is written, and the variable it sees is bound.
def Anchored (names : List String) (bindings : Table String Value) (emission : Emission) : Prop :=
  emission.taken = false → emission.content = emission.written ∧ ∀ mapping, Mapping.parse emission.written = .ok mapping →
    (emission.scope.get? (Value.splitPath mapping.property).1).isSome = true →
      (Value.splitPath mapping.property).1 ∈ names ∨
        (Table.get? (Value.splitPath mapping.property).1 bindings).isSome = true

theorem anchored_later (names : List String) (trace : Trace) (bindings : Table String Value) (emission : Emission)
    (anchored : Anchored names bindings emission) : Anchored names (trace.bindings bindings) emission := by
  intro free
  obtain ⟨same, bound⟩ := anchored free
  refine ⟨same, fun mapping parsed seen => ?_⟩
  rcases bound mapping parsed seen with taken | there
  · exact Or.inl taken
  · exact Or.inr (trace.bound_persists _ _ there)

-- What a trace tells of a rendering inside the loops whose variables are named.
structure Traced (seam? : Option Seam) (names : List String) (trace : Trace) (before after : Rendering) : Prop where
  holds : ∀ tokens, Holds seam? before.draft.sql tokens → Holds seam? after.draft.sql (tokens ++ trace.contents)
  bindings : after.draft.bindings = trace.bindings before.draft.bindings
  covered : Covered names before → Covered names after
  anchored : Covered names before → ∀ emission ∈ trace.emitted, Anchored names after.draft.bindings emission

variable {seam? : Option Seam} {names : List String}

theorem traced_none (r : Rendering) : Traced seam? names {} r r := by
  refine ⟨fun tokens holds => ?_, rfl, id, fun _ emission member => nomatch member⟩
  rwa [show tokens ++ ({} : Trace).contents = tokens from List.append_nil tokens]

theorem traced_append {first second : Trace} {before middle after : Rendering}
    (one : Traced seam? names first before middle) (two : Traced seam? names second middle after) :
    Traced seam? names (first.append second) before after := by
  refine ⟨fun tokens holds => ?_, ?_, fun covered => two.covered (one.covered covered), fun covered emission member => ?_⟩
  · rw [Trace.contents_append, ← List.append_assoc]
    exact two.holds _ (one.holds tokens holds)
  · rw [Trace.bindings_append, ← one.bindings]
    exact two.bindings
  · rcases List.mem_append.mp member with earlier | later
    · rw [two.bindings]
      exact anchored_later _ _ _ _ (one.anchored covered emission earlier)
    · exact two.anchored (one.covered covered) emission later

theorem traced_text (content : List Char) (r : Rendering)
    (holds : Holds seam? content (contents (Delimiters.placeholder.scan content))) :
    Traced seam? names (.ofText content r.scope) r (r.append content) := by
  refine ⟨fun tokens before => ?_, rfl, id, fun covered emission member => ?_⟩
  · have whole : (Trace.ofText content r.scope).contents = contents (Delimiters.placeholder.scan content) := by
      simp [Trace.ofText, Trace.contents, Function.comp_def]
    rw [whole]
    exact holds_joined before holds
  · obtain ⟨token, _, rfl⟩ := List.mem_map.mp member
    exact fun _ => ⟨rfl, fun mapping _ seen => covered _ seen⟩

theorem traced_bind (name : String) (value : Value) (r : Rendering) :
    Traced seam? names { bound := [(name, value)] } r (r.bind name value) := by
  refine ⟨fun tokens holds => ?_, rfl, fun covered other seen => ?_, fun _ emission member => nomatch member⟩
  · rwa [show tokens ++ ({ bound := [(name, value)] } : Trace).contents = tokens from List.append_nil tokens]
  · change ((r.scope.set name value).get? other).isSome = true at seen
    change _ ∨ (Table.get? other (Table.put name value r.draft.bindings)).isSome = true
    rw [Scope.get_set] at seen
    by_cases same : other = name
    · rw [same, Table.get_put_same]
      exact Or.inr rfl
    · rw [if_neg same] at seen
      rw [Table.get_put_other same]
      exact covered other seen

end StatementMapper.Template
