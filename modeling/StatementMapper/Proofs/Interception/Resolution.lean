import StatementMapper.Proofs.Interception.Checking
import StatementMapper.Proofs.Outcome

set_option autoImplicit false

/-! Declarations are accepted when each of them names a step, and refused for the first that names none. -/

namespace StatementMapper

open Outcome (bind_ok bind_error map_ok map_error)

theorem Step.mem_all {capability : Capability} (step : Step capability) : step ∈ Step.all capability := by
  cases step <;> decide

theorem Step.told_apart {capability : Capability} (one other : Step capability) (name : one.name = other.name)
    (parameters : one.parameterNames = other.parameterNames) : one = other := by
  have apart : ∀ capability, ∀ one ∈ Step.all capability, ∀ other ∈ Step.all capability,
      one.name = other.name → one.parameterNames = other.parameterNames → one = other := by
    intro capability
    cases capability <;> decide
  exact apart capability one one.mem_all other other.mem_all name parameters

theorem AnyStep.mem_all (step : AnyStep) : step ∈ AnyStep.all := by
  obtain ⟨capability, step⟩ := step
  refine List.mem_flatMap.mpr ⟨capability, ?_, List.mem_map.mpr ⟨step, step.mem_all, rfl⟩⟩
  cases capability <;> decide

namespace Signature

structure Names (signature : Signature) (step : AnyStep) : Prop where
  capability : step.capability = signature.capability
  name : step.step.name = signature.name
  parameters : step.step.parameterNames = signature.parameters

instance (signature : Signature) (step : AnyStep) : Decidable (signature.Names step) :=
  decidable_of_iff (step.capability = signature.capability ∧ step.step.name = signature.name ∧
    step.step.parameterNames = signature.parameters)
    ⟨fun same => ⟨same.1, same.2.1, same.2.2⟩, fun names => ⟨names.capability, names.name, names.parameters⟩⟩

def Known (signature : Signature) : Prop := ∃ step ∈ AnyStep.all, signature.Names step

instance (signature : Signature) : Decidable signature.Known :=
  inferInstanceAs (Decidable (∃ step ∈ AnyStep.all, signature.Names step))

def refusal (interceptor : String) (signature : Signature) : Fault :=
  .plugin (.noMethod signature.capability.name signature.name interceptor signature.display)

theorem names_unique {signature : Signature} {one other : AnyStep} (first : signature.Names one)
    (second : signature.Names other) : one = other := by
  obtain ⟨capability, one⟩ := one
  obtain ⟨also, other⟩ := other
  obtain rfl : capability = also := first.capability.trans second.capability.symm
  exact congrArg _ (one.told_apart other (first.name.trans second.name.symm) (first.parameters.trans second.parameters.symm))

theorem declares_iff (signature : Signature) (step : Step signature.capability) :
    signature.declares step = true ↔ signature.Names ⟨signature.capability, step⟩ := by
  rw [declares, decide_eq_true_iff]
  exact ⟨fun same => ⟨rfl, same.1, same.2⟩, fun names => ⟨names.name, names.parameters⟩⟩

theorem names_of_step {signature : Signature} {step : AnyStep} (found : signature.step? = some step) :
    signature.Names step := by
  obtain ⟨own, first, rfl⟩ := Option.map_eq_some_iff.mp found
  exact (signature.declares_iff own).mp (List.find?_some first)

theorem step_none_iff (signature : Signature) : signature.step? = none ↔ ¬ signature.Known := by
  rw [step?, Option.map_eq_none_iff, List.find?_eq_none]
  constructor
  · rintro missed ⟨⟨capability, step⟩, _, names⟩
    obtain rfl : capability = signature.capability := names.capability
    exact missed step step.mem_all ((signature.declares_iff step).mpr names)
  · intro unknown step _ declared
    exact unknown ⟨_, AnyStep.mem_all _, (signature.declares_iff step).mp declared⟩

theorem step_some_iff (signature : Signature) (step : AnyStep) : signature.step? = some step ↔ signature.Names step := by
  constructor
  · exact names_of_step
  · intro names
    cases found : signature.step? with
    | none => exact absurd ⟨step, step.mem_all, names⟩ ((signature.step_none_iff).mp found)
    | some other => rw [names_unique (names_of_step found) names]

theorem resolve_ok_iff (interceptor : String) (signature : Signature) (step : AnyStep) :
    signature.resolve interceptor = .ok step ↔ signature.step? = some step := by
  rw [resolve]
  cases signature.step? <;> simp

theorem resolve_error_iff (interceptor : String) (signature : Signature) (fault : Fault) :
    signature.resolve interceptor = .error fault ↔ ¬ signature.Known ∧ fault = signature.refusal interceptor := by
  rw [← step_none_iff, resolve]
  cases signature.step? with
  | none => simp [refusal, eq_comm]
  | some step => simp

end Signature

open Signature (Names Known)

namespace Binding

theorem resolve_all_ok_iff (interceptor : String) (signatures : List Signature) (steps : List AnyStep) :
    resolveAll interceptor signatures = .ok steps ↔ signatures.map Signature.step? = steps.map some := by
  induction signatures generalizing steps with
  | nil => cases steps <;> simp [resolveAll]
  | cons signature rest ih =>
      constructor
      · intro resolved
        obtain ⟨step, first, more⟩ := (bind_ok _ _ _).mp resolved
        obtain ⟨others, later, same⟩ := (bind_ok _ _ _).mp more
        cases same
        rw [List.map_cons, (signature.resolve_ok_iff interceptor step).mp first, (ih others).mp later, List.map_cons]
      · intro found
        cases steps with
        | nil => cases found
        | cons step others =>
            obtain ⟨own, later⟩ := List.cons.inj found
            exact (bind_ok _ _ _).mpr ⟨step, (signature.resolve_ok_iff interceptor step).mpr own,
              (bind_ok _ _ _).mpr ⟨others, (ih others).mpr later, rfl⟩⟩

def Refused (interceptor : String) (signatures : List Signature) (fault : Fault) : Prop :=
  ∃ front signature rest, signatures = front ++ signature :: rest ∧ (∀ earlier ∈ front, earlier.Known) ∧
    ¬ signature.Known ∧ fault = signature.refusal interceptor

theorem refused_cons (interceptor : String) (signature : Signature) (rest : List Signature) (fault : Fault) :
    Refused interceptor (signature :: rest) fault ↔
      ¬ signature.Known ∧ fault = signature.refusal interceptor ∨ signature.Known ∧ Refused interceptor rest fault := by
  constructor
  · rintro ⟨front, bad, behind, shape, known, unknown, same⟩
    cases front with
    | nil =>
        cases shape
        exact Or.inl ⟨unknown, same⟩
    | cons first front =>
        cases shape
        exact Or.inr ⟨known _ List.mem_cons_self,
          front, bad, behind, rfl, fun earlier member => known earlier (List.mem_cons_of_mem _ member), unknown, same⟩
  · rintro (⟨unknown, same⟩ | ⟨own, front, bad, behind, rfl, known, unknown, same⟩)
    · exact ⟨[], signature, rest, rfl, fun _ member => (nomatch member), unknown, same⟩
    · exact ⟨signature :: front, bad, behind, rfl, List.forall_mem_cons.mpr ⟨own, known⟩, unknown, same⟩

theorem resolve_all_error_iff (interceptor : String) (signatures : List Signature) (fault : Fault) :
    resolveAll interceptor signatures = .error fault ↔ Refused interceptor signatures fault := by
  induction signatures with
  | nil =>
      constructor
      · exact fun failed => nomatch failed
      · rintro ⟨front, _, _, shape, _⟩
        cases front <;> cases shape
  | cons signature rest ih =>
      rw [refused_cons, ← ih, ← signature.resolve_error_iff, resolveAll, bind_error]
      refine or_congr_right ⟨?_, ?_⟩
      · rintro ⟨step, resolved, failed⟩
        have names := (signature.step_some_iff step).mp ((signature.resolve_ok_iff interceptor step).mp resolved)
        refine ⟨⟨step, step.mem_all, names⟩, ?_⟩
        rcases (bind_error _ _ _).mp failed with failed | ⟨_, _, impossible⟩
        · exact failed
        · cases impossible
      · rintro ⟨⟨step, _, names⟩, failed⟩
        have resolved := (signature.resolve_ok_iff interceptor step).mpr ((signature.step_some_iff step).mpr names)
        exact ⟨step, resolved, (bind_error _ _ _).mpr (Or.inl failed)⟩

theorem resolve_error_iff (interceptor : String) (signatures : List Signature) (fault : Fault) :
    resolve interceptor signatures = .error fault ↔ Refused interceptor signatures fault := by
  rw [resolve, map_error, resolve_all_error_iff]

theorem resolved_steps {interceptor : String} {signatures : List Signature} {binding : Binding}
    (resolved : resolve interceptor signatures = .ok binding) : signatures.map Signature.step? = binding.steps.map some := by
  obtain ⟨steps, all, rfl⟩ := (map_ok _ _ _).mp resolved
  exact (resolve_all_ok_iff interceptor signatures steps).mp all

theorem resolves_iff (interceptor : String) (signatures : List Signature) :
    (∃ binding, resolve interceptor signatures = .ok binding) ↔ ∀ signature ∈ signatures, signature.Known := by
  constructor
  · rintro ⟨binding, resolved⟩ signature member
    have found : signature.step? ∈ binding.steps.map some := resolved_steps resolved ▸ List.mem_map_of_mem member
    obtain ⟨step, _, own⟩ := List.mem_map.mp found
    exact ⟨step, step.mem_all, (signature.step_some_iff step).mp own.symm⟩
  · intro known
    cases outcome : resolve interceptor signatures with
    | ok binding => exact ⟨binding, rfl⟩
    | error fault =>
        obtain ⟨front, signature, rest, rfl, _, unknown, _⟩ := (resolve_error_iff interceptor signatures fault).mp outcome
        exact absurd (known signature (by simp)) unknown

structure Exact (signatures : List Signature) (binding : Binding) : Prop where
  intercepts : ∀ step, binding.intercepts step = true ↔ ∃ signature ∈ signatures, signature.Names step
  covers : ∀ capability, binding.covers capability = true ↔ ∃ signature ∈ signatures, signature.capability = capability

theorem resolve_exact {interceptor : String} {signatures : List Signature} {binding : Binding}
    (resolved : resolve interceptor signatures = .ok binding) : Exact signatures binding := by
  have steps := resolved_steps resolved
  have among (step : AnyStep) : step ∈ binding.steps ↔ ∃ signature ∈ signatures, signature.Names step := by
    have found : some step ∈ binding.steps.map some ↔ step ∈ binding.steps := by simp
    rw [← found, ← steps, List.mem_map]
    simp only [Signature.step_some_iff]
  refine ⟨fun step => ?_, fun capability => ?_⟩
  · rw [intercepts, List.contains_iff_mem, among]
  · rw [covers, List.any_eq_true]
    constructor
    · rintro ⟨step, member, same⟩
      obtain ⟨signature, declared, names⟩ := (among step).mp member
      exact ⟨signature, declared, names.capability.symm.trans (of_decide_eq_true same)⟩
    · rintro ⟨signature, declared, same⟩
      obtain ⟨step, _, names⟩ := (resolves_iff interceptor signatures).mp ⟨binding, resolved⟩ signature declared
      exact ⟨step, (among step).mpr ⟨signature, declared, names⟩, decide_eq_true (names.capability.trans same)⟩

end Binding

namespace Plugin

variable {S : Type} (plugin : Plugin S)

theorem wraps_iff (implemented : List Capability) :
    plugin.wraps implemented = true ↔ ∃ capability ∈ implemented, plugin.binding.covers capability = true := by
  rw [wraps, Binding.intersect, Bool.not_eq_true', List.isEmpty_eq_false_iff_exists_mem]
  simp only [List.mem_filter]

structure Routes (signatures : List Signature) {capability : Capability} (target : Component S capability)
    (step : Step capability) : Prop where
  declared : (∃ signature ∈ signatures, signature.Names ⟨capability, step⟩) →
    (plugin.wrap target).call step = plugin.route target step
  undeclared : (¬ ∃ signature ∈ signatures, signature.Names ⟨capability, step⟩) →
    (plugin.wrap target).call step = target.call step

theorem routes {signatures : List Signature} (exact : Binding.Exact signatures plugin.binding) {capability : Capability}
    (target : Component S capability) (step : Step capability) : plugin.Routes signatures target step := by
  constructor
  · exact fun named => wrap_declared plugin target step ((exact.intercepts _).mpr named)
  · intro unnamed
    have undeclared : ¬ plugin.declares step = true := fun declared => unnamed ((exact.intercepts _).mp declared)
    rw [wrap_around, around_call, if_neg undeclared]

end Plugin

namespace Binding

-- A plugin is put around an object when one of the object's capabilities is covered, and then sees the steps declared.
structure Applied (signatures : List Signature) (binding : Binding) : Prop where
  exact : Exact signatures binding
  wraps : ∀ {S : Type} (interceptor : Interceptor S) implemented,
    Plugin.wraps ⟨interceptor, binding⟩ implemented = true ↔ ∃ capability ∈ implemented, binding.covers capability = true
  routes : ∀ {S : Type} (interceptor : Interceptor S) {capability : Capability} (target : Component S capability) step,
    Plugin.Routes ⟨interceptor, binding⟩ signatures target step

theorem applied_of_exact {signatures : List Signature} {binding : Binding} (exact : Exact signatures binding) :
    Applied signatures binding :=
  ⟨exact, fun {_} interceptor => Plugin.wraps_iff ⟨interceptor, binding⟩,
    fun {_} interceptor => Plugin.routes ⟨interceptor, binding⟩ exact⟩

structure Alike (one other : Binding) : Prop where
  intercepts : one.intercepts = other.intercepts
  covers : one.covers = other.covers
  wraps : ∀ {S : Type} (interceptor : Interceptor S), Plugin.wraps ⟨interceptor, one⟩ = Plugin.wraps ⟨interceptor, other⟩

theorem alike_of_exact {signatures others : List Signature} {one other : Binding} (first : Exact signatures one)
    (second : Exact others other) (same : ∀ signature, signature ∈ others ↔ signature ∈ signatures) : Alike other one := by
  have covers : other.covers = one.covers := by
    funext capability
    rw [Bool.eq_iff_iff, first.covers, second.covers]
    simp only [same]
  refine ⟨?_, covers, fun interceptor => ?_⟩
  · funext step
    rw [Bool.eq_iff_iff, first.intercepts, second.intercepts]
    simp only [same]
  · funext implemented
    rw [Bool.eq_iff_iff, Plugin.wraps_iff, Plugin.wraps_iff, covers]

theorem resolution_exact (interceptor : String) (signatures : List Signature) :
    ((∃ binding, resolve interceptor signatures = .ok binding) ↔ ∀ signature ∈ signatures, signature.Known) ∧
      (∀ fault, resolve interceptor signatures = .error fault ↔ Refused interceptor signatures fault) ∧
      ∀ binding, resolve interceptor signatures = .ok binding →
        Applied signatures binding ∧
          ∀ others, (∀ signature, signature ∈ others ↔ signature ∈ signatures) →
            ∃ again, resolve interceptor others = .ok again ∧ Alike again binding := by
  refine ⟨resolves_iff interceptor signatures, resolve_error_iff interceptor signatures, fun binding resolved => ?_⟩
  have exact := resolve_exact resolved
  refine ⟨applied_of_exact exact, fun others same => ?_⟩
  have known := (resolves_iff interceptor signatures).mp ⟨binding, resolved⟩
  obtain ⟨again, accepted⟩ := (resolves_iff interceptor others).mpr fun signature member =>
    known signature ((same signature).mp member)
  exact ⟨again, accepted, alike_of_exact exact (resolve_exact accepted) same⟩

end Binding

namespace Announced

def bound : Signature :=
  ⟨.executor, "query", ["MappedStatement", "Parameter", "RowBounds", "ResultHandler", "CacheKey", "BoundCommand"]⟩

def parameters : Signature := ⟨.parameterHandler, "set_parameters", ["DriverRequest"]⟩

def missing : Signature := ⟨.statementHandler, "prepare", ["bool"]⟩

theorem bound_resolved :
    ∃ binding again, Binding.resolve "paging" [bound, parameters, bound] = .ok binding ∧
      Binding.resolve "paging" [parameters, bound] = .ok again ∧ Binding.Alike again binding ∧
      binding.intercepts ⟨.executor, .queryBound⟩ = true ∧ binding.intercepts ⟨.executor, .query⟩ = false ∧
      binding.covers .executor = true ∧ binding.covers .resultSetHandler = false ∧
      Binding.resolve "paging" [bound, missing, parameters] = .error (missing.refusal "paging") := by
  have resolved : Binding.resolve "paging" [bound, parameters, bound] =
      .ok ⟨[⟨_, .queryBound⟩, ⟨_, .setParameters⟩, ⟨_, .queryBound⟩]⟩ := by rfl
  obtain ⟨_, _, accepted⟩ := Binding.resolution_exact "paging" [bound, parameters, bound]
  obtain ⟨applied, reordered⟩ := accepted _ resolved
  obtain ⟨again, rearranged, alike⟩ := reordered [parameters, bound] (by simp [or_comm])
  refine ⟨_, again, resolved, rearranged, alike, ?_, ?_, ?_, ?_, ?_⟩
  · exact (applied.exact.intercepts _).mpr (by decide)
  · rw [← Bool.not_eq_true, applied.exact.intercepts]
    decide
  · exact (applied.exact.covers _).mpr (by decide)
  · rw [← Bool.not_eq_true, applied.exact.covers]
    decide
  · obtain ⟨_, refused, _⟩ := Binding.resolution_exact "paging" [bound, missing, parameters]
    exact (refused _).mpr ⟨[bound], missing, [parameters], rfl, by decide, by decide, rfl⟩

end Announced

end StatementMapper
