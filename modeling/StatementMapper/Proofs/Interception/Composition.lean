import Mathlib.Data.List.Forall2
import StatementMapper.Interception.Plugin

set_option autoImplicit false

/-! A step behind a chain is carried out by the interceptors that declare it, the last added outermost. -/

namespace StatementMapper

variable {S : Type} {capability : Capability}

namespace Component

def withStep (component : Component S capability) (step : Step capability)
    (next : Arguments S step.parameters → Action S step.reply.Carrier) : Component S capability where
  view := component.view
  call other arguments :=
    if same : step = other then (same ▸ next) arguments else component.call other arguments

theorem with_step_call (component : Component S capability) (step : Step capability)
    (next : Arguments S step.parameters → Action S step.reply.Carrier) :
    (component.withStep step next).call step = next := by
  funext arguments
  exact dif_pos rfl

theorem with_step_own (component : Component S capability) (step : Step capability) :
    component.withStep step (component.call step) = component := by
  rcases component with ⟨view, call⟩
  simp only [withStep, Component.mk.injEq, true_and]
  funext other arguments
  by_cases same : step = other
  · subst same
    exact dif_pos rfl
  · exact dif_neg same

end Component

namespace Plugin

def declares (plugin : Plugin S) (step : Step capability) : Bool := plugin.binding.intercepts ⟨capability, step⟩

-- What the interceptor sees of the object it is put around is that of `seen`, but for the step itself.
def nest (plugin : Plugin S) (seen : Component S capability) (step : Step capability)
    (next : Arguments S step.parameters → Action S step.reply.Carrier) :
    Arguments S step.parameters → Action S step.reply.Carrier :=
  plugin.route (seen.withStep step next) step

-- One side of an object that has other capabilities besides: it is wrapped as soon as a step of any side is declared.
def wrapSide (others : List Capability) (plugin : Plugin S) (target : Component S capability) :
    Component S capability :=
  if plugin.wraps (capability :: others) then plugin.around target else target

-- An interceptor that deals with the object behind a step through proceeding and its accessor only.
def Discreet (plugin : Plugin S) (step : Step capability) : Prop :=
  ∀ (arguments : List (Argument S)) (one other : Component S capability), one.view = other.view →
    one.call step = other.call step →
      plugin.interceptor.intercept ⟨capability, step, arguments, one⟩ =
        plugin.interceptor.intercept ⟨capability, step, arguments, other⟩

def Proceeds (plugin : Plugin S) (step : Step capability) : Prop :=
  ∀ (arguments : List (Argument S)) (target : Component S capability),
    plugin.interceptor.intercept ⟨capability, step, arguments, target⟩ =
      Invocation.proceed ⟨capability, step, arguments, target⟩

structure Alike (one other : Plugin S) : Prop where
  binding : other.binding = one.binding
  name : other.interceptor.name = one.interceptor.name
  intercept : ∀ invocation : Invocation S, one.declares invocation.step = true →
    other.interceptor.intercept invocation = one.interceptor.intercept invocation

theorem wraps_of_declares (plugin : Plugin S) (step : Step capability) (others : List Capability)
    (declared : plugin.declares step = true) : plugin.wraps (capability :: others) = true := by
  have covered : plugin.binding.covers capability = true :=
    List.any_eq_true.mpr ⟨_, List.contains_iff_mem.mp declared, decide_eq_true rfl⟩
  rw [wraps, Binding.intersect, List.filter_cons_of_pos covered]
  rfl

theorem around_view (plugin : Plugin S) (target : Component S capability) : (plugin.around target).view = target.view :=
  rfl

theorem around_call (plugin : Plugin S) (target : Component S capability) (step : Step capability) :
    (plugin.around target).call step =
      if plugin.declares step then plugin.nest target step (target.call step) else target.call step := by
  rw [nest, Component.with_step_own]
  funext arguments
  by_cases declared : plugin.declares step = true
  · rw [if_pos declared]
    exact if_pos declared
  · rw [if_neg declared]
    exact if_neg declared

theorem around_undeclared (plugin : Plugin S) (target : Component S capability)
    (undeclared : ∀ step : Step capability, plugin.declares step = false) : plugin.around target = target := by
  have calls : (plugin.around target).call = target.call := by
    funext step
    rw [around_call, undeclared step]
    rfl
  rcases target with ⟨view, call⟩
  exact congrArg (Component.mk view) calls

theorem wrap_side_around (plugin : Plugin S) (others : List Capability) (target : Component S capability) :
    plugin.wrapSide others target = plugin.around target := by
  unfold wrapSide
  by_cases wrapped : plugin.wraps (capability :: others) = true
  · rw [if_pos wrapped]
  · rw [if_neg wrapped]
    refine (plugin.around_undeclared target fun step => ?_).symm
    exact Bool.eq_false_iff.mpr fun declared => wrapped (plugin.wraps_of_declares step others declared)

theorem wrap_around (plugin : Plugin S) (target : Component S capability) : plugin.wrap target = plugin.around target :=
  plugin.wrap_side_around [] target

theorem around_alike (one other : Plugin S) (alike : one.Alike other) (target : Component S capability) :
    other.around target = one.around target := by
  have calls : (other.around target).call = (one.around target).call := by
    funext step arguments
    have declared : other.declares step = one.declares step := by rw [declares, alike.binding, declares]
    rw [around_call, around_call, declared]
    by_cases there : one.declares step = true
    · rw [if_pos there, if_pos there]
      simp only [nest, route, answer, alike.name]
      rw [alike.intercept ⟨capability, step, _, _⟩ there]
    · rw [if_neg there, if_neg there]
  exact congrArg (Component.mk target.view) calls

theorem nest_discreet (plugin : Plugin S) (step : Step capability) (discreet : plugin.Discreet step)
    (one other : Component S capability) (view : one.view = other.view)
    (next : Arguments S step.parameters → Action S step.reply.Carrier) :
    plugin.nest one step next = plugin.nest other step next := by
  funext arguments
  have same := discreet (Arguments.tag step arguments) (one.withStep step next) (other.withStep step next) view
    (by rw [Component.with_step_call, Component.with_step_call])
  simp only [nest, route, same]

theorem answer_own (plugin : Plugin S) (step : Step capability) (content : step.reply.Carrier) :
    plugin.answer step ⟨step.reply, content⟩ = .ok content := by
  rw [answer, Reply.as_self]

theorem nest_proceeds (plugin : Plugin S) (step : Step capability) (proceeds : plugin.Proceeds step)
    (seen : Component S capability) (next : Arguments S step.parameters → Action S step.reply.Carrier) :
    plugin.nest seen step next = next := by
  funext arguments state
  rw [nest, route, proceeds, Invocation.proceed, Invocation.proceedWith, Arguments.read_tag, Component.with_step_call]
  change Action.run _ state = Action.run (next arguments) state
  -- The arguments have read back as they were; what is left is to take the content out of its reply again.
  have tagged : Action.run (Action.ofExcept (.ok arguments) >>= fun typed => next typed >>= fun content =>
      pure (⟨step.reply, content⟩ : Reply)) state = Action.run (next arguments >>= fun content =>
        pure (⟨step.reply, content⟩ : Reply)) state := Action.run_bind_ok (Action.run_answer arguments state)
  rcases ran : Action.run (next arguments) state with ⟨outcome, after⟩
  cases outcome with
  | ok content =>
      rw [Action.run_bind_ok ran, Action.run_pure] at tagged
      rw [Action.run_bind_ok tagged, answer_own]
      rfl
  | error cause =>
      rw [Action.run_bind_error ran] at tagged
      rw [Action.run_bind_error tagged]

end Plugin

namespace Chain

variable (chain : Chain S) (target : Component S capability) (step : Step capability)

def wrapSide (others : List Capability) : Component S capability :=
  chain.plugins.foldl (fun inner plugin => plugin.wrapSide others inner) target

def layers : List (Plugin S) → Component S capability → List (Plugin S × Component S capability)
  | [], _ => []
  | plugin :: rest, target => (plugin, target) :: layers rest (plugin.wrap target)

def nested (step : Step capability) (layers : List (Plugin S × Component S capability))
    (bare : Arguments S step.parameters → Action S step.reply.Carrier) :
    Arguments S step.parameters → Action S step.reply.Carrier :=
  layers.foldl (fun next layer => layer.1.nest layer.2 step next) bare

theorem wrap_side (others : List Capability) : chain.wrapSide target others = chain.wrap target := by
  have sides : (fun (inner : Component S capability) (plugin : Plugin S) => plugin.wrapSide others inner) =
      fun inner plugin => plugin.wrap inner := by
    funext inner plugin
    rw [plugin.wrap_side_around, plugin.wrap_around]
  rw [wrapSide, wrap, sides]

theorem layers_view (plugins : List (Plugin S)) :
    ∀ layer ∈ layers plugins target, layer.2.view = target.view := by
  induction plugins generalizing target with
  | nil => exact fun layer member => nomatch member
  | cons plugin rest ih =>
      intro layer member
      rcases List.mem_cons.mp member with rfl | later
      · rfl
      · rw [ih (plugin.wrap target) layer later, plugin.wrap_around, plugin.around_view]

theorem layers_plugins (plugins : List (Plugin S)) : (layers plugins target).map Prod.fst = plugins := by
  induction plugins generalizing target with
  | nil => rfl
  | cons plugin rest ih => exact congrArg (List.cons plugin) (ih (plugin.wrap target))

theorem wrap_call (plugins : List (Plugin S)) :
    ((Chain.mk plugins).wrap target).call step =
      nested step ((layers plugins target).filter fun layer => layer.1.declares step) (target.call step) := by
  induction plugins generalizing target with
  | nil => rfl
  | cons plugin rest ih =>
      have inner : (plugin.wrap target).call step =
          if plugin.declares step then plugin.nest target step (target.call step) else target.call step := by
        rw [plugin.wrap_around, plugin.around_call]
      change ((Chain.mk rest).wrap (plugin.wrap target)).call step = _
      rw [ih, inner, layers, List.filter_cons]
      by_cases declared : plugin.declares step = true
      · rw [if_pos declared, if_pos declared]
        rfl
      · rw [if_neg declared, if_neg declared]

theorem nested_discreet (layers : List (Plugin S × Component S capability))
    (view : ∀ layer ∈ layers, layer.2.view = target.view) (discreet : ∀ layer ∈ layers, layer.1.Discreet step)
    (bare : Arguments S step.parameters → Action S step.reply.Carrier) :
    nested step layers bare = nested step (layers.map fun layer => (layer.1, target)) bare := by
  induction layers generalizing bare with
  | nil => rfl
  | cons layer rest ih =>
      have own := layer.1.nest_discreet step (discreet layer List.mem_cons_self) layer.2 target
        (view layer List.mem_cons_self) bare
      change nested step rest (layer.1.nest layer.2 step bare) = nested step (rest.map _) (layer.1.nest target step bare)
      rw [own, ih (fun other member => view other (List.mem_cons_of_mem _ member))
        (fun other member => discreet other (List.mem_cons_of_mem _ member))]

theorem nested_proceeds (layers : List (Plugin S × Component S capability))
    (proceeds : ∀ layer ∈ layers, layer.1.Proceeds step)
    (bare : Arguments S step.parameters → Action S step.reply.Carrier) : nested step layers bare = bare := by
  induction layers with
  | nil => rfl
  | cons layer rest ih =>
      change nested step rest (layer.1.nest layer.2 step bare) = bare
      rw [layer.1.nest_proceeds step (proceeds layer List.mem_cons_self)]
      exact ih fun other member => proceeds other (List.mem_cons_of_mem _ member)

theorem wrap_alike (plugins others : List (Plugin S)) (alike : List.Forall₂ Plugin.Alike plugins others) :
    (Chain.mk others).wrap target = (Chain.mk plugins).wrap target := by
  induction alike generalizing target with
  | nil => rfl
  | @cons one other rest more same _ ih =>
      change (Chain.mk more).wrap (other.wrap target) = (Chain.mk rest).wrap (one.wrap target)
      rw [ih, other.wrap_around, one.wrap_around, Plugin.around_alike one other same]

-- Each interceptor sees the object it was put around, in which the step is what the inner interceptors make of it.
theorem wrap_composes :
    (∀ others, chain.wrapSide target others = chain.wrap target) ∧
      (chain.wrap target).call step =
        nested step ((layers chain.plugins target).filter fun layer => layer.1.declares step) (target.call step) ∧
      ((∀ plugin ∈ chain.plugins, plugin.declares step = true → plugin.Discreet step) →
        (chain.wrap target).call step =
          nested step ((chain.plugins.filter fun plugin => plugin.declares step).map fun plugin => (plugin, target))
            (target.call step)) ∧
      ((∀ plugin ∈ chain.plugins, plugin.declares step = true → plugin.Proceeds step) →
        (chain.wrap target).call step = target.call step) ∧
      ∀ others, List.Forall₂ Plugin.Alike chain.plugins others → (Chain.mk others).wrap target = chain.wrap target := by
  have composed := wrap_call target step chain.plugins
  have plugins := layers_plugins target chain.plugins
  have among (layer : Plugin S × Component S capability)
      (member : layer ∈ (layers chain.plugins target).filter fun layer => layer.1.declares step) :
      layer.1 ∈ chain.plugins ∧ layer.1.declares step = true := by
    obtain ⟨there, declared⟩ := List.mem_filter.mp member
    exact ⟨plugins ▸ List.mem_map_of_mem there, declared⟩
  refine ⟨fun others => chain.wrap_side target others, composed, fun discreet => ?_, fun proceeds => ?_,
    fun others alike => wrap_alike target chain.plugins others alike⟩
  · have declaring : ((layers chain.plugins target).filter fun layer => layer.1.declares step).map
        (fun layer => (layer.1, target)) =
          (chain.plugins.filter fun plugin => plugin.declares step).map fun plugin => (plugin, target) := by
      conv => rhs; rw [← plugins, List.filter_map, List.map_map]
      rfl
    rw [composed, ← declaring]
    refine nested_discreet target step _ (fun layer member => ?_) (fun layer member => ?_) _
    · exact layers_view target chain.plugins layer (List.mem_filter.mp member).1
    · obtain ⟨there, declared⟩ := among layer member
      exact discreet layer.1 there declared
  · rw [composed]
    refine nested_proceeds step _ (fun layer member => ?_) _
    obtain ⟨there, declared⟩ := among layer member
    exact proceeds layer.1 there declared

end Chain

namespace Announced

def ledger : Executor (List String) where
  view _ := false
  call
    | .commit, _ => Action.change fun lines => lines ++ ["commit"]
    | _, _ => Action.fail .executorClosed

def announcing (name : String) : Interceptor (List String) where
  name := name
  signatures := []
  intercept invocation := do
    Action.change fun lines => lines ++ [name ++ " in"]
    let reply ← invocation.proceed
    Action.change fun lines => lines ++ [name ++ " out"]
    pure reply

def silent (name : String) : Interceptor (List String) where
  name := name
  signatures := []
  intercept := Invocation.proceed

def committing : Binding := ⟨[⟨.executor, .commit⟩]⟩

def returning : Binding := ⟨[⟨.executor, .rollback⟩]⟩

def announced : Chain (List String) :=
  ⟨[⟨announcing "first", committing⟩, ⟨announcing "second", returning⟩, ⟨announcing "third", committing⟩]⟩

def wary (name : String) : Interceptor (List String) where
  name := name
  signatures := []
  intercept
    | ⟨.executor, .rollback, arguments, target⟩ => (announcing name).intercept ⟨.executor, .rollback, arguments, target⟩
    | _ => Action.fail .executorClosed

theorem announcing_discreet (name : String) (binding : Binding) (step : Step .executor) :
    Plugin.Discreet ⟨announcing name, binding⟩ step := by
  intro arguments one other _ call
  simp only [announcing, Invocation.proceed, Invocation.proceedWith, call]

theorem wary_alike (name : String) : Plugin.Alike ⟨announcing name, returning⟩ ⟨wary name, returning⟩ := by
  refine ⟨rfl, rfl, fun invocation declared => ?_⟩
  rcases invocation with ⟨capability, step, arguments, target⟩
  have known : (⟨capability, step⟩ : AnyStep) = ⟨.executor, .rollback⟩ :=
    List.mem_singleton.mp (List.contains_iff_mem.mp declared)
  cases known
  rfl

theorem commit_announced :
    Action.run (Executor.commit (announced.wrap ledger) true) [] =
        (.ok (), ["third in", "first in", "commit", "first out", "third out"]) ∧
      Executor.commit ((Chain.mk [⟨silent "first", committing⟩, ⟨announcing "second", returning⟩]).wrap ledger) true =
        Executor.commit ledger true ∧
      (Chain.mk [⟨silent "first", committing⟩, ⟨wary "second", returning⟩]).wrap ledger =
        (Chain.mk [⟨silent "first", committing⟩, ⟨announcing "second", returning⟩]).wrap ledger := by
  refine ⟨?_, ?_, ?_⟩
  · have discreet := (announced.wrap_composes ledger .commit).2.2.1 fun plugin member _ => by
      simp only [announced, List.mem_cons, List.not_mem_nil, or_false] at member
      rcases member with rfl | rfl | rfl <;> exact announcing_discreet _ _ _
    rw [Executor.commit, discreet]
    rfl
  · refine congrFun ((Chain.wrap_composes _ ledger .commit).2.2.2.1 fun plugin member declared => ?_) (true, ())
    rcases List.mem_cons.mp member with rfl | later
    · exact fun _ _ => rfl
    · rw [List.mem_singleton.mp later] at declared
      exact absurd declared (by decide)
  · refine (Chain.wrap_composes _ ledger .commit).2.2.2.2 _ ?_
    exact .cons ⟨rfl, rfl, fun _ _ => rfl⟩ (.cons (wary_alike "second") .nil)

end Announced

end StatementMapper
