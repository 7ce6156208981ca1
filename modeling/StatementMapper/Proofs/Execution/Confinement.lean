import StatementMapper.Proofs.Execution.Holding
import StatementMapper.Proofs.Interception.Composition

set_option autoImplicit false

/-! What the run of a statement has no hold on, around any interceptors that heed it. -/

namespace StatementMapper

open StatementMapper.Action (Keeps)

variable {S T W : Type} {capability : Capability} {good : S → Prop}

theorem Action.keeps_within {A : Type} {part : S → T} {replace : T → S → S} (action : Action T A)
    (replaced : ∀ state part, good state → good (replace part state)) : Keeps good (within part replace action) :=
  Action.triple_of_after fun state holds => replaced state _ holds

def Component.Keeps (good : S → Prop) (component : Component S capability) : Prop :=
  ∀ step arguments, Action.Keeps good (component.call step arguments)

def RowHandler.Keeps (good : S → Prop) (receiver : RowHandler S) : Prop :=
  ∀ number columns row state, good state → good (receiver.receive number columns row state).2

structure Database.Keeps (good : S → Prop) (database : Database S) : Prop where
  query : ∀ request, Action.Keeps good (database.query request)
  execute : ∀ request, Action.Keeps good (database.execute request)
  commit : Action.Keeps good database.commit

-- An interceptor that keeps what the component it is put around keeps, whatever it does besides.
def Interceptor.Heeds (good : S → Prop) (interceptor : Interceptor S) : Prop :=
  ∀ invocation : Invocation S, invocation.target.Keeps good → Action.Keeps good (interceptor.intercept invocation)

def Chain.Heeds (good : S → Prop) (chain : Chain S) : Prop :=
  ∀ plugin ∈ chain.plugins, plugin.interceptor.Heeds good

theorem Invocation.keeps_proceed_with (invocation : Invocation S) (keeps : invocation.target.Keeps good)
    (arguments : List (Argument S)) : Keeps good (invocation.proceedWith arguments) := by
  apply Keeps.before (Action.keeps_outcome _)
  intro typed
  exact (keeps invocation.step typed).before fun _ => Action.keeps_pure _

theorem Plugin.keeps_wrap (plugin : Plugin S) (heeds : plugin.interceptor.Heeds good) (target : Component S capability)
    (keeps : target.Keeps good) : (plugin.wrap target).Keeps good := by
  rw [wrap_around]
  intro step arguments
  by_cases declared : plugin.binding.intercepts ⟨capability, step⟩ = true
  · have routed : (plugin.around target).call step arguments = plugin.route target step arguments := if_pos declared
    rw [routed]
    exact (heeds ⟨capability, step, _, target⟩ keeps).before fun reply => Action.keeps_outcome (plugin.answer step reply)
  · have passed : (plugin.around target).call step arguments = target.call step arguments := if_neg declared
    rw [passed]
    exact keeps step arguments

theorem Chain.keeps_wrap (chain : Chain S) (heeds : chain.Heeds good) (target : Component S capability)
    (keeps : target.Keeps good) : (chain.wrap target).Keeps good := by
  obtain ⟨plugins⟩ := chain
  induction plugins generalizing target with
  | nil => exact keeps
  | cons plugin rest ih =>
      have inner := plugin.keeps_wrap (heeds plugin List.mem_cons_self) target keeps
      exact ih (plugin.wrap target) inner fun other member => heeds other (List.mem_cons_of_mem _ member)

theorem ParameterHandler.keeps_of_command (command : Command) : (ofCommand command : ParameterHandler S).Keeps good := by
  intro step arguments
  cases step with
  | setParameters => exact Action.keeps_pure _

theorem ResultSetHandler.keeps_of_bounds (bounds : Bounds) (receiver : Option (RowHandler S))
    (receives : ∀ handler, receiver = some handler → handler.Keeps good) : (ofBounds bounds receiver).Keeps good := by
  intro step arguments
  cases step with
  | handleRows =>
      obtain ⟨rows, _⟩ := arguments
      cases receiver with
      | none => exact Action.keeps_pure _
      | some handler =>
          have fed := handler.triple_feed (receives handler rfl) (rows.window bounds).columns (rows.window bounds).rows 1
          exact Keeps.before fed fun _ => Action.keeps_pure _

theorem StatementHandler.keeps_of_statement (settings : Settings) (database : Database S) (stays : database.Keeps good)
    (parameters : ParameterHandler S) (sets : parameters.Keeps good) (results : ResultSetHandler S)
    (handles : results.Keeps good) (statement : Statement) (command : Command) :
    (ofStatement settings database parameters results statement command).Keeps good := by
  intro step arguments
  cases step with
  | prepare => exact Action.keeps_pure _
  | parameterize => exact sets .setParameters arguments
  | runUpdate => exact stays.execute arguments.1
  | runQuery => exact (stays.query arguments.1).before fun rows => handles .handleRows (rows, ())

theorem Configuration.keeps_statement_handler (configuration : Configuration S) (heeds : configuration.chain.Heeds good)
    (database : Database S) (stays : database.Keeps good) (statement : Statement) (bounds : Bounds)
    (receiver : Option (RowHandler S)) (receives : ∀ handler, receiver = some handler → handler.Keeps good)
    (command : Command) : (configuration.statementHandler database statement bounds receiver command).Keeps good := by
  have sets := configuration.chain.keeps_wrap heeds _ (ParameterHandler.keeps_of_command command)
  have handles := configuration.chain.keeps_wrap heeds _ (ResultSetHandler.keeps_of_bounds bounds receiver receives)
  exact configuration.chain.keeps_wrap heeds _
    (StatementHandler.keeps_of_statement configuration.settings database stays _ sets _ handles statement command)

-- A property of what is neither in the world nor among the rows of the own tier.
structure Stage.Apart (good : Stage T W → Prop) : Prop where
  world : ∀ stage world, good stage → good { stage with world := world }
  kept : ∀ stage kept, good stage → good { stage with own := { stage.own with kept := kept } }

theorem Stage.apart_of_staging (holds : Cache.Staging T → Prop) : Apart fun stage : Stage T W => holds stage.staging where
  world _ _ held := held
  kept _ _ held := held

theorem Stage.keeps_world {A : Type} {good : Stage T W → Prop}
    (elsewhere : ∀ stage world, good stage → good { stage with world := world }) (action : Action W A) :
    Keeps good (Action.within Stage.world (fun world stage => { stage with world }) action) :=
  Action.keeps_within action elsewhere

theorem Database.keeps_elsewhere {good : Stage T W → Prop}
    (elsewhere : ∀ stage world, good stage → good { stage with world := world }) (database : Database W) :
    (database.staged T).Keeps good where
  query _ := Stage.keeps_world elsewhere _
  execute _ := Stage.keeps_world elsewhere _
  commit := Stage.keeps_world elsewhere _

theorem Database.keeps_staged {good : Stage T W → Prop} (apart : Stage.Apart good) (database : Database W) :
    (database.staged T).Keeps good := database.keeps_elsewhere apart.world

namespace Direct

variable {good : Stage T W → Prop} (apart : Stage.Apart good) (configuration : Configuration (Stage T W))
  (heeds : configuration.chain.Heeds good) (database : Database (Stage T W)) (stays : database.Keeps good)

include apart

theorem keeps_forgetting : Keeps good clearLocal := triple_clear_local fun stage holds => apart.kept stage {} holds

theorem keeps_committing (database : Database (Stage T W)) (stays : database.Keeps good) (required : Bool) :
    Keeps good (commit database required) := by
  apply Keeps.before (Action.keeps_look _)
  intro closed
  cases closed with
  | true => exact Action.triple_fail fun _ holds => holds
  | false =>
      apply Keeps.before (keeps_forgetting apart)
      intro _
      cases required with
      | true => exact stays.commit
      | false => exact Action.keeps_pure _

include heeds stays

omit apart in
theorem keeps_send (statement : Statement) (parameter : Parameter) :
    Keeps good (send configuration database statement parameter) := by
  apply Keeps.before (Action.keeps_outcome _)
  intro command
  have handler := configuration.keeps_statement_handler heeds database stays statement .all none nofun command
  apply Keeps.before (handler .prepare ())
  intro prepared
  apply Keeps.before (handler .parameterize (prepared, ()))
  exact fun request => handler .runUpdate (request, ())

theorem keeps_update (statement : Statement) (parameter : Parameter) :
    Keeps good (update configuration database statement parameter) := by
  apply Keeps.before (triple_ensure_open _)
  intro _
  apply Keeps.before (keeps_forgetting apart)
  exact fun _ => keeps_send configuration heeds database stays statement parameter

variable (statement : Statement) (bounds : Bounds) (receiver : Option (RowHandler (Stage T W)))
  (receives : ∀ handler, receiver = some handler → handler.Keeps good) (key : Cache.Key) (command : Command)

include receives

omit apart in
theorem keeps_fetch : Keeps good (fetch configuration database statement bounds receiver command) := by
  have handler := configuration.keeps_statement_handler heeds database stays statement bounds receiver receives command
  apply Keeps.before (handler .prepare ())
  intro prepared
  apply Keeps.before (handler .parameterize (prepared, ()))
  exact fun request => handler .runQuery (request, ())

theorem keeps_query_bound : Keeps good (queryBound configuration database statement bounds receiver key command) := by
  apply triple_flush (fun stage holds => apart.kept stage {} holds) statement
  have ended : Keeps good (endQuery configuration) := triple_end_query fun stage holds => apart.kept stage {} holds
  cases receiver with
  | none =>
      apply Keeps.before (Action.keeps_look _)
      intro known
      cases known with
      | some rows => exact Action.keeps_pure _
      | none =>
          apply Keeps.before (keeps_fetch configuration heeds database stays statement bounds none receives command)
          intro rows
          apply Keeps.before (Action.triple_change fun stage holds => apart.kept stage _ holds)
          exact fun _ => ended.before fun _ => Action.keeps_pure rows
  | some handler =>
      apply Keeps.before (keeps_fetch configuration heeds database stays statement bounds _ receives command)
      exact fun rows => ended.before fun _ => Action.keeps_pure rows

end Direct

end StatementMapper
