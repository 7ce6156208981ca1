import StatementMapper.Proofs.Command
import StatementMapper.Proofs.Execution.Keys
import StatementMapper.Proofs.Execution.Service

set_option autoImplicit false

/-! Queries of one statement under one key send the same SQL and the same values and take the same window. -/

namespace StatementMapper

open Outcome (bind_ok map_ok)

def Mapping.hints (mapping : Mapping) : Mode × Option String × Option Nat :=
  (mapping.mode, mapping.jdbcType, mapping.numericScale)

namespace Slot

def hints (slot : Slot) : Mode × Option String × Option Nat := (slot.mode, slot.jdbcType, slot.numericScale)

theorem hints_number (index : Nat) (pairs : List (Mapping × Value)) :
    (number index pairs).map hints = pairs.map fun pair => pair.1.hints := by
  induction pairs generalizing index with
  | nil => rfl
  | cons pair rest ih => exact congrArg (List.cons pair.1.hints) (ih (index + 1))

theorem number_congr (index : Nat) (pairs others : List (Mapping × Value))
    (told : (pairs.map fun pair => pair.1.hints) = others.map fun pair => pair.1.hints)
    (sent : (pairs.filter fun pair => pair.1.mode.isInput).map Prod.snd =
      (others.filter fun pair => pair.1.mode.isInput).map Prod.snd) : number index pairs = number index others := by
  induction pairs generalizing index others with
  | nil =>
      cases others with
      | nil => rfl
      | cons other more => exact nomatch told
  | cons pair rest ih =>
      cases others with
      | nil => exact nomatch told
      | cons other more =>
          rcases pair with ⟨mapping, value⟩
          rcases other with ⟨second, against⟩
          obtain ⟨head, tail⟩ := List.cons.inj told
          obtain ⟨mode, type, scale⟩ : mapping.mode = second.mode ∧ mapping.jdbcType = second.jdbcType ∧
              mapping.numericScale = second.numericScale := by simpa [Mapping.hints] using head
          by_cases input : second.mode.isInput = true
          · simp only [List.filter_cons, mode, if_pos input, List.map_cons] at sent
            obtain ⟨same, later⟩ := List.cons.inj sent
            simp only [number, ofMapping, mode, type, scale, same, ih (index + 1) more tail later]
          · simp only [List.filter_cons, mode, if_neg input] at sent
            simp only [number, ofMapping, mode, type, scale, ih (index + 1) more tail sent, if_neg input]

theorem of_command_eq_iff (command other : Command) (valued : command.values.length = command.mappings.length)
    (answered : other.values.length = other.mappings.length)
    (sent : command.inputs.map Prod.snd = other.inputs.map Prod.snd) :
    ofCommand command = ofCommand other ↔ command.mappings.map Mapping.hints = other.mappings.map Mapping.hints := by
  have told (command : Command) (valued : command.values.length = command.mappings.length) :
      ((command.mappings.zip command.values).map fun pair => pair.1.hints) = command.mappings.map Mapping.hints := by
    have fronts := List.map_fst_zip (Nat.le_of_eq valued.symm)
    calc
      ((command.mappings.zip command.values).map fun pair => pair.1.hints) =
          ((command.mappings.zip command.values).map Prod.fst).map Mapping.hints := by rw [List.map_map]; rfl
      _ = command.mappings.map Mapping.hints := by rw [fronts]
  constructor
  · intro same
    have marks := congrArg (List.map hints) same
    rw [ofCommand, ofCommand, hints_number, hints_number] at marks
    rwa [told command valued, told other answered] at marks
  · intro same
    rw [← told command valued, ← told other answered] at same
    exact number_congr 1 _ _ same sent

end Slot

namespace Source

theorem command_bound (source : Source) (parameter : Parameter) (database : Option String) (command : Command)
    (made : source.command parameter database = .ok command) :
    ∃ sql mappings bindings, Command.bind sql mappings parameter bindings = .ok command := by
  cases source with
  | fixed sql mappings => exact ⟨sql, mappings, [], made⟩
  | dynamic root squeeze =>
      rw [Source.command, render] at made
      obtain ⟨⟨text, bindings⟩, _, made⟩ := (bind_ok _ _ _).mp made
      obtain ⟨⟨sql, mappings⟩, _, made⟩ := (bind_ok _ _ _).mp made
      exact ⟨sql, mappings, bindings, made⟩

theorem command_valued (source : Source) (parameter : Parameter) (database : Option String) (command : Command)
    (made : source.command parameter database = .ok command) : command.values.length = command.mappings.length := by
  obtain ⟨sql, mappings, bindings, bound⟩ := command_bound source parameter database command made
  obtain ⟨values, found, rfl⟩ := (map_ok _ _ _).mp bound
  exact (Command.values_of_get _ _ _ _ found).1

theorem fixed_mappings (sql : String) (mappings : List Mapping) (parameter : Parameter) (database : Option String)
    (command : Command) (made : (fixed sql mappings).command parameter database = .ok command) :
    command.mappings = mappings := by
  obtain ⟨values, _, rfl⟩ := (map_ok _ _ _).mp made
  rfl

end Source

namespace StatementHandler

variable {S : Type}

def assemble (settings : Settings) (database : Database S) (results : ResultSetHandler S) (statement : Statement)
    (command : Command) : Action S Request := do
  let handler := ofStatement settings database (ParameterHandler.ofCommand command) results statement command
  let prepared ← handler.prepare
  handler.parameterize prepared

end StatementHandler

namespace Direct

variable {T W : Type}

theorem run_create_key (configuration : Configuration (Stage T W)) (statement : Statement) (bounds : Bounds)
    (command : Command) (stage : Stage T W) (opened : stage.own.closed = false) :
    (createKey configuration statement bounds command).run stage =
      (.ok (keyOf configuration.settings statement bounds command), stage) :=
  Action.run_bind_ok (run_ensure_open stage opened)

theorem run_create_key_closed (configuration : Configuration (Stage T W)) (statement : Statement) (bounds : Bounds)
    (command : Command) (stage : Stage T W) (closed : stage.own.closed = true) :
    (createKey configuration statement bounds command).run stage = (.error .executorClosed, stage) :=
  Action.run_bind_error (run_ensure_open_closed stage closed)

theorem key_of_create (configuration : Configuration (Stage T W)) (statement : Statement) (bounds : Bounds)
    (command : Command) (stage : Stage T W) (key : Cache.Key)
    (keyed : ((createKey configuration statement bounds command).run stage).1 = .ok key) :
    key = keyOf configuration.settings statement bounds command := by
  cases closed : stage.own.closed with
  | true =>
      rw [run_create_key_closed configuration statement bounds command stage closed] at keyed
      cases keyed
  | false =>
      rw [run_create_key configuration statement bounds command stage closed] at keyed
      exact (Except.ok.inj keyed).symm

theorem run_keyed_cases {A : Type} (configuration : Configuration (Stage T W)) (statement : Statement)
    (parameter : Parameter) (bounds : Bounds) (rest : Command → Cache.Key → Action (Stage T W) A) (stage : Stage T W) :
    (∃ cause, (do
      let command ← Action.ofExcept (configuration.command statement parameter)
      let key ← createKey configuration statement bounds command
      rest command key : Action (Stage T W) A).run stage = (.error cause, stage)) ∨
    ∃ command, configuration.command statement parameter = .ok command ∧ (do
      let command ← Action.ofExcept (configuration.command statement parameter)
      let key ← createKey configuration statement bounds command
      rest command key : Action (Stage T W) A).run stage =
        (rest command (keyOf configuration.settings statement bounds command)).run stage := by
  cases made : configuration.command statement parameter with
  | error cause => exact Or.inl ⟨cause, rfl⟩
  | ok command =>
      have answered := Action.run_answer command stage
      cases closed : stage.own.closed with
      | true =>
          have refused := run_create_key_closed configuration statement bounds command stage closed
          exact Or.inl ⟨.executorClosed, (Action.run_bind_ok answered).trans (Action.run_bind_error refused)⟩
      | false =>
          have keyed := run_create_key configuration statement bounds command stage closed
          exact Or.inr ⟨command, rfl, (Action.run_bind_ok answered).trans (Action.run_bind_ok keyed)⟩

theorem same_key_sends (configuration : Configuration (Stage T W)) (database : Database (Stage T W))
    (results : ResultSetHandler (Stage T W)) (statement : Statement) (parameter other : Parameter)
    (bounds window : Bounds) (command against : Command)
    (made : configuration.command statement parameter = .ok command)
    (remade : configuration.command statement other = .ok against) (stage later : Stage T W) (key : Cache.Key)
    (keyed : (((executor configuration database).createKey statement parameter bounds command).run stage).1 = .ok key)
    (rekeyed : (((executor configuration database).createKey statement other window against).run later).1 = .ok key) :
    ∃ request asked,
      (StatementHandler.assemble configuration.settings database results statement command).run stage =
        (.ok request, stage) ∧
      (StatementHandler.assemble configuration.settings database results statement against).run later =
        (.ok asked, later) ∧
      request = { asked with slots := request.slots } ∧ request.inputs = asked.inputs ∧
      (request.slots = asked.slots ↔ command.mappings.map Mapping.hints = against.mappings.map Mapping.hints) ∧
      (statement.source.isDynamic = false → request.slots = asked.slots) ∧
      ∀ rows : Rows, rows.count < Word.signedBound → rows.window bounds = rows.window window := by
  have first := key_of_create configuration statement bounds command stage key keyed
  have second := key_of_create configuration statement window against later key rekeyed
  rw [first, key_of_eq, key_of_eq] at second
  obtain ⟨_, offset, limit, sql, inputs⟩ := key_for_inj _ _ _ _ _ _ _ _ _ second
  have slots := Slot.of_command_eq_iff command against (Source.command_valued _ _ _ _ made)
    (Source.command_valued _ _ _ _ remade) inputs
  refine ⟨_, _, rfl, rfl, ?_, ?_, slots, ?_, fun rows countable => Rows.window_congr rows bounds window countable offset limit⟩
  · simp only [StatementHandler.request, sql]
  · exact (Slot.inputs_of_command command).trans (inputs.trans (Slot.inputs_of_command against).symm)
  · intro undirected
    refine slots.mpr ?_
    rw [Configuration.command] at made remade
    cases source : statement.source with
    | fixed sql mappings =>
        rw [source] at made remade
        rw [Source.fixed_mappings _ _ _ _ _ made, Source.fixed_mappings _ _ _ _ _ remade]
    | dynamic root squeeze =>
        rw [source] at undirected
        exact nomatch undirected

end Direct

namespace Typed

open Template

def placeholder (type : String) : Node := .sequence [.parameterized ("#\x7bv, jdbcType=" ++ type ++ "\x7d").toList]

def statement : Statement :=
  .ofSource "typed" .select
    (.dynamic (.sequence [.choose [(⟨"t", .property "t"⟩, placeholder "INTEGER")] (some (placeholder "VARCHAR"))]) false)

def configuration : Configuration (Stage Unit Unit) where
  statements := [("typed", statement)]

def database : Database (Stage Unit Unit) where
  query _ := pure Rows.empty
  execute _ := pure 0
  commit := pure ()
  rollback := pure ()
  close := pure ()

def stage : Stage Unit Unit := ⟨{}, ⟨[], 0⟩, ()⟩

def parameter (first : Bool) : Parameter := .table [("t", .boolean first), ("v", .integer 1)]

def mapping (first : Bool) : Mapping := { property := "v", jdbcType := some (if first then "INTEGER" else "VARCHAR") }

def key : Cache.Key := Direct.keyFor configuration.settings "typed" .all "?" [.integer 1]

theorem command_typed (first : Bool) :
    ∃ command, configuration.command statement (parameter first) = .ok command ∧ command.sql = "?" ∧
      command.mappings = [mapping first] ∧ command.values = [.integer 1] := by
  have checked : (configuration.command statement (parameter first)).toOption.any (fun command =>
      decide (command.sql = "?" ∧ command.mappings = [mapping first] ∧ command.values = [.integer 1])) = true := by
    cases first <;> decide +kernel
  cases made : configuration.command statement (parameter first) with
  | error fault =>
      rw [made] at checked
      cases checked
  | ok command =>
      rw [made] at checked
      exact ⟨command, rfl, of_decide_eq_true checked⟩

theorem create_key_typed (first : Bool) (limit : Nat) (large : Word.signedBound - 1 ≤ limit) (command : Command)
    (sql : command.sql = "?") (mappings : command.mappings = [mapping first]) (values : command.values = [.integer 1]) :
    (((Direct.executor configuration database).createKey statement (parameter first) ⟨0, limit⟩ command).run stage).1 =
      .ok key := by
  have sent : command.inputs.map Prod.snd = [.integer 1] := by
    rw [Command.inputs, mappings, values]
    rfl
  have clamped : Direct.boundValue limit = Direct.boundValue Bounds.unlimited := by
    rw [Direct.boundValue, Nat.min_eq_right large]
    rfl
  change Except.ok (Direct.keyOf configuration.settings statement ⟨0, limit⟩ command) = _
  rw [Direct.key_of_eq, sql, sent, Direct.keyFor, clamped]
  rfl

theorem key_shared_by_types :
    ∃ command against request asked, configuration.command statement (parameter true) = .ok command ∧
      configuration.command statement (parameter false) = .ok against ∧
      (((Direct.executor configuration database).createKey statement (parameter true) .all command).run stage).1 =
        .ok key ∧
      (((Direct.executor configuration database).createKey statement (parameter false) .all against).run stage).1 =
        .ok key ∧
      ((StatementHandler.assemble configuration.settings database (.ofBounds .all none) statement command).run stage).1 =
        .ok request ∧
      ((StatementHandler.assemble configuration.settings database (.ofBounds .all none) statement against).run stage).1 =
        .ok asked ∧
      request.slots ≠ asked.slots := by
  obtain ⟨command, made, sql, mappings, values⟩ := command_typed true
  obtain ⟨against, remade, text, others, answers⟩ := command_typed false
  have large : Word.signedBound - 1 ≤ Bounds.unlimited := by decide
  refine ⟨command, against, _, _, made, remade, create_key_typed true _ large command sql mappings values,
    create_key_typed false _ large against text others answers, rfl, rfl, ?_⟩
  change Slot.ofCommand command ≠ Slot.ofCommand against
  rw [Slot.ofCommand, Slot.ofCommand, mappings, values, others, answers]
  decide

-- A limit beyond 63 bits and none are one window, and one key.
theorem sends_under_limit :
    ∃ command request asked, configuration.command statement (parameter true) = .ok command ∧
      ((StatementHandler.assemble configuration.settings database (.ofBounds .all none) statement command).run stage) =
        (.ok request, stage) ∧
      ((StatementHandler.assemble configuration.settings database (.ofBounds .all none) statement command).run stage) =
        (.ok asked, stage) ∧
      request.slots = asked.slots ∧
      ∀ rows : Rows, rows.count < Word.signedBound → rows.window .all = rows.window ⟨0, Word.signedBound - 1⟩ := by
  obtain ⟨command, made, sql, mappings, values⟩ := command_typed true
  obtain ⟨request, asked, assembled, again, _, _, told, _, windows⟩ :=
    Direct.same_key_sends configuration database (.ofBounds .all none) statement (parameter true) (parameter true)
      .all ⟨0, Word.signedBound - 1⟩ command command made made stage stage key
      (create_key_typed true _ (by decide) command sql mappings values)
      (create_key_typed true _ (Nat.le_refl _) command sql mappings values)
  exact ⟨command, request, asked, made, assembled, again, told.mpr rfl, windows⟩

end Typed

end StatementMapper
