import StatementMapper.Proofs.Command
import StatementMapper.Proofs.Outcome
import StatementMapper.Source

set_option autoImplicit false

/-! Rendered once a template gives what it gives rendered for each parameter, but for the name of the database. -/

namespace StatementMapper

open Outcome (bind_ok)

namespace Template.Node

mutual
theorem render_plain (node : Node) (undirected : node.isDynamic = false) :
    ∃ write : List Char → List Char, ∀ r : Rendering,
      node.render r = .ok (true, ⟨{ r.draft with sql := write r.draft.sql }, r.scope⟩) := by
  cases node with
  | static content => exact ⟨fun sql => Draft.joined sql content, fun r => by rw [render]; rfl⟩
  | parameterized content => exact ⟨fun sql => Draft.joined sql content, fun r => by rw [render]; rfl⟩
  | sequence children =>
      rw [isDynamic] at undirected
      obtain ⟨write, renders⟩ := render_all_plain children undirected
      exact ⟨write, fun r => by rw [render, renders]; rfl⟩
  | text parts => simp [isDynamic] at undirected
  | when test body => simp [isDynamic] at undirected
  | choose branches otherwise => simp [isDynamic] at undirected
  | trim tag trimming body => simp [isDynamic] at undirected
  | loop head body => simp [isDynamic] at undirected
  | bind name value => simp [isDynamic] at undirected
theorem render_all_plain (children : List Node) (undirected : anyDynamic children = false) :
    ∃ write : List Char → List Char, ∀ r : Rendering,
      renderAll children r = .ok ⟨{ r.draft with sql := write r.draft.sql }, r.scope⟩ := by
  cases children with
  | nil => exact ⟨id, fun r => by rw [renderAll]; rfl⟩
  | cons child rest =>
      rw [anyDynamic, Bool.or_eq_false_iff] at undirected
      obtain ⟨first, renders⟩ := render_plain child undirected.1
      obtain ⟨more, renders_rest⟩ := render_all_plain rest undirected.2
      refine ⟨fun sql => more (first sql), fun r => ?_⟩
      rw [renderAll, renders]
      exact renders_rest _
end

end Template.Node

namespace Source

open Template

def builtins (parameter : Parameter) (database : Option String) : Table String Value :=
  (start parameter database).draft.bindings

theorem resolve_builtin (parameter : Parameter) (database : Option String) (property : String) :
    Command.resolve? parameter (builtins parameter database) property =
      if (Value.splitPath property).1 = Scope.databaseName
      then Parameter.follow? (Value.splitPath property).2 (.ofText? database)
      else Command.resolveIn? parameter property := by
  have table : builtins parameter database =
      [(Scope.parameterName, parameter.toValue), (Scope.databaseName, .ofText? database)] := rfl
  have distinct : Scope.databaseName ≠ Scope.parameterName := by decide
  unfold Command.resolve? Command.resolveIn?
  rw [table]
  by_cases whole : (Value.splitPath property).1 = Scope.parameterName
  · simp [Table.get?, whole, Ne.symm distinct]
  · by_cases named : (Value.splitPath property).1 = Scope.databaseName
    · simp [Table.get?, named, distinct]
    · simp [Table.get?, whole, named]

theorem rendered_plain (root : Node) (undirected : root.isDynamic = false) :
    ∃ text, rendered root blank = .ok (text, []) ∧ ∀ parameter database,
      rendered root (start parameter database) = .ok (text, builtins parameter database) := by
  obtain ⟨write, renders⟩ := Node.render_plain root undirected
  refine ⟨Text.trim (write []), ?_, fun parameter database => ?_⟩
  · rw [rendered, renders]
    rfl
  · rw [rendered, renders]
    rfl

theorem of_node_plain (squeeze : Bool) (root : Node) (source : Source) (undirected : root.isDynamic = false)
    (compiled : ofNode squeeze root = .ok source) :
    ∃ sql mappings, source = .fixed sql mappings ∧ ∀ parameter database,
      render squeeze root parameter database = Command.bind sql mappings parameter (builtins parameter database) := by
  obtain ⟨text, once, each⟩ := rendered_plain root undirected
  rw [ofNode, if_neg (by simp [undirected]), once] at compiled
  obtain ⟨_, first, compiled⟩ := (bind_ok _ _ _).mp compiled
  cases first
  obtain ⟨⟨sql, mappings⟩, markers, compiled⟩ := (bind_ok _ _ _).mp compiled
  cases compiled
  refine ⟨sql, mappings, rfl, fun parameter database => ?_⟩
  rw [render, each]
  simp only [bind, Except.bind, markers]

end Source

def Fault.SameKind (fault other : Fault) : Prop := fault.ctorIdx = other.ctorIdx

-- Two outcomes that a caller takes for the same: what is sent to the database, or the kind of the fault.
inductive Command.Agrees : Except Fault Command → Except Fault Command → Prop where
  | sent (command other : Command) (sql : command.sql = other.sql) (mappings : command.mappings = other.mappings)
      (values : command.values = other.values) : Agrees (.ok command) (.ok other)
  | failed (fault other : Fault) (kind : fault.SameKind other) : Agrees (.error fault) (.error other)

namespace Source

open Template

-- The placeholders of the database's name have the value they have in the parameter object.
def Undisturbed (mappings : List Mapping) (parameter : Parameter) (database : Option String) : Prop :=
  ∀ mapping ∈ mappings, mapping.mode.isInput = true → (Value.splitPath mapping.property).1 = Scope.databaseName →
    Command.resolveIn? parameter mapping.property =
      Parameter.follow? (Value.splitPath mapping.property).2 (.ofText? database)

theorem value_of_same_iff (mapping : Mapping) (parameter : Parameter) (database : Option String) :
    Command.valueOf parameter [] mapping = Command.valueOf parameter (builtins parameter database) mapping ↔
      (mapping.mode.isInput = true → (Value.splitPath mapping.property).1 = Scope.databaseName →
        Command.resolveIn? parameter mapping.property =
          Parameter.follow? (Value.splitPath mapping.property).2 (.ofText? database)) := by
  have unbound : Command.resolve? parameter [] mapping.property = Command.resolveIn? parameter mapping.property := rfl
  unfold Command.valueOf
  rw [unbound, resolve_builtin]
  by_cases input : mapping.mode.isInput = true
  · rw [if_pos input, if_pos input]
    by_cases named : (Value.splitPath mapping.property).1 = Scope.databaseName
    · rw [if_pos named]
      generalize Command.resolveIn? parameter mapping.property = here
      generalize Parameter.follow? (Value.splitPath mapping.property).2 (.ofText? database) = there
      cases here <;> cases there <;> simp [input, named]
    · simp [named]
  · simp [input]

theorem fixed_agrees_iff (squeeze : Bool) (root : Node) (source : Source) (undirected : root.isDynamic = false)
    (compiled : ofNode squeeze root = .ok source) (parameter : Parameter) (database : Option String) :
    ∃ sql mappings, source = .fixed sql mappings ∧
      (Command.Agrees (source.command parameter database) (render squeeze root parameter database) ↔
        Undisturbed mappings parameter database ∨
          Command.Unanswered parameter [] mappings ∧
            Command.Unanswered parameter (builtins parameter database) mappings) := by
  obtain ⟨sql, mappings, rfl, renders⟩ := of_node_plain squeeze root source undirected compiled
  refine ⟨sql, mappings, rfl, ?_⟩
  rw [renders, command, Command.bind, Command.bind]
  constructor
  · intro agrees
    cases here : Command.valuesOf parameter [] mappings with
    | error fault =>
        rw [here] at agrees
        cases there : Command.valuesOf parameter (builtins parameter database) mappings with
        | error other =>
            exact Or.inr ⟨Command.unanswered_of_error _ _ _ _ here, Command.unanswered_of_error _ _ _ _ there⟩
        | ok values =>
            rw [there] at agrees
            exact nomatch agrees
    | ok values =>
        rw [here] at agrees
        cases there : Command.valuesOf parameter (builtins parameter database) mappings with
        | error other =>
            rw [there] at agrees
            exact nomatch agrees
        | ok others =>
            rw [there] at agrees
            obtain ⟨_, _, _, _, same⟩ := agrees
            refine Or.inl fun mapping member => (value_of_same_iff _ _ _).mp ?_
            exact Command.value_of_same _ _ _ _ _ here (there.trans (congrArg _ same.symm)) mapping member
  · rintro (undisturbed | ⟨here, there⟩)
    · have same := Command.values_of_congr parameter [] (builtins parameter database) mappings
        fun mapping member => (value_of_same_iff _ _ _).mpr (undisturbed mapping member)
      rw [← same]
      cases Command.valuesOf parameter [] mappings with
      | error fault => exact .failed _ _ rfl
      | ok values => exact .sent _ _ rfl rfl rfl
    · obtain ⟨property, failed⟩ := Command.values_of_fails _ _ _ here
      obtain ⟨other, fails⟩ := Command.values_of_fails _ _ _ there
      rw [failed, fails]
      exact .failed _ _ rfl

def databaseQuery : List Char := "SELECT #\x7b_databaseId\x7d".toList

def databaseMapping : Mapping := { property := "_databaseId" }

theorem database_query_compiled :
    ofNode false (.parameterized databaseQuery) = .ok (.fixed "SELECT ?" [databaseMapping]) := by
  have pieces : Delimiters.placeholder.scan databaseQuery =
      "SELECT ".toList.map .plain ++ [.token "_databaseId".toList "#\x7b_databaseId\x7d".toList] := by
    decide +kernel
  have markers : placed false databaseQuery = .ok ("SELECT ?", [databaseMapping]) := by
    rw [placed, bindPlaceholders, pieces]
    rfl
  have text : rendered (.parameterized databaseQuery) blank = .ok (databaseQuery, []) := rfl
  rw [ofNode, text]
  simp only [bind, Except.bind, markers]
  rfl

-- With a named database and a parameter object that has no such field, one way fails and the other does not.
theorem fixed_disagrees :
    (Node.parameterized databaseQuery).isDynamic = false ∧
      ofNode false (.parameterized databaseQuery) = .ok (.fixed "SELECT ?" [databaseMapping]) ∧
      ¬ Command.Agrees (command (.fixed "SELECT ?" [databaseMapping]) (.table []) (some "pg"))
        (render false (.parameterized databaseQuery) (.table []) (some "pg")) := by
  have undirected : (Node.parameterized databaseQuery).isDynamic = false := by simp only [Node.isDynamic]
  refine ⟨undirected, database_query_compiled, fun agrees => ?_⟩
  obtain ⟨sql, mappings, shape, condition⟩ :=
    fixed_agrees_iff false _ _ undirected database_query_compiled (.table []) (some "pg")
  obtain ⟨rfl, rfl⟩ := Source.fixed.inj shape
  rcases condition.mp agrees with undisturbed | ⟨_, mapping, member, _, missing⟩
  · have absent : Command.resolveIn? (.table []) databaseMapping.property = none := rfl
    have same := undisturbed databaseMapping List.mem_cons_self rfl rfl
    rw [absent] at same
    exact nomatch same
  · have found : Command.resolve? (.table []) (builtins (.table []) (some "pg")) databaseMapping.property =
        some (.text "pg") := rfl
    rw [List.mem_singleton.mp member, found] at missing
    exact nomatch missing

end Source

end StatementMapper
