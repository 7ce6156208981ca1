import StatementMapper.Proofs.Command
import StatementMapper.Proofs.Outcome
import StatementMapper.Proofs.Source.Fixed
import StatementMapper.Proofs.Template.Walk

set_option autoImplicit false

/-! When the value sent for a placeholder is the one its property has where the placeholder stands. -/

namespace StatementMapper

open Outcome (bind_ok map_ok)

namespace Template

namespace Trace

def latest? (name : String) (trace : Trace) : Option Value :=
  (trace.bound.reverse.find? fun entry => entry.1 = name).map Prod.snd

theorem get_bindings (name : String) (trace : Trace) (before : Table String Value) :
    Table.get? name (trace.bindings before) = (trace.latest? name).or (Table.get? name before) := by
  unfold bindings latest?
  induction trace.bound generalizing before with
  | nil => rfl
  | cons entry rest ih =>
      rw [List.foldl_cons, ih, List.reverse_cons, List.find?_append, Option.map_or, Option.or_assoc]
      by_cases same : name = entry.1
      · simp [same, Table.get_put_same]
      · simp [Ne.symm same, Table.get_put_other same]

end Trace

theorem mappings_of_get (contents : List (List Char)) (mappings : List Mapping)
    (found : mappingsOf contents = .ok mappings) :
    mappings.length = contents.length ∧ ∀ (position : Nat) (content : List Char) (mapping : Mapping),
      contents[position]? = some content → mappings[position]? = some mapping → Mapping.parse content = .ok mapping := by
  induction contents generalizing mappings with
  | nil =>
      cases found
      exact ⟨rfl, fun _ _ _ there => nomatch there⟩
  | cons first rest ih =>
      rw [mappingsOf] at found
      obtain ⟨answer, parsed, found⟩ := (bind_ok _ _ _).mp found
      obtain ⟨more, others, found⟩ := (bind_ok _ _ _).mp found
      cases found
      obtain ⟨length, each⟩ := ih more others
      refine ⟨congrArg (· + 1) length, fun position content mapping written placed => ?_⟩
      cases position with
      | zero =>
          cases written
          cases placed
          exact parsed
      | succ earlier => exact each earlier content mapping written placed

-- A value is faithful to a placeholder when it is what its property evaluates to where the placeholder stands.
def Emission.Faithful (emission : Emission) (property : String) (value : Value) : Prop :=
  (Expr.property property).evaluate emission.scope = .ok value

theorem Emission.faithful_iff (emission : Emission) (property : String) (value here : Value)
    (seen : emission.scope.get? (Value.splitPath property).1 = some here) :
    emission.Faithful property value ↔ value = (Parameter.follow? (Value.splitPath property).2 here).getD .null := by
  unfold Faithful
  rw [Expr.evaluate, Except.ok.injEq, Scope.resolve?]
  simp only [seen]
  exact eq_comm

end Template

namespace Source

open Template

theorem start_covered (parameter : Parameter) (structured : parameter.isScalar = false) (database : Option String) :
    Covered [] (start parameter database) := by
  intro name seen
  right
  change ((Scope.root parameter database).get? name).isSome = true at seen
  have root : Scope.root parameter database =
      ((⟨[[]], parameter⟩ : Scope).set Scope.parameterName parameter.toValue).set Scope.databaseName (.ofText? database) := by
    rw [Scope.root, structured]
    rfl
  rw [root, Scope.get_set, Scope.get_set] at seen
  change (Table.get? name (Table.put Scope.databaseName (.ofText? database)
    (Table.put Scope.parameterName parameter.toValue []))).isSome = true
  by_cases named : name = Scope.databaseName
  · rw [named, Table.get_put_same]
    rfl
  · rw [Table.get_put_other named]
    by_cases whole : name = Scope.parameterName
    · rw [whole, Table.get_put_same]
      rfl
    · rw [if_neg named, if_neg whole] at seen
      exact nomatch seen

structure Walked (walk : Trace) (parameter : Parameter) (database : Option String) (command : Command) : Prop where
  bindings : command.bindings = walk.bindings (builtins parameter database)
  mappings : mappingsOf walk.contents = .ok command.mappings
  values : Command.valuesOf parameter command.bindings command.mappings = .ok command.values
  anchored : ∀ emission ∈ walk.emitted, Anchored [] command.bindings emission

theorem render_walked (squeeze : Bool) (root : Node) (whole : root.Whole none) (parameter : Parameter)
    (structured : parameter.isScalar = false) (database : Option String) (command : Command)
    (ran : render squeeze root parameter database = .ok command) :
    Walked (root.trace (start parameter database)) parameter database command := by
  unfold render at ran
  obtain ⟨⟨sql, bindings⟩, shown, ran⟩ := (bind_ok _ _ _).mp ran
  obtain ⟨⟨text, mappings⟩, markers, ran⟩ := (bind_ok _ _ _).mp ran
  obtain ⟨values, found, made⟩ := (map_ok _ _ _).mp ran
  cases made
  unfold rendered at shown
  cases walked : root.render (start parameter database) with
  | error cause =>
      rw [walked] at shown
      cases shown
  | ok outcome =>
      rw [walked] at shown
      cases shown
      have traced := Node.render_traced none [] root whole _ _ _ walked
      have tokens := holds_trim (traced.holds [] (holds_nil none))
      rw [placed, bindPlaceholders, Draft.finish, tokens, List.nil_append] at markers
      cases parsed : mappingsOf (root.trace (start parameter database)).contents with
      | error cause =>
          rw [parsed] at markers
          cases markers
      | ok others =>
          rw [parsed] at markers
          cases markers
          exact ⟨traced.bindings, parsed, found, traced.anchored (start_covered parameter structured database)⟩

-- If a loop has taken its name, the value is the one the loop wrote; else the one bound last under the name.
theorem placeholder_faithful_iff (squeeze : Bool) (root : Node) (whole : root.Whole none) (parameter : Parameter)
    (structured : parameter.isScalar = false) (database : Option String) (command : Command)
    (ran : render squeeze root parameter database = .ok command) :
    let walk := root.trace (start parameter database)
    command.mappings.length = walk.emitted.length ∧ command.values.length = walk.emitted.length ∧
      ∀ (position : Nat) (emission : Emission) (marker : Mapping) (value : Value),
        walk.emitted[position]? = some emission → command.mappings[position]? = some marker →
          command.values[position]? = some value →
            Mapping.parse emission.content = .ok marker ∧
              ∀ (written : Mapping) (name : String) (rest : Option String) (here : Value),
                Mapping.parse emission.written = .ok written → Value.splitPath written.property = (name, rest) →
                  emission.scope.get? name = some here → marker.mode.isInput = true →
                    (emission.taken = true → (emission.Faithful written.property value ↔
                      Command.resolve? parameter (walk.bindings (builtins parameter database)) marker.property =
                        some ((Parameter.follow? rest here).getD .null))) ∧
                    (emission.taken = false → marker = written ∧ ∃ bound,
                      (walk.latest? name).or (Table.get? name (builtins parameter database)) = some bound ∧
                        (emission.Faithful written.property value ↔
                          Parameter.follow? rest bound = some ((Parameter.follow? rest here).getD .null))) := by
  intro walk
  have walked := render_walked squeeze root whole parameter structured database command ran
  obtain ⟨as_many, parsed⟩ := mappings_of_get _ _ walked.mappings
  obtain ⟨valued, found⟩ := Command.values_of_get _ _ _ _ walked.values
  rw [Trace.contents, List.length_map] at as_many
  refine ⟨as_many, valued.trans as_many, fun position emission marker value emitted placed sent => ?_⟩
  have content := parsed position emission.content marker (by rw [Trace.contents, List.getElem?_map, emitted]; rfl) placed
  refine ⟨content, fun written name rest here read path seen input => ?_⟩
  have resolved := (Command.value_of_ok_iff _ _ _ _ input).mp (found position marker value placed sent)
  have faithful : emission.Faithful written.property value ↔ value = (Parameter.follow? rest here).getD .null := by
    rw [emission.faithful_iff written.property value here (by rw [path]; exact seen), path]
  refine ⟨fun _ => ?_, fun free => ?_⟩
  · rw [faithful, ← walked.bindings, resolved, Option.some.injEq]
  · obtain ⟨same, bound⟩ := walked.anchored emission (List.mem_of_getElem? emitted) free
    obtain rfl : marker = written := by
      rw [same, read, Except.ok.injEq] at content
      exact content.symm
    refine ⟨rfl, ?_⟩
    rw [faithful, ← Trace.get_bindings, ← walked.bindings]
    rcases bound marker read (by rw [path, seen]; rfl) with outer | there
    · cases outer
    · rw [path] at there
      obtain ⟨last, known⟩ := Option.isSome_iff_exists.mp there
      refine ⟨last, known, ?_⟩
      rw [Command.resolve?, path] at resolved
      simp only [known] at resolved
      rw [resolved, Option.some.injEq]

def label : List Char := ['#', '\x7b', 'y', '\x7d']

-- A loop that binds a value in each iteration and has a placeholder for it there.
def labels : Node :=
  .loop ⟨⟨"xs", .property "xs"⟩, some "i", none, "", "", "", false⟩
    (.sequence [.bind "y" ⟨"i", .property "i"⟩, .parameterized label])

def pair : Parameter := .table [("xs", .list [.integer 1, .integer 2])]

theorem labels_whole : labels.Whole none := by
  have text : Holds (some ⟨false, false⟩) label (contents (Delimiters.placeholder.scan label)) := by
    have closed : Delimiters.Closed .placeholder label [.token ['y'] label] :=
      .token rfl (.plain rfl (fun slash => absurd slash (by decide)) (.closed rfl)) .nil
    rw [Delimiters.closed_scan _ closed]
    exact ⟨⟨_, closed, rfl⟩, fun _ same => by cases same; exact ⟨by decide, by decide, by decide, fun _ => rfl⟩,
      fun _ => by decide⟩
  exact ⟨⟨false, false⟩, Or.inl rfl, ⟨holds_nil _, holds_nil _, holds_nil _⟩, trivial, text, trivial⟩

theorem labels_rendered :
    ∃ command, render false labels pair none = .ok command ∧ command.mappings = [{ property := "y" }, { property := "y" }] ∧
      command.values = [.integer 2, .integer 2] := by
  have checked : (match render false labels pair none with
      | .ok command => decide (command.mappings = [{ property := "y" }, { property := "y" }] ∧
          command.values = [.integer 2, .integer 2])
      | .error _ => false) = true := by
    decide +kernel
  cases ran : render false labels pair none with
  | error fault =>
      rw [ran] at checked
      exact nomatch checked
  | ok command =>
      rw [ran] at checked
      exact ⟨command, rfl, of_decide_eq_true checked⟩

theorem labels_walked :
    ∃ first second, (labels.trace (start pair none)).emitted = [first, second] ∧ first.written = ['y'] ∧
      first.taken = false ∧ first.scope.get? "y" = some (.integer 1) := by
  have checked : (labels.trace (start pair none)).emitted.map
      (fun emission => (emission.written, emission.taken, emission.scope.get? "y")) =
        [(['y'], false, some (.integer 1)), (['y'], false, some (.integer 2))] := by
    decide +kernel
  obtain ⟨first, more, shape, seen, later⟩ := List.map_eq_cons_iff.mp checked
  obtain ⟨second, rest, rfl, _, ended⟩ := List.map_eq_cons_iff.mp later
  obtain rfl := List.map_eq_nil_iff.mp ended
  simp only [Prod.mk.injEq] at seen
  exact ⟨first, second, shape, seen⟩

theorem labels_unfaithful :
    labels.Whole none ∧ ∃ command emission, render false labels pair none = .ok command ∧
      (labels.trace (start pair none)).emitted[0]? = some emission ∧ emission.scope.get? "y" = some (.integer 1) ∧
        command.values[0]? = some (.integer 2) ∧ ¬ emission.Faithful "y" (.integer 2) := by
  obtain ⟨command, ran, mappings, values⟩ := labels_rendered
  obtain ⟨first, second, emitted, written, free, seen⟩ := labels_walked
  have parsed : Mapping.parse first.written = .ok { property := "y" } := by
    rw [written]
    rfl
  obtain ⟨_, _, each⟩ := placeholder_faithful_iff false labels labels_whole pair rfl none command ran
  obtain ⟨_, answers⟩ := each 0 first { property := "y" } (.integer 2) (by rw [emitted]; rfl) (by rw [mappings]; rfl)
    (by rw [values]; rfl)
  obtain ⟨_, bound, latest, faithful⟩ := (answers _ "y" none (.integer 1) parsed rfl seen rfl).2 free
  refine ⟨labels_whole, command, first, ran, by rw [emitted]; rfl, seen, by rw [values]; rfl, fun same => ?_⟩
  have last : (labels.trace (start pair none)).latest? "y" = some (.integer 2) := by decide +kernel
  rw [last] at latest
  cases latest
  exact absurd (faithful.mp same) (by decide)

end Source

end StatementMapper
