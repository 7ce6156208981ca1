import StatementMapper.Proofs.Interception.Composition
import StatementMapper.Proofs.Triple

set_option autoImplicit false

/-! A step is carried out, once and with what its interceptor proceeds with, if that carries the parameters' names. -/

namespace StatementMapper

variable {S : Type} {capability : Capability}

theorem ArgumentKind.of_name (kind : ArgumentKind) : ofName? kind.name = some kind := by
  cases kind <;> decide

theorem ArgumentKind.name_inj (kind other : ArgumentKind) : kind.name = other.name ↔ kind = other := by
  constructor
  · intro same
    have found := of_name other
    rw [← same, of_name] at found
    exact Option.some.inj found
  · exact congrArg name

theorem ReplyKind.name_inj (kind other : ReplyKind) : kind.name = other.name ↔ kind = other := by
  cases kind <;> cases other <;> decide

theorem Step.names_eq (step : Step capability) : step.parameterNames = step.parameters.map ArgumentKind.name := by
  cases step <;> rfl

def Argument.names (given : List (Argument S)) : List String := given.map fun argument => argument.kind.name

namespace Reading

variable (step : Step capability)

def inTurn : (kinds : List ArgumentKind) → Action (Reading S) (Arguments S kinds)
  | [] => do
    finish step
    pure ()
  | kind :: kinds => do
    let content ← next step kind
    let more ← inTurn kinds
    pure (content, more)

theorem all_in_turn : (all step : Action (Reading S) (Arguments S step.parameters)) = inTurn step step.parameters := by
  cases step <;> simp only [Step.parameters, inTurn, bind_assoc] <;> rfl

theorem run_next_own (kind : ArgumentKind) (content : kind.Carrier S) (rest : List (Argument S)) (position : Nat) :
    (next step kind).run ⟨⟨kind, content⟩ :: rest, position⟩ = (.ok content, ⟨rest, position + 1⟩) := by
  simp [Action.run, next, Argument.as_self]

theorem run_next_other (kind : ArgumentKind) (argument : Argument S) (rest : List (Argument S)) (position : Nat)
    (different : argument.kind ≠ kind) :
    ∃ fault, (next step kind).run ⟨argument :: rest, position⟩ = (.error (.plugin fault), ⟨rest, position⟩) := by
  have absent : argument.as? kind = none := dif_neg different
  simp [Action.run, next, absent]

end Reading

namespace Arguments

def inTurn : (kinds : List ArgumentKind) → Arguments S kinds → List (Argument S)
  | [], _ => []
  | kind :: kinds, (content, rest) => ⟨kind, content⟩ :: inTurn kinds rest

theorem tag_in_turn (step : Step capability) (arguments : Arguments S step.parameters) :
    tag step arguments = inTurn step.parameters arguments := by
  cases step <;> rfl

theorem in_turn_iff (kinds : List ArgumentKind) (given : List (Argument S)) :
    (∃ arguments, inTurn kinds arguments = given) ↔ Argument.names given = kinds.map ArgumentKind.name := by
  induction kinds generalizing given with
  | nil =>
      cases given with
      | nil => exact ⟨fun _ => rfl, fun _ => ⟨(), rfl⟩⟩
      | cons argument rest => simp [inTurn, Argument.names]
  | cons kind kinds ih =>
      cases given with
      | nil =>
          constructor
          · rintro ⟨⟨content, arguments⟩, same⟩
            cases same
          · intro named
            cases named
      | cons argument rest =>
          rw [Argument.names, List.map_cons, List.map_cons, List.cons.injEq, ArgumentKind.name_inj]
          constructor
          · rintro ⟨⟨content, arguments⟩, same⟩
            obtain ⟨first, later⟩ := List.cons.inj same
            exact ⟨congrArg Argument.kind first.symm, (ih rest).mp ⟨arguments, later⟩⟩
          · rintro ⟨first, later⟩
            obtain ⟨arguments, tagged⟩ := (ih rest).mpr later
            obtain ⟨_, content⟩ := argument
            subst first
            exact ⟨(content, arguments), congrArg _ tagged⟩

theorem names_iff (step : Step capability) (given : List (Argument S)) :
    Argument.names given = step.parameterNames ↔ ∃ arguments, inTurn step.parameters arguments = given := by
  rw [step.names_eq, in_turn_iff]

theorem run_in_turn_other (step : Step capability) (kinds : List ArgumentKind) (given : List (Argument S))
    (position : Nat) (other : ∀ arguments, inTurn kinds arguments ≠ given) :
    ∃ fault after, (Reading.inTurn step kinds).run ⟨given, position⟩ = (.error (.plugin fault), after) := by
  induction kinds generalizing given position with
  | nil =>
      cases given with
      | nil => exact absurd rfl (other ())
      | cons argument rest => exact ⟨_, _, rfl⟩
  | cons kind kinds ih =>
      cases given with
      | nil => exact ⟨_, _, rfl⟩
      | cons argument rest =>
          by_cases same : argument.kind = kind
          · obtain ⟨_, content⟩ := argument
            subst same
            have later : ∀ arguments, inTurn kinds arguments ≠ rest :=
              fun arguments tagged => other (content, arguments) (congrArg _ tagged)
            obtain ⟨fault, after, refused⟩ := ih rest (position + 1) later
            refine ⟨fault, after, ?_⟩
            rw [Reading.inTurn, Action.run_bind_ok (Reading.run_next_own step _ content rest position)]
            exact Action.run_bind_error refused
          · obtain ⟨fault, refused⟩ := Reading.run_next_other step kind argument rest position same
            exact ⟨fault, _, Action.run_bind_error refused⟩

theorem read_other (step : Step capability) (given : List (Argument S))
    (other : ∀ arguments, inTurn step.parameters arguments ≠ given) :
    ∃ fault, read step given = .error (.plugin fault) := by
  obtain ⟨fault, after, refused⟩ := run_in_turn_other step step.parameters given 0 other
  rw [← Reading.all_in_turn] at refused
  exact ⟨fault, congrArg Prod.fst refused⟩

end Arguments

namespace Invocation

def carry (target : Component S capability) (step : Step capability) (arguments : Arguments S step.parameters) :
    Action S Reply := do
  let content ← target.call step arguments
  pure ⟨step.reply, content⟩

-- Proceeding with arguments, handed over or left behind in place of others, comes to one action for each target.
def ProceedsAs (step : Step capability) (given : List (Argument S)) (action : Component S capability → Action S Reply) : Prop :=
  ∀ target left, proceedWith ⟨capability, step, left, target⟩ given = action target ∧
    proceed ⟨capability, step, given, target⟩ = action target

def Carried (step : Step capability) (given : List (Argument S)) : Prop :=
  ∃ arguments, Arguments.inTurn step.parameters arguments = given ∧
    ProceedsAs step given fun target => carry target step arguments

def Refused (step : Step capability) (given : List (Argument S)) : Prop :=
  ∃ fault, ProceedsAs step given fun _ => Action.fail (.plugin fault)

theorem proceeds_of_read (step : Step capability) (given : List (Argument S))
    (outcome : Except Fault (Arguments S step.parameters)) (read : Arguments.read step given = outcome) :
    ProceedsAs step given fun target => Action.ofExcept outcome >>= carry target step := by
  intro target left
  rw [proceed, proceedWith, proceedWith, read]
  exact ⟨rfl, rfl⟩

theorem carried_iff (step : Step capability) (given : List (Argument S)) :
    Carried step given ↔ Argument.names given = step.parameterNames := by
  rw [Arguments.names_iff]
  constructor
  · exact fun ⟨arguments, same, _⟩ => ⟨arguments, same⟩
  · rintro ⟨arguments, rfl⟩
    rw [← Arguments.tag_in_turn]
    exact ⟨arguments, (Arguments.tag_in_turn step arguments).symm,
      proceeds_of_read step _ (.ok arguments) (Arguments.read_tag step arguments)⟩

theorem refused_of_names (step : Step capability) (given : List (Argument S))
    (different : Argument.names given ≠ step.parameterNames) : Refused step given := by
  rw [ne_eq, Arguments.names_iff, not_exists] at different
  obtain ⟨fault, refused⟩ := Arguments.read_other step given different
  exact ⟨fault, proceeds_of_read step given _ refused⟩

-- The arguments of a caller, tagged for the interceptors: each as it is, under the name that the step has for it.
structure Tagged (step : Step capability) (arguments : Arguments S step.parameters) : Prop where
  values : Arguments.tag step arguments = Arguments.inTurn step.parameters arguments
  names : Argument.names (Arguments.tag step arguments) = step.parameterNames
  proceeds : ProceedsAs step (Arguments.tag step arguments) fun target => carry target step arguments

theorem tagged (step : Step capability) (arguments : Arguments S step.parameters) : Tagged step arguments where
  values := Arguments.tag_in_turn step arguments
  names := (Arguments.names_iff step _).mpr ⟨arguments, (Arguments.tag_in_turn step arguments).symm⟩
  proceeds := proceeds_of_read step _ (.ok arguments) (Arguments.read_tag step arguments)

end Invocation

namespace Reply

theorem as_of_kind (kind : ReplyKind) (reply : Reply) (same : reply.kind = kind) :
    ∃ content, reply = ⟨kind, content⟩ ∧ reply.as? kind = some content := by
  obtain ⟨_, content⟩ := reply
  subst same
  exact ⟨content, rfl, as_self _ content⟩

end Reply

namespace Plugin

variable (plugin : Plugin S) (target : Component S capability) (step : Step capability)

theorem wrap_declared (declared : plugin.declares step = true) : (plugin.wrap target).call step = plugin.route target step := by
  rw [wrap_around, around_call, if_pos declared, nest, Component.with_step_own]

structure Answers (reply : Reply) (answer : Except Fault step.reply.Carrier) : Prop where
  received : reply.kind.name = step.reply.name ↔ ∃ content, reply = ⟨step.reply, content⟩ ∧ answer = .ok content
  refused : reply.kind.name ≠ step.reply.name →
    answer = .error (.plugin (.wrongReply plugin.interceptor.name reply.kind.name step.display))

theorem answers (reply : Reply) : plugin.Answers step reply (plugin.answer step reply) := by
  by_cases same : reply.kind = step.reply
  · obtain ⟨content, own, found⟩ := Reply.as_of_kind step.reply reply same
    have named := congrArg ReplyKind.name same
    constructor
    · refine ⟨fun _ => ⟨content, own, ?_⟩, fun _ => named⟩
      rw [answer, found]
    · exact fun different => absurd named different
  · have absent : reply.as? step.reply = none := dif_neg same
    constructor
    · rw [ReplyKind.name_inj]
      refine ⟨fun known => absurd known same, ?_⟩
      rintro ⟨_, own, _⟩
      exact congrArg Reply.kind own
    · intro _
      rw [answer, absent]

-- A step is carried out on every target alike, so on one that notes its calls: there is one call and no other, or none.
theorem exchange_checked :
    (∀ arguments : Arguments S step.parameters, Invocation.Tagged step arguments) ∧
      (∀ given : List (Argument S), Invocation.Carried step given ↔ Argument.names given = step.parameterNames) ∧
      (∀ given : List (Argument S), Argument.names given ≠ step.parameterNames → Invocation.Refused step given) ∧
      (plugin.declares step = true → ∀ arguments state,
        (∀ reply after,
          (plugin.interceptor.intercept ⟨capability, step, Arguments.tag step arguments, target⟩).run state =
              (.ok reply, after) →
            ∃ answer, ((plugin.wrap target).call step arguments).run state = (answer, after) ∧
              plugin.Answers step reply answer) ∧
        ∀ cause after,
          (plugin.interceptor.intercept ⟨capability, step, Arguments.tag step arguments, target⟩).run state =
              (.error cause, after) →
            ((plugin.wrap target).call step arguments).run state = (.error cause, after)) := by
  refine ⟨Invocation.tagged step, Invocation.carried_iff step, Invocation.refused_of_names step, fun declared arguments state => ?_⟩
  rw [wrap_declared plugin target step declared, route]
  constructor
  · intro reply after ran
    refine ⟨plugin.answer step reply, ?_, plugin.answers step reply⟩
    rw [Action.run_bind_ok ran, Action.run_of_except]
  · intro cause after ran
    exact Action.run_bind_error ran

end Plugin

namespace Announced

def rewriting (given : List (Argument (List String))) (reply : Reply) : Interceptor (List String) where
  name := "rewriting"
  signatures := []
  intercept invocation := do
    let _ ← invocation.proceedWith given
    pure reply

-- One flag commits, once; two flags or rows do not reach the ledger; a count is not the reply of a commit.
theorem commit_checked :
    ((Plugin.wrap ⟨rewriting [⟨.flag, true⟩] ⟨.unit, ()⟩, committing⟩ ledger).call .commit (false, ())).run [] =
        (.ok (), ["commit"]) ∧
      Invocation.Refused (S := List String) Step.commit [⟨.flag, true⟩, ⟨.flag, false⟩] ∧
      Invocation.Refused (S := List String) Step.commit [⟨.rows, Rows.empty⟩] ∧
      ((Plugin.wrap ⟨rewriting [⟨.flag, true⟩] ⟨.count, (1 : Nat)⟩, committing⟩ ledger).call .commit (false, ())).run [] =
        (.error (.plugin (.wrongReply "rewriting" "u64" "Executor.commit(bool)")), ["commit"]) := by
  have checked (reply : Reply) := Plugin.exchange_checked ⟨rewriting [⟨.flag, true⟩] reply, committing⟩ ledger Step.commit
  have refused := (checked ⟨.unit, ()⟩).2.2.1
  refine ⟨?_, refused _ (by decide), refused _ (by decide), ?_⟩
  · obtain ⟨answer, ran, answers⟩ := ((checked ⟨.unit, ()⟩).2.2.2 rfl (false, ()) []).1 ⟨.unit, ()⟩ ["commit"] rfl
    obtain ⟨content, _, received⟩ := answers.received.mp rfl
    rw [ran, received]
    rfl
  · obtain ⟨answer, ran, answers⟩ := ((checked ⟨.count, (1 : Nat)⟩).2.2.2 rfl (false, ()) []).1 _ ["commit"] rfl
    rw [ran, answers.refused (by decide)]
    rfl

end Announced

end StatementMapper
