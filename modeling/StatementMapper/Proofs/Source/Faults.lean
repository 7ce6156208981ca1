import Mathlib
import StatementMapper.Proofs.Expr.Conversion
import StatementMapper.Proofs.Expr.Faults
import StatementMapper.Proofs.Markup.Tree
import StatementMapper.Proofs.Source.Fixed
import StatementMapper.Proofs.Template.Blame
import StatementMapper.Proofs.Template.Nesting
import StatementMapper.Proofs.Template.Refusals
import StatementMapper.Proofs.Template.Segments

set_option autoImplicit false

/-! A template is refused for what stands in it; a command fails for an expression, a placeholder or a missing property. -/

namespace StatementMapper.Source

open StatementMapper.Expr (Converter Evaluator)
open Outcome (bind_error map_error)
open Template

-- The reasons for which the command of a source may fail.
inductive Explained (parameter : Parameter) (database : Option String) : Source → Fault → Prop where
  | fixedProperty {sql : String} {mappings : List Mapping} {mapping : Mapping} (member : mapping ∈ mappings)
      (input : mapping.mode.isInput = true) (missing : Command.resolve? parameter [] mapping.property = none) :
      Explained parameter database (.fixed sql mappings) (.unboundProperty mapping.property)
  | expression {root : Node} {squeeze : Bool} {cause : EvaluationFault} (blamed : Blamed root.uses cause) :
      Explained parameter database (.dynamic root squeeze) (.evaluation cause)
  | placeholder {root : Node} {squeeze : Bool} {text : List Char} {bindings : Table String Value} {cause : TemplateFault}
      (ran : rendered root (start parameter database) = .ok (text, bindings)) (malformed : FailsFirst cause (tokensOf text)) :
      Explained parameter database (.dynamic root squeeze) (.template cause)
  | renderedProperty {root : Node} {squeeze : Bool} {text : List Char} {bindings : Table String Value} {sql : String}
      {mappings : List Mapping} {mapping : Mapping}
      (ran : rendered root (start parameter database) = .ok (text, bindings))
      (found : placed squeeze text = .ok (sql, mappings)) (member : mapping ∈ mappings)
      (input : mapping.mode.isInput = true) (missing : Command.resolve? parameter bindings mapping.property = none) :
      Explained parameter database (.dynamic root squeeze) (.unboundProperty mapping.property)

theorem rendered_fault (root : Node) (start : Rendering) (fault : Fault) (failed : rendered root start = .error fault) :
    ∃ cause, fault = .evaluation cause ∧ Blamed root.uses cause := by
  rw [rendered] at failed
  cases ran : root.render start with
  | ok outcome =>
      rw [ran] at failed
      cases failed
  | error cause =>
      rw [ran] at failed
      cases failed
      exact ⟨cause, rfl, root.render_blamed start cause ran⟩

theorem placed_fault (squeeze : Bool) (text : List Char) (fault : Fault) (failed : placed squeeze text = .error fault) :
    ∃ cause, fault = .template cause ∧ FailsFirst cause (tokensOf text) := by
  rw [placed] at failed
  cases bound : bindPlaceholders squeeze text with
  | ok outcome =>
      rw [bound] at failed
      cases failed
  | error cause =>
      rw [bound] at failed
      cases failed
      exact ⟨cause, rfl, (bind_error_iff squeeze text cause).mp bound⟩

theorem of_node_fault (squeeze : Bool) (root : Node) (fault : Fault) (failed : ofNode squeeze root = .error fault) :
    root.isDynamic = false ∧ ∃ cause text bindings, fault = .template cause ∧
      rendered root blank = .ok (text, bindings) ∧ FailsFirst cause (tokensOf text) := by
  rw [ofNode] at failed
  cases directed : root.isDynamic with
  | true =>
      rw [directed] at failed
      cases failed
  | false =>
      -- Without directives there is no expression, so rendering gives a text.
      obtain ⟨text, once, _⟩ := rendered_plain root directed
      rw [directed, once] at failed
      obtain never | ⟨_, first, failed⟩ := (bind_error _ _ _).mp failed
      · cases never
      · cases first
        obtain malformed | ⟨_, _, failed⟩ := (bind_error _ _ _).mp failed
        · obtain ⟨cause, same, first⟩ := placed_fault squeeze text fault malformed
          exact ⟨rfl, cause, text, _, same, once, first⟩
        · cases failed

-- As markup, at a node of its tree, or for a placeholder when nothing else waits for a parameter.
inductive Refuses (options : Options) (template : String) : TemplateFault → Prop where
  | markup {cause : TemplateFault} (broken : Markup.parse template = .error cause)
      (own : Markup.isOfMarkup cause = true) : Refuses options template cause
  | node {nodes : List Markup} {node : Markup} {cause : TemplateFault} (read : Markup.parse template = .ok nodes)
      (member : node ∈ Node.unwrap nodes) (refused : Refused .body node cause) : Refuses options template cause
  | placeholder {root : Node} {text : List Char} {bindings : Table String Value} {cause : TemplateFault}
      (compiled : Node.compile options template = .ok root) (undirected : root.isDynamic = false)
      (ran : rendered root blank = .ok (text, bindings)) (malformed : FailsFirst cause (tokensOf text)) :
      Refuses options template cause

theorem compile_fault (options : Options) (template : String) (fault : Fault)
    (failed : compile options template = .error fault) :
    ∃ cause, fault = .template cause ∧ Refuses options template cause := by
  rw [compile] at failed
  cases compiled : Node.compile options template with
  | error cause =>
      rw [compiled] at failed
      cases failed
      refine ⟨cause, rfl, ?_⟩
      obtain broken | ⟨nodes, read, node, member, refused⟩ := Node.compile_refused options template cause compiled
      · exact .markup broken (Markup.parse_fault template cause broken)
      · exact .node read member refused
  | ok root =>
      rw [compiled] at failed
      obtain ⟨undirected, cause, text, bindings, same, ran, malformed⟩ := of_node_fault options.squeeze root fault failed
      exact ⟨cause, same, .placeholder compiled undirected ran malformed⟩

theorem fails_of_refuses (options : Options) (template : String) (cause : TemplateFault)
    (refuses : Refuses options template cause) : ∃ fault, compile options template = .error fault := by
  have broken (fails : ∃ other, Node.compile options template = .error other) :
      ∃ fault, compile options template = .error fault := by
    obtain ⟨other, failed⟩ := fails
    exact ⟨.template other, by rw [compile, failed]⟩
  cases refuses with
  | markup unread own => exact broken ((Node.compile_fails_iff options template).mpr (.inl ⟨cause, unread⟩))
  | node read member refused =>
      exact broken ((Node.compile_fails_iff options template).mpr (.inr ⟨_, read, _, member, cause, refused⟩))
  | @placeholder root text bindings _ compiled undirected ran malformed =>
      have misplaced : placed options.squeeze text = .error (.template cause) := by
        rw [placed, (bind_error_iff options.squeeze text cause).mpr malformed]
      refine ⟨.template cause, ?_⟩
      rw [compile, compiled]
      simp only [ofNode, undirected, Bool.false_eq_true, if_false, ran]
      exact (bind_error _ _ _).mpr (.inr ⟨_, rfl, (bind_error _ _ _).mpr (.inl misplaced)⟩)

theorem command_explained (source : Source) (parameter : Parameter) (database : Option String) (fault : Fault)
    (failed : source.command parameter database = .error fault) : Explained parameter database source fault := by
  cases source with
  | fixed sql mappings =>
      have unbound := (map_error _ _ _).mp failed
      obtain ⟨mapping, member, input, missing, rfl⟩ := Command.values_of_error _ _ _ _ unbound
      exact .fixedProperty member input missing
  | dynamic root squeeze =>
      obtain broken | ⟨⟨text, bindings⟩, ran, failed⟩ := (bind_error _ _ _).mp failed
      · obtain ⟨cause, rfl, blamed⟩ := rendered_fault _ _ _ broken
        exact .expression blamed
      · obtain malformed | ⟨⟨sql, mappings⟩, found, failed⟩ := (bind_error _ _ _).mp failed
        · obtain ⟨cause, rfl, first⟩ := placed_fault _ _ _ malformed
          exact .placeholder ran first
        · have unbound := (map_error _ _ _).mp failed
          obtain ⟨mapping, member, input, missing, rfl⟩ := Command.values_of_error _ _ _ _ unbound
          exact .renderedProperty ran found member input missing

theorem faults_closed (options : Options) (template : String) :
    ((∀ fault, compile options template = .error fault →
        ∃ cause, fault = .template cause ∧ Refuses options template cause) ∧
      ∀ cause, Refuses options template cause → ∃ fault, compile options template = .error fault) ∧
      (∀ source parameter database fault, compile options template = .ok source →
        source.command parameter database = .error fault → Explained parameter database source fault) ∧
      (∀ phrase, Converter.registered.filter (·.accepts phrase) = (Converter.of? phrase).toList ∧
        Expr.convert Converter.registered phrase = (Expr.ofPhrase phrase).mapError .fault ∧
        Expr.convert Converter.registered phrase ≠ .error .unreachable) ∧
      ∀ scope (e : Expr), Evaluator.registered.filter (·.accepts e) = (Evaluator.of? e).toList ∧
        Expr.dispatch Evaluator.registered scope e = (e.evaluate scope).mapError .fault ∧
        Expr.dispatch Evaluator.registered scope e ≠ .error .unreachable ∧
        ∀ cause, e.evaluate scope = .error cause → cause.isOfValues = true := by
  refine ⟨⟨compile_fault options template, fails_of_refuses options template⟩,
    fun source parameter database fault _ => ?_, fun phrase => ?_, fun scope e => ?_⟩
  · exact command_explained source parameter database fault
  · exact ⟨Converter.accepted_by phrase, Expr.convert_narrows phrase, Expr.convert_reachable phrase⟩
  · exact ⟨Evaluator.accepted_by e, Expr.dispatch_evaluates scope e, Expr.dispatch_reachable scope e,
      Expr.evaluate_fault scope e⟩

def rounds : Node := .loop ⟨.named "ids", none, none, "", "", "", false⟩ (.sequence [])

theorem rounds_compiled : compile {} "<foreach collection='ids'/>" = .ok (.dynamic (.sequence [rounds]) false) := by
  have read : Markup.parse "<foreach collection='ids'/>" = .ok [.element "foreach" [("collection", "ids")] []] := by cbv
  have named : Expression.parse "ids" = .ok (.named "ids") :=
    Expression.parse_named "ids" (by decide +kernel) (by decide +kernel)
  have looped : Node.compile {} "<foreach collection='ids'/>" = .ok (.sequence [rounds]) := by
    rw [Node.compile, read]
    simp [Node.unwrap, Node.isBlankText, Node.ofChildren, Node.ofMarkup, Node.nullableOf, Node.expressionOf, Node.required,
      Table.get?, named, bind, Except.bind, Node.loopHead, rounds]
  rw [compile, looped]
  rfl

theorem rounds_explained :
    Explained (.table [("ids", .integer 1)]) none (.dynamic (.sequence [rounds]) false)
      (.evaluation (.notIterable "ids" .integer)) := by
  have failed : command (.dynamic (.sequence [rounds]) false) (.table [("ids", .integer 1)]) none =
      .error (.evaluation (.notIterable "ids" .integer)) := rfl
  exact (faults_closed {} "<foreach collection='ids'/>").2.1 _ _ _ _ rounds_compiled failed

end StatementMapper.Source
