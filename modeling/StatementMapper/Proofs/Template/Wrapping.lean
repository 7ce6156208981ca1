import Mathlib
import StatementMapper.Proofs.Markup.Steady
import StatementMapper.Proofs.Template.Clauses

set_option autoImplicit false

/-! A `script` element around a template changes nothing about what is compiled, unless the template is one itself. -/

namespace StatementMapper.Template.Node

open Markup (isName parse)

def significant (nodes : List Markup) : List Markup := nodes.filter (!isBlankText ·)

def Lone (nodes : List Markup) : Prop :=
  ∃ attributes children, significant nodes = [.element "script" attributes children]

theorem unwrap_other (nodes : List Markup) (other : ¬ Lone nodes) : unwrap nodes = nodes := by
  unfold unwrap
  split
  · rename_i attributes children lone
    exact absurd ⟨attributes, children, lone⟩ other
  · rfl

theorem compile_parsed (options : Options) (template : String) (nodes : List Markup) (read : parse template = .ok nodes) :
    compile options template = (ofChildren options (unwrap nodes)).map Node.sequence := by
  rw [compile, read]
  rfl

theorem compile_wrapped (options : Options) (template : String) (nodes : List Markup) (read : parse template = .ok nodes) :
    compile options ("<script>" ++ template ++ "</script>") = (ofChildren options nodes).map Node.sequence := by
  have tagged : "<script>" ++ template ++ "</script>" = "<" ++ "script" ++ ">" ++ template ++ "</" ++ "script" ++ ">" := by
    rw [← String.toList_inj]
    simp
  have opened : unwrap [.element "script" [] nodes] = nodes := by rfl
  rw [tagged, compile_parsed options _ _ (Markup.parse_wrapped "script" template nodes (by decide) read), opened]

theorem bare_blank (content : List Char) (blank : Text.allBlank content = true) :
    Delimiters.substitution.Bare content := by
  induction content with
  | nil => rw [Delimiters.Bare, Delimiters.scan]; rfl
  | cons c rest ih =>
      obtain ⟨white, others⟩ := Bool.and_eq_true_iff.mp blank
      have apart (d : Char) (solid : Text.isBlank d = false) : c ≠ d := by
        rintro rfl
        rw [solid] at white
        cases white
      have foreign : Delimiters.substitution.Foreign c := by
        simp [Delimiters.Foreign, Delimiters.substitution, apart '\\' rfl, apart '$' rfl, apart '\x7b' rfl, apart '\x7d' rfl]
      exact Delimiters.bare_cons _ foreign (ih others)

-- A `script` element that is among the nodes of a template with nothing but white space is no element of a template.
theorem script_refused (options : Options) (nodes : List Markup) (lone : Lone nodes) :
    ofChildren options nodes = .error (.unknownElement "script") := by
  obtain ⟨attributes, children, lone⟩ := lone
  induction nodes with
  | nil => cases lone
  | cons node rest ih =>
      rw [ofChildren]
      cases blank : isBlankText node with
      | true =>
          cases node with
          | element name found inner => cases blank
          | text content =>
              rw [ofMarkup, of_text_bare _ (bare_blank content.toList blank), ih (by simpa [significant, blank] using lone)]
              rfl
      | false =>
          rw [significant, List.filter_cons_of_pos (by simp [blank])] at lone
          rw [(List.cons.inj lone).1]
          rfl

theorem wrapper_transparent :
    (∀ (name source : String) (children : List Markup), isName name.toList = true → parse source = .ok children →
      parse ("<" ++ name ++ ">" ++ source ++ "</" ++ name ++ ">") = .ok [.element name [] children]) ∧
    (∀ (options : Options) (template : String) (nodes : List Markup), parse template = .ok nodes → ¬ Lone nodes →
      compile options ("<script>" ++ template ++ "</script>") = compile options template) ∧
    (∀ (options : Options) (template : String) (nodes : List Markup), parse template = .ok nodes → Lone nodes →
      compile options ("<script>" ++ template ++ "</script>") = .error (.unknownElement "script")) := by
  refine ⟨Markup.parse_wrapped, fun options template nodes read other => ?_, fun options template nodes read lone => ?_⟩
  · rw [compile_wrapped options template nodes read, compile_parsed options template nodes read, unwrap_other nodes other]
  · rw [compile_wrapped options template nodes read, script_refused options nodes lone]
    rfl

def conditional : String := "a < <!-- b --> #\x7bc\x7d<if test='d'>e &amp f</if> <"

def conditionalNodes : List Markup := [.text "a <  #\x7bc\x7d", .element "if" [("test", "d")] [.text "e &amp f"], .text " <"]

theorem conditional_wrapped :
    parse ("<" ++ "sql" ++ ">" ++ conditional ++ "</" ++ "sql" ++ ">") = .ok [.element "sql" [] conditionalNodes] ∧
      compile {} ("<script>" ++ conditional ++ "</script>") = compile {} conditional ∧
      compile {} ("<script>" ++ " <script>x</script>" ++ "</script>") = .error (.unknownElement "script") := by
  obtain ⟨read, kept, refused⟩ := wrapper_transparent
  have nodes : parse conditional = .ok conditionalNodes := by cbv
  have other : ¬ Lone conditionalNodes := by
    rintro ⟨attributes, children, shape⟩
    cases shape
  have inner : parse " <script>x</script>" = .ok [.text " ", .element "script" [] [.text "x"]] := by cbv
  exact ⟨read "sql" conditional conditionalNodes (by decide) nodes, kept {} conditional conditionalNodes nodes other,
    refused {} _ _ inner ⟨[], [.text "x"], rfl⟩⟩

end StatementMapper.Template.Node
