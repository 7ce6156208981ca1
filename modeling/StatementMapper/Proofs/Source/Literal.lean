import StatementMapper.Proofs.Markup.Entity
import StatementMapper.Proofs.Outcome
import StatementMapper.Proofs.Template.Escaping
import StatementMapper.Source

set_option autoImplicit false

/-! Any text, its delimiters escaped and its markup as entities, is a template that gives the text. -/

namespace StatementMapper

open Outcome (bind_ok)
open Template

namespace Template

def embed (text : String) : String := String.ofList (Markup.encode (escapeOpenings text.toList))

theorem Node.unwrap_text (content : String) : Node.unwrap [.text content] = [.text content] := by
  cases blank : Node.isBlankText (.text content) <;> simp [Node.unwrap, blank]

theorem compile_embed (options : Options) (text : String) :
    ∃ children, Node.compile options (embed text) = .ok (.sequence children) ∧
      (children = [] ∧ text.toList = [] ∨ children = [.static (Delimiters.placeholder.escape text.toList)]) := by
  unfold Node.compile embed
  rw [Markup.parse_encode]
  cases written : escapeOpenings text.toList with
  | nil =>
      refine ⟨[], rfl, Or.inl ⟨rfl, ?_⟩⟩
      cases whole : text.toList with
      | nil => rfl
      | cons c rest =>
          rw [whole, escapeOpenings] at written
          split at written <;> cases written
  | cons c rest =>
      have made : Node.ofChildren options (Node.unwrap [.text (String.ofList (c :: rest))]) =
          .ok [.static (Delimiters.placeholder.escape text.toList)] := by
        rw [Node.unwrap_text, Node.ofChildren, Node.ofMarkup, Node.ofChildren, String.toList_ofList, ← written,
          Node.of_text_escaped]
        rfl
      refine ⟨_, ?_, Or.inr rfl⟩
      exact (bind_ok _ _ _).mpr ⟨_, rfl, (bind_ok _ _ _).mpr ⟨_, made, rfl⟩⟩

end Template

namespace Source

theorem rendered_static (text : List Char) : rendered (.sequence [.static text]) blank = .ok (Text.trim text, []) := by
  rw [rendered, Node.render, Node.renderAll, Node.render]
  simp only [bind, Except.bind, Node.renderAll]
  rfl

theorem compile_embed (nullable : Bool) (text : String) :
    compile ⟨false, nullable⟩ (embed text) = .ok (.fixed (Text.trimmed text) []) := by
  obtain ⟨children, compiled, shape⟩ := Template.compile_embed ⟨false, nullable⟩ text
  have undirected : (Node.sequence children).isDynamic = false := by
    rcases shape with ⟨rfl, _⟩ | rfl <;> simp only [Node.isDynamic, Node.anyDynamic, Bool.or_false]
  have written : rendered (.sequence children) blank =
      .ok (Delimiters.placeholder.escape (Text.trim text.toList), []) := by
    rcases shape with ⟨rfl, empty⟩ | rfl
    · rw [empty, rendered, Node.render, Node.renderAll]
      rfl
    · rw [rendered_static, Delimiters.trim_escape Delimiters.placeholder_paired]
  rw [compile, compiled]
  simp only [ofNode, undirected, written, placed, Delimiters.bind_escape, bind, Except.bind]
  rfl

theorem embedded_literally (nullable : Bool) (text : String) :
    ∃ source, compile ⟨false, nullable⟩ (embed text) = .ok source ∧ source.isDynamic = false ∧
      ∀ parameter database, ∃ command, source.command parameter database = .ok command ∧
        command.sql = Text.trimmed text ∧ command.mappings = [] ∧ command.values = [] :=
  ⟨_, compile_embed nullable text, rfl, fun _ _ => ⟨_, rfl, rfl, rfl, rfl⟩⟩

end Source

end StatementMapper
