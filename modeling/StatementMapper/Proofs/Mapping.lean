import StatementMapper.Mapping
import StatementMapper.Proofs.Outcome
import StatementMapper.Proofs.Text
import StatementMapper.Template.Render

set_option autoImplicit false

namespace StatementMapper

open Outcome (bind_ok map_ok)
open Template.Loop (endsName)

theorem Template.Loop.ends_name_append (left right : List Char) (first : endsName left = true)
    (second : endsName right = true) : endsName (left ++ right) = true := by
  cases left with
  | nil => exact second
  | cons c rest => exact first

namespace Mapping

-- What can stand at the front of a property: nothing in it is trimmed or ends the property.
structure Leading (front : List Char) : Prop where
  firm : Text.Firm front
  commaless : ',' ∉ front
  colonless : ':' ∉ front

theorem with_option_elsewhere (content other property name : String) (mapping result : Mapping) (value : List Char)
    (parsed : withOption content mapping name value = .ok result) :
    withOption other { mapping with property } name value = .ok { result with property } := by
  unfold withOption at parsed ⊢
  split at parsed
  · cases parsed
    rfl
  · cases parsed
    rfl
  · cases parsed
    rfl
  · obtain ⟨mode, read, made⟩ := (map_ok _ _ _).mp parsed
    cases made
    simp only [read]
    rfl
  · cases scale : Text.bounded? Word.bound32 value with
    | none =>
        rw [scale] at parsed
        cases parsed
    | some digits =>
        rw [scale] at parsed
        cases parsed
        rfl
  · cases parsed
    rfl
  · cases parsed
    rfl
  · cases parsed

theorem with_options_elsewhere (content other property : String) (mapping result : Mapping) (options : List (List Char))
    (parsed : withOptions content mapping options = .ok result) :
    withOptions other { mapping with property } options = .ok { result with property } := by
  induction options generalizing mapping with
  | nil =>
      cases parsed
      rfl
  | cons option rest ih =>
      rw [withOptions] at parsed ⊢
      split at parsed
      · cases parsed
      · rename_i name value cut
        obtain ⟨next, made, parsed⟩ := (bind_ok _ _ _).mp parsed
        exact (bind_ok _ _ _).mpr ⟨_, with_option_elsewhere content other property _ _ _ _ made, ih next parsed⟩

theorem property_with_options (content : String) (mapping result : Mapping) (options : List (List Char))
    (parsed : withOptions content mapping options = .ok result) : result.property = mapping.property := by
  have again := with_options_elsewhere content content mapping.property mapping result options parsed
  change withOptions content mapping options = _ at again
  rw [parsed] at again
  have same : result = { result with property := mapping.property } := Except.ok.inj again
  rw [same]

theorem ends_name_blanks (blanks : List Char) (blank : ∀ c ∈ blanks, Text.isBlank c = true) : endsName blanks = true := by
  cases blanks with
  | nil => rfl
  | cons c rest => simp [endsName, blank c List.mem_cons_self]

theorem ends_name_separator (separator : Char) (known : separator = '.' ∨ separator = ',' ∨ separator = ':')
    (after : List Char) (ends : after = [] ∨ after.head? = some separator) : endsName after = true := by
  cases after with
  | nil => rfl
  | cons c rest =>
      rcases ends with none | some
      · exact nomatch none
      · rw [Option.some.inj some]
        rcases known with rfl | rfl | rfl <;> rfl

theorem of_head_front (content : String) (head : List Char) (mapping : Mapping) (parsed : ofHead content head = .ok mapping) :
    ∃ rest, Text.trim head = mapping.property.toList ++ rest ∧ mapping.property.toList ≠ [] ∧ endsName rest = true := by
  obtain ⟨typed, shape, ends⟩ := Text.split_first_front ':' (Text.trim head)
  unfold ofHead at parsed
  generalize Text.splitFirst ':' (Text.trim head) = cut at parsed shape
  rcases cut with ⟨property, type⟩
  simp only at parsed shape
  by_cases empty : (Text.trim property).isEmpty = true
  · rw [if_pos empty] at parsed
    exact nomatch parsed
  · rw [if_neg empty] at parsed
    cases parsed
    -- Nothing is trimmed off the start of the property, since nothing is left to trim of the head's start.
    have started : Text.trimStart property = property := by
      cases property with
      | nil => rfl
      | cons c rest =>
          have solid := Text.trim_solid head c (by rw [shape]; rfl)
          rw [Text.trimStart, List.dropWhile_cons_of_neg (by simp [solid])]
    obtain ⟨blanks, padded, blank⟩ := Text.trim_end_back property
    have name : Text.trim property = Text.trimEnd property := by rw [Text.trim, started]
    refine ⟨blanks ++ typed, ?_, ?_, ?_⟩
    · rw [String.toList_ofList, name, ← List.append_assoc, ← padded, shape]
    · rw [String.toList_ofList]
      exact fun none => empty (by rw [none]; rfl)
    · exact Template.Loop.ends_name_append _ _ (ends_name_blanks blanks blank)
        (ends_name_separator ':' (Or.inr (Or.inr rfl)) typed ends)

theorem parse_front_property (content : List Char) (mapping : Mapping) (parsed : Mapping.parse content = .ok mapping) :
    ∃ rest, Text.trimStart content = mapping.property.toList ++ rest ∧ endsName rest = true := by
  unfold Mapping.parse at parsed
  cases pieces : Text.split ',' content with
  | nil => exact absurd pieces (Text.split_nonempty _ _)
  | cons head options =>
      rw [pieces] at parsed
      obtain ⟨first, made, parsed⟩ := (bind_ok _ _ _).mp parsed
      rw [property_with_options _ _ _ _ parsed]
      obtain ⟨after, whole, ends⟩ := Text.split_front ',' content head options pieces
      obtain ⟨rest, trimmed, nonempty, delimited⟩ := of_head_front _ _ _ made
      obtain ⟨blanks, padded, blank⟩ := Text.trim_end_back (Text.trimStart head)
      have left : head.dropWhile Text.isBlank ≠ [] := by
        intro none
        have gone : Text.trim head = [] := by
          rw [Text.trim, Text.trimStart, none]
          rfl
        rw [gone] at trimmed
        exact nonempty (List.append_eq_nil_iff.mp trimmed.symm).1
      have started : Text.trimStart content = Text.trimStart head ++ after := by
        rw [whole, Text.trimStart, List.dropWhile_append, if_neg (by simpa using left)]
        rfl
      refine ⟨rest ++ (blanks ++ after), ?_, ?_⟩
      · have trim : Text.trimEnd (Text.trimStart head) = first.property.toList ++ rest := trimmed
        rw [started, padded, trim]
        simp only [List.append_assoc]
      · refine Template.Loop.ends_name_append _ _ delimited ?_
        exact Template.Loop.ends_name_append _ _ (ends_name_blanks blanks blank)
          (ends_name_separator ',' (Or.inr (Or.inl rfl)) after ends)

theorem parse_front (content : List Char) (mapping : Mapping) (parsed : Mapping.parse content = .ok mapping) :
    ∃ rest, Text.trimStart content = (Value.splitPath mapping.property).1.toList ++ rest ∧ endsName rest = true := by
  obtain ⟨rest, whole, delimited⟩ := parse_front_property content mapping parsed
  obtain ⟨dotted, path, dots⟩ := Text.split_first_front '.' mapping.property.toList
  have segment : (Value.splitPath mapping.property).1.toList = (Text.splitFirst '.' mapping.property.toList).1 :=
    String.toList_ofList
  refine ⟨dotted ++ rest, ?_, ?_⟩
  · rw [whole, segment, ← List.append_assoc, ← path]
  · exact Template.Loop.ends_name_append _ _ (ends_name_separator '.' (Or.inl rfl) dotted dots) delimited

end Mapping

end StatementMapper
