import StatementMapper.Proofs.Outcome
import StatementMapper.Template.Placeholder

set_option autoImplicit false

namespace StatementMapper.Template

open Outcome (bind_ok map_ok)
open Delimiters (placeholder addPlain gather)

namespace Segment

def shown : Segment → List Char
  | literal text => text
  | token _ => ['?']

def content? : Segment → Option (List Char)
  | literal _ => none
  | token content => some content

theorem shown_add_plain (c : Char) (segments : List Segment) :
    (addPlain c segments).flatMap shown = c :: segments.flatMap shown := by
  cases segments with
  | nil => rfl
  | cons first rest => cases first <;> rfl

theorem content_add_plain (c : Char) (segments : List Segment) :
    (addPlain c segments).filterMap content? = segments.filterMap content? := by
  cases segments with
  | nil => rfl
  | cons first rest => cases first <;> rfl

theorem shown_add_all (text : List Char) (segments : List Segment) :
    (text.foldr addPlain segments).flatMap shown = text ++ segments.flatMap shown := by
  induction text with
  | nil => rfl
  | cons c rest ih => rw [List.foldr_cons, shown_add_plain, ih, List.cons_append]

theorem content_add_all (text : List Char) (segments : List Segment) :
    (text.foldr addPlain segments).filterMap content? = segments.filterMap content? := by
  induction text with
  | nil => rfl
  | cons c rest ih => rw [List.foldr_cons, content_add_plain, ih]

end Segment

def tokensOf (text : List Char) : List (List Char) := (placeholder.segments text).filterMap Segment.content?

def shownOf (text : List Char) : List Char := (placeholder.segments text).flatMap Segment.shown

theorem marked_gather (pieces : List Piece) : marked pieces = (gather placeholder pieces).flatMap Segment.shown := by
  induction pieces with
  | nil => rfl
  | cons piece rest ih =>
      cases piece with
      | plain c => rw [marked, gather, Segment.shown_add_plain, ih]
      | escaped => rw [marked, gather, Segment.shown_add_all, ih]
      | token content raw => rw [marked, gather, List.flatMap_cons, ih]; rfl

theorem contents_gather (pieces : List Piece) :
    contents pieces = (gather placeholder pieces).filterMap Segment.content? := by
  induction pieces with
  | nil => rfl
  | cons piece rest ih =>
      cases piece with
      | plain c => rw [contents, gather, Segment.content_add_plain, ih]; nofun
      | escaped => rw [contents, gather, Segment.content_add_all, ih]; nofun
      | token content raw => rw [contents, gather, ih]; rfl

theorem bind_segments (squeeze : Bool) (text : List Char) :
    bindPlaceholders squeeze text = (mappingsOf (tokensOf text)).map fun mappings =>
      (if squeeze then Text.squeeze (shownOf text) else shownOf text, mappings) := by
  rw [bindPlaceholders, contents_gather, marked_gather]
  rfl

theorem mappings_of_ok_iff (contents : List (List Char)) (mappings : List Mapping) :
    mappingsOf contents = .ok mappings ↔ contents.map Mapping.parse = mappings.map .ok := by
  induction contents generalizing mappings with
  | nil => cases mappings <;> simp [mappingsOf]
  | cons first rest ih =>
      rw [mappingsOf, bind_ok]
      constructor
      · rintro ⟨mapping, parsed, found⟩
        obtain ⟨more, others, made⟩ := (bind_ok _ _ _).mp found
        cases made
        rw [List.map_cons, List.map_cons, parsed, (ih more).mp others]
      · intro same
        cases mappings with
        | nil => exact nomatch same
        | cons mapping more =>
            obtain ⟨parsed, others⟩ := List.cons.inj same
            exact ⟨mapping, parsed, (bind_ok _ _ _).mpr ⟨more, (ih more).mpr others, rfl⟩⟩

inductive FailsFirst (cause : TemplateFault) : List (List Char) → Prop where
  | here {content : List Char} {rest : List (List Char)} (failed : Mapping.parse content = .error cause) :
      FailsFirst cause (content :: rest)
  | later {content : List Char} {mapping : Mapping} {rest : List (List Char)}
      (parsed : Mapping.parse content = .ok mapping) (more : FailsFirst cause rest) : FailsFirst cause (content :: rest)

theorem mappings_of_error_iff (contents : List (List Char)) (cause : TemplateFault) :
    mappingsOf contents = .error cause ↔ FailsFirst cause contents := by
  constructor
  · intro failed
    induction contents with
    | nil => exact nomatch failed
    | cons content rest ih =>
        rw [mappingsOf] at failed
        cases parsed : Mapping.parse content with
        | error reason =>
            rw [parsed] at failed
            cases failed
            exact .here parsed
        | ok mapping =>
            cases others : mappingsOf rest with
            | error reason =>
                rw [parsed, others] at failed
                cases failed
                exact .later parsed (ih others)
            | ok more =>
                rw [parsed, others] at failed
                exact nomatch failed
  · intro fails
    induction fails with
    | here failed =>
        rw [mappingsOf, failed]
        rfl
    | later parsed more ih =>
        rw [mappingsOf, parsed, ih]
        rfl

theorem bind_ok_iff (squeeze : Bool) (text sql : List Char) (mappings : List Mapping) :
    bindPlaceholders squeeze text = .ok (sql, mappings) ↔
      (tokensOf text).map Mapping.parse = mappings.map .ok ∧
        sql = if squeeze then Text.squeeze (shownOf text) else shownOf text := by
  rw [bind_segments, map_ok, ← mappings_of_ok_iff]
  constructor
  · rintro ⟨found, parsed, made⟩
    cases made
    exact ⟨parsed, rfl⟩
  · rintro ⟨parsed, rfl⟩
    exact ⟨mappings, parsed, rfl⟩

theorem bind_error_iff (squeeze : Bool) (text : List Char) (cause : TemplateFault) :
    bindPlaceholders squeeze text = .error cause ↔ FailsFirst cause (tokensOf text) := by
  rw [bind_segments, ← mappings_of_error_iff]
  cases mappingsOf (tokensOf text) with
  | error reason => simp [Except.map]
  | ok mappings => simp [Except.map]

end StatementMapper.Template
