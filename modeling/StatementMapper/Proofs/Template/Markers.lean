import StatementMapper.Proofs.Mapping
import StatementMapper.Proofs.Template.Tokens

set_option autoImplicit false

namespace StatementMapper.Template

open Delimiters (placeholder Closed)

-- A text with its placeholders and what it shows. No delimiter reaches over its end.
structure Shows (text : List Char) (names : List (List Char)) (shown : List Char) : Prop where
  complete : ∃ pieces, Closed placeholder text pieces ∧ contents pieces = names ∧ marked pieces = shown
  hash : text.getLast? ≠ some '#'
  slash : text.getLast? ≠ some '\\'

-- Text that cannot be a part of a delimiter or escape one.
def Inert (text : List Char) : Prop := '#' ∉ text ∧ '\\' ∉ text

instance (text : List Char) : Decidable (Inert text) := inferInstanceAs (Decidable (_ ∧ _))

theorem shows_nil : Shows [] [] [] := ⟨⟨[], .nil, rfl, rfl⟩, by simp, by simp⟩

theorem shows_inert (text : List Char) (inert : Inert text) : Shows text [] text := by
  obtain ⟨hashless, slashless⟩ := inert
  refine ⟨?_, fun last => hashless (List.mem_of_getLast? last), fun last => slashless (List.mem_of_getLast? last)⟩
  induction text with
  | nil => exact ⟨[], .nil, rfl, rfl⟩
  | cons c rest ih =>
      simp only [List.mem_cons, not_or] at hashless slashless
      obtain ⟨pieces, closed, none, shown⟩ := ih hashless.2 slashless.2
      have unopened := unopened_of_differs (c :: rest) fun tail same => hashless.1 (List.cons.inj same).1.symm
      exact ⟨.plain c :: pieces, .plain unopened (fun slash => absurd slash.symm slashless.1) closed, none,
        congrArg (List.cons c) shown⟩

def token (content : List Char) : List Char := '#' :: '\x7b' :: (content ++ ['\x7d'])

theorem token_last (content : List Char) : (token content).getLast? = some '\x7d' := by
  rw [token, ← List.cons_append, ← List.cons_append, List.getLast?_concat]

theorem closed_token (content : List Char) (tame : Tame content) :
    Closed placeholder (token content) [.token content (placeholder.opening ++ (content ++ placeholder.closing))] :=
  .token ((Text.after_some_iff _ _ _).mpr rfl) (body_of_tame content [] tame) .nil

theorem shows_token (content : List Char) (tame : Tame content) : Shows (token content) [content] ['?'] := by
  refine ⟨⟨_, closed_token content tame, rfl, rfl⟩, ?_, ?_⟩
  · simp [token_last]
  · simp [token_last]

theorem shows_append {left right shown next : List Char} {names more : List (List Char)} (first : Shows left names shown)
    (second : Shows right more next) : Shows (left ++ right) (names ++ more) (shown ++ next) := by
  obtain ⟨pieces, closed, rfl, rfl⟩ := first.complete
  obtain ⟨others, after, rfl, rfl⟩ := second.complete
  have apart := apart_of_ends left right (fun hash => absurd hash first.hash) (fun slash => absurd slash first.slash)
  refine ⟨⟨pieces ++ others, Delimiters.closed_append _ closed after apart, contents_append _ _, marked_append _ _⟩, ?_, ?_⟩
  · rw [List.getLast?_append]
    cases last : right.getLast? with
    | none => exact first.hash
    | some c => exact fun hash => second.hash (last.trans hash)
  · rw [List.getLast?_append]
    cases last : right.getLast? with
    | none => exact first.slash
    | some c => exact fun slash => second.slash (last.trans slash)

theorem shows_intercalate {Item : Type} (separator : List Char) (inert : Inert separator) (items : List Item)
    (text shown : Item → List Char) (names : Item → List (List Char))
    (each : ∀ item ∈ items, Shows (text item) (names item) (shown item)) :
    Shows (separator.intercalate (items.map text)) (items.flatMap names) (separator.intercalate (items.map shown)) := by
  induction items with
  | nil => exact shows_nil
  | cons item rest ih =>
      have own := each item List.mem_cons_self
      have later := ih fun other member => each other (List.mem_cons_of_mem _ member)
      cases rest with
      | nil => simpa using own
      | cons next more =>
          have whole := shows_append (shows_append own (shows_inert separator inert)) later
          simpa [List.intercalate_cons_cons] using whole

theorem map_tokens_unchanged (answer : List Char → List Char) {text : List Char} {pieces : List Piece}
    (closed : Closed placeholder text pieces) (same : ∀ content ∈ contents pieces, answer content = content) :
    Delimiters.mapTokens placeholder answer text = text := by
  refine Delimiters.map_tokens_same _ answer text fun content raw member => same content ?_
  rw [Delimiters.closed_scan _ closed] at member
  exact mem_contents member

theorem map_tokens_token (answer : List Char → List Char) (content : List Char) (tame : Tame content) :
    Delimiters.mapTokens placeholder answer (token content) = token (answer content) := by
  rw [Delimiters.closed_mapped _ answer (closed_token content tame), List.flatMap_cons, Delimiters.mapPiece]
  by_cases same : answer content = content
  · simp [same, token, placeholder]
  · simp [same, token, placeholder]

theorem bind_shown (squeeze : Bool) {text shown : List Char} {names : List (List Char)} {mappings : List Mapping}
    (asked : contents (placeholder.scan text) = names) (left : marked (placeholder.scan text) = shown)
    (parsed : mappingsOf names = .ok mappings) :
    bindPlaceholders squeeze text = .ok (if squeeze then Text.squeeze shown else shown, mappings) := by
  subst asked left
  rw [bindPlaceholders, parsed]
  rfl

theorem shows_scan {text shown : List Char} {names : List (List Char)} (whole : Shows text names shown) :
    contents (placeholder.scan text) = names ∧ marked (placeholder.scan text) = shown := by
  obtain ⟨pieces, closed, asked, left⟩ := whole.complete
  rw [Delimiters.closed_scan _ closed]
  exact ⟨asked, left⟩

theorem shows_trim {text shown : List Char} {names : List (List Char)} (whole : Shows text names shown) :
    contents (placeholder.scan (Text.trim text)) = names ∧ marked (placeholder.scan (Text.trim text)) = Text.trim shown := by
  obtain ⟨pieces, closed, rfl, rfl⟩ := whole.complete
  obtain ⟨trimmed, shorter, same, shown⟩ := closed_trim closed
  rw [Delimiters.closed_scan _ shorter]
  exact ⟨same, shown⟩

end StatementMapper.Template
