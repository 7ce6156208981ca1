import Mathlib.Data.List.DropRight
import StatementMapper.Proofs.Template.Scanning
import StatementMapper.Template.Construction

set_option autoImplicit false

/-! Scanning a text with a backslash in front of every opening delimiter gives the text back. -/

namespace StatementMapper.Template

namespace Delimiters

def escape (d : Delimiters) : List Char → List Char
  | [] => []
  | c :: rest => if d.opening.isPrefixOf (c :: rest) then '\\' :: c :: escape d rest else c :: escape d rest

-- An opening delimiter of two characters that neither overlaps with itself nor with its escape.
structure Paired (d : Delimiters) (first second : Char) : Prop where
  opening : d.opening = [first, second]
  differ : first ≠ second
  first_plain : first ≠ '\\'
  second_plain : second ≠ '\\'
  first_solid : Text.isBlank first = false
  second_solid : Text.isBlank second = false

theorem placeholder_paired : placeholder.Paired '#' '\x7b' := ⟨rfl, by decide, by decide, by decide, by decide, by decide⟩

theorem substitution_paired : substitution.Paired '$' '\x7b' := ⟨rfl, by decide, by decide, by decide, by decide, by decide⟩

variable {d : Delimiters} {first second : Char}

theorem opens_iff (paired : d.Paired first second) (c : Char) (rest : List Char) :
    d.opening.isPrefixOf (c :: rest) = true ↔ c = first ∧ rest.head? = some second := by
  rw [paired.opening]
  cases rest with
  | nil => simp [List.isPrefixOf]
  | cons next more =>
      simp only [List.isPrefixOf, Bool.and_true, Bool.and_eq_true, beq_iff_eq, List.head?_cons, Option.some.injEq]
      exact and_congr eq_comm eq_comm

theorem escape_opening (paired : d.Paired first second) (tail : List Char) :
    escape d (first :: second :: tail) = '\\' :: first :: second :: escape d tail := by
  have inside : ¬ d.opening.isPrefixOf (second :: tail) = true := fun opens =>
    paired.differ ((opens_iff paired second tail).mp opens).1.symm
  rw [escape, if_pos ((opens_iff paired _ _).mpr ⟨rfl, rfl⟩), escape, if_neg inside]

theorem escape_plain (paired : d.Paired first second) (c : Char) (rest : List Char)
    (plain : c = first → rest.head? ≠ some second) : escape d (c :: rest) = c :: escape d rest := by
  rw [escape, if_neg fun opens => ?_]
  obtain ⟨same, next⟩ := (opens_iff paired c rest).mp opens
  exact plain same next

theorem escape_absent (paired : d.Paired first second) (text : List Char) (absent : first ∉ text) :
    escape d text = text := by
  induction text with
  | nil => rfl
  | cons c rest ih =>
      simp only [List.mem_cons, not_or] at absent
      rw [escape_plain paired c rest fun same => absurd same.symm absent.1, ih absent.2]

-- The second half of a delimiter is never moved.
theorem escape_head (paired : d.Paired first second) (x : Char) (escaping : x ≠ '\\') (text : List Char)
    (apart : x ≠ first) : (escape d text).head? = some x ↔ text.head? = some x := by
  cases text with
  | nil => rfl
  | cons c rest =>
      by_cases opens : d.opening.isPrefixOf (c :: rest) = true
      · have start := ((opens_iff paired c rest).mp opens).1
        rw [escape, if_pos opens]
        simp [start, Ne.symm escaping, Ne.symm apart]
      · rw [escape, if_neg opens]
        rfl

theorem escape_last (text : List Char) : (escape d text).getLast? = text.getLast? := by
  induction text with
  | nil => rfl
  | cons c rest ih =>
      rw [escape]
      split
      · rw [List.getLast?_cons, List.getLast?_cons, List.getLast?_cons, ih]
        rfl
      · rw [List.getLast?_cons, List.getLast?_cons, ih]

theorem unopened_escape (paired : d.Paired first second) (text : List Char) :
    Text.after? d.opening (escape d text) = none := by
  cases found : Text.after? d.opening (escape d text) with
  | none => rfl
  | some tail =>
      have shape := (Text.after_some_iff _ _ _).mp found
      rw [paired.opening] at shape
      cases text with
      | nil => exact nomatch shape
      | cons c rest =>
          by_cases opens : d.opening.isPrefixOf (c :: rest) = true
          · rw [escape, if_pos opens] at shape
            exact absurd (List.cons.inj shape).1.symm paired.first_plain
          · rw [escape, if_neg opens] at shape
            obtain ⟨same, next⟩ := List.cons.inj shape
            have head : (escape d rest).head? = some second := by rw [next]; rfl
            have behind := (escape_head paired second paired.second_plain rest (Ne.symm paired.differ)).mp head
            exact absurd ((opens_iff paired c rest).mpr ⟨same, behind⟩) opens

inductive Literal (d : Delimiters) : List Piece → List Char → Prop where
  | nil : Literal d [] []
  | plain {pieces : List Piece} {text : List Char} (c : Char) (more : Literal d pieces text) :
      Literal d (.plain c :: pieces) (c :: text)
  | escaped {pieces : List Piece} {text : List Char} (more : Literal d pieces text) :
      Literal d (.escaped :: pieces) (d.opening ++ text)

theorem closed_escape (paired : d.Paired first second) (text : List Char) :
    ∃ pieces, Closed d (escape d text) pieces ∧ Literal d pieces text := by
  cases text with
  | nil => exact ⟨[], .nil, .nil⟩
  | cons c rest =>
      by_cases opens : d.opening.isPrefixOf (c :: rest) = true
      · obtain ⟨same, next⟩ := (opens_iff paired c rest).mp opens
        obtain ⟨tail, shape⟩ := List.head?_eq_some_iff.mp next
        obtain ⟨pieces, closed, literal⟩ := closed_escape paired tail
        have unopened := unopened_escape paired (first :: second :: tail)
        rw [same, shape]
        rw [escape_opening paired tail] at unopened ⊢
        have escape : Text.after? d.opening (first :: second :: escape d tail) = some (escape d tail) := by
          rw [Text.after_some_iff, paired.opening]
          rfl
        refine ⟨_, .escaped unopened escape closed, ?_⟩
        have stands := Literal.escaped literal
        rwa [paired.opening] at stands
      · obtain ⟨pieces, closed, literal⟩ := closed_escape paired rest
        have unopened := unopened_escape paired (c :: rest)
        rw [escape, if_neg opens] at unopened ⊢
        exact ⟨_, .plain unopened (fun _ => unopened_escape paired rest) closed, .plain c literal⟩
termination_by text.length
decreasing_by
  · rw [shape, List.length_cons, List.length_cons]
    omega
  · exact Nat.lt_succ_self _

theorem literal_contents {pieces : List Piece} {text : List Char} (literal : Literal d pieces text) :
    contents pieces = [] := by
  induction literal with
  | nil => rfl
  | plain c more ih => exact ih
  | escaped more ih => exact ih

theorem literal_marked {pieces : List Piece} {text : List Char} (literal : Literal placeholder pieces text) :
    marked pieces = text := by
  induction literal with
  | nil => rfl
  | plain c more ih => exact congrArg (List.cons c) ih
  | escaped more ih => exact congrArg (List.append placeholder.opening) ih

theorem add_plain_all (front text : List Char) :
    front.foldr addPlain (if text.isEmpty then [] else [.literal text]) =
      if (front ++ text).isEmpty then [] else [.literal (front ++ text)] := by
  induction front with
  | nil => rfl
  | cons c rest ih =>
      rw [List.foldr_cons, ih]
      cases whole : rest ++ text with
      | nil => simp [addPlain, whole]
      | cons next more => simp [addPlain, whole]

theorem literal_gather {pieces : List Piece} {text : List Char} (literal : Literal d pieces text) :
    gather d pieces = if text.isEmpty then [] else [.literal text] := by
  induction literal with
  | nil => rfl
  | plain c more ih => exact (congrArg (addPlain c) ih).trans (add_plain_all [c] _)
  | escaped more ih => rw [gather, ih, add_plain_all]

theorem segments_escape (paired : d.Paired first second) (text : List Char) :
    segments d (escape d text) = if text.isEmpty then [] else [.literal text] := by
  obtain ⟨pieces, closed, literal⟩ := closed_escape paired text
  rw [segments, closed_scan d closed, literal_gather literal]

theorem bind_escape (text : List Char) : bindPlaceholders false (escape placeholder text) = .ok (text, []) := by
  obtain ⟨pieces, closed, literal⟩ := closed_escape placeholder_paired text
  rw [bindPlaceholders, closed_scan _ closed, literal_contents literal, literal_marked literal]
  rfl

theorem trim_start_escape (paired : d.Paired first second) (text : List Char) :
    Text.trimStart (escape d text) = escape d (Text.trimStart text) := by
  induction text with
  | nil => rfl
  | cons c rest ih =>
      by_cases blank : Text.isBlank c = true
      · have plain : c ≠ first := fun same => by simp [same, paired.first_solid] at blank
        rw [escape_plain paired c rest fun same => absurd same plain]
        simpa only [Text.trimStart, List.dropWhile_cons_of_pos blank] using ih
      · have solid : ∀ x y, Text.isBlank x = false → Text.trimStart (x :: y) = x :: y :=
          fun x y solid => List.dropWhile_cons_of_neg (by simp [solid])
        rw [solid c rest (by simpa using blank), escape]
        split
        · exact solid _ _ (by decide)
        · exact solid _ _ (by simpa using blank)

theorem escape_concat_blank (paired : d.Paired first second) (text : List Char) (b : Char)
    (blank : Text.isBlank b = true) : escape d (text ++ [b]) = escape d text ++ [b] := by
  have plain : b ≠ second := fun same => by simp [same, paired.second_solid] at blank
  induction text with
  | nil => exact escape_plain paired b [] fun _ => nofun
  | cons c rest ih =>
      have same : (rest ++ [b]).head? = some second ↔ rest.head? = some second := by
        cases rest with
        | nil => simp [plain]
        | cons next more => simp
      rw [List.cons_append, escape, ih, escape]
      by_cases opens : d.opening.isPrefixOf (c :: rest) = true
      · have longer := (opens_iff paired c _).mpr ⟨((opens_iff paired c rest).mp opens).1,
          same.mpr ((opens_iff paired c rest).mp opens).2⟩
        rw [if_pos longer, if_pos opens]
        rfl
      · have shorter : ¬ d.opening.isPrefixOf (c :: (rest ++ [b])) = true := fun longer =>
          opens ((opens_iff paired c rest).mpr ⟨((opens_iff paired c _).mp longer).1,
            same.mp ((opens_iff paired c _).mp longer).2⟩)
        rw [if_neg shorter, if_neg opens]
        rfl

theorem trim_end_escape (paired : d.Paired first second) (text : List Char) :
    Text.trimEnd (escape d text) = escape d (Text.trimEnd text) := by
  induction text using List.reverseRecOn with
  | nil => rfl
  | append_singleton front b ih =>
      by_cases blank : Text.isBlank b = true
      · have shorter (left : List Char) : Text.trimEnd (left ++ [b]) = Text.trimEnd left :=
          List.rdropWhile_concat_pos _ left b blank
        rw [escape_concat_blank paired front b blank, shorter, shorter, ih]
      · have last := escape_last (d := d) (front ++ [b])
        rw [List.getLast?_concat] at last
        obtain ⟨left, shape⟩ := List.getLast?_eq_some_iff.mp last
        have whole (left : List Char) : Text.trimEnd (left ++ [b]) = left ++ [b] :=
          List.rdropWhile_concat_neg _ left b blank
        rw [whole, shape, whole]

theorem trim_escape (paired : d.Paired first second) (text : List Char) :
    Text.trim (escape d text) = escape d (Text.trim text) := by
  rw [Text.trim, trim_start_escape paired, trim_end_escape paired]
  rfl

end Delimiters

open Delimiters

def escapeOpenings : List Char → List Char
  | [] => []
  | c :: rest =>
    if placeholder.opening.isPrefixOf (c :: rest) ∨ substitution.opening.isPrefixOf (c :: rest)
    then '\\' :: c :: escapeOpenings rest
    else c :: escapeOpenings rest

theorem escape_openings_eq (text : List Char) :
    escapeOpenings text = escape substitution (escape placeholder text) := by
  induction text with
  | nil => rfl
  | cons c rest ih =>
      have behind : (escape placeholder rest).head? = some '\x7b' ↔ rest.head? = some '\x7b' :=
        escape_head placeholder_paired '\x7b' (by decide) rest (by decide)
      have marks := opens_iff placeholder_paired c rest
      have inserts := opens_iff substitution_paired c rest
      rw [escapeOpenings, ih, escape]
      by_cases mark : placeholder.opening.isPrefixOf (c :: rest) = true
      · have hash := (marks.mp mark).1
        rw [if_pos (Or.inl mark), if_pos mark,
          escape_plain substitution_paired '\\' _ fun same => absurd same (by decide),
          escape_plain substitution_paired c _ fun same => absurd (hash.symm.trans same) (by decide)]
      · rw [if_neg mark]
        by_cases insert : substitution.opening.isPrefixOf (c :: rest) = true
        · obtain ⟨dollar, next⟩ := inserts.mp insert
          have opens := (opens_iff substitution_paired c _).mpr ⟨dollar, behind.mpr next⟩
          rw [if_pos (Or.inr insert), escape, if_pos opens]
        · rw [if_neg (not_or.mpr ⟨mark, insert⟩), escape_plain substitution_paired c _ ?_]
          exact fun dollar next => insert (inserts.mpr ⟨dollar, behind.mp next⟩)

theorem Node.of_text_escaped (text : List Char) :
    Node.ofText (escapeOpenings text) = .ok (.static (escape placeholder text)) := by
  have plain (text : List Char) : literalsOf (if text.isEmpty then [] else [.literal text]) = text := by
    cases text with
    | nil => rfl
    | cons c rest => exact List.append_nil _
  have none_token (text : List Char) :
      (if text.isEmpty then [] else [Segment.literal text]).any Segment.isToken = false := by
    cases text <;> rfl
  rw [escape_openings_eq, Node.ofText, segments_escape substitution_paired]
  simp only [none_token, plain, Delimiters.hasTokens, segments_escape placeholder_paired]
  rfl

end StatementMapper.Template
