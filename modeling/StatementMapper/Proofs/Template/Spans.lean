import Mathlib.Data.List.Basic
import StatementMapper.Proofs.Template.Scanning
import StatementMapper.Proofs.Text.Offsets

set_option autoImplicit false

/-! The scan by byte offsets: every slice can be taken, and the slices are the pieces of the scan. -/

namespace StatementMapper

namespace Text

open Template.Trimming (width)

-- A character in front of what is reached without a backslash escapes nothing.
theorem Reaches.plain {pattern tail rest before : List Char} {c : Char} (more : Reaches pattern tail rest before)
    (unescaped : (c :: before).getLast? ≠ some '\\') :
    (c = '\\' → after? pattern rest = none) ∧ before.getLast? ≠ some '\\' := by
  cases before with
  | nil => exact ⟨fun slash => absurd (congrArg some slash) unescaped, by simp⟩
  | cons second inner =>
      rw [List.getLast?_cons_cons] at unescaped
      exact ⟨fun _ => more.unstarted (List.cons_ne_nil second inner), unescaped⟩

theorem slash_offsets (start : Nat) (before pattern : List Char) :
    start + width (before ++ ['\\']) - 1 = start + width before ∧
      start + width (before ++ ['\\']) + width pattern = start + width (before ++ '\\' :: pattern) := by
  refine ⟨?_, ?_⟩
  · rw [width_append]
    rfl
  · rw [Nat.add_assoc, ← width_append, List.append_assoc]
    rfl

theorem offset_bound {pattern text : List Char} {found : Nat} (offset : offset? pattern text = some found) :
    found + width pattern ≤ width text := by
  simp only [offset?, Option.map_eq_some_iff, Prod.exists] at offset
  obtain ⟨before, tail, cut, rfl⟩ := offset
  rw [cut_parts cut, width_append, width_append]
  omega

end Text

namespace Template

open Text (cutAt? slice? slashBefore? offset? cut?)
open Trimming (width)

-- Whether the delimiter at a place is escaped. At the lowest place no byte in front of it is looked at.
def escapedAt? (text : List Char) (lowest place : Nat) : Option Bool :=
  if lowest < place then slashBefore? text place else some false

inductive Span where
  | literal (text : List Char)
  | token (content raw : List Char)

def Span.raw : Span → List Char
  | literal text => text
  | token _ raw => raw

inductive Search where
  | missing
  | closed (content : List Char) (behind : Nat)
  | escaped (content : List Char) (behind : Nat)

def Search.Within (cursor : Nat) (text : List Char) : Search → Prop
  | .missing => True
  | .closed _ behind => cursor < behind ∧ behind ≤ width text
  | .escaped _ behind => cursor < behind ∧ behind ≤ width text

inductive Round where
  | last (spans : List Span)
  | next (spans : List Span) (behind : Nat)

namespace Delimiters

variable (d : Delimiters)

def searchStep (text : List Char) (cursor : Nat) (content : List Char) : Option Search := do
  let (_, rest) ← cutAt? cursor text
  match offset? d.closing rest with
  | none => some .missing
  | some found =>
    let closeAt := cursor + found
    let escaped ← escapedAt? text cursor closeAt
    if escaped then
      let part ← slice? cursor (closeAt - 1) text
      some (.escaped (content ++ part ++ d.closing) (closeAt + width d.closing))
    else
      let part ← slice? cursor closeAt text
      some (.closed (content ++ part) (closeAt + width d.closing))

theorem search_within {text content : List Char} {cursor : Nat} {outcome : Search}
    (ran : d.searchStep text cursor content = some outcome) : Search.Within cursor text outcome := by
  obtain ⟨⟨front, rest⟩, inside, ran⟩ := Option.bind_eq_some_iff.mp ran
  obtain ⟨rfl, rfl⟩ := Text.cut_at_some inside
  cases offset : offset? d.closing rest with
  | none =>
      simp only [offset] at ran
      cases ran
      trivial
  | some found =>
      have positive := Text.width_positive d.closing d.closing_nonempty
      have bound := Text.offset_bound offset
      have whole := Text.width_append front rest
      simp only [offset] at ran
      obtain ⟨escaped, looked, ran⟩ := Option.bind_eq_some_iff.mp ran
      cases escaped with
      | true =>
          obtain ⟨part, sliced, ran⟩ := Option.bind_eq_some_iff.mp ran
          cases ran
          exact ⟨by omega, by omega⟩
      | false =>
          obtain ⟨part, sliced, ran⟩ := Option.bind_eq_some_iff.mp ran
          cases ran
          exact ⟨by omega, by omega⟩

-- Nothing where no delimiter closes the token; no answer when the search leaves the text.
def search (text : List Char) (cursor : Nat) (content : List Char) : Option (Option (List Char × Nat)) :=
  match _ran : searchStep d text cursor content with
  | none => none
  | some .missing => some none
  | some (.closed content behind) => some (some (content, behind))
  | some (.escaped content behind) => search text behind content
termination_by width text - cursor
decreasing_by
  have bounds : cursor < behind ∧ behind ≤ width text := search_within d _ran
  omega

theorem search_advances {text content found : List Char} {cursor behind : Nat}
    (ran : d.search text cursor content = some (some (found, behind))) : cursor < behind ∧ behind ≤ width text := by
  fun_induction search d text cursor content with
  | case1 => cases ran
  | case2 => cases ran
  | case3 cursor content more place step =>
      cases ran
      exact search_within d step
  | case4 cursor content more place step ih =>
      have first : cursor < place ∧ place ≤ width text := search_within d step
      have later := ih ran
      exact ⟨by omega, later.2⟩

def roundStep (unescape : Bool) (text : List Char) (offset : Nat) : Option Round := do
  let (_, rest) ← cutAt? offset text
  match offset? d.opening rest with
  | none => some (.last [.literal rest])
  | some found =>
    let start := offset + found
    let behind := start + width d.opening
    let escaped ← escapedAt? text 0 start
    if escaped then
      if unescape then
        let before ← slice? offset (start - 1) text
        some (.next [.literal before, .literal d.opening] behind)
      else
        let before ← slice? offset behind text
        some (.next [.literal before] behind)
    else
      let token ← d.search text behind []
      match token with
      | none => some (.last [.literal rest])
      | some (content, close) =>
        let before ← slice? offset start text
        let raw ← slice? start close text
        some (.next [.literal before, .token content raw] close)

theorem round_advances {unescape : Bool} {text : List Char} {offset behind : Nat} {spans : List Span}
    (ran : d.roundStep unescape text offset = some (.next spans behind)) : offset < behind ∧ behind ≤ width text := by
  obtain ⟨⟨front, rest⟩, inside, ran⟩ := Option.bind_eq_some_iff.mp ran
  obtain ⟨rfl, rfl⟩ := Text.cut_at_some inside
  cases found : offset? d.opening rest with
  | none =>
      simp only [found] at ran
      cases ran
  | some place =>
      have positive := Text.width_positive d.opening d.opening_nonempty
      have bound := Text.offset_bound found
      have whole := Text.width_append front rest
      simp only [found] at ran
      obtain ⟨escaped, looked, ran⟩ := Option.bind_eq_some_iff.mp ran
      cases escaped with
      | true =>
          cases unescape with
          | true =>
              obtain ⟨before, sliced, ran⟩ := Option.bind_eq_some_iff.mp ran
              cases ran
              exact ⟨by omega, by omega⟩
          | false =>
              obtain ⟨before, sliced, ran⟩ := Option.bind_eq_some_iff.mp ran
              cases ran
              exact ⟨by omega, by omega⟩
      | false =>
          obtain ⟨token, sought, ran⟩ := Option.bind_eq_some_iff.mp ran
          cases token with
          | none => cases ran
          | some parts =>
              obtain ⟨before, _, ran⟩ := Option.bind_eq_some_iff.mp ran
              obtain ⟨raw, _, ran⟩ := Option.bind_eq_some_iff.mp ran
              cases ran
              have later := search_advances d sought
              exact ⟨by omega, later.2⟩

-- The spans of a text from an offset on; none when a slice cannot be taken. Escaped opening delimiters lose their
-- backslash if asked to.
def spansFrom (unescape : Bool) (text : List Char) (offset : Nat) : Option (List Span) :=
  match _ran : roundStep d unescape text offset with
  | none => none
  | some (.last spans) => some spans
  | some (.next spans behind) => (spansFrom unescape text behind).map (spans ++ ·)
termination_by width text - offset
decreasing_by
  have bounds := round_advances d _ran
  omega

theorem body_absent {text : List Char} (absent : cut? d.closing text = none) : body? d text = none := by
  induction text with
  | nil => rw [body?]
  | cons c rest ih =>
      obtain ⟨unclosed, later⟩ := Text.absent_cons absent
      rw [body_plain d unclosed fun _ => Text.unstarted_of_absent d.closing_nonempty later, ih later]
      rfl

theorem body_before {text before tail : List Char} (reached : Text.Reaches d.closing tail text before)
    (unescaped : before.getLast? ≠ some '\\') : body? d text = some (before, before ++ d.closing, tail) := by
  induction reached with
  | here => exact body_closed d ((Text.after_some_iff _ _ _).mpr rfl)
  | past unclosed more ih =>
      obtain ⟨plain, later⟩ := more.plain unescaped
      rw [body_plain d unclosed plain, ih later]
      rfl

theorem body_behind {text before tail : List Char} (reached : Text.Reaches d.closing tail text (before ++ ['\\'])) :
    body? d text = (body? d tail).map fun (content, raw, after) =>
      (before ++ (d.closing ++ content), before ++ ('\\' :: d.closing ++ raw), after) := by
  induction before generalizing text with
  | nil =>
      cases reached with
      | past unclosed more =>
          cases more with
          | here => exact body_escaped d unclosed ((Text.after_some_iff _ _ _).mpr rfl)
  | cons c inner ih =>
      cases reached with
      | past unclosed more =>
          rw [body_plain d unclosed fun _ => more.unstarted (by simp), ih more, Option.map_map]
          rfl

theorem scan_absent {text : List Char} (absent : cut? d.opening text = none) : scan d text = text.map Piece.plain := by
  induction text with
  | nil => rw [scan]; rfl
  | cons c rest ih =>
      obtain ⟨unopened, later⟩ := Text.absent_cons absent
      rw [scan_plain d unopened fun _ => Text.unstarted_of_absent d.opening_nonempty later, ih later]
      rfl

theorem scan_before {text before tail : List Char} (reached : Text.Reaches d.opening tail text before)
    (unescaped : before.getLast? ≠ some '\\') :
    scan d text = before.map Piece.plain ++ scan d (d.opening ++ tail) := by
  induction reached with
  | here => rfl
  | past unopened more ih =>
      obtain ⟨plain, later⟩ := more.plain unescaped
      rw [scan_plain d unopened plain, ih later]
      rfl

theorem scan_behind {text before tail : List Char} (reached : Text.Reaches d.opening tail text (before ++ ['\\'])) :
    scan d text = before.map Piece.plain ++ .escaped :: scan d tail := by
  induction before generalizing text with
  | nil =>
      cases reached with
      | past unopened more =>
          cases more with
          | here => exact scan_escaped d unopened ((Text.after_some_iff _ _ _).mpr rfl)
  | cons c inner ih =>
      cases reached with
      | past unopened more =>
          rw [scan_plain d unopened fun _ => more.unstarted (by simp), ih more]
          rfl

theorem escaped_at (front before back : List Char) :
    escapedAt? (front ++ (before ++ back)) (width front) (width front + width before) =
      some (before.getLast? == some '\\') := by
  cases before with
  | nil => simp [escapedAt?, width]
  | cons c rest =>
      have positive := Text.width_positive (c :: rest) (List.cons_ne_nil c rest)
      have looked := Text.slash_before (front ++ c :: rest) back (by simp)
      have last : (front ++ c :: rest).getLast? = (c :: rest).getLast? := by
        rw [List.getLast?_append, List.getLast?_cons]
        rfl
      rw [Text.width_append, List.append_assoc, last] at looked
      rw [escapedAt?, if_pos (by omega), looked]

theorem search_eq (text : List Char) (cursor : Nat) (content : List Char) :
    d.search text cursor content =
      match d.searchStep text cursor content with
      | none => none
      | some .missing => some none
      | some (.closed content behind) => some (some (content, behind))
      | some (.escaped content behind) => d.search text behind content := by
  rw [search]
  split <;> rename_i step <;> rw [step]

theorem offset_of_cut {pattern text before tail : List Char} (cut : cut? pattern text = some (before, tail)) :
    offset? pattern text = some (width before) := by
  rw [offset?, cut]
  rfl

theorem offset_of_absent {pattern text : List Char} (absent : cut? pattern text = none) : offset? pattern text = none := by
  rw [offset?, absent]
  rfl

theorem search_step_missing (front rest content : List Char) (absent : cut? d.closing rest = none) :
    d.searchStep (front ++ rest) (width front) content = some .missing := by
  simp only [searchStep, Text.cut_at_width, offset_of_absent absent, Option.bind_eq_bind, Option.bind_some]

theorem search_step_closed (front content before tail : List Char) {rest : List Char}
    (cut : cut? d.closing rest = some (before, tail)) (unescaped : before.getLast? ≠ some '\\') :
    d.searchStep (front ++ rest) (width front) content =
      some (.closed (content ++ before) (width front + width (before ++ d.closing))) := by
  have looked := escaped_at front before (d.closing ++ tail)
  have sliced := Text.slice_between front before (d.closing ++ tail)
  rw [← Text.cut_parts cut] at looked sliced
  rw [beq_eq_false_iff_ne.mpr unescaped] at looked
  simp only [searchStep, Text.cut_at_width, offset_of_cut cut, Option.bind_eq_bind, Option.bind_some, looked, sliced,
    Bool.false_eq_true, if_false, Text.width_append, Nat.add_assoc]

theorem search_step_escaped (front content before tail : List Char) {rest : List Char}
    (cut : cut? d.closing rest = some (before ++ ['\\'], tail)) :
    d.searchStep (front ++ rest) (width front) content =
      some (.escaped (content ++ before ++ d.closing) (width front + width (before ++ '\\' :: d.closing))) := by
  have parts := Text.cut_parts cut
  have looked := escaped_at front (before ++ ['\\']) (d.closing ++ tail)
  have sliced := Text.slice_between front before ('\\' :: (d.closing ++ tail))
  obtain ⟨place, wide⟩ := Text.slash_offsets (width front) before d.closing
  rw [← parts, List.getLast?_concat, beq_self_eq_true] at looked
  rw [show before ++ '\\' :: (d.closing ++ tail) = rest by rw [parts]; simp] at sliced
  simp only [searchStep, Text.cut_at_width, offset_of_cut cut, Option.bind_eq_bind, Option.bind_some, looked, place, wide,
    sliced, if_true]

theorem search_body (front rest content : List Char) :
    d.search (front ++ rest) (width front) content =
      some ((body? d rest).map fun (more, raw, _) => (content ++ more, width front + width raw)) := by
  rw [search_eq]
  cases cut : cut? d.closing rest with
  | none => rw [search_step_missing d front rest content cut, body_absent d cut]; rfl
  | some parts =>
      obtain ⟨before, tail⟩ := parts
      by_cases escaped : before.getLast? = some '\\'
      · obtain ⟨inner, rfl⟩ := List.getLast?_eq_some_iff.mp escaped
        have shape : rest = (inner ++ '\\' :: d.closing) ++ tail := by
          rw [Text.cut_parts cut]
          simp only [List.append_assoc, List.cons_append, List.nil_append]
        have shorter : tail.length < rest.length := by
          have long := congrArg List.length shape
          simp only [List.length_append, List.length_cons] at long
          omega
        have later := search_body (front ++ (inner ++ '\\' :: d.closing)) tail (content ++ inner ++ d.closing)
        rw [List.append_assoc, ← shape, Text.width_append] at later
        rw [search_step_escaped d front content inner tail cut, body_behind d (Text.reaches_of_cut cut)]
        refine later.trans ?_
        rw [Option.map_map]
        congr 2
        funext ⟨more, raw, after⟩
        have long : width (inner ++ ('\\' :: d.closing ++ raw)) = width (inner ++ '\\' :: d.closing) + width raw := by
          rw [← List.append_assoc, Text.width_append]
        simp only [Function.comp_apply, long, List.append_assoc, Nat.add_assoc]
      · rw [search_step_closed d front content before tail cut escaped, body_before d (Text.reaches_of_cut cut) escaped]
        rfl
termination_by rest.length
decreasing_by exact shorter

theorem escaped_from_start (front back : List Char) :
    escapedAt? (front ++ back) 0 (width front) = some (front.getLast? == some '\\') := by
  have looked := escaped_at [] front back
  rwa [show width [] = 0 from rfl, Nat.zero_add] at looked

theorem round_step_absent (unescape : Bool) (front rest : List Char) (absent : cut? d.opening rest = none) :
    d.roundStep unescape (front ++ rest) (width front) = some (.last [.literal rest]) := by
  simp only [roundStep, Text.cut_at_width, offset_of_absent absent, Option.bind_eq_bind, Option.bind_some]

def escapedSpans (unescape : Bool) (before : List Char) : List Span :=
  if unescape then [.literal before, .literal d.opening] else [.literal (before ++ '\\' :: d.opening)]

theorem round_step_escaped (unescape : Bool) (front before tail : List Char) {rest : List Char}
    (cut : cut? d.opening rest = some (before ++ ['\\'], tail)) :
    d.roundStep unescape (front ++ rest) (width front) =
      some (.next (d.escapedSpans unescape before) (width front + width (before ++ '\\' :: d.opening))) := by
  have parts := Text.cut_parts cut
  have looked : escapedAt? (front ++ rest) 0 (width front + width (before ++ ['\\'])) = some true := by
    have start := escaped_from_start (front ++ (before ++ ['\\'])) (d.opening ++ tail)
    rwa [Text.width_append, List.append_assoc, ← parts, ← List.append_assoc front before, List.getLast?_concat,
      beq_self_eq_true] at start
  have short := Text.slice_between front before ('\\' :: (d.opening ++ tail))
  have long := Text.slice_between front (before ++ '\\' :: d.opening) tail
  obtain ⟨place, wide⟩ := Text.slash_offsets (width front) before d.opening
  rw [show before ++ '\\' :: (d.opening ++ tail) = rest by rw [parts]; simp] at short
  rw [show before ++ '\\' :: d.opening ++ tail = rest by rw [parts]; simp] at long
  cases unescape with
  | true =>
      simp only [roundStep, Text.cut_at_width, offset_of_cut cut, Option.bind_eq_bind, Option.bind_some, looked, place,
        wide, short, if_true, escapedSpans]
  | false =>
      simp only [roundStep, Text.cut_at_width, offset_of_cut cut, Option.bind_eq_bind, Option.bind_some, looked, wide,
        long, if_true, Bool.false_eq_true, if_false, escapedSpans]

theorem round_step_unescaped (unescape : Bool) (front before tail : List Char) {rest : List Char}
    (cut : cut? d.opening rest = some (before, tail)) (clear : (front ++ before).getLast? ≠ some '\\') :
    d.roundStep unescape (front ++ rest) (width front) =
      match body? d tail with
      | none => some (.last [.literal rest])
      | some (content, raw, _) =>
        some (.next [.literal before, .token content (d.opening ++ raw)]
          (width front + width (before ++ (d.opening ++ raw)))) := by
  have parts := Text.cut_parts cut
  have looked : escapedAt? (front ++ rest) 0 (width front + width before) = some false := by
    have start := escaped_from_start (front ++ before) (d.opening ++ tail)
    rwa [Text.width_append, List.append_assoc, ← parts, beq_eq_false_iff_ne.mpr clear] at start
  have found : d.search (front ++ rest) (width front + width before + width d.opening) [] =
      some ((body? d tail).map fun (more, raw, _) => (more, width front + width before + width d.opening + width raw)) := by
    have start := d.search_body (front ++ (before ++ d.opening)) tail []
    rwa [List.append_assoc, List.append_assoc, ← parts, Text.width_append, Text.width_append, ← Nat.add_assoc] at start
  cases token : body? d tail with
  | none =>
      rw [token] at found
      simp only [roundStep, Text.cut_at_width, offset_of_cut cut, Option.bind_eq_bind, Option.bind_some, looked, found,
        Option.map_none, Bool.false_eq_true, if_false]
  | some body =>
      obtain ⟨content, raw, after⟩ := body
      have split := body_split d ((body_iff d _ _ _ _).mp token)
      have plain : slice? (width front) (width front + width before) (front ++ rest) = some before := by
        have start := Text.slice_between front before (d.opening ++ tail)
        rwa [← parts] at start
      have whole : slice? (width front + width before) (width front + width before + width d.opening + width raw)
          (front ++ rest) = some (d.opening ++ raw) := by
        have start := Text.slice_between (front ++ before) (d.opening ++ raw) after
        rwa [List.append_assoc d.opening, ← split, List.append_assoc front, ← parts, Text.width_append, Text.width_append,
          ← Nat.add_assoc] at start
      have wide : width front + width (before ++ (d.opening ++ raw)) =
          width front + width before + width d.opening + width raw := by
        simp only [Text.width_append, Nat.add_assoc]
      rw [token] at found
      simp only [roundStep, Text.cut_at_width, offset_of_cut cut, Option.bind_eq_bind, Option.bind_some, looked, found,
        Option.map_some, plain, whole, wide, Bool.false_eq_true, if_false]

-- The spans that pieces come to: the plain characters between two others are sliced out as one literal.
inductive Emits (unescape : Bool) : List Piece → List Span → Prop where
  | last (text : List Char) : Emits unescape (text.map .plain) [.literal text]
  | escaped (before : List Char) {pieces : List Piece} {spans : List Span} (more : Emits unescape pieces spans) :
      Emits unescape (before.map .plain ++ .escaped :: pieces) (d.escapedSpans unescape before ++ spans)
  | token (before content raw : List Char) {pieces : List Piece} {spans : List Span} (more : Emits unescape pieces spans) :
      Emits unescape (before.map .plain ++ .token content raw :: pieces) ([.literal before, .token content raw] ++ spans)

theorem spans_eq (unescape : Bool) (text : List Char) (offset : Nat) :
    d.spansFrom unescape text offset =
      match d.roundStep unescape text offset with
      | none => none
      | some (.last spans) => some spans
      | some (.next spans behind) => (d.spansFrom unescape text behind).map (spans ++ ·) := by
  rw [spansFrom]
  split <;> rename_i step <;> rw [step]

-- A text is sliced from behind a delimiter, so that the byte in front of it is not a backslash.
theorem spans_emitted (opening : d.opening.getLast? ≠ some '\\') (closing : d.closing.getLast? ≠ some '\\')
    (unescape : Bool) (front rest : List Char) (clear : front.getLast? ≠ some '\\') :
    ∃ spans, d.spansFrom unescape (front ++ rest) (width front) = some spans ∧ d.Emits unescape (scan d rest) spans := by
  have onward (taken tail : List Char) (split : rest = taken ++ tail) (ends : taken.getLast? ≠ some '\\')
      (long : taken ≠ []) :
      ∃ spans, d.spansFrom unescape (front ++ rest) (width front + width taken) = some spans ∧
        d.Emits unescape (scan d tail) spans := by
    have shorter : tail.length < rest.length := by
      have positive := List.length_pos_iff.mpr long
      rw [split, List.length_append]
      omega
    have last : (front ++ taken).getLast? = taken.getLast? := List.getLast?_append_of_ne_nil front long
    have later := spans_emitted opening closing unescape (front ++ taken) tail (last ▸ ends)
    rwa [List.append_assoc, ← split, Text.width_append] at later
  rw [spans_eq]
  cases cut : cut? d.opening rest with
  | none =>
      rw [round_step_absent d unescape front rest cut, scan_absent d cut]
      exact ⟨_, rfl, .last rest⟩
  | some parts =>
      obtain ⟨before, tail⟩ := parts
      have parts := Text.cut_parts cut
      by_cases escaped : before.getLast? = some '\\'
      · obtain ⟨inner, rfl⟩ := List.getLast?_eq_some_iff.mp escaped
        have last : (inner ++ '\\' :: d.opening).getLast? = d.opening.getLast? := by
          rw [← List.singleton_append, ← List.append_assoc, List.getLast?_append_of_ne_nil _ d.opening_nonempty]
        obtain ⟨spans, later, emitted⟩ := onward (inner ++ '\\' :: d.opening) tail (by rw [parts]; simp) (last ▸ opening)
          (by simp)
        rw [round_step_escaped d unescape front inner tail cut, scan_behind d (Text.reaches_of_cut cut)]
        simp only [later]
        exact ⟨_, rfl, .escaped inner emitted⟩
      · have ends : (front ++ before).getLast? ≠ some '\\' := by
          rw [List.getLast?_append]
          cases own : before.getLast? with
          | none => exact clear
          | some c => exact fun slash => escaped (own.trans slash)
        rw [round_step_unescaped d unescape front before tail cut ends, scan_before d (Text.reaches_of_cut cut) escaped]
        have opens : Text.after? d.opening (d.opening ++ tail) = some tail := (Text.after_some_iff _ _ _).mpr rfl
        cases token : body? d tail with
        | none =>
            refine ⟨_, rfl, ?_⟩
            rw [scan_open d opens token, ← List.map_append, ← parts]
            exact .last rest
        | some body =>
            obtain ⟨content, raw, after⟩ := body
            have body := (body_iff d _ _ _ _).mp token
            have nonempty : raw ≠ [] := List.ne_nil_of_length_pos
              (Nat.lt_of_lt_of_le (List.length_pos_iff.mpr d.closing_nonempty) (body_long d body))
            have last : (before ++ (d.opening ++ raw)).getLast? = d.closing.getLast? := by
              rw [← List.append_assoc, List.getLast?_append_of_ne_nil _ nonempty, body_last d body]
            obtain ⟨spans, later, emitted⟩ := onward (before ++ (d.opening ++ raw)) after
              (by rw [parts, body_split d body]; simp only [List.append_assoc]) (last ▸ closing)
              (by simp [d.opening_nonempty])
            rw [scan_token d opens body]
            simp only [later]
            exact ⟨_, rfl, .token before content (d.opening ++ raw) emitted⟩
termination_by rest.length
decreasing_by exact shorter

def rewritten (answer : List Char → List Char) : Span → List Char
  | .literal text => text
  | .token content raw =>
    let renamed := answer content
    if renamed = content then raw else d.opening ++ renamed ++ d.closing

def gathered : List Span → List Segment
  | [] => []
  | .literal text :: rest => text.foldr addPlain (gathered rest)
  | .token content _ :: rest => .token content :: gathered rest

theorem rewritten_same (span : Span) : d.rewritten id span = span.raw := by
  cases span with
  | literal => rfl
  | token => exact if_pos rfl

theorem emitted_rewritten (answer : List Char → List Char) {pieces : List Piece} {spans : List Span}
    (emitted : d.Emits false pieces spans) :
    spans.flatMap (d.rewritten answer) = pieces.flatMap (d.mapPiece answer) := by
  have plain (text : List Char) : (text.map Piece.plain).flatMap (d.mapPiece answer) = text := by
    simp [List.flatMap_map, mapPiece]
  induction emitted with
  | last text => simp [rewritten, plain]
  | escaped before more ih => simp [escapedSpans, rewritten, mapPiece, plain, ih]
  | token before content raw more ih => simp [rewritten, mapPiece, plain, ih]

theorem emitted_gathered {pieces : List Piece} {spans : List Span} (emitted : d.Emits true pieces spans) :
    gathered spans = gather d pieces := by
  have plain (text : List Char) (more : List Piece) :
      gather d (text.map Piece.plain ++ more) = text.foldr addPlain (gather d more) := by
    induction text with
    | nil => rfl
    | cons c rest ih => rw [List.map_cons, List.cons_append, gather, ih, List.foldr_cons]
  induction emitted with
  | last text =>
      have whole := plain text []
      rw [List.append_nil] at whole
      rw [whole, gathered]
      rfl
  | escaped before more ih =>
      rw [plain, gather, ← ih]
      rfl
  | token before content raw more ih =>
      rw [plain, gather, ← ih]
      rfl

theorem slices_partition (opening : d.opening.getLast? ≠ some '\\') (closing : d.closing.getLast? ≠ some '\\')
    (text : List Char) :
    (∃ spans, d.spansFrom false text 0 = some spans ∧ spans.flatMap Span.raw = text ∧
        ∀ answer, spans.flatMap (d.rewritten answer) = d.mapTokens answer text) ∧
      (∃ spans, d.spansFrom true text 0 = some spans ∧ gathered spans = d.segments text) ∧
      d.mapTokens id text = text := by
  have unchanged : d.mapTokens id text = text := d.map_tokens_same id text fun _ _ _ => rfl
  obtain ⟨kept, taken, whole⟩ := d.spans_emitted opening closing false [] text (by simp)
  obtain ⟨unescaped, read, parts⟩ := d.spans_emitted opening closing true [] text (by simp)
  refine ⟨⟨kept, taken, ?_, fun answer => d.emitted_rewritten answer whole⟩, ⟨unescaped, read, ?_⟩, unchanged⟩
  · calc kept.flatMap Span.raw
        _ = kept.flatMap (d.rewritten id) := by simp only [funext d.rewritten_same]
        _ = d.mapTokens id text := d.emitted_rewritten id whole
        _ = text := unchanged
  · exact d.emitted_gathered parts

-- A word of wide characters around an escaped placeholder, one with an escaped brace and one that is not closed.
theorem placeholder_slices :
    let text := "é\\#\x7bü\x7d#\x7ba\\\x7db\x7d€#\x7bx".toList
    placeholder.opening.getLast? ≠ some '\\' ∧ placeholder.closing.getLast? ≠ some '\\' ∧
      (∃ spans, placeholder.spansFrom false text 0 = some spans ∧ spans.flatMap Span.raw = text ∧
          ∀ answer, spans.flatMap (placeholder.rewritten answer) = placeholder.mapTokens answer text) ∧
        (∃ spans, placeholder.spansFrom true text 0 = some spans ∧ gathered spans = placeholder.segments text) ∧
        placeholder.mapTokens id text = text :=
  ⟨by decide, by decide, placeholder.slices_partition (by decide) (by decide) _⟩

end Delimiters

end Template

end StatementMapper
