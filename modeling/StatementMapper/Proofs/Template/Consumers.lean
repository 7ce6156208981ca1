import Mathlib.Data.List.Chain
import StatementMapper.Proofs.Template.Segments
import StatementMapper.Proofs.Template.Spans

set_option autoImplicit false

/-! Every consumer of a scan is handed the same tokens, in order and up to the first failure. -/

namespace StatementMapper.Template

open Delimiters (addPlain gather gathered)

-- Segments of which no literal is empty or stands next to another.
structure Tidy (segments : List Segment) : Prop where
  nonempty : ∀ text, .literal text ∈ segments → text ≠ []
  apart : segments.IsChain fun first next => first.isToken = true ∨ next.isToken = true

theorem tidy_token (content : List Char) {segments : List Segment} (tidy : Tidy segments) :
    Tidy (.token content :: segments) := by
  refine ⟨fun text member => ?_, List.isChain_cons.mpr ⟨fun _ _ => Or.inl rfl, tidy.apart⟩⟩
  cases member with
  | tail _ later => exact tidy.nonempty text later

theorem tidy_add_plain (c : Char) {segments : List Segment} (tidy : Tidy segments) : Tidy (addPlain c segments) := by
  cases segments with
  | nil => exact ⟨fun text member => by simp_all [addPlain], List.isChain_singleton _⟩
  | cons first rest =>
      obtain ⟨alone, later⟩ := List.isChain_cons.mp tidy.apart
      cases first with
      | literal text =>
          refine ⟨fun other member => ?_, List.isChain_cons.mpr ⟨alone, later⟩⟩
          rcases List.mem_cons.mp member with same | behind
          · cases same
            exact List.cons_ne_nil c text
          · exact tidy.nonempty other (List.mem_cons_of_mem _ behind)
      | token content =>
          refine ⟨fun other member => ?_, List.isChain_cons.mpr ⟨fun next there => Or.inr ?_, tidy.apart⟩⟩
          · rcases List.mem_cons.mp member with same | behind
            · cases same
              exact List.cons_ne_nil c []
            · exact tidy.nonempty other behind
          · cases there
            rfl

theorem tidy_add_all (text : List Char) {segments : List Segment} (tidy : Tidy segments) :
    Tidy (text.foldr addPlain segments) := by
  induction text with
  | nil => exact tidy
  | cons c rest ih => exact tidy_add_plain c ih

theorem tidy_gather (d : Delimiters) (pieces : List Piece) : Tidy (gather d pieces) := by
  induction pieces with
  | nil => exact ⟨fun _ member => (nomatch member), List.isChain_nil⟩
  | cons piece rest ih =>
      cases piece with
      | plain c => exact tidy_add_plain c ih
      | escaped => exact tidy_add_all d.opening ih
      | token content raw => exact tidy_token content ih

theorem add_all_apart (text : List Char) (segments : List Segment)
    (apart : ∀ first ∈ segments.head?, first.isToken = true) :
    text.foldr addPlain segments = if text.isEmpty then segments else .literal text :: segments := by
  induction text with
  | nil => rfl
  | cons c rest ih =>
      rw [List.foldr_cons, ih]
      cases rest with
      | cons second more => rfl
      | nil =>
          cases segments with
          | nil => rfl
          | cons first others =>
              cases first with
              | literal other => exact nomatch apart _ rfl
              | token content => rfl

theorem tokens_exist_iff (segments : List Segment) :
    segments.filterMap Segment.content? ≠ [] ↔ segments.any Segment.isToken = true := by
  induction segments with
  | nil => simp
  | cons first rest ih =>
      cases first with
      | literal text => exact ih
      | token content => exact iff_of_true (List.cons_ne_nil content _) rfl

def filled : List Segment → List (List Char) → List Char
  | .literal text :: rest, answers => text ++ filled rest answers
  | .token _ :: rest, answer :: answers => answer ++ filled rest answers
  | _, _ => []

theorem filled_add_plain (c : Char) (segments : List Segment) :
    filled (addPlain c segments) = fun answers => c :: filled segments answers := by
  funext answers
  cases segments with
  | nil => simp [addPlain, filled]
  | cons first rest => cases first <;> simp [addPlain, filled]

theorem filled_add_all (text : List Char) (segments : List Segment) :
    filled (text.foldr addPlain segments) = fun answers => text ++ filled segments answers := by
  induction text with
  | nil => rfl
  | cons c rest ih => rw [List.foldr_cons, filled_add_plain, ih]; rfl

section Replacing

variable {m : Type → Type} [Monad m] (answer : List Char → m (List Char))

def replaceAll (segments : List Segment) : m (List Char) :=
  filled segments <$> (segments.filterMap Segment.content?).mapM answer

variable [LawfulMonad m]

theorem replace_add_all (text : List Char) (segments : List Segment) :
    replaceAll answer (text.foldr addPlain segments) = (text ++ ·) <$> replaceAll answer segments := by
  rw [replaceAll, Segment.content_add_all, filled_add_all, replaceAll, Functor.map_map]

theorem replace_literal (text : List Char) (segments : List Segment) :
    replaceAll answer (.literal text :: segments) = (text ++ ·) <$> replaceAll answer segments := by
  rw [replaceAll, replaceAll, Functor.map_map]
  rfl

theorem replace_token (content : List Char) (segments : List Segment) :
    replaceAll answer (.token content :: segments) =
      answer content >>= fun replacement => (replacement ++ ·) <$> replaceAll answer segments := by
  simp [replaceAll, filled, Segment.content?]

theorem replace_segments (d : Delimiters) (text : List Char) : d.replace answer text = replaceAll answer (d.segments text) := by
  rw [Delimiters.replace, Delimiters.segments]
  induction d.scan text with
  | nil => simp [Delimiters.replacePieces, gather, replaceAll, filled]
  | cons piece rest ih =>
      cases piece with
      | plain c =>
          rw [Delimiters.replacePieces, ih, bind_pure_comp, gather]
          exact (replace_add_all answer [c] _).symm
      | escaped => rw [Delimiters.replacePieces, ih, bind_pure_comp, gather, replace_add_all]
      | token content raw => simp only [Delimiters.replacePieces, ih, bind_pure_comp, gather, replace_token]

end Replacing

-- A handler of contents: a call may fail, and it may change the state of the handler whether it fails or not.
abbrev Handler (Failure State : Type) := List Char → ExceptT Failure (StateM State) (List Char)

section Handling

variable {Failure State First Second : Type}

theorem run_bind (step : ExceptT Failure (StateM State) First) (next : First → ExceptT Failure (StateM State) Second)
    (state : State) : (step >>= next) state =
      match step state with
      | (.ok result, after) => next result after
      | (.error cause, after) => (.error cause, after) := by
  change (match step state with | (outcome, after) => ExceptT.bindCont next outcome after) = _
  rcases step state with ⟨outcome, after⟩
  cases outcome <;> rfl

theorem run_map (change : First → Second) (step : ExceptT Failure (StateM State) First) (state : State) :
    (change <$> step) state = ((step state).1.map change, (step state).2) := by
  rw [map_eq_pure_bind, run_bind]
  rcases step state with ⟨outcome, after⟩
  cases outcome <;> rfl

variable (handler : Handler Failure State)

def Handler.noted : Handler Failure (List (List Char) × State) := fun content => ExceptT.mk fun (calls, state) =>
  let (answer, next) := handler content state
  (answer, calls ++ [content], next)

theorem noted_call (content : List Char) (calls : List (List Char)) (state : State) :
    handler.noted content (calls, state) = ((handler content state).1, calls ++ [content], (handler content state).2) :=
  rfl

inductive Answers : State → List (List Char) → List (List Char) → State → Prop where
  | nil (state : State) : Answers state [] [] state
  | cons {state next last : State} {content answer : List Char} {contents answers : List (List Char)}
      (first : handler content state = (.ok answer, next)) (more : Answers next contents answers last) :
      Answers state (content :: contents) (answer :: answers) last

theorem answers_or_fails (state : State) (contents : List (List Char)) :
    (∃ answers last, Answers handler state contents answers last) ∨
      ∃ before content after answers middle cause last, contents = before ++ content :: after ∧
        Answers handler state before answers middle ∧ handler content middle = (.error cause, last) := by
  induction contents generalizing state with
  | nil => exact Or.inl ⟨[], state, .nil state⟩
  | cons content rest ih =>
      rcases own : handler content state with ⟨outcome, next⟩
      cases outcome with
      | error cause => exact Or.inr ⟨[], content, rest, [], state, cause, next, rfl, .nil state, own⟩
      | ok answer =>
          rcases ih next with ⟨answers, last, asked⟩ | ⟨before, other, after, answers, middle, cause, last, rfl, asked, failure⟩
          · exact Or.inl ⟨answer :: answers, last, .cons own asked⟩
          · exact Or.inr ⟨content :: before, other, after, answer :: answers, middle, cause, last, rfl, .cons own asked,
              failure⟩

theorem run_answered {state last : State} {contents answers : List (List Char)}
    (asked : Answers handler state contents answers last) : contents.mapM handler state = (.ok answers, last) := by
  induction asked with
  | nil => rfl
  | cons first more ih =>
      rw [List.mapM_cons, run_bind, first]
      simp only [run_bind, ih]
      rfl

theorem run_failed {state middle last : State} {before answers : List (List Char)} {content : List Char} {cause : Failure}
    (asked : Answers handler state before answers middle) (failure : handler content middle = (.error cause, last))
    (after : List (List Char)) : (before ++ content :: after).mapM handler state = (.error cause, last) := by
  induction asked with
  | nil => rw [List.nil_append, List.mapM_cons, run_bind, failure]
  | cons first more ih =>
      rw [List.cons_append, List.mapM_cons, run_bind, first]
      simp only [run_bind, ih failure]

theorem answers_noted {state last : State} {contents answers : List (List Char)}
    (asked : Answers handler state contents answers last) (calls : List (List Char)) :
    Answers handler.noted (calls, state) contents answers (calls ++ contents, last) := by
  induction asked generalizing calls with
  | nil => rw [List.append_nil]; exact .nil _
  | @cons state next last content answer contents answers first more ih =>
      have later := ih (calls ++ [content])
      rw [List.append_assoc, List.singleton_append] at later
      exact .cons (by rw [noted_call, first]) later

-- What replacing the tokens of segments comes to, with the contents that were asked about and the state that is left.
inductive Replaced (start : State) (segments : List Segment) :
    Except Failure (List Char) → List (List Char) → State → Prop where
  | answered {answers : List (List Char)} {last : State}
      (asked : Answers handler start (segments.filterMap Segment.content?) answers last) :
      Replaced start segments (.ok (filled segments answers)) (segments.filterMap Segment.content?) last
  | failed {before after answers : List (List Char)} {content : List Char} {middle last : State} {cause : Failure}
      (tokens : segments.filterMap Segment.content? = before ++ content :: after)
      (asked : Answers handler start before answers middle) (failure : handler content middle = (.error cause, last)) :
      Replaced start segments (.error cause) (before ++ [content]) last

theorem replaced_exists (start : State) (segments : List Segment) :
    ∃ outcome calls last, Replaced handler start segments outcome calls last ∧
      replaceAll handler segments start = (outcome, last) ∧
      replaceAll handler.noted segments ([], start) = (outcome, calls, last) := by
  rcases answers_or_fails handler start (segments.filterMap Segment.content?) with
    ⟨answers, last, asked⟩ | ⟨before, content, after, answers, middle, cause, last, tokens, asked, failure⟩
  · refine ⟨_, _, last, .answered asked, ?_, ?_⟩
    · rw [replaceAll, run_map, run_answered handler asked]
      rfl
    · rw [replaceAll, run_map, run_answered handler.noted (answers_noted handler asked [])]
      rfl
  · refine ⟨_, _, last, .failed tokens asked failure, ?_, ?_⟩
    · rw [replaceAll, run_map, tokens, run_failed handler asked failure]
      rfl
    · have noted : handler.noted content (before, middle) = (.error cause, before ++ [content], last) := by
        rw [noted_call, failure]
      rw [replaceAll, run_map, tokens, run_failed handler.noted (answers_noted handler asked []) noted]
      rfl

theorem called_iff {start last : State} {segments : List Segment} {outcome : Except Failure (List Char)}
    {calls : List (List Char)} (replaced : Replaced handler start segments outcome calls last) :
    calls ≠ [] ↔ segments.any Segment.isToken = true := by
  rw [← tokens_exist_iff]
  cases replaced with
  | answered asked => exact Iff.rfl
  | failed tokens asked failure =>
      rw [tokens]
      simp

end Handling

structure Gathering where
  finished : List Segment := []
  literal : List Char := []

namespace Gathering

def flushed (g : Gathering) : List Segment :=
  if g.literal.isEmpty then g.finished else g.finished ++ [.literal g.literal]

def take (g : Gathering) : Span → Gathering
  | .literal text => { g with literal := g.literal ++ text }
  | .token content _ => { finished := g.flushed ++ [.token content] }

theorem flushed_taken (spans : List Span) (g : Gathering) :
    (spans.foldl take g).flushed = g.finished ++ g.literal.foldr addPlain (gathered spans) := by
  induction spans generalizing g with
  | nil =>
      rw [gathered, add_all_apart _ _ (by rintro _ ⟨⟩), List.foldl_nil, flushed]
      split <;> simp
  | cons span rest ih =>
      rw [List.foldl_cons, ih]
      cases span with
      | literal text => rw [gathered, take, List.foldr_append]
      | token content raw =>
          rw [gathered, add_all_apart g.literal _ (by rintro _ ⟨⟩; rfl), take, flushed]
          split <;> simp

end Gathering

structure Replacing (Failure State : Type) where
  out : List Char := []
  failure : Option Failure := none
  state : State

namespace Replacing

variable {Failure State : Type} (handler : Handler Failure State)

def take (r : Replacing Failure State) : Span → Replacing Failure State
  | .literal text => { r with out := r.out ++ text }
  | .token content _ =>
    match r.failure with
    | some _ => r
    | none =>
      match handler content r.state with
      | (.ok replacement, next) => { out := r.out ++ replacement, state := next }
      | (.error cause, next) => { r with failure := some cause, state := next }

def finish (r : Replacing Failure State) : Except Failure (List Char) × State :=
  match r.failure with
  | some cause => (.error cause, r.state)
  | none => (.ok r.out, r.state)

theorem finish_failed (spans : List Span) (r : Replacing Failure State) (cause : Failure) (failed : r.failure = some cause) :
    (spans.foldl (take handler) r).finish = (.error cause, r.state) := by
  induction spans generalizing r with
  | nil => rw [List.foldl_nil, finish, failed]
  | cons span rest ih =>
      cases span with
      | literal text => exact ih { r with out := r.out ++ text } failed
      | token content raw =>
          have kept : take handler r (.token content raw) = r := by rw [take, failed]
          rw [List.foldl_cons, kept]
          exact ih r failed

theorem finish_taken (spans : List Span) (out : List Char) (state : State) :
    (spans.foldl (take handler) { out, state }).finish = ((out ++ ·) <$> replaceAll handler (gathered spans)) state := by
  induction spans generalizing out state with
  | nil =>
      rw [List.foldl_nil, finish, run_map]
      exact congrArg (fun text => (Except.ok text, state)) (List.append_nil out).symm
  | cons span rest ih =>
      rw [List.foldl_cons]
      cases span with
      | literal text =>
          rw [gathered, replace_add_all, Functor.map_map]
          simp only [← List.append_assoc]
          exact ih (out ++ text) state
      | token content raw =>
          rw [gathered, replace_token, map_bind, run_bind]
          rcases own : handler content state with ⟨outcome, next⟩
          cases outcome with
          | error cause =>
              have failed : take handler { out, state } (.token content raw) = { out, failure := some cause, state := next } := by
                rw [take, own]
              rw [failed, finish_failed handler rest _ cause rfl]
          | ok replacement =>
              have answered : take handler { out, state } (.token content raw) = { out := out ++ replacement, state := next } := by
                rw [take, own]
              rw [answered, ih]
              simp only [Functor.map_map, List.append_assoc]

end Replacing

def collecting : Handler TemplateFault (List Mapping) := fun content => ExceptT.mk fun mappings =>
  match Mapping.parse content with
  | .ok mapping => (.ok ['?'], mappings ++ [mapping])
  | .error cause => (.error cause, mappings)

theorem collecting_call (content : List Char) (mappings : List Mapping) :
    collecting content mappings =
      match Mapping.parse content with
      | .ok mapping => (.ok ['?'], mappings ++ [mapping])
      | .error cause => (.error cause, mappings) := rfl

theorem collected (segments : List Segment) (before : List Mapping) :
    (∃ mappings, mappingsOf (segments.filterMap Segment.content?) = .ok mappings ∧
        replaceAll collecting segments before = (.ok (segments.flatMap Segment.shown), before ++ mappings)) ∨
      ∃ cause last, mappingsOf (segments.filterMap Segment.content?) = .error cause ∧
        replaceAll collecting segments before = (.error cause, last) := by
  induction segments generalizing before with
  | nil => exact Or.inl ⟨[], rfl, by rw [List.append_nil]; rfl⟩
  | cons first rest ih =>
      cases first with
      | literal text =>
          rw [replace_literal, run_map]
          rcases ih before with ⟨mappings, parsed, run⟩ | ⟨cause, last, failed, run⟩
          · exact Or.inl ⟨mappings, parsed, by rw [run]; rfl⟩
          · exact Or.inr ⟨cause, last, failed, by rw [run]; rfl⟩
      | token content =>
          have call := collecting_call content before
          have tokens : (Segment.token content :: rest).filterMap Segment.content? =
              content :: rest.filterMap Segment.content? := rfl
          rw [replace_token, run_bind, tokens, mappingsOf]
          cases own : Mapping.parse content with
          | error cause =>
              rw [own] at call
              exact Or.inr ⟨cause, before, rfl, by rw [call]⟩
          | ok mapping =>
              rw [own] at call
              simp only [call, run_map]
              rcases ih (before ++ [mapping]) with ⟨mappings, parsed, run⟩ | ⟨cause, last, failed, run⟩
              · refine Or.inl ⟨mapping :: mappings, by rw [parsed]; rfl, ?_⟩
                rw [run, List.append_assoc]
                rfl
              · exact Or.inr ⟨cause, last, by rw [failed]; rfl, by rw [run]; rfl⟩

-- Binding the placeholders of a text is replacing them, with the mappings that were collected on the way.
theorem bind_replaced (squeeze : Bool) (text : List Char) :
    bindPlaceholders squeeze text =
      match Delimiters.placeholder.replace collecting text [] with
      | (.ok sql, mappings) => .ok (if squeeze then Text.squeeze sql else sql, mappings)
      | (.error cause, _) => .error cause := by
  rw [bind_segments, replace_segments, tokensOf, shownOf]
  rcases collected (Delimiters.placeholder.segments text) [] with ⟨mappings, parsed, run⟩ | ⟨cause, last, failed, run⟩
  · rw [parsed, run]
    rfl
  · rw [failed, run]
    rfl

namespace Delimiters

variable (d : Delimiters)

theorem consumers_agree (opening : d.opening.getLast? ≠ some '\\') (closing : d.closing.getLast? ≠ some '\\')
    (text : List Char) :
    (∃ spans, d.spansFrom true text 0 = some spans ∧ (spans.foldl Gathering.take {}).flushed = d.segments text ∧
        ∀ {Failure State : Type} (handler : Handler Failure State) (start : State),
          (spans.foldl (Replacing.take handler) { state := start }).finish = d.replace handler text start) ∧
      Tidy (d.segments text) ∧
      ∀ {Failure State : Type} (handler : Handler Failure State) (start : State), ∃ outcome calls last,
        Replaced handler start (d.segments text) outcome calls last ∧ d.replace handler text start = (outcome, last) ∧
          d.replace handler.noted text ([], start) = (outcome, calls, last) ∧ (d.hasTokens text = true ↔ calls ≠ []) := by
  obtain ⟨spans, taken, emitted⟩ := d.spans_emitted opening closing true [] text (by simp)
  have parts : gathered spans = d.segments text := d.emitted_gathered emitted
  refine ⟨⟨spans, taken, ?_, fun handler start => ?_⟩, tidy_gather d _, fun handler start => ?_⟩
  · rw [Gathering.flushed_taken, parts]
    rfl
  · rw [Replacing.finish_taken, parts, replace_segments]
    exact congrFun (id_map _) start
  · obtain ⟨outcome, calls, last, replaced, plain, noted⟩ := replaced_exists handler start (d.segments text)
    refine ⟨outcome, calls, last, replaced, ?_, ?_, (called_iff handler replaced).symm⟩
    · rw [replace_segments, plain]
    · rw [replace_segments, noted]

def limited (limit : Nat) : Handler String Nat := fun _ => ExceptT.mk fun count =>
  (if count < limit then .ok ['?'] else .error "too many", count + 1)

-- An escaped placeholder, three that are asked about up to the second, and one that is not closed.
theorem second_refused :
    let text := "\\#\x7ba\x7d = #\x7bb\x7d#\x7bc\x7d, #\x7bd\x7d and #\x7be".toList
    let start := "#\x7ba\x7d = ".toList
    let segments := [.literal start, .token ['b'], .token ['c'], .literal [',', ' '], .token ['d'], .literal " and #\x7be".toList]
    placeholder.opening.getLast? ≠ some '\\' ∧ placeholder.closing.getLast? ≠ some '\\' ∧
      (∃ spans, placeholder.spansFrom true text 0 = some spans ∧ (spans.foldl Gathering.take {}).flushed = segments ∧
        (spans.foldl (Replacing.take (limited 1)) { state := 0 }).finish = (.error "too many", 2)) ∧
      Tidy segments ∧ Replaced (limited 1) 0 segments (.error "too many") [['b'], ['c']] 2 ∧
      placeholder.replace (limited 1).noted text ([], 0) = (.error "too many", [['b'], ['c']], 2) ∧
      placeholder.hasTokens text = true := by
  intro text start segments
  have parts : placeholder.segments text = segments := by decide +kernel
  have plain : placeholder.replace (limited 1) text 0 = (.error "too many", 2) := by
    rw [replace_segments, parts]
    rfl
  have noted : placeholder.replace (limited 1).noted text ([], 0) = (.error "too many", [['b'], ['c']], 2) := by
    rw [replace_segments, parts]
    rfl
  obtain ⟨⟨spans, taken, gathered, run⟩, tidy, replaced⟩ :=
    placeholder.consumers_agree (by decide) (by decide) text
  obtain ⟨outcome, calls, last, replaced, same, called, asked⟩ := replaced (limited 1) 0
  rw [noted] at called
  cases called
  rw [parts] at gathered tidy replaced
  exact ⟨by decide, by decide, ⟨spans, taken, gathered, (run _ _).trans plain⟩, tidy, replaced, noted,
    asked.mpr (List.cons_ne_nil _ _)⟩

end Delimiters

end StatementMapper.Template
