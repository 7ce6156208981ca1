import StatementMapper.Proofs.Markup.Printing
import StatementMapper.Proofs.Text.Cutting

set_option autoImplicit false

/-! What was read up to the end of a source is read the same when a `<` follows. -/

namespace StatementMapper

namespace Text

theorem trim_start_before (text more : List Char) : trimStart (text ++ '<' :: more) = trimStart text ++ '<' :: more :=
  drop_before isBlank text more '<' (by decide)

theorem trimmed_steady (text front rest : List Char) (shape : trimStart text = front ++ rest) :
    rest <:+ text ∧ ∀ more, trimStart (text ++ '<' :: more) = front ++ (rest ++ '<' :: more) := by
  have back : rest <:+ trimStart text := ⟨front, shape.symm⟩
  refine ⟨back.trans (List.dropWhile_suffix _), fun more => ?_⟩
  rw [trim_start_before, shape, List.append_assoc]

theorem split_first_steady (separator : Char) (text head rest more : List Char)
    (found : splitFirst separator text = (head, some rest)) :
    rest <:+ text ∧ splitFirst separator (text ++ more) = (head, some (rest ++ more)) := by
  induction text generalizing head with
  | nil => cases found
  | cons c others ih =>
      rw [splitFirst] at found
      rw [List.cons_append, splitFirst]
      by_cases same : c = separator
      · rw [if_pos same] at found ⊢
        cases found
        exact ⟨List.suffix_cons _ _, rfl⟩
      · rw [if_neg same] at found ⊢
        obtain ⟨rfl, behind⟩ := Prod.mk.inj found
        obtain ⟨back, again⟩ := ih _ (Prod.ext rfl behind)
        exact ⟨back.trans (List.suffix_cons _ _), by rw [again]⟩

end Text

namespace Markup

-- What a reader finds at the front of a text does not change with markup behind it, and an end of the text is left.
def Steady {α : Type} (read : List Char → Option (α × List Char)) : Prop :=
  ∀ text found rest, read text = some (found, rest) →
    rest <:+ text ∧ ∀ more, read (text ++ '<' :: more) = some (found, rest ++ '<' :: more)

theorem steady_name : Steady name? := by
  intro text found rest read
  cases text with
  | nil => cases read
  | cons c others =>
      rw [name?] at read
      by_cases start : isNameStart c = true
      · rw [if_pos start] at read
        cases read
        refine ⟨(List.dropWhile_suffix _).trans (List.suffix_cons _ _), fun more => ?_⟩
        rw [List.cons_append, name?, if_pos start, Text.take_before _ _ _ _ (by decide), Text.drop_before _ _ _ _ (by decide)]
      · rw [if_neg start] at read
        cases read

theorem steady_value : Steady value? := by
  intro text found rest read
  cases text with
  | nil => cases read
  | cons quote others =>
      rw [value?] at read
      by_cases quoted : quote = '"' ∨ quote = '\''
      · rw [if_pos quoted] at read
        cases cut : Text.splitFirst quote others with
        | mk value behind =>
            rw [cut] at read
            cases behind with
            | none => cases read
            | some tail =>
                cases read
                have steady (more : List Char) := Text.split_first_steady quote others found rest ('<' :: more) cut
                refine ⟨(steady []).1.trans (List.suffix_cons _ _), fun more => ?_⟩
                rw [List.cons_append, value?, if_pos quoted, (steady more).2]
      · rw [if_neg quoted] at read
        cases read

theorem steady_attribute (text : List Char) (name value : String) (rest : List Char)
    (read : attribute? text = some (name, value, rest)) :
    rest <:+ text ∧ ∀ more, attribute? (text ++ '<' :: more) = some (name, value, rest ++ '<' :: more) := by
  unfold attribute? at read
  simp only at read
  split at read
  · cases read
  · rename_i spaced
    obtain ⟨⟨found, after⟩, named, read⟩ := Option.bind_eq_some_iff.mp read
    obtain ⟨first, later⟩ := steady_name _ _ _ named
    split at read
    · rename_i assigned equals
      obtain ⟨⟨content, tail⟩, valued, read⟩ := Option.bind_eq_some_iff.mp read
      obtain ⟨second, last⟩ := steady_value _ _ _ valued
      cases read
      obtain ⟨third, assigns⟩ := Text.trimmed_steady after ['='] assigned equals
      have value : tail <:+ assigned := second.trans (List.dropWhile_suffix _)
      have named : after <:+ text := first.trans (List.dropWhile_suffix _)
      refine ⟨value.trans (third.trans named), fun more => ?_⟩
      have unspaced : ¬ (Text.trimStart text ++ '<' :: more).length = (text ++ '<' :: more).length := by
        simpa only [List.length_append, Nat.add_right_cancel_iff] using spaced
      rw [attribute?, Text.trim_start_before, if_neg unspaced, later more]
      simp only [bind, Option.bind, assigns more, List.cons_append, List.nil_append, Text.trim_start_before, last more]
    · cases read

theorem attribute_stopped (text others : List Char) (c : Char) (next : Text.trimStart text = c :: others)
    (stop : isNameStart c = false) : attribute? text = none := by
  rw [attribute?, next]
  simp [name?, stop]

theorem steady_attributes (text : List Char) (found : List (String × String)) (rest others : List Char) (c : Char)
    (read : attributes text = (found, rest)) (next : Text.trimStart rest = c :: others) (stop : isNameStart c = false) :
    rest <:+ text ∧ ∀ more, attributes (text ++ '<' :: more) = (found, rest ++ '<' :: more) := by
  fun_induction attributes text generalizing found with
  | case1 text none =>
      cases read
      refine ⟨List.suffix_rfl, fun more => ?_⟩
      have last : attribute? (rest ++ '<' :: more) = Option.none :=
        attribute_stopped _ (others ++ '<' :: more) c (by rw [Text.trim_start_before, next]; rfl) stop
      rw [attributes, last]
  | case2 text name value tail own shorter inner behind later ih =>
      cases read
      obtain ⟨back, again⟩ := steady_attribute text name value tail own
      obtain ⟨further, steady⟩ := ih inner later
      refine ⟨further.trans back, fun more => ?_⟩
      have bound : (tail ++ '<' :: more).length < (text ++ '<' :: more).length := by
        simpa only [List.length_append, Nat.add_lt_add_iff_right] using shorter
      rw [attributes, again more]
      simp only [if_pos bound, steady more]
  | case3 text name value tail own long =>
      cases read
      rw [attribute_stopped rest others c next stop] at own
      cases own

theorem steady_opening : Steady openingTag? := by
  intro text event rest read
  unfold openingTag? at read
  obtain ⟨⟨name, after⟩, named, read⟩ := Option.bind_eq_some_iff.mp read
  obtain ⟨first, later⟩ := steady_name _ _ _ named
  cases parts : attributes after with
  | mk found behind =>
      simp only [parts] at read
      split at read
      · rename_i tail ends
        cases read
        obtain ⟨second, steady⟩ := steady_attributes after found behind ('>' :: rest) '/' parts ends (by decide)
        obtain ⟨last, closes⟩ := Text.trimmed_steady behind ['/', '>'] rest ends
        refine ⟨last.trans (second.trans first), fun more => ?_⟩
        rw [openingTag?, later more]
        simp only [bind, Option.bind, steady more, closes more, List.cons_append, List.nil_append]
      · rename_i tail ends
        cases read
        obtain ⟨second, steady⟩ := steady_attributes after found behind rest '>' parts ends (by decide)
        obtain ⟨last, closes⟩ := Text.trimmed_steady behind ['>'] rest ends
        refine ⟨last.trans (second.trans first), fun more => ?_⟩
        rw [openingTag?, later more]
        simp only [bind, Option.bind, steady more, closes more, List.cons_append, List.nil_append]
      · cases read

theorem steady_closing : Steady closingTag? := by
  intro text event rest read
  unfold closingTag? at read
  obtain ⟨⟨name, after⟩, named, read⟩ := Option.bind_eq_some_iff.mp read
  obtain ⟨first, later⟩ := steady_name _ _ _ named
  simp only at read
  split at read
  · rename_i tail ends
    cases read
    obtain ⟨last, closes⟩ := Text.trimmed_steady after ['>'] rest ends
    refine ⟨last.trans first, fun more => ?_⟩
    rw [closingTag?, later more]
    simp only [bind, Option.bind, closes more, List.cons_append, List.nil_append]
  · cases read

def eitherTag? (text : List Char) : Option (Event × List Char) :=
  if text.head? = some '/' then closingTag? text.tail else openingTag? text

theorem either_slash (body : List Char) : eitherTag? ('/' :: body) = closingTag? body := if_pos rfl

theorem either_opening (text : List Char) (unslashed : text.head? ≠ some '/') : eitherTag? text = openingTag? text :=
  if_neg unslashed

theorem steady_either : Steady eitherTag? := by
  intro text event rest read
  by_cases slashed : text.head? = some '/'
  · obtain ⟨body, rfl⟩ := List.head?_eq_some_iff.mp slashed
    rw [either_slash] at read
    obtain ⟨back, steady⟩ := steady_closing _ _ _ read
    exact ⟨back.trans (List.suffix_cons _ _), fun more => (either_slash _).trans (steady more)⟩
  · rw [either_opening text slashed] at read
    obtain ⟨back, steady⟩ := steady_opening _ _ _ read
    refine ⟨back, fun more => ?_⟩
    have unslashed : (text ++ '<' :: more).head? ≠ some '/' := by
      cases text with
      | nil => exact fun same => absurd (Option.some.inj same) (by decide)
      | cons c others => exact slashed
    rw [either_opening _ unslashed, steady more]

theorem bare_before (text more : List Char) (bare : looksLikeTag text = false) :
    eitherTag? (text ++ '<' :: more) = none ∧ looksLikeTag (text ++ '<' :: more) = false := by
  cases text with
  | nil => exact ⟨by rfl, rfl⟩
  | cons c others =>
      simp only [looksLikeTag, Bool.or_eq_false_iff, beq_eq_false_iff_ne] at bare
      obtain ⟨⟨⟨slash, letter⟩, line⟩, mark⟩ := bare
      have start : isNameStart c = false := by simp [isNameStart, letter, line]
      constructor
      · have unslashed : (c :: (others ++ '<' :: more)).head? ≠ some '/' := fun same => slash (Option.some.inj same)
        rw [List.cons_append, either_opening _ unslashed, openingTag?, name?, start]
        rfl
      · simp [looksLikeTag, slash, letter, line, mark]

theorem steady_ending (mark : List Char) (fault : TemplateFault) (event : List Char → Event) (text rest more : List Char)
    (found : Event) (nonempty : mark ≠ []) (read : endingAt mark fault event text = (found, rest))
    (clear : found ≠ .fault fault) :
    rest <:+ text ∧ endingAt mark fault event (text ++ more) = (found, rest ++ more) := by
  unfold endingAt at read
  split at read
  · rename_i content tail cut
    cases read
    refine ⟨⟨content ++ mark, ?_⟩, ?_⟩
    · rw [Text.cut_parts cut, List.append_assoc]
    · rw [endingAt, Text.cut_append nonempty more cut]
  · cases read
    exact absurd rfl clear

theorem tag_either (text : List Char) (unsectioned : Text.after? "![CDATA[".toList text = none)
    (uncommented : Text.after? "!--".toList text = none) :
    tag text = (eitherTag? text).getD
      (if looksLikeTag text then (.fault (.malformedTag (String.ofList (('<' :: text).take 32))), [])
        else (.data ['<'], text)) := by
  by_cases slashed : text.head? = some '/'
  · obtain ⟨body, rfl⟩ := List.head?_eq_some_iff.mp slashed
    have opening : openingTag? ('/' :: body) = none := by rfl
    unfold tag
    simp only [unsectioned, uncommented, opening, Option.or_none, either_slash]
    cases closingTag? body with
    | none => rfl
    | some found => rfl
  · rw [either_opening text slashed, tag, unsectioned, uncommented]
    · simp only [Option.none_or]
      cases openingTag? text with
      | none => rfl
      | some found => rfl
    · rintro body rfl
      exact slashed rfl

theorem steady_tag (text rest : List Char) (event : Event) (read : tag text = (event, rest))
    (clear : ∀ cause, event ≠ .fault cause) :
    rest <:+ text ∧ ∀ more, tag (text ++ '<' :: more) = (event, rest ++ '<' :: more) := by
  have foreign (pattern : List Char) (absent : '<' ∉ pattern) (more : List Char) :=
    Text.after_foreign pattern text more '<' absent
  cases sectioned : Text.after? "![CDATA[".toList text with
  | some body =>
      have back : body <:+ text := ⟨_, ((Text.after_some_iff _ _ _).mp sectioned).symm⟩
      unfold tag at read ⊢
      simp only [sectioned, foreign "![CDATA[".toList (by decide), Option.map_some] at read ⊢
      have steady (more : List Char) := steady_ending _ _ _ _ _ more _ (by decide) read (clear _)
      exact ⟨(steady []).1.trans back, fun more => (steady ('<' :: more)).2⟩
  | none =>
      cases commented : Text.after? "!--".toList text with
      | some body =>
          have whole := (Text.after_some_iff _ _ _).mp commented
          have dropped (more : List Char) : (text ++ more).drop 1 = text.drop 1 ++ more := by
            rw [whole]
            rfl
          unfold tag at read ⊢
          simp only [sectioned, commented, foreign "![CDATA[".toList (by decide), foreign "!--".toList (by decide),
            Option.map_some, Option.map_none, dropped] at read ⊢
          have steady (more : List Char) := steady_ending _ _ _ _ _ more _ (by decide) read (clear _)
          exact ⟨(steady []).1.trans (List.drop_suffix _ _), fun more => (steady ('<' :: more)).2⟩
      | none =>
          have longer (more : List Char) := tag_either (text ++ '<' :: more)
            (by rw [foreign _ (by decide), sectioned]; rfl) (by rw [foreign _ (by decide), commented]; rfl)
          rw [tag_either text sectioned commented] at read
          cases found : eitherTag? text with
          | some pair =>
              rw [found] at read
              cases read
              obtain ⟨back, steady⟩ := steady_either _ _ _ found
              exact ⟨back, fun more => by rw [longer, steady more]; rfl⟩
          | none =>
              rw [found, Option.getD_none] at read
              cases bare : looksLikeTag text with
              | true =>
                  rw [bare, if_pos rfl] at read
                  cases read
                  exact absurd rfl (clear _)
              | false =>
                  rw [bare, if_neg Bool.false_ne_true] at read
                  cases read
                  refine ⟨List.suffix_rfl, fun more => ?_⟩
                  obtain ⟨none, again⟩ := bare_before _ more bare
                  rw [longer, none, again]
                  rfl

def Clear (events : List Event) : Prop := ∀ event ∈ events, ∀ cause, event ≠ .fault cause

theorem events_append (source more : List Char) (clear : Clear (events source)) :
    events (source ++ '<' :: more) = events source ++ events ('<' :: more) := by
  fun_induction events source with
  | case1 => rfl
  | case2 rest event tail read shorter ih =>
      obtain ⟨_, steady⟩ := steady_tag rest tail event read (clear event List.mem_cons_self)
      have bound : (tail ++ '<' :: more).length ≤ (rest ++ '<' :: more).length := by
        simpa only [List.length_append, Nat.add_le_add_iff_right] using shorter
      rw [List.cons_append, events_tag _ _ _ (steady more) bound,
        ih fun other member => clear other (List.mem_cons_of_mem _ member)]
      rfl
  | case3 rest event tail read long =>
      exact absurd (steady_tag rest tail event read (clear event List.mem_cons_self)).1.length_le long
  | case4 c rest plain run ih =>
      rw [List.cons_append, events_run c _ plain, Text.take_before _ _ _ _ (by decide), Text.drop_before _ _ _ _ (by decide),
        ih fun other member => clear other (List.mem_cons_of_mem _ member)]
      rfl

namespace Building

def within (outer : List Frame) (b : Building) : Building := { b with frames := b.frames ++ outer }

theorem add_within (outer : List Frame) (b next : Building) (event : Event) (added : b.add event = .ok next) :
    (b.within outer).add event = .ok (next.within outer) := by
  cases event with
  | data content =>
      cases added
      rfl
  | opening name attributes closed =>
      cases closed with
      | true =>
          cases added
          rfl
      | false =>
          cases added
          rfl
  | closing name =>
      unfold add at added ⊢
      cases frames : b.frames with
      | nil =>
          rw [frames] at added
          cases added
      | cons frame rest =>
          rw [frames] at added
          simp only [within, frames, List.cons_append]
          by_cases same : frame.name = name
          · simp only [if_pos same] at added ⊢
            cases added
            rfl
          · simp only [if_neg same] at added
            cases added
  | fault cause => cases added

theorem add_all_cons (b last : Building) (event : Event) (rest : List Event) :
    b.addAll (event :: rest) = .ok last ↔ ∃ next, b.add event = .ok next ∧ next.addAll rest = .ok last := by
  rw [addAll]
  cases b.add event with
  | error cause => simp
  | ok next => simp

theorem add_all_within (outer : List Frame) (b last : Building) (events : List Event)
    (added : b.addAll events = .ok last) : (b.within outer).addAll events = .ok (last.within outer) := by
  induction events generalizing b with
  | nil =>
      cases added
      rfl
  | cons event rest ih =>
      obtain ⟨next, own, later⟩ := (add_all_cons b last event rest).mp added
      exact (add_all_cons _ _ event rest).mpr ⟨_, add_within outer b next event own, ih next later⟩

theorem add_all_append (b middle : Building) (first second : List Event) (added : b.addAll first = .ok middle) :
    b.addAll (first ++ second) = middle.addAll second := by
  induction first generalizing b with
  | nil =>
      cases added
      rfl
  | cons event rest ih =>
      obtain ⟨next, own, later⟩ := (add_all_cons b middle event rest).mp added
      rw [List.cons_append, addAll, own]
      exact ih next later

theorem add_all_clear (b last : Building) (events : List Event) (added : b.addAll events = .ok last) : Clear events := by
  induction events generalizing b with
  | nil => exact fun event member => absurd member List.not_mem_nil
  | cons event rest ih =>
      obtain ⟨next, own, later⟩ := (add_all_cons b last event rest).mp added
      intro other member cause fault
      rcases List.mem_cons.mp member with rfl | behind
      · rw [fault] at own
        cases own
      · exact ih next later other behind cause fault

end Building

theorem parse_ok_iff (source : String) (children : List Markup) :
    parse source = .ok children ↔
      ∃ built, Building.empty.addAll (events source.toList) = .ok built ∧ built.frames = [] ∧
        built.flushed.reverse = children := by
  unfold parse
  cases Building.empty.addAll (events source.toList) with
  | error cause => simp
  | ok built =>
      simp only [Except.ok.injEq, exists_eq_left', Building.finish]
      cases built.frames with
      | nil => simp
      | cons frame rest => simp

theorem parse_wrapped (name source : String) (children : List Markup) (accepted : isName name.toList = true)
    (read : parse source = .ok children) :
    parse ("<" ++ name ++ ">" ++ source ++ "</" ++ name ++ ">") = .ok [.element name [] children] := by
  obtain ⟨built, added, framed, shown⟩ := (parse_ok_iff source children).mp read
  have written : ("<" ++ name ++ ">" ++ source ++ "</" ++ name ++ ">").toList =
      '<' :: (name.toList ++ '>' :: (source.toList ++ '<' :: '/' :: (name.toList ++ '>' :: []))) := by simp
  have opened := tag_opening name [] accepted (by simp) List.nodup_nil
    (source.toList ++ '<' :: '/' :: (name.toList ++ '>' :: []))
  rw [List.flatMap_nil, List.nil_append] at opened
  have closed := tag_closing name accepted []
  have clear := Building.empty.add_all_clear built _ added
  have whole : events ("<" ++ name ++ ">" ++ source ++ "</" ++ name ++ ">").toList =
      .opening name [] false :: (events source.toList ++ [.closing name]) := by
    rw [written, events_tag _ _ _ opened (by simp; omega), events_append _ _ clear,
      events_tag _ _ _ closed (by simp), events]
  -- The children are built inside the element, and finished by its closing tag.
  have inside := Building.empty.add_all_within [⟨name, [], []⟩] built _ added
  refine (parse_ok_iff _ _).mpr ⟨⟨[], [.element name [] children], []⟩, ?_, rfl, rfl⟩
  have joined := Building.add_all_append _ _ _ [.closing name] inside
  rw [whole, Building.addAll]
  refine joined.trans ?_
  rw [Building.addAll, Building.add]
  simp only [Building.within, framed, List.nil_append, if_pos, Building.addAll]
  rw [← shown]
  rfl

end Markup

end StatementMapper
