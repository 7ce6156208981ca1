import Mathlib
import StatementMapper.Proofs.Markup.Printing

set_option autoImplicit false

/-! The forests that reading gives are the normal ones, and each is read again from what it is printed as. -/

namespace StatementMapper.Markup

def printed (forest : List Markup) : String := String.ofList (printAll forest)

namespace Building

-- What a building is after events that stand for whole nodes: those are finished, and all around them is as it was.
structure Grown (before after : Building) (nodes : List Markup) : Prop where
  frames : after.frames = before.frames
  flushed : after.flushed = nodes.reverse ++ before.flushed

theorem flushed_of_none (b : Building) (none : b.pending = []) : b.flushed = b.nodes := by
  rw [flushed, none]
  rfl

mutual
theorem add_print (b : Building) (node : Markup) (normal : Normal node) (more : List Event)
    (apart : isText node = true → b.pending = []) :
    ∃ next, b.addAll (eventsOf node ++ more) = next.addAll more ∧ Grown b next [node] ∧
      (isText node = false → next.pending = []) := by
  cases node with
  | text content =>
      have none := apart rfl
      refine ⟨{ b with pending := b.pending ++ content.toList }, rfl, ⟨rfl, ?_⟩, fun element => nomatch element⟩
      have nonempty : (b.pending ++ content.toList).isEmpty = false := by
        rw [none, List.nil_append, List.isEmpty_eq_false_iff]
        exact normal
      rw [flushed, nonempty, flushed_of_none b none, none]
      simp
  | element name attributes children =>
      rw [Normal] at normal
      obtain ⟨_, _, _, inner⟩ := normal
      obtain ⟨last, added, grown⟩ := add_print_all ⟨⟨name, attributes, b.flushed⟩ :: b.frames, [], []⟩ children inner
        (.closing name :: more) (fun _ _ _ => rfl)
      refine ⟨⟨b.frames, .element name attributes children :: b.flushed, []⟩, ?_, ⟨rfl, rfl⟩, fun _ => rfl⟩
      rw [eventsOf, List.cons_append, List.append_assoc, List.singleton_append, addAll, add]
      simp only [added, addAll, add, grown.frames, grown.flushed]
      simp [flushed]
theorem add_print_all (b : Building) (forest : List Markup) (normal : AllNormal forest) (more : List Event)
    (apart : ∀ first ∈ forest.head?, isText first = true → b.pending = []) :
    ∃ next, b.addAll (eventsOfAll forest ++ more) = next.addAll more ∧ Grown b next forest := by
  cases forest with
  | nil => exact ⟨b, rfl, rfl, rfl⟩
  | cons node rest =>
      rw [AllNormal] at normal
      obtain ⟨own, alone, later⟩ := normal
      obtain ⟨middle, first, grown, ended⟩ := add_print b node own (eventsOfAll rest ++ more) (apart node rfl)
      obtain ⟨last, others, wider⟩ := add_print_all middle rest later more fun next there text => by
        cases kind : isText node with
        | true =>
            rw [alone kind next there] at text
            exact nomatch text
        | false => exact ended kind
      refine ⟨last, ?_, wider.frames.trans grown.frames, ?_⟩
      · rw [eventsOfAll, List.append_assoc, first, others]
      · rw [wider.flushed, grown.flushed, List.reverse_cons]
        simp
end

end Building

theorem parse_printed (forest : List Markup) (normal : AllNormal forest) : parse (printed forest) = .ok forest := by
  have read := events_print_all forest normal [] fun c there => nomatch there
  obtain ⟨last, added, grown⟩ := Building.empty.add_print_all forest normal [] fun _ _ _ => rfl
  rw [List.append_nil, events, List.append_nil] at read
  rw [List.append_nil] at added
  rw [parse, printed, String.toList_ofList, read, added]
  change last.finish = _
  rw [Building.finish, grown.frames, grown.flushed]
  simp [Building.empty, Building.flushed]

theorem all_normal_iff (forest : List Markup) :
    AllNormal forest ↔ (∀ node ∈ forest, Normal node) ∧
      forest.IsChain fun node next => isText node = true → isText next = false := by
  induction forest with
  | nil => simp [AllNormal]
  | cons node rest ih =>
      rw [AllNormal, ih, List.isChain_cons, List.forall_mem_cons]
      constructor
      · rintro ⟨own, alone, later, chain⟩
        exact ⟨⟨own, later⟩, fun next there text => alone text next there, chain⟩
      · rintro ⟨⟨own, later⟩, alone, chain⟩
        exact ⟨own, fun text next there => alone next there text, later, chain⟩

theorem all_normal_concat (forest : List Markup) (node : Markup) :
    AllNormal (forest ++ [node]) ↔
      AllNormal forest ∧ Normal node ∧ ∀ last ∈ forest.getLast?, isText last = true → isText node = false := by
  simp only [all_normal_iff, List.forall_mem_append, List.forall_mem_singleton, List.isChain_append,
    List.isChain_singleton, List.head?_cons, Option.mem_def, Option.some.injEq, forall_eq', true_and]
  constructor
  · rintro ⟨⟨all, own⟩, chain, alone⟩
    exact ⟨⟨all, chain⟩, own, alone⟩
  · rintro ⟨⟨all, chain⟩, own, alone⟩
    exact ⟨⟨all, own⟩, chain, alone⟩

-- The faults of markup: all that reading a tree can fail with.
def isOfMarkup : TemplateFault → Bool
  | .unterminatedCData | .unterminatedComment | .unexpectedClosing _ | .mismatchedClosing _ _ | .unclosedElement _
  | .duplicateAttribute _ | .malformedTag _ => true
  | _ => false

def Event.Sound : Event → Prop
  | .opening name attributes _ =>
    isName name.toList = true ∧ (∀ entry ∈ attributes, isName entry.1.toList = true) ∧ (attributes.map Prod.fst).Nodup
  | .fault cause => isOfMarkup cause = true
  | _ => True

theorem name_accepted (text name rest : List Char) (read : name? text = some (name, rest)) : isName name = true := by
  cases text with
  | nil => cases read
  | cons c more =>
      rw [name?] at read
      by_cases start : isNameStart c = true
      · rw [if_pos start] at read
        cases read
        exact Bool.and_eq_true_iff.mpr ⟨start, List.all_takeWhile⟩
      · rw [if_neg start] at read
        cases read

theorem attribute_named (text : List Char) (name value : String) (rest : List Char)
    (read : attribute? text = some (name, value, rest)) : isName name.toList = true := by
  unfold attribute? at read
  simp only at read
  split at read
  · exact nomatch read
  · obtain ⟨⟨found, after⟩, named, read⟩ := Option.bind_eq_some_iff.mp read
    split at read
    · obtain ⟨⟨value, tail⟩, _, read⟩ := Option.bind_eq_some_iff.mp read
      cases read
      rw [String.toList_ofList]
      exact name_accepted _ _ _ named
    · exact nomatch read

theorem attributes_named (text : List Char) : ∀ entry ∈ (attributes text).1, isName entry.1.toList = true := by
  fun_induction attributes text with
  | case1 text none => exact fun entry member => nomatch member
  | case2 text name value tail read shorter more rest others ih =>
      intro entry member
      rcases List.mem_cons.mp member with rfl | later
      · exact attribute_named _ _ _ _ read
      · rw [others] at ih
        exact ih entry later
  | case3 text name value tail read long => exact fun entry member => nomatch member

theorem opening_sound (text : List Char) (event : Event) (rest : List Char)
    (read : openingTag? text = some (event, rest)) : event.Sound := by
  unfold openingTag? at read
  obtain ⟨⟨name, after⟩, named, read⟩ := Option.bind_eq_some_iff.mp read
  have whole (once : repeated? [] (attributes after).1 = none) (closed : Bool) :
      (Event.opening (String.ofList name) (attributes after).1 closed).Sound := by
    refine ⟨?_, attributes_named after, ((repeated_none_iff [] _).mp once).1⟩
    rw [String.toList_ofList]
    exact name_accepted _ _ _ named
  simp only at read
  split at read
  · cases read
    split
    · rfl
    · exact whole ‹_› true
  · cases read
    split
    · rfl
    · exact whole ‹_› false
  · cases read

theorem closing_sound (text : List Char) (event : Event) (rest : List Char)
    (read : closingTag? text = some (event, rest)) : event.Sound := by
  unfold closingTag? at read
  obtain ⟨⟨name, after⟩, named, read⟩ := Option.bind_eq_some_iff.mp read
  simp only at read
  split at read
  · cases read
    exact trivial
  · exact nomatch read

theorem ending_sound (mark : List Char) (fault : TemplateFault) (event : List Char → Event) (text : List Char)
    (own : isOfMarkup fault = true) (sound : ∀ content, (event content).Sound) :
    (endingAt mark fault event text).1.Sound := by
  unfold endingAt
  split
  · exact sound _
  · exact own

theorem tag_sound (rest : List Char) : (tag rest).1.Sound := by
  unfold tag
  split
  · exact ending_sound _ _ _ _ rfl fun _ => trivial
  · split
    · exact ending_sound _ _ _ _ rfl fun _ => trivial
    · simp only
      split
      · rename_i found read
        rcases Option.or_eq_some_iff.mp read with closing | ⟨_, opening⟩
        · split at closing
          · exact closing_sound _ _ _ closing
          · cases closing
        · exact opening_sound _ _ _ opening
      · split
        · rfl
        · exact trivial

theorem events_sound (source : List Char) : ∀ event ∈ events source, event.Sound := by
  fun_induction events source with
  | case1 => exact fun event member => nomatch member
  | case2 rest event tail read shorter ih =>
      intro other member
      rcases List.mem_cons.mp member with rfl | later
      · have sound := tag_sound rest
        rwa [read] at sound
      · exact ih other later
  | case3 rest event tail read long =>
      intro other member
      rw [List.mem_singleton.mp member]
      have sound := tag_sound rest
      rwa [read] at sound
  | case4 c rest plain run ih =>
      intro other member
      rcases List.mem_cons.mp member with rfl | later
      · exact trivial
      · exact ih other later

namespace Building

-- The finished nodes are normal and end with an element, for the text behind them is still pending.
structure Sound (b : Building) : Prop where
  nodes : AllNormal b.nodes.reverse
  element : ∀ last ∈ b.nodes.head?, isText last = false
  frames : ∀ frame ∈ b.frames, (Event.opening frame.name frame.attributes false).Sound ∧ AllNormal frame.before.reverse

theorem flushed_normal (b : Building) (sound : b.Sound) : AllNormal b.flushed.reverse := by
  unfold flushed
  cases pending : b.pending with
  | nil => exact sound.nodes
  | cons c rest =>
      rw [List.isEmpty_cons, if_neg Bool.false_ne_true, List.reverse_cons, all_normal_concat]
      refine ⟨sound.nodes, by simp [Normal], fun last there text => ?_⟩
      rw [List.getLast?_reverse] at there
      rw [sound.element last there] at text
      exact nomatch text

theorem sound_element (name : String) (attributes : List (String × String)) (children before : List Markup)
    (opening : (Event.opening name attributes false).Sound) (inner : AllNormal children) (outer : AllNormal before.reverse) :
    AllNormal (Markup.element name attributes children :: before).reverse := by
  rw [List.reverse_cons, all_normal_concat, Normal]
  exact ⟨outer, ⟨opening.1, opening.2.1, opening.2.2, inner⟩, fun _ _ _ => rfl⟩

theorem add_sound (b next : Building) (event : Event) (sound : b.Sound) (known : event.Sound)
    (added : b.add event = .ok next) : next.Sound := by
  have outer := b.flushed_normal sound
  cases event with
  | data content =>
      cases added
      exact ⟨sound.nodes, sound.element, sound.frames⟩
  | opening name attributes closed =>
      cases closed with
      | true =>
          cases added
          refine ⟨sound_element _ _ _ _ known trivial outer, ?_, sound.frames⟩
          rintro last ⟨⟩
          rfl
      | false =>
          cases added
          refine ⟨trivial, fun last there => (nomatch there), fun frame member => ?_⟩
          rcases List.mem_cons.mp member with rfl | earlier
          · exact ⟨known, outer⟩
          · exact sound.frames frame earlier
  | closing name =>
      rw [add] at added
      cases frames : b.frames with
      | nil =>
          rw [frames] at added
          exact nomatch added
      | cons frame rest =>
          simp only [frames] at added
          split at added
          · cases added
            obtain ⟨opening, before⟩ := sound.frames frame (by rw [frames]; exact List.mem_cons_self)
            refine ⟨sound_element _ _ _ _ opening outer before, ?_, fun other member => ?_⟩
            · rintro last ⟨⟩
              rfl
            · exact sound.frames other (by rw [frames]; exact List.mem_cons_of_mem _ member)
          · exact nomatch added
  | fault cause => exact nomatch added

theorem add_all_sound (b last : Building) (events : List Event) (sound : b.Sound) (known : ∀ event ∈ events, event.Sound)
    (added : b.addAll events = .ok last) : last.Sound := by
  induction events generalizing b with
  | nil =>
      cases added
      exact sound
  | cons event rest ih =>
      rw [addAll] at added
      cases own : b.add event with
      | error cause =>
          rw [own] at added
          exact nomatch added
      | ok next =>
          rw [own] at added
          have stays := b.add_sound next event sound (known event List.mem_cons_self) own
          exact ih next stays (fun other member => known other (List.mem_cons_of_mem _ member)) added

theorem add_fault (b : Building) (event : Event) (known : event.Sound) (cause : TemplateFault)
    (failed : b.add event = .error cause) : isOfMarkup cause = true := by
  cases event with
  | data content => cases failed
  | opening name attributes closed =>
      cases closed with
      | true => cases failed
      | false => cases failed
  | closing name =>
      rw [add] at failed
      split at failed
      · cases failed
        rfl
      · split at failed
        · cases failed
        · cases failed
          rfl
  | fault own =>
      cases failed
      exact known

theorem add_all_fault (b : Building) (events : List Event) (known : ∀ event ∈ events, event.Sound) (cause : TemplateFault)
    (failed : b.addAll events = .error cause) : isOfMarkup cause = true := by
  induction events generalizing b with
  | nil => cases failed
  | cons event rest ih =>
      rw [addAll] at failed
      cases own : b.add event with
      | error first =>
          rw [own] at failed
          cases failed
          exact b.add_fault event (known event List.mem_cons_self) cause own
      | ok next =>
          rw [own] at failed
          exact ih next (fun other member => known other (List.mem_cons_of_mem _ member)) failed

end Building

theorem parse_fault (source : String) (cause : TemplateFault) (failed : parse source = .error cause) :
    isOfMarkup cause = true := by
  unfold parse at failed
  cases added : Building.empty.addAll (events source.toList) with
  | error first =>
      rw [added] at failed
      cases failed
      exact Building.empty.add_all_fault _ (events_sound source.toList) cause added
  | ok last =>
      rw [added] at failed
      change last.finish = _ at failed
      unfold Building.finish at failed
      split at failed
      · cases failed
      · cases failed
        rfl

theorem parse_normal (source : String) (forest : List Markup) (read : parse source = .ok forest) : AllNormal forest := by
  unfold parse at read
  cases added : Building.empty.addAll (events source.toList) with
  | error cause =>
      rw [added] at read
      exact nomatch read
  | ok last =>
      have fresh : Building.empty.Sound := ⟨trivial, fun _ there => (nomatch there), fun _ member => (nomatch member)⟩
      have sound := Building.empty.add_all_sound last _ fresh (events_sound source.toList) added
      rw [added] at read
      change last.finish = _ at read
      unfold Building.finish at read
      split at read
      · cases read
        exact last.flushed_normal sound
      · exact nomatch read

theorem normal_iff_read_back :
    (∀ forest, AllNormal forest ↔ parse (printed forest) = .ok forest) ∧
      ∀ source forest, parse source = .ok forest → AllNormal forest ∧ parse (printed forest) = parse source := by
  refine ⟨fun forest => ⟨parse_printed forest, parse_normal (printed forest) forest⟩, fun source forest read => ?_⟩
  have normal := parse_normal source forest read
  exact ⟨normal, (parse_printed forest normal).trans read.symm⟩

def noted : List Markup :=
  [.text "a < b ", .element "if" [("test", "x > \"1\"")] [.text "c", .element "br" [] [], .text "d"]]

-- A source with a comment, a section, a reference and a tag that closes itself.
theorem noted_read :
    parse "a &lt; <!-- n --><![CDATA[b ]]><if test='x > &#34;1\"'>c<br />d</if>" = .ok noted := by
  cbv

theorem noted_read_back : AllNormal noted ∧ parse (printed noted) = .ok noted := by
  obtain ⟨normal, again⟩ := normal_iff_read_back.2 _ noted noted_read
  exact ⟨normal, again.trans noted_read⟩

example : printed noted = "a &lt; b <if test=\"x &gt; &quot;1&quot;\">c<br></br>d</if>" := by decide

end StatementMapper.Markup
