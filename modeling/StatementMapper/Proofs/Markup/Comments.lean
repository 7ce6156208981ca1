import StatementMapper.Proofs.Markup.Printing
import StatementMapper.Proofs.Text.Cutting

set_option autoImplicit false

/-! A comment is as good as absent exactly when its body starts with neither `>` nor `->`. -/

namespace StatementMapper.Markup

def Plain (text : List Char) : Prop := ∀ c ∈ text, c ≠ '<' ∧ c ≠ '&'

instance (text : List Char) : Decidable (Plain text) := List.decidableBAll (fun c => c ≠ '<' ∧ c ≠ '&') text

def commented (body : List Char) : List Char := "!--".toList ++ (body ++ "-->".toList)

-- What is left of a comment behind the first end that is found in it.
def leftover : List Char → List Char
  | '>' :: left => left ++ "-->".toList
  | '-' :: '>' :: left => left ++ "-->".toList
  | _ => []

-- A body whose start makes no end together with the first dashes of the comment.
structure EndsLate (body : List Char) : Prop where
  undashed : ¬ ['>'] <+: body
  dashed : ¬ ['-', '>'] <+: body

theorem leftover_cases (body : List Char) :
    (∃ left, (body = '>' :: left ∨ body = '-' :: '>' :: left) ∧ leftover body = left ++ "-->".toList) ∨
      EndsLate body ∧ leftover body = [] := by
  by_cases undashed : ['>'] <+: body
  · obtain ⟨left, rfl⟩ := undashed
    exact Or.inl ⟨left, Or.inl rfl, rfl⟩
  · by_cases dashed : ['-', '>'] <+: body
    · obtain ⟨left, rfl⟩ := dashed
      exact Or.inl ⟨left, Or.inr rfl, rfl⟩
    · refine Or.inr ⟨⟨undashed, dashed⟩, ?_⟩
      unfold leftover
      split
      · exact absurd ⟨_, rfl⟩ undashed
      · exact absurd ⟨_, rfl⟩ dashed
      · rfl

theorem leftover_nil_iff (body : List Char) : leftover body = [] ↔ EndsLate body := by
  rcases leftover_cases body with ⟨left, early, rest⟩ | ⟨late, none⟩
  · constructor
    · intro none
      rw [none] at rest
      exact absurd (List.append_eq_nil_iff.mp rest.symm).2 (by decide)
    · rintro ⟨undashed, dashed⟩
      rcases early with rfl | rfl
      · exact absurd ⟨left, rfl⟩ undashed
      · exact absurd ⟨left, rfl⟩ dashed
  · exact ⟨fun _ => late, fun _ => none⟩

theorem plain_append {left right : List Char} (first : Plain left) (second : Plain right) : Plain (left ++ right) :=
  fun c member => (List.mem_append.mp member).elim (first c) (second c)

theorem plain_suffix {left right : List Char} (plain : Plain right) (back : left <:+ right) : Plain left :=
  fun c member => plain c (back.subset member)

theorem leftover_plain (body : List Char) (plain : Plain body) : Plain (leftover body) := by
  have ends : Plain "-->".toList := by decide
  rcases leftover_cases body with ⟨left, early, rest⟩ | ⟨_, none⟩
  · have back : left <:+ body := by
      rcases early with rfl | rfl
      · exact ⟨['>'], rfl⟩
      · exact ⟨['-', '>'], rfl⟩
    rw [rest]
    exact plain_append (plain_suffix plain back) ends
  · rw [none]
    exact fun c member => absurd member List.not_mem_nil

theorem comment_end_unbordered : Text.Unbordered "-->".toList := by
  unfold Text.Unbordered
  decide

theorem tag_comment (rest before tail : List Char) (cut : Text.cut? "-->".toList ('-' :: '-' :: rest) = some (before, tail)) :
    tag ('!' :: '-' :: '-' :: rest) = (.data [], tail) := by
  have unsectioned : Text.after? "![CDATA[".toList ('!' :: '-' :: '-' :: rest) = none := by rfl
  have opened : Text.after? "!--".toList ('!' :: '-' :: '-' :: rest) = some rest := (Text.after_some_iff _ _ _).mpr rfl
  unfold tag
  simp only [unsectioned, opened, List.drop_succ_cons, List.drop_zero, endingAt, cut]

theorem dashes_free (body : List Char) (closed : ¬ "-->".toList <:+: body) (late : EndsLate body) :
    ¬ "-->".toList <:+: '-' :: '-' :: body := by
  intro inside
  rcases List.infix_cons_iff.mp inside with front | inside
  · obtain ⟨tail, shape⟩ := front
    exact late.undashed ⟨tail, (List.cons.inj (List.cons.inj shape).2).2⟩
  · rcases List.infix_cons_iff.mp inside with front | inside
    · obtain ⟨tail, shape⟩ := front
      exact late.dashed ⟨tail, (List.cons.inj shape).2⟩
    · exact closed inside

-- Where the end of a comment is found: at its own end, unless its first dashes and its body make one before.
theorem comment_reached (body tail : List Char) (closed : ¬ "-->".toList <:+: body) :
    ∃ before, Text.Reaches "-->".toList (leftover body ++ tail) ('-' :: '-' :: (body ++ ("-->".toList ++ tail))) before := by
  rcases leftover_cases body with ⟨left, early, rest⟩ | ⟨late, none⟩
  · rw [rest, List.append_assoc]
    rcases early with rfl | rfl
    · exact ⟨[], .here⟩
    · exact ⟨['-'], .past (by rfl) .here⟩
  · rw [none]
    exact ⟨_, Text.reaches_first comment_end_unbordered _ tail (dashes_free body closed late)⟩

theorem events_comment (body tail : List Char) (closed : ¬ "-->".toList <:+: body) :
    events ('<' :: (commented body ++ tail)) = .data [] :: events (leftover body ++ tail) := by
  obtain ⟨before, reached⟩ := comment_reached body tail closed
  have cut := Text.cut_of_reaches (by decide) reached
  have whole : commented body ++ tail = '!' :: '-' :: '-' :: (body ++ ("-->".toList ++ tail)) := by simp [commented]
  have bound := Text.cut_length cut
  rw [whole]
  refine events_tag _ _ _ (tag_comment _ _ _ cut) ?_
  simp only [List.length_cons] at bound ⊢
  omega

theorem add_all_plain (b : Building) (text rest : List Char) (plain : Plain text) :
    b.addAll (events (text ++ rest)) = { b with pending := b.pending ++ text }.addAll (events rest) := by
  induction text generalizing b with
  | nil => rw [List.nil_append, List.append_nil]
  | cons c more ih =>
      obtain ⟨untagged, unescaped⟩ := plain c List.mem_cons_self
      have step : b.addAll (events (c :: (more ++ rest))) =
          { b with pending := b.pending ++ [c] }.addAll (events (more ++ rest)) := by
        rw [events_run c _ untagged, decode_plain c _ unescaped]
        cases more ++ rest with
        | nil => simp [Building.addAll, Building.add, decode]
        | cons d others =>
            by_cases tagged : d = '<'
            · simp [tagged, Building.addAll, Building.add, decode]
            · rw [events_run d others tagged, List.takeWhile_cons_of_pos (by simpa using tagged),
                List.dropWhile_cons_of_pos (by simpa using tagged)]
              simp [Building.addAll, Building.add]
      rw [List.cons_append, step, ih _ fun d member => plain d (List.mem_cons_of_mem _ member), List.append_assoc]
      rfl

theorem parse_plain (text : List Char) (plain : Plain text) :
    parse (String.ofList text) = .ok (if text.isEmpty then [] else [.text (String.ofList text)]) := by
  have read := add_all_plain .empty text [] plain
  rw [List.append_nil] at read
  rw [parse, String.toList_ofList, read, events]
  cases text with
  | nil => rfl
  | cons c rest => rfl

theorem parse_plain_inj {left right : List Char} (first : Plain left) (second : Plain right)
    (same : parse (String.ofList left) = parse (String.ofList right)) : left = right := by
  rw [parse_plain left first, parse_plain right second] at same
  cases left with
  | nil =>
      cases right with
      | nil => rfl
      | cons d others => exact nomatch same
  | cons c rest =>
      cases right with
      | nil => exact nomatch same
      | cons d others =>
          have texts := (Markup.text.inj (List.cons.inj (Except.ok.inj same)).1)
          exact String.ofList_injective texts

theorem parse_silent (front : List Char) (rest other : List Char) (plain : Plain front)
    (silent : events rest = .data [] :: events other) :
    parse (String.ofList (front ++ rest)) = parse (String.ofList (front ++ other)) := by
  rw [parse, parse, String.toList_ofList, String.toList_ofList, add_all_plain _ _ _ plain, add_all_plain _ _ _ plain,
    silent]
  simp only [Building.addAll, Building.add, List.append_nil]

-- Whether nothing is left over can be seen where all of the source is plain.
theorem comment_read_as_leftover (before body after : String) (plain : Plain before.toList)
    (closed : ¬ "-->".toList <:+: body.toList) :
    parse (before ++ "<!--" ++ body ++ "-->" ++ after) =
      parse (before ++ String.ofList (leftover body.toList) ++ after) ∧
    (EndsLate body.toList → parse (before ++ "<!--" ++ body ++ "-->" ++ after) = parse (before ++ after)) ∧
    (Plain body.toList → Plain after.toList →
      (parse (before ++ "<!--" ++ body ++ "-->" ++ after) = parse (before ++ after) ↔ EndsLate body.toList)) := by
  have source : before ++ "<!--" ++ body ++ "-->" ++ after =
      String.ofList (before.toList ++ '<' :: (commented body.toList ++ after.toList)) := by
    rw [← String.toList_inj]
    simp [commented]
  have remains : before ++ String.ofList (leftover body.toList) ++ after =
      String.ofList (before.toList ++ (leftover body.toList ++ after.toList)) := by simp [String.append_assoc]
  have read : parse (before ++ "<!--" ++ body ++ "-->" ++ after) =
      parse (before ++ String.ofList (leftover body.toList) ++ after) := by
    rw [source, remains]
    exact parse_silent _ _ _ plain (events_comment _ _ closed)
  have traceless (late : EndsLate body.toList) :
      parse (before ++ "<!--" ++ body ++ "-->" ++ after) = parse (before ++ after) := by
    rw [read, (leftover_nil_iff _).mpr late]
    simp
  refine ⟨read, traceless, fun inside behind => ⟨fun same => ?_, traceless⟩⟩
  have without : before ++ after = String.ofList (before.toList ++ after.toList) := by simp
  rw [read, remains, without] at same
  have shown := plain_append plain (plain_append (leftover_plain _ inside) behind)
  have lengths := congrArg List.length (parse_plain_inj shown (plain_append plain behind) same)
  simp only [List.length_append] at lengths
  exact (leftover_nil_iff _).mp (List.length_eq_zero_iff.mp (by omega))

theorem shut_comment_shown :
    parse "a<!-->-->b" = .ok [.text "a-->b"] ∧ parse "a<!-->-->b" ≠ parse "ab" ∧ parse "a<!-- <b> & - -->b" = parse "ab" := by
  have first : Plain "a".toList := by decide
  have body : Plain ">".toList := by decide
  have last : Plain "b".toList := by decide
  obtain ⟨read, _, absent⟩ := comment_read_as_leftover "a" ">" "b" first (by decide)
  have left : parse ("a" ++ String.ofList (leftover ">".toList) ++ "b") = .ok [.text "a-->b"] :=
    parse_plain "a-->b".toList (by decide)
  refine ⟨read.trans left, fun same => ?_, ?_⟩
  · exact ((absent body last).mp same).undashed ⟨[], rfl⟩
  · exact (comment_read_as_leftover "a" " <b> & - " "b" first (by decide)).2.1 ⟨by decide, by decide⟩

end StatementMapper.Markup
