import StatementMapper.Proofs.Expr.Places

set_option autoImplicit false

/-! Backticks come in pairs around whole words: those that are neither keywords on their own nor called methods. -/

namespace StatementMapper.Expr

structure SegmentAt (before word after : List Char) : Prop where
  whole : WordAt before word after
  free : isKeyword before.getLast? word after = false
  uncalled : isCalled before.getLast? after = false

inductive Stretch where
  | bare (text : List Char)
  | ticked (word : List Char)

namespace Stretch

def plain : Stretch → List Char
  | bare text => text
  | ticked word => word

def written : Stretch → List Char
  | bare text => text
  | ticked word => backticked word

end Stretch

def Encloses (stretches : List Stretch) (before word after : List Char) : Prop :=
  ∃ earlier later, stretches = earlier ++ .ticked word :: later ∧ before = earlier.flatMap Stretch.plain ∧
    after = later.flatMap Stretch.plain

theorem encloses_nil (before word after : List Char) : ¬ Encloses [] before word after := by
  rintro ⟨earlier, later, shape, _⟩
  simp at shape

theorem encloses_bare (run : List Char) (more : List Stretch) (before word after : List Char) :
    Encloses (.bare run :: more) before word after ↔ ∃ front, before = run ++ front ∧ Encloses more front word after := by
  constructor
  · rintro ⟨earlier, later, shape, rfl, rfl⟩
    cases earlier with
    | nil => cases shape
    | cons first others =>
        cases shape
        exact ⟨_, rfl, others, later, rfl, rfl, rfl⟩
  · rintro ⟨front, rfl, earlier, later, rfl, rfl, rfl⟩
    exact ⟨.bare run :: earlier, later, rfl, rfl, rfl⟩

theorem encloses_ticked (own : List Char) (more : List Stretch) (before word after : List Char) :
    Encloses (.ticked own :: more) before word after ↔
      before = [] ∧ word = own ∧ after = more.flatMap Stretch.plain ∨
        ∃ front, before = own ++ front ∧ Encloses more front word after := by
  constructor
  · rintro ⟨earlier, later, shape, rfl, rfl⟩
    cases earlier with
    | nil =>
        cases shape
        exact Or.inl ⟨rfl, rfl, rfl⟩
    | cons first others =>
        cases shape
        exact Or.inr ⟨_, rfl, others, later, rfl, rfl, rfl⟩
  · rintro (⟨rfl, rfl, rfl⟩ | ⟨front, rfl, earlier, later, rfl, rfl, rfl⟩)
    · exact ⟨[], more, rfl, rfl, rfl⟩
    · exact ⟨.ticked own :: earlier, later, rfl, rfl, rfl⟩

-- Stretches of what follows in a source, with the segments of paths between backticks and no others.
structure Stretched (before text written : List Char) (stretches : List Stretch) : Prop where
  plain : stretches.flatMap Stretch.plain = text
  written : stretches.flatMap Stretch.written = written
  encloses : ∀ front word after,
    Encloses stretches front word after ↔ text = front ++ (word ++ after) ∧ SegmentAt (before ++ front) word after

theorem stretched_nil (before : List Char) : Stretched before [] [] [] := by
  refine ⟨rfl, rfl, fun front word after => iff_of_false (encloses_nil front word after) ?_⟩
  rintro ⟨shape, segment⟩
  obtain ⟨_, rest⟩ := List.append_eq_nil_iff.mp shape.symm
  exact segment.whole.nonempty (List.append_eq_nil_iff.mp rest).1

theorem stretched_bare {before run rest written : List Char} {stretches : List Stretch}
    (behind : ∀ front word after, run ++ rest = front ++ (word ++ after) → SegmentAt (before ++ front) word after →
      ∃ more, front = run ++ more)
    (later : Stretched (before ++ run) rest written stretches) :
    Stretched before (run ++ rest) (run ++ written) (.bare run :: stretches) := by
  refine ⟨?_, ?_, fun front word after => ?_⟩
  · rw [List.flatMap_cons, later.plain]
    rfl
  · rw [List.flatMap_cons, later.written]
    rfl
  · rw [encloses_bare]
    constructor
    · rintro ⟨more, rfl, enclosed⟩
      obtain ⟨shape, segment⟩ := (later.encloses more word after).mp enclosed
      rw [List.append_assoc] at segment ⊢
      exact ⟨congrArg (run ++ ·) shape, segment⟩
    · rintro ⟨shape, segment⟩
      obtain ⟨more, rfl⟩ := behind front word after shape segment
      rw [List.append_assoc] at shape
      rw [← List.append_assoc] at segment
      exact ⟨more, rfl, (later.encloses more word after).mpr ⟨List.append_cancel_left shape, segment⟩⟩

theorem stretched_ticked {before word rest written : List Char} {stretches : List Stretch} (own : SegmentAt before word rest)
    (later : Stretched (before ++ word) rest written stretches) :
    Stretched before (word ++ rest) (backticked word ++ written) (.ticked word :: stretches) := by
  refine ⟨?_, ?_, fun front other after => ?_⟩
  · rw [List.flatMap_cons, later.plain]
    rfl
  · rw [List.flatMap_cons, later.written]
    rfl
  · rw [encloses_ticked, later.plain]
    constructor
    · rintro (⟨rfl, rfl, rfl⟩ | ⟨more, rfl, enclosed⟩)
      · rw [List.append_nil]
        exact ⟨rfl, own⟩
      · obtain ⟨shape, segment⟩ := (later.encloses more other after).mp enclosed
        rw [List.append_assoc] at segment ⊢
        exact ⟨congrArg (word ++ ·) shape, segment⟩
    · rintro ⟨shape, segment⟩
      rcases word_elsewhere own.whole segment.whole shape with same | ⟨more, rfl, rest⟩
      · exact Or.inl same
      · rw [← List.append_assoc] at segment
        exact Or.inr ⟨more, rfl, (later.encloses more other after).mpr ⟨rest, segment⟩⟩

theorem behind_outside {before run rest : List Char}
    (outside : ∀ front c back, run = front ++ c :: back → placeOf (before ++ front ++ [c]) ≠ .word)
    (front word after : List Char) (shape : run ++ rest = front ++ (word ++ after))
    (segment : SegmentAt (before ++ front) word after) :
    ∃ more, front = run ++ more := by
  rcases List.append_eq_append_iff.mp shape with ⟨more, rfl, _⟩ | ⟨more, rfl, back⟩
  · exact ⟨more, rfl⟩
  · cases more with
    | nil => exact ⟨[], by rw [List.append_nil, List.append_nil]⟩
    | cons c others =>
        obtain ⟨d, letters, rfl⟩ := List.exists_cons_of_ne_nil segment.whole.nonempty
        obtain ⟨rfl, _⟩ := List.cons_eq_cons.mp back
        have inside := segment.whole.inside [d] letters rfl (List.cons_ne_nil d [])
        exact absurd inside (outside front d others rfl)

theorem behind_word {before own rest : List Char} (there : WordAt before own rest)
    (other : isCalled before.getLast? rest = true ∨ isKeyword before.getLast? own rest = true) (front word after : List Char)
    (shape : own ++ rest = front ++ (word ++ after)) (segment : SegmentAt (before ++ front) word after) :
    ∃ more, front = own ++ more := by
  rcases word_elsewhere there segment.whole shape with ⟨rfl, rfl, rfl⟩ | ⟨more, rfl, _⟩
  · have free := segment.free
    have uncalled := segment.uncalled
    rw [List.append_nil] at free uncalled
    rcases other with called | keyword
    · rw [called] at uncalled
      cases uncalled
    · rw [keyword] at free
      cases free
  · exact ⟨more, rfl⟩

-- How far a source has been read: the text that is open, and whether a dot was written last.
structure Reads (quote last : Option Char) (before rest : List Char) : Prop where
  place : match quote with
    | some mark => placeOf before = .text mark
    | none => (placeOf before).Stops rest
  dotted : last = some '.' ↔ before.getLast? = some '.'

theorem reads_on (before : List Char) (c : Char) (rest : List Char) (quote : Option Char)
    (place : match quote with
      | some mark => placeOf (before ++ [c]) = .text mark
      | none => (placeOf (before ++ [c])).Stops rest) : Reads quote (some c) (before ++ [c]) rest :=
  ⟨place, by rw [List.getLast?_concat]⟩

theorem stops_between {before : List Char} (between : placeOf before = .between) (rest : List Char) :
    (placeOf before).Stops rest := by
  rw [between]
  exact fun _ _ => trivial

theorem stretched_single {before rest written : List Char} {stretches : List Stretch} {c : Char}
    (outside : placeOf (before ++ [c]) ≠ .word) (later : Stretched (before ++ [c]) rest written stretches) :
    Stretched before (c :: rest) (c :: written) (.bare [c] :: stretches) := by
  have only : ∀ front d back, [c] = front ++ d :: back → placeOf (before ++ front ++ [d]) ≠ .word := by
    intro front d back shape
    cases front with
    | nil =>
        cases shape
        rwa [List.append_nil]
    | cons first others => simp at shape
  exact stretched_bare (behind_outside only) later

-- Only a dot that was written last decides how a word is written.
theorem Reads.behind_dot {quote last : Option Char} {before rest : List Char} (reads : Reads quote last before rest) :
    (last == some '.') = (before.getLast? == some '.') := Bool.eq_iff_iff.mpr (by simpa using reads.dotted)

theorem Reads.called {quote last : Option Char} {before rest : List Char} (reads : Reads quote last before rest)
    (tail : List Char) : isCalled last tail = isCalled before.getLast? tail := by
  rw [isCalled, isCalled, reads.behind_dot]

theorem Reads.keyword {quote last : Option Char} {before rest : List Char} (reads : Reads quote last before rest)
    (word tail : List Char) : isKeyword last word tail = isKeyword before.getLast? word tail := by
  rw [isKeyword, isKeyword]
  simp only [bne, reads.behind_dot]

-- A number and a word go over as a whole; behind them the place is still theirs until the next character leaves it.
theorem quote_paths_stretched (quote last : Option Char) (before text : List Char) (unticked : '`' ∉ text)
    (reads : Reads quote last before text) :
    ∃ stretches, Stretched before text (quotePaths quote last text) stretches := by
  fun_induction quotePaths quote last text generalizing before with
  | case1 quote last => exact ⟨[], stretched_nil before⟩
  | case2 last c rest mark ih =>
      have place : placeOf (before ++ [c]) = if c = mark then .between else .text mark := by
        rw [place_concat, reads.place]
        rfl
      have goes : Reads (if c = mark then none else some mark) (some c) (before ++ [c]) rest := by
        refine reads_on before c rest _ ?_
        by_cases closes : c = mark
        · rw [if_pos closes] at place
          simp only [if_pos closes]
          exact stops_between place rest
        · rw [if_neg closes] at place
          simpa only [if_neg closes] using place
      have outside : placeOf (before ++ [c]) ≠ .word := by
        rw [place_concat, reads.place]
        exact Place.next_text mark c
      obtain ⟨stretches, later⟩ := ih (before ++ [c]) (fun member => unticked (List.mem_cons_of_mem _ member)) goes
      exact ⟨_, stretched_single outside later⟩
  | case3 last c rest region ih =>
      have other : (c == '`') = false := beq_eq_false_iff_ne.mpr fun same => unticked (same ▸ List.mem_cons_self)
      have quotation : isQuotation c = true := by rwa [isRegionMark, other, Bool.or_false] at region
      have place : placeOf (before ++ [c]) = .text c := by
        rw [place_concat, Place.next_stopped reads.place]
        exact if_pos quotation
      obtain ⟨stretches, later⟩ := ih (before ++ [c]) (fun member => unticked (List.mem_cons_of_mem _ member))
        (reads_on before c rest (some c) place)
      exact ⟨_, stretched_single (by simp [place]) later⟩
  | case4 previous c rest region digit run ih =>
      have inside := number_here reads.place digit
      have whole : placeOf (before ++ run) = .number := inside run [] (List.append_nil _).symm (List.cons_ne_nil _ _)
      have last : (before ++ run).getLast? = run.getLast? := List.getLast?_append_of_ne_nil _ (List.cons_ne_nil _ _)
      have cut : c :: rest = run ++ rest.dropWhile isNumberPart :=
        congrArg (List.cons c) List.takeWhile_append_dropWhile.symm
      obtain ⟨stretches, later⟩ := ih (before ++ run)
        (fun member => unticked (List.mem_cons_of_mem _ ((List.dropWhile_sublist _).subset member)))
        ⟨by simpa only [whole] using Place.number_stops rest, by rw [last]⟩
      rw [cut]
      refine ⟨_, stretched_bare (behind_outside fun front d back shape => ?_) later⟩
      rw [List.append_assoc, inside (front ++ [d]) back (by rw [← List.append_cons]; exact shape) (by simp)]
      decide
  | case5 previous c rest region digit start word tail written ih =>
      have whole : WordAt before word tail := word_here reads.place start
      have stops : (placeOf (before ++ word)).Stops tail := by
        rw [whole.reached]
        exact Place.word_stops rest
      have absent : '`' ∉ tail := fun member => unticked (List.mem_cons_of_mem _ ((List.dropWhile_sublist _).subset member))
      have last : (before ++ word).getLast? = word.getLast? := List.getLast?_append_of_ne_nil _ (List.cons_ne_nil _ _)
      have cut : c :: rest = word ++ tail := congrArg (List.cons c) List.takeWhile_append_dropWhile.symm
      rw [cut]
      by_cases bare : (isCalled previous tail || isKeyword previous word tail) = true
      · have same : written = word := if_pos bare
        rw [reads.called, reads.keyword, Bool.or_eq_true] at bare
        obtain ⟨stretches, later⟩ := ih (before ++ word) absent ⟨stops, by rw [same, last]⟩
        rw [same] at later ⊢
        exact ⟨_, stretched_bare (behind_word whole bare) later⟩
      · have same : written = backticked word := if_neg bare
        rw [reads.called, reads.keyword, Bool.not_eq_true, Bool.or_eq_false_iff] at bare
        obtain ⟨stretches, later⟩ := ih (before ++ word) absent
          ⟨stops, by rw [same, backticked_last]; exact iff_of_false (by decide) whole.undotted⟩
        rw [same] at later ⊢
        exact ⟨_, stretched_ticked ⟨whole, bare.2, bare.1⟩ later⟩
  | case6 last c rest region digit start ih =>
      have unquoted : ¬ isQuotation c = true := fun quotation => region (Bool.or_eq_true_iff.mpr (Or.inl quotation))
      have place : placeOf (before ++ [c]) = .between := by
        rw [place_concat, Place.next_stopped reads.place, Place.enter, if_neg unquoted, if_neg digit, if_neg start]
      obtain ⟨stretches, later⟩ := ih (before ++ [c]) (fun member => unticked (List.mem_cons_of_mem _ member))
        (reads_on before c rest none (stops_between place rest))
      exact ⟨_, stretched_single (by simp [place]) later⟩

def Inside (before after : List Char) : Prop :=
  (leftOpen before).isSome = true ∨ placeOf before = .number ∧ ∃ c ∈ after.head?, placeOf (before ++ [c]) = .number

theorem outside_before {before word after : List Char} (own : WordAt before word after) : ¬ Inside before (word ++ after) := by
  obtain ⟨c, rest, rfl⟩ := List.exists_cons_of_ne_nil own.nonempty
  have first := own.inside [c] rest rfl (List.cons_ne_nil c [])
  rintro (opened | ⟨_, d, next, number⟩)
  · rw [← place_open] at opened
    rw [place_concat] at first
    cases place : placeOf before with
    | text mark =>
        rw [place] at first
        exact Place.next_text mark c first
    | _ =>
        rw [place] at opened
        cases opened
  · cases next
    rw [first] at number
    cases number

theorem outside_behind {before word after : List Char} (own : WordAt before word after) : ¬ Inside (before ++ word) after := by
  rintro (opened | ⟨number, _⟩)
  · rw [← place_open, own.reached] at opened
    cases opened
  · rw [own.reached] at number
    cases number

theorem Stretch.written_filter (stretch : Stretch) :
    stretch.written.filter (· != '`') = stretch.plain.filter (· != '`') := by
  cases stretch <;> simp [written, plain, backticked]

theorem unticked_written (stretches : List Stretch) (unticked : '`' ∉ stretches.flatMap Stretch.plain) :
    (stretches.flatMap Stretch.written).filter (· != '`') = stretches.flatMap Stretch.plain := by
  induction stretches with
  | nil => rfl
  | cons stretch more ih =>
      rw [List.flatMap_cons, List.mem_append, not_or] at unticked
      have kept : stretch.plain.filter (· != '`') = stretch.plain := by
        refine List.filter_eq_self.mpr fun c member => bne_iff_ne.mpr ?_
        rintro rfl
        exact unticked.1 member
      rw [List.flatMap_cons, List.flatMap_cons, List.filter_append, ih unticked.2, stretch.written_filter, kept]

theorem paths_ticked (source : List Char) (unticked : '`' ∉ source) :
    (quotePaths none none source).filter (· != '`') = source ∧
      ∃ stretches, stretches.flatMap Stretch.plain = source ∧
        quotePaths none none source = stretches.flatMap Stretch.written ∧
        (∀ before word after, Encloses stretches before word after ↔
          source = before ++ (word ++ after) ∧ SegmentAt before word after) ∧
        ∀ before word after, Encloses stretches before word after →
          ¬ Inside before (word ++ after) ∧ ¬ Inside (before ++ word) after := by
  have start : Reads none none [] source := ⟨stops_between rfl source, iff_of_false (by decide) (by decide)⟩
  obtain ⟨stretches, stretched⟩ := quote_paths_stretched none none [] source unticked start
  have erased := unticked_written stretches (stretched.plain.symm ▸ unticked)
  rw [stretched.written, stretched.plain] at erased
  refine ⟨erased, stretches, stretched.plain, stretched.written.symm, stretched.encloses, fun before word after enclosed => ?_⟩
  obtain ⟨_, segment⟩ := (stretched.encloses before word after).mp enclosed
  exact ⟨outside_before segment.whole, outside_behind segment.whole⟩

namespace Condition

def source : List Char := "user.name != 'user' and ids.size() > 1.5".toList

-- The first `user` is a segment of a path; the second stands in a text, `and` is a keyword and `size` a method.
theorem condition_ticked :
    '`' ∉ source ∧ (quotePaths none none source).filter (· != '`') = source ∧
      ∃ stretches, quotePaths none none source = stretches.flatMap Stretch.written ∧
        Encloses stretches [] "user".toList (source.drop 4) ∧
        Encloses stretches (source.take 24) "ids".toList (source.drop 27) ∧
        ¬ Encloses stretches (source.take 14) "user".toList (source.drop 18) ∧
        ¬ Encloses stretches (source.take 20) "and".toList (source.drop 23) ∧
        ¬ Encloses stretches (source.take 28) "size".toList (source.drop 32) := by
  have unticked : '`' ∉ source := by decide
  obtain ⟨erased, stretches, _, written, enclosed, _⟩ := paths_ticked source unticked
  have first : (placeOf []).Stops ('u' :: source.drop 1) := stops_between rfl _
  have user : WordAt [] "user".toList (source.drop 4) := word_here first (by decide)
  have second : (placeOf (source.take 24)).Stops ('i' :: source.drop 25) := stops_between (by decide) _
  have ids : WordAt (source.take 24) "ids".toList (source.drop 27) := word_here second (by decide)
  refine ⟨unticked, erased, stretches, written, ?_, ?_, fun there => ?_, fun there => ?_, fun there => ?_⟩
  · exact (enclosed _ _ _).mpr ⟨by decide, user, by decide, by decide⟩
  · exact (enclosed _ _ _).mpr ⟨by decide, ids, by decide, by decide⟩
  · have segment := ((enclosed _ _ _).mp there).2
    exact absurd (segment.whole.inside ['u'] "ser".toList (by decide) (by decide)) (by decide)
  · have segment := ((enclosed _ _ _).mp there).2
    exact absurd segment.free (by decide)
  · have segment := ((enclosed _ _ _).mp there).2
    exact absurd segment.uncalled (by decide)

example : String.ofList (quotePaths none none source) = "`user`.`name` != 'user' and `ids`.size() > 1.5" := by decide +kernel

end Condition

end StatementMapper.Expr
