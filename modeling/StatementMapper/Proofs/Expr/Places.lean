import StatementMapper.Proofs.Expr.Regions

set_option autoImplicit false

/-! Where the characters of a source lie: in texts, in numbers, in words, or between these. -/

namespace StatementMapper.Expr

inductive Place where
  | between
  | text (mark : Char)
  | number
  | word
deriving DecidableEq, Repr

namespace Place

def enter (c : Char) : Place :=
  if isQuotation c then .text c else if c.isDigit then .number else if isWordStart c then .word else .between

def next (place : Place) (c : Char) : Place :=
  match place with
  | between => enter c
  | text mark => if c = mark then .between else .text mark
  | number => if isNumberPart c then .number else enter c
  | word => if isWordPart c then .word else enter c

def quote? : Place → Option Char
  | text mark => some mark
  | _ => none

-- A place stops in front of a text that does not go on with it.
def Stops (place : Place) (rest : List Char) : Prop :=
  ∀ c ∈ rest.head?, match place with
    | between => True
    | text _ => False
    | number => isNumberPart c = false
    | word => isWordPart c = false

theorem enter_word_iff (c : Char) : enter c = .word ↔ isWordStart c = true := by
  unfold enter
  constructor
  · intro entered
    by_cases quotation : isQuotation c = true
    · rw [if_pos quotation] at entered
      cases entered
    · rw [if_neg quotation] at entered
      by_cases digit : c.isDigit = true
      · rw [if_pos digit] at entered
        cases entered
      · rw [if_neg digit] at entered
        by_cases start : isWordStart c = true
        · exact start
        · rw [if_neg start] at entered
          cases entered
  · intro start
    have unquoted : isQuotation c = false := (Bool.or_eq_false_iff.mp (start_unmarked c start)).1
    rw [unquoted, start_undigit c start, start]
    rfl

theorem next_word_iff (c : Char) : next .word c = .word ↔ isWordPart c = true := by
  by_cases part : isWordPart c = true
  · exact iff_of_true (if_pos part) part
  · refine iff_of_false (fun same => part ?_) part
    have entered : enter c = .word := (if_neg part).symm.trans same
    exact part_of_start c ((enter_word_iff c).mp entered)

theorem next_stopped {place : Place} {c : Char} {rest : List Char} (stops : place.Stops (c :: rest)) :
    place.next c = enter c := by
  have stopped := stops c rfl
  cases place with
  | between => rfl
  | text mark => exact stopped.elim
  | number => exact if_neg (Bool.eq_false_iff.mp stopped)
  | word => exact if_neg (Bool.eq_false_iff.mp stopped)

theorem stopped_outside {place : Place} {c : Char} {rest : List Char} (stops : place.Stops (c :: rest))
    (part : isWordPart c = true) : place ≠ .word := by
  rintro rfl
  have stopped : isWordPart c = false := stops c rfl
  rw [part] at stopped
  cases stopped

theorem enter_open (c : Char) : (enter c).quote? = track none c := by
  unfold enter track
  by_cases quotation : isQuotation c = true
  · simp only [if_pos quotation]
    rfl
  · simp only [if_neg quotation]
    by_cases digit : c.isDigit = true
    · rw [if_pos digit]
      rfl
    · rw [if_neg digit]
      by_cases start : isWordStart c = true
      · rw [if_pos start]
        rfl
      · rw [if_neg start]
        rfl

theorem quotation_apart (c : Char) (quotation : isQuotation c = true) : isNumberPart c = false ∧ isWordPart c = false := by
  rcases Bool.or_eq_true_iff.mp quotation with same | same <;> rw [eq_of_beq same] <;> decide

theorem next_open (place : Place) (c : Char) : (place.next c).quote? = track place.quote? c := by
  have within (inside : Char → Bool) (stay : Place) (closed : stay.quote? = none)
      (apart : isQuotation c = true → inside c = false) :
      (if inside c then stay else enter c).quote? = track none c := by
    by_cases part : inside c = true
    · have unquoted : ¬ isQuotation c = true := fun quotation => by simp [apart quotation] at part
      rw [if_pos part, closed]
      exact (if_neg unquoted).symm
    · rw [if_neg part]
      exact enter_open c
  cases place with
  | between => exact enter_open c
  | text mark =>
      by_cases closes : c = mark
      · simp [next, track, quote?, closes]
      · simp [next, track, quote?, closes]
  | number => exact within isNumberPart .number rfl fun quotation => (quotation_apart c quotation).1
  | word => exact within isWordPart .word rfl fun quotation => (quotation_apart c quotation).2

theorem next_text (mark c : Char) : next (.text mark) c ≠ .word := by
  intro continues
  by_cases closes : c = mark
  · have closed : next (.text mark) c = .between := if_pos closes
    rw [closed] at continues
    cases continues
  · have stays : next (.text mark) c = .text mark := if_neg closes
    rw [stays] at continues
    cases continues

theorem next_dot (place : Place) : place.next '.' ≠ .word := by
  cases place with
  | text mark => exact next_text mark '.'
  | _ => decide

theorem dropped_stops (inside : Char → Bool) (rest : List Char) : ∀ c ∈ (rest.dropWhile inside).head?, inside c = false := by
  intro c next
  have stopped := List.head?_dropWhile_not inside rest
  rw [next] at stopped
  simpa using stopped

theorem number_stops (rest : List Char) : number.Stops (rest.dropWhile isNumberPart) := dropped_stops isNumberPart rest

theorem word_stops (rest : List Char) : word.Stops (rest.dropWhile isWordPart) := dropped_stops isWordPart rest

end Place

def placeOf (text : List Char) : Place := text.foldl Place.next .between

theorem place_concat (text : List Char) (c : Char) : placeOf (text ++ [c]) = (placeOf text).next c := by
  rw [placeOf, List.foldl_append]
  rfl

theorem place_run {before : List Char} {place : Place} (reached : placeOf before = place) (run : List Char)
    (keeps : ∀ c ∈ run, place.next c = place) : placeOf (before ++ run) = place := by
  induction run generalizing before with
  | nil => rwa [List.append_nil]
  | cons c rest ih =>
      have step : placeOf (before ++ [c]) = place := by
        rw [place_concat, reached, keeps c List.mem_cons_self]
      rw [List.append_cons]
      exact ih step fun other member => keeps other (List.mem_cons_of_mem _ member)

theorem place_along {before run : List Char} {place : Place} {c : Char} (first : placeOf (before ++ [c]) = place)
    (keeps : ∀ d ∈ run, place.next d = place) (front back : List Char) (shape : c :: run = front ++ back)
    (nonempty : front ≠ []) : placeOf (before ++ front) = place := by
  obtain ⟨d, more, rfl⟩ := List.exists_cons_of_ne_nil nonempty
  obtain ⟨rfl, rfl⟩ := List.cons_eq_cons.mp shape
  rw [List.append_cons]
  exact place_run first more fun other member => keeps other (List.mem_append_left back member)

-- A text is open where the quotation marks alone leave one open.
theorem place_open (source : List Char) : (placeOf source).quote? = leftOpen source := by
  have behind (place : Place) : (source.foldl Place.next place).quote? = source.foldl track place.quote? := by
    induction source generalizing place with
    | nil => rfl
    | cons c rest ih => rw [List.foldl_cons, List.foldl_cons, ih, place.next_open]
  exact behind .between

theorem number_here {before rest : List Char} {c : Char} (stops : (placeOf before).Stops (c :: rest))
    (digit : c.isDigit = true) (front back : List Char) (shape : c :: rest.takeWhile isNumberPart = front ++ back)
    (nonempty : front ≠ []) : placeOf (before ++ front) = .number := by
  have unquoted : isQuotation c = false := (Bool.or_eq_false_iff.mp (digit_unmarked c digit)).1
  have first : placeOf (before ++ [c]) = .number := by
    rw [place_concat, Place.next_stopped stops, Place.enter, if_neg (by simp [unquoted]), if_pos digit]
  exact place_along first (fun d member => if_pos (List.all_eq_true.mp List.all_takeWhile d member)) front back shape nonempty

-- What is in front of a word may be a number, which takes letters and digits but no underscores.
structure WordAt (before word after : List Char) : Prop where
  nonempty : word ≠ []
  begins : placeOf before ≠ .word
  inside : ∀ front back, word = front ++ back → front ≠ [] → placeOf (before ++ front) = .word
  ends : ∀ c ∈ after.head?, placeOf (before ++ word ++ [c]) ≠ .word

theorem WordAt.reached {before word after : List Char} (own : WordAt before word after) :
    placeOf (before ++ word) = .word := own.inside word [] (List.append_nil word).symm own.nonempty

theorem WordAt.undotted {before word after : List Char} (own : WordAt before word after) :
    (before ++ word).getLast? ≠ some '.' := by
  intro dotted
  obtain ⟨front, shape⟩ := List.getLast?_eq_some_iff.mp dotted
  have reached := own.reached
  rw [shape, place_concat] at reached
  exact Place.next_dot _ reached

theorem word_here {before rest : List Char} {c : Char} (stops : (placeOf before).Stops (c :: rest))
    (start : isWordStart c = true) :
    WordAt before (c :: rest.takeWhile isWordPart) (rest.dropWhile isWordPart) := by
  have first : placeOf (before ++ [c]) = .word := by
    rw [place_concat, Place.next_stopped stops, (Place.enter_word_iff c).mpr start]
  have keeps : ∀ d ∈ rest.takeWhile isWordPart, Place.next .word d = .word := fun d member =>
    (Place.next_word_iff d).mpr (List.all_eq_true.mp List.all_takeWhile d member)
  have inside := place_along first keeps
  refine ⟨List.cons_ne_nil _ _, Place.stopped_outside stops (part_of_start c start), inside, fun d next continues => ?_⟩
  have last := inside _ [] (List.append_nil _).symm (List.cons_ne_nil _ _)
  rw [place_concat, last, Place.next_word_iff, Place.dropped_stops isWordPart rest d next] at continues
  cases continues

theorem word_ended {before word more after rest : List Char} (own : WordAt before word (more ++ rest))
    (longer : WordAt before (word ++ more) after) : more = [] := by
  cases more with
  | nil => rfl
  | cons c later =>
      have goes := longer.inside (word ++ [c]) later (by simp) (by simp)
      rw [← List.append_assoc] at goes
      exact absurd goes (own.ends c rfl)

theorem word_unique {before word after other rest : List Char} (own : WordAt before word after)
    (there : WordAt before other rest) (same : word ++ after = other ++ rest) : other = word ∧ rest = after := by
  rcases List.append_eq_append_iff.mp same with ⟨more, rfl, rfl⟩ | ⟨more, rfl, rfl⟩
  · obtain rfl := word_ended own there
    exact ⟨List.append_nil word, rfl⟩
  · obtain rfl := word_ended there own
    exact ⟨(List.append_nil other).symm, rfl⟩

theorem word_elsewhere {before word rest front other after : List Char} (own : WordAt before word rest)
    (there : WordAt (before ++ front) other after) (same : word ++ rest = front ++ (other ++ after)) :
    front = [] ∧ other = word ∧ after = rest ∨ ∃ more, front = word ++ more ∧ rest = more ++ (other ++ after) := by
  rcases List.append_eq_append_iff.mp same with ⟨more, rfl, rfl⟩ | ⟨more, rfl, shape⟩
  · exact Or.inr ⟨more, rfl, rfl⟩
  · cases front with
    | nil =>
        rw [List.append_nil] at there
        rw [List.nil_append] at own
        obtain ⟨rfl, rfl⟩ := word_unique own there shape.symm
        exact Or.inl ⟨rfl, rfl, rfl⟩
    | cons c later => exact absurd (own.inside (c :: later) more rfl (List.cons_ne_nil c later)) there.begins

end StatementMapper.Expr
