import StatementMapper.Text.Blank
import StatementMapper.Text.Search

set_option autoImplicit false

namespace StatementMapper.Text

theorem drop_run (inside : Char → Bool) (run rest : List Char) (all : ∀ c ∈ run, inside c = true)
    (stop : ∀ c ∈ rest.head?, inside c = false) : (run ++ rest).dropWhile inside = rest := by
  rw [List.dropWhile_append_of_pos all]
  cases rest with
  | nil => simp
  | cons c more => rw [List.dropWhile_cons_of_neg (by simp [stop c rfl])]

theorem take_run (inside : Char → Bool) (run rest : List Char) (all : ∀ c ∈ run, inside c = true)
    (stop : ∀ c ∈ rest.head?, inside c = false) : (run ++ rest).takeWhile inside = run := by
  have whole := @List.takeWhile_append_dropWhile _ inside (run ++ rest)
  rw [drop_run inside run rest all stop] at whole
  exact List.append_cancel_right whole

theorem take_before (inside : Char → Bool) (text more : List Char) (c : Char) (outside : inside c = false) :
    (text ++ c :: more).takeWhile inside = text.takeWhile inside := by
  induction text with
  | nil => exact List.takeWhile_cons_of_neg (by simp [outside])
  | cons d rest ih =>
      rw [List.cons_append, List.takeWhile_cons, List.takeWhile_cons, ih]

theorem drop_before (inside : Char → Bool) (text more : List Char) (c : Char) (outside : inside c = false) :
    (text ++ c :: more).dropWhile inside = text.dropWhile inside ++ c :: more := by
  induction text with
  | nil => exact List.dropWhile_cons_of_neg (by simp [outside])
  | cons d rest ih =>
      rw [List.cons_append, List.dropWhile_cons, List.dropWhile_cons, ih]
      split <;> rfl

theorem split_first_front (separator : Char) (text : List Char) :
    ∃ after, text = (splitFirst separator text).1 ++ after ∧ (after = [] ∨ after.head? = some separator) := by
  induction text with
  | nil => exact ⟨[], rfl, Or.inl rfl⟩
  | cons c rest ih =>
      rw [splitFirst]
      by_cases same : c = separator
      · rw [if_pos same]
        exact ⟨c :: rest, rfl, Or.inr (by rw [same]; rfl)⟩
      · rw [if_neg same]
        obtain ⟨after, shape, ends⟩ := ih
        exact ⟨after, congrArg (List.cons c) shape, ends⟩

theorem split_first_append (separator : Char) (front text : List Char) (absent : separator ∉ front) :
    splitFirst separator (front ++ text) =
      (front ++ (splitFirst separator text).1, (splitFirst separator text).2) := by
  induction front with
  | nil => rfl
  | cons c rest ih =>
      simp only [List.mem_cons, not_or] at absent
      rw [List.cons_append, splitFirst, if_neg (Ne.symm absent.1), ih absent.2]
      rfl

theorem split_first_absent (separator : Char) (text : List Char) (absent : separator ∉ text) :
    splitFirst separator text = (text, none) := by
  have whole := split_first_append separator text [] absent
  rwa [List.append_nil, splitFirst, List.append_nil] at whole

theorem split_absent (separator : Char) (text : List Char) (absent : separator ∉ text) : split separator text = [text] := by
  induction text with
  | nil => rfl
  | cons c rest ih =>
      simp only [List.mem_cons, not_or] at absent
      rw [split, if_neg (Ne.symm absent.1), ih absent.2]

theorem split_nonempty (separator : Char) (text : List Char) : split separator text ≠ [] := by
  induction text with
  | nil => simp [split]
  | cons c rest ih =>
      rw [split]
      by_cases same : c = separator
      · simp [same]
      · rw [if_neg same]
        cases others : split separator rest with
        | nil => exact absurd others ih
        | cons first more => simp

theorem split_front (separator : Char) (text piece : List Char) (more : List (List Char))
    (pieces : split separator text = piece :: more) :
    ∃ after, text = piece ++ after ∧ (after = [] ∨ after.head? = some separator) := by
  induction text generalizing piece more with
  | nil =>
      cases pieces
      exact ⟨[], rfl, Or.inl rfl⟩
  | cons c rest ih =>
      rw [split] at pieces
      by_cases same : c = separator
      · rw [if_pos same] at pieces
        cases pieces
        exact ⟨c :: rest, rfl, Or.inr (by rw [same]; rfl)⟩
      · rw [if_neg same] at pieces
        cases others : split separator rest with
        | nil => exact absurd others (split_nonempty separator rest)
        | cons first later =>
            obtain ⟨after, shape, ends⟩ := ih first later others
            rw [others] at pieces
            cases pieces
            exact ⟨after, congrArg (List.cons c) shape, ends⟩

theorem split_append (separator : Char) (left right : List Char) :
    split separator (left ++ separator :: right) = split separator left ++ split separator right := by
  induction left with
  | nil => exact if_pos rfl
  | cons c rest ih =>
      rw [List.cons_append, split, ih, split]
      by_cases same : c = separator
      · rw [if_pos same, if_pos same, List.cons_append]
      · rw [if_neg same, if_neg same]
        cases pieces : split separator rest with
        | nil => exact absurd pieces (split_nonempty separator rest)
        | cons piece more => rfl

theorem split_at_first (separator : Char) (text : List Char) :
    split separator text =
      (splitFirst separator text).1 :: ((splitFirst separator text).2.map (split separator)).getD [] := by
  induction text with
  | nil => rfl
  | cons c rest ih =>
      rw [split, splitFirst]
      by_cases same : c = separator
      · rw [if_pos same, if_pos same]
        rfl
      · rw [if_neg same, if_neg same, ih]

theorem trim_end_back (text : List Char) : ∃ blanks, text = trimEnd text ++ blanks ∧ ∀ c ∈ blanks, isBlank c = true := by
  refine ⟨(text.reverse.takeWhile isBlank).reverse, ?_, fun c member => ?_⟩
  · rw [trimEnd, ← List.reverse_append, List.takeWhile_append_dropWhile, List.reverse_reverse]
  · exact List.all_eq_true.mp List.all_takeWhile c (List.mem_reverse.mp member)

theorem trim_end_blank (text : List Char) (c : Char) (blank : isBlank c = true) : trimEnd (text ++ [c]) = trimEnd text := by
  rw [trimEnd, List.reverse_append, List.reverse_singleton, List.singleton_append, List.dropWhile_cons_of_pos blank]
  rfl

theorem trim_end_solid (text : List Char) (c : Char) (solid : isBlank c = false) (last : text.getLast? = some c) :
    trimEnd text = text := by
  obtain ⟨front, rfl⟩ := List.getLast?_eq_some_iff.mp last
  rw [trimEnd, List.reverse_append, List.reverse_singleton, List.singleton_append,
    List.dropWhile_cons_of_neg (by simp [solid])]
  simp

theorem trim_all_solid (text : List Char) (solid : ∀ c ∈ text, isBlank c = false) : trim text = text := by
  cases text with
  | nil => rfl
  | cons c rest =>
      have start : trimStart (c :: rest) = c :: rest :=
        List.dropWhile_cons_of_neg (by simp [solid c List.mem_cons_self])
      have ends := List.getLast?_eq_some_getLast (List.cons_ne_nil c rest)
      rw [trim, start, trim_end_solid _ _ (solid _ (List.mem_of_getLast? ends)) ends]

theorem trim_solid (text : List Char) (c : Char) (first : (trim text).head? = some c) : isBlank c = false := by
  obtain ⟨blanks, shape, _⟩ := trim_end_back (trimStart text)
  have front : (trimStart text).head? = some c := by
    rw [shape, List.head?_append]
    change (trimEnd (trimStart text)).head? = some c at first
    rw [first]
    rfl
  have solid := List.head?_dropWhile_not isBlank text
  rw [show text.dropWhile isBlank = trimStart text from rfl, front] at solid
  simpa using solid

theorem intercalate_split (separator : Char) (text : List Char) : [separator].intercalate (split separator text) = text := by
  induction text with
  | nil => rfl
  | cons c rest ih =>
      rw [split]
      cases others : split separator rest with
      | nil => exact absurd others (split_nonempty separator rest)
      | cons first more =>
          rw [others] at ih
          by_cases same : c = separator
          · rw [if_pos same, List.intercalate_cons_cons, ih, same]
            rfl
          · rw [if_neg same, ← ih]
            cases more with
            | nil => rfl
            | cons second later => rw [List.intercalate_cons_cons, List.intercalate_cons_cons]; rfl

theorem alpha_range (c : Char) (letter : c.isAlpha = true) :
    (65 ≤ c.toNat ∧ c.toNat ≤ 90) ∨ (97 ≤ c.toNat ∧ c.toNat ≤ 122) := by
  change (decide (65 ≤ c.val ∧ c.val ≤ 90) || (decide (97 ≤ c.val) && decide (c.val ≤ 122))) = true at letter
  simp only [Bool.or_eq_true, Bool.and_eq_true, decide_eq_true_eq, UInt32.le_iff_toNat_le] at letter
  exact letter

theorem alphanum_range (c : Char) (accepted : c.isAlphanum = true) :
    (48 ≤ c.toNat ∧ c.toNat ≤ 57) ∨ (65 ≤ c.toNat ∧ c.toNat ≤ 90) ∨ (97 ≤ c.toNat ∧ c.toNat ≤ 122) := by
  rw [Char.isAlphanum, Bool.or_eq_true] at accepted
  cases accepted with
  | inl letter => exact Or.inr (alpha_range c letter)
  | inr digit =>
      simp only [Char.isDigit, Bool.and_eq_true, decide_eq_true_eq, UInt32.le_iff_toNat_le, ge_iff_le] at digit
      exact Or.inl digit

theorem letter_of_alpha (c : Char) (accepted : c.isAlpha = true) : isLetter c = true := by
  have range := alphanum_range c (by rw [Char.isAlphanum, accepted, Bool.true_or])
  rw [isLetter, if_pos (by omega), accepted]

theorem alphanumeric_of_alphanum (c : Char) (accepted : c.isAlphanum = true) : isAlphanumeric c = true := by
  have range := alphanum_range c accepted
  rw [isAlphanumeric, if_pos (by omega), accepted]

theorem solid_of_alpha (c : Char) (letter : c.isAlpha = true) : isBlank c = false := by
  have range := alpha_range c letter
  simp only [isBlank, Bool.or_eq_false_iff, Bool.and_eq_false_iff, decide_eq_false_iff_not, beq_eq_false_iff_ne]
  omega

def blankCodes : List Nat := [0x9, 0xA, 0xB, 0xC, 0xD, 0x20, 0x85, 0xA0, 0x1680, 0x2000, 0x2001, 0x2002, 0x2003, 0x2004,
  0x2005, 0x2006, 0x2007, 0x2008, 0x2009, 0x200A, 0x2028, 0x2029, 0x202F, 0x205F, 0x3000]

theorem blank_code (c : Char) (blank : isBlank c = true) : c.toNat ∈ blankCodes := by
  simp only [isBlank, Bool.or_eq_true, Bool.and_eq_true, decide_eq_true_eq, beq_iff_eq] at blank
  simp only [blankCodes, List.mem_cons, List.not_mem_nil, or_false]
  omega

theorem solid_of_alphanumeric (c : Char) (accepted : isAlphanumeric c = true) : isBlank c = false := by
  cases blank : isBlank c with
  | false => rfl
  | true =>
      have outside : ∀ code ∈ blankCodes, within letterRanges code = false ∧ within numberRanges code = false ∧
          ¬ (48 ≤ code ∧ code ≤ 57) ∧ ¬ (65 ≤ code ∧ code ≤ 90) ∧ ¬ (97 ≤ code ∧ code ≤ 122) := by decide +kernel
      obtain ⟨unlettered, unnumbered, undigit, unupper, unlower⟩ := outside c.toNat (blank_code c blank)
      rw [isAlphanumeric] at accepted
      split at accepted
      · rcases alphanum_range c accepted with digit | upper | lower
        · exact absurd digit undigit
        · exact absurd upper unupper
        · exact absurd lower unlower
      · rw [unlettered, unnumbered] at accepted
        exact nomatch accepted

theorem trim_start_solid (c : Char) (rest : List Char) (solid : isBlank c = false) : trimStart (c :: rest) = c :: rest :=
  List.dropWhile_cons_of_neg (by simp [solid])

theorem after_differs (first c : Char) (pattern rest : List Char) (differs : c ≠ first) :
    after? (first :: pattern) (c :: rest) = none := by
  rw [after?, List.isPrefixOf, beq_eq_false_iff_ne.mpr (Ne.symm differs)]
  rfl

structure Firm (text : List Char) : Prop where
  first : ∃ c, text.head? = some c ∧ isBlank c = false
  last : ∃ c, text.getLast? = some c ∧ isBlank c = false

theorem trim_end_last (text : List Char) (c : Char) (last : (trimEnd text).getLast? = some c) : isBlank c = false := by
  rw [trimEnd, List.getLast?_reverse] at last
  have solid := List.head?_dropWhile_not isBlank text.reverse
  rw [last] at solid
  simpa using solid

theorem firm_start {text : List Char} (firm : Firm text) : trimStart text = text := by
  obtain ⟨c, first, solid⟩ := firm.first
  obtain ⟨rest, rfl⟩ := List.head?_eq_some_iff.mp first
  exact trim_start_solid c rest solid

theorem firm_end {text : List Char} (firm : Firm text) : trimEnd text = text := by
  obtain ⟨c, last, solid⟩ := firm.last
  exact trim_end_solid text c solid last

theorem firm_iff (text : List Char) : Firm text ↔ text ≠ [] ∧ trim text = text := by
  constructor
  · intro firm
    obtain ⟨c, first, _⟩ := firm.first
    refine ⟨fun empty => ?_, by rw [trim, firm_start firm, firm_end firm]⟩
    rw [empty] at first
    cases first
  · rintro ⟨nonempty, trimmed⟩
    have first := List.head?_eq_some_head nonempty
    have last := List.getLast?_eq_some_getLast nonempty
    have ends : (trimEnd (trimStart text)).getLast? = some (text.getLast nonempty) := by rw [← trim, trimmed, last]
    exact ⟨⟨_, first, trim_solid text _ (trimmed.symm ▸ first)⟩, ⟨_, last, trim_end_last _ _ ends⟩⟩

theorem trim_around {front : List Char} (firm : Firm front) (blanks text : List Char)
    (blank : ∀ c ∈ blanks, isBlank c = true) : trim (blanks ++ (front ++ text)) = front ++ trimEnd text := by
  obtain ⟨c, first, solid⟩ := firm.first
  have start : trimStart (blanks ++ (front ++ text)) = front ++ text := by
    refine drop_run isBlank blanks _ blank fun other there => ?_
    rw [List.head?_append, first] at there
    cases there
    exact solid
  rw [trim, start, trimEnd, List.reverse_append, List.dropWhile_append]
  by_cases all : (text.reverse.dropWhile isBlank).isEmpty = true
  · rw [if_pos all, trimEnd, List.isEmpty_iff.mp all, List.reverse_nil, List.append_nil]
    exact firm_end firm
  · rw [if_neg all, List.reverse_append, List.reverse_reverse, trimEnd]

theorem firm_append {left right : List Char} (first : Firm left) (last : Firm right) (middle : List Char) :
    Firm (left ++ middle ++ right) := by
  obtain ⟨c, front, solid⟩ := first.first
  obtain ⟨d, back, firm⟩ := last.last
  refine ⟨⟨c, ?_, solid⟩, ⟨d, ?_, firm⟩⟩
  · rw [List.append_assoc, List.head?_append, front]
    rfl
  · rw [List.getLast?_append, back]
    rfl

theorem firm_intercalate (between clause : List Char) (rest : List (List Char))
    (each : ∀ text ∈ clause :: rest, Firm text) : Firm (between.intercalate (clause :: rest)) := by
  induction rest generalizing clause with
  | nil => simpa using each clause List.mem_cons_self
  | cons next more ih =>
      have later := ih next fun text member => each text (List.mem_cons_of_mem _ member)
      rw [List.intercalate_cons_cons]
      exact firm_append (each clause List.mem_cons_self) later _

theorem head_intercalate (between clause : List Char) (rest : List (List Char)) (nonempty : clause ≠ []) :
    (between.intercalate (clause :: rest)).head? = clause.head? := by
  obtain ⟨c, more, rfl⟩ := List.exists_cons_of_ne_nil nonempty
  cases rest with
  | nil => simp
  | cons next later => rw [List.intercalate_cons_cons]; rfl

theorem intercalate_framed (opening closing separator clause : List Char) (rest : List (List Char)) :
    separator.intercalate ((clause :: rest).map fun text => opening ++ text ++ closing) =
      opening ++ (closing ++ separator ++ opening).intercalate (clause :: rest) ++ closing := by
  induction rest generalizing clause with
  | nil => simp
  | cons next more ih =>
      have later := ih next
      rw [List.map_cons] at later
      rw [List.map_cons, List.map_cons, List.intercalate_cons_cons, later, List.intercalate_cons_cons]
      simp only [List.append_assoc]

theorem upper_comma (c : Char) (comma : c.toUpper = ',') : c = ',' := by
  by_cases lower : 'a'.val ≤ c.val ∧ c.val ≤ 'z'.val
  · have raised := congrArg Char.val (show c.toUpper = _ from dif_pos lower)
    rw [comma] at raised
    have code : c.val = ','.val - ('A'.val - 'a'.val) := by grind
    rw [code] at lower
    exact absurd lower (by decide)
  · have same : c.toUpper = c := dif_neg lower
    rw [← same, comma]

end StatementMapper.Text
