import StatementMapper.Proofs.Text

set_option autoImplicit false

namespace StatementMapper.Text

def solids (text : List Char) : List Char := text.filter (!isBlank ·)

theorem solids_append (left right : List Char) : solids (left ++ right) = solids left ++ solids right :=
  List.filter_append left right

theorem words_cons (c : Char) (rest : List Char) :
    words (c :: rest) =
      if isBlank c then words rest
      else match rest, words rest with
        | next :: _, word :: more => if isBlank next then [c] :: word :: more else (c :: word) :: more
        | _, more => [c] :: more := rfl

theorem words_cons_blank (c : Char) (text : List Char) (blank : isBlank c = true) : words (c :: text) = words text := by
  rw [words_cons, if_pos blank]

theorem words_single (c : Char) (solid : isBlank c = false) : words [c] = [[c]] := by
  rw [words_cons, if_neg (by simp [solid])]
  rfl

theorem words_cons_solid (c next : Char) (text : List Char) (solid : isBlank c = false) :
    words (c :: next :: text) =
      if isBlank next then [c] :: words (next :: text)
      else match words (next :: text) with
        | [] => [[c]]
        | word :: more => (c :: word) :: more := by
  rw [words_cons, if_neg (by simp [solid])]
  by_cases blank : isBlank next = true
  · cases words (next :: text) <;> simp [blank]
  · cases words (next :: text) <;> simp [blank]

theorem words_nonempty (c : Char) (text : List Char) (solid : isBlank c = false) : words (c :: text) ≠ [] := by
  cases text with
  | nil => simp [words_single c solid]
  | cons next rest =>
      rw [words_cons_solid c next rest solid]
      cases words (next :: rest) <;> by_cases blank : isBlank next = true <;> simp [blank]

-- White space belongs to no word, and no word goes on across it.
theorem words_across (c : Char) (left right : List Char) (blank : isBlank c = true) :
    words (left ++ c :: right) = words left ++ words right := by
  induction left with
  | nil => exact words_cons_blank c right blank
  | cons first rest ih =>
      by_cases white : isBlank first = true
      · rw [List.cons_append, words_cons_blank first _ white, words_cons_blank first _ white, ih]
      · have solid : isBlank first = false := Bool.eq_false_iff.mpr white
        cases rest with
        | nil =>
            change words (first :: c :: right) = _
            rw [words_cons_solid first c right solid, if_pos blank, words_single first solid, words_cons_blank c right blank]
            rfl
        | cons second more =>
            change words (first :: second :: (more ++ c :: right)) = _
            change words (second :: (more ++ c :: right)) = _ at ih
            rw [words_cons_solid first second _ solid, words_cons_solid first second more solid, ih]
            by_cases gap : isBlank second = true
            · rw [if_pos gap, if_pos gap]
              rfl
            · rw [if_neg gap, if_neg gap]
              have some := words_nonempty second more (Bool.eq_false_iff.mpr gap)
              cases front : words (second :: more) with
              | nil => exact absurd front some
              | cons word others => rfl

theorem words_blank_start (left right : List Char) (c : Char) (first : right.head? = some c) (blank : isBlank c = true) :
    words (left ++ right) = words left ++ words right := by
  obtain ⟨rest, rfl⟩ := List.head?_eq_some_iff.mp first
  rw [words_across c left rest blank, words_cons_blank c rest blank]

theorem words_blank_end (left right : List Char) (c : Char) (last : left.getLast? = some c) (blank : isBlank c = true) :
    words (left ++ right) = words left ++ words right := by
  obtain ⟨front, rfl⟩ := List.getLast?_eq_some_iff.mp last
  have own := words_across c front [] blank
  rw [show words [] = [] from rfl, List.append_nil] at own
  rw [List.append_assoc, own]
  exact words_across c front right blank

theorem words_of_blanks (blanks : List Char) (white : ∀ c ∈ blanks, isBlank c = true) : words blanks = [] := by
  induction blanks with
  | nil => rfl
  | cons c rest ih =>
      rw [words_cons_blank c rest (white c List.mem_cons_self)]
      exact ih fun other member => white other (List.mem_cons_of_mem _ member)

theorem words_flatten (text : List Char) : (words text).flatten = solids text := by
  induction text with
  | nil => rfl
  | cons c rest ih =>
      by_cases blank : isBlank c = true
      · rw [words_cons_blank c rest blank, ih, solids, solids, List.filter_cons_of_neg (by simp [blank])]
      · have solid : isBlank c = false := Bool.eq_false_iff.mpr blank
        have kept : solids (c :: rest) = c :: solids rest := List.filter_cons_of_pos (by simp [solid])
        cases rest with
        | nil => rw [words_single c solid, kept]; rfl
        | cons next more =>
            rw [kept, ← ih, words_cons_solid c next more solid]
            by_cases gap : isBlank next = true
            · rw [if_pos gap]
              rfl
            · rw [if_neg gap]
              cases words (next :: more) <;> rfl

theorem words_of_all (texts : List (List Char)) : (texts.flatMap words).flatten = solids texts.flatten := by
  induction texts with
  | nil => rfl
  | cons text rest ih => rw [List.flatMap_cons, List.flatten_append, ih, words_flatten, List.flatten_cons, solids_append]

theorem words_trim_start (text : List Char) : words (trimStart text) = words text := by
  induction text with
  | nil => rfl
  | cons c rest ih =>
      by_cases blank : isBlank c = true
      · rw [words_cons_blank c rest blank, ← ih, trimStart, List.dropWhile_cons_of_pos blank, trimStart]
      · rw [trim_start_solid c rest (Bool.eq_false_iff.mpr blank)]

theorem words_trim_end (text : List Char) : words (trimEnd text) = words text := by
  obtain ⟨blanks, shape, white⟩ := trim_end_back text
  cases blanks with
  | nil => rw [List.append_nil] at shape; rw [← shape]
  | cons c rest =>
      have behind := words_blank_start (trimEnd text) (c :: rest) c rfl (white c List.mem_cons_self)
      rw [← shape, words_of_blanks _ white, List.append_nil] at behind
      exact behind.symm

theorem words_trim (text : List Char) : words (trim text) = words text := by
  rw [trim, words_trim_end, words_trim_start]

end StatementMapper.Text
