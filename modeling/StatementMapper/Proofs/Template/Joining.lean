import StatementMapper.Proofs.Text.Words
import StatementMapper.Template.Draft

set_option autoImplicit false

/-! The SQL has the words of the fragments in order and no others. -/

namespace StatementMapper.Template

namespace Draft

def Meet (left right : List Char) : Prop :=
  (∃ c, left.getLast? = some c ∧ Text.isBlank c = false) ∧ ∃ c, right.head? = some c ∧ Text.isBlank c = false

theorem fuses_iff (left right : List Char) : fuses left right = true ↔ Meet left right := by
  unfold fuses Meet
  cases left.getLast? with
  | none => simp
  | some last =>
      cases right.head? with
      | none => simp
      | some first => simp

theorem words_unfused (left right : List Char) (apart : ¬ Meet left right) :
    Text.words (left ++ right) = Text.words left ++ Text.words right := by
  cases last : left.getLast? with
  | none => rw [List.getLast?_eq_none_iff.mp last]; rfl
  | some c =>
      cases first : right.head? with
      | none =>
          rw [List.head?_eq_none_iff.mp first, List.append_nil]
          exact (List.append_nil _).symm
      | some d =>
          by_cases before : Text.isBlank c = true
          · exact Text.words_blank_end left right c last before
          · by_cases behind : Text.isBlank d = true
            · exact Text.words_blank_start left right d first behind
            · exact absurd ⟨⟨c, last, Bool.eq_false_iff.mpr before⟩, d, first, Bool.eq_false_iff.mpr behind⟩ apart

theorem words_joined (left right : List Char) : Text.words (joined left right) = Text.words left ++ Text.words right := by
  by_cases meet : fuses left right = true
  · rw [joined, if_pos meet]
    exact Text.words_across ' ' left right (by decide)
  · rw [joined, if_neg meet]
    exact words_unfused left right fun meets => meet ((fuses_iff left right).mpr meets)

def appendAll (fragments : List (List Char)) (draft : Draft) : Draft :=
  fragments.foldl (fun draft fragment => draft.append fragment) draft

theorem words_append_all (fragments : List (List Char)) (draft : Draft) :
    Text.words (draft.appendAll fragments).sql = Text.words draft.sql ++ fragments.flatMap Text.words := by
  induction fragments generalizing draft with
  | nil => exact (List.append_nil _).symm
  | cons fragment rest ih =>
      have later := ih (draft.append fragment)
      change Text.words ((draft.append fragment).appendAll rest).sql = _
      rw [later, append, words_joined, List.append_assoc, List.flatMap_cons]

-- What is in front of all fragments comes first; a space stands where a fragment meets the text before it.
def Spaced (before : List Char) (fragments : List (List Char)) (text : List Char) : Prop :=
  ∃ gaps : List (List Char), gaps.length = fragments.length ∧ text = (List.zipWith (· ++ ·) gaps fragments).flatten ∧
    ∀ position gap fragment, gaps[position]? = some gap → fragments[position]? = some fragment →
      gap = [' '] ∧ Meet (before ++ (fragments.take position).flatten) fragment ∨
        gap = [] ∧ ¬ Meet (before ++ (fragments.take position).flatten) fragment

theorem spaced_none (before : List Char) : Spaced before [] [] :=
  ⟨[], rfl, rfl, fun _ _ _ found => nomatch found⟩

theorem spaced_cons {before fragment text : List Char} {rest : List (List Char)} (gap : List Char)
    (own : gap = [' '] ∧ Meet before fragment ∨ gap = [] ∧ ¬ Meet before fragment)
    (later : Spaced (before ++ fragment) rest text) : Spaced before (fragment :: rest) (gap ++ fragment ++ text) := by
  obtain ⟨gaps, each, rfl, spaces⟩ := later
  refine ⟨gap :: gaps, congrArg (· + 1) each, rfl, fun position space next first second => ?_⟩
  cases position with
  | zero =>
      cases first
      cases second
      simpa using own
  | succ position =>
      have found := spaces position space next first second
      simpa [List.append_assoc] using found

-- Only the last character in front of a fragment counts.
theorem meet_congr {left other right : List Char} (last : left.getLast? = other.getLast?) :
    Meet left right ↔ Meet other right := by rw [Meet, Meet, last]

theorem joined_spaced (left right : List Char) :
    ∃ gap, joined left right = left ++ gap ++ right ∧ (gap = [' '] ∧ Meet left right ∨ gap = [] ∧ ¬ Meet left right) := by
  by_cases meet : fuses left right = true
  · refine ⟨[' '], ?_, Or.inl ⟨rfl, (fuses_iff left right).mp meet⟩⟩
    rw [joined, if_pos meet, List.append_assoc]
    rfl
  · refine ⟨[], ?_, Or.inr ⟨rfl, fun meets => meet ((fuses_iff left right).mpr meets)⟩⟩
    rw [joined, if_neg meet, List.append_nil]

theorem last_joined {left other : List Char} (right : List Char) (last : left.getLast? = other.getLast?) :
    (joined left right).getLast? = (other ++ right).getLast? := by
  obtain ⟨gap, shape, only⟩ := joined_spaced left right
  rw [shape, List.getLast?_append, List.getLast?_append, List.getLast?_append, last]
  cases ends : right.getLast? with
  | some c => rfl
  | none =>
      have empty : right = [] := List.getLast?_eq_none_iff.mp ends
      rcases only with ⟨_, _, c, first, _⟩ | ⟨rfl, _⟩
      · rw [empty] at first
        cases first
      · rfl

theorem spaced_append_all (before : List Char) (fragments : List (List Char)) (draft : Draft)
    (last : draft.sql.getLast? = before.getLast?) :
    ∃ text, (draft.appendAll fragments).sql = draft.sql ++ text ∧ Spaced before fragments text := by
  induction fragments generalizing before draft with
  | nil => exact ⟨[], (List.append_nil _).symm, spaced_none before⟩
  | cons fragment rest ih =>
      obtain ⟨gap, shape, only⟩ := joined_spaced draft.sql fragment
      obtain ⟨text, whole, later⟩ := ih (before ++ fragment) (draft.append fragment) (last_joined fragment last)
      rw [meet_congr last] at only
      refine ⟨gap ++ fragment ++ text, ?_, spaced_cons gap only later⟩
      change ((draft.append fragment).appendAll rest).sql = _
      rw [whole, append, shape]
      simp only [List.append_assoc]

theorem fragments_kept (fragments : List (List Char)) :
    Text.words (appendAll fragments {}).sql = fragments.flatMap Text.words ∧
      Text.words (appendAll fragments {}).finish = fragments.flatMap Text.words ∧
      Text.solids (appendAll fragments {}).sql = Text.solids fragments.flatten ∧
      Text.solids (appendAll fragments {}).finish = Text.solids fragments.flatten ∧
      Spaced [] fragments (appendAll fragments {}).sql ∧
      Text.squeeze (appendAll fragments {}).finish = [' '].intercalate (fragments.flatMap Text.words) := by
  have words : Text.words (appendAll fragments {}).sql = fragments.flatMap Text.words := words_append_all fragments {}
  have finished : Text.words (appendAll fragments {}).finish = fragments.flatMap Text.words := by
    rw [finish, Text.words_trim, words]
  have solid := Text.words_of_all fragments
  refine ⟨words, finished, ?_, ?_, ?_, ?_⟩
  · rw [← Text.words_flatten, words, solid]
  · rw [← Text.words_flatten, finished, solid]
  · obtain ⟨text, whole, spaced⟩ := spaced_append_all [] fragments {} rfl
    rw [whole]
    exact spaced
  · rw [Text.squeeze, finished]

end Draft

end StatementMapper.Template
