import StatementMapper.Proofs.Template.Tokens
import StatementMapper.Proofs.Text.Numerals

set_option autoImplicit false

namespace StatementMapper.Template.Loop

open Delimiters (placeholder Closed)

def renamed (head : Loop) (number : Nat) (content : List Char) : List Char :=
  renameBy head.index number (renameBy head.item number content)

theorem digits_tame (number : Nat) (c : Char) (member : c ∈ (toString number).toList) : c ≠ '\x7d' ∧ c ≠ '\\' := by
  have digit := Text.digits_of_number number c member
  constructor
  · rintro rfl
    exact absurd digit (by decide)
  · rintro rfl
    exact absurd digit (by decide)

theorem bound_name_list (name : String) (number : Nat) :
    (boundName name number).toList = "__frch_".toList ++ name.toList ++ "_".toList ++ (toString number).toList := by
  simp only [boundName, String.toList_append]

theorem rename_some_iff (name : String) (number : Nat) (content result : List Char) :
    rename? name number content = some result ↔
      ∃ rest, Text.trimStart content = name.toList ++ rest ∧ endsName rest = true ∧
        result = (boundName name number).toList ++ rest := by
  unfold rename?
  cases found : Text.after? name.toList (Text.trimStart content) with
  | none =>
      simp only [reduceCtorEq, false_iff]
      rintro ⟨rest, shape, _, _⟩
      rw [(Text.after_some_iff _ _ _).mpr shape] at found
      exact nomatch found
  | some rest =>
      have shape := (Text.after_some_iff _ _ _).mp found
      by_cases whole : endsName rest = true
      · simp only [if_pos whole, Option.some.injEq]
        constructor
        · rintro rfl
          exact ⟨rest, shape, whole, rfl⟩
        · rintro ⟨other, same, _, rfl⟩
          rw [List.append_cancel_left (shape.symm.trans same)]
      · simp only [if_neg whole, reduceCtorEq, false_iff]
        rintro ⟨other, same, ended, _⟩
        rw [List.append_cancel_left (shape.symm.trans same)] at whole
        exact whole ended

theorem tame_rename (name : String) (number : Nat) (content result : List Char)
    (found : rename? name number content = some result) (tame : Tame content) : Tame result := by
  obtain ⟨rest, shape, _, rfl⟩ := (rename_some_iff name number content result).mp found
  obtain ⟨blanks, whole⟩ : Text.trimStart content <:+ content := List.dropWhile_suffix _
  rw [shape] at whole
  obtain ⟨inside, ends⟩ := tame
  simp only [← whole, List.mem_append, not_or] at inside
  refine ⟨?_, ?_⟩
  · intro member
    rw [bound_name_list] at member
    simp only [List.mem_append] at member
    rcases member with (((front | named) | line) | digits) | after
    · exact absurd front (by decide)
    · exact inside.2.1 named
    · exact absurd line (by decide)
    · exact (digits_tame number _ digits).1 rfl
    · exact inside.2.2 after
  · cases rest with
    | nil =>
        rw [List.append_nil, bound_name_list, List.getLast?_append]
        intro last
        cases digit : (toString number).toList.getLast? with
        | none =>
            rw [digit, List.getLast?_append] at last
            exact absurd (Option.some.inj last) (by decide)
        | some c =>
            rw [digit] at last
            exact (digits_tame number c (List.mem_of_getLast? digit)).2 (Option.some.inj last)
    | cons c more =>
        rw [List.getLast?_append]
        intro last
        refine ends ?_
        rw [← whole, List.getLast?_append, List.getLast?_append]
        rw [List.getLast?_cons] at last ⊢
        exact last

theorem tame_renamed (head : Loop) (number : Nat) (content : List Char) (tame : Tame content) :
    Tame (head.renamed number content) := by
  have one (named? : Option String) (content : List Char) (tame : Tame content) : Tame (renameBy named? number content) := by
    cases named? with
    | none => exact tame
    | some name =>
        cases found : rename? name number content with
        | none => simpa only [renameBy, found, Option.getD_none] using tame
        | some result => simpa only [renameBy, found, Option.getD_some] using tame_rename name number content result found tame
  exact one head.index _ (one head.item content tame)

theorem holds_itemize (head : Loop) (number : Nat) {seam : Seam} {body : List Char} {tokens : List (List Char)}
    (holds : Holds (some seam) body tokens) :
    Holds (some seam) (head.itemize number body) (tokens.map (head.renamed number)) :=
  holds_rename (head.renamed number) holds (tame_renamed head number)

theorem holds_separated (head : Loop) {seam : Seam} (separator : Holds (some seam) head.separator.toList [])
    (bodies : List (List Char × List (List Char))) (hold : ∀ body ∈ bodies, Holds (some seam) body.1 body.2) :
    Holds (some seam) (head.separated (bodies.map Prod.fst)) (bodies.flatMap Prod.snd) := by
  unfold separated
  induction bodies with
  | nil => exact holds_nil (some seam)
  | cons body rest ih =>
      have later := ih fun other member => hold other (List.mem_cons_of_mem _ member)
      have here := hold body List.mem_cons_self
      rw [List.map_cons, List.flatMap_cons]
      by_cases blank : Text.allBlank body.1 = true
      · obtain ⟨pieces, closed, same⟩ := here.complete
        rw [← same, blank_tokens closed blank, List.filter_cons_of_neg (by simp [blank])]
        exact later
      · rw [List.filter_cons_of_pos (by simpa using blank)]
        cases kept : (rest.map Prod.fst).filter (!Text.allBlank ·) with
        | nil =>
            rw [kept] at later
            rw [List.intercalate_singleton]
            simpa using holds_append here later
        | cons next others =>
            rw [kept] at later
            rw [List.intercalate_cons_cons]
            simpa using holds_append (holds_append here separator) later

end StatementMapper.Template.Loop
