import Mathlib.Data.List.Infix
import StatementMapper.Text.Search

set_option autoImplicit false

namespace StatementMapper.Text

theorem after_some_iff (pattern text tail : List Char) : after? pattern text = some tail ↔ text = pattern ++ tail := by
  unfold after?
  by_cases front : pattern.isPrefixOf text
  · obtain ⟨rest, rfl⟩ := List.isPrefixOf_iff_prefix.mp front
    simp [front, eq_comm]
  · rw [if_neg front]
    simp only [reduceCtorEq, false_iff]
    intro shape
    exact front (List.isPrefixOf_iff_prefix.mpr ⟨tail, shape.symm⟩)

theorem after_append (pattern text more : List Char) (long : pattern.length ≤ text.length) :
    after? pattern (text ++ more) = (after? pattern text).map fun tail => tail ++ more := by
  cases found : after? pattern text with
  | some tail =>
      rw [(after_some_iff _ _ _).mp found, List.append_assoc]
      exact (after_some_iff _ _ _).mpr rfl
  | none =>
      cases there : after? pattern (text ++ more) with
      | none => rfl
      | some tail =>
          have shape := (after_some_iff _ _ _).mp there
          have front : pattern <+: text :=
            List.prefix_of_prefix_length_le ⟨tail, shape.symm⟩ (List.prefix_append text more) long
          obtain ⟨rest, whole⟩ := front
          rw [(after_some_iff pattern text rest).mpr whole.symm] at found
          exact nomatch found

theorem after_prefix (pattern text more : List Char) (absent : after? pattern (text ++ more) = none) :
    after? pattern text = none := by
  cases found : after? pattern text with
  | none => rfl
  | some tail =>
      rw [(after_some_iff _ _ _).mp found, List.append_assoc, (after_some_iff _ _ _).mpr rfl] at absent
      exact nomatch absent

theorem after_local (pattern text more other : List Char) (long : pattern.length ≤ text.length)
    (absent : after? pattern (text ++ more) = none) : after? pattern (text ++ other) = none := by
  rw [after_append _ _ _ long, Option.map_eq_none_iff] at absent
  rw [after_append _ _ _ long, absent]
  rfl

theorem after_foreign (pattern text more : List Char) (c : Char) (foreign : c ∉ pattern) :
    after? pattern (text ++ c :: more) = (after? pattern text).map fun tail => tail ++ c :: more := by
  rcases Nat.lt_or_ge text.length pattern.length with short | long
  · have none : after? pattern text = none := by
      cases found : after? pattern text with
      | none => rfl
      | some tail =>
          rw [(after_some_iff _ _ _).mp found, List.length_append] at short
          omega
    rw [none]
    cases found : after? pattern (text ++ c :: more) with
    | none => rfl
    | some tail =>
        have shape := (after_some_iff _ _ _).mp found
        obtain ⟨back, whole⟩ : text <+: pattern :=
          List.prefix_of_prefix_length_le (List.prefix_append _ _) ⟨tail, shape.symm⟩ (Nat.le_of_lt short)
        rw [← whole, List.append_assoc] at shape
        have behind := List.append_cancel_left shape
        cases back with
        | nil =>
            rw [List.append_nil] at whole
            rw [whole] at short
            exact absurd short (Nat.lt_irrefl _)
        | cons d others =>
            rw [(List.cons.inj behind).1, ← whole] at foreign
            exact absurd (List.mem_append_right _ List.mem_cons_self) foreign
  · exact after_append _ _ _ long

inductive Reaches (pattern tail : List Char) : List Char → List Char → Prop where
  | here : Reaches pattern tail (pattern ++ tail) []
  | past {c : Char} {rest before : List Char} (unstarted : after? pattern (c :: rest) = none)
      (more : Reaches pattern tail rest before) : Reaches pattern tail (c :: rest) (c :: before)

theorem reaches_of_cut {pattern text before tail : List Char} (cut : cut? pattern text = some (before, tail)) :
    Reaches pattern tail text before := by
  induction text generalizing before with
  | nil =>
      rw [cut?] at cut
      split at cut
      · rename_i empty
        cases cut
        obtain rfl := List.isEmpty_iff.mp empty
        exact .here
      · cases cut
  | cons c rest ih =>
      rw [cut?] at cut
      cases found : after? pattern (c :: rest) with
      | some after =>
          rw [found] at cut
          cases cut
          rw [(after_some_iff _ _ _).mp found]
          exact .here
      | none =>
          rw [found] at cut
          simp only [Option.map_eq_some_iff, Prod.mk.injEq, Prod.exists] at cut
          obtain ⟨inner, behind, later, rfl, rfl⟩ := cut
          exact .past found (ih later)

theorem cut_parts {pattern text before tail : List Char} (cut : cut? pattern text = some (before, tail)) :
    text = before ++ (pattern ++ tail) := by
  have reached := reaches_of_cut cut
  clear cut
  induction reached with
  | here => rfl
  | past unstarted more ih => rw [ih]; rfl

theorem cut_of_reaches {pattern text before tail : List Char} (nonempty : pattern ≠ [])
    (reached : Reaches pattern tail text before) : cut? pattern text = some (before, tail) := by
  induction reached with
  | here =>
      obtain ⟨c, rest, rfl⟩ := List.exists_cons_of_ne_nil nonempty
      rw [List.cons_append, cut?, ← List.cons_append, (after_some_iff _ _ _).mpr rfl]
  | past unstarted more ih => rw [cut?, unstarted, ih]; rfl

theorem Reaches.long {pattern tail text before : List Char} (reached : Reaches pattern tail text before) :
    pattern.length ≤ text.length := by
  induction reached with
  | here => simp
  | past unstarted more ih => exact Nat.le_succ_of_le ih

theorem Reaches.append {pattern tail text before : List Char} (reached : Reaches pattern tail text before)
    (more : List Char) : Reaches pattern (tail ++ more) (text ++ more) before := by
  induction reached with
  | here =>
      rw [List.append_assoc]
      exact .here
  | past unstarted later ih =>
      refine .past ((after_append _ (_ :: _) more (Nat.le_succ_of_le later.long)).trans ?_) ih
      rw [unstarted]
      rfl

theorem cut_append {pattern text before tail : List Char} (nonempty : pattern ≠ []) (more : List Char)
    (cut : cut? pattern text = some (before, tail)) : cut? pattern (text ++ more) = some (before, tail ++ more) :=
  cut_of_reaches nonempty ((reaches_of_cut cut).append more)

-- No part of the pattern is both at its front and at its end.
def Unbordered (pattern : List Char) : Prop := ∀ back ∈ pattern.tails, back <+: pattern → back = [] ∨ back = pattern

-- Such a pattern overlaps with no occurrence of itself, so one that is put behind a text is the first there is.
theorem reaches_first {pattern : List Char} (unbordered : Unbordered pattern) (front tail : List Char)
    (absent : ¬ pattern <:+: front) : Reaches pattern tail (front ++ (pattern ++ tail)) front := by
  induction front with
  | nil => exact .here
  | cons c rest ih =>
      refine .past ?_ (ih fun inside => absent (List.infix_cons inside))
      cases found : after? pattern (c :: (rest ++ (pattern ++ tail))) with
      | none => rfl
      | some after =>
          have shape := (after_some_iff _ _ _).mp found
          rw [← List.cons_append] at shape
          rcases Nat.le_total pattern.length (c :: rest).length with short | long
          · have front : pattern <+: c :: rest :=
              List.prefix_of_prefix_length_le ⟨after, shape.symm⟩ (List.prefix_append _ _) short
            exact absurd front.isInfix absent
          · obtain ⟨back, whole⟩ : c :: rest <+: pattern :=
              List.prefix_of_prefix_length_le (List.prefix_append _ _) ⟨after, shape.symm⟩ long
            have behind : back ++ after = pattern ++ tail := by
              have both : c :: rest ++ (pattern ++ tail) = c :: rest ++ (back ++ after) :=
                shape.trans ((congrArg (· ++ after) whole.symm).trans (List.append_assoc _ _ _))
              exact (List.append_cancel_left both).symm
            have shorter := congrArg List.length whole
            rw [List.length_append, List.length_cons] at shorter
            have again : back <+: pattern :=
              List.prefix_of_prefix_length_le ⟨after, behind⟩ (List.prefix_append _ _) (by omega)
            rcases unbordered back ((List.mem_tails _ _).mpr ⟨_, whole⟩) again with none | same
            · rw [none, List.append_nil] at whole
              exact absurd (whole ▸ List.infix_refl pattern) absent
            · rw [same] at shorter
              omega

theorem Reaches.unstarted {pattern tail text before : List Char} (reached : Reaches pattern tail text before)
    (nonempty : before ≠ []) : after? pattern text = none := by
  cases reached with
  | here => exact absurd rfl nonempty
  | past unstarted more => exact unstarted

theorem absent_cons {pattern rest : List Char} {c : Char} (absent : cut? pattern (c :: rest) = none) :
    after? pattern (c :: rest) = none ∧ cut? pattern rest = none := by
  rw [cut?] at absent
  cases found : after? pattern (c :: rest) with
  | none =>
      rw [found] at absent
      exact ⟨rfl, Option.map_eq_none_iff.mp absent⟩
  | some tail =>
      rw [found] at absent
      cases absent

theorem unstarted_of_absent {pattern text : List Char} (nonempty : pattern ≠ []) (absent : cut? pattern text = none) :
    after? pattern text = none := by
  cases text with
  | nil => exact Option.eq_none_iff_forall_ne_some.mpr fun tail found =>
      nonempty (List.append_eq_nil_iff.mp ((after_some_iff _ _ _).mp found).symm).1
  | cons c rest => exact (absent_cons absent).1

end StatementMapper.Text
