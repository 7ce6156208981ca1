import StatementMapper.Proofs.Text
import StatementMapper.Template.Trimming

set_option autoImplicit false

/-! A cut fails behind the end of the text and inside a character. -/

namespace StatementMapper.Text

open Template.Trimming (width cutStart cutEnd)

theorem width_cons (c : Char) (text : List Char) : width (c :: text) = c.utf8Size + width text := by
  have shifted (text : List Char) (total : Nat) :
      text.foldl (fun total c => total + c.utf8Size) total = total + width text := by
    induction text generalizing total with
    | nil => rfl
    | cons d rest ih =>
        have first := ih (total + d.utf8Size)
        have second := ih (0 + d.utf8Size)
        simp only [width, List.foldl_cons] at first second ⊢
        omega
  exact (shifted text (0 + c.utf8Size)).trans (by rw [Nat.zero_add])

theorem width_append (front back : List Char) : width (front ++ back) = width front + width back := by
  induction front with
  | nil => simp [width]
  | cons c rest ih => rw [List.cons_append, width_cons, width_cons, ih, Nat.add_assoc]

theorem width_positive (text : List Char) (nonempty : text ≠ []) : 0 < width text := by
  obtain ⟨c, rest, rfl⟩ := List.exists_cons_of_ne_nil nonempty
  have positive := c.utf8Size_pos
  rw [width_cons]
  omega

theorem width_reverse (text : List Char) : width text.reverse = width text := by
  induction text with
  | nil => rfl
  | cons c rest ih =>
      rw [List.reverse_cons, width_append, ih, width_cons, width_cons]
      exact Nat.add_comm _ _

def cutAt? (offset : Nat) : List Char → Option (List Char × List Char)
  | [] => if offset = 0 then some ([], []) else none
  | c :: rest =>
    if offset = 0 then some ([], c :: rest)
    else if c.utf8Size ≤ offset then
      (cutAt? (offset - c.utf8Size) rest).map fun (front, back) => (c :: front, back)
    else none

def slice? (first last : Nat) (text : List Char) : Option (List Char) :=
  if first ≤ last then do
    let (_, behind) ← cutAt? first text
    let (inside, _) ← cutAt? (last - first) behind
    some inside
  else none

def bytes (text : List Char) : List UInt8 := text.flatMap String.utf8EncodeChar

def slashBefore? (text : List Char) (offset : Nat) : Option Bool := (bytes text)[offset - 1]?.map (· == 0x5C)

def offset? (pattern text : List Char) : Option Nat := (cut? pattern text).map fun (before, _) => width before

theorem cut_at_width (front back : List Char) : cutAt? (width front) (front ++ back) = some (front, back) := by
  induction front with
  | nil => cases back <;> simp [cutAt?, width]
  | cons c rest ih =>
      have positive := c.utf8Size_pos
      rw [List.cons_append, cutAt?, width_cons, if_neg (by omega), if_pos (by omega), Nat.add_sub_cancel_left, ih]
      rfl

theorem cut_at_some {offset : Nat} {text front back : List Char} (cut : cutAt? offset text = some (front, back)) :
    text = front ++ back ∧ width front = offset := by
  induction text generalizing offset front with
  | nil =>
      by_cases zero : offset = 0
      · simp only [cutAt?, if_pos zero, Option.some.injEq, Prod.mk.injEq] at cut
        obtain ⟨rfl, rfl⟩ := cut
        exact ⟨rfl, zero.symm⟩
      · simp [cutAt?, zero] at cut
  | cons c rest ih =>
      by_cases zero : offset = 0
      · simp only [cutAt?, if_pos zero, Option.some.injEq, Prod.mk.injEq] at cut
        obtain ⟨rfl, rfl⟩ := cut
        exact ⟨rfl, zero.symm⟩
      · by_cases fits : c.utf8Size ≤ offset
        · simp only [cutAt?, if_neg zero, if_pos fits, Option.map_eq_some_iff, Prod.mk.injEq, Prod.exists] at cut
          obtain ⟨inner, tail, later, rfl, rfl⟩ := cut
          obtain ⟨rfl, wide⟩ := ih later
          refine ⟨rfl, ?_⟩
          rw [width_cons]
          omega
        · simp [cutAt?, zero, fits] at cut

theorem cut_start_eq (count : Nat) (text : List Char) :
    cutStart count text = ((cutAt? count text).map Prod.snd).getD [] := by
  induction text generalizing count with
  | nil => cases count <;> simp [cutStart, cutAt?]
  | cons c rest ih =>
      cases count with
      | zero => simp [cutStart, cutAt?]
      | succ count =>
          by_cases fits : c.utf8Size ≤ count + 1
          · rw [cutStart, if_pos fits, ih, cutAt?, if_neg (Nat.succ_ne_zero count), if_pos fits, Option.map_map]
            rfl
          · rw [cutStart, if_neg fits, cutAt?, if_neg (Nat.succ_ne_zero count), if_neg fits]
            rfl

theorem cut_start_front (front back : List Char) : cutStart (width front) (front ++ back) = back := by
  rw [cut_start_eq, cut_at_width]
  rfl

theorem cut_end_back (front back : List Char) : cutEnd (width back) (front ++ back) = front := by
  rw [cutEnd, List.reverse_append, ← width_reverse, cut_start_front, List.reverse_reverse]

theorem slice_between (front inside back : List Char) :
    slice? (width front) (width front + width inside) (front ++ (inside ++ back)) = some inside := by
  rw [slice?, if_pos (Nat.le_add_right _ _), cut_at_width, Nat.add_sub_cancel_left]
  simp [cut_at_width]

-- Only the backslash is written with a byte like its own.
theorem slash_byte (c : Char) : (String.utf8EncodeChar c).getLast? = some 0x5C ↔ c = '\\' := by
  have tail (code : Nat) : UInt8.ofNat (code % 64 + 128) ≠ 0x5C := by
    intro same
    have number := congrArg UInt8.toNat same
    simp only [UInt8.toNat_ofNat', UInt8.reduceToNat] at number
    omega
  constructor
  · intro last
    simp only [String.utf8EncodeChar] at last
    split at last
    · rename_i narrow
      have number : (UInt8.ofNat c.val.toNat).toNat = (0x5C : UInt8).toNat := congrArg UInt8.toNat (Option.some.inj last)
      simp only [UInt8.toNat_ofNat', UInt8.reduceToNat] at number
      exact Char.toNat_inj.mp (by change c.val.toNat = 92; omega)
    · split at last
      · exact absurd (Option.some.inj last) (tail _)
      · split at last
        · exact absurd (Option.some.inj last) (tail _)
        · exact absurd (Option.some.inj last) (tail _)
  · rintro rfl
    rfl

theorem slash_before (front back : List Char) (nonempty : front ≠ []) :
    slashBefore? (front ++ back) (width front) = some (front.getLast? == some '\\') := by
  obtain ⟨c, last⟩ := List.getLast?_isSome.mpr nonempty |> Option.isSome_iff_exists.mp
  obtain ⟨others, rfl⟩ := List.getLast?_eq_some_iff.mp last
  have counted (text : List Char) : (bytes text).length = width text := by
    induction text with
    | nil => rfl
    | cons d rest ih => rw [bytes, List.flatMap_cons, List.length_append, String.length_utf8EncodeChar, width_cons, ← ih, bytes]
  have written : bytes (others ++ [c] ++ back) = bytes others ++ (String.utf8EncodeChar c ++ bytes back) := by
    simp [bytes]
  have positive := c.utf8Size_pos
  have wide : width (others ++ [c]) = width others + c.utf8Size := by
    rw [width_append, width_cons]
    rfl
  have own : (bytes (others ++ [c] ++ back))[width (others ++ [c]) - 1]? = (String.utf8EncodeChar c).getLast? := by
    rw [written, wide, List.getElem?_append_right (by rw [counted]; omega), counted,
      List.getElem?_append_left (by rw [String.length_utf8EncodeChar]; omega), List.getLast?_eq_getElem?,
      String.length_utf8EncodeChar]
    congr 1
    omega
  rw [slashBefore?, own, List.getLast?_concat]
  cases ending : (String.utf8EncodeChar c).getLast? with
  | none =>
      have empty := List.getLast?_eq_none_iff.mp ending
      have long := String.length_utf8EncodeChar c
      rw [empty] at long
      exact absurd long.symm (Nat.ne_of_gt positive)
  | some byte =>
      rw [Option.map_some]
      congr 1
      have same := slash_byte c
      rw [ending] at same
      rw [Bool.eq_iff_iff, beq_iff_eq, beq_iff_eq]
      simpa using same

end StatementMapper.Text
