set_option autoImplicit false

namespace StatementMapper.Text

def after? (pattern text : List Char) : Option (List Char) :=
  if pattern.isPrefixOf text then some (text.drop pattern.length) else none

def cut? (pattern : List Char) : List Char → Option (List Char × List Char)
  | [] => if pattern.isEmpty then some ([], []) else none
  | c :: rest =>
    match after? pattern (c :: rest) with
    | some tail => some ([], tail)
    | none => (cut? pattern rest).map fun (before, tail) => (c :: before, tail)

-- The text before and the text after the first separator; without one, the whole text and nothing.
def splitFirst (separator : Char) : List Char → List Char × Option (List Char)
  | [] => ([], none)
  | c :: rest =>
    if c = separator then ([], some rest)
    else
      let (head, tail) := splitFirst separator rest
      (c :: head, tail)

def split (separator : Char) : List Char → List (List Char)
  | [] => [[]]
  | c :: rest =>
    if c = separator then [] :: split separator rest
    else match split separator rest with
      | piece :: more => (c :: piece) :: more
      | [] => [[c]]

def endsWith (text pattern : List Char) : Bool := pattern.isSuffixOf text

theorem after_length {pattern text tail : List Char} (found : after? pattern text = some tail) :
    tail.length ≤ text.length := by
  unfold after? at found
  split at found
  · simp only [Option.some.injEq] at found
    subst found
    simp
  · simp at found

theorem after_shorter {pattern text tail : List Char} (nonempty : pattern ≠ [])
    (found : after? pattern text = some tail) : tail.length < text.length := by
  unfold after? at found
  split at found
  · rename_i h
    simp only [Option.some.injEq] at found
    subst found
    have bound := (List.isPrefixOf_iff_prefix.mp h).length_le
    have positive := List.length_pos_iff.mpr nonempty
    simp only [List.length_drop]
    omega
  · simp at found

theorem cut_length {pattern : List Char} : ∀ {text before tail : List Char},
    cut? pattern text = some (before, tail) → tail.length + before.length ≤ text.length
  | [], before, tail, found => by
    simp only [cut?] at found
    split at found <;> simp_all
  | c :: rest, before, tail, found => by
    simp only [cut?] at found
    split at found
    · rename_i h
      simp only [Option.some.injEq, Prod.mk.injEq] at found
      have bound := after_length h
      rw [← found.1, ← found.2]
      simpa using bound
    · simp only [Option.map_eq_some_iff, Prod.mk.injEq, Prod.exists] at found
      obtain ⟨head, rest', inner, rfl, rfl⟩ := found
      have bound := cut_length inner
      simp only [List.length_cons]
      omega

end StatementMapper.Text
