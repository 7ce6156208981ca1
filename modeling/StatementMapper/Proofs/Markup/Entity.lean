import Mathlib.Data.List.TakeWhile
import StatementMapper.Markup.Reader
import StatementMapper.Proofs.Text

set_option autoImplicit false

namespace StatementMapper

namespace Text

theorem split_first_at (separator : Char) (front rest : List Char) (absent : separator ∉ front) :
    splitFirst separator (front ++ separator :: rest) = (front, some rest) := by
  rw [split_first_append _ _ _ absent, splitFirst, if_pos rfl, List.append_nil]

end Text

namespace Markup

-- How a character of a text is written: the three that markup would take for its own become entities.
def entityOf (c : Char) : List Char :=
  if c = '&' then "&amp;".toList
  else if c = '<' then "&lt;".toList
  else if c = '>' then "&gt;".toList
  else [c]

def encode (text : List Char) : List Char := text.flatMap entityOf

theorem decode_plain (c : Char) (rest : List Char) (plain : c ≠ '&') : decode (c :: rest) = c :: decode rest := by
  rw [decode, if_neg plain]

theorem decode_entity (name rest : List Char) (c : Char) (known : entity? name = some c) (whole : ';' ∉ name) :
    decode ('&' :: (name ++ ';' :: rest)) = c :: decode rest := by
  have found : reference? (name ++ ';' :: rest) = some (c, rest) := by
    rw [reference?, Text.split_first_at _ _ _ whole]
    simp only [known, Option.map_some]
  have shorter : rest.length ≤ (name ++ ';' :: rest).length := by
    simp only [List.length_append, List.length_cons]
    omega
  rw [decode, if_pos rfl, found]
  exact if_pos shorter

theorem decode_entity_of (c : Char) (rest : List Char) : decode (entityOf c ++ rest) = c :: decode rest := by
  unfold entityOf
  by_cases ampersand : c = '&'
  · rw [if_pos ampersand, ampersand]
    exact decode_entity "amp".toList rest '&' rfl (by decide)
  · rw [if_neg ampersand]
    by_cases less : c = '<'
    · rw [if_pos less, less]
      exact decode_entity "lt".toList rest '<' rfl (by decide)
    · rw [if_neg less]
      by_cases greater : c = '>'
      · rw [if_pos greater, greater]
        exact decode_entity "gt".toList rest '>' rfl (by decide)
      · rw [if_neg greater]
        exact decode_plain c rest ampersand

theorem decode_encode (text : List Char) : decode (encode text) = text := by
  induction text with
  | nil => rw [encode, List.flatMap_nil, decode]
  | cons c rest ih =>
      rw [encode, List.flatMap_cons, decode_entity_of]
      exact congrArg (List.cons c) ih

theorem encode_tagless (text : List Char) : '<' ∉ encode text := by
  intro member
  obtain ⟨c, _, inside⟩ := List.mem_flatMap.mp member
  unfold entityOf at inside
  by_cases ampersand : c = '&'
  · rw [if_pos ampersand] at inside
    exact absurd inside (by decide)
  · rw [if_neg ampersand] at inside
    by_cases less : c = '<'
    · rw [if_pos less] at inside
      exact absurd inside (by decide)
    · rw [if_neg less] at inside
      by_cases greater : c = '>'
      · rw [if_pos greater] at inside
        exact absurd inside (by decide)
      · rw [if_neg greater] at inside
        exact less (List.mem_singleton.mp inside).symm

theorem events_run (c : Char) (rest : List Char) (untagged : c ≠ '<') :
    events (c :: rest) = .data (decode (c :: rest.takeWhile (· != '<'))) :: events (rest.dropWhile (· != '<')) := by
  rw [events, if_neg untagged]

theorem events_tagless (c : Char) (rest : List Char) (tagless : '<' ∉ c :: rest) :
    events (c :: rest) = [.data (decode (c :: rest))] := by
  have plain : c ≠ '<' := Ne.symm (List.ne_of_not_mem_cons tagless)
  have run : ∀ other ∈ rest, (other != '<') = true := by
    intro other member
    exact bne_iff_ne.mpr fun same => tagless (List.mem_cons_of_mem _ (same ▸ member))
  rw [events_run c rest plain, List.dropWhile_eq_nil_iff.mpr run, List.takeWhile_eq_self_iff.mpr run, events]

theorem parse_encode (text : List Char) :
    parse (String.ofList (encode text)) = .ok (if text.isEmpty then [] else [.text (String.ofList text)]) := by
  have read := decode_encode text
  unfold parse
  rw [String.toList_ofList]
  cases written : encode text with
  | nil =>
      rw [written, decode] at read
      rw [← read, events]
      rfl
  | cons c rest =>
      have tagless := encode_tagless text
      rw [written] at read tagless
      rw [events_tagless c rest tagless, read]
      cases text with
      | nil => exact absurd written (by simp [encode])
      | cons first more => rfl

end Markup

end StatementMapper
