import Mathlib.Data.List.DropRight
import StatementMapper.Proofs.Text.Offsets

set_option autoImplicit false

/-! At each end the first override that fits goes, with the white space next to it; no cut falls inside a character. -/

namespace StatementMapper

namespace Text

theorem upper_code (c : Char) :
    c.toUpper.toNat = if 97 ≤ c.toNat ∧ c.toNat ≤ 122 then c.toNat - 32 else c.toNat := by
  by_cases lower : 'a'.val ≤ c.val ∧ c.val ≤ 'z'.val
  · have range : 97 ≤ c.toNat ∧ c.toNat ≤ 122 :=
      ⟨UInt32.le_iff_toNat_le.mp lower.1, UInt32.le_iff_toNat_le.mp lower.2⟩
    have raised := congrArg (fun d : Char => d.val.toNat) (show c.toUpper = _ from dif_pos lower)
    simp only [UInt32.toNat_add] at raised
    have code : ('A'.val - 'a'.val).toNat = 2 ^ 32 - 32 := rfl
    rw [if_pos range, show c.toUpper.toNat = _ from raised, code]
    change (c.toNat + (2 ^ 32 - 32)) % 2 ^ 32 = c.toNat - 32
    omega
  · have same : c.toUpper = c := dif_neg lower
    have range : ¬ (97 ≤ c.toNat ∧ c.toNat ≤ 122) := fun range =>
      lower ⟨UInt32.le_iff_toNat_le.mpr range.1, UInt32.le_iff_toNat_le.mpr range.2⟩
    rw [if_neg range, same]

theorem size_upper (c : Char) : c.toUpper.utf8Size = c.utf8Size := by
  have code := upper_code c
  by_cases lower : 97 ≤ c.toNat ∧ c.toNat ≤ 122
  · rw [if_pos lower] at code
    have narrow (d : Char) (ascii : d.toNat ≤ 127) : d.utf8Size = 1 :=
      Char.utf8Size_eq_one_iff.mpr (UInt32.le_iff_toNat_le.mpr ascii)
    rw [narrow c (by omega), narrow c.toUpper (by omega)]
  · rw [if_neg lower] at code
    rw [Char.toNat_inj.mp code]

theorem blank_upper (c : Char) : isBlank c.toUpper = isBlank c := by
  have code := upper_code c
  by_cases lower : 97 ≤ c.toNat ∧ c.toNat ≤ 122
  · rw [if_pos lower] at code
    have solid (d : Char) (printed : 33 ≤ d.toNat ∧ d.toNat ≤ 126) : isBlank d = false := by
      simp only [isBlank, Bool.or_eq_false_iff, Bool.and_eq_false_iff, decide_eq_false_iff_not, beq_eq_false_iff_ne]
      omega
    rw [solid c (by omega), solid c.toUpper (by omega)]
  · rw [if_neg lower] at code
    rw [Char.toNat_inj.mp code]

theorem width_upper (text : List Char) : Template.Trimming.width (upper text) = Template.Trimming.width text := by
  induction text with
  | nil => rfl
  | cons c rest ih =>
      change Template.Trimming.width (c.toUpper :: upper rest) = _
      rw [width_cons, width_cons, size_upper, ih]

theorem firm_upper {text : List Char} (firm : Firm text) : Firm (upper text) := by
  obtain ⟨c, first, solid⟩ := firm.first
  obtain ⟨d, last, hard⟩ := firm.last
  refine ⟨⟨c.toUpper, ?_, (blank_upper c).trans solid⟩, ⟨d.toUpper, ?_, (blank_upper d).trans hard⟩⟩
  · rw [upper, List.head?_map, first]
    rfl
  · rw [upper, List.getLast?_map, last]
    rfl

theorem trim_front {text front : List Char} (firm : Firm text) (nonempty : front ≠ []) (starts : front <+: text) :
    trim front ≠ [] ∧ ∃ blanks, front = trim front ++ blanks := by
  obtain ⟨c, rest, rfl⟩ := List.exists_cons_of_ne_nil nonempty
  obtain ⟨more, rfl⟩ := starts
  obtain ⟨d, first, solid⟩ := firm.first
  obtain rfl : c = d := Option.some.inj first
  have kept := trim_start_solid c rest solid
  obtain ⟨blanks, shape, white⟩ := trim_end_back (c :: rest)
  rw [trim, kept]
  refine ⟨fun empty => ?_, blanks, shape⟩
  rw [empty, List.nil_append] at shape
  rw [white c (shape ▸ List.mem_cons_self)] at solid
  cases solid

theorem trim_back {text back : List Char} (firm : Firm text) (nonempty : back ≠ []) (ends : back <:+ text) :
    trim back ≠ [] ∧ ∃ blanks, back = blanks ++ trim back := by
  obtain ⟨more, rfl⟩ := ends
  obtain ⟨d, last, hard⟩ := firm.last
  have own : back.getLast? = some d := by
    rw [List.getLast?_append, List.getLast?_eq_some_getLast nonempty] at last
    rwa [List.getLast?_eq_some_getLast nonempty]
  have parts : back.takeWhile isBlank ++ trimStart back = back := List.takeWhile_append_dropWhile
  have kept : (trimStart back).getLast? = some d := by
    rw [← parts, List.getLast?_append] at own
    cases left : (trimStart back).getLast? with
    | some c => rwa [left] at own
    | none =>
        rw [left] at own
        have white := List.all_eq_true.mp List.all_takeWhile d (List.mem_of_getLast? own)
        rw [white] at hard
        cases hard
  rw [trim, trim_end_solid _ d hard kept]
  refine ⟨fun empty => ?_, _, parts.symm⟩
  rw [empty] at kept
  cases kept

end Text

namespace Template.Trimming

open Text (Firm cutAt?)

def First (fits : List Char → Prop) (overrides : List (List Char)) (override : List Char) : Prop :=
  fits override ∧ ∃ earlier later, overrides = earlier ++ override :: later ∧ ∀ other ∈ earlier, ¬ fits other

inductive Taken (fits : List Char → Prop) (overrides : List (List Char)) : List Char → Prop where
  | nothing (unfit : ∀ override ∈ overrides, ¬ fits override) : Taken fits overrides []
  | override {override piece : List Char} (first : First fits overrides override)
      (same : Text.upper piece = Text.trim override) : Taken fits overrides piece

-- What goes from one end of a text: a piece for an override and the white space next to it.
structure Stripped (fits : List Char → Prop) (overrides : List (List Char)) (piece blank : List Char) : Prop where
  taken : Taken fits overrides piece
  white : Text.allBlank blank = true
  bare : piece = [] → blank = []

-- A word that starts like an identifier is not the tail of a longer one.
inductive Ends (text override : List Char) : Prop where
  | written (ends : override <:+ text)
  | word {before : List Char} (split : text = before ++ Text.trim override) (nonempty : Text.trim override ≠ [])
      (whole : ∀ c ∈ (Text.trim override).head?, c.isAlphanum = true →
        ∀ d ∈ before.getLast?, d.isAlphanum = false ∧ d ≠ '_')

theorem ends_with_word_iff (text word : List Char) :
    endsWithWord text word = true ↔ word ≠ [] ∧ ∃ before, text = before ++ word ∧
      ∀ c ∈ word.head?, c.isAlphanum = true → ∀ d ∈ before.getLast?, d.isAlphanum = false ∧ d ≠ '_' := by
  by_cases ends : word <:+ text
  · obtain ⟨before, rfl⟩ := ends
    have found : Text.endsWith (before ++ word) word = true := List.isSuffixOf_iff_suffix.mpr (List.suffix_append _ _)
    have front : (before ++ word).take ((before ++ word).length - word.length) = before := by simp
    have only (other : List Char) : before ++ word = other ++ word ↔ before = other := List.append_left_inj word
    cases word with
    | nil => simp [endsWithWord]
    | cons c rest =>
        rw [endsWithWord, found, front]
        simp only [only, exists_eq_left']
        by_cases named : c.isAlphanum = true
        · cases last : before.getLast? with
          | none => simp [named]
          | some d => simp [named]
        · simp [named]
  · have absent : Text.endsWith text word = false := by
      rw [Text.endsWith, Bool.eq_false_iff]
      exact fun suffix => ends (List.isSuffixOf_iff_suffix.mp suffix)
    constructor
    · intro found
      simp [endsWithWord, absent] at found
    · rintro ⟨_, before, rfl, _⟩
      exact absurd (List.suffix_append _ _) ends

theorem matches_end_iff (text override : List Char) : matchesEnd text override = true ↔ Ends text override := by
  rw [matchesEnd, Bool.or_eq_true, ends_with_word_iff, Text.endsWith, List.isSuffixOf_iff_suffix]
  constructor
  · rintro (ends | ⟨nonempty, before, split, whole⟩)
    · exact .written ends
    · exact .word split nonempty whole
  · rintro (ends | ⟨split, nonempty, whole⟩)
    · exact Or.inl ends
    · exact Or.inr ⟨nonempty, _, split, whole⟩

theorem find_first {fits : List Char → Prop} {test : List Char → Bool} (decides : ∀ override, test override = true ↔ fits override)
    (overrides : List (List Char)) (override : List Char) :
    overrides.find? test = some override ↔ First fits overrides override := by
  rw [List.find?_eq_some_iff_append, decides, First]
  simp only [Bool.not_eq_true', ← Bool.not_eq_true, decides]

theorem find_nothing {fits : List Char → Prop} {test : List Char → Bool} (decides : ∀ override, test override = true ↔ fits override)
    {overrides : List (List Char)} (missing : overrides.find? test = none) (override : List Char)
    (member : override ∈ overrides) : ¬ fits override := fun fit =>
  List.find?_eq_none.mp missing override member ((decides override).mpr fit)

theorem leading_override {text override : List Char} (firm : Firm text) (nonempty : override ≠ [])
    (starts : override <+: Text.upper text) :
    ∃ head rest, text = head ++ rest ∧ head ≠ [] ∧ Text.upper head = Text.trim override := by
  obtain ⟨solid, blanks, parts⟩ := Text.trim_front (Text.firm_upper firm) nonempty starts
  obtain ⟨more, whole⟩ := starts
  rw [parts, List.append_assoc] at whole
  obtain ⟨head, rest, split, upper, _⟩ := List.map_eq_append_iff.mp whole.symm
  exact ⟨head, rest, split, fun empty => solid (by rw [← upper, empty]; rfl), upper⟩

theorem trailing_override {text override : List Char} (firm : Firm text) (nonempty : override ≠ [])
    (ends : Ends (Text.upper text) override) :
    ∃ rest tail, text = rest ++ tail ∧ tail ≠ [] ∧ Text.upper tail = Text.trim override := by
  have cut : ∃ before, Text.upper text = before ++ Text.trim override ∧ Text.trim override ≠ [] := by
    cases ends with
    | written ends =>
        obtain ⟨solid, blanks, parts⟩ := Text.trim_back (Text.firm_upper firm) nonempty ends
        obtain ⟨more, whole⟩ := ends
        rw [parts, ← List.append_assoc] at whole
        exact ⟨more ++ blanks, whole.symm, solid⟩
    | word split solid whole => exact ⟨_, split, solid⟩
  obtain ⟨before, whole, solid⟩ := cut
  obtain ⟨rest, tail, split, _, upper⟩ := List.map_eq_append_iff.mp whole
  exact ⟨rest, tail, split, fun empty => solid (by rw [← upper, empty]; rfl), upper⟩

theorem leading_stripped (t : Trimming) (text : List Char) (firm : Firm text) (plain : ∀ override ∈ t.leading, override ≠ []) :
    ∃ head gap, text = head ++ gap ++ t.stripLeading text ∧ Stripped (· <+: Text.upper text) t.leading head gap ∧
      Text.trimStart (t.stripLeading text) = t.stripLeading text ∧
      ∀ override, First (· <+: Text.upper text) t.leading override →
        (cutAt? (width (Text.trim override)) text).map Prod.snd = some (cutStart (width (Text.trim override)) text) := by
  have decides (override : List Char) : override.isPrefixOf (Text.upper text) = true ↔ override <+: Text.upper text :=
    List.isPrefixOf_iff_prefix
  cases found : t.leading.find? fun override => override.isPrefixOf (Text.upper text) with
  | none =>
      have same : t.stripLeading text = text := by rw [stripLeading, found]
      rw [same]
      refine ⟨[], [], rfl, ⟨.nothing (find_nothing decides found), rfl, fun _ => rfl⟩, Text.firm_start firm,
        fun override first => ?_⟩
      rw [(find_first decides _ _).mpr first] at found
      cases found
  | some override =>
      have first := (find_first decides _ _).mp found
      have member := List.mem_of_find?_eq_some found
      obtain ⟨head, rest, rfl, solid, upper⟩ := leading_override firm (plain override member) first.1
      have wide : width (Text.trim override) = width head := by rw [← upper, Text.width_upper]
      have left : t.stripLeading (head ++ rest) = Text.trimStart rest := by
        rw [stripLeading, found]
        simp only [wide, Text.cut_start_front]
      refine ⟨head, rest.takeWhile Text.isBlank, ?_,
        ⟨.override first upper, List.all_takeWhile, fun none => absurd none solid⟩, ?_, fun other same => ?_⟩
      · rw [left, List.append_assoc, Text.trimStart, List.takeWhile_append_dropWhile]
      · rw [left]
        exact List.dropWhile_idempotent _ _
      · rw [(find_first decides _ _).mpr same] at found
        obtain rfl := Option.some.inj found
        rw [wide, Text.cut_at_width, Text.cut_start_front]
        rfl

theorem trailing_stripped (t : Trimming) (text : List Char) (tidy : text = [] ∨ Firm text)
    (plain : ∀ override ∈ t.trailing, override ≠ []) :
    ∃ space tail, text = t.stripTrailing text ++ space ++ tail ∧ Stripped (Ends (Text.upper text)) t.trailing tail space ∧
      Text.trimEnd (t.stripTrailing text) = t.stripTrailing text ∧
      ∀ override, First (Ends (Text.upper text)) t.trailing override →
        (cutAt? (width text - width (Text.trim override)) text).map Prod.fst =
          some (cutEnd (width (Text.trim override)) text) := by
  have decides := matches_end_iff (Text.upper text)
  cases found : t.trailing.find? fun override => matchesEnd (Text.upper text) override with
  | none =>
      have same : t.stripTrailing text = text := by rw [stripTrailing, found]
      have kept : Text.trimEnd text = text := by
        rcases tidy with rfl | firm
        · rfl
        · exact Text.firm_end firm
      rw [same]
      refine ⟨[], [], by simp, ⟨.nothing (find_nothing decides found), rfl, fun _ => rfl⟩, kept, fun override first => ?_⟩
      rw [(find_first decides _ _).mpr first] at found
      cases found
  | some override =>
      have first := (find_first decides _ _).mp found
      have member := List.mem_of_find?_eq_some found
      have firm : Firm text := by
        rcases tidy with rfl | firm
        · cases first.1 with
          | written ends => exact absurd (List.suffix_nil.mp ends) (plain override member)
          | word split nonempty => exact absurd (List.append_eq_nil_iff.mp split.symm).2 nonempty
        · exact firm
      obtain ⟨rest, tail, rfl, solid, upper⟩ := trailing_override firm (plain override member) first.1
      have wide : width (Text.trim override) = width tail := by rw [← upper, Text.width_upper]
      have left : t.stripTrailing (rest ++ tail) = Text.trimEnd rest := by
        rw [stripTrailing, found]
        simp only [wide, Text.cut_end_back]
      obtain ⟨blanks, parts, white⟩ := Text.trim_end_back rest
      refine ⟨blanks, tail, ?_, ⟨.override first upper, List.all_eq_true.mpr white, fun none => absurd none solid⟩, ?_,
        fun other same => ?_⟩
      · rw [left, ← parts]
      · rw [left, Text.trimEnd, Text.trimEnd, List.reverse_reverse, List.dropWhile_idempotent]
      · rw [(find_first decides _ _).mpr same] at found
        obtain rfl := Option.some.inj found
        rw [wide, Text.width_append, Nat.add_sub_cancel, Text.cut_at_width, Text.cut_end_back]
        rfl

def opening (side : Option String) : List Char :=
  match side with
  | some text => if text = "" then [] else text.toList ++ [' ']
  | none => []

def closing (side : Option String) : List Char :=
  match side with
  | some text => if text = "" then [] else ' ' :: text.toList
  | none => []

theorem opening_addition (side : Option String) : opening side = ((addition side).map (· ++ [' '])).getD [] := by
  cases side with
  | none => rfl
  | some text => by_cases empty : text = "" <;> simp [opening, addition, Option.filter, empty]

theorem closing_addition (side : Option String) : closing side = ((addition side).map (' ' :: ·)).getD [] := by
  cases side with
  | none => rfl
  | some text => by_cases empty : text = "" <;> simp [closing, addition, Option.filter, empty]

theorem decorate_stripped (t : Trimming) (text : List Char) :
    t.decorate text = opening t.before ++ t.stripTrailing (t.stripLeading text) ++ closing t.after := by
  rw [decorate, opening_addition, closing_addition]
  cases addition t.before with
  | none => cases addition t.after <;> simp
  | some front => cases addition t.after <;> simp

theorem overrides_plain (list : Option String) (override : List Char) (member : override ∈ overrides list) : override ≠ [] := by
  cases list with
  | none => cases member
  | some entries =>
      obtain ⟨entry, kept, rfl⟩ := List.mem_map.mp member
      have solid := (List.mem_filter.mp kept).2
      intro empty
      rw [List.map_eq_nil_iff.mp empty] at solid
      cases solid

theorem tidy_back {front back : List Char} (firm : Firm (front ++ back)) (kept : Text.trimStart back = back) :
    back = [] ∨ Firm back := by
  cases back with
  | nil => exact Or.inl rfl
  | cons c rest =>
      obtain ⟨d, last, hard⟩ := firm.last
      rw [List.getLast?_append_cons] at last
      have solid := List.head?_dropWhile_not Text.isBlank (c :: rest)
      rw [show (c :: rest).dropWhile Text.isBlank = c :: rest from kept] at solid
      exact Or.inr ⟨⟨c, rfl, solid⟩, ⟨d, last, hard⟩⟩

theorem tidy_front {front back : List Char} (tidy : front ++ back = [] ∨ Firm (front ++ back))
    (kept : Text.trimEnd front = front) : Text.trim front = front := by
  cases front with
  | nil => rfl
  | cons c rest =>
      rcases tidy with empty | firm
      · cases empty
      · obtain ⟨d, first, solid⟩ := firm.first
        obtain rfl : c = d := Option.some.inj first
        rw [Text.trim, Text.trim_start_solid c rest solid, kept]

-- The cuts are made between characters, so that none of them leaves nothing for want of a place.
structure Parted (leading trailing : List (List Char)) (text head gap core space tail : List Char) : Prop where
  whole : text = head ++ gap ++ (core ++ space ++ tail)
  front : Stripped (· <+: Text.upper text) leading head gap
  back : Stripped (Ends (Text.upper (core ++ space ++ tail))) trailing tail space
  tidy : Text.trim core = core
  cut_front : ∀ override, First (· <+: Text.upper text) leading override →
    (cutAt? (width (Text.trim override)) text).map Prod.snd = some (cutStart (width (Text.trim override)) text)
  cut_back : ∀ override, First (Ends (Text.upper (core ++ space ++ tail))) trailing override →
    (cutAt? (width (core ++ space ++ tail) - width (Text.trim override)) (core ++ space ++ tail)).map Prod.fst =
      some (cutEnd (width (Text.trim override)) (core ++ space ++ tail))

theorem overrides_trimmed (before after leading trailing : Option String) (text : List Char) (nonempty : text ≠ [])
    (trimmed : Text.trim text = text) :
    ∃ head gap core space tail, Parted (overrides leading) (overrides trailing) text head gap core space tail ∧
      decorate ⟨before, after, overrides leading, overrides trailing⟩ text = opening before ++ core ++ closing after := by
  have firm := (Text.firm_iff text).mpr ⟨nonempty, trimmed⟩
  obtain ⟨head, gap, split, front, started, cutFront⟩ :=
    leading_stripped ⟨before, after, overrides leading, overrides trailing⟩ text firm (overrides_plain leading)
  have tidy := tidy_back (split ▸ firm) started
  obtain ⟨space, tail, parts, back, ended, cutBack⟩ :=
    trailing_stripped ⟨before, after, overrides leading, overrides trailing⟩ _ tidy (overrides_plain trailing)
  have written := decorate_stripped ⟨before, after, overrides leading, overrides trailing⟩ text
  generalize stripTrailing _ _ = core at parts ended written
  rw [parts] at split tidy back cutBack
  rw [List.append_assoc core] at tidy
  exact ⟨head, gap, core, space, tail, ⟨split, front, back, tidy_front tidy ended, cutFront, cutBack⟩, written⟩

-- The first override is the second of its list; the last one is found as a word behind a space other than its own.
theorem padded_trimmed :
    "and\u00a0é ≠ 1\u00a0or".toList ≠ [] ∧ Text.trim "and\u00a0é ≠ 1\u00a0or".toList = "and\u00a0é ≠ 1\u00a0or".toList ∧
      (∃ head gap core space tail, Parted (overrides (some "or |and")) (overrides (some " or"))
          "and\u00a0é ≠ 1\u00a0or".toList head gap core space tail ∧
        decorate ⟨some "WHERE", some "", overrides (some "or |and"), overrides (some " or")⟩ "and\u00a0é ≠ 1\u00a0or".toList =
          opening (some "WHERE") ++ core ++ closing (some "")) ∧
      decorate ⟨some "WHERE", some "", overrides (some "or |and"), overrides (some " or")⟩ "and\u00a0é ≠ 1\u00a0or".toList =
        "WHERE é ≠ 1".toList :=
  ⟨by decide, by decide, overrides_trimmed _ _ _ _ _ (by decide) (by decide), by decide +kernel⟩

end Template.Trimming

end StatementMapper
