import StatementMapper.Proofs.Expr.Spelling
import StatementMapper.Proofs.Mapping
import StatementMapper.Proofs.Template.Loops
import StatementMapper.Proofs.Value.Paths

set_option autoImplicit false

/-! A loop renames a placeholder exactly when its property is the variable, alone or in front of a dot or white space. -/

namespace StatementMapper

namespace Text

theorem split_first_clear (separator : Char) (text : List Char) : separator ∉ (splitFirst separator text).1 := by
  induction text with
  | nil => exact List.not_mem_nil
  | cons c rest ih =>
      rw [splitFirst]
      by_cases same : c = separator
      · rw [if_pos same]
        exact List.not_mem_nil
      · rw [if_neg same]
        exact List.not_mem_cons_of_ne_of_not_mem (Ne.symm same) ih

theorem split_first_prefix (separator : Char) (text : List Char) : (splitFirst separator text).1 <+: text := by
  obtain ⟨after, shape, _⟩ := split_first_front separator text
  exact ⟨after, shape.symm⟩

theorem trim_end_prefix (text : List Char) : trimEnd text <+: text := by
  obtain ⟨blanks, shape, _⟩ := trim_end_back text
  exact ⟨blanks, shape.symm⟩

end Text

namespace Mapping

-- The head of a mapping behind its front, without white space at its end: more of the property, then the type.
def headBehind (text : List Char) : List Char := Text.trimEnd (Text.splitFirst ',' text).1

def remainder (text : List Char) : List Char := Text.trimEnd (Text.splitFirst ':' (headBehind text)).1

def typeBehind (text : List Char) : Option String :=
  (((Text.splitFirst ':' (headBehind text)).2.map Text.trim).filter (!·.isEmpty)).map String.ofList

def optionsBehind (text : List Char) : List (List Char) :=
  ((Text.splitFirst ',' text).2.map (Text.split ',')).getD []

theorem remainder_prefix (text : List Char) : remainder text <+: text := by
  have named : remainder text <+: (Text.splitFirst ':' (headBehind text)).1 := Text.trim_end_prefix _
  have head : headBehind text <+: (Text.splitFirst ',' text).1 := Text.trim_end_prefix _
  exact (named.trans (Text.split_first_prefix _ _)).trans (head.trans (Text.split_first_prefix _ _))

theorem remainder_undivided (text : List Char) : ',' ∉ remainder text ∧ ':' ∉ remainder text := by
  have named : remainder text <+: (Text.splitFirst ':' (headBehind text)).1 := Text.trim_end_prefix _
  have head : headBehind text <+: (Text.splitFirst ',' text).1 := Text.trim_end_prefix _
  constructor
  · intro comma
    exact Text.split_first_clear ',' text (((named.trans (Text.split_first_prefix _ _)).trans head).subset comma)
  · exact fun colon => Text.split_first_clear ':' _ (named.subset colon)

theorem parse_leading {front : List Char} (leading : Leading front) (blanks rest : List Char)
    (blank : ∀ c ∈ blanks, Text.isBlank c = true) :
    Mapping.parse (blanks ++ (front ++ rest)) =
      withOptions (String.ofList (blanks ++ (front ++ rest)))
        { property := String.ofList (front ++ remainder rest), jdbcType := typeBehind rest } (optionsBehind rest) := by
  have commaless : ',' ∉ blanks := fun member => absurd (blank ',' member) (by decide)
  have cut : Text.splitFirst ',' (blanks ++ (front ++ rest)) =
      (blanks ++ (front ++ (Text.splitFirst ',' rest).1), (Text.splitFirst ',' rest).2) := by
    rw [Text.split_first_append _ _ _ commaless, Text.split_first_append _ _ _ leading.commaless]
  have head (content : String) : ofHead content (blanks ++ (front ++ (Text.splitFirst ',' rest).1)) =
      .ok { property := String.ofList (front ++ remainder rest), jdbcType := typeBehind rest } := by
    have name : Text.trim (front ++ (Text.splitFirst ':' (headBehind rest)).1) = front ++ remainder rest :=
      Text.trim_around leading.firm [] _ fun c member => absurd member List.not_mem_nil
    have filled : ¬ (front ++ remainder rest).isEmpty = true := by
      have nonempty := ((Text.firm_iff front).mp leading.firm).1
      simp [nonempty]
    rw [ofHead, Text.trim_around leading.firm _ _ blank, Text.split_first_append _ _ _ leading.colonless]
    simp only [← headBehind.eq_1, name, if_neg filled]
    rfl
  rw [Mapping.parse, Text.split_at_first, cut]
  simp only [head]
  rfl

theorem parse_replaced {front other : List Char} (leading : Leading front) (replacing : Leading other)
    (blanks rest : List Char) (blank : ∀ c ∈ blanks, Text.isBlank c = true) (mapping : Mapping)
    (parsed : Mapping.parse (blanks ++ (front ++ rest)) = .ok mapping) :
    mapping.property = String.ofList (front ++ remainder rest) ∧
      Mapping.parse (other ++ rest) = .ok { mapping with property := String.ofList (other ++ remainder rest) } := by
  rw [parse_leading leading blanks rest blank] at parsed
  have second := parse_leading replacing [] rest fun c member => absurd member List.not_mem_nil
  rw [List.nil_append] at second
  rw [second]
  exact ⟨property_with_options _ _ _ _ parsed, with_options_elsewhere _ _ _ _ _ _ parsed⟩

end Mapping

namespace Template.Loop

open Mapping (Leading)

structure Unbroken (name : List Char) : Prop where
  nonempty : name ≠ []
  inside : ∀ c ∈ name, endsName [c] = false

theorem unbroken_append {left right : List Char} (first : Unbroken left) (inside : ∀ c ∈ right, endsName [c] = false) :
    Unbroken (left ++ right) where
  nonempty := fun empty => first.nonempty (List.append_eq_nil_iff.mp empty).1
  inside := fun c member => (List.mem_append.mp member).elim (first.inside c) (inside c)

theorem part_inside (c : Char) (part : Expr.isWordPart c = true) : endsName [c] = false := by
  simp only [endsName, Bool.or_eq_false_iff, beq_eq_false_iff_ne]
  refine ⟨⟨⟨?_, ?_⟩, ?_⟩, Expr.part_solid c part⟩ <;> (rintro rfl; exact absurd part (by decide))

theorem unbroken_identifier (word : List Char) (identifier : Expr.isIdentifier word = true) : Unbroken word where
  nonempty := by
    rintro rfl
    exact nomatch identifier
  inside := fun c member => part_inside c (Expr.identifier_parts word identifier c member)

theorem unbroken_bound {name : String} (unbroken : Unbroken name.toList) (number : Nat) :
    Unbroken (boundName name number).toList := by
  rw [bound_name_list]
  have generated : Unbroken "__frch_".toList := unbroken_identifier _ (by decide)
  have line : Unbroken "_".toList := unbroken_identifier _ (by decide)
  refine unbroken_append (unbroken_append (unbroken_append generated unbroken.inside) line.inside) fun c member => ?_
  exact part_inside c (Expr.digit_part c (Text.digits_of_number number c member))

theorem inside_iff (c : Char) : endsName [c] = false ↔ c ≠ '.' ∧ c ≠ ',' ∧ c ≠ ':' ∧ Text.isBlank c = false := by
  simp only [endsName, Bool.or_eq_false_iff, beq_eq_false_iff_ne, and_assoc]

theorem leading_of_unbroken {name : List Char} (unbroken : Unbroken name) : Leading name where
  firm := by
    have solid (c : Char) (member : c ∈ name) := ((inside_iff c).mp (unbroken.inside c member)).2.2.2
    exact ⟨⟨_, List.head?_eq_some_head unbroken.nonempty, solid _ (List.head_mem _)⟩,
      ⟨_, List.getLast?_eq_some_getLast unbroken.nonempty, solid _ (List.getLast_mem _)⟩⟩
  commaless := fun member => ((inside_iff ',').mp (unbroken.inside ',' member)).2.1 rfl
  colonless := fun member => ((inside_iff ':').mp (unbroken.inside ':' member)).2.2.1 rfl

theorem undotted_of_unbroken {name : List Char} (unbroken : Unbroken name) : '.' ∉ name :=
  fun member => ((inside_iff '.').mp (unbroken.inside '.' member)).1 rfl

theorem split_path_named (name tail : String) (undotted : '.' ∉ name.toList) :
    Value.splitPath (name ++ tail) =
      (name ++ (Value.splitPath tail).1, (Value.splitPath tail).2) := by
  rw [Value.splitPath, String.toList_append, Text.split_first_append _ _ _ undotted, Value.splitPath]
  simp

def Trails (tail : String) : Prop := ∀ c ∈ tail.toList.head?, c = '.' ∨ Text.isBlank c = true

-- What is read from a renamed placeholder is what was read from it, with the generated name in front.
theorem parse_renamed (name : String) (number : Nat) (content result : List Char) (mapping : Mapping)
    (unbroken : Unbroken name.toList) (parsed : Mapping.parse content = .ok mapping)
    (found : rename? name number content = some result) :
    ∃ tail : String, mapping.property = name ++ tail ∧ Trails tail ∧
      Mapping.parse result = .ok { mapping with property := boundName name number ++ tail } := by
  obtain ⟨rest, shape, ends, rfl⟩ := (rename_some_iff name number content result).mp found
  have whole : content.takeWhile Text.isBlank ++ (name.toList ++ rest) = content := by
    rw [← shape]
    exact List.takeWhile_append_dropWhile
  rw [← whole] at parsed
  have blank (c : Char) (member : c ∈ content.takeWhile Text.isBlank) : Text.isBlank c = true :=
    List.all_eq_true.mp List.all_takeWhile c member
  obtain ⟨property, again⟩ := Mapping.parse_replaced (leading_of_unbroken unbroken)
    (leading_of_unbroken (unbroken_bound unbroken number)) _ rest blank mapping parsed
  refine ⟨String.ofList (Mapping.remainder rest), ?_, fun c first => ?_, ?_⟩
  · rw [property, String.ofList_append, String.ofList_toList]
  · rw [String.toList_ofList] at first
    obtain ⟨more, starts⟩ := List.head?_eq_some_iff.mp first
    obtain ⟨after, remains⟩ := Mapping.remainder_prefix rest
    have undivided := Mapping.remainder_undivided rest
    rw [starts] at remains undivided
    rw [← remains] at ends
    simp only [endsName, List.cons_append, Bool.or_eq_true, beq_iff_eq] at ends
    rcases ends with ((dot | comma) | colon) | blank
    · exact Or.inl dot
    · exact absurd (comma ▸ List.mem_cons_self) undivided.1
    · exact absurd (colon ▸ List.mem_cons_self) undivided.2
    · exact Or.inr blank
  · rw [again, String.ofList_append, String.ofList_toList]

theorem rename_property (name : String) (number : Nat) (content : List Char) (mapping : Mapping) (tail : String)
    (parsed : Mapping.parse content = .ok mapping) (property : mapping.property = name ++ tail) (trails : Trails tail) :
    ∃ result, rename? name number content = some result := by
  obtain ⟨rest, whole, ends⟩ := Mapping.parse_front_property content mapping parsed
  rw [property, String.toList_append, List.append_assoc] at whole
  have delimited : endsName tail.toList = true := by
    unfold Trails at trails
    cases shape : tail.toList with
    | nil => rfl
    | cons c more =>
        rw [shape] at trails
        rcases trails c rfl with rfl | blank
        · rfl
        · simp [endsName, blank]
  exact ⟨_, (rename_some_iff name number content _).mpr
    ⟨_, whole, Template.Loop.ends_name_append _ _ delimited ends, rfl⟩⟩

theorem split_path_front (path : String) :
    ∃ tail : String, path = (Value.splitPath path).1 ++ tail ∧ ∀ c ∈ tail.toList.head?, c = '.' := by
  obtain ⟨after, shape, dots⟩ := Text.split_first_front '.' path.toList
  refine ⟨String.ofList after, ?_, fun c first => ?_⟩
  · rw [Value.splitPath, ← String.ofList_append, ← shape, String.ofList_toList]
  · rw [String.toList_ofList] at first
    rcases dots with none | dot
    · rw [none] at first
      cases first
    · exact Option.some.inj (first.symm.trans dot)

theorem rename_segment (name : String) (number : Nat) (content : List Char) (mapping : Mapping)
    (unbroken : Unbroken name.toList) (parsed : Mapping.parse content = .ok mapping)
    (segment : (Value.splitPath mapping.property).1 = name) :
    ∃ (result : List Char) (tail : String), rename? name number content = some result ∧
      mapping.property = name ++ tail ∧
      Mapping.parse result = .ok { mapping with property := boundName name number ++ tail } ∧
      Value.splitPath (boundName name number ++ tail) =
        (boundName name number, (Value.splitPath mapping.property).2) := by
  obtain ⟨behind, property, dots⟩ := split_path_front mapping.property
  rw [segment] at property
  obtain ⟨result, found⟩ :=
    rename_property name number content mapping behind parsed property fun c first => Or.inl (dots c first)
  obtain ⟨tail, property, _, again⟩ := parse_renamed name number content result mapping unbroken parsed found
  rw [property, split_path_named name tail (undotted_of_unbroken unbroken)] at segment ⊢
  have empty : (Value.splitPath tail).1 = "" := by
    have lists := congrArg String.toList segment
    rw [String.toList_append] at lists
    exact String.toList_eq_nil_iff.mp (List.append_right_eq_self.mp lists)
  refine ⟨result, tail, found, rfl, again, ?_⟩
  rw [split_path_named _ tail (undotted_of_unbroken (unbroken_bound unbroken number)), empty, String.append_empty]

theorem rename_none_iff (name : String) (number : Nat) (content : List Char) (mapping : Mapping)
    (unbroken : Unbroken name.toList) (parsed : Mapping.parse content = .ok mapping) :
    rename? name number content = none ↔ ∀ tail : String, mapping.property = name ++ tail → ¬ Trails tail := by
  constructor
  · intro missed tail property trails
    obtain ⟨result, found⟩ := rename_property name number content mapping tail parsed property trails
    rw [missed] at found
    cases found
  · intro untrailed
    cases found : rename? name number content with
    | none => rfl
    | some result =>
        obtain ⟨tail, property, trails, _⟩ := parse_renamed name number content result mapping unbroken parsed found
        exact absurd trails (untrailed tail property)

theorem rename_recognises (name : String) (number : Nat) (content : List Char) (mapping : Mapping)
    (unbroken : Unbroken name.toList) (parsed : Mapping.parse content = .ok mapping) :
    ((Value.splitPath mapping.property).1 = name →
      ∃ (result : List Char) (tail : String), rename? name number content = some result ∧
        mapping.property = name ++ tail ∧
        Mapping.parse result = .ok { mapping with property := boundName name number ++ tail } ∧
        Value.splitPath (boundName name number ++ tail) =
          (boundName name number, (Value.splitPath mapping.property).2)) ∧
    (rename? name number content = none ↔
      mapping.property ≠ name ∧
        ∀ c rest, mapping.property.toList = name.toList ++ c :: rest → c ≠ '.' ∧ Text.isBlank c = false) := by
  refine ⟨rename_segment name number content mapping unbroken parsed, ?_⟩
  rw [rename_none_iff name number content mapping unbroken parsed]
  constructor
  · intro untrailed
    refine ⟨fun same => untrailed "" (by rw [same, String.append_empty]) fun c first => ?_, fun c rest shape => ?_⟩
    · cases first
    · have other := untrailed (String.ofList (c :: rest)) (by rw [← String.toList_inj, shape]; simp)
      unfold Trails at other
      rw [String.toList_ofList, List.head?_cons] at other
      simpa using other
  · rintro ⟨differs, elsewhere⟩ tail property trails
    unfold Trails at trails
    cases shape : tail.toList with
    | nil =>
        rw [String.toList_eq_nil_iff.mp shape, String.append_empty] at property
        exact differs property
    | cons c rest =>
        obtain ⟨dot, solid⟩ := elsewhere c rest (by rw [property, String.toList_append, shape])
        rw [shape] at trails
        rcases trails c rfl with same | blank
        · exact dot same
        · rw [solid] at blank
          cases blank

theorem typed_renamed :
    (∃ (result : List Char) (tail : String), rename? "item" 7 " item.id : INT , mode=OUT".toList = some result ∧
      "item.id" = "item" ++ tail ∧
      Mapping.parse result = .ok { property := boundName "item" 7 ++ tail, mode := .output, jdbcType := some "INT" } ∧
      Value.splitPath (boundName "item" 7 ++ tail) = (boundName "item" 7, some "id")) ∧
    rename? "item" 7 "items, jdbcType=INT".toList = none := by
  have unbroken : Unbroken "item".toList := unbroken_identifier _ (by decide +kernel)
  have typed : Mapping.parse " item.id : INT , mode=OUT".toList =
      .ok { property := "item.id", mode := .output, jdbcType := some "INT" } := by rfl
  have longer : Mapping.parse "items, jdbcType=INT".toList = .ok { property := "items", jdbcType := some "INT" } := by rfl
  refine ⟨(rename_recognises "item" 7 _ _ unbroken typed).1 rfl, ?_⟩
  refine (rename_recognises "item" 7 _ _ unbroken longer).2.mpr ⟨by decide, fun c rest shape => ?_⟩
  have whole : "item".toList ++ ['s'] = "item".toList ++ c :: rest := shape
  rw [← (List.cons.inj (List.append_cancel_left whole)).1]
  decide

end Template.Loop

end StatementMapper
