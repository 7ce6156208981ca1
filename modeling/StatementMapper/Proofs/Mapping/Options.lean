import Mathlib.Data.List.Forall2
import StatementMapper.Proofs.Mapping
import StatementMapper.Proofs.Text.Numerals

set_option autoImplicit false

/-! A property with its options behind it is read back, in any order and with any white space. -/

namespace StatementMapper

namespace Text

def Around (text written : List Char) : Prop :=
  ∃ before behind, allBlank before = true ∧ allBlank behind = true ∧ written = before ++ (text ++ behind)

theorem drop_blanks (blanks text : List Char) (blank : allBlank blanks = true) :
    (blanks ++ text).dropWhile isBlank = text.dropWhile isBlank :=
  List.dropWhile_append_of_pos (List.all_eq_true.mp blank)

theorem trim_end_blanks (text blanks : List Char) (blank : allBlank blanks = true) :
    trimEnd (text ++ blanks) = trimEnd text := by
  have reversed : allBlank blanks.reverse = true := by rwa [allBlank, List.all_reverse]
  rw [trimEnd, List.reverse_append, drop_blanks _ _ reversed]
  rfl

theorem around_trimmed {text written : List Char} (trimmed : trim text = text) (around : Around text written) :
    trim written = text := by
  obtain ⟨before, behind, blankBefore, blankBehind, rfl⟩ := around
  have nothing : trimEnd behind = [] := trim_end_blanks [] behind blankBehind
  by_cases empty : text = []
  · have gone := drop_blanks behind [] blankBehind
    rw [List.append_nil] at gone
    rw [empty, List.nil_append, trim, trimStart, drop_blanks before behind blankBefore, gone]
    rfl
  · rw [trim_around ((firm_iff text).mpr ⟨empty, trimmed⟩) before behind (List.all_eq_true.mp blankBefore), nothing,
      List.append_nil]

theorem around_absent {text written : List Char} (separator : Char) (solid : isBlank separator = false)
    (absent : separator ∉ text) (around : Around text written) : separator ∉ written := by
  obtain ⟨before, behind, blankBefore, blankBehind, rfl⟩ := around
  intro member
  simp only [List.mem_append] at member
  obtain inside | inside | inside := member
  · exact absurd (List.all_eq_true.mp blankBefore _ inside) (by simp [solid])
  · exact absent inside
  · exact absurd (List.all_eq_true.mp blankBehind _ inside) (by simp [solid])

theorem split_behind (separator : Char) (tail : List Char) (ends : tail = [] ∨ tail.head? = some separator) :
    ∃ pieces, ∀ front, separator ∉ front → split separator (front ++ tail) = front :: pieces := by
  cases tail with
  | nil => exact ⟨[], fun front absent => by rw [List.append_nil, split_absent separator front absent]⟩
  | cons c rest =>
      have same : c = separator := by simpa using ends
      refine ⟨split separator rest, fun front absent => ?_⟩
      rw [same, split_append, split_absent separator front absent]
      rfl

theorem split_join (separator : Char) (piece : List Char) (more : List (List Char))
    (absent : ∀ text ∈ piece :: more, separator ∉ text) :
    split separator ([separator].intercalate (piece :: more)) = piece :: more := by
  induction more generalizing piece with
  | nil => simpa using split_absent separator piece (absent piece List.mem_cons_self)
  | cons next later ih =>
      rw [List.intercalate_cons_cons, List.append_assoc, List.singleton_append, split_append,
        split_absent separator piece (absent piece List.mem_cons_self),
        ih next fun text member => absent text (List.mem_cons_of_mem _ member)]
      rfl

end Text

namespace Mapping

inductive Label where
  | javaType
  | jdbcType
  | jdbcTypeName
  | typeHandler
  | resultMap
deriving DecidableEq

namespace Label

def name : Label → String
  | javaType => "javaType"
  | jdbcType => "jdbcType"
  | jdbcTypeName => "jdbcTypeName"
  | typeHandler => "typeHandler"
  | resultMap => "resultMap"

def get (mapping : Mapping) : Label → Option String
  | javaType => mapping.javaType
  | jdbcType => mapping.jdbcType
  | jdbcTypeName => mapping.jdbcTypeName
  | typeHandler => mapping.typeHandler
  | resultMap => mapping.resultMap

def put (text : Option String) (mapping : Mapping) : Label → Mapping
  | javaType => { mapping with javaType := text.or mapping.javaType }
  | jdbcType => { mapping with jdbcType := text.or mapping.jdbcType }
  | jdbcTypeName => { mapping with jdbcTypeName := text.or mapping.jdbcTypeName }
  | typeHandler => { mapping with typeHandler := text.or mapping.typeHandler }
  | resultMap => { mapping with resultMap := text.or mapping.resultMap }

def all : List Label := [javaType, jdbcType, jdbcTypeName, typeHandler, resultMap]

end Label

inductive Hint where
  | text (label : Label) (content : String)
  | mode (direction : Mode)
  | scale (digits : Nat)
deriving DecidableEq

namespace Hint

def name : Hint → String
  | text label _ => label.name
  | mode _ => "mode"
  | scale _ => "numericScale"

def value : Hint → String
  | text _ content => content
  | mode direction => direction.name
  | scale digits => toString digits

def put (mapping : Mapping) : Hint → Mapping
  | text label content => label.put (some content) mapping
  | mode direction => { mapping with mode := direction }
  | scale digits => { mapping with numericScale := some digits }

-- A value that can stand behind a name: a text that nothing is trimmed off and no comma cuts, a number of 32 bits.
def Sound : Hint → Prop
  | text _ content => Text.trim content.toList = content.toList ∧ ',' ∉ content.toList
  | mode _ => True
  | scale digits => digits < Word.bound32

def Written (hint : Hint) (piece : List Char) : Prop :=
  ∃ name value, Text.Around hint.name.toList name ∧ Text.Around hint.value.toList value ∧ piece = name ++ '=' :: value

theorem name_letters (hint : Hint) : ∀ c ∈ hint.name.toList, c.isAlpha = true := by
  apply List.all_eq_true.mp
  cases hint with
  | text label content =>
      change label.name.toList.all Char.isAlpha = true
      cases label <;> decide
  | mode direction => exact (by decide : "mode".toList.all Char.isAlpha = true)
  | scale digits => exact (by decide : "numericScale".toList.all Char.isAlpha = true)

theorem name_clear (hint : Hint) (separator : Char) (sign : separator.isAlpha = false) : separator ∉ hint.name.toList := by
  intro member
  have letter := hint.name_letters separator member
  rw [sign] at letter
  cases letter

theorem name_trimmed (hint : Hint) : Text.trim hint.name.toList = hint.name.toList :=
  Text.trim_all_solid _ fun c member => Text.solid_of_alpha c (hint.name_letters c member)

theorem digit_code (c : Char) (digit : c.isDigit = true) : Text.isBlank c = false ∧ c ≠ ',' := by
  have accepted := Text.alphanumeric_of_alphanum c (by rw [Char.isAlphanum, digit, Bool.or_true])
  exact ⟨Text.solid_of_alphanumeric c accepted, fun same => absurd digit (by rw [same]; decide)⟩

theorem value_trimmed (hint : Hint) (sound : hint.Sound) : Text.trim hint.value.toList = hint.value.toList := by
  cases hint with
  | text label content => exact sound.1
  | mode direction => cases direction <;> rfl
  | scale digits =>
      exact Text.trim_all_solid _ fun c member => (digit_code c (Text.digits_of_number digits c member)).1

theorem value_clear (hint : Hint) (sound : hint.Sound) : ',' ∉ hint.value.toList := by
  cases hint with
  | text label content => exact sound.2
  | mode direction => cases direction <;> decide
  | scale digits => exact fun member => (digit_code ',' (Text.digits_of_number digits ',' member)).2 rfl

theorem written_clear (hint : Hint) (sound : hint.Sound) (piece : List Char) (written : hint.Written piece) :
    ',' ∉ piece := by
  obtain ⟨name, value, named, valued, rfl⟩ := written
  have left := Text.around_absent ',' rfl (hint.name_clear ',' rfl) named
  have right := Text.around_absent ',' rfl (hint.value_clear sound) valued
  simp [left, right]

theorem with_option_put (hint : Hint) (sound : hint.Sound) (content : String) (mapping : Mapping) :
    withOption content mapping hint.name hint.value.toList = .ok (hint.put mapping) := by
  cases hint with
  | text label text => cases label <;> simp [withOption, name, Label.name, value, put, Label.put]
  | mode direction => cases direction <;> rfl
  | scale digits =>
      have small : digits < Word.bound32 := sound
      simp only [withOption, name, value, Text.bounded_number, if_pos small, put]

theorem with_options_put (hint : Hint) (sound : hint.Sound) (piece : List Char) (written : hint.Written piece)
    (content : String) (mapping : Mapping) (more : List (List Char)) :
    withOptions content mapping (piece :: more) = withOptions content (hint.put mapping) more := by
  obtain ⟨name, value, named, valued, rfl⟩ := written
  have cut : Text.splitFirst '=' (name ++ '=' :: value) = (name, some value) := by
    rw [Text.split_first_append '=' name _ (Text.around_absent '=' rfl (hint.name_clear '=' rfl) named)]
    simp [Text.splitFirst]
  rw [withOptions, cut]
  simp only [Text.around_trimmed hint.name_trimmed named, Text.around_trimmed (hint.value_trimmed sound) valued,
    String.ofList_toList, hint.with_option_put sound]
  rfl

end Hint

theorem with_options_all (content : String) (order : List Hint) (sound : ∀ hint ∈ order, hint.Sound)
    (pieces : List (List Char)) (written : List.Forall₂ Hint.Written order pieces) (mapping : Mapping) :
    withOptions content mapping pieces = .ok (order.foldl Hint.put mapping) := by
  induction written generalizing mapping with
  | nil => rfl
  | @cons hint piece others more own _ ih =>
      rw [hint.with_options_put (sound hint List.mem_cons_self) piece own, List.foldl_cons]
      exact ih (fun other member => sound other (List.mem_cons_of_mem _ member)) _

def options (mapping : Mapping) : List Hint :=
  .mode mapping.mode :: (Label.all.filterMap fun label => (label.get mapping).map (Hint.text label)) ++
    (mapping.numericScale.map Hint.scale).toList

theorem hint_of_mapping (mapping : Mapping) (hint : Hint) (member : hint ∈ mapping.options) :
    match hint with
    | .text label content => label.get mapping = some content
    | .mode direction => direction = mapping.mode
    | .scale digits => mapping.numericScale = some digits := by
  simp only [options, List.cons_append, List.mem_cons, List.mem_append, List.mem_filterMap, Option.mem_toList,
    Option.map_eq_some_iff] at member
  obtain rfl | ⟨label, _, content, found, rfl⟩ | ⟨digits, found, rfl⟩ := member
  · rfl
  · exact found
  · exact found

theorem put_labels_comm (first second : Label) (differ : first ≠ second) (text other : Option String) (mapping : Mapping) :
    second.put other (first.put text mapping) = first.put text (second.put other mapping) := by
  cases first <;> cases second <;> first | rfl | exact absurd rfl differ

theorem put_comm (mapping : Mapping) (first second : Hint) (own : first ∈ mapping.options) (other : second ∈ mapping.options)
    (start : Mapping) : second.put (first.put start) = first.put (second.put start) := by
  have given := hint_of_mapping mapping first own
  have also := hint_of_mapping mapping second other
  cases first with
  | text label content =>
      cases second with
      | text next text =>
          by_cases same : label = next
          · subst same
            cases given.symm.trans also
            rfl
          · exact put_labels_comm label next same _ _ start
      | mode direction => cases label <;> rfl
      | scale digits => cases label <;> rfl
  | mode direction =>
      cases second with
      | text label content => cases label <;> rfl
      | mode next =>
          cases given.trans also.symm
          rfl
      | scale digits => rfl
  | scale digits =>
      cases second with
      | text label content => cases label <;> rfl
      | mode direction => rfl
      | scale next =>
          cases given.symm.trans also
          rfl

theorem put_none (label : Label) (mapping : Mapping) : label.put none mapping = mapping := by
  cases label <;> rfl

theorem put_labels (mapping : Mapping) (labels : List Label) (start : Mapping) :
    (labels.filterMap fun label => (label.get mapping).map (Hint.text label)).foldl Hint.put start =
      labels.foldl (fun reached label => label.put (label.get mapping) reached) start := by
  induction labels generalizing start with
  | nil => rfl
  | cons label more ih =>
      rw [List.foldl_cons, ← ih]
      cases found : label.get mapping with
      | none => simp [found, put_none]
      | some content => simp [found, Hint.put]

theorem put_options (mapping start : Mapping) :
    mapping.options.foldl Hint.put start =
      { property := start.property, mode := mapping.mode, javaType := mapping.javaType.or start.javaType,
        jdbcType := mapping.jdbcType.or start.jdbcType, jdbcTypeName := mapping.jdbcTypeName.or start.jdbcTypeName,
        numericScale := mapping.numericScale.or start.numericScale,
        typeHandler := mapping.typeHandler.or start.typeHandler, resultMap := mapping.resultMap.or start.resultMap } := by
  rw [options, List.cons_append, List.foldl_cons, List.foldl_append, put_labels]
  cases mapping.numericScale <;> rfl

structure Writable (mapping : Mapping) : Prop where
  property : Leading mapping.property.toList
  options : ∀ hint ∈ mapping.options, hint.Sound

def Listed (mapping : Mapping) (pieces : List (List Char)) : Prop :=
  ∃ order : List Hint, order.Perm mapping.options ∧ List.Forall₂ Hint.Written order pieces

theorem listed_clear (mapping : Mapping) (writable : Writable mapping) (pieces : List (List Char))
    (listed : Listed mapping pieces) : ∀ piece ∈ pieces, ',' ∉ piece := by
  obtain ⟨order, same, written⟩ := listed
  have sound : ∀ hint ∈ order, hint.Sound := fun hint member => writable.options hint (same.mem_iff.mp member)
  clear same
  induction written with
  | nil => exact fun piece member => absurd member List.not_mem_nil
  | @cons hint piece others more own _ ih =>
      intro other member
      cases member with
      | head => exact hint.written_clear (sound hint List.mem_cons_self) piece own
      | tail _ later => exact ih (fun other member => sound other (List.mem_cons_of_mem _ member)) other later

theorem with_options_listed (mapping : Mapping) (writable : Writable mapping) (pieces : List (List Char))
    (listed : Listed mapping pieces) (content : String) (start : Mapping) :
    withOptions content start pieces = .ok (mapping.options.foldl Hint.put start) := by
  obtain ⟨order, same, written⟩ := listed
  have sound : ∀ hint ∈ order, hint.Sound := fun hint member => writable.options hint (same.mem_iff.mp member)
  rw [with_options_all content order sound pieces written start]
  refine congrArg Except.ok (same.foldl_eq' (fun first own second other reached => ?_) start)
  exact put_comm mapping first second (same.mem_iff.mp own) (same.mem_iff.mp other) reached

theorem of_head_property (property : String) (leading : Leading property.toList) (written : List Char)
    (around : Text.Around property.toList written) (content : String) : ofHead content written = .ok { property } := by
  obtain ⟨nonempty, trimmed⟩ := (Text.firm_iff _).mp leading.firm
  rw [ofHead, Text.around_trimmed trimmed around, Text.split_first_absent ':' _ leading.colonless]
  simp [trimmed, nonempty]

theorem of_head_typed (property type : String) (leading : Leading property.toList) (firm : Text.Firm type.toList)
    (written typed : List Char) (around : Text.Around property.toList written) (behind : Text.Around type.toList typed)
    (content : String) : ofHead content (written ++ ':' :: typed) = .ok { property, jdbcType := some type } := by
  obtain ⟨nonempty, trimmed⟩ := (Text.firm_iff _).mp leading.firm
  obtain ⟨filled, typeTrimmed⟩ := (Text.firm_iff _).mp firm
  obtain ⟨before, middle, blankBefore, blankMiddle, rfl⟩ := around
  obtain ⟨next, after, blankNext, blankAfter, rfl⟩ := behind
  -- Only what stands outside is trimmed off the whole; the rest goes when it is cut.
  have inner : Text.Around (property.toList ++ (middle ++ ':' :: next) ++ type.toList)
      (before ++ (property.toList ++ middle) ++ ':' :: (next ++ (type.toList ++ after))) :=
    ⟨before, after, blankBefore, blankAfter, by simp⟩
  have whole := Text.around_trimmed ((Text.firm_iff _).mp (Text.firm_append leading.firm firm _)).2 inner
  have cut : Text.splitFirst ':' (property.toList ++ (middle ++ ':' :: next) ++ type.toList) =
      (property.toList ++ middle, some (next ++ type.toList)) := by
    have absent : ':' ∉ property.toList ++ middle :=
      Text.around_absent ':' rfl leading.colonless ⟨[], middle, rfl, blankMiddle, rfl⟩
    have shape : property.toList ++ (middle ++ ':' :: next) ++ type.toList =
        (property.toList ++ middle) ++ ':' :: (next ++ type.toList) := by simp
    rw [shape, Text.split_first_append ':' _ _ absent]
    simp [Text.splitFirst]
  have name : Text.trim (property.toList ++ middle) = property.toList :=
    Text.around_trimmed trimmed ⟨[], middle, rfl, blankMiddle, rfl⟩
  have hint : Text.trim (next ++ type.toList) = type.toList :=
    Text.around_trimmed typeTrimmed ⟨next, [], blankNext, rfl, by simp⟩
  rw [ofHead, whole, cut]
  simp [name, hint, nonempty, filled]

theorem parse_cut (whole head : List Char) (pieces : List (List Char)) (cut : Text.split ',' whole = head :: pieces)
    (start : Mapping) (read : ∀ content, ofHead content head = .ok start) :
    Mapping.parse whole = withOptions (String.ofList whole) start pieces := by
  rw [Mapping.parse, cut]
  simp only [read]
  rfl

theorem parse_listed (mapping : Mapping) (writable : Writable mapping) (head : List Char) (clear : ',' ∉ head)
    (pieces : List (List Char)) (listed : Listed mapping pieces) (start : Mapping)
    (read : ∀ content, ofHead content head = .ok start) :
    Mapping.parse ([','].intercalate (head :: pieces)) = .ok (mapping.options.foldl Hint.put start) := by
  have all : ∀ piece ∈ head :: pieces, ',' ∉ piece := by
    intro piece member
    cases member with
    | head => exact clear
    | tail _ later => exact listed_clear mapping writable pieces listed piece later
  rw [parse_cut _ head pieces (Text.split_join ',' head pieces all) start read]
  exact with_options_listed mapping writable pieces listed _ start

theorem with_options_content (content other : String) (mapping result : Mapping) (options : List (List Char))
    (parsed : withOptions content mapping options = .ok result) : withOptions other mapping options = .ok result := by
  have again := with_options_elsewhere content other mapping.property mapping result options parsed
  have same : { result with property := mapping.property } = result := by
    rw [← property_with_options content mapping result options parsed]
  exact again.trans (congrArg Except.ok same)

-- A type behind a colon is read as an option in front of the others would be. Only messages tell them apart.
theorem typed_interchangeable (property type : String) (leading : Leading property.toList) (firm : Text.Firm type.toList)
    (clear : ',' ∉ type.toList) (written typed piece tail : List Char) (around : Text.Around property.toList written)
    (behind : Text.Around type.toList typed) (option : (Hint.text .jdbcType type).Written piece)
    (ends : tail = [] ∨ tail.head? = some ',') (result : Mapping) :
    Mapping.parse (written ++ ':' :: typed ++ tail) = .ok result ↔
      Mapping.parse (written ++ ',' :: (piece ++ tail)) = .ok result := by
  have sound : (Hint.text .jdbcType type).Sound := ⟨((Text.firm_iff _).mp firm).2, clear⟩
  have writtenClear := Text.around_absent ',' rfl leading.commaless around
  have typedClear := Text.around_absent ',' rfl clear behind
  obtain ⟨pieces, cut⟩ := Text.split_behind ',' tail ends
  have optioned : Text.split ',' (written ++ ',' :: (piece ++ tail)) = written :: piece :: pieces := by
    rw [Text.split_append, Text.split_absent ',' written writtenClear, cut piece (Hint.written_clear _ sound piece option)]
    rfl
  rw [parse_cut _ _ pieces (cut _ (by simp [writtenClear, typedClear])) _
      (of_head_typed property type leading firm written typed around behind),
    parse_cut _ written _ optioned _ (of_head_property property leading written around),
    Hint.with_options_put _ sound piece option]
  exact ⟨with_options_content _ _ _ _ _, with_options_content _ _ _ _ _⟩

-- Behind a type, the mapping keeps its own type if it lists one.
theorem options_read_back (mapping : Mapping) (writable : Writable mapping) (written : List Char)
    (around : Text.Around mapping.property.toList written) (pieces : List (List Char)) (listed : Listed mapping pieces) :
    Mapping.parse ([','].intercalate (written :: pieces)) = .ok mapping ∧
      ∀ type typed, Text.Firm type.toList → ',' ∉ type.toList → Text.Around type.toList typed →
        Mapping.parse (written ++ ':' :: typed) = .ok { property := mapping.property, jdbcType := some type } ∧
          Mapping.parse ([','].intercalate ((written ++ ':' :: typed) :: pieces)) =
            .ok { mapping with jdbcType := some (mapping.jdbcType.getD type) } ∧
          ∀ piece tail result, (Hint.text .jdbcType type).Written piece → tail = [] ∨ tail.head? = some ',' →
            (Mapping.parse (written ++ ':' :: typed ++ tail) = .ok result ↔
              Mapping.parse (written ++ ',' :: (piece ++ tail)) = .ok result) := by
  have clear := Text.around_absent ',' rfl writable.property.commaless around
  refine ⟨?_, fun type typed firm commaless behind => ?_⟩
  · rw [parse_listed mapping writable written clear pieces listed _
      (of_head_property _ writable.property written around), put_options]
    simp
  · have typedClear := Text.around_absent ',' rfl commaless behind
    have headClear : ',' ∉ written ++ ':' :: typed := by simp [clear, typedClear]
    have head := of_head_typed _ type writable.property firm written typed around behind
    refine ⟨parse_cut _ _ [] (Text.split_absent ',' _ headClear) _ head, ?_, fun piece tail result option ends => ?_⟩
    · rw [parse_listed mapping writable _ headClear pieces listed _ head, put_options]
      cases mapping.jdbcType <;> simp
    · exact typed_interchangeable _ type writable.property firm commaless written typed piece tail around behind option
        ends result

def total : Mapping :=
  { property := "user.total", mode := .both, javaType := some "", numericScale := some 7, resultMap := some "x == y" }

theorem total_writable : Writable total := by
  refine ⟨⟨(Text.firm_iff _).mpr ⟨by decide, by decide⟩, by decide, by decide⟩, fun hint member => ?_⟩
  have known : hint ∈ [.mode .both, .text .javaType "", .text .resultMap "x == y", .scale 7] := member
  simp only [List.mem_cons, List.not_mem_nil, or_false] at known
  obtain rfl | rfl | rfl | rfl := known
  · trivial
  · exact ⟨by decide, by decide⟩
  · exact ⟨by decide, by decide⟩
  · exact (by decide : 7 < Word.bound32)

def totalPieces : List (List Char) :=
  [" numericScale\t= 7".toList, "resultMap =x == y ".toList, " mode= INOUT\n".toList, "javaType=".toList]

theorem total_listed : Listed total totalPieces := by
  refine ⟨[.scale 7, .text .resultMap "x == y", .mode .both, .text .javaType ""], by decide, ?_⟩
  refine .cons ⟨_, _, ⟨[' '], ['\t'], rfl, rfl, rfl⟩, ⟨[' '], [], rfl, rfl, rfl⟩, by decide⟩ ?_
  refine .cons ⟨_, _, ⟨[], [' '], rfl, rfl, rfl⟩, ⟨[], [' '], rfl, rfl, rfl⟩, by decide⟩ ?_
  refine .cons ⟨_, _, ⟨[' '], [], rfl, rfl, rfl⟩, ⟨[' '], ['\n'], rfl, rfl, rfl⟩, by decide⟩ ?_
  exact .cons ⟨_, _, ⟨[], [], rfl, rfl, rfl⟩, ⟨[], [], rfl, rfl, rfl⟩, by decide⟩ .nil

theorem total_read_back :
    Mapping.parse " user.total , numericScale\t= 7,resultMap =x == y , mode= INOUT\n,javaType=".toList = .ok total ∧
      Mapping.parse " user.total :\tNUMBER:9=x, numericScale\t= 7,resultMap =x == y , mode= INOUT\n,javaType=".toList =
        .ok { total with jdbcType := some "NUMBER:9=x" } := by
  have around : Text.Around total.property.toList " user.total ".toList := ⟨[' '], [' '], rfl, rfl, rfl⟩
  have firm : Text.Firm "NUMBER:9=x".toList := (Text.firm_iff _).mpr ⟨by decide, by decide⟩
  have behind : Text.Around "NUMBER:9=x".toList "\tNUMBER:9=x".toList := ⟨['\t'], [], rfl, rfl, rfl⟩
  have plain : " user.total , numericScale\t= 7,resultMap =x == y , mode= INOUT\n,javaType=".toList =
      [','].intercalate (" user.total ".toList :: totalPieces) := by decide +kernel
  have colon : " user.total :\tNUMBER:9=x, numericScale\t= 7,resultMap =x == y , mode= INOUT\n,javaType=".toList =
      [','].intercalate ((" user.total ".toList ++ ':' :: "\tNUMBER:9=x".toList) :: totalPieces) := by decide +kernel
  obtain ⟨read, typed⟩ := options_read_back total total_writable " user.total ".toList around totalPieces total_listed
  rw [plain, colon]
  exact ⟨read, (typed "NUMBER:9=x" "\tNUMBER:9=x".toList firm (by decide) behind).2.1⟩

end Mapping

end StatementMapper
