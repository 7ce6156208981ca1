import StatementMapper.Proofs.Markup.Entity
import StatementMapper.Proofs.Text

set_option autoImplicit false

namespace StatementMapper

namespace Markup

def isName : List Char → Bool
  | c :: rest => isNameStart c && rest.all isNamePart
  | [] => false

def isText : Markup → Bool
  | text _ => true
  | element _ _ _ => false

-- A quotation mark would end the value of an attribute, so it is an entity there.
def valueEntityOf (c : Char) : List Char := if c = '"' then "&quot;".toList else entityOf c

def encodeValue (value : List Char) : List Char := value.flatMap valueEntityOf

def printAttribute (entry : String × String) : List Char :=
  ' ' :: (entry.1.toList ++ '=' :: '"' :: (encodeValue entry.2.toList ++ ['"']))

mutual
def print : Markup → List Char
  | text content => encode content.toList
  | element name attributes children =>
    '<' :: (name.toList ++ (attributes.flatMap printAttribute ++ '>' :: (printAll children ++
      '<' :: '/' :: (name.toList ++ ['>']))))
def printAll : List Markup → List Char
  | [] => []
  | node :: rest => print node ++ printAll rest
end

-- Trees as they are read: no text is empty or stands next to another, and no attribute is there twice.
mutual
def Normal : Markup → Prop
  | text content => content.toList ≠ []
  | element name attributes children =>
    isName name.toList = true ∧ (∀ entry ∈ attributes, isName entry.1.toList = true) ∧
      (attributes.map Prod.fst).Nodup ∧ AllNormal children
def AllNormal : List Markup → Prop
  | [] => True
  | node :: rest => Normal node ∧ (isText node = true → ∀ next ∈ rest.head?, isText next = false) ∧ AllNormal rest
end

mutual
def eventsOf : Markup → List Event
  | text content => [.data content.toList]
  | element name attributes children => .opening name attributes false :: (eventsOfAll children ++ [.closing name])
def eventsOfAll : List Markup → List Event
  | [] => []
  | node :: rest => eventsOf node ++ eventsOfAll rest
end

theorem start_solid (c : Char) (start : isNameStart c = true) : Text.isBlank c = false := by
  rcases Bool.or_eq_true_iff.mp start with letter | line
  · exact Text.solid_of_alpha c letter
  · rw [eq_of_beq line]
    rfl

theorem decode_value_entity (c : Char) (rest : List Char) : decode (valueEntityOf c ++ rest) = c :: decode rest := by
  unfold valueEntityOf
  by_cases quote : c = '"'
  · rw [if_pos quote, quote]
    exact decode_entity "quot".toList rest '"' rfl (by decide)
  · rw [if_neg quote]
    exact decode_entity_of c rest

theorem decode_encode_value (value : List Char) : decode (encodeValue value) = value := by
  induction value with
  | nil => rw [encodeValue, List.flatMap_nil, decode]
  | cons c rest ih =>
      rw [encodeValue, List.flatMap_cons, decode_value_entity]
      exact congrArg (List.cons c) ih

theorem encode_value_quoteless (value : List Char) : '"' ∉ encodeValue value := by
  intro member
  obtain ⟨c, _, inside⟩ := List.mem_flatMap.mp member
  unfold valueEntityOf entityOf at inside
  by_cases quote : c = '"'
  · rw [if_pos quote] at inside
    exact absurd inside (by decide)
  · rw [if_neg quote] at inside
    by_cases ampersand : c = '&'
    · rw [if_pos ampersand] at inside
      exact absurd inside (by decide)
    · rw [if_neg ampersand] at inside
      by_cases less : c = '<'
      · rw [if_pos less] at inside
        exact absurd inside (by decide)
      · rw [if_neg less] at inside
        by_cases greater : c = '>'
        · rw [if_pos greater] at inside
          exact absurd inside (by decide)
        · rw [if_neg greater] at inside
          exact quote (List.mem_singleton.mp inside).symm

theorem name_read (name : List Char) (accepted : isName name = true) (c : Char) (rest : List Char)
    (stop : isNamePart c = false) : name? (name ++ c :: rest) = some (name, c :: rest) := by
  cases name with
  | nil => exact nomatch accepted
  | cons first more =>
      obtain ⟨start, parts⟩ := Bool.and_eq_true_iff.mp accepted
      have inside : ∀ other ∈ more, isNamePart other = true := List.all_eq_true.mp parts
      have ends : ∀ other ∈ (c :: rest).head?, isNamePart other = false := fun other member => by cases member; exact stop
      rw [List.cons_append, name?, if_pos start, Text.take_run _ _ _ inside ends, Text.drop_run _ _ _ inside ends]

theorem name_solid (name : List Char) (accepted : isName name = true) (rest : List Char) :
    Text.trimStart (name ++ rest) = name ++ rest := by
  cases name with
  | nil => exact nomatch accepted
  | cons first more =>
      exact Text.trim_start_solid first _ (start_solid first (Bool.and_eq_true_iff.mp accepted).1)

theorem value_read (value rest : List Char) :
    value? ('"' :: (encodeValue value ++ '"' :: rest)) = some (encodeValue value, rest) := by
  rw [value?, if_pos (Or.inl rfl), Text.split_first_at _ _ _ (encode_value_quoteless value)]

theorem attribute_read (entry : String × String) (accepted : isName entry.1.toList = true) (rest : List Char) :
    attribute? (printAttribute entry ++ rest) = some (entry.1, entry.2, rest) := by
  rcases entry with ⟨name, value⟩
  have written : printAttribute (name, value) ++ rest =
      ' ' :: (name.toList ++ '=' :: '"' :: (encodeValue value.toList ++ '"' :: rest)) := by
    simp [printAttribute]
  have body : Text.trimStart (printAttribute (name, value) ++ rest) =
      name.toList ++ '=' :: '"' :: (encodeValue value.toList ++ '"' :: rest) := by
    rw [written]
    exact name_solid _ accepted _
  rw [attribute?, body, if_neg (by rw [written]; simp), name_read _ accepted _ _ (by decide)]
  change (value? (Text.trimStart ('"' :: _))).bind _ = _
  rw [Text.trim_start_solid _ _ (by decide), value_read]
  simp only [Option.bind_some, String.ofList_toList, decode_encode_value]

theorem no_attribute (rest : List Char) : attribute? ('>' :: rest) = none := by
  rw [attribute?, Text.trim_start_solid _ _ (by decide), if_pos rfl]

theorem attributes_read (found : List (String × String)) (accepted : ∀ entry ∈ found, isName entry.1.toList = true)
    (rest : List Char) : attributes (found.flatMap printAttribute ++ '>' :: rest) = (found, '>' :: rest) := by
  induction found with
  | nil => rw [List.flatMap_nil, List.nil_append, attributes, no_attribute]
  | cons entry more ih =>
      have own := attribute_read entry (accepted entry List.mem_cons_self)
        (more.flatMap printAttribute ++ '>' :: rest)
      have later := ih fun other member => accepted other (List.mem_cons_of_mem _ member)
      have shorter : (more.flatMap printAttribute ++ '>' :: rest).length <
          (printAttribute entry ++ (more.flatMap printAttribute ++ '>' :: rest)).length := by
        have nonempty : 0 < (printAttribute entry).length := Nat.succ_pos _
        have sum : (printAttribute entry ++ (more.flatMap printAttribute ++ '>' :: rest)).length =
          (printAttribute entry).length + (more.flatMap printAttribute ++ '>' :: rest).length := List.length_append
        omega
      rw [List.flatMap_cons, List.append_assoc, attributes, own]
      simp only [if_pos shorter, later]

theorem repeated_none_iff (seen : List String) (found : List (String × String)) :
    repeated? seen found = none ↔ (found.map Prod.fst).Nodup ∧ ∀ entry ∈ found, entry.1 ∉ seen := by
  induction found generalizing seen with
  | nil => simp [repeated?]
  | cons entry more ih =>
      rcases entry with ⟨name, value⟩
      rw [repeated?]
      by_cases again : seen.contains name = true
      · rw [if_pos again]
        simp [List.contains_iff_mem.mp again]
      · rw [if_neg again, ih]
        have fresh : name ∉ seen := fun member => again (List.contains_iff_mem.mpr member)
        simp only [List.map_cons, List.nodup_cons, List.mem_cons, List.mem_map, not_or, forall_eq_or_imp]
        constructor
        · rintro ⟨distinct, apart⟩
          refine ⟨⟨?_, distinct⟩, fresh, fun other member => (apart other member).2⟩
          rintro ⟨other, member, same⟩
          exact (apart other member).1 same
        · rintro ⟨⟨absent, distinct⟩, _, apart⟩
          refine ⟨distinct, fun other member => ⟨fun same => absent ⟨other, member, same⟩, apart other member⟩⟩

theorem opening_read (name : String) (found : List (String × String)) (accepted : isName name.toList = true)
    (named : ∀ entry ∈ found, isName entry.1.toList = true) (distinct : (found.map Prod.fst).Nodup) (rest : List Char) :
    openingTag? (name.toList ++ (found.flatMap printAttribute ++ '>' :: rest)) =
      some (.opening name found false, rest) := by
  have once : repeated? [] found = none := (repeated_none_iff [] found).mpr ⟨distinct, fun _ _ => List.not_mem_nil⟩
  obtain ⟨c, more, shape, stop⟩ :
      ∃ c more, found.flatMap printAttribute ++ '>' :: rest = c :: more ∧ isNamePart c = false := by
    cases found with
    | nil => exact ⟨'>', rest, rfl, by decide⟩
    | cons entry others => exact ⟨' ', _, rfl, by decide⟩
  have solid : Text.trimStart ('>' :: rest) = '>' :: rest := Text.trim_start_solid _ _ (by decide)
  rw [openingTag?, shape, name_read _ accepted c more stop, ← shape]
  simp only [bind, Option.bind, attributes_read found named rest, solid, once, String.ofList_toList]

theorem closing_read (name : String) (accepted : isName name.toList = true) (rest : List Char) :
    closingTag? (name.toList ++ '>' :: rest) = some (.closing name, rest) := by
  have solid : Text.trimStart ('>' :: rest) = '>' :: rest := Text.trim_start_solid _ _ (by decide)
  rw [closingTag?, name_read _ accepted _ _ (by decide)]
  simp only [bind, Option.bind, solid, String.ofList_toList]

theorem tag_opening (name : String) (found : List (String × String)) (accepted : isName name.toList = true)
    (named : ∀ entry ∈ found, isName entry.1.toList = true) (distinct : (found.map Prod.fst).Nodup) (rest : List Char) :
    tag (name.toList ++ (found.flatMap printAttribute ++ '>' :: rest)) = (.opening name found false, rest) := by
  have read := opening_read name found accepted named distinct rest
  cases shape : name.toList with
  | nil =>
      rw [shape] at accepted
      exact nomatch accepted
  | cons c more =>
      -- A name starts neither a section nor a comment nor a closing tag.
      rw [shape] at read accepted
      have start := (Bool.and_eq_true_iff.mp accepted).1
      have plain : c ≠ '!' := fun same => absurd (same ▸ start) (by decide)
      have opens : c ≠ '/' := fun same => absurd (same ▸ start) (by decide)
      rw [List.cons_append] at read ⊢
      rw [tag, show "![CDATA[".toList = '!' :: "[CDATA[".toList from rfl, Text.after_differs _ _ _ _ plain,
        show "!--".toList = '!' :: "--".toList from rfl, Text.after_differs _ _ _ _ plain]
      simp only [read, Option.none_or]
      exact fun body slash => opens (List.cons.inj slash).1

theorem tag_closing (name : String) (accepted : isName name.toList = true) (rest : List Char) :
    tag ('/' :: (name.toList ++ '>' :: rest)) = (.closing name, rest) := by
  rw [tag, show "![CDATA[".toList = '!' :: "[CDATA[".toList from rfl, Text.after_differs _ _ _ _ (by decide),
    show "!--".toList = '!' :: "--".toList from rfl, Text.after_differs _ _ _ _ (by decide)]
  simp only [closing_read name accepted rest, Option.some_or]

theorem events_tag (rest tail : List Char) (event : Event) (read : tag rest = (event, tail))
    (shorter : tail.length ≤ rest.length) : events ('<' :: rest) = event :: events tail := by
  rw [events, if_pos rfl]
  simp only [read, if_pos shorter]

theorem events_text (content rest : List Char) (nonempty : content ≠ []) (ends : ∀ c ∈ rest.head?, c = '<') :
    events (encode content ++ rest) = .data content :: events rest := by
  have read := decode_encode content
  have tagless := encode_tagless content
  cases written : encode content with
  | nil =>
      rw [written, decode] at read
      exact absurd read.symm nonempty
  | cons c more =>
      rw [written] at read tagless
      have plain : c ≠ '<' := Ne.symm (List.ne_of_not_mem_cons tagless)
      have run : ∀ other ∈ more, (other != '<') = true := by
        intro other member
        exact bne_iff_ne.mpr fun same => tagless (List.mem_cons_of_mem _ (same ▸ member))
      have stops : rest.takeWhile (· != '<') = [] ∧ rest.dropWhile (· != '<') = rest := by
        cases rest with
        | nil => exact ⟨rfl, rfl⟩
        | cons next others => rw [ends next rfl]; exact ⟨rfl, rfl⟩
      rw [List.cons_append, events_run c _ plain, List.takeWhile_append_of_pos run, List.dropWhile_append_of_pos run,
        stops.1, stops.2, List.append_nil, read]

theorem print_head (node : Markup) (element : isText node = false) (rest : List Char) :
    ∀ c ∈ (print node ++ rest).head?, c = '<' := by
  cases node with
  | text content => exact nomatch element
  | element name attributes children =>
      rw [print]
      rintro c ⟨⟩
      rfl

-- What follows a text must start with a tag, for else it would be read as more of the text.
mutual
theorem events_print (node : Markup) (normal : Normal node) (rest : List Char)
    (ends : isText node = true → ∀ c ∈ rest.head?, c = '<') : events (print node ++ rest) = eventsOf node ++ events rest := by
  cases node with
  | text content =>
      rw [print, eventsOf]
      exact events_text content.toList rest normal (ends rfl)
  | element name attributes children =>
      rw [Normal] at normal
      obtain ⟨accepted, named, distinct, inner⟩ := normal
      have opened := tag_opening name attributes accepted named distinct
        (printAll children ++ '<' :: '/' :: (name.toList ++ '>' :: rest))
      have closed := tag_closing name accepted rest
      have children_read := events_print_all children inner ('<' :: '/' :: (name.toList ++ '>' :: rest)) (by
        rintro c ⟨⟩
        rfl)
      rw [events_tag _ _ _ closed (by simp; omega)] at children_read
      have whole : print (.element name attributes children) ++ rest =
          '<' :: (name.toList ++ (attributes.flatMap printAttribute ++ '>' :: (printAll children ++
            '<' :: '/' :: (name.toList ++ '>' :: rest)))) := by
        simp [print]
      rw [whole, events_tag _ _ _ opened (by simp; omega), children_read, eventsOf]
      simp
theorem events_print_all (forest : List Markup) (normal : AllNormal forest) (rest : List Char)
    (ends : ∀ c ∈ rest.head?, c = '<') : events (printAll forest ++ rest) = eventsOfAll forest ++ events rest := by
  cases forest with
  | nil => rfl
  | cons node more =>
      rw [AllNormal] at normal
      obtain ⟨own, apart, later⟩ := normal
      have next : isText node = true → ∀ c ∈ (printAll more ++ rest).head?, c = '<' := by
        intro text
        cases more with
        | nil => exact ends
        | cons second others =>
            rw [printAll, List.append_assoc]
            exact print_head second (apart text second rfl) _
      rw [printAll, List.append_assoc, events_print node own _ next, events_print_all more later rest ends, eventsOfAll,
        List.append_assoc]
end

end Markup

end StatementMapper
