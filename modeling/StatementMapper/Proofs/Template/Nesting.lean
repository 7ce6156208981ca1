import StatementMapper.Proofs.Command
import StatementMapper.Proofs.Expr.ReadBack
import StatementMapper.Proofs.Template.Iterations
import StatementMapper.Proofs.Template.Markers

set_option autoImplicit false

namespace StatementMapper

open Outcome (bind_ok)

theorem Mapping.parse_word (word : String) (nonempty : word.toList ≠ [])
    (parts : ∀ c ∈ word.toList, Expr.isWordPart c = true) : Mapping.parse word.toList = .ok { property := word } := by
  have absent : ∀ c, Expr.isWordPart c = false → c ∉ word.toList := by
    intro c other member
    rw [parts c member] at other
    exact nomatch other
  have trimmed := Text.trim_all_solid word.toList fun c member => Expr.part_solid c (parts c member)
  have headed : ofHead word word.toList = .ok { property := word } := by
    rw [ofHead, trimmed, Text.split_first_absent ':' _ (absent ':' (by decide))]
    simp [trimmed, nonempty]
  rw [parse, Text.split_absent ',' _ (absent ',' (by decide)), String.ofList_toList]
  simp only [headed]
  rfl

theorem Value.split_path_word (word : String) (parts : ∀ c ∈ word.toList, Expr.isWordPart c = true) :
    Value.splitPath word = (word, none) := by
  have absent : '.' ∉ word.toList := fun member => absurd (parts '.' member) (by decide)
  rw [Value.splitPath, Text.split_first_absent '.' _ absent]
  simp

namespace Expression

def named (name : String) : Expression := ⟨name, .property name⟩

theorem parse_named (name : String) (identifier : Expr.isIdentifier name.toList = true)
    (free : Keyword.ofWord? name.toList = none) : parse name = .ok (named name) := by
  have undotted : '.' ∉ name.toList := fun member => absurd (Expr.identifier_parts _ identifier '.' member) (by decide)
  have whole : Expr.segments name = [name.toList] := Text.split_absent '.' _ undotted
  have writable : Expr.Writable (.property name) := by
    rw [Expr.Writable, Expr.isProperty, Expr.isPath, whole, free]
    simp [identifier]
  have shallow : Expr.nesting (.property name) ≤ Phrase.nestingLimit := by
    rw [Expr.nesting, whole, List.length_singleton]
    decide
  have read := Expr.parse_written _ writable shallow [.path name] rfl
  have written : Expr.source [.path name] = name := by
    simp [Expr.source, Expr.Token.characters]
  rw [written] at read
  rw [parse, read]
  rfl

end Expression

namespace Template.Loop

theorem bound_name_parts (name : String) (number : Nat) (parts : ∀ c ∈ name.toList, Expr.isWordPart c = true) :
    ∀ c ∈ (boundName name number).toList, Expr.isWordPart c = true := by
  intro c member
  rw [bound_name_list] at member
  simp only [List.mem_append] at member
  have front : ∀ c ∈ "__frch_".toList, Expr.isWordPart c = true := List.all_eq_true.mp (by decide)
  have line : ∀ c ∈ "_".toList, Expr.isWordPart c = true := List.all_eq_true.mp (by decide)
  rcases member with ((first | named) | second) | digits
  · exact front c first
  · exact parts c named
  · exact line c second
  · exact Expr.digit_part c (Text.digits_of_number number c digits)

theorem bound_name_nonempty (name : String) (number : Nat) : (boundName name number).toList ≠ [] := by
  rw [bound_name_list]
  simp

-- The digits of a number hold no underscore, so they are what stands behind the last one.
theorem bound_name_number (name other : String) (number next : Nat) (same : boundName name number = boundName other next) :
    number = next := by
  have shape : ∀ name number, (boundName name number).toList.reverse =
      (toString number).toList.reverse ++ '_' :: ("__frch_".toList ++ name.toList).reverse := by
    intro name number
    rw [bound_name_list]
    simp
  have run : ∀ name number,
      (boundName name number).toList.reverse.takeWhile Char.isDigit = (toString number).toList.reverse := by
    intro name number
    rw [shape]
    refine Text.take_run _ _ _ (fun c member => ?_) (fun c member => ?_)
    · exact Text.digits_of_number number c (List.mem_reverse.mp member)
    · cases member
      decide
  have digits : (toString number).toList = (toString next).toList := by
    rw [← List.reverse_inj, ← run name number, ← run other next, same]
  have read := congrArg (fun digits => Nat.ofDigitChars 10 digits 0) digits
  simpa using read

def numbered (name : String) : Nat → List Value → List (String × Value)
  | _, [] => []
  | start, value :: rest => (boundName name start, value) :: numbered name (start + 1) rest

def numberedRows (name : String) : Nat → List (List Value) → List (List (String × Value))
  | _, [] => []
  | start, row :: rest => numbered name (start + 1) row :: numberedRows name (start + 1 + row.length) rest

theorem numbered_values (name : String) (start : Nat) (row : List Value) : (numbered name start row).map Prod.snd = row := by
  induction row generalizing start with
  | nil => rfl
  | cons value rest ih => rw [numbered, List.map_cons, ih]

theorem numbered_rows_values (name : String) (start : Nat) (rows : List (List Value)) :
    (numberedRows name start rows).map (fun found => found.map Prod.snd) = rows := by
  induction rows generalizing start with
  | nil => rfl
  | cons row rest ih => rw [numberedRows, List.map_cons, ih, numbered_values]

theorem numbered_named (name : String) (start : Nat) (row : List Value) :
    ∀ entry ∈ numbered name start row, ∃ number, entry.1 = boundName name number := by
  induction row generalizing start with
  | nil => exact fun entry member => nomatch member
  | cons value rest ih =>
      intro entry member
      cases member with
      | head => exact ⟨start, rfl⟩
      | tail _ later => exact ih _ entry later

theorem numbered_rows_named (name : String) (start : Nat) (rows : List (List Value)) :
    ∀ found ∈ numberedRows name start rows, ∀ entry ∈ found, ∃ number, entry.1 = boundName name number := by
  induction rows generalizing start with
  | nil => exact fun found member => nomatch member
  | cons row rest ih =>
      intro found member
      cases member with
      | head => exact numbered_named name _ row
      | tail _ later => exact ih _ found later

structure Binds (before after : Draft) (found : List (String × Value)) : Prop where
  later : before.next ≤ after.next
  kept : ∀ name number, number < before.next →
    Table.get? (boundName name number) after.bindings = Table.get? (boundName name number) before.bindings
  bound : ∀ entry ∈ found, ∃ name number, entry.1 = boundName name number ∧ number < after.next ∧
    Table.get? entry.1 after.bindings = some entry.2

theorem binds_none (draft : Draft) : Binds draft draft [] :=
  ⟨Nat.le_refl _, fun _ _ _ => rfl, fun _ member => nomatch member⟩

theorem binds_append {before middle after : Draft} {found more : List (String × Value)} (first : Binds before middle found)
    (second : Binds middle after more) : Binds before after (found ++ more) := by
  refine ⟨Nat.le_trans first.later second.later, fun name number old => ?_, fun entry member => ?_⟩
  · rw [second.kept name number (Nat.lt_of_lt_of_le old first.later), first.kept name number old]
  · rcases List.mem_append.mp member with here | there
    · obtain ⟨name, number, shape, below, value⟩ := first.bound entry here
      refine ⟨name, number, shape, Nat.lt_of_lt_of_le below second.later, ?_⟩
      rw [shape, second.kept name number below, ← shape, value]
    · exact second.bound entry there

theorem binds_fresh (draft : Draft) (name : String) (value : Value) :
    Binds draft (draft.fresh.2.bind (boundName name draft.next) value) [(boundName name draft.next, value)] := by
  refine ⟨Nat.le_succ _, fun other number old => ?_, fun entry member => ?_⟩
  · refine Table.get_put_other (fun same => ?_) value draft.bindings
    exact absurd (bound_name_number other name number draft.next same) (Nat.ne_of_lt old)
  · rw [List.mem_singleton.mp member]
    exact ⟨name, draft.next, rfl, Nat.lt_succ_self _, Table.get_put_same _ value draft.bindings⟩

theorem binds_silent {before after : Draft} {found : List (String × Value)} (binds : Binds before after found) :
    Binds before after [] := ⟨binds.later, binds.kept, fun _ member => nomatch member⟩

theorem binds_sql {before after : Draft} {found : List (String × Value)} (binds : Binds before after found)
    (first second : List Char) : Binds { before with sql := first } { after with sql := second } found :=
  ⟨binds.later, binds.kept, binds.bound⟩

theorem tame_word (word : List Char) (parts : ∀ c ∈ word, Expr.isWordPart c = true) : Tame word := by
  refine ⟨fun member => absurd (parts _ member) (by decide), fun last => ?_⟩
  exact absurd (parts _ (List.mem_of_getLast? last)) (by decide)

theorem trim_start_word (word : List Char) (parts : ∀ c ∈ word, Expr.isWordPart c = true) : Text.trimStart word = word := by
  cases word with
  | nil => rfl
  | cons c rest => exact Text.trim_start_solid c rest (Expr.part_solid c (parts c List.mem_cons_self))

theorem rename_own (name : String) (number : Nat) (parts : ∀ c ∈ name.toList, Expr.isWordPart c = true) :
    renameBy (some name) number name.toList = (boundName name number).toList := by
  have found : rename? name number name.toList = some (boundName name number).toList :=
    (rename_some_iff _ _ _ _).mpr ⟨[], by rw [trim_start_word _ parts, List.append_nil], rfl, (List.append_nil _).symm⟩
  rw [renameBy, found, Option.getD_some]

-- A loop leaves the names alone that a loop inside it has written.
theorem rename_bound (outer name : String) (number next : Nat) (parts : ∀ c ∈ name.toList, Expr.isWordPart c = true)
    (unreserved : ¬ "__frch_".toList <+: outer.toList) :
    renameBy (some outer) number (boundName name next).toList = (boundName name next).toList := by
  have whole := bound_name_parts name next parts
  have missing : rename? outer number (boundName name next).toList = none := by
    cases found : rename? outer number (boundName name next).toList with
    | none => rfl
    | some result =>
        obtain ⟨rest, shape, ends, _⟩ := (rename_some_iff _ _ _ _).mp found
        rw [trim_start_word _ whole] at shape
        cases rest with
        | nil =>
            rw [List.append_nil] at shape
            refine absurd ⟨name.toList ++ '_' :: (toString next).toList, ?_⟩ unreserved
            rw [← shape, bound_name_list]
            simp
        | cons c more =>
            have part := whole c (by rw [shape]; simp)
            simp only [endsName, Bool.or_eq_true, beq_iff_eq] at ends
            rcases ends with ((rfl | rfl) | rfl) | blank
            · exact absurd part (by decide)
            · exact absurd part (by decide)
            · exact absurd part (by decide)
            · rw [Expr.part_solid c part] at blank
              cases blank
  rw [renameBy, missing, Option.getD_none]

structure Each (head : Loop) (name : String) : Prop where
  item : head.item = some name
  unindexed : head.index = none
  parts : ∀ c ∈ name.toList, Expr.isWordPart c = true

def placeholderNode (name : String) : Node := .sequence [.parameterized (token name.toList)]

theorem placeholder_rendered (name : String) (r : Rendering) :
    (placeholderNode name).render r = .ok (true, r.append (token name.toList)) := by
  rw [placeholderNode, Node.render, Node.renderAll, Node.render]
  simp only [bind, Except.bind, Node.renderAll]

def tokens (found : List (String × Value)) : List (List Char) := found.map fun entry => token entry.1.toList

theorem entered_each (head : Loop) (name : String) (each : Each head name) (index item : Value) (r : Rendering) :
    head.entered index item r =
      ⟨{ r.draft.fresh.2.bind (boundName name r.draft.next) item with sql := [] }, r.scope.push.set name item⟩ := by
  rw [entered, each.item, each.unindexed]
  rfl

theorem each_iterated (head : Loop) (name : String) (each : Each head name) (entries : List (Value × Value))
    (r : Rendering) :
    ∃ last, iterate head (placeholderNode name).render entries r =
        .ok (tokens (numbered name r.draft.next (entries.map Prod.snd)), last) ∧
      last.scope = r.scope ∧ last.draft.sql = r.draft.sql ∧ last.draft.next = r.draft.next + entries.length ∧
      Binds r.draft last.draft (numbered name r.draft.next (entries.map Prod.snd)) := by
  induction entries generalizing r with
  | nil => exact ⟨r, rfl, rfl, rfl, rfl, binds_none r.draft⟩
  | cons entry rest ih =>
      rcases entry with ⟨index, item⟩
      let middle : Rendering := ⟨r.draft.fresh.2.bind (boundName name r.draft.next) item, r.scope⟩
      obtain ⟨last, others, scope, sql, next, binds⟩ := ih middle
      have own : head.itemize r.draft.next (token name.toList) = token (boundName name r.draft.next).toList := by
        rw [itemize, map_tokens_token _ _ (tame_word _ each.parts), each.item, each.unindexed, rename_own _ _ each.parts]
        rfl
      refine ⟨last, ?_, scope, sql, ?_, ?_⟩
      · have body : (placeholderNode name).render (head.entered index item r) = .ok (true,
            Rendering.append (token name.toList) ⟨{ middle.draft with sql := [] }, r.scope.push.set name item⟩) := by
          rw [entered_each head name each]
          exact placeholder_rendered name _
        exact (iterate_cons_ok _ _ _ _ _ _ _ _).mpr ⟨true, _, _, body, others, congrArg (List.cons · _) own.symm⟩
      · rw [next, List.length_cons]
        exact Nat.succ_add_eq_add_succ _ _
      · exact binds_append (binds_fresh r.draft name item) binds

def listing (head : Loop) (bodies : List (List Char)) : List Char :=
  head.opening.toList ++ head.separator.toList.intercalate bodies ++ head.closing.toList

def enclosed (head : Loop) (bodies : List (List Char)) : List Char := if bodies.isEmpty then [] else head.listing bodies

structure Quiet (head : Loop) : Prop where
  opening : Inert head.opening.toList
  separator : Inert head.separator.toList
  closing : Inert head.closing.toList

theorem shows_listing {Item : Type} (head : Loop) (quiet : Quiet head) (items : List Item)
    (text shown : Item → List Char) (names : Item → List (List Char))
    (each : ∀ item ∈ items, Shows (text item) (names item) (shown item)) :
    Shows (head.listing (items.map text)) (items.flatMap names) (head.listing (items.map shown)) := by
  have bodies := shows_intercalate _ quiet.separator items text shown names each
  have whole := shows_append (shows_append (shows_inert _ quiet.opening) bodies) (shows_inert _ quiet.closing)
  rwa [List.append_nil, List.nil_append] at whole

theorem shows_enclosed {Item : Type} (head : Loop) (quiet : Quiet head) (items : List Item)
    (text shown : Item → List Char) (names : Item → List (List Char))
    (each : ∀ item ∈ items, Shows (text item) (names item) (shown item)) :
    Shows (head.enclosed (items.map text)) (items.flatMap names) (head.enclosed (items.map shown)) := by
  cases items with
  | nil => exact shows_nil
  | cons item rest => exact shows_listing head quiet (item :: rest) text shown names each

theorem token_solid (content text : List Char) (member : token content <:+: text) : Text.allBlank text = false := by
  obtain ⟨front, back, rfl⟩ := member
  simp [Text.allBlank, token, Text.isBlank]

theorem tokens_solid (found : List (String × Value)) : (tokens found).filter (!Text.allBlank ·) = tokens found := by
  refine List.filter_eq_self.mpr fun text member => ?_
  obtain ⟨entry, _, rfl⟩ := List.mem_map.mp member
  simp [token_solid entry.1.toList _ (List.infix_refl _)]

theorem row_entries (row : List Value) :
    ∃ entries, entries? (.list row) = some entries ∧ entries.map Prod.snd = row := by
  refine ⟨_, rfl, ?_⟩
  apply List.ext_getElem
  · simp
  · simp

theorem joined_nil (text : List Char) : Draft.joined text [] = text := by
  have separate : Draft.fuses text [] = false := by
    unfold Draft.fuses
    cases text.getLast? <;> rfl
  rw [Draft.joined, if_neg (by simp [separate]), List.append_nil]

theorem loop_rendered (head : Loop) (body : Node) (collection : Value) (entries : List (Value × Value)) (r last : Rendering)
    (texts : List (List Char)) (found : head.collection.evaluate r.scope = .ok collection)
    (listed : entries? collection = some entries) (ran : iterate head body.render entries r = .ok (texts, last)) :
    (Node.loop head body).render r = .ok (true, last.append
      (if entries.isEmpty then [] else head.listing (texts.filter (!Text.allBlank ·)))) := by
  rw [Node.render, found]
  change head.render body.render collection r = _
  rw [render, listed]
  cases entries with
  | nil =>
      cases ran
      simp [Rendering.append, Draft.append, joined_nil]
  | cons entry rest =>
      simp only [ran, bind, Except.bind]
      rfl

theorem each_rendered (head : Loop) (name : String) (each : Each head name) (row : List Value) (r : Rendering)
    (found : head.collection.evaluate r.scope = .ok (.list row)) :
    ∃ last : Rendering, (Node.loop head (placeholderNode name)).render r =
        .ok (true, last.append (enclosed head (tokens (numbered name r.draft.next row)))) ∧
      last.scope = r.scope ∧ last.draft.sql = r.draft.sql ∧ last.draft.next = r.draft.next + row.length ∧
      Binds r.draft last.draft (numbered name r.draft.next row) := by
  obtain ⟨entries, listed, rfl⟩ := row_entries row
  obtain ⟨last, ran, scope, sql, next, binds⟩ := each_iterated head name each entries r
  refine ⟨last, ?_, scope, sql, by rw [next, List.length_map], binds⟩
  rw [loop_rendered head _ _ entries r last _ found listed ran, tokens_solid]
  cases entries with
  | nil => rfl
  | cons entry rest => rfl

structure Nested (outer inner : Loop) (row name : String) : Prop where
  rows : Each outer row
  rowsQuiet : Quiet outer
  unreserved : ¬ "__frch_".toList <+: row.toList
  collection : inner.collection.root = .property row
  elements : Each inner name
  elementsQuiet : Quiet inner

theorem row_found (outer inner : Loop) (row name : String) (nested : Nested outer inner row name) (value : Value)
    (scope : Scope) : inner.collection.evaluate (scope.set row value) = .ok value := by
  have path := Value.split_path_word row nested.rows.parts
  have found : (scope.set row value).resolve? row = some value := by
    rw [Scope.resolve?, path]
    simp [Scope.get_set, Parameter.follow?]
  rw [Expression.evaluate, nested.collection, Expr.evaluate, found]
  rfl

def rowNode (inner : Loop) (name : String) : Node := .sequence [.loop inner (placeholderNode name)]

theorem row_rendered (inner : Loop) (name : String) (r last : Rendering)
    (ran : (Node.loop inner (placeholderNode name)).render r = .ok (true, last)) :
    (rowNode inner name).render r = .ok (true, last) := by
  rw [rowNode, Node.render, Node.renderAll, ran]
  simp only [bind, Except.bind, Node.renderAll]

def boundNames (found : List (String × Value)) : List (List Char) := found.map fun entry => entry.1.toList

def markers (values : List Value) : List (List Char) := values.map fun _ => ['?']

theorem shows_row (head : Loop) (quiet : Quiet head) (name : String)
    (parts : ∀ c ∈ name.toList, Expr.isWordPart c = true) (found : List (String × Value))
    (named : ∀ entry ∈ found, ∃ number, entry.1 = boundName name number) :
    Shows (head.enclosed (tokens found)) (boundNames found) (head.enclosed (markers (found.map Prod.snd))) := by
  have each : ∀ entry ∈ found, Shows (token entry.1.toList) [entry.1.toList] ['?'] := by
    intro entry member
    obtain ⟨number, shape⟩ := named entry member
    refine shows_token _ (tame_word _ ?_)
    rw [shape]
    exact bound_name_parts name number parts
  have whole := shows_enclosed head quiet found _ _ _ each
  rw [← List.map_eq_flatMap] at whole
  rwa [markers, List.map_map]

-- The loop around the rows changes nothing in what the loop over a row has written.
theorem row_unchanged (outer inner : Loop) (row name : String) (nested : Nested outer inner row name) (number : Nat)
    (found : List (String × Value)) (named : ∀ entry ∈ found, ∃ number, entry.1 = boundName name number) :
    outer.itemize number (inner.enclosed (tokens found)) = inner.enclosed (tokens found) := by
  have shown := shows_row inner nested.elementsQuiet name nested.elements.parts found named
  obtain ⟨pieces, closed, asked, _⟩ := shown.complete
  refine map_tokens_unchanged _ closed fun content member => ?_
  rw [asked] at member
  obtain ⟨entry, among, rfl⟩ := List.mem_map.mp member
  obtain ⟨next, shape⟩ := named entry among
  rw [nested.rows.item, nested.rows.unindexed, shape,
    rename_bound row name number next nested.elements.parts nested.unreserved]
  rfl

theorem joined_empty (text : List Char) : Draft.joined [] text = text := by
  simp [Draft.joined, Draft.fuses]

theorem rows_iterated (outer inner : Loop) (row name : String) (nested : Nested outer inner row name)
    (rows : List (List Value)) (entries : List (Value × Value)) (listed : entries.map Prod.snd = rows.map .list)
    (r : Rendering) :
    ∃ last, iterate outer (rowNode inner name).render entries r =
        .ok ((numberedRows name r.draft.next rows).map fun found => inner.enclosed (tokens found), last) ∧
      last.scope = r.scope ∧ last.draft.sql = r.draft.sql ∧
      Binds r.draft last.draft (numberedRows name r.draft.next rows).flatten := by
  induction rows generalizing entries r with
  | nil =>
      rw [List.map_eq_nil_iff.mp listed]
      exact ⟨r, rfl, rfl, rfl, binds_none r.draft⟩
  | cons values rest ih =>
      obtain ⟨⟨index, item⟩, others, rfl, rfl, later⟩ := List.map_eq_cons_iff.mp listed
      let entered : Rendering := ⟨{ r.draft.fresh.2.bind (boundName row r.draft.next) (.list values) with sql := [] },
        r.scope.push.set row (.list values)⟩
      obtain ⟨middle, ran, _, sql, next, binds⟩ := each_rendered inner name nested.elements values entered
        (row_found outer inner row name nested (.list values) r.scope.push)
      obtain ⟨last, following, scope, lastSql, lastBinds⟩ := ih others later ⟨r.draft.resume middle.draft, r.scope⟩
      let shown := inner.enclosed (tokens (numbered name (r.draft.next + 1) values))
      have body : (rowNode inner name).render (outer.entered index (.list values) r) = .ok (true, middle.append shown) := by
        rw [entered_each outer row nested.rows]
        exact row_rendered inner name entered _ ran
      have own : (middle.append shown).draft.sql = shown := by
        rw [Rendering.append, Draft.append, sql]
        exact joined_empty shown
      have kept : outer.itemize r.draft.next shown = shown :=
        row_unchanged outer inner row name nested _ _ (numbered_named name _ values)
      refine ⟨last, ?_, scope, lastSql, ?_⟩
      · refine (iterate_cons_ok _ _ _ _ _ _ _ _).mpr ⟨true, _, _, body, following, ?_⟩
        rw [own, kept, numberedRows, List.map_cons]
        exact congrArg (fun start => shown :: (numberedRows name start rest).map _) next.symm
      · rw [numberedRows, List.flatten_cons]
        refine binds_append ?_ (next ▸ lastBinds)
        exact binds_append (binds_silent (binds_fresh r.draft row (.list values))) (binds_sql binds r.draft.sql r.draft.sql)

theorem row_blank (inner : Loop) (found : List (String × Value)) :
    Text.allBlank (inner.enclosed (tokens found)) = found.isEmpty := by
  cases found with
  | nil => rfl
  | cons entry rest =>
      have front : token entry.1.toList <+: inner.separator.toList.intercalate (tokens (entry :: rest)) := by
        cases rest with
        | nil => exact ⟨[], by simp [tokens]⟩
        | cons next more =>
            refine ⟨inner.separator.toList ++ inner.separator.toList.intercalate (tokens (next :: more)), ?_⟩
            rw [← List.append_assoc]
            exact List.intercalate_cons_cons.symm
      exact token_solid _ _ (List.IsInfix.trans front.isInfix (List.infix_append _ _ _))

def rowMarkers (outer inner : Loop) (rows : List (List Value)) : List Char :=
  if rows.isEmpty then []
  else outer.listing ((rows.filter (!·.isEmpty)).map fun row => inner.enclosed (markers row))

theorem flat_map_nonempty {Item Other : Type} (change : Item → Other) (lists : List (List Item)) :
    (lists.filter (!·.isEmpty)).flatMap (fun list => list.map change) = lists.flatten.map change := by
  induction lists with
  | nil => rfl
  | cons list rest ih =>
      cases list with
      | nil => simpa using ih
      | cons item more => simp [ih]

theorem shows_rows (outer inner : Loop) (row name : String) (nested : Nested outer inner row name)
    (rows : List (List Value)) (start : Nat) :
    Shows (outer.listing (((numberedRows name start rows).map fun found => inner.enclosed (tokens found)).filter
        (!Text.allBlank ·)))
      (boundNames (numberedRows name start rows).flatten)
      (outer.listing ((rows.filter (!·.isEmpty)).map fun row => inner.enclosed (markers row))) := by
  have each : ∀ found ∈ (numberedRows name start rows).filter (!·.isEmpty),
      Shows (inner.enclosed (tokens found)) (boundNames found) (inner.enclosed (markers (found.map Prod.snd))) := by
    intro found member
    have named := numbered_rows_named name start rows found (List.mem_of_mem_filter member)
    exact shows_row inner nested.elementsQuiet name nested.elements.parts found named
  have whole := shows_listing outer nested.rowsQuiet _ _ _ _ each
  have texts : ((numberedRows name start rows).map fun found => inner.enclosed (tokens found)).filter (!Text.allBlank ·) =
      ((numberedRows name start rows).filter (!·.isEmpty)).map fun found => inner.enclosed (tokens found) := by
    rw [List.filter_map]
    congr 1
    exact List.filter_congr fun found _ => by simp [row_blank]
  have shown : (rows.filter (!·.isEmpty)).map (fun row => inner.enclosed (markers row)) =
      ((numberedRows name start rows).filter (!·.isEmpty)).map fun found => inner.enclosed (markers (found.map Prod.snd)) := by
    conv_lhs => rw [← numbered_rows_values name start rows]
    rw [List.filter_map, List.map_map]
    congr 1
    exact List.filter_congr fun found _ => by simp
  rw [texts, shown, boundNames, ← flat_map_nonempty]
  exact whole

theorem mappings_of_bound (name : String) (parts : ∀ c ∈ name.toList, Expr.isWordPart c = true)
    (found : List (String × Value)) (named : ∀ entry ∈ found, ∃ number, entry.1 = boundName name number) :
    mappingsOf (boundNames found) = .ok (found.map fun entry => { property := entry.1 }) := by
  induction found with
  | nil => rfl
  | cons entry rest ih =>
      obtain ⟨number, shape⟩ := named entry List.mem_cons_self
      have own : Mapping.parse entry.1.toList = .ok { property := entry.1 } := by
        rw [shape]
        exact Mapping.parse_word _ (bound_name_nonempty name number) (bound_name_parts name number parts)
      have later := ih fun other member => named other (List.mem_cons_of_mem _ member)
      exact (bind_ok _ _ _).mpr ⟨_, own, (bind_ok _ _ _).mpr ⟨_, later, rfl⟩⟩

theorem values_of_bound (name : String) (parts : ∀ c ∈ name.toList, Expr.isWordPart c = true) (parameter : Parameter)
    (bindings : Table String Value) (found : List (String × Value))
    (named : ∀ entry ∈ found, ∃ number, entry.1 = boundName name number)
    (bound : ∀ entry ∈ found, Table.get? entry.1 bindings = some entry.2) :
    Command.valuesOf parameter bindings (found.map fun entry => { property := entry.1 }) = .ok (found.map Prod.snd) := by
  induction found with
  | nil => rfl
  | cons entry rest ih =>
      obtain ⟨number, shape⟩ := named entry List.mem_cons_self
      have path : Value.splitPath entry.1 = (entry.1, none) := by
        rw [shape]
        exact Value.split_path_word _ (bound_name_parts name number parts)
      have later := ih (fun other member => named other (List.mem_cons_of_mem _ member))
        fun other member => bound other (List.mem_cons_of_mem _ member)
      refine (Command.values_of_cons_ok _ _ _ _ _).mpr ⟨entry.2, rest.map Prod.snd, rfl, ?_, later⟩
      refine (Command.value_of_ok_iff _ _ _ _ rfl).mpr ?_
      rw [Command.resolve?, path]
      simp only [bound entry List.mem_cons_self]
      rfl

structure Contributes (before after : Rendering) (text shown : List Char) (values : List Value) : Prop where
  scope : after.scope = before.scope
  sql : after.draft.sql = Draft.joined before.draft.sql text
  shows_markers : ∃ names mappings, Shows text names shown ∧ mappingsOf names = .ok mappings ∧
    ∀ parameter, Command.valuesOf parameter after.draft.bindings mappings = .ok values

theorem nested_rendered (outer inner : Loop) (row name : String) (nested : Nested outer inner row name)
    (rows : List (List Value)) (r : Rendering) (found : outer.collection.evaluate r.scope = .ok (.list (rows.map .list))) :
    ∃ text last, (Node.loop outer (rowNode inner name)).render r = .ok (true, last) ∧
      Contributes r last text (rowMarkers outer inner rows) rows.flatten := by
  obtain ⟨entries, listed, items⟩ := row_entries (rows.map .list)
  obtain ⟨last, ran, scope, sql, binds⟩ := rows_iterated outer inner row name nested rows entries items r
  have named : ∀ entry ∈ (numberedRows name r.draft.next rows).flatten, ∃ number, entry.1 = boundName name number := by
    intro entry member
    obtain ⟨bound, among, inside⟩ := List.mem_flatten.mp member
    exact numbered_rows_named name _ rows bound among entry inside
  have values : (numberedRows name r.draft.next rows).flatten.map Prod.snd = rows.flatten := by
    rw [List.map_flatten, numbered_rows_values]
  have bound : ∀ entry ∈ (numberedRows name r.draft.next rows).flatten,
      Table.get? entry.1 last.draft.bindings = some entry.2 := by
    intro entry member
    obtain ⟨_, _, _, _, value⟩ := binds.bound entry member
    exact value
  have whole := loop_rendered outer (rowNode inner name) _ entries r last _ found listed ran
  refine ⟨_, _, whole, scope, by rw [← sql]; rfl, boundNames (numberedRows name r.draft.next rows).flatten, _, ?_,
    mappings_of_bound name nested.elements.parts _ named, fun parameter => ?_⟩
  · cases rows with
    | nil =>
        rw [List.map_eq_nil_iff.mp items]
        exact shows_nil
    | cons first rest =>
        have shown := shows_rows outer inner row name nested (first :: rest) r.draft.next
        obtain ⟨entry, others, rfl, _⟩ := List.map_eq_cons_iff.mp items
        exact shown
  · rw [← values]
    exact values_of_bound name nested.elements.parts parameter _ _ named bound

end Template.Loop

end StatementMapper
