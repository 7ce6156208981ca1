import Mathlib
import StatementMapper.Proofs.Template.Escaping
import StatementMapper.Proofs.Template.Nesting
import StatementMapper.Source

set_option autoImplicit false

/-! A loop over lists around a loop over each list sends every element once and in order. -/

namespace StatementMapper

open Outcome (bind_ok map_ok)
open Template

namespace Template

-- A loop element that names its items but not their indices, and puts no placeholder around or between bodies.
structure LoopElement (options : Options) where
  attributes : Attributes
  collection : String
  item : String
  nullable : Bool
  collects : Table.get? "collection" attributes = some collection
  items : Table.get? "item" attributes = some item
  unindexed : Table.get? "index" attributes = none
  flagged : Node.nullableOf options attributes = .ok nullable
  quiet : ∀ key ∈ ["open", "close", "separator"], Inert ((Table.get? key attributes).getD "").toList
  identifier : Expr.isIdentifier item.toList = true

namespace LoopElement

variable {options : Options}

def markup (element : LoopElement options) (children : List Markup) : Markup :=
  .element "foreach" element.attributes children

def head (element : LoopElement options) (collection : Expression) : Loop :=
  Node.loopHead element.attributes element.nullable collection

def text (element : LoopElement options) (key : String) : List Char := ((Table.get? key element.attributes).getD "").toList

def listing (element : LoopElement options) (bodies : List (List Char)) : List Char :=
  element.text "open" ++ (element.text "separator").intercalate bodies ++ element.text "close"

theorem parts (element : LoopElement options) : ∀ c ∈ element.item.toList, Expr.isWordPart c = true :=
  Expr.identifier_parts _ element.identifier

theorem each (element : LoopElement options) (collection : Expression) : (element.head collection).Each element.item :=
  ⟨element.items, element.unindexed, element.parts⟩

theorem head_quiet (element : LoopElement options) (collection : Expression) : (element.head collection).Quiet :=
  ⟨element.quiet "open" (by simp), element.quiet "separator" (by simp), element.quiet "close" (by simp)⟩

theorem compiled (element : LoopElement options) (children : List Markup) (body : List Node) (collection : Expression)
    (parsed : Expression.parse element.collection = .ok collection)
    (made : Node.ofChildren options children = .ok body) :
    Node.ofMarkup options (element.markup children) = .ok (.loop (element.head collection) (.sequence body)) := by
  have found : Node.expressionOf "foreach" "collection" element.attributes = .ok collection := by
    rw [Node.expressionOf, Node.required, element.collects]
    exact parsed
  rw [markup, Node.ofMarkup]
  exact (bind_ok _ _ _).mpr ⟨_, element.flagged, (bind_ok _ _ _).mpr ⟨_, made, (bind_ok _ _ _).mpr ⟨_, found, rfl⟩⟩⟩

end LoopElement

namespace Node

theorem of_single (options : Options) (markup : Markup) (node : Node) (made : ofMarkup options markup = .ok node) :
    ofChildren options [markup] = .ok [node] := by
  rw [ofChildren, made]
  rfl

theorem of_text_token (name : String) (parts : ∀ c ∈ name.toList, Expr.isWordPart c = true) :
    ofText (token name.toList) = .ok (.parameterized (token name.toList)) := by
  have absent : '$' ∉ token name.toList := by
    intro member
    simp only [token, List.mem_cons, List.mem_append, List.not_mem_nil, or_false] at member
    rcases member with opening | brace | inside | closing
    · exact absurd opening (by decide)
    · exact absurd brace (by decide)
    · exact absurd (parts '$' inside) (by decide)
    · exact absurd closing (by decide)
  have literal : Delimiters.substitution.segments (token name.toList) = [.literal (token name.toList)] := by
    have whole := Delimiters.segments_escape Delimiters.substitution_paired (token name.toList)
    rwa [Delimiters.escape_absent Delimiters.substitution_paired _ absent] at whole
  have marked : Delimiters.placeholder.hasTokens (token name.toList) = true := by
    rw [Delimiters.hasTokens, Delimiters.segments,
      Delimiters.closed_scan _ (closed_token _ (Loop.tame_word _ parts))]
    rfl
  rw [ofText, literal]
  simp only [List.any_cons, Segment.isToken, List.any_nil, literalsOf, List.append_nil, marked]
  rfl

end Node

structure NestedLoops (options : Options) where
  lists : LoopElement options
  elements : LoopElement options
  joined : elements.collection = lists.item
  free : Keyword.ofWord? lists.item.toList = none
  unreserved : ¬ "__frch_".toList <+: lists.item.toList

namespace NestedLoops

variable {options : Options} (loops : NestedLoops options)

def markup : Markup :=
  loops.lists.markup [loops.elements.markup [.text (String.ofList (token loops.elements.item.toList))]]

def listHead (collection : Expression) : Loop := loops.lists.head collection

def elementHead : Loop := loops.elements.head (.named loops.lists.item)

def sql (lists : List (List Value)) : List Char :=
  if lists.isEmpty then []
  else loops.lists.listing ((lists.filter (!·.isEmpty)).map fun list => loops.elements.listing (list.map fun _ => ['?']))

theorem row_markers (collection : Expression) (lists : List (List Value)) :
    Loop.rowMarkers (loops.listHead collection) loops.elementHead lists = loops.sql lists := by
  have each : (lists.filter (!·.isEmpty)).map (fun list => loops.elementHead.enclosed (Loop.markers list)) =
      (lists.filter (!·.isEmpty)).map fun list => loops.elements.listing (list.map fun _ => ['?']) := by
    refine List.map_congr_left fun list member => ?_
    have some : (Loop.markers list).isEmpty = false := by simpa [Loop.markers] using (List.mem_filter.mp member).2
    rw [Loop.enclosed, some]
    rfl
  rw [Loop.rowMarkers, each]
  rfl

def node (collection : Expression) : Node :=
  .loop (loops.listHead collection) (Loop.rowNode loops.elementHead loops.elements.item)

theorem nested (collection : Expression) :
    (loops.listHead collection).Nested loops.elementHead loops.lists.item loops.elements.item :=
  ⟨loops.lists.each _, loops.lists.head_quiet _, loops.unreserved, rfl, loops.elements.each _, loops.elements.head_quiet _⟩

theorem compiled (collection : Expression) (parsed : Expression.parse loops.lists.collection = .ok collection) :
    Node.ofMarkup options loops.markup = .ok (loops.node collection) := by
  have text : Node.ofMarkup options (.text (String.ofList (token loops.elements.item.toList))) =
      .ok (.parameterized (token loops.elements.item.toList)) := by
    rw [Node.ofMarkup, String.toList_ofList]
    exact Node.of_text_token _ loops.elements.parts
  have named : Expression.parse loops.elements.collection = .ok (.named loops.lists.item) := by
    rw [loops.joined]
    exact Expression.parse_named _ loops.lists.identifier loops.free
  have inner := loops.elements.compiled _ _ _ named (Node.of_single _ _ _ text)
  exact loops.lists.compiled _ _ _ parsed (Node.of_single _ _ _ inner)

theorem rendered (collection : Expression) (lists : List (List Value)) (r : Rendering)
    (found : collection.evaluate r.scope = .ok (.list (lists.map .list))) :
    ∃ text last, (loops.node collection).render r = .ok (true, last) ∧
      Loop.Contributes r last text (loops.sql lists) lists.flatten := by
  have whole := Loop.nested_rendered _ _ _ _ (loops.nested collection) lists r found
  rwa [loops.row_markers] at whole

end NestedLoops

end Template

namespace Source

theorem command_contributed (squeeze : Bool) (node : Node) (parameter : Parameter) (database : Option String)
    (last : Rendering) (contributed : Bool) (text shown : List Char) (values : List Value)
    (ran : node.render (start parameter database) = .ok (contributed, last))
    (contributes : Loop.Contributes (start parameter database) last text shown values) :
    ∃ command, Source.command (.dynamic (.sequence [node]) squeeze) parameter database = .ok command ∧
      command.values = values ∧
      command.sql = String.ofList (if squeeze then Text.squeeze (Text.trim shown) else Text.trim shown) := by
  obtain ⟨names, mappings, whole, parsed, found⟩ := contributes.shows_markers
  have finished : last.draft.finish = Text.trim text := by
    rw [Draft.finish, contributes.sql]
    exact congrArg Text.trim (Loop.joined_empty text)
  have rendered : rendered (.sequence [node]) (start parameter database) =
      .ok (Text.trim text, last.draft.bindings) := by
    rw [Source.rendered, Node.render, Node.renderAll, ran, ← finished]
    simp only [bind, Except.bind, Node.renderAll]
  obtain ⟨asked, left⟩ := shows_trim whole
  have bound := bind_shown squeeze asked left parsed
  have placed : placed squeeze (Text.trim text) =
      .ok (String.ofList (if squeeze then Text.squeeze (Text.trim shown) else Text.trim shown), mappings) := by
    rw [Source.placed, bound]
  refine ⟨⟨_, mappings, values, last.draft.bindings, parameter⟩, ?_, rfl, rfl⟩
  refine (bind_ok _ _ _).mpr ⟨_, rendered, (bind_ok _ _ _).mpr ⟨_, placed, ?_⟩⟩
  exact (map_ok _ _ _).mpr ⟨values, found parameter, rfl⟩

theorem compile_loops {options : Options} (loops : NestedLoops options) (source : String) (collection : Expression)
    (made : Node.ofMarkup options loops.markup = .ok (loops.node collection))
    (written : Markup.parse source = .ok [loops.markup]) :
    compile options source = .ok (.dynamic (.sequence [loops.node collection]) options.squeeze) := by
  have whole := Node.of_single _ _ _ made
  have compiled : Node.compile options source = .ok (.sequence [loops.node collection]) :=
    (bind_ok _ _ _).mpr ⟨_, written, (bind_ok _ _ _).mpr ⟨_, whole, rfl⟩⟩
  have dynamic : (Node.sequence [loops.node collection]).isDynamic = true := by
    simp only [Node.isDynamic, Node.anyDynamic, NestedLoops.node, Bool.true_or]
  rw [compile, compiled]
  simp only [ofNode, dynamic, if_true]

-- The one part is about the loops wherever they stand, the other about the commands of a template that is nothing else.
theorem nested_lists_sent {options : Options} (loops : NestedLoops options) (collection : Expression)
    (parsed : Expression.parse loops.lists.collection = .ok collection) :
    ∃ node, Node.ofMarkup options loops.markup = .ok node ∧ ∀ lists : List (List Value),
      (∀ r : Rendering, collection.evaluate r.scope = .ok (.list (lists.map .list)) →
        ∃ text last mappings, node.render r = .ok (true, last) ∧ last.scope = r.scope ∧
          last.draft.sql = Draft.joined r.draft.sql text ∧ bindPlaceholders false text = .ok (loops.sql lists, mappings) ∧
            ∀ parameter, Command.valuesOf parameter last.draft.bindings mappings = .ok lists.flatten) ∧
      ∀ source parameter database, Markup.parse source = .ok [loops.markup] →
        collection.evaluate (Scope.root parameter database) = .ok (.list (lists.map .list)) →
          ∃ compiled command, compile options source = .ok compiled ∧
            compiled.command parameter database = .ok command ∧ command.values = lists.flatten ∧
              command.sql = String.ofList (if options.squeeze then Text.squeeze (Text.trim (loops.sql lists))
                else Text.trim (loops.sql lists)) := by
  have made := loops.compiled collection parsed
  refine ⟨loops.node collection, made, fun lists => ⟨fun r found => ?_, fun source parameter database written found => ?_⟩⟩
  · obtain ⟨text, last, ran, contributes⟩ := loops.rendered collection lists r found
    obtain ⟨names, mappings, whole, read, sent⟩ := contributes.shows_markers
    obtain ⟨asked, left⟩ := shows_scan whole
    exact ⟨text, last, mappings, ran, contributes.scope, contributes.sql, bind_shown false asked left read, sent⟩
  · obtain ⟨text, last, ran, contributes⟩ := loops.rendered collection lists (start parameter database) found
    obtain ⟨command, bound, values, sql⟩ :=
      command_contributed options.squeeze _ parameter database last true text _ _ ran contributes
    exact ⟨_, command, compile_loops loops source collection made written, bound, values, sql⟩

def group : NestedLoops {} where
  lists := {
    attributes := [("collection", "groups"), ("item", "id"), ("open", "("), ("close", ")"), ("separator", " OR ")]
    collection := "groups"
    item := "id"
    nullable := false
    collects := rfl
    items := rfl
    unindexed := rfl
    flagged := rfl
    quiet := by decide
    identifier := by decide +kernel }
  elements := {
    attributes := [("collection", "id"), ("item", "id"), ("open", "id IN ("), ("close", ")"), ("separator", ", ")]
    collection := "id"
    item := "id"
    nullable := false
    collects := rfl
    items := rfl
    unindexed := rfl
    flagged := rfl
    quiet := by decide
    identifier := by decide +kernel }
  joined := rfl
  free := by decide +kernel
  unreserved := by decide

def groupSource : String :=
  "<foreach collection='groups' item='id' open='(' close=')' separator=' OR '>" ++
  "<foreach collection='id' item='id' open='id IN (' close=')' separator=', '>#\x7bid\x7d</foreach></foreach>"

def groupLists : List (List Value) := [[.integer 1, .integer 2], [], [.null, .list [.text "#\x7bid\x7d"], .integer 1]]

theorem group_sent :
    ∃ compiled command, compile {} groupSource = .ok compiled ∧
      compiled.command (.table [("groups", .list (groupLists.map .list))]) none = .ok command ∧
        command.values = groupLists.flatten ∧ command.sql = "(id IN (?, ?) OR id IN (?, ?, ?))" := by
  have written : Markup.parse groupSource = .ok [group.markup] := by cbv
  have parsed : Expression.parse "groups" = .ok (.named "groups") :=
    Expression.parse_named "groups" (by decide +kernel) (by decide +kernel)
  obtain ⟨node, _, each⟩ := nested_lists_sent group _ parsed
  exact (each groupLists).2 groupSource (.table [("groups", .list (groupLists.map .list))]) none written rfl

end Source

end StatementMapper
