import Mathlib.Data.Bool.AllAny
import StatementMapper.Proofs.Outcome
import StatementMapper.Proofs.Template.Escaping
import StatementMapper.Proofs.Template.Nesting
import StatementMapper.Proofs.Text.Offsets

set_option autoImplicit false

/-! The clauses whose tests are true stand behind the keyword in order, with one connective or comma between two. -/

namespace StatementMapper

open Outcome (bind_ok)

namespace Template

namespace Draft

theorem joined_firm {left right : List Char} (first : Text.Firm left) (last : Text.Firm right) :
    joined left right = left ++ [' '] ++ right := by
  obtain ⟨c, back, solid⟩ := first.last
  obtain ⟨d, front, firm⟩ := last.first
  have fuse : fuses left right = true := by simp only [fuses, back, front, solid, firm]; rfl
  rw [joined, if_pos fuse, List.append_assoc]
  rfl

theorem joined_all (text : List Char) (texts : List (List Char)) (each : ∀ part ∈ text :: texts, Text.Firm part) :
    texts.foldl joined text = [' '].intercalate (text :: texts) := by
  induction texts generalizing text with
  | nil => simp
  | cons next rest ih =>
      have own := each text List.mem_cons_self
      have following := each next (by simp)
      have whole := ih (text ++ [' '] ++ next) fun part member => ?_
      · rw [List.foldl_cons, joined_firm own following, whole, List.intercalate_cons_cons]
        cases rest with
        | nil => simp
        | cons last more => simp only [List.intercalate_cons_cons, List.append_assoc]
      · cases member with
        | head => exact Text.firm_append own following _
        | tail _ later => exact each part (List.mem_cons_of_mem _ (List.mem_cons_of_mem _ later))

end Draft

namespace Node

def verbatim (content : List Char) : Node :=
  if Delimiters.placeholder.hasTokens content then .parameterized content else .static content

theorem render_verbatim (content : List Char) (r : Rendering) :
    (verbatim content).render r = .ok (true, r.append content) := by
  rw [verbatim]
  split <;> rw [render]

theorem of_text_bare (content : List Char) (bare : Delimiters.substitution.Bare content) :
    ofText content = .ok (verbatim content) := by
  have gathered : Delimiters.substitution.segments content = if content.isEmpty then [] else [.literal content] := by
    rw [Delimiters.segments, bare]
    clear bare
    induction content with
    | nil => rfl
    | cons c rest ih =>
        rw [List.map_cons, Delimiters.gather, ih]
        cases rest <;> rfl
  rw [ofText, gathered]
  cases content with
  | nil => rfl
  | cons c rest =>
      simp only [List.isEmpty_cons, Bool.false_eq_true, if_false, List.any_cons, Segment.isToken, List.any_nil,
        Bool.or_false, literalsOf, List.append_nil]
      rfl

end Node

-- A condition whose body has a clause: a test, and a text without substitutions and without white space at its ends.
structure Condition where
  attributes : Attributes
  test : Expression
  clause : List Char
  tested : Node.expressionOf "if" "test" attributes = .ok test
  nonempty : clause ≠ []
  trimmed : Text.trim clause = clause
  bare : Delimiters.substitution.Bare clause

namespace Condition

def markup (before after : String) (condition : Condition) : Markup :=
  .element "if" condition.attributes [.text (before ++ String.ofList condition.clause ++ after)]

def body (before after : String) (clause : List Char) : List Char := before.toList ++ clause ++ after.toList

def node (before after : String) (condition : Condition) : Node :=
  .when condition.test (.sequence [.verbatim (body before after condition.clause)])

theorem firm (condition : Condition) : Text.Firm condition.clause :=
  (Text.firm_iff _).mpr ⟨condition.nonempty, condition.trimmed⟩

def isChosen (scope : Scope) (condition : Condition) : Bool :=
  match condition.test.holds scope with
  | .ok holds => holds
  | .error _ => false

def chosen (scope : Scope) (conditions : List Condition) : List (List Char) :=
  (conditions.filter (isChosen scope)).map clause

def Decided (scope : Scope) (conditions : List Condition) : Prop :=
  ∀ condition ∈ conditions, ∃ holds, condition.test.holds scope = .ok holds

theorem compiled (options : Options) (before after : String)
    (opens : ∀ c ∈ before.toList, Delimiters.substitution.Foreign c)
    (closes : ∀ c ∈ after.toList, Delimiters.substitution.Foreign c) (conditions : List Condition) :
    Node.ofChildren options (conditions.map (markup before after)) = .ok (conditions.map (node before after)) := by
  induction conditions with
  | nil => rw [List.map_nil, Node.ofChildren]; rfl
  | cons condition rest ih =>
      have text : Node.ofMarkup options (.text (before ++ String.ofList condition.clause ++ after)) =
          .ok (.verbatim (body before after condition.clause)) := by
        rw [Node.ofMarkup, String.toList_append, String.toList_append, String.toList_ofList]
        exact Node.of_text_bare _ (Delimiters.substitution.bare_framed opens closes condition.bare)
      have children : Node.ofChildren options [.text (before ++ String.ofList condition.clause ++ after)] =
          .ok [.verbatim (body before after condition.clause)] := by
        rw [Node.ofChildren, text]
        rfl
      have own : Node.ofMarkup options (condition.markup before after) = .ok (condition.node before after) := by
        rw [markup, Node.ofMarkup]
        exact (bind_ok _ _ _).mpr ⟨_, condition.tested, (bind_ok _ _ _).mpr ⟨_, children, rfl⟩⟩
      rw [List.map_cons, Node.ofChildren]
      exact (bind_ok _ _ _).mpr ⟨_, own, (bind_ok _ _ _).mpr ⟨_, ih, rfl⟩⟩

theorem rendered (before after : String) (conditions : List Condition) (r : Rendering)
    (decided : Decided r.scope conditions) :
    Node.renderAll (conditions.map (node before after)) r =
      .ok ⟨{ r.draft with sql := ((chosen r.scope conditions).map (body before after)).foldl Draft.joined r.draft.sql },
        r.scope⟩ := by
  induction conditions generalizing r with
  | nil => rw [List.map_nil, Node.renderAll]; rfl
  | cons condition rest ih =>
      obtain ⟨holds, own⟩ := decided condition List.mem_cons_self
      have later : Decided r.scope rest := fun other member => decided other (List.mem_cons_of_mem _ member)
      have first : (condition.node before after).render r =
          .ok (holds, if holds then r.append (body before after condition.clause) else r) := by
        rw [node, Node.render, own]
        cases holds with
        | false => rfl
        | true =>
            simp only [bind, Except.bind, Node.render, Node.renderAll, Node.render_verbatim]
            rfl
      rw [List.map_cons, Node.renderAll, first]
      simp only [bind, Except.bind]
      cases holds with
      | false =>
          rw [if_neg (by simp), ih r later]
          simp [chosen, isChosen, own]
      | true =>
          rw [if_pos rfl, ih (r.append (body before after condition.clause)) later]
          simp [chosen, isChosen, own, Rendering.append, Draft.append]

end Condition

inductive Connective where
  | and
  | or

def Connective.word : Connective → String
  | and => "AND"
  | or => "OR"

namespace Trimming

theorem set_stripped (text : List Char) (firm : Text.Firm text) : setClause.stripTrailing (text ++ [',']) = text := by
  have ends : Text.endsWith (Text.upper (text ++ [','])) [','] = true := by
    rw [Text.endsWith, List.isSuffixOf_iff_suffix, Text.upper, List.map_append]
    exact List.suffix_append _ _
  have found : setClause.trailing.find? (matchesEnd (Text.upper (text ++ [',']))) = some [','] := by
    simp [setClause, matchesEnd, ends]
  rw [stripTrailing, found]
  exact (congrArg Text.trimEnd (Text.cut_end_back text [','])).trans (Text.firm_end firm)

theorem set_decorated (text : List Char) (firm : Text.Firm text) (free : text.head? ≠ some ',') :
    setClause.decorate (Condition.body "" "," text) = "SET".toList ++ ' ' :: text := by
  have kept : setClause.stripLeading (text ++ [',']) = text ++ [','] := by
    obtain ⟨c, first, _⟩ := firm.first
    obtain ⟨rest, rfl⟩ := List.head?_eq_some_iff.mp first
    have other : ',' ≠ c.toUpper := fun comma => free (by rw [first, Text.upper_comma c comma.symm])
    simp [stripLeading, setClause, Text.upper, List.isPrefixOf, beq_eq_false_iff_ne.mpr other]
  have shape : Condition.body "" "," text = text ++ [','] := by simp [Condition.body]
  rw [shape, decorate, kept, set_stripped text firm]
  rfl

end Trimming

def Rendering.withClauses (keyword between : String) (clauses : List (List Char)) (r : Rendering) : Rendering :=
  if clauses.isEmpty then r else r.append (keyword.toList ++ ' ' :: between.toList.intercalate clauses)

-- An element that takes clauses: what stands around each in the body of its condition, and what it makes of them.
structure Idiom where
  name : String
  tag : TrimTag
  trimming : Trimming
  keyword : String
  before : String
  after : String
  reserved : List Char
  compiled : ∀ options attributes children body, Node.ofChildren options children = .ok body →
    Node.ofMarkup options (.element name attributes children) = .ok (.trim tag trimming (.sequence body))
  opens : ∀ c ∈ before.toList, Delimiters.substitution.Foreign c
  closes : ∀ c ∈ after.toList, Delimiters.substitution.Foreign c
  firm : ∀ text, Text.Firm text → Text.Firm (Condition.body before after text)
  decorated : ∀ text, Text.Firm text → (∀ c ∈ text.head?, c ∉ reserved) →
    trimming.decorate (Condition.body before after text) = keyword.toList ++ ' ' :: text

namespace Idiom

def between (idiom : Idiom) : String := idiom.after ++ " " ++ idiom.before

def body (idiom : Idiom) (clause : List Char) : List Char := Condition.body idiom.before idiom.after clause

def node (idiom : Idiom) (conditions : List Condition) : Node :=
  .trim idiom.tag idiom.trimming (.sequence (conditions.map (Condition.node idiom.before idiom.after)))

def Admits (idiom : Idiom) (conditions : List Condition) : Prop :=
  ∀ condition ∈ conditions, ∀ c ∈ condition.clause.head?, c ∉ idiom.reserved

theorem bodies_joined (idiom : Idiom) (clause : List Char) (rest : List (List Char))
    (each : ∀ text ∈ clause :: rest, Text.Firm text) :
    ((clause :: rest).map idiom.body).foldl Draft.joined [] =
      idiom.body (idiom.between.toList.intercalate (clause :: rest)) := by
  have bodies : ∀ text ∈ (clause :: rest).map idiom.body, Text.Firm text := by
    intro text member
    obtain ⟨own, among, rfl⟩ := List.mem_map.mp member
    exact idiom.firm own (each own among)
  rw [List.map_cons, List.foldl_cons, Loop.joined_empty, Draft.joined_all _ _ bodies, ← List.map_cons]
  unfold body Condition.body
  rw [Text.intercalate_framed, between, String.toList_append, String.toList_append]
  rfl

theorem closed (idiom : Idiom) (clauses : List (List Char)) (firm : ∀ clause ∈ clauses, Text.Firm clause)
    (free : ∀ clause ∈ clauses, ∀ c ∈ clause.head?, c ∉ idiom.reserved) (r : Rendering) :
    idiom.trimming.close r.draft ⟨{ r.draft with sql := (clauses.map idiom.body).foldl Draft.joined [] }, r.scope⟩ =
      r.withClauses idiom.keyword idiom.between clauses := by
  cases clauses with
  | nil => rfl
  | cons clause rest =>
      have whole := Text.firm_intercalate idiom.between.toList clause rest firm
      obtain ⟨nonempty, trimmed⟩ := (Text.firm_iff _).mp (idiom.firm _ whole)
      have start := Text.head_intercalate idiom.between.toList clause rest
        ((Text.firm_iff _).mp (firm clause List.mem_cons_self)).1
      have written := idiom.decorated _ whole (by rw [start]; exact free clause List.mem_cons_self)
      rw [bodies_joined idiom clause rest firm, Trimming.close]
      simp only [body, trimmed, written, List.isEmpty_eq_false_iff.mpr nonempty]
      rfl

theorem rendered (idiom : Idiom) (options : Options) (attributes : Attributes) (conditions : List Condition)
    (admits : idiom.Admits conditions) :
    ∃ node, Node.ofMarkup options (.element idiom.name attributes
        (conditions.map (Condition.markup idiom.before idiom.after))) = .ok node ∧
      ∀ r : Rendering, Condition.Decided r.scope conditions →
        node.render r = .ok (true, r.withClauses idiom.keyword idiom.between (Condition.chosen r.scope conditions)) := by
  have made := Condition.compiled options idiom.before idiom.after idiom.opens idiom.closes conditions
  refine ⟨idiom.node conditions, idiom.compiled options attributes _ _ made, fun r decided => ?_⟩
  have picked : ∀ clause ∈ Condition.chosen r.scope conditions,
      ∃ condition ∈ conditions, condition.clause = clause := by
    intro clause member
    obtain ⟨condition, among, same⟩ := List.mem_map.mp member
    exact ⟨condition, List.mem_of_mem_filter among, same⟩
  have inside := Condition.rendered idiom.before idiom.after conditions ⟨r.draft.aside, r.scope⟩ decided
  have closed := idiom.closed (Condition.chosen r.scope conditions) (fun clause member => ?_) (fun clause member => ?_) r
  · rw [node, Node.render, Node.render, inside]
    exact congrArg (fun last => Except.ok (true, last)) closed
  · obtain ⟨condition, _, rfl⟩ := picked clause member
    exact condition.firm
  · obtain ⟨condition, among, rfl⟩ := picked clause member
    exact admits condition among

def assigned : Idiom where
  name := "set"
  tag := .set
  trimming := .setClause
  keyword := "SET"
  before := ""
  after := ","
  reserved := [',']
  compiled := fun options attributes children body made => by
    rw [Node.ofMarkup, made]
    rfl
  opens := List.all_iff_forall_prop.mp (by decide)
  closes := List.all_iff_forall_prop.mp (by decide)
  firm := fun text firm => by
    refine ⟨?_, ⟨',', by simp [Condition.body], by decide⟩⟩
    obtain ⟨c, first, solid⟩ := firm.first
    exact ⟨c, by simp [Condition.body, List.head?_append, first], solid⟩
  decorated := fun text firm free => Trimming.set_decorated text firm fun comma => free ',' comma (by simp)

end Idiom

open Condition (markup chosen Decided)

structure Flag (name clause : String) : Prop where
  identifier : Expr.isIdentifier name.toList = true
  free : Keyword.ofWord? name.toList = none
  nonempty : clause.toList ≠ []
  trimmed : Text.trim clause.toList = clause.toList
  bare : Delimiters.substitution.Bare clause.toList

namespace Flag

variable {name clause : String} (flag : Flag name clause)

include flag in
theorem tested : Node.expressionOf "if" "test" [("test", name)] = .ok (.named name) := by
  have found : Table.get? "test" [("test", name)] = some name := rfl
  rw [Node.expressionOf, Node.required, found]
  exact Expression.parse_named name flag.identifier flag.free

def condition : Condition where
  attributes := [("test", name)]
  test := .named name
  clause := clause.toList
  tested := flag.tested
  nonempty := flag.nonempty
  trimmed := flag.trimmed
  bare := flag.bare

end Flag

theorem named_flag : Flag "named" "name = 'Bo'" :=
  ⟨by decide +kernel, by decide +kernel, by decide, by decide, by unfold Delimiters.Bare; decide +kernel⟩

theorem aged_flag : Flag "aged" "age = 30" :=
  ⟨by decide +kernel, by decide +kernel, by decide, by decide, by unfold Delimiters.Bare; decide +kernel⟩

theorem placed_flag : Flag "placed" "city = 'Oslo'" :=
  ⟨by decide +kernel, by decide +kernel, by decide, by decide, by unfold Delimiters.Bare; decide +kernel⟩

def flagged : List Condition := [named_flag.condition, aged_flag.condition, placed_flag.condition]

def flags : Rendering :=
  ⟨{}, .root (.table [("named", .boolean false), ("aged", .boolean true), ("placed", .boolean true)]) none⟩

end Template

end StatementMapper
