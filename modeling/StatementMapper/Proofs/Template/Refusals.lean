import StatementMapper.Proofs.Outcome
import StatementMapper.Template.Construction

set_option autoImplicit false

/-! What a tree of markup is refused for: each reason stands at a node of the tree and names what is wrong there. -/

namespace StatementMapper

open Outcome (bind_ok bind_error map_error last_error)

-- What is wrong with a source that is no expression.
inductive Unread (source : String) : TemplateFault → Prop where
  | empty (blank : Text.allBlank (Expr.prepare source.toList) = true) : Unread source (.emptyExpression source)
  | malformed (none : (Lexeme.all? (Expr.prepare source.toList)).bind Phrase.all? = none) :
      Unread source (.malformedExpression source)
  | narrow {phrase : Phrase} {obstacle : Expr.Obstacle}
      (read : (Lexeme.all? (Expr.prepare source.toList)).bind Phrase.all? = some phrase)
      (wider : Expr.ofPhrase phrase = .error obstacle) : Unread source (obstacle.fault source)

theorem Expr.parse_unread (source : String) (cause : TemplateFault) (failed : Expr.parse source = .error cause) :
    Unread source cause := by
  rw [Expr.parse] at failed
  split at failed
  · rename_i blank
    cases failed
    exact .empty blank
  · split at failed
    · rename_i none
      cases failed
      exact .malformed none
    · rename_i phrase read
      cases found : Expr.ofPhrase phrase with
      | error obstacle =>
          rw [found] at failed
          cases failed
          exact .narrow read found
      | ok e =>
          rw [found] at failed
          cases failed

theorem Expression.parse_unread (source : String) (cause : TemplateFault)
    (failed : Expression.parse source = .error cause) : Unread source cause := by
  rw [Expression.parse] at failed
  exact Expr.parse_unread source cause ((last_error _ _ _).mp failed)

namespace Template

-- Where a node stands: in a body, or right below a `choose`.
inductive Place where
  | body
  | choice

namespace Place

def names : Place → List String
  | body => ["if", "choose", "trim", "where", "set", "foreach", "bind"]
  | choice => ["when", "if", "otherwise"]

def unknown : Place → String → TemplateFault
  | body => .unknownElement
  | choice => .unknownBranch

def expression? : Place → String → Option String
  | body, "if" | choice, "when" | choice, "if" => some "test"
  | body, "foreach" => some "collection"
  | body, "bind" => some "value"
  | _, _ => none

-- The place of the children of an element; those of a `bind` have none.
def below? : Place → String → Option Place
  | body, "choose" => some choice
  | body, "bind" => none
  | place, name => if name ∈ place.names then some body else none

end Place

def isDefault : Markup → Bool
  | .element "otherwise" _ _ => true
  | _ => false

-- The reasons for which a node is refused at a place.
inductive Refused : Place → Markup → TemplateFault → Prop where
  | substitution {content : String} {token : List Char} {cause : TemplateFault}
      (stands : Segment.token token ∈ Delimiters.substitution.segments content.toList)
      (unread : Unread (String.ofList token) cause) : Refused .body (.text content) cause
  | unknown {place : Place} {name : String} {attributes : Attributes} {children : List Markup}
      (other : name ∉ place.names) : Refused place (.element name attributes children) (place.unknown name)
  | missing {place : Place} {name key : String} {attributes : Attributes} {children : List Markup}
      (needed : place.expression? name = some key) (absent : Table.get? key attributes = none) :
      Refused place (.element name attributes children) (.missingAttribute name key)
  | expression {place : Place} {name key source : String} {attributes : Attributes} {children : List Markup}
      {cause : TemplateFault} (needed : place.expression? name = some key) (given : Table.get? key attributes = some source)
      (unread : Unread source cause) : Refused place (.element name attributes children) cause
  | nameless {attributes : Attributes} {children : List Markup} (absent : Table.get? "name" attributes = none) :
      Refused .body (.element "bind" attributes children) (.missingAttribute "bind" "name")
  | flag {flag : String} {attributes : Attributes} {children : List Markup}
      (given : Table.get? "nullable" attributes = some flag) (neither : Node.truthFlag? flag = none) :
      Refused .body (.element "foreach" attributes children) (.nullableFlag flag)
  | defaults {attributes : Attributes} {children : List Markup} (several : 1 < children.countP isDefault) :
      Refused .body (.element "choose" attributes children) .severalDefaults
  | child {place below : Place} {name : String} {attributes : Attributes} {children : List Markup} {node : Markup}
      {cause : TemplateFault} (reads : place.below? name = some below) (member : node ∈ children)
      (refused : Refused below node cause) : Refused place (.element name attributes children) cause

namespace Node

theorem required_refused (element key : String) (attributes : Attributes) (cause : TemplateFault)
    (failed : required element key attributes = .error cause) :
    Table.get? key attributes = none ∧ cause = .missingAttribute element key := by
  rw [required] at failed
  split at failed
  · cases failed
  · rename_i absent
    cases failed
    exact ⟨absent, rfl⟩

theorem required_given (element key : String) (attributes : Attributes) (source : String)
    (given : required element key attributes = .ok source) : Table.get? key attributes = some source := by
  rw [required] at given
  split at given
  · rename_i value found
    cases given
    exact found
  · cases given

theorem expression_refused (place : Place) (name key : String) (attributes : Attributes) (children : List Markup)
    (cause : TemplateFault) (needed : place.expression? name = some key)
    (failed : expressionOf name key attributes = .error cause) :
    Refused place (.element name attributes children) cause := by
  rw [expressionOf] at failed
  obtain failed | ⟨source, given, failed⟩ := (bind_error _ _ _).mp failed
  · obtain ⟨absent, rfl⟩ := required_refused _ _ _ _ failed
    exact .missing needed absent
  · exact .expression needed (required_given _ _ _ _ given) (Expression.parse_unread source cause failed)

theorem flag_refused (options : Options) (attributes : Attributes) (children : List Markup) (cause : TemplateFault)
    (failed : nullableOf options attributes = .error cause) :
    Refused .body (.element "foreach" attributes children) cause := by
  rw [nullableOf] at failed
  split at failed
  · cases failed
  · rename_i flag given
    split at failed
    · cases failed
    · rename_i neither
      cases failed
      exact .flag given neither

theorem parts_unread (segments : List Segment) (cause : TemplateFault) (failed : partsOf segments = .error cause) :
    ∃ token, Segment.token token ∈ segments ∧ Unread (String.ofList token) cause := by
  induction segments with
  | nil => cases failed
  | cons segment rest ih =>
      cases segment with
      | literal content =>
          rw [partsOf] at failed
          obtain ⟨token, member, unread⟩ := ih ((last_error _ _ _).mp failed)
          exact ⟨token, List.mem_cons_of_mem _ member, unread⟩
      | token content =>
          rw [partsOf] at failed
          obtain failed | ⟨_, _, failed⟩ := (bind_error _ _ _).mp failed
          · exact ⟨content, List.mem_cons_self, Expression.parse_unread _ _ failed⟩
          · obtain ⟨token, member, unread⟩ := ih ((last_error _ _ _).mp failed)
            exact ⟨token, List.mem_cons_of_mem _ member, unread⟩

theorem text_refused (content : String) (cause : TemplateFault) (failed : ofText content.toList = .error cause) :
    Refused .body (.text content) cause := by
  rw [ofText] at failed
  simp only at failed
  split at failed
  · obtain ⟨token, member, unread⟩ := parts_unread _ _ ((map_error _ _ _).mp failed)
    exact .substitution member unread
  · cases failed

theorem defaults_counted (options : Options) (children : List Markup) (branches : Branches)
    (read : ofBranches options children = .ok branches) : branches.2.length = children.countP isDefault := by
  induction children generalizing branches with
  | nil =>
      cases read
      rfl
  | cons child rest ih =>
      cases child with
      | text content =>
          rw [ofBranches] at read
          rw [ih branches read, List.countP_cons_of_neg (by simp [isDefault])]
      | element name attributes body =>
          rw [ofBranches.eq_def] at read
          simp only at read
          split at read
          case h_1 | h_2 =>
            obtain ⟨_, _, read⟩ := (bind_ok _ _ _).mp read
            obtain ⟨_, _, read⟩ := (bind_ok _ _ _).mp read
            obtain ⟨more, others, read⟩ := (bind_ok _ _ _).mp read
            cases read
            rw [ih more others, List.countP_cons_of_neg (by simp [isDefault])]
          case h_3 =>
            obtain ⟨_, _, read⟩ := (bind_ok _ _ _).mp read
            obtain ⟨more, others, read⟩ := (bind_ok _ _ _).mp read
            cases read
            rw [List.length_cons, ih more others, List.countP_cons_of_pos rfl]
          case h_4 => cases read

theorem choice_error_iff (branches : Branches) (cause : TemplateFault) :
    choice branches = .error cause ↔ 1 < branches.2.length ∧ cause = .severalDefaults := by
  rw [choice]
  match branches.2 with
  | [] => simp
  | [fallback] => simp
  | _ :: _ :: _ => simp [eq_comm]

mutual
theorem markup_refused (options : Options) (markup : Markup) (cause : TemplateFault)
    (failed : ofMarkup options markup = .error cause) : Refused .body markup cause := by
  cases markup with
  | text content =>
      rw [ofMarkup] at failed
      exact text_refused content cause failed
  | element name attributes children =>
      have inner (below : Place.below? .body name = some .body) (failed : ofChildren options children = .error cause) :
          Refused .body (.element name attributes children) cause := by
        obtain ⟨node, member, refused⟩ := children_refused options children cause failed
        exact .child below member refused
      rw [ofMarkup.eq_def] at failed
      simp only at failed
      split at failed
      · -- if
        obtain failed | ⟨_, _, failed⟩ := (bind_error _ _ _).mp failed
        · exact expression_refused .body "if" "test" attributes children cause rfl failed
        · exact inner rfl ((last_error _ _ _).mp failed)
      · -- choose
        obtain failed | ⟨branches, read, failed⟩ := (bind_error _ _ _).mp failed
        · obtain ⟨node, member, refused⟩ := branches_refused options children cause failed
          exact .child rfl member refused
        · obtain ⟨several, rfl⟩ := (choice_error_iff branches cause).mp failed
          exact .defaults (by rwa [← defaults_counted options children branches read])
      · -- trim
        exact inner rfl ((last_error _ _ _).mp failed)
      · -- where
        exact inner rfl ((last_error _ _ _).mp failed)
      · -- set
        exact inner rfl ((last_error _ _ _).mp failed)
      · -- foreach
        obtain failed | ⟨_, _, failed⟩ := (bind_error _ _ _).mp failed
        · exact flag_refused options attributes children cause failed
        · obtain failed | ⟨_, _, failed⟩ := (bind_error _ _ _).mp failed
          · exact inner rfl failed
          · exact expression_refused .body "foreach" "collection" attributes children cause rfl
              ((last_error _ _ _).mp failed)
      · -- bind
        obtain failed | ⟨_, _, failed⟩ := (bind_error _ _ _).mp failed
        · obtain ⟨absent, rfl⟩ := required_refused _ _ _ _ failed
          exact .nameless absent
        · exact expression_refused .body "bind" "value" attributes children cause rfl ((last_error _ _ _).mp failed)
      · -- another name
        cases failed
        refine .unknown ?_
        simp only [Place.names, List.mem_cons, List.not_mem_nil, or_false, not_or]
        exact ⟨‹_›, ‹_›, ‹_›, ‹_›, ‹_›, ‹_›, ‹_›⟩
theorem children_refused (options : Options) (children : List Markup) (cause : TemplateFault)
    (failed : ofChildren options children = .error cause) : ∃ node ∈ children, Refused .body node cause := by
  cases children with
  | nil => cases failed
  | cons child rest =>
      rw [ofChildren] at failed
      obtain failed | ⟨_, _, failed⟩ := (bind_error _ _ _).mp failed
      · exact ⟨child, List.mem_cons_self, markup_refused options child cause failed⟩
      · obtain ⟨node, member, refused⟩ := children_refused options rest cause ((last_error _ _ _).mp failed)
        exact ⟨node, List.mem_cons_of_mem _ member, refused⟩
theorem branches_refused (options : Options) (children : List Markup) (cause : TemplateFault)
    (failed : ofBranches options children = .error cause) : ∃ node ∈ children, Refused .choice node cause := by
  cases children with
  | nil => cases failed
  | cons child rest =>
      have later (failed : ofBranches options rest = .error cause) : ∃ node ∈ child :: rest, Refused .choice node cause := by
        obtain ⟨node, member, refused⟩ := branches_refused options rest cause failed
        exact ⟨node, List.mem_cons_of_mem _ member, refused⟩
      cases child with
      | text content =>
          rw [ofBranches] at failed
          exact later failed
      | element name attributes body =>
          have inner (below : Place.below? .choice name = some .body) (failed : ofChildren options body = .error cause) :
              ∃ node ∈ .element name attributes body :: rest, Refused .choice node cause := by
            obtain ⟨node, member, refused⟩ := children_refused options body cause failed
            exact ⟨_, List.mem_cons_self, .child below member refused⟩
          rw [ofBranches.eq_def] at failed
          simp only at failed
          split at failed
          case h_1 | h_2 =>
            obtain failed | ⟨_, _, failed⟩ := (bind_error _ _ _).mp failed
            · exact ⟨_, List.mem_cons_self, expression_refused .choice _ "test" attributes body cause rfl failed⟩
            · obtain failed | ⟨_, _, failed⟩ := (bind_error _ _ _).mp failed
              · exact inner rfl failed
              · exact later ((last_error _ _ _).mp failed)
          case h_3 =>
            obtain failed | ⟨_, _, failed⟩ := (bind_error _ _ _).mp failed
            · exact inner rfl failed
            · exact later ((last_error _ _ _).mp failed)
          case h_4 =>
            cases failed
            refine ⟨_, List.mem_cons_self, .unknown ?_⟩
            simp only [Place.names, List.mem_cons, List.not_mem_nil, or_false, not_or]
            exact ⟨‹_›, ‹_›, ‹_›⟩
end

theorem compile_refused (options : Options) (source : String) (cause : TemplateFault)
    (failed : compile options source = .error cause) :
    Markup.parse source = .error cause ∨
      ∃ nodes, Markup.parse source = .ok nodes ∧ ∃ node ∈ unwrap nodes, Refused .body node cause := by
  obtain broken | ⟨nodes, read, failed⟩ := (bind_error _ _ _).mp failed
  · exact .inl broken
  · exact .inr ⟨nodes, read, children_refused options _ cause ((last_error _ _ _).mp failed)⟩

def Fails {Result : Type} (outcome : Except TemplateFault Result) : Prop := ∃ cause, outcome = .error cause

theorem fails_bind {First Second : Type} (outcome : Except TemplateFault First)
    (next : First → Except TemplateFault Second) (fails : ∀ middle, outcome = .ok middle → Fails (next middle)) :
    Fails (outcome >>= next) := by
  cases outcome with
  | error cause => exact ⟨cause, rfl⟩
  | ok middle => exact fails middle rfl

theorem fails_first {First Second : Type} {outcome : Except TemplateFault First} (fails : Fails outcome)
    (next : First → Except TemplateFault Second) : Fails (outcome >>= next) := by
  obtain ⟨cause, rfl⟩ := fails
  exact ⟨cause, rfl⟩

theorem unread_fails (source : String) (cause : TemplateFault) (unread : Unread source cause) :
    Fails (Expression.parse source) := by
  refine fails_bind _ _ fun e read => ?_
  rw [Expr.parse] at read
  split at read
  · cases read
  · rename_i solid
    cases unread with
    | empty blank => exact absurd blank solid
    | malformed none =>
        rw [none] at read
        cases read
    | narrow found wider =>
        rw [found] at read
        simp only [wider] at read
        cases read

theorem parts_fail (segments : List Segment) (token : List Char) (member : Segment.token token ∈ segments)
    (cause : TemplateFault) (unread : Unread (String.ofList token) cause) : Fails (partsOf segments) := by
  induction segments with
  | nil => cases member
  | cons segment rest ih =>
      cases segment with
      | literal content =>
          refine fails_bind _ _ fun parts read => ?_
          obtain ⟨other, failed⟩ := ih ((List.mem_cons.mp member).resolve_left nofun)
          cases failed.symm.trans read
      | token content =>
          refine fails_bind _ _ fun e own => ?_
          rcases List.mem_cons.mp member with same | later
          · cases same
            obtain ⟨other, failed⟩ := unread_fails _ cause unread
            cases failed.symm.trans own
          · refine fails_bind _ _ fun parts read => ?_
            obtain ⟨other, failed⟩ := ih later
            cases failed.symm.trans read

theorem absent_fails (element key : String) (attributes : Attributes) (absent : Table.get? key attributes = none) :
    Fails (required element key attributes) := by
  rw [required, absent]
  exact ⟨_, rfl⟩

theorem expression_of_fails (element key : String) (attributes : Attributes) (source : String) (cause : TemplateFault)
    (given : Table.get? key attributes = some source) (unread : Unread source cause) :
    Fails (expressionOf element key attributes) := by
  refine fails_bind _ _ fun found read => ?_
  cases given.symm.trans (required_given _ _ _ _ read)
  exact unread_fails source cause unread

def FailsAt (options : Options) (markup : Markup) : Place → Prop
  | .body => Fails (ofMarkup options markup)
  | .choice => ∀ rest, Fails (ofBranches options (markup :: rest))

theorem expression_fails (options : Options) (place : Place) (name key : String) (attributes : Attributes)
    (children : List Markup) (needed : place.expression? name = some key) (fails : Fails (expressionOf name key attributes)) :
    FailsAt options (.element name attributes children) place := by
  unfold Place.expression? at needed
  split at needed
  all_goals cases needed
  · rw [FailsAt, ofMarkup]
    exact fails_first fails _
  · intro rest
    rw [ofBranches]
    exact fails_first fails _
  · intro rest
    rw [ofBranches]
    exact fails_first fails _
  · rw [FailsAt, ofMarkup]
    refine fails_bind _ _ fun nullable _ => fails_bind _ _ fun body _ => ?_
    exact fails_first fails _
  · rw [FailsAt, ofMarkup]
    exact fails_bind _ _ fun target _ => fails_first fails _

theorem children_fail (options : Options) (children : List Markup) (node : Markup) (member : node ∈ children)
    (fails : FailsAt options node .body) : Fails (ofChildren options children) := by
  induction children with
  | nil => cases member
  | cons child rest ih =>
      rw [ofChildren]
      rcases List.mem_cons.mp member with rfl | later
      · exact fails_first fails _
      · exact fails_bind _ _ fun own _ => fails_first (ih later) _

theorem branches_fail (options : Options) (children : List Markup) (node : Markup) (member : node ∈ children)
    (fails : FailsAt options node .choice) : Fails (ofBranches options children) := by
  induction children with
  | nil => cases member
  | cons child rest ih =>
      rcases List.mem_cons.mp member with rfl | later
      · exact fails rest
      · cases child with
        | text content =>
            rw [ofBranches]
            exact ih later
        | element name attributes body =>
            rw [ofBranches.eq_def]
            simp only
            split
            case h_1 | h_2 =>
              exact fails_bind _ _ fun test _ => fails_bind _ _ fun nodes _ => fails_first (ih later) _
            case h_3 => exact fails_bind _ _ fun nodes _ => fails_first (ih later) _
            case h_4 => exact ⟨_, rfl⟩

theorem below_fails (options : Options) (place below : Place) (name : String) (attributes : Attributes)
    (children : List Markup) (reads : place.below? name = some below) (node : Markup) (member : node ∈ children)
    (fails : FailsAt options node below) : FailsAt options (.element name attributes children) place := by
  unfold Place.below? at reads
  split at reads
  · cases reads
    rw [FailsAt, ofMarkup]
    exact fails_first (branches_fail options children node member fails) _
  · cases reads
  · split at reads
    · rename_i choice bind known
      cases reads
      have inner := children_fail options children node member fails
      cases place with
      | body =>
          rw [FailsAt]
          simp only [Place.names, List.mem_cons, List.not_mem_nil, or_false] at known
          rcases known with rfl | rfl | rfl | rfl | rfl | rfl | rfl
          all_goals rw [ofMarkup]
          · exact fails_bind _ _ fun test _ => fails_first inner _
          · exact (choice rfl rfl).elim
          · exact fails_first inner _
          · exact fails_first inner _
          · exact fails_first inner _
          · exact fails_bind _ _ fun nullable _ => fails_first inner _
          · exact (bind rfl rfl).elim
      | choice =>
          intro rest
          simp only [Place.names, List.mem_cons, List.not_mem_nil, or_false] at known
          rcases known with rfl | rfl | rfl
          all_goals rw [ofBranches]
          · exact fails_bind _ _ fun test _ => fails_first inner _
          · exact fails_bind _ _ fun test _ => fails_first inner _
          · exact fails_first inner _
    · cases reads

-- A node is refused for nothing but a reason, and for every reason.
theorem fails_of_refused (options : Options) (place : Place) (markup : Markup) (cause : TemplateFault)
    (refused : Refused place markup cause) : FailsAt options markup place := by
  induction refused with
  | @substitution content token cause stands unread =>
      rw [FailsAt, ofMarkup, ofText]
      have some : (Delimiters.substitution.segments content.toList).any Segment.isToken = true :=
        List.any_eq_true.mpr ⟨_, stands, rfl⟩
      obtain ⟨other, failed⟩ := parts_fail _ token stands cause unread
      simp only [some, if_true]
      exact ⟨other, (map_error _ _ _).mpr failed⟩
  | @unknown place name attributes children other =>
      cases place with
      | body =>
          rw [FailsAt, ofMarkup.eq_def]
          simp only
          split
          case h_8 => exact ⟨_, rfl⟩
          all_goals exact absurd (by decide) other
      | choice =>
          intro rest
          rw [ofBranches.eq_def]
          simp only
          split
          case h_4 => exact ⟨_, rfl⟩
          all_goals exact absurd (by decide) other
  | missing needed absent =>
      exact expression_fails options _ _ _ _ _ needed (fails_first (absent_fails _ _ _ absent) _)
  | expression needed given unread =>
      exact expression_fails options _ _ _ _ _ needed (expression_of_fails _ _ _ _ _ given unread)
  | nameless absent =>
      rw [FailsAt, ofMarkup]
      exact fails_first (absent_fails _ _ _ absent) _
  | @flag flag attributes children given neither =>
      have fails : nullableOf options attributes = .error (.nullableFlag flag) := by
        rw [nullableOf, given]
        simp only [neither]
      rw [FailsAt, ofMarkup]
      exact fails_first ⟨_, fails⟩ _
  | defaults several =>
      rw [FailsAt, ofMarkup]
      refine fails_bind _ _ fun branches read => ?_
      rw [← defaults_counted options _ branches read] at several
      exact ⟨_, (choice_error_iff branches _).mpr ⟨several, rfl⟩⟩
  | child reads member refused ih => exact below_fails options _ _ _ _ _ reads _ member ih

theorem compile_fails_iff (options : Options) (source : String) :
    (∃ cause, compile options source = .error cause) ↔
      (∃ cause, Markup.parse source = .error cause) ∨
        ∃ nodes, Markup.parse source = .ok nodes ∧ ∃ node ∈ unwrap nodes, ∃ cause, Refused .body node cause := by
  constructor
  · rintro ⟨cause, failed⟩
    rcases compile_refused options source cause failed with broken | ⟨nodes, read, node, member, refused⟩
    · exact .inl ⟨cause, broken⟩
    · exact .inr ⟨nodes, read, node, member, cause, refused⟩
  · rintro (broken | ⟨nodes, read, node, member, cause, refused⟩)
    · exact fails_first broken _
    · have fails := children_fail options (unwrap nodes) node member (fails_of_refused options .body node cause refused)
      rw [compile, read]
      exact fails_first fails _

end Node

end Template

end StatementMapper
