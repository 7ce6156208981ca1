import StatementMapper.Proofs.Text.Cutting
import StatementMapper.Template.Placeholder

set_option autoImplicit false

namespace StatementMapper

namespace Template.Delimiters

variable (d : Delimiters)

theorem body_closed {text tail : List Char} (closed : Text.after? d.closing text = some tail) :
    body? d text = some ([], d.closing, tail) := by
  cases text with
  | nil =>
      have shape := (Text.after_some_iff _ _ _).mp closed
      exact absurd (List.append_eq_nil_iff.mp shape.symm).1 d.closing_nonempty
  | cons c rest => rw [body?, closed]

theorem body_escaped {rest tail : List Char} (unclosed : Text.after? d.closing ('\\' :: rest) = none)
    (escape : Text.after? d.closing rest = some tail) :
    body? d ('\\' :: rest) = (body? d tail).map fun (content, raw, after) =>
      (d.closing ++ content, '\\' :: d.closing ++ raw, after) := by
  rw [body?, unclosed]
  simp only [if_true, escape]
  rw [if_pos (Text.after_length escape)]

theorem body_plain {c : Char} {rest : List Char} (unclosed : Text.after? d.closing (c :: rest) = none)
    (unescaped : c = '\\' → Text.after? d.closing rest = none) :
    body? d (c :: rest) = (body? d rest).map fun (content, raw, after) => (c :: content, c :: raw, after) := by
  rw [body?, unclosed]
  by_cases slash : c = '\\'
  · simp only [if_pos slash, unescaped slash]
  · simp only [if_neg slash]

-- What stands between an opening delimiter and the closing one, the escapes in it taken off.
inductive Body : List Char → List Char → List Char → List Char → Prop where
  | closed {text tail : List Char} (closed : Text.after? d.closing text = some tail) : Body text [] d.closing tail
  | escaped {rest tail content raw after : List Char} (unclosed : Text.after? d.closing ('\\' :: rest) = none)
      (escape : Text.after? d.closing rest = some tail) (more : Body tail content raw after) :
      Body ('\\' :: rest) (d.closing ++ content) ('\\' :: d.closing ++ raw) after
  | plain {c : Char} {rest content raw after : List Char} (unclosed : Text.after? d.closing (c :: rest) = none)
      (unescaped : c = '\\' → Text.after? d.closing rest = none) (more : Body rest content raw after) :
      Body (c :: rest) (c :: content) (c :: raw) after

theorem body_iff (text content raw tail : List Char) :
    body? d text = some (content, raw, tail) ↔ Body d text content raw tail := by
  constructor
  · intro found
    fun_induction body? d text generalizing content raw tail with
    | case1 => cases found
    | case2 c rest after closed =>
        cases found
        exact .closed closed
    | case3 c rest unclosed after escape bound ih =>
        simp only [Option.map_eq_some_iff, Prod.mk.injEq, Prod.exists] at found
        obtain ⟨_, _, _, later, rfl, rfl, rfl⟩ := found
        by_cases slash : c = '\\'
        · subst slash
          exact .escaped unclosed (by simpa using escape) (ih _ _ _ later)
        · simp [slash] at escape
    | case4 => cases found
    | case5 c rest unclosed unescaped ih =>
        simp only [Option.map_eq_some_iff, Prod.mk.injEq, Prod.exists] at found
        obtain ⟨_, _, _, later, rfl, rfl, rfl⟩ := found
        exact .plain unclosed (fun slash => by simpa [slash] using unescaped) (ih _ _ _ later)
  · intro body
    induction body with
    | closed closed => exact body_closed d closed
    | escaped unclosed escape _ ih => rw [body_escaped d unclosed escape, ih]; rfl
    | plain unclosed unescaped _ ih => rw [body_plain d unclosed unescaped, ih]; rfl

theorem body_split {text content raw tail : List Char} (body : Body d text content raw tail) : text = raw ++ tail := by
  induction body with
  | closed closed => exact (Text.after_some_iff _ _ _).mp closed
  | escaped _ escape _ ih => rw [(Text.after_some_iff _ _ _).mp escape, ih]; simp
  | plain _ _ _ ih => rw [ih]; rfl

theorem body_long {text content raw tail : List Char} (body : Body d text content raw tail) :
    d.closing.length ≤ raw.length := by
  induction body with
  | closed => exact Nat.le_refl _
  | escaped => simp; omega
  | plain _ _ _ ih => simp only [List.length_cons]; omega

theorem body_last {text content raw tail : List Char} (body : Body d text content raw tail) :
    raw.getLast? = d.closing.getLast? := by
  have nonempty : d.closing.getLast? ≠ none := by simp [d.closing_nonempty]
  induction body with
  | closed => rfl
  | escaped _ _ _ ih =>
      rw [List.getLast?_append, ih]
      cases last : d.closing.getLast? with
      | none => exact absurd last nonempty
      | some c => rfl
  | plain _ _ _ ih =>
      rw [List.getLast?_cons, ih]
      cases last : d.closing.getLast? with
      | none => exact absurd last nonempty
      | some c => rfl

theorem body_local {text content raw tail : List Char} (body : Body d text content raw tail) (other : List Char) :
    Body d (raw ++ other) content raw other := by
  induction body with
  | closed => exact .closed ((Text.after_some_iff _ _ _).mpr rfl)
  | @escaped rest tail content raw after unclosed escape later ih =>
      have shape : '\\' :: rest = ('\\' :: d.closing ++ raw) ++ after := by
        rw [(Text.after_some_iff _ _ _).mp escape, body_split d later]
        simp
      rw [shape] at unclosed
      have still := Text.after_local _ _ after other (by simp; omega) unclosed
      simp only [List.cons_append, List.append_assoc] at still ⊢
      exact .escaped still ((Text.after_some_iff _ _ _).mpr rfl) ih
  | @plain c rest content raw after unclosed unescaped later ih =>
      have long := body_long d later
      have shape := body_split d later
      rw [shape, ← List.cons_append] at unclosed
      refine .plain (Text.after_local _ _ after other ?_ unclosed) (fun slash => ?_) ih
      · simp only [List.length_cons]
        omega
      · exact Text.after_local _ _ after other long (shape ▸ unescaped slash)

theorem scan_token {text start content raw tail : List Char} (opened : Text.after? d.opening text = some start)
    (body : Body d start content raw tail) : scan d text = .token content (d.opening ++ raw) :: scan d tail := by
  have found := (body_iff d _ _ _ _).mpr body
  cases text with
  | nil =>
      have shape := (Text.after_some_iff _ _ _).mp opened
      exact absurd (List.append_eq_nil_iff.mp shape.symm).1 d.opening_nonempty
  | cons c rest =>
      rw [scan]
      split
      · rename_i other there
        rw [opened, Option.some.injEq] at there
        subst there
        split
        · rename_i missing
          rw [found] at missing
          cases missing
        · rename_i same
          rw [found] at same
          cases same
          rfl
      · rename_i unopened
        rw [opened] at unopened
        cases unopened

-- An opening delimiter without a closing one is plain, and so is all that follows it.
theorem scan_open {text start : List Char} (opened : Text.after? d.opening text = some start)
    (unclosed : body? d start = none) : scan d text = text.map Piece.plain := by
  cases text with
  | nil => rw [scan]; rfl
  | cons c rest =>
      rw [scan]
      split
      · rename_i other there
        rw [opened, Option.some.injEq] at there
        subst there
        split
        · rfl
        · rename_i found
          rw [unclosed] at found
          cases found
      · rename_i unopened
        rw [opened] at unopened
        cases unopened

theorem scan_escaped {rest tail : List Char} (unopened : Text.after? d.opening ('\\' :: rest) = none)
    (escape : Text.after? d.opening rest = some tail) : scan d ('\\' :: rest) = .escaped :: scan d tail := by
  rw [scan]
  split
  · rename_i other there
    rw [unopened] at there
    cases there
  · split
    · rename_i other there
      rw [if_pos rfl, escape, Option.some.injEq] at there
      rw [there]
    · rename_i missing
      rw [if_pos rfl, escape] at missing
      cases missing

theorem scan_plain {c : Char} {rest : List Char} (unopened : Text.after? d.opening (c :: rest) = none)
    (unescaped : c = '\\' → Text.after? d.opening rest = none) : scan d (c :: rest) = .plain c :: scan d rest := by
  rw [scan]
  split
  · rename_i other there
    rw [unopened] at there
    cases there
  · split
    · rename_i other there
      by_cases slash : c = '\\'
      · rw [if_pos slash, unescaped slash] at there
        cases there
      · rw [if_neg slash] at there
        cases there
    · rfl

theorem map_tokens_same (answer : List Char → List Char) (text : List Char)
    (same : ∀ content raw, .token content raw ∈ scan d text → answer content = content) : mapTokens d answer text = text := by
  rw [mapTokens]
  fun_induction scan d text with
  | case1 => rfl
  | case2 c rest start opened unclosed => simp [List.flatMap_map, mapPiece]
  | case3 c rest start opened content raw tail found ih =>
      have later := ih fun other slice member => same other slice (List.mem_cons_of_mem _ member)
      have own := same content (d.opening ++ raw) List.mem_cons_self
      rw [List.flatMap_cons, later, mapPiece, if_pos own, (Text.after_some_iff _ _ _).mp opened,
        body_split d ((body_iff d _ _ _ _).mp found), List.append_assoc]
  | case4 c rest unopened tail escape ih =>
      have later := ih fun other slice member => same other slice (List.mem_cons_of_mem _ member)
      obtain ⟨rfl, escape⟩ := Option.ite_none_right_eq_some.mp escape
      rw [List.flatMap_cons, later, (Text.after_some_iff _ _ _).mp escape]
      rfl
  | case5 c rest unopened unescaped ih =>
      have later := ih fun other slice member => same other slice (List.mem_cons_of_mem _ member)
      rw [List.flatMap_cons, later]
      rfl

inductive Closed : List Char → List Piece → Prop where
  | nil : Closed [] []
  | token {text start content raw tail : List Char} {pieces : List Piece}
      (opened : Text.after? d.opening text = some start) (body : Body d start content raw tail)
      (more : Closed tail pieces) : Closed text (.token content (d.opening ++ raw) :: pieces)
  | escaped {rest tail : List Char} {pieces : List Piece} (unopened : Text.after? d.opening ('\\' :: rest) = none)
      (escape : Text.after? d.opening rest = some tail) (more : Closed tail pieces) :
      Closed ('\\' :: rest) (.escaped :: pieces)
  | plain {c : Char} {rest : List Char} {pieces : List Piece} (unopened : Text.after? d.opening (c :: rest) = none)
      (unescaped : c = '\\' → Text.after? d.opening rest = none) (more : Closed rest pieces) :
      Closed (c :: rest) (.plain c :: pieces)

theorem closed_scan {text : List Char} {pieces : List Piece} (closed : Closed d text pieces) : scan d text = pieces := by
  induction closed with
  | nil => rw [scan]
  | token opened body _ ih => rw [scan_token d opened body, ih]
  | escaped unopened escape _ ih => rw [scan_escaped d unopened escape, ih]
  | plain unopened unescaped _ ih => rw [scan_plain d unopened unescaped, ih]

theorem closed_mapped (answer : List Char → List Char) {text : List Char} {pieces : List Piece}
    (closed : Closed d text pieces) : mapTokens d answer text = pieces.flatMap (mapPiece d answer) := by
  rw [mapTokens, closed_scan d closed]

-- No delimiter, escaped or not, starts in one text and ends in the next.
def Apart (text next : List Char) : Prop :=
  ∀ front back, text = front ++ back → back ≠ [] ∨ front.getLast? = some '\\' →
    Text.after? d.opening back = none → Text.after? d.opening (back ++ next) = none

theorem apart_tail (front back next : List Char) (apart : Apart d (front ++ back) next) : Apart d back next := by
  intro first second shape there unopened
  refine apart (front ++ first) second (by rw [shape, List.append_assoc]) ?_ unopened
  rcases there with nonempty | slash
  · exact Or.inl nonempty
  · refine Or.inr ?_
    rw [List.getLast?_append, slash]
    rfl

theorem closed_append {text next : List Char} {pieces more : List Piece} (closed : Closed d text pieces)
    (following : Closed d next more) (apart : Apart d text next) : Closed d (text ++ next) (pieces ++ more) := by
  induction closed with
  | nil => exact following
  | @token text start content raw tail pieces opened body later ih =>
      have shape := (Text.after_some_iff _ _ _).mp opened
      rw [body_split d body, ← List.append_assoc] at shape
      rw [shape] at apart
      refine .token ((Text.after_some_iff _ _ _).mpr ?_) (body_local d body (tail ++ next)) (ih (apart_tail d _ _ _ apart))
      rw [shape]
      simp only [List.append_assoc]
  | @escaped rest tail pieces unopened escape later ih =>
      have shape := (Text.after_some_iff _ _ _).mp escape
      change Closed d ('\\' :: (rest ++ next)) _
      refine .escaped ?_ ((Text.after_some_iff _ _ _).mpr ?_) (ih ?_)
      · exact apart [] _ rfl (Or.inl (by simp)) unopened
      · rw [shape, List.append_assoc]
      · rw [shape] at apart
        exact apart_tail d ('\\' :: d.opening) _ _ apart
  | @plain c rest pieces unopened unescaped later ih =>
      change Closed d (c :: (rest ++ next)) _
      refine .plain ?_ ?_ (ih (apart_tail d [c] _ _ apart))
      · exact apart [] _ rfl (Or.inl (by simp)) unopened
      · intro slash
        exact apart [c] rest rfl (Or.inr (by simp [slash])) (unescaped slash)

theorem closed_split {text : List Char} {pieces front back : List Piece} (closed : Closed d text pieces)
    (parts : pieces = front ++ back) : ∃ left right, text = left ++ right ∧ Closed d left front ∧ Closed d right back := by
  induction closed generalizing front with
  | nil =>
      obtain ⟨rfl, rfl⟩ := List.append_eq_nil_iff.mp parts.symm
      exact ⟨[], [], rfl, .nil, .nil⟩
  | @token text start content raw tail pieces opened body more ih =>
      cases front with
      | nil =>
          obtain rfl : _ = back := parts
          exact ⟨[], text, rfl, .nil, .token opened body more⟩
      | cons piece rest =>
          obtain ⟨rfl, others⟩ := List.cons.inj parts
          obtain ⟨left, right, rfl, first, second⟩ := ih others
          refine ⟨d.opening ++ (raw ++ left), right, ?_, .token ((Text.after_some_iff _ _ _).mpr rfl)
            (body_local d body left) first, second⟩
          rw [(Text.after_some_iff _ _ _).mp opened, body_split d body]
          simp only [List.append_assoc]
  | @escaped rest tail pieces unopened escape more ih =>
      cases front with
      | nil =>
          obtain rfl : _ = back := parts
          exact ⟨[], _, rfl, .nil, .escaped unopened escape more⟩
      | cons piece others =>
          obtain ⟨rfl, later⟩ := List.cons.inj parts
          obtain ⟨left, right, rfl, first, second⟩ := ih later
          have shape := (Text.after_some_iff _ _ _).mp escape
          have whole : '\\' :: rest = ('\\' :: (d.opening ++ left)) ++ right := by
            rw [shape]
            simp only [List.cons_append, List.append_assoc]
          rw [whole] at unopened
          exact ⟨_, right, whole, .escaped (Text.after_prefix _ _ _ unopened) ((Text.after_some_iff _ _ _).mpr rfl) first,
            second⟩
  | @plain c rest pieces unopened unescaped more ih =>
      cases front with
      | nil =>
          obtain rfl : _ = back := parts
          exact ⟨[], _, rfl, .nil, .plain unopened unescaped more⟩
      | cons piece others =>
          obtain ⟨rfl, later⟩ := List.cons.inj parts
          obtain ⟨left, right, rfl, first, second⟩ := ih later
          exact ⟨c :: left, right, rfl, .plain (Text.after_prefix _ (c :: left) right unopened)
            (fun slash => Text.after_prefix _ _ _ (unescaped slash)) first, second⟩

-- A text that is scanned as its characters: nothing in it is a token, or would be one without a backslash.
def Bare (text : List Char) : Prop := scan d text = text.map Piece.plain

def Foreign (c : Char) : Prop := c ≠ '\\' ∧ c ∉ d.opening ∧ c ∉ d.closing

instance (c : Char) : Decidable (d.Foreign c) := inferInstanceAs (Decidable (_ ∧ _))

theorem unopened_foreign {c : Char} (foreign : d.Foreign c) (text : List Char) :
    Text.after? d.opening (c :: text) = none := by
  cases opened : Text.after? d.opening (c :: text) with
  | none => rfl
  | some tail =>
      have shape := (Text.after_some_iff _ _ _).mp opened
      obtain ⟨first, more, whole⟩ := List.exists_cons_of_ne_nil d.opening_nonempty
      rw [whole] at shape
      refine absurd ?_ foreign.2.1
      rw [whole, (List.cons.inj shape).1]
      exact List.mem_cons_self

theorem unopened_concat {c : Char} (foreign : d.Foreign c) {text : List Char}
    (unopened : Text.after? d.opening text = none) : Text.after? d.opening (text ++ [c]) = none := by
  cases opened : Text.after? d.opening (text ++ [c]) with
  | none => rfl
  | some tail =>
      have shape := (Text.after_some_iff _ _ _).mp opened
      rcases List.eq_nil_or_concat tail with rfl | ⟨front, last, rfl⟩
      · refine absurd ?_ foreign.2.1
        rw [← List.append_nil d.opening, ← shape]
        simp
      · rw [List.concat_eq_append, ← List.append_assoc] at shape
        rw [(Text.after_some_iff _ _ _).mpr (List.append_inj' shape rfl).1] at unopened
        cases unopened

theorem body_concat {c : Char} (foreign : d.Foreign c) {text : List Char} (unclosed : body? d text = none) :
    body? d (text ++ [c]) = none := by
  cases found : body? d (text ++ [c]) with
  | none => rfl
  | some parts =>
      obtain ⟨content, raw, tail⟩ := parts
      have body := (body_iff d _ _ _ _).mp found
      have shape := body_split d body
      rcases List.eq_nil_or_concat tail with rfl | ⟨front, last, rfl⟩
      · have ends := body_last d body
        rw [← List.append_nil raw, ← shape, List.getLast?_concat] at ends
        exact absurd (List.mem_of_getLast? ends.symm) foreign.2.2
      · rw [List.concat_eq_append, ← List.append_assoc] at shape
        have whole := body_local d body front
        rw [← (List.append_inj' shape rfl).1] at whole
        rw [(body_iff d _ _ _ _).mpr whole] at unclosed
        cases unclosed

theorem bare_cons {c : Char} (foreign : d.Foreign c) {text : List Char} (bare : d.Bare text) : d.Bare (c :: text) := by
  have scanned := scan_plain d (d.unopened_foreign foreign text) fun slash => absurd slash foreign.1
  rw [Bare, scanned, bare]
  rfl

theorem bare_concat {c : Char} (foreign : d.Foreign c) {text : List Char} (bare : d.Bare text) :
    d.Bare (text ++ [c]) := by
  unfold Bare at bare
  fun_induction scan d text with
  | case1 => exact d.bare_cons foreign (by rw [Bare, scan]; rfl)
  | case2 first rest start opened unclosed =>
      have opens : Text.after? d.opening (first :: (rest ++ [c])) = some (start ++ [c]) := by
        rw [Text.after_some_iff, ← List.append_assoc, ← (Text.after_some_iff _ _ _).mp opened]
        rfl
      have left := d.body_concat foreign unclosed
      rw [Bare, List.cons_append, scan_open d opens left]
  | case3 => cases bare
  | case4 => cases bare
  | case5 first rest unopened unescaped ih =>
      have later := ih (List.cons.inj bare).2
      have apart := d.unopened_concat foreign unopened
      rw [List.cons_append] at apart ⊢
      rw [Bare, scan_plain d apart fun slash => ?_, later]
      · rfl
      · exact d.unopened_concat foreign (by simpa [slash] using unescaped)

theorem bare_framed {before after : List Char} (opens : ∀ c ∈ before, d.Foreign c)
    (closes : ∀ c ∈ after, d.Foreign c) {text : List Char} (bare : d.Bare text) : d.Bare (before ++ text ++ after) := by
  have front : d.Bare (before ++ text) := by
    induction before with
    | nil => exact bare
    | cons c rest ih =>
        have later := ih fun other member => opens other (List.mem_cons_of_mem _ member)
        exact d.bare_cons (opens c List.mem_cons_self) later
  generalize before ++ text = whole at front
  induction after generalizing whole with
  | nil => rwa [List.append_nil]
  | cons c rest ih =>
      have next := ih (fun other member => closes other (List.mem_cons_of_mem _ member)) _
        (d.bare_concat (closes c List.mem_cons_self) front)
      rwa [List.append_assoc] at next

end Template.Delimiters

end StatementMapper
