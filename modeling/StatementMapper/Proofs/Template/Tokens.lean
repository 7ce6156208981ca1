import StatementMapper.Proofs.Template.Scanning
import StatementMapper.Proofs.Text
import StatementMapper.Template.Render

set_option autoImplicit false

namespace StatementMapper.Template

open Delimiters (placeholder Closed Apart)

theorem contents_append (pieces more : List Piece) : contents (pieces ++ more) = contents pieces ++ contents more := by
  induction pieces with
  | nil => rfl
  | cons piece rest ih =>
      cases piece <;> simp [contents, ih]

theorem contents_plain (text : List Char) : contents (text.map Piece.plain) = [] := by
  induction text with
  | nil => rfl
  | cons c rest ih => exact ih

theorem mem_contents {pieces : List Piece} {content raw : List Char} (member : .token content raw ∈ pieces) :
    content ∈ contents pieces := by
  induction pieces with
  | nil => exact nomatch member
  | cons piece rest ih =>
      rcases List.mem_cons.mp member with rfl | later
      · exact List.mem_cons_self
      · cases piece with
        | token other slice => exact List.mem_cons_of_mem _ (ih later)
        | plain => exact ih later
        | escaped => exact ih later

theorem marked_append (pieces more : List Piece) : marked (pieces ++ more) = marked pieces ++ marked more := by
  induction pieces with
  | nil => rfl
  | cons piece rest ih =>
      cases piece <;> simp [marked, ih]

theorem unopened_of_differs (text : List Char) (differs : ∀ tail, text ≠ '#' :: '\x7b' :: tail) :
    Text.after? placeholder.opening text = none := by
  cases opened : Text.after? placeholder.opening text with
  | none => rfl
  | some tail => exact absurd ((Text.after_some_iff _ _ _).mp opened) (differs tail)

-- None opens with the end of one and the start of the next, and the end of one does not escape the next.
theorem apart_of_ends (text next : List Char) (hash : text.getLast? = some '#' → next.head? ≠ some '\x7b')
    (slash : text.getLast? = some '\\' → Text.after? placeholder.opening next = none) : Apart placeholder text next := by
  intro front back shape there absent
  match back with
  | [] =>
      rw [List.append_nil] at shape
      rcases there with nonempty | escape
      · exact absurd rfl nonempty
      · exact slash (shape ▸ escape)
  | [c] =>
      refine unopened_of_differs _ fun tail same => ?_
      obtain ⟨rfl, rfl⟩ := List.cons.inj same
      exact hash (by rw [shape, List.getLast?_concat]) rfl
  | c :: second :: rest => exact Text.after_local _ _ [] next (by simp [placeholder]) (by simpa using absent)

theorem blank_differs (c : Char) (blank : Text.isBlank c = true) : c ≠ '#' ∧ c ≠ '\\' ∧ c ≠ '\x7b' := by
  refine ⟨?_, ?_, ?_⟩ <;> rintro rfl <;> exact absurd blank (by decide)

theorem unopened_of_blank (c : Char) (rest : List Char) (blank : Text.isBlank c = true) :
    Text.after? placeholder.opening (c :: rest) = none :=
  unopened_of_differs _ fun _ same => (blank_differs c blank).1 (List.cons.inj same).1

theorem apart_of_blank_end (text next : List Char) (c : Char) (blank : Text.isBlank c = true)
    (last : text.getLast? = some c) : Apart placeholder text next := by
  refine apart_of_ends text next (fun hash => ?_) (fun slash => ?_)
  · exact absurd (Option.some.inj (last.symm.trans hash)) (blank_differs c blank).1
  · exact absurd (Option.some.inj (last.symm.trans slash)) (blank_differs c blank).2.1

theorem apart_of_blank_start (text rest : List Char) (c : Char) (blank : Text.isBlank c = true) :
    Apart placeholder text (c :: rest) := by
  refine apart_of_ends text _ (fun _ brace => ?_) (fun _ => unopened_of_blank c rest blank)
  exact (blank_differs c blank).2.2 (Option.some.inj brace)

-- If some texts end with a hash, none starts with a brace; if some end with a backslash, none with a placeholder.
structure Seam where
  hash : Bool
  slash : Bool

structure Seam.Fits (seam : Seam) (text : List Char) : Prop where
  hash : text.getLast? = some '#' → seam.hash = true
  slash : text.getLast? = some '\\' → seam.slash = true
  brace : text.head? = some '\x7b' → seam.hash = false
  opening : Text.after? placeholder.opening text ≠ none → seam.slash = false

theorem apart_of_fits (seam : Seam) (text next : List Char) (fits : seam.Fits text) (then_fits : seam.Fits next) :
    Apart placeholder text next := by
  refine apart_of_ends text next (fun hash brace => ?_) (fun slash => ?_)
  · exact absurd ((fits.hash hash).symm.trans (then_fits.brace brace)) (by decide)
  · by_cases opened : Text.after? placeholder.opening next = none
    · exact opened
    · exact absurd ((fits.slash slash).symm.trans (then_fits.opening opened)) (by decide)

theorem fits_nil (seam : Seam) : seam.Fits [] :=
  ⟨fun last => (nomatch last), fun last => (nomatch last), fun first => (nomatch first), fun opened => absurd rfl opened⟩

theorem fits_blank (seam : Seam) (c : Char) (blank : Text.isBlank c = true) : seam.Fits [c] := by
  obtain ⟨hash, slash, brace⟩ := blank_differs c blank
  refine ⟨fun last => ?_, fun last => ?_, fun first => ?_, fun opened => ?_⟩
  · exact absurd (Option.some.inj last) hash
  · exact absurd (Option.some.inj last) slash
  · exact absurd (Option.some.inj first) brace
  · exact absurd (unopened_of_blank c [] blank) opened

theorem fits_append (seam : Seam) (left right : List Char) (first : seam.Fits left) (second : seam.Fits right)
    (apart : Apart placeholder left right) : seam.Fits (left ++ right) := by
  have ends (c : Char) (last : (left ++ right).getLast? = some c) : left.getLast? = some c ∨ right.getLast? = some c := by
    rw [List.getLast?_append] at last
    cases own : right.getLast? with
    | none => exact Or.inl (by rwa [own] at last)
    | some d => exact Or.inr (by rwa [own] at last)
  refine ⟨fun last => ?_, fun last => ?_, fun brace => ?_, fun opened => ?_⟩
  · exact (ends '#' last).elim first.hash second.hash
  · exact (ends '\\' last).elim first.slash second.slash
  · cases left with
    | nil => exact second.brace brace
    | cons c rest => exact first.brace brace
  · cases left with
    | nil => exact second.opening opened
    | cons c rest =>
        refine first.opening fun unopened => opened ?_
        exact apart [] _ rfl (Or.inl (List.cons_ne_nil c rest)) unopened

-- Inside a loop it fits the texts around it, and its placeholders hold no closing brace.
structure Holds (seam? : Option Seam) (text : List Char) (tokens : List (List Char)) : Prop where
  complete : ∃ pieces, Closed placeholder text pieces ∧ contents pieces = tokens
  fits : ∀ seam, seam? = some seam → seam.Fits text
  tame : seam? ≠ none → ∀ content ∈ tokens, '\x7d' ∉ content

theorem holds_nil (seam? : Option Seam) : Holds seam? [] [] :=
  ⟨⟨[], .nil, rfl⟩, fun seam _ => fits_nil seam, fun _ _ member => nomatch member⟩

theorem holds_outside {seam? : Option Seam} {seam : Seam} (outer : seam? = none ∨ seam? = some seam) {text : List Char}
    {tokens : List (List Char)} (holds : Holds (some seam) text tokens) : Holds seam? text tokens := by
  rcases outer with rfl | rfl
  · exact ⟨holds.complete, fun _ none => (nomatch none), fun inside => absurd rfl inside⟩
  · exact holds

theorem holds_apart {seam? : Option Seam} {left right : List Char} {tokens more : List (List Char)}
    (first : Holds seam? left tokens) (second : Holds seam? right more) (apart : Apart placeholder left right) :
    Holds seam? (left ++ right) (tokens ++ more) := by
  obtain ⟨pieces, closed, rfl⟩ := first.complete
  obtain ⟨others, after, rfl⟩ := second.complete
  refine ⟨⟨pieces ++ others, Delimiters.closed_append _ closed after apart, contents_append _ _⟩, ?_, ?_⟩
  · exact fun seam inside => fits_append seam left right (first.fits seam inside) (second.fits seam inside) apart
  · intro inside content member
    rcases List.mem_append.mp member with here | there
    · exact first.tame inside content here
    · exact second.tame inside content there

theorem holds_append {seam : Seam} {left right : List Char} {tokens more : List (List Char)}
    (first : Holds (some seam) left tokens) (second : Holds (some seam) right more) :
    Holds (some seam) (left ++ right) (tokens ++ more) :=
  holds_apart first second (apart_of_fits seam _ _ (first.fits seam rfl) (second.fits seam rfl))

theorem holds_blank (seam? : Option Seam) (c : Char) (blank : Text.isBlank c = true) : Holds seam? [c] [] := by
  refine ⟨⟨[.plain c], .plain (unopened_of_blank c [] blank) (fun _ => rfl) .nil, rfl⟩, ?_, fun _ _ member => nomatch member⟩
  exact fun seam _ => fits_blank seam c blank

theorem holds_joined {seam? : Option Seam} {left right : List Char} {tokens more : List (List Char)}
    (first : Holds seam? left tokens) (second : Holds seam? right more) :
    Holds seam? (Draft.joined left right) (tokens ++ more) := by
  unfold Draft.joined
  by_cases fused : Draft.fuses left right = true
  · rw [if_pos fused]
    have space : Text.isBlank ' ' = true := by decide
    have padded := holds_apart (holds_blank seam? ' ' space) second (apart_of_blank_end _ _ ' ' space rfl)
    exact holds_apart first padded (apart_of_blank_start _ _ ' ' space)
  · rw [if_neg fused]
    refine holds_apart first second ?_
    cases last : left.getLast? with
    | none => exact apart_of_ends _ _ (by simp [last]) (by simp [last])
    | some c =>
        cases right with
        | nil => exact fun front back _ _ absent => by simpa using absent
        | cons b rest =>
            simp only [Draft.fuses, last, List.head?_cons, Bool.and_eq_true, Bool.not_eq_true', not_and,
              Bool.not_eq_false] at fused
            by_cases blank : Text.isBlank c = true
            · exact apart_of_blank_end _ _ c blank last
            · exact apart_of_blank_start _ _ b (fused (by simpa using blank))

def Piece.rename (answer : List Char → List Char) : Piece → Piece
  | .token content raw =>
    .token (answer content)
      (if answer content = content then raw else placeholder.opening ++ (answer content ++ placeholder.closing))
  | piece => piece

theorem contents_rename (answer : List Char → List Char) (pieces : List Piece) :
    contents (pieces.map (Piece.rename answer)) = (contents pieces).map answer := by
  induction pieces with
  | nil => rfl
  | cons piece rest ih => cases piece <;> simp [contents, Piece.rename, ih]

def Tame (content : List Char) : Prop := '\x7d' ∉ content ∧ content.getLast? ≠ some '\\'

theorem unclosed_of_differs (text : List Char) (differs : ∀ tail, text ≠ '\x7d' :: tail) :
    Text.after? placeholder.closing text = none := by
  cases closed : Text.after? placeholder.closing text with
  | none => rfl
  | some tail => exact absurd ((Text.after_some_iff _ _ _).mp closed) (differs tail)

theorem body_of_tame (content tail : List Char) (tame : Tame content) :
    Delimiters.Body placeholder (content ++ '\x7d' :: tail) content (content ++ placeholder.closing) tail := by
  induction content with
  | nil => exact .closed rfl
  | cons c rest ih =>
      obtain ⟨inside, ends⟩ := tame
      simp only [List.mem_cons, not_or] at inside
      refine .plain (unclosed_of_differs _ fun other same => ?_) (fun slash => unclosed_of_differs _ fun other same => ?_)
        (ih ⟨inside.2, fun last => ends ?_⟩)
      · exact inside.1 (List.cons.inj same).1.symm
      · cases rest with
        | nil => exact ends (by rw [slash]; rfl)
        | cons second more => exact inside.2 (by rw [(List.cons.inj same).1]; exact List.mem_cons_self)
      · rw [List.getLast?_cons, last]
        rfl

theorem tame_of_body {text content raw tail : List Char} (body : Delimiters.Body placeholder text content raw tail)
    (inside : '\x7d' ∉ content) : Tame content := by
  refine ⟨inside, ?_⟩
  induction body with
  | closed => simp
  | escaped => exact absurd (List.mem_append_left _ List.mem_cons_self) inside
  | @plain c rest content raw after unclosed unescaped later ih =>
      simp only [List.mem_cons, not_or] at inside
      cases content with
      | nil =>
          intro last
          cases later with
          | closed closed =>
              rw [unescaped (Option.some.inj last)] at closed
              cases closed
      | cons second more =>
          rw [List.getLast?_cons_cons]
          exact ih inside.2

theorem tame_contents (text : List Char) {content : List Char} (member : content ∈ contents (placeholder.scan text))
    (inside : '\x7d' ∉ content) : Tame content := by
  fun_induction Delimiters.scan placeholder text with
  | case1 => exact absurd member List.not_mem_nil
  | case2 =>
      rw [contents_plain] at member
      exact absurd member List.not_mem_nil
  | case3 c rest start opened other raw tail found ih =>
      rcases List.mem_cons.mp member with rfl | later
      · exact tame_of_body ((Delimiters.body_iff _ _ _ _ _).mp found) inside
      · exact ih later
  | case4 c rest unopened tail escape ih => exact ih member
  | case5 c rest unopened unescaped ih => exact ih member

theorem mapped_head (answer : List Char → List Char) (text : List Char) :
    (placeholder.mapTokens answer text).head? = text.head? := by
  rw [Delimiters.mapTokens]
  fun_cases Delimiters.scan placeholder text with
  | case1 => rfl
  | case2 => rfl
  | case3 c rest start opened content raw tail found =>
      rw [(Text.after_some_iff _ _ _).mp opened, List.flatMap_cons, Delimiters.mapPiece]
      by_cases same : answer content = content
      · simp [same, placeholder]
      · simp [same, placeholder]
  | case4 c rest unopened tail escape =>
      obtain ⟨rfl, _⟩ := Option.ite_none_right_eq_some.mp escape
      rfl
  | case5 => rfl

theorem mapped_unopened (answer : List Char → List Char) {text : List Char}
    (unopened : Text.after? placeholder.opening text = none) :
    Text.after? placeholder.opening (placeholder.mapTokens answer text) = none := by
  refine unopened_of_differs _ fun tail => ?_
  rw [Delimiters.mapTokens]
  fun_cases Delimiters.scan placeholder text with
  | case1 => exact (List.cons_ne_nil _ _).symm
  | case2 c rest start opened =>
      rw [unopened] at opened
      cases opened
  | case3 c rest start opened =>
      rw [unopened] at opened
      cases opened
  | case4 c rest absent other escape =>
      obtain ⟨rfl, _⟩ := Option.ite_none_right_eq_some.mp escape
      exact fun same => absurd (List.cons.inj same).1 (by decide)
  | case5 c rest absent unescaped =>
      intro same
      have shape : c :: placeholder.mapTokens answer rest = '#' :: '\x7b' :: tail := same
      obtain ⟨hash, brace⟩ := List.cons.inj shape
      have head := mapped_head answer rest
      rw [brace] at head
      cases rest with
      | nil => cases head
      | cons second others =>
          have opened := (Text.after_some_iff placeholder.opening ('#' :: '\x7b' :: others) others).mpr rfl
          rw [hash, ← Option.some.inj head, opened] at unopened
          cases unopened

theorem closed_rename (answer : List Char → List Char) {text : List Char} {pieces : List Piece}
    (closed : Closed placeholder text pieces) (tame : ∀ content ∈ contents pieces, Tame (answer content)) :
    Closed placeholder (pieces.flatMap (Delimiters.mapPiece placeholder answer)) (pieces.map (Piece.rename answer)) := by
  induction closed with
  | nil => exact .nil
  | @token text start content raw tail pieces opened body more ih =>
      have later := ih fun other member => tame other (List.mem_cons_of_mem _ member)
      rw [List.flatMap_cons, List.map_cons, Delimiters.mapPiece, Piece.rename]
      by_cases same : answer content = content
      · simp only [same]
        exact .token ((Text.after_some_iff _ _ _).mpr (List.append_assoc _ _ _)) (Delimiters.body_local _ body _) later
      · simp only [if_neg same]
        refine .token ((Text.after_some_iff _ _ _).mpr ?_) (body_of_tame _ _ (tame content List.mem_cons_self)) later
        simp [placeholder]
  | escaped unopened escape more ih =>
      have other : '\\' ≠ '#' := by decide
      refine .escaped (unopened_of_differs _ fun tail same => other (List.cons.inj same).1) rfl (ih tame)
  | plain unopened unescaped more ih =>
      have first := mapped_unopened answer unopened
      rw [Delimiters.closed_mapped _ answer (.plain unopened unescaped more)] at first
      refine .plain first (fun slash => ?_) (ih tame)
      have later := mapped_unopened answer (unescaped slash)
      rwa [Delimiters.closed_mapped _ answer more] at later

def Piece.last : Piece → Char
  | .plain c => c
  | .escaped => '\x7b'
  | .token _ _ => '\x7d'

theorem closed_last {text : List Char} {pieces : List Piece} (closed : Closed placeholder text pieces) :
    text.getLast? = pieces.getLast?.map Piece.last := by
  have step (front tail : List Char) (piece : Piece) (pieces : List Piece) (own : front.getLast? = some piece.last)
      (rest : tail.getLast? = pieces.getLast?.map Piece.last) :
      (front ++ tail).getLast? = (piece :: pieces).getLast?.map Piece.last := by
    rw [List.getLast?_append, own, rest, List.getLast?_cons]
    cases pieces.getLast? <;> rfl
  induction closed with
  | nil => rfl
  | @token text start content raw tail pieces opened body more ih =>
      have closing := Delimiters.body_last _ body
      have shape := (Text.after_some_iff _ _ _).mp opened
      rw [Delimiters.body_split _ body, ← List.append_assoc] at shape
      rw [shape]
      refine step _ _ _ _ ?_ ih
      rw [List.getLast?_append, closing]
      rfl
  | @escaped rest tail pieces unopened escape more ih =>
      rw [(Text.after_some_iff _ _ _).mp escape]
      exact step ('\\' :: placeholder.opening) tail _ _ rfl ih
  | @plain c rest pieces unopened unescaped more ih => exact step [c] rest _ _ rfl ih

theorem holds_rename (answer : List Char → List Char) {seam : Seam} {text : List Char} {tokens : List (List Char)}
    (holds : Holds (some seam) text tokens) (tame : ∀ content, Tame content → Tame (answer content)) :
    Holds (some seam) (Delimiters.mapTokens placeholder answer text) (tokens.map answer) := by
  obtain ⟨pieces, closed, rfl⟩ := holds.complete
  have kept (content : List Char) (member : content ∈ contents pieces) : Tame (answer content) :=
    tame content (tame_contents text (by rwa [Delimiters.closed_scan _ closed])
      (holds.tame (Option.some_ne_none seam) content member))
  have renamed := closed_rename answer closed kept
  have whole := Delimiters.closed_mapped _ answer closed
  have last : (pieces.flatMap (Delimiters.mapPiece placeholder answer)).getLast? = text.getLast? := by
    rw [closed_last renamed, closed_last closed, List.getLast?_map, Option.map_map]
    congr 1
    funext piece
    cases piece <;> rfl
  have fits := holds.fits seam rfl
  rw [whole]
  refine ⟨⟨_, renamed, contents_rename _ _⟩, ?_, fun _ content member => ?_⟩
  · rintro _ ⟨⟩
    refine ⟨fun hash => fits.hash (last ▸ hash), fun slash => fits.slash (last ▸ slash), fun brace => ?_, fun opened => ?_⟩
    · rw [← whole, mapped_head] at brace
      exact fits.brace brace
    · rw [← whole] at opened
      exact fits.opening fun unopened => opened (mapped_unopened answer unopened)
  · obtain ⟨old, there, rfl⟩ := List.mem_map.mp member
    exact (kept old there).1

theorem blank_tokens {text : List Char} {pieces : List Piece} (closed : Closed placeholder text pieces)
    (blank : Text.allBlank text = true) : contents pieces = [] := by
  induction closed with
  | nil => rfl
  | @token text start content raw tail pieces opened body more ih =>
      rw [(Text.after_some_iff _ _ _).mp opened] at blank
      exact absurd (List.all_eq_true.mp blank '#' (by simp [placeholder])) (by decide)
  | escaped => exact absurd (List.all_eq_true.mp blank '\\' (by simp)) (by decide)
  | plain unopened unescaped more ih =>
      exact ih (Bool.and_eq_true_iff.mp blank).2

theorem closed_trim_start {text : List Char} {pieces : List Piece} (closed : Closed placeholder text pieces) :
    ∃ trimmed, Closed placeholder (Text.trimStart text) trimmed ∧ contents trimmed = contents pieces ∧
      marked trimmed = Text.trimStart (marked pieces) := by
  induction closed with
  | nil => exact ⟨[], .nil, rfl, rfl⟩
  | @token text start content raw tail pieces opened body more ih =>
      have shape := (Text.after_some_iff _ _ _).mp opened
      have kept : Text.trimStart text = text := by
        rw [shape]
        rfl
      refine ⟨.token content (placeholder.opening ++ raw) :: pieces, ?_, rfl, rfl⟩
      rw [kept]
      exact .token opened body more
  | @escaped rest tail pieces unopened escape more ih => exact ⟨_, .escaped unopened escape more, rfl, rfl⟩
  | @plain c rest pieces unopened unescaped more ih =>
      by_cases blank : Text.isBlank c = true
      · simpa only [Text.trimStart, List.dropWhile_cons_of_pos blank, contents, marked] using ih
      · refine ⟨.plain c :: pieces, ?_, rfl, (List.dropWhile_cons_of_neg blank).symm⟩
        rw [Text.trimStart, List.dropWhile_cons_of_neg blank]
        exact .plain unopened unescaped more

theorem closed_init {text : List Char} {pieces : List Piece} (b : Char) (blank : Text.isBlank b = true)
    (closed : Closed placeholder (text ++ [b]) pieces) :
    ∃ others, Closed placeholder text others ∧ contents others = contents pieces ∧ marked others ++ [b] = marked pieces := by
  have last := closed_last closed
  rw [List.getLast?_concat] at last
  obtain ⟨piece, final, stands⟩ := Option.map_eq_some_iff.mp last.symm
  obtain ⟨front, parts⟩ := List.getLast?_eq_some_iff.mp final
  obtain ⟨left, right, cut, first, second⟩ := Delimiters.closed_split _ closed parts
  cases piece with
  | token content raw =>
      rw [← stands] at blank
      exact absurd (show Text.isBlank '\x7d' = true from blank) (by decide)
  | escaped =>
      rw [← stands] at blank
      exact absurd (show Text.isBlank '\x7b' = true from blank) (by decide)
  | plain c =>
      obtain rfl : c = b := stands
      cases second with
      | plain unopened unescaped more =>
          cases more
          rw [(List.append_inj' cut rfl).1, parts, contents_append, marked_append]
          exact ⟨front, first, (List.append_nil _).symm, rfl⟩

def Piece.shownLast : Piece → Char
  | .plain c => c
  | .escaped => '\x7b'
  | .token _ _ => '?'

theorem marked_last (pieces : List Piece) : (marked pieces).getLast? = pieces.getLast?.map Piece.shownLast := by
  cases last : pieces.getLast? with
  | none => rw [List.getLast?_eq_none_iff.mp last]; rfl
  | some piece =>
      obtain ⟨front, rfl⟩ := List.getLast?_eq_some_iff.mp last
      rw [marked_append, List.getLast?_append]
      cases piece <;> rfl

theorem closed_trim_end {text : List Char} {pieces : List Piece} (closed : Closed placeholder text pieces) :
    ∃ trimmed, Closed placeholder (Text.trimEnd text) trimmed ∧ contents trimmed = contents pieces ∧
      marked trimmed = Text.trimEnd (marked pieces) := by
  have backward (rest : List Char) : ∀ pieces, Closed placeholder rest.reverse pieces →
      ∃ trimmed, Closed placeholder (rest.dropWhile Text.isBlank).reverse trimmed ∧ contents trimmed = contents pieces ∧
        marked trimmed = Text.trimEnd (marked pieces) := by
    induction rest with
    | nil =>
        intro pieces whole
        cases whole with
        | nil => exact ⟨[], .nil, rfl, rfl⟩
        | token opened => exact nomatch opened
    | cons b rest ih =>
        intro pieces whole
        rw [List.reverse_cons] at whole
        by_cases blank : Text.isBlank b = true
        · obtain ⟨others, shorter, same, shown⟩ := closed_init b blank whole
          obtain ⟨trimmed, last, kept, trim⟩ := ih others shorter
          refine ⟨trimmed, by rwa [List.dropWhile_cons_of_pos blank], kept.trans same, ?_⟩
          rw [trim, ← shown, Text.trim_end_blank _ b blank]
        · refine ⟨pieces, by rwa [List.dropWhile_cons_of_neg blank, List.reverse_cons], rfl, ?_⟩
          have last := closed_last whole
          rw [List.getLast?_concat] at last
          obtain ⟨piece, final, stands⟩ := Option.map_eq_some_iff.mp last.symm
          refine (Text.trim_end_solid _ piece.shownLast ?_ (by rw [marked_last, final]; rfl)).symm
          cases piece with
          | plain c =>
              obtain rfl : c = b := stands
              exact Bool.eq_false_iff.mpr blank
          | escaped => rfl
          | token content raw => rfl
  exact backward text.reverse pieces (by rwa [List.reverse_reverse])

theorem closed_trim {text : List Char} {pieces : List Piece} (closed : Closed placeholder text pieces) :
    ∃ trimmed, Closed placeholder (Text.trim text) trimmed ∧ contents trimmed = contents pieces ∧
      marked trimmed = Text.trim (marked pieces) := by
  obtain ⟨started, first, same, shown⟩ := closed_trim_start closed
  obtain ⟨trimmed, second, kept, ended⟩ := closed_trim_end first
  exact ⟨trimmed, second, kept.trans same, by rw [ended, shown, Text.trim]⟩

theorem holds_trim {seam? : Option Seam} {text : List Char} {tokens : List (List Char)} (holds : Holds seam? text tokens) :
    contents (placeholder.scan (Text.trim text)) = tokens := by
  obtain ⟨pieces, closed, rfl⟩ := holds.complete
  obtain ⟨trimmed, shorter, same, _⟩ := closed_trim closed
  rw [Delimiters.closed_scan _ shorter, same]

end StatementMapper.Template
