import StatementMapper.Text.Search

set_option autoImplicit false

/-! An opening delimiter without a closing one is plain text, and so is everything behind it. -/

namespace StatementMapper.Template

structure Delimiters where
  opening : List Char
  closing : List Char
  opening_nonempty : opening ≠ [] := by decide
  closing_nonempty : closing ≠ [] := by decide

def Delimiters.of? (opening closing : List Char) : Option Delimiters :=
  if nonempty : opening ≠ [] ∧ closing ≠ [] then some ⟨opening, closing, nonempty.1, nonempty.2⟩ else none

def Delimiters.placeholder : Delimiters where
  opening := ['#', '\x7b']
  closing := ['\x7d']

def Delimiters.substitution : Delimiters where
  opening := ['$', '\x7b']
  closing := ['\x7d']

-- A token has its content, escapes removed, and its raw text.
inductive Piece where
  | plain (c : Char)
  | escaped
  | token (content raw : List Char)
deriving DecidableEq, Repr

inductive Segment where
  | literal (text : List Char)
  | token (content : List Char)
deriving DecidableEq, Repr

def Segment.isToken : Segment → Bool
  | .token _ => true
  | .literal _ => false

namespace Delimiters

variable (d : Delimiters)

def body? : List Char → Option (List Char × List Char × List Char)
  | [] => none
  | c :: rest =>
    match Text.after? d.closing (c :: rest) with
    | some tail => some ([], d.closing, tail)
    | none =>
      match (if c = '\\' then Text.after? d.closing rest else none) with
      | some tail =>
        if tail.length ≤ rest.length then
          (body? tail).map fun (content, raw, after) => (d.closing ++ content, c :: d.closing ++ raw, after)
        else none
      | none => (body? rest).map fun (content, raw, after) => (c :: content, c :: raw, after)
termination_by text => text.length

theorem body_shorter {text content raw rest : List Char} (found : body? d text = some (content, raw, rest)) :
    rest.length < text.length := by
  fun_induction body? d text generalizing content raw rest with
  | case1 => simp at found
  | case2 c more tail after =>
    simp only [Option.some.injEq, Prod.mk.injEq] at found
    obtain ⟨_, _, rfl⟩ := found
    exact Text.after_shorter d.closing_nonempty after
  | case3 c more none_here tail escape le ih =>
    simp only [Option.map_eq_some_iff, Prod.mk.injEq, Prod.exists] at found
    obtain ⟨_, _, _, inner, _, _, rfl⟩ := found
    have shorter := ih inner
    simp only [List.length_cons]
    omega
  | case4 => simp at found
  | case5 c more none_here escape ih =>
    simp only [Option.map_eq_some_iff, Prod.mk.injEq, Prod.exists] at found
    obtain ⟨_, _, _, inner, _, _, rfl⟩ := found
    have shorter := ih inner
    simp only [List.length_cons]
    omega

def scan (text : List Char) : List Piece :=
  match text with
  | [] => []
  | c :: rest =>
    match _opened : Text.after? d.opening (c :: rest) with
    | some start =>
      match _found : body? d start with
      | none => (c :: rest).map Piece.plain
      | some (content, raw, tail) => .token content (d.opening ++ raw) :: scan tail
    | none =>
      match _escape : (if c = '\\' then Text.after? d.opening rest else none) with
      | some tail => .escaped :: scan tail
      | none => .plain c :: scan rest
termination_by text.length
decreasing_by
  all_goals simp only [List.length_cons]
  · have shorter := body_shorter d _found
    have bound := Text.after_length _opened
    simp only [List.length_cons] at bound
    omega
  · split at _escape
    · have bound := Text.after_length _escape
      omega
    · simp at _escape
  · omega

def addPlain (c : Char) : List Segment → List Segment
  | .literal text :: rest => .literal (c :: text) :: rest
  | segments => .literal [c] :: segments

def gather : List Piece → List Segment
  | [] => []
  | .plain c :: rest => addPlain c (gather rest)
  | .escaped :: rest => d.opening.foldr addPlain (gather rest)
  | .token content _ :: rest => .token content :: gather rest

-- Literals and tokens in order; escaped opening delimiters stand in the literals without their backslash.
def segments (text : List Char) : List Segment := gather d (scan d text)

def hasTokens (text : List Char) : Bool := (segments d text).any Segment.isToken

def replacePieces {m : Type → Type} [Monad m] (answer : List Char → m (List Char)) :
    List Piece → m (List Char)
  | [] => pure []
  | .plain c :: rest => do pure (c :: (← replacePieces answer rest))
  | .escaped :: rest => do pure (d.opening ++ (← replacePieces answer rest))
  | .token content _ :: rest => do
    let replacement ← answer content
    let more ← replacePieces answer rest
    pure (replacement ++ more)

def replace {m : Type → Type} [Monad m] (answer : List Char → m (List Char)) (text : List Char) :
    m (List Char) :=
  replacePieces d answer (scan d text)

def mapPiece (answer : List Char → List Char) : Piece → List Char
  | .plain c => [c]
  | .escaped => '\\' :: d.opening
  | .token content raw =>
    let renamed := answer content
    if renamed = content then raw else d.opening ++ renamed ++ d.closing

-- The text with the content of each token changed and all else, escapes included, as it was.
def mapTokens (answer : List Char → List Char) (text : List Char) : List Char :=
  (scan d text).flatMap (mapPiece d answer)

end Delimiters

end StatementMapper.Template
