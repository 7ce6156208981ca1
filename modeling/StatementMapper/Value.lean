import StatementMapper.Value.Kind
import StatementMapper.Table
import StatementMapper.Text.Search
import StatementMapper.Text.Numeral
import StatementMapper.Number.Shortest
import StatementMapper.Number.Word

set_option autoImplicit false

/-! A map keeps its fields in the order of their names. Two floats are equal when they have the same bits, but `Float` has
one value that is not a number: such values are not told apart here by their signs and the bits they carry. -/

namespace StatementMapper

inductive Value where
  | null
  | integer (n : Int64)
  | float (x : Float)
  | text (s : String)
  | boolean (b : Bool)
  | list (items : List Value)
  | map (fields : List (String × Value))

namespace Value

mutual
def decide (a b : Value) : Decidable (a = b) :=
  match a, b with
  | .null, .null => isTrue rfl
  | .integer m, .integer n => if h : m = n then isTrue (h ▸ rfl) else isFalse (by simp [h])
  | .float x, .float y => if h : x = y then isTrue (h ▸ rfl) else isFalse (by simp [h])
  | .text s, .text t => if h : s = t then isTrue (h ▸ rfl) else isFalse (by simp [h])
  | .boolean c, .boolean d => if h : c = d then isTrue (h ▸ rfl) else isFalse (by simp [h])
  | .list xs, .list ys =>
    match decideItems xs ys with
    | isTrue h => isTrue (h ▸ rfl)
    | isFalse h => isFalse (by simp [h])
  | .map xs, .map ys =>
    match decideFields xs ys with
    | isTrue h => isTrue (h ▸ rfl)
    | isFalse h => isFalse (by simp [h])
  | .null, .integer _ | .null, .float _ | .null, .text _ | .null, .boolean _ | .null, .list _ | .null, .map _
  | .integer _, .null | .integer _, .float _ | .integer _, .text _ | .integer _, .boolean _
  | .integer _, .list _ | .integer _, .map _ | .float _, .null | .float _, .integer _ | .float _, .text _
  | .float _, .boolean _ | .float _, .list _ | .float _, .map _ | .text _, .null | .text _, .integer _
  | .text _, .float _ | .text _, .boolean _ | .text _, .list _ | .text _, .map _ | .boolean _, .null
  | .boolean _, .integer _ | .boolean _, .float _ | .boolean _, .text _ | .boolean _, .list _
  | .boolean _, .map _ | .list _, .null | .list _, .integer _ | .list _, .float _ | .list _, .text _
  | .list _, .boolean _ | .list _, .map _ | .map _, .null | .map _, .integer _ | .map _, .float _
  | .map _, .text _ | .map _, .boolean _ | .map _, .list _ => isFalse (by simp)
def decideItems (xs ys : List Value) : Decidable (xs = ys) :=
  match xs, ys with
  | [], [] => isTrue rfl
  | x :: xs, y :: ys =>
    match decide x y, decideItems xs ys with
    | isTrue h, isTrue more => isTrue (h ▸ more ▸ rfl)
    | isFalse h, _ => isFalse (by simp [h])
    | _, isFalse h => isFalse (by simp [h])
  | [], _ :: _ | _ :: _, [] => isFalse (by simp)
def decideFields (xs ys : List (String × Value)) : Decidable (xs = ys) :=
  match xs, ys with
  | [], [] => isTrue rfl
  | (k, x) :: xs, (l, y) :: ys =>
    match (inferInstance : Decidable (k = l)), decide x y, decideFields xs ys with
    | isTrue name, isTrue h, isTrue more => isTrue (name ▸ h ▸ more ▸ rfl)
    | isFalse h, _, _ => isFalse (by simp [h])
    | _, isFalse h, _ => isFalse (by simp [h])
    | _, _, isFalse h => isFalse (by simp [h])
  | [], _ :: _ | _ :: _, [] => isFalse (by simp)
end

instance : DecidableEq Value := decide

instance : Inhabited Value := ⟨null⟩

def kind : Value → Kind
  | null => .null
  | integer _ => .integer
  | float _ => .float
  | text _ => .text
  | boolean _ => .boolean
  | list _ => .list
  | map _ => .map

def isNull : Value → Bool
  | null => true
  | _ => false

def isNumeric : Value → Bool
  | integer _ | float _ => true
  | _ => false

def isScalar : Value → Bool
  | list _ | map _ => false
  | _ => true

-- The truth of a test: null is false, a number is true when it is not zero, anything but `false` else is.
def truth : Value → Bool
  | null => false
  | boolean b => b
  | integer n => n ≠ 0
  | float x => !(x == 0.0)
  | _ => true

-- The integer of a number, cut toward zero and to the range; numbers beyond the range have none.
def toInteger? : Value → Option Int64
  | integer n => some n
  | float x =>
    match Number.truncate? x with
    | none => none
    | some n =>
      if Word.fits n then some (Int64.ofInt n)
      else if n = Word.signedBound then some Int64.maxValue
      else none
  | _ => none

def toFloat? : Value → Option Float
  | float x => some x
  | integer n => some (Word.toFloat n)
  | _ => none

def toText? : Value → Option String
  | text s => some s
  | _ => none

def size? : Value → Option Nat
  | list items => some items.length
  | map fields => some fields.length
  | text s => some s.length
  | _ => none

def get? (segment : String) : Value → Option Value
  | map fields => Table.get? segment fields
  | list items => (Text.bounded? Word.bound64 segment.toList).bind fun index => items[index]?
  | _ => none

def getSegments? : List String → Value → Option Value
  | [], value => some value
  | segment :: rest, value => (value.get? segment).bind (getSegments? rest)

def segments (path : String) : List String := (Text.split '.' path.toList).map String.ofList

def getPath? (path : String) (value : Value) : Option Value := getSegments? (segments path) value

def splitPath (path : String) : String × Option String :=
  let (head, rest) := Text.splitFirst '.' path.toList
  (String.ofList head, rest.map String.ofList)

mutual
def display : Value → String
  | null => "null"
  | integer n => toString n.toInt
  | float x => Number.text x
  | text s => s
  | boolean b => if b then "true" else "false"
  | list items => "[" ++ String.intercalate ", " (displayItems items) ++ "]"
  | map fields => "\x7b" ++ String.intercalate ", " (displayFields fields) ++ "\x7d"
def displayItems : List Value → List String
  | [] => []
  | item :: rest => item.display :: displayItems rest
def displayFields : List (String × Value) → List String
  | [] => []
  | (name, value) :: rest => (name ++ "=" ++ value.display) :: displayFields rest
end

def putField (name : String) (value : Value) : List (String × Value) → List (String × Value)
  | [] => [(name, value)]
  | (other, old) :: rest =>
    if name = other then (name, value) :: rest
    else if name < other then (name, value) :: (other, old) :: rest
    else (other, old) :: putField name value rest

-- The map of these fields; of two with one name the later counts.
def ofFields (fields : List (String × Value)) : Value :=
  map (fields.foldl (fun sorted field => putField field.1 field.2 sorted) [])

def ofText? : Option String → Value
  | some s => text s
  | none => null

end Value

end StatementMapper
