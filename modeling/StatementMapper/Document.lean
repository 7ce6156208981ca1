import StatementMapper.Value

set_option autoImplicit false

namespace StatementMapper

inductive Document where
  | null
  | boolean (b : Bool)
  | integer (n : Int)
  | real (x : Float)
  | text (s : String)
  | array (items : List Document)
  | object (fields : List (String × Document))

namespace Document

def field? (name : String) (fields : List (String × Document)) : Option Document :=
  fields.foldl (fun found field => if field.1 = name then some field.2 else found) none

def get? (segment : String) : Document → Option Document
  | object fields => field? segment fields
  | array items => (Text.bounded? Word.bound64 segment.toList).bind fun index => items[index]?
  | _ => none

def getSegments? : List String → Document → Option Document
  | [], document => some document
  | segment :: rest, document => (document.get? segment).bind (getSegments? rest)

def getPath? (path : String) (document : Document) : Option Document :=
  getSegments? (Value.segments path) document

def isScalar : Document → Bool
  | array _ | object _ => false
  | _ => true

mutual
-- The value of a document; an integer beyond 64 bits becomes the nearest float.
def toValue : Document → Value
  | null => .null
  | boolean b => .boolean b
  | integer n => if Word.fits n then .integer (Int64.ofInt n) else .float (Float.ofInt n)
  | real x => .float x
  | text s => .text s
  | array items => .list (toValues items)
  | object fields => .ofFields (toFields fields)
def toValues : List Document → List Value
  | [] => []
  | item :: rest => item.toValue :: toValues rest
def toFields : List (String × Document) → List (String × Value)
  | [] => []
  | (name, item) :: rest => (name, item.toValue) :: toFields rest
end

end Document

end StatementMapper
