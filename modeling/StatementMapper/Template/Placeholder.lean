import StatementMapper.Mapping
import StatementMapper.Template.Token

set_option autoImplicit false

namespace StatementMapper.Template

def mappingsOf : List (List Char) → Except TemplateFault (List Mapping)
  | [] => .ok []
  | content :: rest => do
    let mapping ← Mapping.parse content
    let more ← mappingsOf rest
    .ok (mapping :: more)

def contents : List Piece → List (List Char)
  | [] => []
  | .token content _ :: rest => content :: contents rest
  | _ :: rest => contents rest

-- SQL with every placeholder replaced by a marker; an escaped opening delimiter loses its backslash.
def marked : List Piece → List Char
  | [] => []
  | .plain c :: rest => c :: marked rest
  | .escaped :: rest => Delimiters.placeholder.opening ++ marked rest
  | .token _ _ :: rest => '?' :: marked rest

def bindPlaceholders (squeeze : Bool) (sql : List Char) : Except TemplateFault (List Char × List Mapping) :=
  let pieces := Delimiters.placeholder.scan sql
  (mappingsOf (contents pieces)).map fun mappings =>
    (if squeeze then Text.squeeze (marked pieces) else marked pieces, mappings)

end StatementMapper.Template
