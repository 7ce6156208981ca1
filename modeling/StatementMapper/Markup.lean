set_option autoImplicit false

namespace StatementMapper

inductive Markup where
  | text (content : String)
  | element (name : String) (attributes : List (String × String)) (children : List Markup)

end StatementMapper
