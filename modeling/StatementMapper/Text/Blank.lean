import StatementMapper.Text.Character

set_option autoImplicit false

namespace StatementMapper.Text

def trimStart (text : List Char) : List Char := text.dropWhile isBlank

def trimEnd (text : List Char) : List Char := (text.reverse.dropWhile isBlank).reverse

def trim (text : List Char) : List Char := trimEnd (trimStart text)

def allBlank (text : List Char) : Bool := text.all isBlank

def words : List Char → List (List Char)
  | [] => []
  | c :: rest =>
    if isBlank c then words rest
    else match rest, words rest with
      | next :: _, word :: more => if isBlank next then [c] :: word :: more else (c :: word) :: more
      | _, more => [c] :: more

def squeeze (text : List Char) : List Char := [' '].intercalate (words text)

def trimmed (text : String) : String := String.ofList (trim text.toList)

def squeezed (text : String) : String := String.ofList (squeeze text.toList)

end StatementMapper.Text
