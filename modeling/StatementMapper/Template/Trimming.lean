import StatementMapper.Text.Blank
import StatementMapper.Text.Search

set_option autoImplicit false

/-! Overrides are compared in ASCII upper case, in order, and may carry white space that only serves to match. -/

namespace StatementMapper.Template

structure Trimming where
  before : Option String := none
  after : Option String := none
  leading : List (List Char) := []
  trailing : List (List Char) := []
deriving DecidableEq, Repr

namespace Trimming

def overrides (list : Option String) : List (List Char) :=
  match list with
  | none => []
  | some entries => ((Text.split '|' entries.toList).filter (!·.isEmpty)).map Text.upper

def whereClause : Trimming where
  before := some "WHERE"
  leading := ["AND ".toList, "OR ".toList, "AND\n".toList, "OR\n".toList, "AND\r".toList, "OR\r".toList,
    "AND\t".toList, "OR\t".toList]

-- The trimming of a `set`: one comma at each end goes.
def setClause : Trimming where
  before := some "SET"
  leading := [[',']]
  trailing := [[',']]

-- Whether a text ends with a word; one that starts like an identifier must not be the tail of a longer one.
def endsWithWord (text word : List Char) : Bool :=
  if word.isEmpty || !Text.endsWith text word then false
  else if (word.head?.map Char.isAlphanum).getD false then
    match (text.take (text.length - word.length)).getLast? with
    | some c => !(c.isAlphanum || c == '_')
    | none => true
  else true

def matchesEnd (text override : List Char) : Bool :=
  Text.endsWith text override || endsWithWord text (Text.trim override)

def width (text : List Char) : Nat := text.foldl (fun total c => total + c.utf8Size) 0

-- What is left when `count` bytes are cut off the start; nothing when the cut falls inside a character.
def cutStart (count : Nat) (text : List Char) : List Char :=
  match count, text with
  | 0, text => text
  | _ + 1, [] => []
  | count + 1, c :: rest => if c.utf8Size ≤ count + 1 then cutStart (count + 1 - c.utf8Size) rest else []
termination_by text.length

def cutEnd (count : Nat) (text : List Char) : List Char := (cutStart count text.reverse).reverse

def stripLeading (t : Trimming) (text : List Char) : List Char :=
  match t.leading.find? fun override => override.isPrefixOf (Text.upper text) with
  | some override => Text.trimStart (cutStart (width (Text.trim override)) text)
  | none => text

def stripTrailing (t : Trimming) (text : List Char) : List Char :=
  match t.trailing.find? fun override => matchesEnd (Text.upper text) override with
  | some override => Text.trimEnd (cutEnd (width (Text.trim override)) text)
  | none => text

def addition (side : Option String) : Option (List Char) := (side.map String.toList).filter (!·.isEmpty)

def decorate (t : Trimming) (text : List Char) : List Char :=
  let core := t.stripTrailing (t.stripLeading text)
  let opened := match addition t.before with
    | some before => before ++ ' ' :: core
    | none => core
  match addition t.after with
  | some after => opened ++ ' ' :: after
  | none => opened

end Trimming

end StatementMapper.Template
