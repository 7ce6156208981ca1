import StatementMapper.Text.Blank
import StatementMapper.Text.Search
import StatementMapper.Markup.Entity
import StatementMapper.Fault

set_option autoImplicit false

/-! A `<` that cannot start a tag is character data. The first fault ends the events. -/

namespace StatementMapper.Markup

inductive Event where
  | data (text : List Char)
  | opening (name : String) (attributes : List (String × String)) (closed : Bool)
  | closing (name : String)
  | fault (cause : TemplateFault)
deriving DecidableEq, Repr

def isNameStart (c : Char) : Bool := c.isAlpha || c == '_'

def isNamePart (c : Char) : Bool := Text.isWordChar c || c == '.' || c == ':' || c == '-'

def name? (text : List Char) : Option (List Char × List Char) :=
  match text with
  | c :: rest =>
    if isNameStart c then some (c :: rest.takeWhile isNamePart, rest.dropWhile isNamePart) else none
  | [] => none

def value? (text : List Char) : Option (List Char × List Char) :=
  match text with
  | quote :: rest =>
    if quote = '"' ∨ quote = '\'' then
      match Text.splitFirst quote rest with
      | (value, some tail) => some (value, tail)
      | (_, none) => none
    else none
  | [] => none

def attribute? (text : List Char) : Option (String × String × List Char) := do
  let body := Text.trimStart text
  if body.length = text.length then none
  else
    let (name, afterName) ← name? body
    match Text.trimStart afterName with
    | '=' :: rest =>
      let (value, tail) ← value? (Text.trimStart rest)
      some (String.ofList name, String.ofList (decode value), tail)
    | _ => none

def attributes (text : List Char) : List (String × String) × List Char :=
  match attribute? text with
  | none => ([], text)
  | some (name, value, tail) =>
    if tail.length < text.length then
      let (more, rest) := attributes tail
      ((name, value) :: more, rest)
    else ([], text)
termination_by text.length

def repeated? : List String → List (String × String) → Option String
  | _, [] => none
  | seen, (name, _) :: rest => if seen.contains name then some name else repeated? (name :: seen) rest

def openingTag? (text : List Char) : Option (Event × List Char) := do
  let (name, afterName) ← name? text
  let (found, afterAttributes) := attributes afterName
  let event (closed : Bool) : Event :=
    match repeated? [] found with
    | some twice => .fault (.duplicateAttribute twice)
    | none => .opening (String.ofList name) found closed
  match Text.trimStart afterAttributes with
  | '/' :: '>' :: rest => some (event true, rest)
  | '>' :: rest => some (event false, rest)
  | _ => none

def closingTag? (text : List Char) : Option (Event × List Char) := do
  let (name, afterName) ← name? text
  match Text.trimStart afterName with
  | '>' :: rest => some (.closing (String.ofList name), rest)
  | _ => none

-- Whether what follows a `<` was meant as a tag.
def looksLikeTag : List Char → Bool
  | c :: _ => c == '/' || c.isAlpha || c == '_' || c == '!'
  | [] => false

def endingAt (mark : List Char) (fault : TemplateFault) (event : List Char → Event) (text : List Char) :
    Event × List Char :=
  match Text.cut? mark text with
  | some (content, rest) => (event content, rest)
  | none => (.fault fault, [])

-- A comment may share its first dashes with its last ones.
def tag (rest : List Char) : Event × List Char :=
  match Text.after? "![CDATA[".toList rest with
  | some body => endingAt "]]>".toList .unterminatedCData .data body
  | none =>
    match Text.after? "!--".toList rest with
    | some _ => endingAt "-->".toList .unterminatedComment (fun _ => .data []) (rest.drop 1)
    | none =>
      let closing := match rest with
        | '/' :: body => closingTag? body
        | _ => none
      match closing.or (openingTag? rest) with
      | some found => found
      | none =>
        if looksLikeTag rest then (.fault (.malformedTag (String.ofList (('<' :: rest).take 32))), [])
        else (.data ['<'], rest)

def events (source : List Char) : List Event :=
  match source with
  | [] => []
  | c :: rest =>
    if c = '<' then
      let (event, tail) := tag rest
      if tail.length ≤ rest.length then event :: events tail else [event]
    else
      let run := c :: rest.takeWhile (· != '<')
      .data (decode run) :: events (rest.dropWhile (· != '<'))
termination_by source.length
decreasing_by
  all_goals simp only [List.length_cons]
  · omega
  · exact Nat.lt_succ_of_le (List.dropWhile_sublist _).length_le

end StatementMapper.Markup
