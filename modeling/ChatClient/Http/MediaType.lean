import ChatClient.Text.Blank

/-!
# Media types

A media type is a type and a subtype with a slash between them, and parameters after semicolons. A
parameter has a token or a quoted text as its value. A quoted text ends at the next quotation mark:
a backslash in it is a character like any other. Only the parameters are of interest here:
`MediaType.parameters?` reads them, and `MediaType.charset?` finds the character set that a content
type announces. A text that breaks the form announces nothing.
-/

namespace ChatClient.Http.MediaType

/-- The character may stand in a token. -/
def isToken (c : Char) : Bool := c.isAlphanum || "!#$%&'*+-.^_`|~".toList.contains c

/-- The character may stand between quotation marks. -/
def isQuotable (c : Char) : Bool := 0x20 ≤ c.toNat && c.toNat != 0x7F

/-- The names and values of parameters, in order. -/
abbrev Parameters := List (List Char × List Char)

/-- What is being read of a parameter. The texts are kept last character first. -/
inductive Place where
  /-- The name, or the blanks before it. -/
  | name (name : List Char)
  | value (name value : List Char)
  /-- A value after its opening quotation mark. -/
  | quoted (name value : List Char)
  /-- What follows a closing quotation mark. -/
  | closed

/-- The parameters with one more at the end. -/
def add (done : Parameters) (name value : List Char) : Parameters :=
  done ++ [(name.reverse, value.reverse)]

/-- The parameters of a text, from the middle of one on. Nothing may be empty but a value at the
end. -/
def readFrom (done : Parameters) : Place → List Char → Option Parameters
  | .name [], [] => some done
  | .name _, [] => none
  | .name n, c :: r =>
      if c = ' ' ∧ n = [] then readFrom done (.name []) r
      else if isToken c then readFrom done (.name (c :: n)) r
      else if c = '=' ∧ n ≠ [] then readFrom done (.value n []) r
      else none
  | .value n v, [] => some (add done n v)
  | .value n v, c :: r =>
      if c = '"' ∧ v = [] then readFrom done (.quoted n []) r
      else if isToken c then readFrom done (.value n (c :: v)) r
      else if c = ';' ∧ v ≠ [] then readFrom (add done n v) (.name []) r
      else none
  | .quoted _ _, [] => none
  | .quoted n v, c :: r =>
      if c = '"' ∧ v ≠ [] then readFrom (add done n v) .closed r
      else if isQuotable c then readFrom done (.quoted n (c :: v)) r
      else none
  | .closed, [] => some done
  | .closed, c :: r =>
      if c = ';' then readFrom done (.name []) r
      else if c = ' ' then readFrom done .closed r
      else none

/-- The parameters of a media type. -/
def parameters? (s : List Char) : Option Parameters :=
  match s.takeWhile isToken, s.dropWhile isToken with
  | _ :: _, '/' :: r =>
      match r.takeWhile isToken, r.dropWhile isToken with
      | _, [] => some []
      | _ :: _, ';' :: r => readFrom [] (.name []) r
      | _, _ => none
  | _, _ => none

/-- The character set that a content type announces: the first parameter `charset`, in any case. -/
def charset? (contentType : String) : Option String := do
  let parameters ← parameters? contentType.toList
  let found ← parameters.find? fun p => Text.lowerAscii p.1 == "charset".toList
  return String.ofList found.2

end ChatClient.Http.MediaType
