import ChatClient.Http.Host

/-!
# URLs of requests

An absolute `http` or `https` URL, read as the URL standard prescribes: blanks at the ends and line
breaks anywhere are dropped, a backslash counts as a slash, dot segments are resolved, characters
that may not stand in a path or a query are percent-encoded. The path and the query go into the
request line (`Url.target`); the fragment stays behind. `Url.text` writes the URL.
-/

namespace ChatClient.Http

/-- The parts of a URL that a request needs. -/
structure Url where
  secure : Bool
  host : Host
  port : Option Nat
  path : String
  query : Option String
  fragment : Option String := none
deriving DecidableEq, Repr

namespace Url

/-- The character separates the segments of a path. -/
def isSlash (c : Char) : Bool := c == '/' || c == '\\'

/-- The text without control characters and spaces at its ends and without tabs and line breaks. -/
def clean (s : List Char) : List Char :=
  let edge (c : Char) : Bool := c.toNat ≤ 0x20
  (Text.dropTrailing edge (s.dropWhile edge)).filter fun c => c ≠ '\t' ∧ c ≠ '\n' ∧ c ≠ '\r'

/-- The scheme, in small letters, and the text after its colon. -/
def splitScheme (s : List Char) : Option (List Char × List Char) :=
  match s with
  | [] => none
  | first :: _ =>
      if !first.isAlpha then none
      else
        let inScheme (c : Char) : Bool := c.isAlphanum || c == '+' || c == '-' || c == '.'
        match s.dropWhile inScheme with
        | ':' :: r => some (Text.lowerAscii (s.takeWhile inScheme), r)
        | _ => none

/-- The text after the last at sign. -/
def afterUserInfo (s : List Char) : List Char :=
  ((s.reverse.takeWhile (· ≠ '@')).reverse)

/-- The host and the port of an authority without user information. The colons of an address in
brackets do not start a port. -/
def splitPort (s : List Char) : List Char × Option (List Char) :=
  let tail := s.reverse.takeWhile (fun c => c ≠ ':' ∧ c ≠ ']')
  match s.reverse.drop tail.length with
  | ':' :: host => (host.reverse, some tail.reverse)
  | _ => (s, none)

/-- The number of a port; an empty text names none. -/
def readPort : Option (List Char) → Option (Option Nat)
  | none => some none
  | some [] => some none
  | some digits => ((Reading.natural? digits).filter (· < 65536)).map some

/-- The spellings of the segment that stands for the directory itself. -/
def isSingleDot (s : List Char) : Bool :=
  ["." , "%2e"].contains (String.ofList (Text.lowerAscii s))

/-- The spellings of the segment that stands for the directory above. -/
def isDoubleDot (s : List Char) : Bool :=
  ["..", ".%2e", "%2e.", "%2e%2e"].contains (String.ofList (Text.lowerAscii s))

/-- The raw segments of a path between its slashes. -/
def segments (s : List Char) : List (List Char) :=
  Text.pieces '/' (s.map fun c => if isSlash c then '/' else c)

/-- A letter and a colon or a bar: the name of a drive. -/
def isDrive : List Char → Bool
  | [c, d] => c.isAlpha && (d == ':' || d == '|')
  | _ => false

/-- The directory above that of the segments, last first. Nothing is above a drive. -/
def parent : List (List Char) → List (List Char)
  | [] => []
  | s :: rest => if isDrive s then s :: rest else rest

/-- The resolved segments, last first, after `done`. A dot segment at the end leaves an empty
one. -/
def resolve (done : List (List Char)) : List (List Char) → List (List Char)
  | [] => done
  | s :: rest =>
      let close (d : List (List Char)) : List (List Char) := if rest.isEmpty then [] :: d else d
      if isDoubleDot s then resolve (close (parent done)) rest
      else if isSingleDot s then resolve (close done) rest
      else resolve (Percent.encode Percent.keptInPath s :: done) rest

/-- The path after a host. -/
def readPath (s : List Char) : List Char :=
  match s with
  | [] => ['/']
  | _ :: r => (resolve [] (segments r)).reverse.flatMap ('/' :: ·)

/-- The URL of a text. -/
def parse? (text : String) : Option Url := do
  let (scheme, rest) ← splitScheme (clean text.toList)
  let scheme := String.ofList scheme
  if scheme ≠ "http" ∧ scheme ≠ "https" then none
  -- any number of slashes may stand before the host
  let rest := rest.dropWhile isSlash
  let ends (c : Char) : Bool := isSlash c || c == '?' || c == '#'
  let (host, port) := splitPort (afterUserInfo (rest.takeWhile (!ends ·)))
  let host ← Host.parse? host
  let port ← readPort port
  let rest := rest.dropWhile (!ends ·)
  let fragment := match rest.dropWhile (· ≠ '#') with
    | [] => none
    | _ :: f => some (String.ofList (Percent.encode Percent.keptInFragment f))
  let rest := rest.takeWhile (· ≠ '#')
  let path := readPath (rest.takeWhile (· ≠ '?'))
  let query := match rest.dropWhile (· ≠ '?') with
    | [] => none
    | _ :: q => some (String.ofList (Percent.encode Percent.keptInQuery q))
  return { secure := scheme = "https", host, port, path := String.ofList path, query, fragment }

/-- The URL with one more pair at the end of its query. -/
def withPair (u : Url) (key value : String) : Url :=
  let pair := String.ofList
    (Percent.encodeForm key.toList ++ '=' :: Percent.encodeForm value.toList)
  let query := match u.query with
    | none => pair
    | some q => if q = "" then pair else q ++ "&" ++ pair
  { u with query := some query }

/-- The path and the query as they stand in the request line; an empty query is left out. -/
def target (u : Url) : String :=
  match u.query with
  | none => u.path
  | some q => if q = "" then u.path else u.path ++ "?" ++ q

/-- The port with the colon before it, unless it is the usual one. -/
def portText (u : Url) : String :=
  let usual := if u.secure then 443 else 80
  match u.port with
  | none => ""
  | some n => if n = usual then "" else ":" ++ toString n

/-- The URL as one text, without user information. -/
def text (u : Url) : String :=
  let fragment := match u.fragment with
    | none => ""
    | some f => "#" ++ f
  (if u.secure then "https://" else "http://") ++ u.host.text ++ u.portText ++ u.target ++ fragment

/-- The greatest length of a URL that a request can be sent to. -/
def maxLength : Nat := 65534

/-- The URL is short enough for a request. -/
def isShort (u : Url) : Bool := u.text.length ≤ maxLength

end Url

end ChatClient.Http
