import QueryShapes.Text.Percent
import QueryShapes.Url.Address
import QueryShapes.Url.Fault

/-!
# URLs

The parts of a URL that a connection is described by. Schemes such as `http` are special: they need
a host, which is a name or an address of version 4. All other schemes take hosts as they are.

- `Url.ofText?`: the URL of a text.
- `Url.queryPairs`: the query read as a form.
-/

namespace QueryShapes

structure Url where
  scheme : String
  username : String
  password : Option String
  host : Option String
  port : Option Nat
  path : String
  query : Option String
deriving DecidableEq

namespace Url

/-! ## What is kept as it is -/

/-- Printable characters of ASCII other than the given ones. -/
def keeps (encoded : String) (c : Char) : Bool :=
  ' ' ≤ c && c < '\x7f' && !encoded.toList.contains c

def keptInHosts : Char → Bool := keeps ""

def keptInPaths : Char → Bool := keeps " \"<>\x60#?\x7b\x7d"

def keptInUserinfo : Char → Bool := keeps " \"<>\x60#?\x7b\x7d/:;=@[\\]^|"

def keptInQueries : Char → Bool := keeps " \"#<>"

/-! ## Schemes -/

def specialSchemes : List String := ["http", "https", "ws", "wss", "ftp", "file"]

def isSpecial (scheme : String) : Bool := specialSchemes.contains scheme

def continuesScheme (c : Char) : Bool := c.isAlphanum || c == '+' || c == '-' || c == '.'

/-- The scheme at the head of a text in lower case, and the text after its colon. -/
def splitScheme? (text : List Char) : Option (String × List Char) :=
  if text.head?.any Char.isAlpha then
    match text.dropWhile continuesScheme with
    | ':' :: rest =>
      some (String.ofList ((text.takeWhile continuesScheme).map Char.toLower), rest)
    | _ => none
  else none

/-! ## Hosts -/

def forbiddenInHosts (c : Char) : Bool :=
  "\x00\t\n\r #/:<>?@[\\]^|".toList.contains c

def forbiddenInDomains (c : Char) : Bool :=
  forbiddenInHosts c || c.toNat < 0x20 || c == '%' || c == '\x7f'

/-- An address of version 6 in brackets. -/
def bracketedHost? (text : List Char) : Except UrlFault String :=
  match text.getLast?, Ipv6.ofText? (text.drop 1).dropLast with
  | some ']', some groups => .ok (String.ofList ('[' :: (Ipv6.text groups ++ [']'])))
  | _, _ => .error .ipv6Address

/-- A host of a scheme that is not special. -/
def plainHost? (text : List Char) : Except UrlFault String :=
  if text.any forbiddenInHosts then .error .domainCharacter
  else .ok (String.ofList (Text.Percent.encode keptInHosts text))

/-- A host of a special scheme. -/
def domainHost? (text : List Char) : Except UrlFault String :=
  match Text.Utf8.decode? (Text.Percent.decode (Text.Utf8.encode text)) with
  | none => .error .internationalName
  | some domain =>
    let domain := domain.map Char.toLower
    if domain.any forbiddenInDomains then .error .internationalName
    else if domain.isEmpty then .error .emptyHost
    else if Ipv4.isNumeric domain && !Ipv4.isAddress domain then .error .ipv4Address
    else .ok (String.ofList domain)

def host? (special : Bool) (text : List Char) : Except UrlFault String :=
  if special && text.isEmpty then .error .emptyHost
  else if text.head? = some '[' then bracketedHost? text
  else if special then domainHost? text
  else plainHost? text

/-- The length of a host: up to the first colon outside of brackets. -/
def hostLength (inBrackets : Bool) : List Char → Nat
  | [] => 0
  | c :: rest =>
    if c = ':' ∧ !inBrackets then 0
    else 1 + hostLength (if c = '[' then true else if c = ']' then false else inBrackets) rest

/-! ## Authorities -/

/-- The user name and the password before an `@`. An empty password is none. -/
def userinfo (text : List Char) : String × Option String :=
  let encoded := fun part => String.ofList (Text.Percent.encode keptInUserinfo part)
  match Text.cutAt? (· = ':') text with
  | some (name, password) => (encoded name, if password.isEmpty then none else some (encoded password))
  | none => (encoded text, none)

/-- A port after its colon, and what follows it. Nothing but a backslash may do so. -/
def port? (text : List Char) : Except UrlFault (Option Nat × List Char) :=
  let rest := text.dropWhile Char.isDigit
  let number? := natural? (text.takeWhile Char.isDigit)
  if number?.any (65535 < ·) || rest.head?.any (· ≠ '\\') then .error .port
  else .ok (number?, rest)

/-- The part of a text before its last `@`, and the part after it. -/
def cutUserinfo? (text : List Char) : Option (List Char × List Char) :=
  (Text.cutAt? (· = '@') text.reverse).map fun (after, before) => (before.reverse, after.reverse)

/-- The host and the port of an authority, and what is left of it. -/
def hostAndPort? (special : Bool) (text : List Char) :
    Except UrlFault (Option String × Option Nat × List Char) := do
  let length := hostLength false text
  let host ← host? special (text.take length)
  let named := if host.isEmpty then none else some host
  match text.drop length with
  | ':' :: digits =>
    if host.isEmpty then .error .emptyHost
    let (port, rest) ← port? digits
    return (named, port, rest)
  | rest => return (named, none, rest)

/-! ## Paths -/

/-- A dot may be written as `%2e`. -/
def dotted (segment : List Char) : List Char :=
  match segment with
  | '%' :: '2' :: e :: rest => if e.toLower = 'e' then '.' :: dotted rest else segment
  | '.' :: rest => '.' :: dotted rest
  | _ => segment

/-- A letter and a colon or bar, which stay where they are. -/
def isDriveLetter : List Char → Bool
  | [letter, mark] => letter.isAlpha && (mark == ':' || mark == '|')
  | _ => false

/-- The segments of a path without dots, last first, after the segments before it. -/
def resolveAfter (done : List (List Char)) : List (List Char) → List (List Char)
  | [] => done
  | segment :: rest =>
    let closing := if rest.isEmpty then [[]] else []
    if dotted segment = ['.', '.'] then
      let parent := match done with
        | last :: above => if isDriveLetter last then done else above
        | [] => []
      resolveAfter (closing ++ parent) rest
    else if dotted segment = ['.'] then resolveAfter (closing ++ done) rest
    else resolveAfter (segment :: done) rest

/-- A path from the text after its first slash. -/
def absolutePath (text : List Char) : String :=
  let segments := Text.splitOn (· = '/') (Text.Percent.encode keptInPaths text)
  String.ofList ('/' :: List.intercalate ['/'] (resolveAfter [] segments).reverse)

/-- The path and the query of what follows an authority or a scheme. The path is opaque where it
does not start with a slash. -/
def pathAndQuery (text : List Char) : String × Option String :=
  let beforeFragment := text.takeWhile (· ≠ '#')
  let pathText := beforeFragment.takeWhile (· ≠ '?')
  let path := match pathText with
    | '/' :: rest => absolutePath rest
    | _ => String.ofList pathText
  match beforeFragment.dropWhile (· ≠ '?') with
  | _ :: query => (path, some (String.ofList (Text.Percent.encode keptInQueries query)))
  | [] => (path, none)

/-! ## URLs -/

def endsAuthority (special : Bool) (c : Char) : Bool :=
  c == '/' || c == '?' || c == '#' || (special && c == '\\')

/-- A URL from the text after its two slashes. -/
def withAuthority? (scheme : String) (text : List Char) : Except UrlFault Url := do
  let special := isSpecial scheme
  let authority := text.takeWhile fun c => !endsAuthority special c
  let rest := text.dropWhile fun c => !endsAuthority special c
  let (before, after) := (cutUserinfo? authority).getD ([], authority)
  if authority = ['@'] && !rest.isEmpty then .error .emptyHost
  let (username, password) := userinfo before
  let (host, port, remaining) ← hostAndPort? special after
  if host.isNone && (!username.isEmpty || password.isSome) then .error .emptyHost
  let separated := if remaining.isEmpty then rest else '/' :: (remaining ++ rest)
  let (path, query) := pathAndQuery separated
  return ⟨scheme, username, password, host, port, path, query⟩

/-- The host of a file, which may be missing. -/
def fileHost? (text : List Char) : Except UrlFault (Option String) :=
  match text with
  | a :: b :: rest =>
    let named := rest.takeWhile fun c => !endsAuthority true c
    if [a, b].all (fun c => c == '/' || c == '\\') && !named.isEmpty && !isDriveLetter named then
      (host? true named).map some
    else .ok none
  | _ => .ok none

/-- A URL from the text after the colon of its scheme. -/
def withScheme? (scheme : String) (text : List Char) : Except UrlFault Url :=
  if scheme = "file" then do
    let host ← fileHost? text
    let (path, query) := pathAndQuery text
    return ⟨scheme, "", none, host, none, path, query⟩
  else if isSpecial scheme then
    withAuthority? scheme (text.dropWhile fun c => c == '/' || c == '\\')
  else match text with
    | '/' :: '/' :: rest => withAuthority? scheme rest
    | _ =>
      let (path, query) := pathAndQuery text
      .ok ⟨scheme, "", none, none, none, path, query⟩

/-- Without controls and blanks at the ends, and without tabs and line breaks anywhere. -/
def cleaned (text : List Char) : List Char :=
  (Text.trimEnd (· ≤ ' ') (text.dropWhile (· ≤ ' '))).filter fun c =>
    c != '\t' && c != '\n' && c != '\r'

def ofText? (text : String) : Except UrlFault Url :=
  match splitScheme? (cleaned text.toList) with
  | some (scheme, rest) => withScheme? scheme rest
  | none => .error .noScheme

/-! ## Queries -/

/-- A text of a form: a plus sign stands for a blank. -/
def formText (text : List Char) : String :=
  let spaced := text.map fun c => if c = '+' then ' ' else c
  String.ofList (Text.Utf8.decodeLossy (Text.Percent.decode (Text.Utf8.encode spaced)))

/-- The named values of a query, in order. -/
def queryPairs (url : Url) : List (String × String) :=
  let pieces := (Text.splitOn (· = '&') (url.query.getD "").toList).filter (! ·.isEmpty)
  pieces.map fun piece =>
    match Text.cutAt? (· = '=') piece with
    | some (name, value) => (formText name, formText value)
    | none => (formText piece, "")

end Url

end QueryShapes
