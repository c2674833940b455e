import FloatingIp.Url.Host

/-!
# URLs

A `Url` is a URL of a scheme that always has a host: `http`, `https` and their like.  Its path is
the list of its segments, never empty, each in its encoded form; a last segment that is empty
stands for a final slash.

Texts are read and resolved as browsers do it: blanks and controls at the ends and tabs and line
breaks anywhere do not count, a backslash is a slash, `.` and `..` are resolved at once, default
ports and empty passwords are dropped.  URLs of other kinds are only told apart from texts that
are no URLs at all: `parse` answers nothing for them.

One rule is not about URLs on the net at all: `..` does not leave a segment that looks like a
drive letter.
-/

namespace FloatingIp

open Url (Fault Host)

/-- A URL of a scheme that always has a host. -/
structure Url where
  /-- The scheme, in lower case. -/
  scheme : String
  /-- The user name, encoded; empty if there is none. -/
  username : String
  /-- The password, encoded; never empty. -/
  password : Option String
  /-- The host. -/
  host : Host
  /-- The port, unless it is the scheme's own. -/
  port : Option Nat
  /-- The segments of the path, encoded. -/
  path : List String
  /-- The query, encoded. -/
  query : Option String
  /-- The fragment, encoded. -/
  fragment : Option String
  deriving DecidableEq

namespace Url

/-! ## Writing -/

/-- A path: a slash before each segment. -/
def pathText (path : List String) : String :=
  String.join (path.map ("/" ++ ·))

/-- What stands between the slashes and the host. -/
def userinfoText (u : Url) : String :=
  match u.password with
  | some p => u.username ++ ":" ++ p ++ "@"
  | none => if u.username.isEmpty then "" else u.username ++ "@"

/-- Host and port. -/
def hostText (u : Url) : String :=
  String.ofList u.host.chars ++ (u.port.map fun n => ":" ++ Digits.decimal n).getD ""

/-- Path and query, as a request names what it wants. -/
def target (u : Url) : String :=
  pathText u.path ++ (u.query.map ("?" ++ ·)).getD ""

/-- The text of a URL. -/
def text (u : Url) : String :=
  u.scheme ++ "://" ++ u.userinfoText ++ u.hostText ++ u.target ++
    (u.fragment.map ("#" ++ ·)).getD ""

/-! ## Schemes -/

/-- How a scheme is read. -/
inductive SchemeKind where
  /-- A scheme with a host and, perhaps, a port of its own. -/
  | hosted (port : Nat)
  /-- Files of the local machine. -/
  | file
  /-- Any other scheme. -/
  | other
  deriving DecidableEq

/-- The kind of a scheme. -/
def SchemeKind.of (scheme : String) : SchemeKind :=
  if scheme = "http" ∨ scheme = "ws" then hosted 80
  else if scheme = "https" ∨ scheme = "wss" then hosted 443
  else if scheme = "ftp" then hosted 21
  else if scheme = "file" then file
  else other

/-- Whether a character may stand in a scheme behind its first letter. -/
def isSchemeChar (c : Char) : Bool :=
  c.isAlphanum || c = '+' || c = '-' || c = '.'

/-- The scheme at the front of a text, in lower case, and what follows its colon. -/
def scheme? (s : List Char) : Option (String × List Char) :=
  match s.dropWhile isSchemeChar with
  | ':' :: rest =>
    let name := s.takeWhile isSchemeChar
    if (name.head?.map Char.isAlpha).getD false then
      some (String.ofList (name.map Char.toLower), rest)
    else none
  | _ => none

/-! ## Reading the authority -/

/-- Whether a character ends the authority. -/
def endsAuthority (c : Char) : Bool :=
  c = '/' || c = '?' || c = '#' || c = '\\'

/-- Cuts a text at the first character that satisfies `p`. -/
def cutAt (p : Char → Bool) (s : List Char) : List Char × List Char :=
  (s.takeWhile fun c => !p c, s.dropWhile fun c => !p c)

/-- What stands before and after the last `@`, if there is one. -/
def splitLastAt (s : List Char) : Option (List Char) × List Char :=
  match s.reverse.dropWhile (· ≠ '@') with
  | _ :: userinfo => (some userinfo.reverse, (s.reverse.takeWhile (· ≠ '@')).reverse)
  | [] => (none, s)

/-- User name and password, encoded: a colon divides them, and an empty password is none. -/
def credentials (userinfo : List Char) : String × Option String :=
  let (name, rest) := cutAt (· = ':') userinfo
  let encoded (s : List Char) := String.ofList (Percent.encode Percent.inUserinfo s)
  (encoded name, match rest with
    | _ :: c :: password => some (encoded (c :: password))
    | _ => none)

/-- Cuts host and port apart: the first colon outside brackets divides them.  A closing bracket
ends the inside of brackets wherever it stands. -/
def splitPort (inside : Bool) : List Char → List Char × Option (List Char)
  | [] => ([], none)
  | c :: rest =>
    if c = ':' ∧ inside = false then ([], some rest)
    else
      let inside := if c = '[' then true else if c = ']' then false else inside
      let (host, port) := splitPort inside rest
      (c :: host, port)

/-- A port: decimal digits up to 65535, or nothing at all.  A value too large is refused as soon
as it is, whatever follows. -/
def parsePort (digits : List Char) : Except Fault (Option Nat) :=
  if digits.all (Digits.isDigit 10) && Digits.value 10 digits < 65536 then
    .ok (if digits.isEmpty then none else some (Digits.value 10 digits))
  else .error .invalidPort

/-- The authority of a URL with a host. -/
structure Authority where
  username : String
  password : Option String
  host : Host
  port : Option Nat

/-- Reads the authority at the front of a text, up to its path.  User information that ends right
before the end of the authority has no host to go with. -/
def parseAuthority (defaultPort : Nat) (s : List Char) : Except Fault (Authority × List Char) := do
  let (authority, rest) := cutAt endsAuthority s
  let (userinfo, hostPort) := splitLastAt authority
  let (host, port) := splitPort false hostPort
  if host.isEmpty then throw .emptyHost
  let h ← Host.ofChars host
  let port ← (port.map parsePort).getD (.ok none)
  let (username, password) := credentials (userinfo.getD [])
  return (⟨username, password, h, if port = some defaultPort then none else port⟩, rest)

/-- Checks the authority of a URL of an unknown scheme. -/
def checkAuthority (s : List Char) : Except Fault Unit := do
  let (authority, rest) := cutAt (fun c => c = '/' || c = '?' || c = '#') s
  let (userinfo, hostPort) := splitLastAt authority
  if userinfo = some [] && hostPort.isEmpty && !rest.isEmpty then throw .emptyHost
  let (host, port) := splitPort false hostPort
  Host.checkOpaque host
  if host.isEmpty && port.isSome then throw .emptyHost
  -- A backslash ends the port here as well, and begins the path.
  discard <| (port.map fun digits => parsePort (cutAt (· = '\\') digits).1).getD (.ok none)
  let (username, password) := credentials (userinfo.getD [])
  if host.isEmpty && (!username.isEmpty || password.isSome) then throw .emptyHost

/-! ## Reading the path -/

/-- Whether a segment stands for the one that it is in. -/
def isSingleDot (segment : List Char) : Bool :=
  segment = ".".toList || segment.map Char.toLower = "%2e".toList

/-- Whether a segment stands for the one above. -/
def isDoubleDot (segment : List Char) : Bool :=
  let s := segment.map Char.toLower
  s = "..".toList || s = ".%2e".toList || s = "%2e.".toList || s = "%2e%2e".toList

/-- Whether a segment looks like a drive letter. -/
def isDriveLetter (segment : String) : Bool :=
  match segment.toList with
  | [letter, mark] => letter.isAlpha && (mark = ':' || mark = '|')
  | _ => false

/-- Leaves the innermost of the segments, which are listed innermost first. -/
def leave : List String → List String
  | [] => []
  | s :: above => if isDriveLetter s then s :: above else above

/-- A segment in its encoded form. -/
def segmentText (segment : List Char) : String :=
  String.ofList (Percent.encode Percent.inPath segment)

/-- Enters a segment that a slash follows. -/
def enter (above : List String) (segment : List Char) : List String :=
  if isDoubleDot segment then leave above
  else if isSingleDot segment then above
  else segmentText segment :: above

/-- Enters the last segment of a path.  A dot segment leaves an empty one in its place. -/
def enterLast (above : List String) (segment : List Char) : List String :=
  if isDoubleDot segment then "" :: leave above
  else if isSingleDot segment then "" :: above
  else segmentText segment :: above

/-- The parts of a path between slashes, at least one. -/
def splitPath : List Char → List (List Char)
  | [] => [[]]
  | c :: rest =>
    if c = '/' ∨ c = '\\' then [] :: splitPath rest
    else match splitPath rest with
      | [] => [[c]]
      | s :: ss => (c :: s) :: ss

/-- The path that the parts lead to from `above`, whose segments are listed innermost first. -/
def walk (above : List String) (parts : List (List Char)) : List String :=
  (enterLast (parts.dropLast.foldl enter above) (parts.getLast?.getD [])).reverse

/-- Whether a character ends the path. -/
def endsPath (c : Char) : Bool :=
  c = '?' || c = '#'

/-- Reads a path that starts below `above`. -/
def parsePath (above : List String) (s : List Char) : List String × List Char :=
  let (path, rest) := cutAt endsPath s
  (walk above (splitPath path), rest)

/-! ## Reading query and fragment -/

/-- A query in its encoded form. -/
def queryText (s : List Char) : String :=
  String.ofList (Percent.encode Percent.inQuery s)

/-- A fragment in its encoded form. -/
def fragmentText (s : List Char) : String :=
  String.ofList (Percent.encode Percent.inFragment s)

/-- Reads what follows a path: query and fragment, each if there is one. -/
def parseTail (s : List Char) : Option String × Option String :=
  let fragmentOf (s : List Char) : Option String :=
    match s with
    | _ :: fragment => some (fragmentText fragment)
    | [] => none
  match s with
  | '?' :: rest =>
    let (query, rest) := cutAt (· = '#') rest
    (some (queryText query), fragmentOf rest)
  | rest => (none, fragmentOf rest)

/-! ## Reading URLs -/

/-- Whether a character at the end of a text does not belong to the URL. -/
def isEdge (c : Char) : Bool :=
  c.toNat ≤ 0x20

/-- The characters of a text that count. -/
def significant (s : List Char) : List Char :=
  (((s.dropWhile isEdge).reverse.dropWhile isEdge).reverse).filter
    fun c => c ≠ '\t' && c ≠ '\n' && c ≠ '\r'

/-- Whether a character is a slash to the schemes that have a host. -/
def isSlash (c : Char) : Bool :=
  c = '/' || c = '\\'

/-- Reads the path at the front of a text behind an authority, and all that follows it. -/
def parsePathAndTail (s : List Char) : List String × Option String × Option String :=
  let (path, rest) := parsePath [] (match s with
    | c :: rest => if isSlash c then rest else c :: rest
    | [] => [])
  (path, parseTail rest)

/-- Reads a URL behind its scheme and slashes. -/
def parseHosted (scheme : String) (defaultPort : Nat) (s : List Char) : Except Fault Url := do
  let (a, rest) ← parseAuthority defaultPort s
  let (path, query, fragment) := parsePathAndTail rest
  return ⟨scheme, a.username, a.password, a.host, a.port, path, query, fragment⟩

/-- Checks the host of a file URL behind its first two slashes. -/
def checkFileHost (s : List Char) : Except Fault Unit :=
  let host := (cutAt endsAuthority s).1
  if host.isEmpty || isDriveLetter (String.ofList host) then .ok ()
  else (Host.ofChars host).map fun _ => ()

/-- Checks a URL of a kind that has no use here. -/
def checkOther (kind : SchemeKind) (s : List Char) : Except Fault Unit :=
  match kind, s with
  | .file, c :: d :: rest => if isSlash c && isSlash d then checkFileHost rest else .ok ()
  | .other, '/' :: '/' :: rest => checkAuthority rest
  | _, _ => .ok ()

/-- Reads a text that names its scheme; nothing for a URL that is not of this type. -/
def ofScheme (scheme : String) (rest : List Char) : Except Fault (Option Url) := do
  match SchemeKind.of scheme with
  | .hosted port => return some (← parseHosted scheme port (rest.dropWhile isSlash))
  | kind =>
    checkOther kind rest
    return none

/-- The URL that a text spells; nothing for a URL that is not of this type. -/
def parse (s : String) : Except Fault (Option Url) :=
  match scheme? (significant s.toList) with
  | some (scheme, rest) => ofScheme scheme rest
  | none => .error .relativeWithoutBase

/-! ## Resolving references -/

/-- The port that the scheme of a URL has by itself. -/
def defaultPort (u : Url) : Nat :=
  match SchemeKind.of u.scheme with
  | .hosted port => port
  | _ => 0

/-- Resolves a reference without a scheme. -/
def resolve (base : Url) (s : List Char) : Except Fault Url :=
  match s with
  | [] => .ok { base with fragment := none }
  | '#' :: fragment => .ok { base with fragment := some (fragmentText fragment) }
  | '?' :: _ =>
    let (query, fragment) := parseTail s
    .ok { base with query, fragment }
  | c :: rest =>
    if isSlash c then
      if ((rest.head?.map isSlash).getD false) then
        parseHosted base.scheme base.defaultPort
          (match s with
            | '/' :: '/' :: rest => rest
            | _ => s.dropWhile isSlash)
      else
        let (path, rest) := parsePath [] rest
        let (query, fragment) := parseTail rest
        .ok { base with path, query, fragment }
    else
      let (path, rest) := parsePath base.path.dropLast.reverse s
      let (query, fragment) := parseTail rest
      .ok { base with path, query, fragment }

/-- The URL that a text spells in a place where it may be relative to `base`. -/
def join (base : Url) (s : String) : Except Fault (Option Url) := do
  let s := significant s.toList
  match scheme? s with
  | none => return some (← base.resolve s)
  | some (scheme, rest) =>
    if scheme = base.scheme && (rest.takeWhile isSlash).length < 2 then
      return some (← base.resolve rest)
    else ofScheme scheme rest

/-! ## Changing URLs -/

/-- Adds a final slash to the path unless it has one. -/
def closePath (u : Url) : Url :=
  if u.path.getLast? = some "" then u else { u with path := u.path ++ [""] }

/-- Adds items to the query, with `&` before each one that is not the first.  There is a query
afterwards, though it may be empty. -/
def addQuery (u : Url) (items : List String) : Url :=
  let add (query item : String) := if query.isEmpty then item else query ++ "&" ++ item
  { u with query := some (items.foldl add (u.query.getD "")) }

end Url
end FloatingIp
