import HttpRouting.Http.Host

/-! # Addresses

The address of a request, read leniently and kept in its normal form. Reading drops blanks at the
ends and all tabs and line ends, lower-cases the scheme and host, drops a port that the scheme implies,
takes a backslash for a slash, resolves the segments `.` and `..`, and escapes what may not stand for
itself; escapes already there are kept as written. The fragment and the query are cut off first,
since neither of their marks can occur in what comes before them.
-/

namespace HttpRouting

open Text

/-- The path of an address: segments, or, after a scheme without slashes, a bare text. -/
inductive AddressPath where
  | segments (segments : List String)
  | bare (text : String)
deriving DecidableEq, Repr

/-- An address in its normal form. -/
structure Address where
  scheme : String
  /-- Whether it names a user or a password. -/
  hasCredentials : Bool := false
  hostName : Option String := none
  port : Option Nat := none
  path : AddressPath
  query : Option String := none
  fragment : Option String := none
deriving DecidableEq, Repr

namespace Address

/-- The schemes whose addresses have a host and slashes, with the ports they imply. -/
def defaultPort? (scheme : String) : Option (Option Nat) :=
  [("ftp", some 21), ("file", none), ("http", some 80), ("https", some 443), ("ws", some 80),
    ("wss", some 443)].lookup scheme

/-- Whether a scheme's addresses always have slashes. -/
def isSpecial (scheme : String) : Bool :=
  (defaultPort? scheme).isSome

/-- The printable ASCII characters outside `escaped`. -/
def plainExcept (escaped : String) (char : Char) : Bool :=
  0x20 ≤ char.toNat && char.toNat ≤ 0x7E && !escaped.toList.contains char

/-- The characters that stand for themselves in a path. -/
def isPlainInPath : Char → Bool :=
  plainExcept " \"#<>?\x60\x7b\x7d"

/-- The characters that stand for themselves in a query. -/
def isPlainInQuery (scheme : String) : Char → Bool :=
  plainExcept (if isSpecial scheme then " \"#<>'" else " \"#<>")

/-- The characters that stand for themselves in a fragment. -/
def isPlainInFragment : Char → Bool :=
  plainExcept " \"<>\x60"

/-- Whether a segment means the directory itself. -/
def isDot (segment : String) : Bool :=
  [".", "%2e"].contains (String.ofList (segment.toList.map Char.toLower))

/-- Whether a segment means the directory above. -/
def isDoubleDot (segment : String) : Bool :=
  ["..", ".%2e", "%2e.", "%2e%2e"].contains (String.ofList (segment.toList.map Char.toLower))

/-- Whether a segment is the letter of a drive. -/
def isDrive (segment : String) : Bool :=
  match segment.toList with
  | [letter, mark] => letter.isAlpha && (mark = ':' || mark = '|')
  | _ => false

/-- A drive letter with a colon after it. -/
def normalDrive (segment : String) : String :=
  String.ofList (segment.toList.take 1 ++ [':'])

/-- A path without its last segment; a drive stays. -/
def climb (isFile : Bool) (path : List String) : List String :=
  match path with
  | [only] => if isFile && isDrive only then path else []
  | _ => path.dropLast

/-- Resolve segments one after the other on top of a path. -/
def resolve (isFile : Bool) (path : List String) : List String → List String
  | [] => path
  | segment :: rest =>
    let isLast := rest.isEmpty
    if isDoubleDot segment then
      let path := climb isFile path
      resolve isFile (if isLast then path ++ [""] else path) rest
    else if isDot segment then resolve isFile (if isLast then path ++ [""] else path) rest
    else
      let written := escape isPlainInPath segment
      let written := if isFile && path.isEmpty && isDrive segment then normalDrive written else written
      resolve isFile (path ++ [written]) rest

/-- The characters that end a segment of a path. -/
def isSlash (special : Bool) (char : Char) : Bool :=
  char = '/' || (special && char = '\\')

/-- The segments of a path that follows a host. -/
def pathAfterHost (scheme : String) (text : String) : List String :=
  let special := isSpecial scheme
  match text.toList with
  | [] => if special then [""] else []
  | first :: rest =>
    let body := if isSlash special first then rest else first :: rest
    let body := if special then body.map fun char => if char = '\\' then '/' else char else body
    resolve (scheme == "file") [] (cut '/' (String.ofList body))

/-- The text without blanks at its ends and without tabs and line ends. -/
def clean (text : String) : String :=
  let trimmed := trim (fun char => char.toNat ≤ 0x20) text
  String.ofList (trimmed.toList.filter fun char => char ≠ '\t' && char ≠ '\n' && char ≠ '\r')

/-- The parts of a text before and after the first `mark`. -/
def splitFirst (mark : Char) (text : String) : String × Option String :=
  match text.toList.dropWhile (· ≠ mark) with
  | [] => (text, none)
  | _ :: rest => (before mark text, some (String.ofList rest))

/-- The scheme that a text begins with, in lower case, and what follows its colon. -/
def scheme? (text : String) : Option (String × String) := do
  let (name, rest) := splitFirst ':' text
  let rest ← rest
  let first ← name.toList.head?
  if first.isAlpha ∧ name.toList.all fun char => char.isAlphanum || "+-.".toList.contains char then
    some (String.ofList (name.toList.map Char.toLower), rest)
  else none

/-- The port that digits spell, unless the scheme implies it. -/
def port? (scheme digits : String) : Option (Option Nat) :=
  if digits = "" then some none
  else if digits.toList.all Char.isDigit then
    let value := digits.toList.foldl (fun total char => 10 * total + (char.toNat - '0'.toNat)) 0
    if value > 65535 then none
    else if (defaultPort? scheme).join = some value then some none
    else some (some value)
  else none

/-- The host part of `host:port`, up to the first colon outside brackets, and what follows it. -/
def splitPort : Bool → List Char → List Char × Option (List Char)
  | _, [] => ([], none)
  | inBrackets, char :: rest =>
    if char = ':' ∧ !inBrackets then ([], some rest)
    else
      let (host, port) := splitPort (char = '[' || (inBrackets && char ≠ ']')) rest
      (char :: host, port)

/-- What an address has between its slashes and its path. -/
structure Authority where
  hasCredentials : Bool
  hostName : String
  port : Option Nat

/-- Read `user:password@host:port`. -/
def authority? (scheme text : String) : Option Authority := do
  let special := isSpecial scheme
  let parts := cut '@' text
  let place ← parts.getLast?
  let user := join "@" parts.dropLast
  let hasCredentials := user.toList.any (· ≠ ':') || (cut ':' user).length > 2
  if parts.length > 1 ∧ place = "" then none
  else
    let (host, port) := splitPort false place.toList
    let port ← port? scheme (String.ofList (port.getD []))
    if host = [] ∧ (special ∨ place ≠ "") then none
    else
      let hostName ← if host = [] then some "" else Host.parse? special (String.ofList host)
      return ⟨hasCredentials, hostName, port⟩

/-- The address whose host and path are `text`. -/
def withAuthority? (scheme text : String) : Option Address := do
  let special := isSpecial scheme
  let place := String.ofList (text.toList.takeWhile fun char => !isSlash special char)
  let rest := String.ofList (text.toList.dropWhile fun char => !isSlash special char)
  let authority ← authority? scheme place
  return {
    scheme
    hasCredentials := authority.hasCredentials
    hostName := some authority.hostName
    port := authority.port
    path := .segments (pathAfterHost scheme rest) }

/-- The address of a file, whose host is mostly empty. -/
def file? (text : String) : Option Address :=
  let chars := text.toList
  let special := isSlash true
  let path (host : String) (rest : List Char) : Address :=
    { scheme := "file", hostName := some host,
      path := .segments (pathAfterHost "file" (String.ofList rest)) }
  match chars with
  | first :: second :: rest =>
    if special first && special second then
      let place := String.ofList (rest.takeWhile fun char => !special char)
      let after := rest.dropWhile fun char => !special char
      if isDrive place then some (path "" rest)
      else if place = "" then some (path "" after)
      else (Host.parse? true place).map fun host =>
        path (if host = "localhost" then "" else host) after
    else some (path "" chars)
  | _ => some (path "" chars)

/-- The address of a scheme whose addresses need no slashes. -/
def other? (scheme text : String) : Option Address :=
  match text.toList with
  | '/' :: '/' :: rest => withAuthority? scheme (String.ofList rest)
  | '/' :: _ => some { scheme, path := .segments (pathAfterHost scheme text) }
  | _ => some { scheme, path := .bare (escape (plainExcept "") text) }

/-- Read an address from a clean text. One that begins with a slash has the scheme `http`, and the
host `localhost` unless it begins with two slashes. -/
def read? (text : String) : Option Address := do
  let (text, fragment) := splitFirst '#' text
  let (text, query) := splitFirst '?' text
  let address ←
    match scheme? text with
    | some (scheme, rest) =>
      if scheme = "file" then file? rest
      else if isSpecial scheme then
        withAuthority? scheme (String.ofList (rest.toList.dropWhile (isSlash true)))
      else other? scheme rest
    | none =>
      match text.toList with
      | '/' :: second :: rest =>
        if isSlash true second then
          withAuthority? "http" (String.ofList (rest.dropWhile (isSlash true)))
        else withAuthority? "http" ("localhost" ++ text)
      | ['/'] => withAuthority? "http" "localhost/"
      | _ => none
  return { address with
    query := query.map (escape (isPlainInQuery address.scheme))
    fragment := fragment.map (escape isPlainInFragment) }

def parseAbsolute? (text : String) : Option Address :=
  if startsWith "/" (clean text) then none else read? (clean text)

/-- Read an address; a text that begins with a slash is taken relative to `http://localhost`. -/
def parse? (text : String) : Option Address :=
  if startsWith "/" text then read? (clean text) else parseAbsolute? text

def pathname (address : Address) : String :=
  match address.path with
  | .bare text => text
  | .segments segments => String.ofList (segments.flatMap fun segment => '/' :: segment.toList)

/-- The host with its port, or the empty text. -/
def host (address : Address) : String :=
  match address.hostName, address.port with
  | none, _ => ""
  | some host, none => host
  | some host, some port => host ++ ":" ++ toString port

def render (address : Address) : String :=
  let place :=
    match address.hostName, address.path with
    | some _, _ => "//" ++ address.host
    | none, .segments ("" :: _ :: _) => "/."
    | none, _ => ""
  address.scheme ++ ":" ++ place ++ address.pathname ++
    (address.query.elim "" ("?" ++ ·)) ++ (address.fragment.elim "" ("#" ++ ·))

/-- A field of a query with its plus signs and escapes read. -/
def readField (text : String) : String :=
  unescape (String.ofList (text.toList.map fun char => if char = '+' then ' ' else char))

def queryFields (address : Address) : List (String × String) :=
  (pieces '&' (address.query.getD "")).map fun piece =>
    let (name, value) := splitFirst '=' piece
    (readField name, readField (value.getD ""))

/-- The value of the first field with a name. -/
def queryField? (address : Address) (name : String) : Option String :=
  address.queryFields.lookup name

end Address

end HttpRouting
