/-
Module: WorkflowEngine.Network.Url.Reader
Layer: Network
Purpose: Reading URLs as browsers do.
Imports: WorkflowEngine.Network.Name.Ascii, WorkflowEngine.Network.Percent,
  WorkflowEngine.Network.Url.Basic, WorkflowEngine.Network.Url.Fault
Trusted boundary: none
Main exports: Url.read, Host.read, Host.readOpaque
-/
import WorkflowEngine.Network.Name.Ascii
import WorkflowEngine.Network.Percent
import WorkflowEngine.Network.Url.Basic
import WorkflowEngine.Network.Url.Fault

/-!
# Reading URLs

Absolute URLs are read as the URL standard of the web says: line breaks and tabs do not count, the schemes of
the web take back slashes for slashes and any number of them before the host, a host may be spelled in many
ways, and a path is freed of its dot segments.
-/

namespace WorkflowEngine

namespace Host

/-- Reads an IPv6 address in brackets. -/
def readBracketed (cs : List Char) : Except Url.Fault Host :=
  match cs.getLast? with
  | some ']' => match Ipv6.read? (cs.drop 1).dropLast with
      | some a => .ok (.ipv6 a)
      | none => .error .ipv6Address
  | _ => .error .ipv6Address

/-- Reads the host of a web address. -/
def read (cs : List Char) : Except Url.Fault Host :=
  match cs with
  | '[' :: _ => readBracketed cs
  | _ =>
      match (Percent.decode? cs).bind Name.ascii? with
      | none => .error .internationalName
      | some [] => .error .emptyHost
      | some domain =>
          if Ipv4.endsInNumber domain then
            match Ipv4.ofHost? domain with
            | some a => .ok (.ipv4 a)
            | none => .error .ipv4Address
          else .ok (.name (String.ofList domain))

/-- The characters that may not stand in a host of another scheme. -/
def isForbiddenInOpaque (c : Char) : Bool := "\x00\t\n\r #/:<>?@[\\]^|".toList.contains c

/-- Reads the host of another scheme, which may be empty. -/
def readOpaque (cs : List Char) : Except Url.Fault Host :=
  match cs with
  | '[' :: _ => readBracketed cs
  | _ =>
      if cs.any isForbiddenInOpaque then .error .domainCharacter
      else .ok (.name (String.ofList (Percent.encode Percent.isPlain cs)))

end Host

namespace Url

/-- Whether a scheme is one of the web. -/
def isSpecial (scheme : String) : Bool :=
  scheme = "file" || (defaultPort? scheme).isSome

/-! ## Preparation -/

/-- Controls and the blank. -/
def isEdge (c : Char) : Bool := c.toNat ≤ 0x20

/-- Drops controls and blanks at both ends, and tabs and line breaks everywhere. -/
def prepared (cs : List Char) : List Char :=
  let inner := ((cs.dropWhile isEdge).reverse.dropWhile isEdge).reverse
  inner.filter fun c => c ≠ '\t' && c ≠ '\n' && c ≠ '\r'

/-- Letters of the alphabet. -/
def isLetter (c : Char) : Bool := ('a' ≤ c && c ≤ 'z') || ('A' ≤ c && c ≤ 'Z')

/-- Splits the scheme off, in lower case. -/
def splitScheme? (cs : List Char) : Option (String × List Char) :=
  let scheme := cs.takeWhile fun c => isLetter c || c.isDigit || c = '+' || c = '-' || c = '.'
  match cs.drop scheme.length with
  | ':' :: rest =>
      if (scheme.head?.map isLetter).getD false then
        some (String.ofList (scheme.map Char.toLower), rest)
      else none
  | _ => none

/-- Whether a character separates segments. -/
def isSlash (special : Bool) (c : Char) : Bool := c = '/' || (special && c = '\\')

/-- Whether a character ends the part with user and host. -/
def endsAuthority (special : Bool) (c : Char) : Bool := isSlash special c || c = '?' || c = '#'

/-! ## User and host -/

/-- Splits the user name and the password off, up to the last at sign before the path. -/
def splitUser (special : Bool) (cs : List Char) : Option (List Char) × List Char :=
  let region := cs.takeWhile fun c => !endsAuthority special c
  if region.contains '@' then
    let host := (region.reverse.takeWhile (· ≠ '@')).reverse
    let user := region.take (region.length - host.length - 1)
    (some user, cs.drop (user.length + 1))
  else (none, cs)

/-- The encoded user name and password. -/
def readUser (user : List Char) : String × String :=
  let name := user.takeWhile (· ≠ ':')
  let encode := fun cs => String.ofList (Percent.encode Percent.keptInUser cs)
  (encode name, encode (user.drop (name.length + 1)))

/-- Splits the host off: a colon ends it except between brackets. -/
def splitHost (special : Bool) : (bracketed : Bool) → List Char → List Char × List Char
  | _, [] => ([], [])
  | bracketed, c :: rest =>
      if endsAuthority special c || (c = ':' && !bracketed) then ([], c :: rest)
      else
        let inside := if c = '[' then true else if c = ']' then false else bracketed
        let (host, tail) := splitHost special inside rest
        (c :: host, tail)

/-- Reads digits of a port up to the path; none at all means the usual port. -/
def readPort (scheme : String) (cs : List Char) : Except Fault (Option Nat × List Char) :=
  let (digits, rest) := spanDigits cs
  let n := naturalOfDigits digits
  if 65536 ≤ n then .error .port
  else match rest with
    | c :: _ =>
        if endsAuthority true c then
          .ok (if digits.isEmpty || some n = defaultPort? scheme then none else some n, rest)
        else .error .port
    | [] => .ok (if digits.isEmpty || some n = defaultPort? scheme then none else some n, rest)

/-! ## Paths -/

/-- Whether a segment stands for the segment it is in. -/
def isSingleDot (segment : List Char) : Bool :=
  let lower := segment.map Char.toLower
  lower = ".".toList || lower = "%2e".toList

/-- Whether a segment stands for the one before it. -/
def isDoubleDot (segment : List Char) : Bool :=
  let lower := segment.map Char.toLower
  lower = "..".toList || lower = ".%2e".toList || lower = "%2e.".toList || lower = "%2e%2e".toList

/-- Frees segments of dots; `done` holds those before, in reverse. -/
def resolveDots : (done : List String) → List (List Char) → List String
  | done, [] => done.reverse
  | done, segment :: rest =>
      let encoded := String.ofList (Percent.encode Percent.keptInPath segment)
      if isDoubleDot segment then
        resolveDots (if rest.isEmpty then "" :: done.drop 1 else done.drop 1) rest
      else if isSingleDot segment then resolveDots (if rest.isEmpty then "" :: done else done) rest
      else resolveDots (encoded :: done) rest

/-- The segments of a path. -/
def segmentsOf (special : Bool) (cs : List Char) : List (List Char) :=
  (if special then cs.map fun c => if c = '\\' then '/' else c else cs).splitOn '/'

/-- Reads a path that follows a host. -/
def readPath (special : Bool) (cs : List Char) : UrlPath :=
  match cs with
  | [] => .segments (if special then [""] else [])
  | c :: rest => .segments (resolveDots [] (segmentsOf special (if isSlash special c then rest else cs)))

/-! ## Assembly -/

/-- Splits path, query and fragment. -/
def splitTail (cs : List Char) : List Char × Option (List Char) × Option (List Char) :=
  let beforeFragment := cs.takeWhile (· ≠ '#')
  let fragment := match cs.drop beforeFragment.length with
    | _ :: rest => some rest
    | [] => none
  let path := beforeFragment.takeWhile (· ≠ '?')
  let query := match beforeFragment.drop path.length with
    | _ :: rest => some rest
    | [] => none
  (path, query, fragment)

/-- Adds the encoded query and fragment. -/
def withTail (u : Url) (query fragment : Option (List Char)) : Url :=
  let kept := if isSpecial u.scheme then Percent.keptInSpecialQuery else Percent.keptInQuery
  { u with
    query := query.map fun q => String.ofList (Percent.encode kept q)
    fragment := fragment.map fun f => String.ofList (Percent.encode Percent.keptInFragment f) }

/-- Reads what follows two slashes: user, host, port and path. -/
def readAuthority (scheme : String) (cs : List Char) : Except Fault Url := do
  let special := isSpecial scheme
  let (user, afterUser) := splitUser special cs
  let (hostChars, afterHost) := splitHost special false afterUser
  if user = some [] ∧ hostChars.isEmpty ∧ (afterHost.head?.map (endsAuthority special)).getD false then
    .error .emptyHost
  else if special ∧ hostChars.isEmpty then .error .emptyHost
  else
    let host ← if special then Host.read hostChars else Host.readOpaque hostChars
    let (username, password) := readUser (user.getD [])
    let hostless := host = .name ""
    if hostless ∧ (afterHost.head? = some ':' ∨ !(username.isEmpty && password.isEmpty)) then
      .error .emptyHost
    else
      let (port, afterPort) ← match afterHost with
        | ':' :: rest => readPort scheme rest
        | _ => .ok (none, afterHost)
      let (path, query, fragment) := splitTail afterPort
      .ok (withTail
        ⟨scheme, username, password, if hostless then none else some host, port, readPath special path,
          none, none⟩ query fragment)

/-- Whether a text is a letter and a colon or a bar, the name of a drive. -/
def isDrive (cs : List Char) : Bool :=
  match cs with
  | [letter, mark] => isLetter letter && (mark = ':' || mark = '|')
  | _ => false

/-- Reads what follows the scheme of a file.  The local host and the host before a drive do not count. -/
def readFile (cs : List Char) : Except Fault Url := do
  let (hostChars, afterHost) := match cs with
    | a :: b :: rest =>
        if isSlash true a && isSlash true b then rest.span fun c => !endsAuthority true c else ([], cs)
    | _ => ([], cs)
  let (hostChars, afterHost) :=
    if isDrive hostChars then ([], hostChars ++ afterHost) else (hostChars, afterHost)
  let host ← if hostChars.isEmpty then .ok (.name "") else Host.read hostChars
  let (path, query, fragment) := splitTail afterHost
  let segments := segmentsOf true (match path with
    | c :: rest => if isSlash true c then rest else path
    | [] => [])
  let hidden := host = .name "" || host = .name "localhost" || (segments.head?.map isDrive).getD false
  .ok (withTail
    ⟨"file", "", "", if hidden then none else some host, none, .segments (resolveDots [] segments), none,
      none⟩ query fragment)

/-- Reads what follows any other scheme. -/
def readOther (scheme : String) (cs : List Char) : Except Fault Url :=
  match cs with
  | '/' :: '/' :: rest => readAuthority scheme rest
  | _ =>
      let (path, query, fragment) := splitTail cs
      let shape := match path with
        | '/' :: _ => readPath false path
        | _ => .opaqueText (String.ofList (Percent.encode Percent.isPlain path))
      .ok (withTail ⟨scheme, "", "", none, none, shape, none, none⟩ query fragment)

/-- Reads an absolute URL. -/
def readChars (cs : List Char) : Except Fault Url :=
  match splitScheme? (prepared cs) with
  | none => .error .noScheme
  | some (scheme, rest) =>
      if scheme = "file" then readFile rest
      else if isSpecial scheme then readAuthority scheme (rest.dropWhile (isSlash true))
      else readOther scheme rest

/-- Reads an absolute URL. -/
def read (s : String) : Except Fault Url := readChars s.toList

end Url

end WorkflowEngine
