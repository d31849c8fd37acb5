import Autoformat.Rehearsal.Url.Host

/-!
# Addresses

`Address.ofText?` takes an address apart in the way of the URL standard, and `Address.text` writes it in
normal form: no steps `.` and `..` in the path, no number that the scheme implies, and as bytes all
characters that may not stand where they do.

A scheme that is made for hosts has to name one. Any other scheme may be followed by a path at once, or by
a text that is not taken apart.
-/

namespace Autoformat

/-- Who is asked where. -/
structure Authority where
  user : String := ""
  password : Option String := none
  host : Option Host := none
  /-- The number after the host, unless the scheme implies it. -/
  number : Option Nat := none
  deriving DecidableEq, Repr

/-- An address in normal form. -/
structure Address where
  scheme : String
  authority : Option Authority
  path : String
  /-- The query and the fragment, with the marks before them. -/
  tail : String
  deriving DecidableEq, Repr

namespace Address

/-- The schemes that are made for hosts, with the numbers that they imply. -/
def hostSchemes : List (String × Nat) :=
  [("http", 80), ("https", 443), ("ws", 80), ("wss", 443), ("ftp", 21)]

/-! ## Characters -/

/-- A byte in hexadecimal after a percent sign. -/
def percent (b : UInt8) : List Char :=
  ['%', (Nat.digitChar (b.toNat / 16)).toUpper, (Nat.digitChar (b.toNat % 16)).toUpper]

/-- Characters that stand for themselves in a text that is not taken apart. -/
def staysAlways (c : Char) : Bool := 0x20 ≤ c.toNat && c.toNat < 0x7F

/-- Characters that stand for themselves wherever an address is taken apart. -/
def isPrinted (c : Char) : Bool :=
  0x20 < c.toNat && c.toNat < 0x7F && !(['"', '<', '>'].contains c)

/-- Characters that stand for themselves in a path. -/
def staysInPath (c : Char) : Bool := isPrinted c && !(['\x60', '\x7b', '\x7d'].contains c)

/-- Characters that stand for themselves in the name and the password of a user. -/
def staysInUser (c : Char) : Bool :=
  staysInPath c && !(['/', ':', ';', '=', '@', '[', '\\', ']', '^', '|', '#', '?'].contains c)

/-- Characters that stand for themselves in a query. -/
def staysInQuery (forHosts : Bool) (c : Char) : Bool := isPrinted c && !(forHosts && c = '\x27')

/-- Characters that stand for themselves in a fragment. -/
def staysInFragment (c : Char) : Bool := isPrinted c && c ≠ '\x60'

/-- A text whose other characters are written as bytes. -/
def escape (stays : Char → Bool) (cs : List Char) : List Char :=
  cs.flatMap fun c =>
    if stays c then [c] else (Utf8.bytes (String.singleton c)).flatMap percent

/-- Separates the parts of a path; schemes for hosts take both kinds of slash. -/
def isSlash (forHosts : Bool) (c : Char) : Bool := c = '/' || (forHosts && c = '\\')

/-- A text of an address without control characters and blanks at its ends, and without tabs and line
ends. -/
def clean (cs : List Char) : List Char :=
  let isEdge (c : Char) : Bool := c.toNat ≤ 0x20
  let cs := ((cs.dropWhile isEdge).reverse.dropWhile isEdge).reverse
  cs.filter fun c => !(['\t', '\n', '\r'].contains c)

/-! ## Schemes -/

/-- The scheme, and what follows its colon. -/
def splitScheme? (cs : List Char) : Option (String × List Char) :=
  let inScheme (c : Char) : Bool := c.isAlphanum || c = '+' || c = '-' || c = '.'
  let scheme := cs.takeWhile inScheme
  match cs.dropWhile inScheme with
  | ':' :: rest =>
    if (scheme.head?.map Char.isAlpha).getD false then
      some (String.ofList (scheme.map Char.toLower), rest)
    else none
  | _ => none

/-! ## Authorities -/

/-- What stands before the last sign of a kind, and what after it. -/
def splitLast (sign : Char) (cs : List Char) : Option (List Char × List Char) :=
  if cs.contains sign then
    let after := (cs.reverse.takeWhile (· ≠ sign)).reverse
    some (cs.take (cs.length - after.length - 1), after)
  else none

/-- The name and the password of a user. -/
def userOf (cs : List Char) : String × Option String :=
  let part (cs : List Char) := String.ofList (escape staysInUser cs)
  let password := (cs.dropWhile (· ≠ ':')).drop 1
  (part (cs.takeWhile (· ≠ ':')), if password.isEmpty then none else some (part password))

/-- Where a host ends: at a colon that does not stand between brackets. -/
def splitHost (inBrackets : Bool) : List Char → List Char × List Char
  | [] => ([], [])
  | c :: cs =>
    if c = ':' && !inBrackets then ([], c :: cs)
    else
      let (host, rest) := splitHost (if c = '[' then true else if c = ']' then false else inBrackets) cs
      (c :: host, rest)

/-- The host of a scheme that is not made for hosts; none is named by the empty text. -/
def plainHost? : List Char → Option (Option Host)
  | [] => some none
  | '[' :: cs => (Host.bracketed? cs).map some
  | cs =>
    let isForbidden (c : Char) : Bool :=
      ['\x00', ' ', '#', '/', ':', '<', '>', '?', '@', '[', '\\', ']', '^', '|'].contains c
    if cs.any isForbidden then none else some (some (.name (String.ofList (escape staysAlways cs))))

/-- The number after a host: none when there are no digits. -/
def number? (implied : Option Nat) : List Char → Option (Option Nat)
  | [] => some none
  | _ :: ds =>
    if !ds.all Char.isDigit then none
    else if ds.isEmpty then some none
    else
      match Host.numberIn? 10 ds with
      | none => none
      | some n => if 0xFFFF < n then none else some (if some n = implied then none else some n)

/-- The authority that a text names. -/
def authority? (implied : Option Nat) (cs : List Char) : Option Authority := do
  let (user, cs') := (splitLast '@' cs).getD ([], cs)
  let (name, password) := userOf user
  let (host, rest) := splitHost false cs'
  let host ← if implied.isSome then (Host.ofText? host).map some else plainHost? host
  guard (host.isSome || (rest.isEmpty && !cs.contains '@'))
  pure ⟨name, password, host, ← number? implied rest⟩

/-- An authority as a text. -/
def authorityText (a : Authority) : String :=
  let password := (a.password.map (":" ++ ·)).getD ""
  let user := if a.user = "" && a.password.isNone then "" else a.user ++ password ++ "@"
  user ++ (a.host.map Host.text).getD "" ++ (a.number.map fun n => s!":{n}").getD ""

/-! ## Paths -/

/-- The parts of a path between slashes. -/
def partsOf (forHosts : Bool) : List Char → List (List Char)
  | [] => [[]]
  | c :: cs =>
    match partsOf forHosts cs with
    | part :: parts => if isSlash forHosts c then [] :: part :: parts else (c :: part) :: parts
    | [] => [[c]]

/-- A dot, also when it is written as a byte, at the start of a part, and what follows it. -/
def dropDot? : List Char → Option (List Char)
  | '.' :: cs => some cs
  | '%' :: '2' :: c :: cs => if c.toLower = 'e' then some cs else none
  | _ => none

/-- Where a part of a path leads. -/
inductive Turn where
  | stay
  | back
  | into

/-- One dot stays, two go back. -/
def turnOf (part : List Char) : Turn :=
  match dropDot? part with
  | none => .into
  | some [] => .stay
  | some rest => if dropDot? rest = some [] then .back else .into

/-- The name of a drive; no step leads back over it. -/
def isDrive : List Char → Bool
  | [c, d] => c.isAlpha && (d = ':' || d = '|')
  | _ => false

/-- The parts that remain after a step back, in reverse. -/
def stepBack : List (List Char) → List (List Char)
  | [] => []
  | part :: done => if isDrive part then part :: done else done

/-- A part of a path at its start. In the path of a file, the name of a drive ends with a colon there. -/
def firstPart (ofFile : Bool) (part : List Char) : List Char :=
  if ofFile && isDrive part then part.take 1 ++ [':'] else part

/-- Follows the parts of a path; `done` is what remains of the parts before, in reverse. A path that ends
with a dot ends with a slash. -/
def follow (ofFile : Bool) (done : List (List Char)) : List (List Char) → List (List Char)
  | [] => done.reverse
  | part :: parts =>
    let close (done : List (List Char)) := if parts.isEmpty then [] :: done else done
    match turnOf part with
    | .stay => follow ofFile (close done) parts
    | .back => follow ofFile (close (stepBack done)) parts
    | .into => follow ofFile ((if done.isEmpty then firstPart ofFile part else part) :: done) parts

/-- The parts of a path that begins with a slash, whether the slash is written or not. -/
def pathParts (forHosts ofFile : Bool) (cs : List Char) : List (List Char) :=
  let cs := if (cs.head?.map (isSlash forHosts)).getD false then cs.drop 1 else cs
  follow ofFile [] (partsOf forHosts cs)

/-- The text of a path. -/
def pathText (parts : List (List Char)) : List Char := parts.flatMap fun part => '/' :: escape staysInPath part

/-- A path in normal form. -/
def pathOf (forHosts : Bool) (cs : List Char) : List Char := pathText (pathParts forHosts false cs)

/-- The query and the fragment. -/
def tailOf (forHosts : Bool) (cs : List Char) : List Char :=
  escape (staysInQuery forHosts) (cs.takeWhile (· ≠ '#')) ++
    escape staysInFragment (cs.dropWhile (· ≠ '#'))

/-! ## Addresses -/

/-- An address whose authority begins with `cs`. -/
def withAuthority? (scheme : String) (implied : Option Nat) (cs tail : List Char) :
    Option Address := do
  let forHosts := implied.isSome
  let inAuthority (c : Char) : Bool := !isSlash forHosts c
  let a ← authority? implied (cs.takeWhile inAuthority)
  let path := cs.dropWhile inAuthority
  let path := if path.isEmpty && !forHosts then [] else pathOf forHosts path
  pure ⟨scheme, some a, String.ofList path, String.ofList (tailOf forHosts tail)⟩

/-- The address of a file: the path begins with one slash, and the machine itself is no host. No other
machine is named where the path begins with a drive. -/
def ofFile? (cs tail : List Char) : Option Address := do
  let isSlash := isSlash true
  let slashes := (cs.takeWhile isSlash).length
  let rest := cs.drop 2
  let name := rest.takeWhile fun c => !isSlash c
  let named := slashes = 2 && !isDrive name
  let host ← if named && !name.isEmpty then (Host.ofText? name).map some else some none
  let path := if named then rest.drop name.length else if 2 ≤ slashes then rest else cs
  let parts := pathParts true true path
  let host := if host = some (.name "localhost") || parts.head?.any isDrive then none else host
  pure {
    scheme := "file"
    authority := some { host := host }
    path := String.ofList ('/' :: (pathText parts).dropWhile (· = '/'))
    tail := String.ofList (tailOf true tail) }

/-- The address that a text writes. -/
def ofText? (s : String) : Option Address := do
  let (scheme, cs) ← splitScheme? (clean s.toList)
  let isBody (c : Char) : Bool := c ≠ '?' && c ≠ '#'
  let body := cs.takeWhile isBody
  let tail := cs.dropWhile isBody
  if scheme = "file" then ofFile? body tail
  else
    match hostSchemes.lookup scheme with
    | some n => withAuthority? scheme (some n) (body.dropWhile (isSlash true)) tail
    | none =>
      match body with
      | '/' :: '/' :: cs => withAuthority? scheme none cs tail
      | '/' :: cs =>
        let path := pathOf false ('/' :: cs)
        let path := if ['/', '/'].isPrefixOf path then ['/', '.'] ++ path else path
        pure ⟨scheme, none, String.ofList path, String.ofList (tailOf false tail)⟩
      | cs =>
        pure ⟨scheme, none, String.ofList (escape staysAlways cs), String.ofList (tailOf false tail)⟩

/-- The path of an address, with its query and fragment. -/
def target (a : Address) : String := a.path ++ a.tail

/-- An address as a text. -/
def text (a : Address) : String :=
  a.scheme ++ ":" ++ (a.authority.map ("//" ++ authorityText ·)).getD "" ++ a.target

/-! ## Requests -/

/-- The bytes that a text stands for are a text. -/
def isReadable (s : String) : Bool := (String.fromUTF8? ⟨(Host.unescape s.toList).toArray⟩).isSome

/-- An authority that names no user; a name that cannot be read stays. -/
def withoutUser (a : Authority) : Authority :=
  let password := a.password.filter isReadable
  if !isReadable a.user || (a.user = "" && password.isNone) then a
  else { a with user := "", password := none }

/-- An address as a request names it. -/
def forRequest (a : Address) : Address := { a with authority := a.authority.map withoutUser }

/-- A request can be sent to the address: over HTTP, and without characters in the host that no request
may hold. -/
def takesRequests (a : Address) : Bool :=
  let isUsable : Host → Bool
    | .name s => s.toList.all fun c => !(['"', '\x60', '\x7b', '\x7d'].contains c)
    | _ => true
  (a.scheme = "http" || a.scheme = "https") &&
    ((a.authority.bind Authority.host).map isUsable).getD false && a.text.utf8ByteSize < 0xFFFF

end Address

end Autoformat
