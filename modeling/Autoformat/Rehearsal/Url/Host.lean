import Autoformat.Rehearsal.Url.Label
import Autoformat.Rehearsal.Url.Direction
import Autoformat.Text.Utf8

/-!
# Hosts

A `Host` is a name, or the number of a machine in one of two sizes. `Host.ofText?` reads what an address
says about its host, in the way of the URL standard: `0x7f.1` is the number `127.0.0.1`, the characters of
a name are folded, and its parts outside of ASCII are written in Punycode. `Host.text` writes a host in
normal form.
-/

namespace Autoformat

/-- The host of an address. -/
inductive Host where
  | name (s : String)
  /-- A number of 32 bits. -/
  | short (n : Nat)
  /-- Eight numbers of 16 bits. -/
  | long (groups : List Nat)
  deriving DecidableEq, Repr

namespace Host

/-- A list between separators. -/
def between (separator : Char) : List Char → List (List Char)
  | [] => [[]]
  | c :: cs =>
    match between separator cs with
    | part :: parts => if c = separator then [] :: part :: parts else (c :: part) :: parts
    | [] => [[c]]

/-- The value of a digit in a base of at most sixteen. -/
def digitValue? (base : Nat) (c : Char) : Option Nat :=
  let n := c.toNat
  let value :=
    if c.isDigit then n - 0x30
    else if 0x61 ≤ n ∧ n ≤ 0x66 then n - 0x61 + 10
    else if 0x41 ≤ n ∧ n ≤ 0x46 then n - 0x41 + 10
    else 16
  if value < base then some value else none

/-- The number that digits write; no digits write zero. -/
def numberIn? (base : Nat) (ds : List Char) : Option Nat :=
  ds.foldlM (fun n c => (digitValue? base c).map (base * n + ·)) 0

/-! ## Numbers of 32 bits -/

/-- A part of a number: hexadecimal after `0x`, octal after `0`, else decimal. -/
def shortPart? : List Char → Option Nat
  | [] => none
  | '0' :: 'x' :: cs => numberIn? 16 cs
  | '0' :: 'X' :: cs => numberIn? 16 cs
  | '0' :: c :: cs => numberIn? 8 (c :: cs)
  | cs => numberIn? 10 cs

/-- The parts of a name between dots; a dot at the end is dropped. -/
def dotted (cs : List Char) : List (List Char) :=
  let parts := between '.' cs
  if 1 < parts.length && parts.getLast? = some [] then parts.dropLast else parts

/-- A name that ends like a number has to be one. -/
def endsInNumber (cs : List Char) : Bool :=
  match (dotted cs).getLast? with
  | none => false
  | some part => (!part.isEmpty && part.all Char.isDigit) || (shortPart? part).isSome

/-- One to four parts; the last one fills the bytes that are left. -/
def short? (cs : List Char) : Option Host := do
  let parts ← (dotted cs).mapM shortPart?
  let last ← parts.getLast?
  let first := parts.dropLast
  guard (first.length < 4 && first.all (· < 256) && last < Nat.pow 256 (4 - first.length))
  let high := (first ++ List.replicate (4 - first.length) 0).foldl (fun n part => 256 * n + part) 0
  pure (.short (high + last))

/-! ## Numbers of 128 bits -/

/-- A group of up to four hexadecimal digits. -/
def group? (cs : List Char) : Option Nat :=
  if cs.isEmpty || 4 < cs.length then none else numberIn? 16 cs

/-- A byte in decimal without needless zeros. -/
def byte? (cs : List Char) : Option Nat := do
  guard (!cs.isEmpty && cs.length ≤ 3 && (cs.length = 1 || cs.head? ≠ some '0'))
  let n ← numberIn? 10 cs
  guard (n < 256)
  pure n

/-- Four bytes as two groups. -/
def bytesAsGroups? (cs : List Char) : Option (List Nat) := do
  match ← (between '.' cs).mapM byte? with
  | [a, b, c, d] => pure [256 * a + b, 256 * c + d]
  | _ => none

/-- Groups between colons; the last two may be written as four bytes. -/
def groups? (cs : List Char) : Option (List Nat) := do
  let parts := between ':' cs
  let last ← parts.getLast?
  let first ← parts.dropLast.mapM group?
  let last ← if last.contains '.' then bytesAsGroups? last else (group? last).map ([·])
  pure (first ++ last)

/-- Groups, or nothing at all. -/
def someGroups? (cs : List Char) : Option (List Nat) := if cs.isEmpty then some [] else groups? cs

/-- What stands before and after the first two colons in a row. -/
def atGap? : List Char → Option (List Char × List Char)
  | ':' :: ':' :: cs => some ([], cs)
  | c :: cs => (atGap? cs).map fun (a, b) => (c :: a, b)
  | [] => none

/-- Eight groups, or fewer with two colons in place of the zeros. -/
def long? (cs : List Char) : Option Host := do
  match atGap? cs with
  | none =>
    let groups ← groups? cs
    guard (groups.length = 8)
    pure (.long groups)
  | some (before, after) =>
    guard (!before.contains '.')
    let first ← someGroups? before
    let last ← someGroups? after
    guard (first.length + last.length ≤ 7)
    pure (.long (first ++ List.replicate (8 - first.length - last.length) 0 ++ last))

/-! ## Names -/

/-- The bytes of a text in which a byte may be written in hexadecimal after a percent sign. -/
def unescape : List Char → List UInt8
  | [] => []
  | '%' :: a :: b :: cs =>
    match digitValue? 16 a, digitValue? 16 b with
    | some x, some y => UInt8.ofNat (16 * x + y) :: unescape cs
    | _, _ => 0x25 :: unescape (a :: b :: cs)
  | c :: cs => Utf8.bytes (String.singleton c) ++ unescape cs

/-- Characters that no name has. -/
def isForbidden (c : Char) : Bool :=
  c.toNat ≤ 0x20 || c.toNat = 0x7F ||
    ['%', '#', '/', ':', '<', '>', '?', '@', '[', '\\', ']', '^', '|'].contains c

/-- A name in ASCII. -/
def name? (cs : List Char) : Option (List Char) := do
  let text ← String.fromUTF8? ⟨(unescape cs).toArray⟩
  let folded ← text.toList.mapM fold?
  let labels ← (between '.' (Text.compose folded.flatten)).mapM label?
  let turns := labels.any fun label => label.any fun c => (Text.Direction.of c).turns
  guard (!turns || labels.all Text.Direction.isSteady)
  let name := ['.'].intercalate (labels.map labelText)
  guard (!name.isEmpty && !name.any isForbidden)
  pure name

/-! ## Reading and writing -/

/-- A number between brackets. -/
def bracketed? (cs : List Char) : Option Host :=
  if cs.getLast? = some ']' then long? cs.dropLast else none

/-- The host that a text names, for schemes that are made for hosts. -/
def ofText? : List Char → Option Host
  | '[' :: cs => bracketed? cs
  | cs => do
    let name ← name? cs
    if endsInNumber name then short? name else pure (.name (String.ofList name))

/-- The first longest run of zeros in a list: where it begins, and its length. -/
def longestGap : List Nat → Nat × Nat
  | [] => (0, 0)
  | g :: gs =>
    let here := ((g :: gs).takeWhile (· = 0)).length
    let (start, length) := longestGap gs
    if length ≤ here then (0, here) else (start + 1, length)

/-- A number in lower-case hexadecimal. -/
def hexadecimal (n : Nat) : String := String.ofList (Nat.toDigits 16 n)

/-- Groups between colons. -/
def groupsText (groups : List Nat) : String := ":".intercalate (groups.map hexadecimal)

/-- A host as a text. -/
def text : Host → String
  | .name s => s
  | .short n =>
    ".".intercalate ([n / 0x1000000, n / 0x10000 % 256, n / 256 % 256, n % 256].map toString)
  | .long groups =>
    let (start, length) := longestGap groups
    if length < 2 then "[" ++ groupsText groups ++ "]"
    else "[" ++ groupsText (groups.take start) ++ "::" ++
      groupsText (groups.drop (start + length)) ++ "]"

end Host

end Autoformat
