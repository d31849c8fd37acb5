import Autoformat.Decimal.Binary64
import Autoformat.Rehearsal.Shell.Arithmetic
import Autoformat.Text.Utf8

/-!
# Formatted output

The output of `printf` and `echo`: escapes become bytes, and each directive of a format takes the next
argument. A format is used again as long as it takes arguments and some are left. The commands of the
shell differ in a few points from the programs of the same names; a `Dialect` tells which is meant.
-/

namespace Autoformat.Rehearsal.Shell.Format

/-- The command of the shell, or the program. -/
inductive Dialect where
  | shell
  | program
  deriving DecidableEq, Repr

/-- The bytes of characters. -/
def charBytes (cs : List Char) : List UInt8 := Utf8.bytes (String.ofList cs)

/-! ## Escapes -/

/-- An octal digit. -/
def isOctal (c : Char) : Bool := '0' ≤ c && c ≤ '7'

/-- The number that digits of a base write. -/
def numberIn (base : Nat) (ds : List Char) : Nat :=
  ds.foldl (fun n c => base * n + (Arithmetic.digit? c).getD 0) 0

/-- The byte of a short escape. -/
def shortEscape? (c : Char) : Option UInt8 :=
  match c with
  | 'a' => some 7
  | 'b' => some 8
  | 'e' => some 27
  | 'f' => some 12
  | 'n' => some 10
  | 'r' => some 13
  | 't' => some 9
  | 'v' => some 11
  | '\\' => some 92
  | _ => none

/-- A hexadecimal digit. -/
def isHex (c : Char) : Bool := (Arithmetic.digit? c).isSome

/-- What an escape stands for. -/
inductive Escape where
  | bytes (bs : List UInt8)
  /-- The output ends. -/
  | stop

/-- An escape that only programs know, after its backslash. -/
def programEscape? (cs : List Char) : Option (Escape × List Char) :=
  match cs with
  | 'c' :: rest => some (.stop, rest)
  | '"' :: rest => some (.bytes [34], rest)
  | 'x' :: rest =>
    let ds := (rest.take 2).takeWhile isHex
    if ds.isEmpty then none else some (.bytes [UInt8.ofNat (numberIn 16 ds)], rest.drop ds.length)
  | 'u' :: rest =>
    let ds := (rest.take 4).takeWhile isHex
    if ds.length = 4 then some (.bytes (charBytes [Char.ofNat (numberIn 16 ds)]), rest.drop 4) else none
  | _ => none

/-- What an escape after a backslash stands for, and what follows it. -/
def escape (d : Dialect) (cs : List Char) : Escape × List Char :=
  match if d = .program then programEscape? cs else none with
  | some r => r
  | none =>
    let ds := (cs.take 3).takeWhile isOctal
    if !ds.isEmpty then (.bytes [UInt8.ofNat (numberIn 8 ds)], cs.drop ds.length)
    else
      match cs with
      | [] => (.bytes [92], [])
      | c :: rest =>
        match shortEscape? c with
        | some b => (.bytes [b], rest)
        | none => (.bytes [92], c :: rest)

/-- Bytes, and whether the output ends after them. -/
structure Written where
  bytes : ByteArray := .empty
  stops : Bool := false

/-- Bytes at the end of others. -/
def appendBytes (acc : ByteArray) (bs : List UInt8) : ByteArray := bs.foldl ByteArray.push acc

/-- An argument with escapes, as bytes. Octal digits may begin with another zero. -/
def unescapeFrom (d : Dialect) (acc : ByteArray) : Nat → List Char → Written
  | 0, _ => ⟨acc, false⟩
  | _, [] => ⟨acc, false⟩
  | fuel + 1, c :: cs =>
    if c ≠ '\\' then unescapeFrom d (appendBytes acc (charBytes [c])) fuel cs
    else
      match cs with
      | 'c' :: _ => ⟨acc, true⟩
      | '0' :: o :: rest =>
        if isOctal o then step (escape d (o :: rest)) fuel else step (escape d ('0' :: o :: rest)) fuel
      | cs => step (escape d cs) fuel
where
  /-- Goes on after an escape. -/
  step (r : Escape × List Char) (fuel : Nat) : Written :=
    match r with
    | (.bytes bs, rest) => unescapeFrom d (appendBytes acc bs) fuel rest
    | (.stop, _) => ⟨acc, true⟩

/-- An argument with escapes, as bytes. -/
def unescape (d : Dialect) (s : String) : Written := unescapeFrom d .empty (s.length + 1) s.toList

/-! ## Numbers -/

/-- A number that may have a fraction: a ratio, or a word for what is none. -/
inductive Real where
  | ratio (isNegative : Bool) (num den : Nat)
  | word (isNegative : Bool) (s : String)

/-- A ratio rounded to a whole number of units of a power of ten. -/
def inTenths (places : Int) (num den : Nat) : Nat :=
  if 0 ≤ places then Decimal.Binary64.roundHalfEven (num * Nat.pow 10 places.toNat) den
  else Decimal.Binary64.roundHalfEven num (den * Nat.pow 10 (-places).toNat)

/-- Digits with zeros in front, at least so many. -/
def digitsOf (least n : Nat) : List Char :=
  let ds := Nat.toDigits 10 n
  List.replicate (least - ds.length) '0' ++ ds

/-- A point and the digits behind it. -/
def fraction (showsPoint : Bool) (ds : List Char) : List Char :=
  if ds.isEmpty && !showsPoint then [] else '.' :: ds

/-- A ratio with so many places. -/
def fixed (showsPoint : Bool) (places num den : Nat) : List Char :=
  let ds := digitsOf (places + 1) (inTenths places num den)
  ds.take (ds.length - places) ++ fraction showsPoint (ds.drop (ds.length - places))

/-- The exponent of ten of the first digit of a ratio: one more or less than an estimate. -/
def exponentOf (num den : Nat) : Int :=
  if num = 0 then 0
  else
    let estimate : Int := (Nat.toDigits 10 num).length - (Nat.toDigits 10 den).length
    let reaches (e : Int) : Bool :=
      if 0 ≤ e then den * Nat.pow 10 e.toNat ≤ num else den ≤ num * Nat.pow 10 (-e).toNat
    if reaches estimate then estimate else estimate - 1

/-- The digits of a ratio, so many of them, and the exponent of the first. -/
def significant (count num den : Nat) : List Char × Int :=
  let e := exponentOf num den
  let ds := digitsOf count (inTenths ((count : Int) - 1 - e) num den)
  if count < ds.length then (ds.take count, e + 1) else (ds, e)

/-- The exponent as it is written. -/
def exponentText (isUpper : Bool) (e : Int) : List Char :=
  (if isUpper then 'E' else 'e') :: (if e < 0 then '-' else '+') :: digitsOf 2 e.natAbs

/-- A ratio with an exponent and so many places. -/
def scientific (isUpper showsPoint : Bool) (places num den : Nat) : List Char :=
  let (ds, e) := significant (places + 1) num den
  ds.take 1 ++ fraction showsPoint (ds.drop 1) ++ exponentText isUpper e

/-- Digits behind a point without zeros at the end. -/
def withoutZeros (ds : List Char) : List Char := (ds.reverse.dropWhile (· = '0')).reverse

/-- A ratio in the shorter of both forms, with so many digits. -/
def general (isUpper keepsZeros : Bool) (count num den : Nat) : List Char :=
  let count := max count 1
  let (ds, e) := significant count num den
  let trim (ds : List Char) : List Char := if keepsZeros then ds else withoutZeros ds
  if e < -4 || (count : Int) ≤ e then
    ds.take 1 ++ fraction keepsZeros (trim (ds.drop 1)) ++ exponentText isUpper e
  else if e < 0 then
    '0' :: fraction true (trim (List.replicate (e.natAbs - 1) '0' ++ ds))
  else
    ds.take (e.toNat + 1) ++ fraction keepsZeros (trim (ds.drop (e.toNat + 1)))

/-- A number with a fraction at the start of a text, and what follows it. -/
def leadingReal (cs : List Char) : Real × List Char :=
  let isSpace (c : Char) : Bool := c = ' ' || (9 ≤ c.toNat && c.toNat ≤ 13)
  let start := cs.dropWhile isSpace
  let (isNegative, body) : Bool × List Char :=
    match start with
    | '-' :: cs => (true, cs)
    | '+' :: cs => (false, cs)
    | cs => (false, cs)
  let lower := (body.take 3).map Char.toLower
  if lower = ['i', 'n', 'f'] then (.word isNegative "inf", body.drop 3)
  else if lower = ['n', 'a', 'n'] then (.word isNegative "nan", body.drop 3)
  else
    let whole := body.takeWhile Char.isDigit
    let rest := body.drop whole.length
    let places :=
      match rest with
      | '.' :: cs => cs.takeWhile Char.isDigit
      | _ => []
    if whole.isEmpty && places.isEmpty then (.ratio false 0 1, cs)
    else
      let rest :=
        match rest with
        | '.' :: cs => cs.drop places.length
        | cs => cs
      let (e, rest) := exponent rest
      let n := numberIn 10 (whole ++ places)
      let power : Int := e - places.length
      if 0 ≤ power then (.ratio isNegative (n * Nat.pow 10 (min power 5000).toNat) 1, rest)
      else (.ratio isNegative n (Nat.pow 10 (min (-power) 5000).toNat), rest)
where
  /-- An exponent at the start of a text, and what follows it. -/
  exponent (cs : List Char) : Int × List Char :=
    match cs with
    | c :: rest =>
      let (isNegative, ds) : Bool × List Char :=
        match rest with
        | '-' :: ds => (true, ds)
        | '+' :: ds => (false, ds)
        | ds => (false, ds)
      let digits := ds.takeWhile Char.isDigit
      if (c = 'e' || c = 'E') && !digits.isEmpty then
        let n : Int := numberIn 10 digits
        (if isNegative then -n else n, ds.drop digits.length)
      else (0, cs)
    | [] => (0, [])

/-- A ratio rounded to a number with so many binary digits. -/
def roundBinary (bits num den : Nat) : Nat × Nat :=
  if num = 0 then (0, 1)
  else
    let estimate : Int := (Nat.log2 num : Int) - (Nat.log2 den : Int) - (bits - 1)
    let scaled := Decimal.Binary64.inUnits num den estimate
    let e := if scaled.1 / scaled.2 < Nat.pow 2 (bits - 1) then estimate - 1 else estimate
    let scaled := Decimal.Binary64.inUnits num den e
    let m := Decimal.Binary64.roundHalfEven scaled.1 scaled.2
    if 0 ≤ e then (m * Nat.pow 2 e.toNat, 1) else (m, Nat.pow 2 (-e).toNat)

/-! ## Directives -/

/-- A directive of a format. -/
structure Directive where
  flags : List Char := []
  width : Nat := 0
  precision : Option Nat := none
  conversion : Char

/-- The directive has a flag. -/
def Directive.has (d : Directive) (flag : Char) : Bool := d.flags.contains flag

/-- Bytes filled up to the width of a directive. -/
def Directive.pad (d : Directive) (bs : List UInt8) : List UInt8 :=
  let missing := List.replicate (d.width - bs.length) (32 : UInt8)
  if d.has '-' then bs ++ missing else missing ++ bs

/-- A number with its sign, filled up to the width of a directive. -/
def Directive.padNumber (d : Directive) (zeros : Bool) (sign digits : List Char) : List UInt8 :=
  if zeros && d.has '0' && !d.has '-' then
    charBytes (sign ++ List.replicate (d.width - sign.length - digits.length) '0' ++ digits)
  else d.pad (charBytes (sign ++ digits))

/-- The sign of a number that has one. -/
def Directive.sign (d : Directive) (isNegative : Bool) : List Char :=
  if isNegative then ['-'] else if d.has '+' then ['+'] else if d.has ' ' then [' '] else []

/-- A whole number as a directive writes it. -/
def Directive.writeNumber (d : Directive) (n : Int) : List UInt8 :=
  let isSigned := d.conversion = 'd' || d.conversion = 'i'
  let magnitude := if isSigned then n.natAbs else (Int.emod n 0x10000000000000000).toNat
  let base : Nat :=
    match d.conversion with
    | 'o' => 8
    | 'x' | 'X' => 16
    | _ => 10
  let ds := Nat.toDigits base magnitude
  let ds := if d.conversion = 'X' then ds.map Char.toUpper else ds
  let ds := if d.precision = some 0 && magnitude = 0 then [] else ds
  let ds := List.replicate (d.precision.getD 1 - ds.length) '0' ++ ds
  let mark : List Char :=
    if !d.has '#' then []
    else if base = 8 then if ds.head? = some '0' then [] else ['0']
    else if base = 16 && magnitude ≠ 0 then ['0', d.conversion]
    else []
  let sign := if isSigned then d.sign (n < 0) else []
  d.padNumber d.precision.isNone (sign ++ mark) ds

/-- A number with a fraction as a directive writes it. -/
def Directive.writeReal (d : Directive) (x : Real) : List UInt8 :=
  let isUpper := d.conversion.isUpper
  match x with
  | .word isNegative s =>
    d.padNumber false (d.sign isNegative) (if isUpper then s.toList.map Char.toUpper else s.toList)
  | .ratio isNegative num den =>
    let places := d.precision.getD 6
    let ds :=
      match d.conversion.toLower with
      | 'e' => scientific isUpper (d.has '#') places num den
      | 'g' => general isUpper (d.has '#') places num den
      | _ => fixed (d.has '#') places num den
    d.padNumber true (d.sign isNegative) ds

/-- What a piece of a format is. -/
inductive Piece where
  | bytes (bs : List UInt8)
  | stop
  /-- A directive; its width or precision may be taken from arguments. -/
  | directive (d : Directive) (takesWidth takesPrecision : Bool)
  /-- The format cannot go on. -/
  | invalid (text : String)

/-- The decimal number at the start of a text, and what follows it. -/
def decimal (cs : List Char) : Option Nat × List Char :=
  ((String.ofList (cs.takeWhile Char.isDigit)).toNat?, cs.dropWhile Char.isDigit)

/-- The directive after a percent sign, and what follows it. -/
def directive (d : Dialect) (cs : List Char) : Piece × List Char :=
  let isFlag (c : Char) : Bool := ['-', '0', '+', ' ', '#'].contains c
  let flags := cs.takeWhile isFlag
  let rest := cs.dropWhile isFlag
  let (width, takesWidth, rest) : Option Nat × Bool × List Char :=
    match rest with
    | '*' :: rest => (none, true, rest)
    | rest =>
      let (n, rest) := decimal rest
      (n, false, rest)
  let (precision, takesPrecision, rest) : Option Nat × Bool × List Char :=
    match rest with
    | '.' :: '*' :: rest => (some 0, true, rest)
    | '.' :: rest =>
      let (n, rest) := decimal rest
      (some (n.getD 0), false, rest)
    | rest => (none, false, rest)
  let rest := if d = .program then rest.dropWhile fun c => ['l', 'h', 'j', 't', 'z', 'L'].contains c else rest
  let known :=
    "bcsdiouxXeEfFgG".toList ++ if d = .program then ['q'] else []
  let text := String.ofList ('%' :: cs.take (cs.length - rest.length + 1))
  match rest with
  | [] =>
    (.invalid (if d = .shell then "missing format character" else text ++ ": invalid conversion specification"), [])
  | c :: rest =>
    if known.contains c then
      (.directive ⟨flags, width.getD 0, precision, c⟩ takesWidth takesPrecision, rest)
    else
      (.invalid (text ++ if d = .shell then ": invalid directive" else ": invalid conversion specification"), rest)

/-- The pieces of a format. -/
def pieces (d : Dialect) : Nat → List Char → List Piece
  | 0, _ => []
  | _, [] => []
  | fuel + 1, c :: cs =>
    if c = '\\' then
      match escape d cs with
      | (.bytes bs, rest) => .bytes bs :: pieces d fuel rest
      | (.stop, _) => [.stop]
    else if c = '%' then
      match cs with
      | '%' :: cs => .bytes [37] :: pieces d fuel cs
      | cs =>
        let (piece, rest) := directive d cs
        piece :: pieces d fuel rest
    else .bytes (charBytes [c]) :: pieces d fuel cs

/-! ## Arguments -/

/-- What a format has come to. -/
structure Result where
  output : ByteArray := .empty
  /-- What is wrong with arguments. -/
  complaints : List String := []
  /-- The output ends. -/
  stops : Bool := false
  /-- The format cannot go on. -/
  invalid : Option String := none
  args : List String

/-- What is wrong with an argument that is no number. -/
def complaint (d : Dialect) (arg : String) (isStart : Bool) : String :=
  match d, isStart with
  | .shell, true => arg ++ ": expected numeric value"
  | .shell, false => arg ++ ": not completely converted"
  | .program, true => "'" ++ arg ++ "': expected a numeric value"
  | .program, false => "'" ++ arg ++ "': value not completely converted"

/-- What is wrong with an argument that is too large a number. -/
def rangeComplaint (d : Dialect) (arg : String) : String :=
  (if d = .shell then arg else "'" ++ arg ++ "'") ++ ": Numerical result out of range"

/-- The code of the character behind a quote. -/
def quotedCode? (arg : String) : Option Int :=
  match arg.toList with
  | '\'' :: c :: _ => some ((charBytes [c]).headD 0).toNat
  | '"' :: c :: _ => some ((charBytes [c]).headD 0).toNat
  | _ => none

/-- An argument as a whole number, and what is wrong with it. -/
def wholeNumber (d : Dialect) (isSigned : Bool) (arg : String) : Int × List String :=
  match quotedCode? arg with
  | some n => (n, [])
  | none =>
    let isSpace (c : Char) : Bool := c = ' ' || (9 ≤ c.toNat && c.toNat ≤ 13)
    let cs := arg.toList.dropWhile isSpace
    let (isNegative, ds) : Bool × List Char :=
      match cs with
      | '-' :: ds => (true, ds)
      | '+' :: ds => (false, ds)
      | ds => (false, ds)
    if !(ds.head?.any Char.isDigit) then (0, if arg = "" && d = .shell then [] else [complaint d arg true])
    else
      let (n, rest) := Arithmetic.leadingNumber ds
      let value : Int := if isNegative then -n else n
      let kept :=
        if isSigned then Arithmetic.clamp value
        else if 0x10000000000000000 ≤ n then 0xffffffffffffffff
        else value
      (kept,
        if !rest.isEmpty then [complaint d arg false]
        else if kept ≠ value then [rangeComplaint d arg] else [])

/-- An argument as a number with a fraction, and what is wrong with it. -/
def realNumber (d : Dialect) (arg : String) : Real × List String :=
  match quotedCode? arg with
  | some n => (.ratio false n.natAbs 1, [])
  | none =>
    let cs := arg.toList
    let (x, rest) := leadingReal cs
    let x :=
      match x with
      | .ratio isNegative num den =>
        let (num, den) := roundBinary (if d = .shell then 53 else 64) num den
        Real.ratio isNegative num den
      | x => x
    (x,
      if rest.isEmpty && !(arg = "" && d = .program) then []
      else [complaint d arg (rest.length = cs.length)])

/-- A text in quotes, if it needs them. -/
def shellQuoted (s : String) : String :=
  let isSafe (c : Char) : Bool := c.isAlphanum || "%+,-./:=@_".toList.contains c
  if s = "" then "''"
  else if s.toList.all isSafe then s
  else if !s.toList.contains '\'' then "'" ++ s ++ "'"
  else if !s.toList.any fun c => c = '"' || c = '$' || c = '\\' || c = '!' || c.toNat = 96 then "\"" ++ s ++ "\""
  else "'" ++ s.replace "'" "'\\''" ++ "'"

/-- One more directive, with its argument. -/
def Result.writeDirective (r : Result) (dialect : Dialect) (d : Directive) : Result :=
  let arg := r.args.headD ""
  let isThere := !r.args.isEmpty
  let r := { r with args := r.args.drop 1 }
  let cut (bs : List UInt8) : List UInt8 :=
    match d.precision with
    | some n => bs.take n
    | none => bs
  let write (bs : List UInt8) (complaints : List String) : Result :=
    { r with output := appendBytes r.output bs, complaints := r.complaints ++ complaints }
  match d.conversion with
  | 's' => write (d.pad (cut (Utf8.bytes arg))) []
  | 'q' => write (d.pad (Utf8.bytes (shellQuoted arg))) []
  | 'b' =>
    let w := unescape dialect arg
    { write (d.pad (cut w.bytes.toList)) [] with stops := w.stops }
  | 'c' =>
    let bs := (Utf8.bytes arg).take 1
    write (d.pad (if bs.isEmpty && dialect = .shell then [0] else bs)) []
  | 'd' | 'i' | 'o' | 'u' | 'x' | 'X' =>
    let isSigned := d.conversion = 'd' || d.conversion = 'i'
    let (n, complaints) := if isThere then wholeNumber dialect isSigned arg else (0, [])
    write (d.writeNumber n) complaints
  | _ =>
    let (x, complaints) := if isThere then realNumber dialect arg else (.ratio false 0 1, [])
    write (d.writeReal x) complaints

/-- The greatest width and the greatest precision. -/
def greatestWidth : Nat := 0x400000

/-- Takes a width or a precision from the next argument. -/
def Result.takeNumber (r : Result) (dialect : Dialect) : Int × Result :=
  match r.args with
  | [] => (0, r)
  | arg :: rest =>
    let (n, complaints) := wholeNumber dialect true arg
    (n, { r with args := rest, complaints := r.complaints ++ complaints })

/-- One more piece of a format. -/
def Result.add (dialect : Dialect) (r : Result) (p : Piece) : Result :=
  if r.stops || r.invalid.isSome then r
  else
    match p with
    | .bytes bs => { r with output := appendBytes r.output bs }
    | .stop => { r with stops := true }
    | .invalid text => { r with invalid := some text }
    | .directive d takesWidth takesPrecision =>
      let (width, r) := if takesWidth then r.takeNumber dialect else ((d.width : Int), r)
      let flags := if width < 0 then '-' :: d.flags else d.flags
      let (precision, r) : Option Nat × Result :=
        if takesPrecision then
          let (n, r) := r.takeNumber dialect
          (if n < 0 then none else some n.toNat, r)
        else (d.precision, r)
      r.writeDirective dialect
        { d with
          flags := flags
          width := min width.natAbs greatestWidth
          precision := precision.map (min greatestWidth) }

/-- A piece takes arguments. -/
def Piece.takesArguments : Piece → Bool
  | .directive .. => true
  | _ => false

/-- A format is used again as long as some arguments are left. -/
def repeated (dialect : Dialect) (ps : List Piece) : Nat → Result → Result
  | 0, r => r
  | fuel + 1, r =>
    let r := ps.foldl (Result.add dialect) r
    if r.stops || r.invalid.isSome || r.args.isEmpty then r else repeated dialect ps fuel r

/-- What a format with arguments comes to. A format that takes none is used once. -/
def run (dialect : Dialect) (format : String) (args : List String) : Result :=
  let ps := pieces dialect (format.length + 1) format.toList
  repeated dialect ps (if ps.any Piece.takesArguments then args.length + 1 else 1) { args := args }

/-! ## Arguments between blanks -/

/-- The output of the shell's `echo`. -/
def echoInShell (args : List String) : ByteArray :=
  match args with
  | "-n" :: args => written false args
  | args => written true args
where
  /-- Arguments with escapes, with a line end if one is wanted. -/
  written (endsLine : Bool) (args : List String) : ByteArray :=
    let w := unescape .shell (" ".intercalate args)
    if endsLine && !w.stops then w.bytes.push 10 else w.bytes

/-- The options of the program `echo`: letters of its own only. -/
def isEchoOption (s : String) : Bool :=
  match s.toList with
  | '-' :: c :: cs => (c :: cs).all fun c => c = 'n' || c = 'e' || c = 'E'
  | _ => false

/-- The output of the program `echo`. -/
def echo (args : List String) : ByteArray :=
  let options := (args.takeWhile isEchoOption).flatMap fun s => s.toList.drop 1
  let text := " ".intercalate (args.dropWhile isEchoOption)
  let reads := (options.filter fun c => c ≠ 'n').getLast? = some 'e'
  let w : Written := if reads then unescape .program text else ⟨text.toUTF8, false⟩
  if options.contains 'n' || w.stops then w.bytes else w.bytes.push 10

end Autoformat.Rehearsal.Shell.Format
