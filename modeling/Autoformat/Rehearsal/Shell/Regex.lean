import Autoformat.Rehearsal.Shell.Pattern
import Autoformat.Text.Search

/-!
# Regular expressions

`Regex.parse` reads an expression in its basic or its extended form, and `Regex.search` finds the first
place where it matches a text, with the longest match there and the groups of it. A search gives up after
so many steps. Strict forms refuse counts that have nothing to count; others pass over them.
-/

namespace Autoformat.Rehearsal.Shell

/-- A regular expression. -/
inductive Regex where
  | nothing
  | char (c : Char)
  /-- Any character. -/
  | any
  /-- A character that passes one of the tests, or none of them. -/
  | oneOf (s : Pattern.CharSet)
  /-- The start of the text, or of a line of it where lines count. -/
  | start (ofLine : Bool)
  /-- The end of the text, or of a line of it where lines count. -/
  | finish (ofLine : Bool)
  | wordStart
  | wordEnd
  /-- A place where a word begins or ends, or none such. -/
  | wordEdge (isEdge : Bool)
  | group (n : Nat) (r : Regex)
  | both (a b : Regex)
  | either (a b : Regex)
  | many (r : Regex) (least : Nat) (most : Option Nat)
  /-- What a group has matched. -/
  | again (n : Nat)

namespace Regex

/-! ## Reading -/

/-- How expressions are written. -/
structure Form where
  /-- Operators need no backslash. -/
  isExtended : Bool
  /-- Counts that have nothing to count are mistakes. -/
  isStrict : Bool := true

/-- What is wrong with an expression. -/
inductive Fault where
  | text (s : String)
  /-- A class of characters stands outside of a set. -/
  | classOutside

/-- The wording of a fault. -/
def Fault.message : Fault → String
  | .text s => s
  | .classOutside => "character class syntax is [[:space:]], not [:space:]"

/-- A reader of an expression. -/
structure Parser where
  rest : List Char
  /-- The groups so far. -/
  groups : Nat := 0
  /-- The groups that are open. -/
  depth : Nat := 0
  /-- The groups that are closed. -/
  closed : List Nat := []
  /-- Counts that had nothing to count. -/
  warnings : List String := []

/-- A part of the reader. -/
abbrev Reading (α : Type) := StateT Parser (Except Fault) α

/-- Takes characters when they come next. -/
def takes (cs : List Char) : Reading Bool := do
  let p ← get
  if cs.isPrefixOf p.rest then
    set { p with rest := p.rest.drop cs.length }
    return true
  else return false

/-- An operator as the form of the expression writes it. -/
def spelled (isExtended : Bool) (c : Char) : List Char := if isExtended then [c] else ['\\', c]

/-- Letters, digits and the underscore. -/
def isWordChar (c : Char) : Bool := c.isAlphanum || c = '_'

/-- Blanks of all kinds. -/
def isSpaceChar (c : Char) : Bool := c = ' ' || (9 ≤ c.toNat && c.toNat ≤ 13)

/-- A class of characters that a letter after a backslash stands for. -/
def shortClass? (c : Char) : Option Pattern.CharSet :=
  match c with
  | 'w' => some ⟨false, [isWordChar]⟩
  | 'W' => some ⟨true, [isWordChar]⟩
  | 's' => some ⟨false, [isSpaceChar]⟩
  | 'S' => some ⟨true, [isSpaceChar]⟩
  | _ => none

/-- A set is not closed. -/
def openSet : Fault := .text "Unmatched [, [^, [:, [., or [="

/-- Members of a set in brackets, up to the closing one. -/
def members (isFirst : Bool) : Nat → List Char → Except Fault (List (Char → Bool) × List Char)
  | 0, _ => .error openSet
  | _, [] => .error (if isFirst then .text "Invalid regular expression" else openSet)
  | fuel + 1, c :: cs =>
    if c = ']' && !isFirst then .ok ([], cs)
    else
      match c, cs with
      | '[', ':' :: rest =>
        let name := rest.takeWhile (· ≠ ':')
        match classTest? (String.ofList name), rest.drop name.length with
        | some test, ':' :: ']' :: rest => do
          let (tests, rest) ← members false fuel rest
          return (test :: tests, rest)
        | none, ':' :: ']' :: _ => .error (.text "Invalid character class name")
        | _, _ => .error openSet
      | '[', mark :: d :: mark' :: ']' :: rest =>
        if (mark = '=' || mark = '.') && mark = mark' then do
          let (tests, rest) ← members false fuel rest
          return ((fun x => x = d) :: tests, rest)
        else single c cs fuel
      | c, cs => single c cs fuel
where
  /-- A character, or a range that it begins. -/
  single (c : Char) (cs : List Char) (fuel : Nat) : Except Fault (List (Char → Bool) × List Char) :=
    match cs with
    | '-' :: d :: rest =>
      if d = ']' then do
        let (tests, rest) ← members false fuel cs
        return ((fun x => x = c) :: tests, rest)
      else if d < c then .error (.text "Invalid range end")
      else do
        let (tests, rest) ← members false fuel rest
        return ((fun x => c ≤ x && x ≤ d) :: tests, rest)
    | cs => do
      let (tests, rest) ← members false fuel cs
      return ((fun x => x = c) :: tests, rest)

/-- The set is a class of characters that stands alone. -/
def isClassOutside (cs : List Char) : Bool :=
  match cs with
  | ':' :: cs =>
    let name := cs.takeWhile fun c => c ≠ ':' && c ≠ ']'
    !name.isEmpty && [':', ']'].isPrefixOf (cs.drop name.length)
  | _ => false

/-- The set after an opening bracket. -/
def readSet : Reading Regex := do
  let p ← get
  if isClassOutside p.rest then throw .classOutside
  let (isNegated, rest) : Bool × List Char :=
    match p.rest with
    | '^' :: rest => (true, rest)
    | rest => (false, rest)
  match members true (rest.length + 1) rest with
  | .error e => throw e
  | .ok (tests, rest) =>
    set { p with rest := rest }
    return .oneOf ⟨isNegated, tests⟩

/-- The text up to a comma or to the end of bounds, and what follows it. -/
def untilMark (close : List Char) : List Char → List Char × List Char
  | [] => ([], [])
  | c :: cs =>
    if c = ',' || close.isPrefixOf (c :: cs) then ([], c :: cs)
    else
      let (before, rest) := untilMark close cs
      (c :: before, rest)

/-- Bounds, or what is wrong with them. Bounds that are none may stand for themselves. -/
inductive Bounds where
  | found (least : Nat) (most : Option Nat) (rest : List Char)
  | invalid (e : Fault)
  | none (e : Fault)

/-- How often, after an opening brace. -/
def boundsOf (close cs : List Char) : Bounds :=
  let (a, rest) := untilMark close cs
  let number (ds : List Char) : Option Nat := if ds.all Char.isDigit then (String.ofList ds).toNat? else none
  let unclosed := Fault.text "Unmatched \\\x7b"
  let wrong := Fault.text "Invalid content of \\\x7b\\\x7d"
  let finish (least : Nat) (most : Option Nat) (rest : List Char) : Bounds :=
    if rest.isEmpty then .none unclosed
    else if !close.isPrefixOf rest || most.any (· < least) then .invalid wrong
    else if 32767 < max least (most.getD 0) then .invalid (.text "Regular expression too big")
    else .found least most (rest.drop close.length)
  if a ≠ [] && (number a).isNone then .none (if rest.isEmpty then unclosed else wrong)
  else
    match rest with
    | ',' :: rest =>
      let (b, rest) := untilMark close rest
      if b = [] then finish ((number a).getD 0) none rest
      else
        match number b with
        | some n => finish ((number a).getD 0) (some n) rest
        | none => .none (if rest.isEmpty then unclosed else wrong)
    | rest =>
      match number a with
      | some n => if a = [] then .none (if rest.isEmpty then unclosed else wrong) else finish n (some n) rest
      | none => .none (if rest.isEmpty then unclosed else wrong)

/-- A count has nothing to count. -/
def badPlace : Fault := .text "Invalid preceding regular expression"

/-- Counts after an expression; strict basic expressions have no second one. -/
def readCounts (f : Form) (isSecond : Bool) (r : Regex) : Nat → Reading Regex
  | 0 => return r
  | fuel + 1 => do
    let isExtended := f.isExtended
    let refusesSecond := isSecond && f.isStrict && !isExtended
    if ← takes ['*'] then
      if refusesSecond then throw badPlace
      readCounts f true (.many r 0 none) fuel
    else if ← takes (spelled isExtended '+') then readCounts f true (.many r 1 none) fuel
    else if ← takes (spelled isExtended '?') then readCounts f true (.many r 0 (some 1)) fuel
    else
      let p ← get
      let isBrace := (spelled isExtended '\x7b').isPrefixOf p.rest
      if !isBrace then return r
      else if refusesSecond then throw badPlace
      else
        let after := p.rest.drop (spelled isExtended '\x7b').length
        match boundsOf (spelled isExtended '\x7d') after with
        | .found least most rest =>
          set { p with rest := rest }
          readCounts f true (.many r least most) fuel
        | .invalid e => throw e
        | .none e => if isExtended && !f.isStrict then return r else throw e

/-- The expression after a backslash that is no operator. -/
def readEscape : Reading Regex := do
  let p ← get
  match p.rest with
  | [] => throw (.text "Trailing backslash")
  | c :: rest =>
    set { p with rest := rest }
    match shortClass? c with
    | some s => return .oneOf s
    | none =>
      match c with
      | '<' => return .wordStart
      | '>' => return .wordEnd
      | 'b' => return .wordEdge true
      | 'B' => return .wordEdge false
      | '\'' => return .finish false
      | c =>
        if c.toNat = 96 then return .start false
        else if c.isDigit && c ≠ '0' then
          let n := c.toNat - '0'.toNat
          if p.closed.contains n then return .again n else throw (.text "Invalid back reference")
        else return .char c

/-- The branch ends here. -/
def endsBranch (f : Form) (p : Parser) : Bool :=
  p.rest.isEmpty || (spelled f.isExtended '|').isPrefixOf p.rest ||
    ((spelled f.isExtended ')').isPrefixOf p.rest && (p.depth ≠ 0 || !f.isExtended || f.isStrict))

/-- A count stands where nothing can be counted. Basic expressions take some of them for characters. -/
def readLooseCounts (f : Form) : Reading Unit := do
  let p ← get
  match p.rest with
  | c :: rest =>
    if f.isExtended && ['*', '+', '?'].contains c then
      if f.isStrict then throw badPlace
      set { p with rest := rest, warnings := s!"{c} at start of expression" :: p.warnings }
      let _ ← readCounts f true .nothing (rest.length + 1)
    else if (spelled f.isExtended '\x7b').isPrefixOf p.rest && f.isStrict then throw badPlace
    else if f.isExtended && c = '\x7b' then
      match boundsOf ['\x7d'] rest with
      | .found _ _ rest =>
        set { p with rest := rest, warnings := "\x7b...\x7d at start of expression" :: p.warnings }
        let _ ← readCounts f true .nothing (rest.length + 1)
      | .invalid e => throw e
      | .none _ => pure ()
  | [] => pure ()

mutual

/-- Branches, one of which has to match. -/
def readBranches (f : Form) : Nat → Reading Regex
  | 0 => return .nothing
  | fuel + 1 => do
    readLooseCounts f
    let a ← readBranch f true fuel
    if ← takes (spelled f.isExtended '|') then return .either a (← readBranches f fuel)
    else return a

/-- Expressions in a row. -/
def readBranch (f : Form) (isFirst : Bool) : Nat → Reading Regex
  | 0 => return .nothing
  | fuel + 1 => do
    if endsBranch f (← get) then return .nothing
    else
      let r ← readSingle f isFirst fuel
      let isAnchor : Bool :=
        match r with
        | .start _ => true
        | _ => false
      let before := (← get).rest.length
      if isAnchor then readLooseCounts f
      let isCounted := (← get).rest.length < before
      let r ← if isAnchor then pure (if isCounted then .nothing else r) else readCounts f false r fuel
      let rest ← readBranch f (isFirst && isAnchor && !f.isExtended) fuel
      match rest with
      | .nothing => return r
      | rest => return .both r rest

/-- An expression without counts. -/
def readSingle (f : Form) (isFirst : Bool) : Nat → Reading Regex
  | 0 => return .nothing
  | fuel + 1 => do
    if ← takes (spelled f.isExtended '(') then
      let n := (← get).groups + 1
      modify fun p => { p with groups := n, depth := p.depth + 1 }
      let r ← readBranches f fuel
      if !(← takes (spelled f.isExtended ')')) then throw (.text "Unmatched ( or \\(")
      modify fun p => { p with depth := p.depth - 1, closed := n :: p.closed }
      return .group n r
    else
      let p ← get
      match p.rest with
      | [] => return .nothing
      | c :: rest =>
        set { p with rest := rest }
        let ends := endsBranch f { p with rest := rest }
        match c with
        | '\\' => readEscape
        | '.' => return .any
        | '[' => readSet
        | '^' => return if f.isExtended || isFirst then .start true else .char c
        | '$' => return if f.isExtended || ends then .finish true else .char c
        | c => return .char c

end

/-- An expression with the number of its groups, and what is to be said about it. -/
structure Parsed where
  regex : Regex
  groups : Nat
  warnings : List String

/-- Reads a regular expression. -/
def parse (f : Form) (s : List Char) : Except Fault Parsed :=
  match (readBranches f (4 * s.length + 8)).run { rest := s } with
  | .error e => .error e
  | .ok (r, p) =>
    if p.rest.isEmpty then .ok ⟨r, p.groups, p.warnings.reverse⟩ else .error (.text "Unmatched ) or \\)")

/-- The expression of characters that stand for themselves. -/
def ofChars (s : List Char) : Regex := s.foldr (fun c r => .both (.char c) r) .nothing

/-! ## Searching -/

/-- The ends of a part of a text. -/
abbrev Span := Nat × Nat

/-- A match: where it ends, and what its groups have matched. -/
structure Match where
  finish : Nat
  groups : List (Nat × Span) := []

/-- What a search looks at. -/
structure Subject where
  text : Array Char
  ignoresCase : Bool := false
  /-- The lines of the text have starts and ends of their own. -/
  hasLines : Bool := false

/-- A part of a search, with the steps that are left. -/
abbrev Search := StateM Nat

/-- The longer of two matches. -/
def longer (a b : Option Match) : Option Match :=
  match a, b with
  | some a, some b => if a.finish < b.finish then some b else some a
  | some a, none => some a
  | none, b => b

/-- Two characters are the same to a search. -/
def Subject.same (t : Subject) (c d : Char) : Bool :=
  c = d || (t.ignoresCase && c.toLower = d.toLower)

/-- A character of the text passes a test. -/
def Subject.passes (t : Subject) (i : Nat) (test : Char → Bool) : Bool :=
  match t.text[i]? with
  | none => false
  | some c => test c || (t.ignoresCase && (test c.toLower || test c.toUpper))

/-- A word stands before, or at, a place. -/
def Subject.isWordAt (t : Subject) (i : Nat) : Bool := t.passes i isWordChar

/-- A word stands before a place. -/
def Subject.isWordBefore (t : Subject) (i : Nat) : Bool := i ≠ 0 && t.passes (i - 1) isWordChar

/-- The test of an expression for one character. -/
def test? (t : Subject) : Regex → Option (Char → Bool)
  | .char c => some (t.same c)
  | .any => some fun _ => true
  | .oneOf s => some fun c =>
    if t.ignoresCase then (s.members.any fun test => test c.toLower || test c.toUpper) != s.isNegated
    else s.has c
  | _ => none

/-- How many characters in a row pass a test, at most so many. -/
def runLength (text : Array Char) (test : Char → Bool) (i : Nat) : Nat → Nat
  | 0 => 0
  | most + 1 =>
    match text[i]? with
    | some c => if test c then runLength text test (i + 1) most + 1 else 0
    | none => 0

/-- The first of the given counts, from the greatest down to the least, with the longest match. -/
def tryCounts (size least : Nat) (k : Nat → Search (Option Match)) :
    Nat → Option Match → Search (Option Match)
  | 0, best => do return longer best (← if least = 0 then k 0 else pure none)
  | n + 1, best => do
    if n + 1 < least then return best
    else
      let best := longer best (← k (n + 1))
      if best.any fun m => m.finish = size then return best
      else tryCounts size least k n best

/-- The longest match of an expression at a place, with what has to follow it. -/
def matchAt (t : Subject) (r : Regex) (i : Nat) (groups : List (Nat × Span))
    (k : Nat → List (Nat × Span) → Search (Option Match)) : Nat → Search (Option Match)
  | 0 => return none
  | fuel + 1 => do
    let steps ← get
    if steps = 0 then return none
    set (steps - 1)
    let when (b : Bool) : Search (Option Match) := if b then k i groups else return none
    match r with
    | .nothing => k i groups
    | .char c => if t.text[i]?.any (t.same c) then k (i + 1) groups else return none
    | .any => if i < t.text.size then k (i + 1) groups else return none
    | .oneOf s =>
      match t.text[i]?, test? t (.oneOf s) with
      | some c, some test => if test c then k (i + 1) groups else return none
      | _, _ => return none
    | .start ofLine => when (i = 0 || (ofLine && t.hasLines && t.text[i - 1]? = some '\n'))
    | .finish ofLine => when (i = t.text.size || (ofLine && t.hasLines && t.text[i]? = some '\n'))
    | .wordStart => when (t.isWordAt i && !t.isWordBefore i)
    | .wordEnd => when (t.isWordBefore i && !t.isWordAt i)
    | .wordEdge isEdge => when ((t.isWordAt i != t.isWordBefore i) = isEdge)
    | .group n r => matchAt t r i groups (fun j groups => k j ((n, (i, j)) :: groups)) fuel
    | .both a b => matchAt t a i groups (fun j groups => matchAt t b j groups k fuel) fuel
    | .either a b =>
      let first ← matchAt t a i groups k fuel
      if first.any fun m => m.finish = t.text.size then return first
      else return longer first (← matchAt t b i groups k fuel)
    | .again n =>
      match groups.lookup n with
      | none => return none
      | some (a, b) =>
        let isSame := (List.range (b - a)).all fun x =>
          match t.text[a + x]?, t.text[i + x]? with
          | some c, some d => t.same c d
          | _, _ => false
        if isSame then k (i + (b - a)) groups else return none
    | .many r least most =>
      match test? t r with
      | some test =>
        let run := runLength t.text test i (most.getD t.text.size)
        tryCounts t.text.size least (fun n => k (i + n) groups) run none
      | none =>
        let more : Search (Option Match) :=
          if most = some 0 then return none
          else
            matchAt t r i groups
              (fun j groups =>
                if j = i && least = 0 then return none
                else matchAt t (.many r (least - 1) (most.map (· - 1))) j groups k fuel)
              fuel
        let first ← more
        if least ≠ 0 || first.any fun m => m.finish = t.text.size then return first
        else return longer first (← k i groups)

/-- The steps that a search may take. -/
def stepLimit : Nat := 3000000

/-- The longest match at a place. -/
def longestAt (t : Subject) (r : Regex) (i : Nat) : Search (Option Match) :=
  matchAt t r i [] (fun j groups => return some ⟨j, groups⟩) 20000

/-- The first match at or after a place: where it begins, and the match. -/
def searchFrom (t : Subject) (r : Regex) (i : Nat) : Nat → Search (Option (Nat × Match))
  | 0 => return none
  | n + 1 => do
    match ← longestAt t r i with
    | some m => return some (i, m)
    | none => searchFrom t r (i + 1) n

/-- The first match at or after a place. -/
def search (t : Subject) (r : Regex) (i : Nat) : Option (Nat × Match) :=
  ((searchFrom t r i (t.text.size + 1 - i)).run stepLimit).1

/-- All matches that do not overlap, from left to right. -/
def searchAll (t : Subject) (r : Regex) (i : Nat) : Nat → List (Nat × Match)
  | 0 => []
  | n + 1 =>
    if t.text.size < i then []
    else
      match search t r i with
      | none => []
      | some (first, m) =>
        let next := if m.finish = first then first + 1 else m.finish
        (first, m) :: searchAll t r next n

end Regex

end Autoformat.Rehearsal.Shell
