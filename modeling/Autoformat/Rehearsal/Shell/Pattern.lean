import Autoformat.Rehearsal.Tree

/-!
# Patterns of texts and file names

A pattern has characters that stand for others: `*` for any text, `?` for any character and `[...]` for
one of a set. `Pattern.accepts` decides about a text. A word of a script that is a pattern stands for the
paths that match it, in the order of their bytes; a word that matches nothing stands for itself.
-/

namespace Autoformat.Rehearsal.Shell

/-- The characters of a word, each with whether it is quoted and so stands for itself. -/
abbrev Pattern := List (Char × Bool)

/-- Classes of characters that have names. -/
def classTest? (name : String) : Option (Char → Bool) :=
  match name with
  | "alpha" => some Char.isAlpha
  | "digit" => some Char.isDigit
  | "alnum" => some Char.isAlphanum
  | "upper" => some Char.isUpper
  | "lower" => some Char.isLower
  | "space" => some fun c => c = ' ' || (9 ≤ c.toNat && c.toNat ≤ 13)
  | "blank" => some fun c => c = ' ' || c = '\t'
  | "punct" => some fun c => 32 < c.toNat && c.toNat < 127 && !c.isAlphanum
  | "print" => some fun c => 32 ≤ c.toNat && c.toNat < 127
  | "graph" => some fun c => 32 < c.toNat && c.toNat < 127
  | "cntrl" => some fun c => c.toNat < 32 || c.toNat = 127
  | "xdigit" => some fun c => c.isDigit || ('a' ≤ c.toLower && c.toLower ≤ 'f')
  | _ => none

namespace Pattern

/-- A set of characters. -/
structure CharSet where
  isNegated : Bool
  members : List (Char → Bool)

/-- The character belongs to the set. -/
def CharSet.has (s : CharSet) (c : Char) : Bool := (s.members.any fun test => test c) != s.isNegated

/-- What one piece of a pattern stands for. -/
inductive Item where
  | char (c : Char)
  | any
  | many
  | oneOf (s : CharSet)

/-- The name of a class that begins here, and what follows it. -/
def className? (p : Pattern) : Option (String × Pattern) :=
  match p with
  | ('[', false) :: (':', false) :: rest =>
    let name := rest.takeWhile fun x => x.1.isAlpha
    match rest.drop name.length with
    | (':', _) :: (']', _) :: rest => some (String.ofList (name.map Prod.fst), rest)
    | _ => none
  | _ => none

/-- The members of a set up to its closing bracket, and what follows it. A bracket at the start is a
member. -/
def members (isFirst : Bool) : Nat → Pattern → Option (List (Char → Bool) × Pattern)
  | 0, _ => none
  | _, [] => none
  | fuel + 1, (c, isQuoted) :: rest =>
    if c = ']' && !isQuoted && !isFirst then some ([], rest)
    else
      match className? ((c, isQuoted) :: rest) with
      | some (name, rest) =>
        (members false fuel rest).map fun (tests, rest) =>
          ((classTest? name).getD (fun _ => false) :: tests, rest)
      | none =>
        match rest with
        | ('-', false) :: (d, isQuoted) :: rest' =>
          if d = ']' && !isQuoted then
            (members false fuel rest).map fun (tests, rest) => ((fun x => x = c) :: tests, rest)
          else
            (members false fuel rest').map fun (tests, rest) =>
              ((fun x => c ≤ x && x ≤ d) :: tests, rest)
        | rest => (members false fuel rest).map fun (tests, rest) => ((fun x => x = c) :: tests, rest)

/-- The set after an opening bracket, and what follows it. -/
def charSet? (p : Pattern) : Option (CharSet × Pattern) :=
  let (isNegated, p) : Bool × Pattern :=
    match p with
    | ('!', false) :: rest => (true, rest)
    | ('^', false) :: rest => (true, rest)
    | p => (false, p)
  (members true (p.length + 1) p).map fun (tests, rest) => (⟨isNegated, tests⟩, rest)

/-- The pieces of a pattern. -/
def items : Nat → Pattern → List Item
  | 0, _ => []
  | _, [] => []
  | fuel + 1, (c, isQuoted) :: rest =>
    if isQuoted then .char c :: items fuel rest
    else if c = '*' then .many :: items fuel rest
    else if c = '?' then .any :: items fuel rest
    else if c = '[' then
      match charSet? rest with
      | some (s, rest) => .oneOf s :: items fuel rest
      | none => .char c :: items fuel rest
    else .char c :: items fuel rest

/-- What may be left of pieces before the next character. -/
def starts : List Item → List (List Item)
  | .many :: rest => (.many :: rest) :: starts rest
  | is => [is]

/-- What may be left of pieces after a character. -/
def advance (c : Char) : List Item → List (List Item)
  | [] => []
  | .char d :: rest => if c = d then starts rest else []
  | .any :: rest => starts rest
  | .oneOf s :: rest => if s.has c then starts rest else []
  | .many :: rest => starts (.many :: rest)

/-- How many characters at the start of a text match pieces: all the numbers, the greatest first. -/
def matchLengths (is : List Item) (cs : List Char) : List Nat :=
  let note (left : List (List Item)) (n : Nat) (found : List Nat) : List Nat :=
    if left.any List.isEmpty then n :: found else found
  let (left, n, found) := cs.foldl
    (fun ((left : List (List Item)), (n : Nat), (found : List Nat)) c =>
      ((left.flatMap (advance c)).eraseDupsBy (fun a b => a.length = b.length), n + 1, note left n found))
    (starts is, 0, [])
  note left n found

/-- A text matches a pattern. -/
def accepts (p : Pattern) (cs : List Char) : Bool :=
  (matchLengths (items (p.length + 1) p) cs).head? = some cs.length

/-- A pattern without quotes. -/
def ofString (s : String) : Pattern := s.toList.map (·, false)

/-- The characters of a pattern. -/
def text (p : Pattern) : String := String.ofList (p.map Prod.fst)

/-- The pattern has something in it that stands for other characters. -/
def isOpen (p : Pattern) : Bool :=
  (items (p.length + 1) p).any fun
    | .char _ => false
    | _ => true

/-- The shortest start that pieces match, or the longest. -/
def startLength? (is : List Item) (longest : Bool) (cs : List Char) : Option Nat :=
  let found := matchLengths is cs
  if longest then found.head? else found.getLast?

/-- A text without the start that a pattern matches: the shortest one, or the longest. -/
def withoutStart (p : Pattern) (longest : Bool) (s : String) : String :=
  match startLength? (items (p.length + 1) p) longest s.toList with
  | some n => String.ofList (s.toList.drop n)
  | none => s

/-- A text without the end that a pattern matches: the shortest one, or the longest. -/
def withoutEnd (p : Pattern) (longest : Bool) (s : String) : String :=
  let cs := s.toList.reverse
  match startLength? (items (p.length + 1) p).reverse longest cs with
  | some n => String.ofList (cs.drop n).reverse
  | none => s

/-- A name is meant by a pattern; names with a dot in front are meant only by patterns with one. -/
def isMeant (p : Pattern) (name : String) : Bool :=
  let cs := name.toList
  (cs.head? ≠ some '.' || (p.head?.map Prod.fst) = some '.') && accepts p cs

/-- The parts of a pattern between slashes. -/
def parts (p : Pattern) : List Pattern :=
  p.foldr
    (fun (c, isQuoted) acc =>
      match acc with
      | part :: parts => if c = '/' then [] :: part :: parts else ((c, isQuoted) :: part) :: parts
      | [] => [])
    [[]]

/-- The names at a place that match a part. -/
def namesFor (t : Tree) (here : Place) (part : Pattern) : List String :=
  match t.found here with
  | .directory =>
    if part.isOpen then ("." :: ".." :: t.namesIn here).filter part.isMeant
    else
      match t.found (Tree.step here part.text) with
      | .nothing => []
      | _ => [part.text]
  | _ => []

/-- The paths from some place that match the parts of a pattern; `written` is how the place is written in
front of them. -/
def pathsFrom (t : Tree) (written : String) (here : Place) : List Pattern → List String
  | [] => []
  | [part] => (namesFor t here part).map (written ++ ·)
  | part :: rest =>
    (namesFor t here part).flatMap fun name =>
      pathsFrom t (written ++ name ++ "/") (Tree.step here name) rest

/-- The words that a pattern stands for. -/
def expand (t : Tree) (here : Place) (p : Pattern) : List String :=
  if p.isOpen then
    let top := (t.top.toList.map (·, true)) ++ [('/', true)]
    let isTop := (p.take top.length).map Prod.fst = top.map Prod.fst
    let paths :=
      if isTop then pathsFrom t (t.top ++ "/") (.inside []) (parts (p.drop top.length))
      else if (p.head?.map Prod.fst) = some '/' then pathsFrom t "/" (.outside []) (parts (p.drop 1))
      else pathsFrom t "" here (parts p)
    if paths.isEmpty then [p.text] else paths.mergeSort fun a b => decide (¬Utf8.Before b a)
  else [p.text]

end Pattern

end Autoformat.Rehearsal.Shell
