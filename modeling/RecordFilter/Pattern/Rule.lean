/-
# What patterns match

A rule says which texts match: some characters, one character of a set, a condition on the place
between two characters, and rules in a row, as alternatives, or repeated.  Rules are made in a
normal form, which `ofSet`, `repeatRule`, `inRow` and `either` keep: characters that follow each
other stand together, rows and alternatives do not nest, alternatives of one character each are a
set, and what alternatives have in common at the front stands before them.  The normal form does
not change what matches; it decides how large the machine of a rule is.
-/
import RecordFilter.Pattern.Tree
import RecordFilter.Unicode.CodeSet

namespace RecordFilter

namespace Pattern

open Unicode (CodeSet)

/-! ## 1. Conditions on places -/

/-- Conditions on a place, by the characters before and after it. -/
inductive Look where
  | textStart
  | textEnd
  | lineStart (crlf : Bool)
  | lineEnd (crlf : Bool)
  | boundary (words : CodeSet) (place : Anchor)
deriving DecidableEq

/-- Does a condition hold between two characters, where there are any? -/
def Look.holds (l : Look) (before after : Option Char) : Bool :=
  match l with
  | .textStart => before.isNone
  | .textEnd => after.isNone
  | .lineStart false => before.isNone || before == some '\n'
  | .lineEnd false => after.isNone || after == some '\n'
  | .lineStart true =>
    before.isNone || before == some '\n' || (before == some '\r' && after != some '\n')
  | .lineEnd true =>
    after.isNone || after == some '\r' || (after == some '\n' && before != some '\r')
  | .boundary words place =>
    let left := before.any words.contains
    let right := after.any words.contains
    match place with
    | .wordBoundary => left != right
    | .notWordBoundary => left == right
    | .wordStart => !left && right
    | .wordEnd => left && !right
    | .wordStartHalf => !left
    | .wordEndHalf => !right
    | _ => false

/-! ## 2. Rules -/

/-- What matches. -/
inductive Rule where
  | nothing
  | literal (cs : List Char)
  | one (set : CodeSet)
  | look (l : Look)
  | repeated (least : Nat) (most : Option Nat) (greedy : Bool) (r : Rule)
  | captured (r : Rule)
  | row (rs : List Rule)
  | alternatives (rs : List Rule)

namespace Rule

/-- The rule that nothing matches. -/
def never : Rule := one .empty

mutual

/-- Is a rule the same as another?  Two captures are different, since each has a number. -/
def same : Rule → Rule → Bool
  | nothing, nothing => true
  | literal a, literal b => a == b
  | one a, one b => a == b
  | look a, look b => a == b
  | repeated least most greedy a, repeated least' most' greedy' b =>
    least == least' && most == most' && greedy == greedy' && same a b
  | row as, row bs => sameAll as bs
  | alternatives as, alternatives bs => sameAll as bs
  | _, _ => false

/-- Are rules the same as others, one by one? -/
def sameAll : List Rule → List Rule → Bool
  | [], [] => true
  | a :: as, b :: bs => same a b && sameAll as bs
  | _, _ => false

end

/-! ## 3. How much text a rule takes -/

mutual

/-- Can a rule match the empty text alone? -/
def takesNothing : Rule → Bool
  | nothing => true
  | literal _ => false
  | one _ => false
  | look _ => true
  | repeated _ most _ r => most.isSome && takesNothing r
  | captured r => takesNothing r
  | row rs => allTakeNothing rs
  | alternatives rs => allTakeNothing rs

/-- Can some rules match the empty text alone? -/
def allTakeNothing : List Rule → Bool
  | [] => true
  | r :: rest => takesNothing r && allTakeNothing rest

end

mutual

/-- The least number of characters that a rule takes; none when some part of it cannot match. -/
def leastTaken : Rule → Option Nat
  | nothing => some 0
  | literal cs => some cs.length
  | one s => if s.changes.isEmpty then none else some 1
  | look _ => some 0
  | repeated least _ _ r => (leastTaken r).map (least * ·)
  | captured r => leastTaken r
  | row rs => (leastTakenEach rs).map List.sum
  | alternatives rs => (leastTakenEach rs).bind List.min?

/-- The least numbers of characters that some rules take, when each of them can match. -/
def leastTakenEach : List Rule → Option (List Nat)
  | [] => some []
  | r :: rest => do
    let n ← leastTaken r
    let ns ← leastTakenEach rest
    some (n :: ns)

end

mutual

/-- Does every match of a rule begin at the start of the text, or, for `backward`, end at its
end? -/
def isAnchored (backward : Bool) : Rule → Bool
  | look l => l == if backward then .textEnd else .textStart
  | repeated least _ _ r => least != 0 && isAnchored backward r
  | captured r => isAnchored backward r
  | row rs => if backward then isAnchoredLast rs else isAnchoredFirst rs
  | alternatives rs => areAnchored backward rs
  | _ => false

/-- Is a row anchored by its first rules, of which all but the last take nothing? -/
def isAnchoredFirst : List Rule → Bool
  | [] => false
  | r :: rest => isAnchored false r || (takesNothing r && isAnchoredFirst rest)

/-- Is a row anchored by its last rules, of which all but the first take nothing? -/
def isAnchoredLast : List Rule → Bool
  | [] => false
  | r :: rest => isAnchoredLast rest || (allTakeNothing rest && isAnchored true r)

/-- Are all rules anchored? -/
def areAnchored (backward : Bool) : List Rule → Bool
  | [] => true
  | r :: rest => isAnchored backward r && areAnchored backward rest

end

/-! ## 4. The normal form -/

/-- The code points that are no characters. -/
def surrogates : CodeSet := .range 0xD800 0xDFFF

/-- One character of a set. -/
def ofSet (s : CodeSet) : Rule :=
  match (s.difference surrogates).changes with
  | [first, next] =>
    if next = first + 1 then literal [Char.ofNat first] else one ⟨[first, next]⟩
  | changes => one ⟨changes⟩

/-- Rounds of a rule.  Rounds that take nothing count once at most. -/
def repeatRule (least : Nat) (most : Option Nat) (greedy : Bool) (r : Rule) : Rule :=
  let (least, most) :=
    if r.takesNothing then (min least 1, some (min (most.getD 1) 1)) else (least, most)
  if most = some 0 then nothing
  else if least = 1 && most = some 1 then r
  else repeated least most greedy r

/-- Rules in a row, with characters that follow each other put together. -/
def joinLiterals (rs : List Rule) : List Rule :=
  rs.foldr
    (fun r joined =>
      match r, joined with
      | literal a, literal b :: rest => literal (a ++ b) :: rest
      | r, joined => r :: joined)
    []

/-- The parts of a rule, when it is a row. -/
def parts : Rule → List Rule
  | nothing => []
  | row rs => rs
  | r => [r]

/-- Rules in a row. -/
def inRow (rs : List Rule) : Rule :=
  match joinLiterals (rs.flatMap parts) with
  | [] => nothing
  | [r] => r
  | rs => row rs

/-- The alternatives that a rule stands for. -/
def branches : Rule → List Rule
  | alternatives rs => rs
  | r => [r]

/-- The code of a rule for one given character. -/
def onlyCode? : Rule → Option Nat
  | literal [c] => some c.toNat
  | _ => none

/-- The set of a rule for one character of a set. -/
def onlySet? : Rule → Option CodeSet
  | one s => some s
  | _ => none

/-- Alternatives that do not nest; those of one character each are a set. -/
def ofBranches (rs : List Rule) : Rule :=
  match rs with
  | [] => never
  | [r] => r
  | rs =>
    match rs.mapM onlyCode?, rs.mapM onlySet? with
    | some codes, _ => ofSet (.ofCodes codes)
    | _, some sets => ofSet (.unionAll sets)
    | none, none => alternatives rs

/-- How many parts two rows have in common at the front. -/
def commonLength : List Rule → List Rule → Nat
  | a :: as, b :: bs => if same a b then commonLength as bs + 1 else 0
  | _, _ => 0

/-- The parts of a row; no other rule has any here. -/
def rowParts? : Rule → Option (List Rule)
  | row rs => some rs
  | _ => none

/-- What alternatives that are all rows have in common at the front, and what remains of each. -/
def commonFront? (rs : List Rule) : Option (List Rule × List (List Rule)) :=
  match rs.mapM rowParts? with
  | some (first :: second :: rest) =>
    let count := (second :: rest).foldl (fun n parts => min n (commonLength first parts))
      first.length
    if count = 0 then none
    else some (first.take count, (first :: second :: rest).map (List.drop count))
  | _ => none

/-- Rules as alternatives. -/
def either (rs : List Rule) : Rule :=
  let rs := rs.flatMap branches
  match commonFront? rs with
  | some (front, remaining) =>
    inRow (front ++ [ofBranches ((remaining.map inRow).flatMap branches)])
  | none => ofBranches rs

end Rule

end Pattern

end RecordFilter
