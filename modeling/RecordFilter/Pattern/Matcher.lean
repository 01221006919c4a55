/-
# Matching

Whether some part of a text matches a rule.  A rule takes a set of places of the text to the set
of places that its matches from there lead to; the text has a match when the set of all places is
taken to a set that is not empty.  Sets of places are natural numbers, one bit for each place, and
for one text a rule is first turned into a walk, in which sets of characters and conditions on
places have become such numbers.  Repetition takes the set round by round, and stops when a round
adds nothing.
-/
import RecordFilter.Pattern.Rule

namespace RecordFilter

namespace Pattern

/-! ## 1. Walks -/

/-- A rule on one text: the places are the bits of natural numbers. -/
inductive Walk where
  | stay (places : Nat)
  | move (places : Nat)
  | seq (first second : Walk)
  | alt (left right : Walk)
  | repeated (least : Nat) (most : Option Nat) (w : Walk)

/-- Takes a set of places through rounds, up to a number of them; a round that changes nothing is
the last that counts. -/
def rounds (step : Nat → Nat) : Nat → Nat → Nat
  | 0, places => places
  | n + 1, places =>
    let next := step places
    if next = places then places else rounds step n next

/-- The places that a walk leads to from a set of places in a text of some length. -/
def Walk.image (length : Nat) : Walk → Nat → Nat
  | .stay places, start => start &&& places
  | .move places, start => (start &&& places) <<< 1
  | .seq first second, start => second.image length (first.image length start)
  | .alt left right, start => left.image length start ||| right.image length start
  | .repeated least most w, start =>
    let reached := rounds (w.image length) least start
    let further := match most with
      | some most => most - least
      | none => length + 1
    rounds (fun places => places ||| w.image length places) further reached

/-! ## 2. From rules to walks -/

/-- The places, from a bit on, whose next character passes a test. -/
def placesBefore (test : Char → Bool) : Nat → List Char → Nat
  | _, [] => 0
  | bit, c :: rest => (if test c then bit else 0) + placesBefore test (2 * bit) rest

/-- The places, from a bit on, whose neighbours pass a test. -/
def placesBetween (test : Option Char → Option Char → Bool) :
    Nat → Option Char → List Char → Nat
  | bit, before, [] => if test before none then bit else 0
  | bit, before, c :: rest =>
    (if test before (some c) then bit else 0) + placesBetween test (2 * bit) (some c) rest

/-- All places of a text of some length. -/
def allPlaces (length : Nat) : Nat := 1 <<< (length + 1) - 1

/-- The walk past given characters. -/
def literalWalk (text : List Char) : List Char → Walk
  | [] => .stay (allPlaces text.length)
  | [c] => .move (placesBefore (· == c) 1 text)
  | c :: rest => .seq (.move (placesBefore (· == c) 1 text)) (literalWalk text rest)

mutual

/-- The walk of a rule on a text. -/
def Rule.walk (text : List Char) : Rule → Walk
  | .nothing => .stay (allPlaces text.length)
  | .literal cs => literalWalk text cs
  | .one s => .move (placesBefore s.contains 1 text)
  | .look l => .stay (placesBetween l.holds 1 none text)
  | .repeated least most _ r => .repeated least most (Rule.walk text r)
  | .captured r => Rule.walk text r
  | .row rs => Rule.rowWalk text rs
  | .alternatives rs => Rule.alternativesWalk text rs

/-- The walk of rules in a row. -/
def Rule.rowWalk (text : List Char) : List Rule → Walk
  | [] => .stay (allPlaces text.length)
  | r :: rest => .seq (Rule.walk text r) (Rule.rowWalk text rest)

/-- The walk of rules as alternatives. -/
def Rule.alternativesWalk (text : List Char) : List Rule → Walk
  | [] => .stay 0
  | r :: rest => .alt (Rule.walk text r) (Rule.alternativesWalk text rest)

end

/-- Does some part of a text match a rule? -/
def Rule.occursIn (r : Rule) (text : List Char) : Bool :=
  (r.walk text).image text.length (allPlaces text.length) != 0

end Pattern

end RecordFilter
