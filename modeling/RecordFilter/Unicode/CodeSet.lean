/-
# Sets of code points

A set of code points is the list of the places where membership changes, in ascending order:
below the first place nothing is a member, from there on everything is, up to the next place, and
so on.  Union, difference and the like walk two such lists at once and keep the places where the
result changes.  Tables of a standard are written the same way, as text: the places in
hexadecimal, for a `Partition` with the value that holds from each place on.
-/
namespace RecordFilter

namespace Unicode

/-- A set of code points, as the ascending places where membership changes. -/
structure CodeSet where
  changes : List Nat
deriving DecidableEq

namespace CodeSet

/-! ## 1. Members -/

/-- Is a code point a member, when the set is given by the places where membership changes? -/
def memberOf (code : Nat) : List Nat → Bool
  | [] => false
  | place :: rest => if code < place then false else !memberOf code rest

/-- Is a character a member? -/
def contains (s : CodeSet) (c : Char) : Bool := memberOf c.toNat s.changes

/-- The runs between changes: the first and the last code point of each. -/
def runsOf : List Nat → List (Nat × Nat)
  | first :: next :: rest => (first, next - 1) :: runsOf rest
  | [first] => [(first, 0x10FFFF)]
  | [] => []

/-- The runs of code points that a set consists of. -/
def runs (s : CodeSet) : List (Nat × Nat) := runsOf s.changes

/-- Are all members below a code point? -/
def isBelow (s : CodeSet) (code : Nat) : Bool :=
  s.changes.length % 2 == 0 && s.changes.all (· ≤ code)

/-! ## 2. Making sets -/

/-- The set without members. -/
def empty : CodeSet := ⟨[]⟩

/-- The code points from `first` to `last`. -/
def range (first last : Nat) : CodeSet := ⟨[first, last + 1]⟩

/-- The set of one character. -/
def single (c : Char) : CodeSet := range c.toNat c.toNat

/-- All code points. -/
def all : CodeSet := range 0 0x10FFFF

/-- Walks two lists of changes at once, from states in which membership is `inA`, `inB` and, in
the result, `inResult`.  The bound is the number of changes that remain. -/
def walk (op : Bool → Bool → Bool) : Nat → Bool → Bool → Bool → List Nat → List Nat → List Nat
  | 0, _, _, _, _, _ => []
  | bound + 1, inA, inB, inResult, as, bs =>
    let step (inA inB : Bool) (place : Nat) (as bs : List Nat) : List Nat :=
      let now := op inA inB
      if now = inResult then walk op bound inA inB inResult as bs
      else place :: walk op bound inA inB now as bs
    match as, bs with
    | [], [] => []
    | a :: as, [] => step (!inA) inB a as []
    | [], b :: bs => step inA (!inB) b [] bs
    | a :: as, b :: bs =>
      if a < b then step (!inA) inB a as (b :: bs)
      else if b < a then step inA (!inB) b (a :: as) bs
      else step (!inA) (!inB) a as bs

/-- The set whose membership is an operation on the memberships in two others. -/
def combine (op : Bool → Bool → Bool) (a b : CodeSet) : CodeSet :=
  ⟨walk op (a.changes.length + b.changes.length) false false false a.changes b.changes⟩

/-- The members of either set. -/
def union (a b : CodeSet) : CodeSet := combine (· || ·) a b

/-- The members of both sets. -/
def inter (a b : CodeSet) : CodeSet := combine (· && ·) a b

/-- The members of the first set alone. -/
def difference (a b : CodeSet) : CodeSet := combine (fun x y => x && !y) a b

/-- The members of exactly one set. -/
def symmDiff (a b : CodeSet) : CodeSet := combine Bool.xor a b

/-- The code points that are no members. -/
def complement (s : CodeSet) : CodeSet := all.difference s

/-- The members of any of some sets. -/
def unionAll (sets : List CodeSet) : CodeSet := sets.foldl union empty

/-- The changes after a run that reaches up to `finish`, for the ascending codes that follow. -/
def runsAfter : Nat → List Nat → List Nat
  | finish, [] => [finish]
  | finish, code :: rest =>
    if code ≤ finish then runsAfter (max finish (code + 1)) rest
    else finish :: code :: runsAfter (code + 1) rest

/-- The set of some code points. -/
def ofCodes (codes : List Nat) : CodeSet :=
  match codes.mergeSort with
  | [] => empty
  | code :: rest => ⟨code :: runsAfter (code + 1) rest⟩

end CodeSet

/-! ## 3. Tables as text -/

/-- The number that hexadecimal digits of small letters denote. -/
def hexNat (digits : String) : Nat :=
  digits.toList.foldl (fun n c => 16 * n + if c.isDigit then c.toNat - 48 else c.toNat - 87) 0

/-- The words of a text, which blanks and ends of lines separate. -/
def words (text : String) : List String :=
  ((text.splitOn "\n").flatMap fun line => line.splitOn " ").filter (· != "")

/-- The set whose changes a text lists. -/
def CodeSet.ofText (text : String) : CodeSet := ⟨(words text).map hexNat⟩

/-- A value for every code point, as the ascending places where the value changes. -/
structure Partition where
  changes : List (Nat × String)

namespace Partition

/-- Places and values in turn, as a list of pairs. -/
def pairs : List String → List (Nat × String)
  | place :: value :: rest => (hexNat place, value) :: pairs rest
  | _ => []

/-- The partition whose places and values a text lists in turn. -/
def ofText (text : String) : Partition := ⟨pairs (words text)⟩

/-- The places where a test of the value changes its answer, from the answer `current` on. -/
def selectedFrom (test : String → Bool) : Bool → List (Nat × String) → List Nat
  | _, [] => []
  | current, (place, value) :: rest =>
    if test value = current then selectedFrom test current rest
    else place :: selectedFrom test (!current) rest

/-- The code points whose value passes a test. -/
def selected (p : Partition) (test : String → Bool) : CodeSet :=
  ⟨selectedFrom test false p.changes⟩

end Partition

end Unicode

end RecordFilter
