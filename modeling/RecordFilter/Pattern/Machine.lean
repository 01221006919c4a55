/-
# The size of machines

A pattern that would need too large a machine is refused.  The machine of a rule reads text byte
by byte; there is one that reads forward and one that reads backward, and each may take ten
mebibytes.  Nothing here runs a machine: what counts is how many states it has and how many links
lead out of states beyond the one that every state has room for.

A state takes 32 bytes.  A state with a choice of next states takes 4 bytes more for each of them,
and a state with a choice by the next byte 8 bytes more for each range of bytes.  A part of a
machine ends in a state with or without such a choice (it is *open* or not); linking an open end to
what follows takes 4 bytes.

Sets beyond ASCII are the hard part: their states are shared where the same state has been made
before and is still remembered.  A memory has a fixed number of slots, a state is remembered in
the slot of its hash, and forgotten when another state takes the slot.

A choice among thousands of given texts is searched for without a machine, so it is never refused.
-/
import RecordFilter.Pattern.Rule
import RecordFilter.Text.Utf8
import Std.Data.HashMap

namespace RecordFilter

namespace Pattern

open Utf8 (ByteRange)

/-! ## 1. Extents -/

/-- What a machine takes up: its states, and the bytes of links beyond them. -/
structure Extent where
  states : Nat
  links : Nat

namespace Extent

/-- The bytes of a machine. -/
def bytes (e : Extent) : Nat := 32 * e.states + e.links

/-- The extent with more states and links. -/
def grow (e : Extent) (states links : Nat) : Extent := ⟨e.states + states, e.links + links⟩

/-- The extent of two machines together. -/
def add (a b : Extent) : Extent := a.grow b.states b.links

/-- The greatest number of bytes that a machine may take. -/
def limit : Nat := 10 * 0x100000

/-- An extent and whether the end is open, when the machine is not too large. -/
def within (e : Extent) (isOpen : Bool) : Option (Extent × Bool) :=
  if e.bytes ≤ limit then some (e, isOpen) else none

end Extent

/-- The bytes for linking an end to what follows. -/
def linkBytes (isOpen : Bool) : Nat := if isOpen then 4 else 0

/-! ## 2. Memory -/

/-- The hash of some numbers, with one round for each. -/
def hashOf (numbers : List Nat) : UInt64 :=
  numbers.foldl (fun h n => (h ^^^ UInt64.ofNat n) * 1099511628211) 14695981039346656037

/-- What is remembered: in a slot, the numbers that describe a state, and the state. -/
structure Memory where
  slots : Nat
  entries : Std.HashMap Nat (List Nat × Nat)

namespace Memory

/-- A memory with some slots, of which none is taken. -/
def empty (slots : Nat) : Memory := ⟨slots, ∅⟩

/-- The state that numbers describe, if it is remembered. -/
def find? (m : Memory) (numbers : List Nat) : Option Nat :=
  match m.entries[(hashOf numbers).toNat % m.slots]? with
  | some (known, state) => if known == numbers then some state else none
  | none => none

/-- Remembers the state that numbers describe. -/
def insert (m : Memory) (numbers : List Nat) (state : Nat) : Memory :=
  { m with entries := m.entries.insert ((hashOf numbers).toNat % m.slots) (numbers, state) }

end Memory

/-! ## 3. Sets, read forward -/

/-- The machine so far and what is remembered of it. -/
structure Draft where
  extent : Extent
  memory : Memory

/-- A choice by the next byte. -/
structure Transition where
  range : ByteRange
  next : Nat

/-- The numbers that describe a state with a choice by the next byte. -/
def describe (transitions : List Transition) : List Nat :=
  transitions.flatMap fun t => [t.range.first, t.range.last, t.next]

/-- The state with some transitions, a new one unless it is remembered. -/
def Draft.state (d : Draft) (transitions : List Transition) : Nat × Draft :=
  let numbers := describe transitions
  match d.memory.find? numbers with
  | some state => (state, d)
  | none =>
    let state := d.extent.states
    (state, ⟨d.extent.grow 1 (8 * transitions.length), d.memory.insert numbers state⟩)

/-- A state that is still being made: its transitions, and the bytes of the last one, whose next
state is not known yet. -/
structure OpenState where
  transitions : List Transition
  pending : Option ByteRange

/-- All transitions of a state, when the next state of the last one is known. -/
def OpenState.finish (s : OpenState) (next : Nat) : List Transition :=
  match s.pending with
  | some range => s.transitions ++ [⟨range, next⟩]
  | none => s.transitions

/-- Makes the states of a path, the last one first, and gives the first one; the path ends in
`target`. -/
def Draft.close (target : Nat) : List OpenState → Draft → Nat × Draft
  | [], d => (target, d)
  | s :: rest, d =>
    let (next, d) := Draft.close target rest d
    d.state (s.finish next)

/-- Adds a product of byte ranges to a path, which keeps what it has in common with the product at
the front; the states behind that are made. -/
def Draft.insert (target : Nat) :
    List OpenState → List ByteRange → Draft → List OpenState × Draft
  | s :: rest, range :: more, d =>
    if s.pending = some range && !more.isEmpty then
      let (rest, d) := Draft.insert target rest more d
      (s :: rest, d)
    else
      let (next, d) := Draft.close target rest d
      (⟨s.finish next, some range⟩ :: more.map (fun range => ⟨[], some range⟩), d)
  | path, _, d => (path, d)

/-- The slots of the memory for sets that are read forward. -/
def forwardSlots : Nat := 10000

/-- Adds a set, given as products of byte ranges in ascending order. -/
def Extent.addForward (e : Extent) (forms : List (List ByteRange)) : Extent :=
  let target := e.states
  let start : List OpenState × Draft := ([⟨[], none⟩], ⟨e.grow 1 0, .empty forwardSlots⟩)
  let (path, d) := forms.foldl (fun (path, d) form => d.insert target path form) start
  (Draft.close target path d).2.extent

/-! ## 4. Sets, read backward -/

/-- The slots of the memory for sets that are read backward. -/
def backwardSlots : Nat := 1000

/-- The state that goes on to a state on a range of bytes, a new one unless it is remembered. -/
def Draft.before (d : Draft) (next : Nat) (range : ByteRange) : Nat × Draft :=
  let numbers := [next, range.first, range.last]
  match d.memory.find? numbers with
  | some state => (state, d)
  | none =>
    let state := d.extent.states
    (state, ⟨d.extent.grow 1 0, d.memory.insert numbers state⟩)

/-- Adds a set, given as products of byte ranges: a choice between as many chains of states, each
from the last byte of a character to its first. -/
def Extent.addBackward (e : Extent) (forms : List (List ByteRange)) : Extent :=
  let target := e.states + 1
  let chain (d : Draft) (form : List ByteRange) : Draft :=
    let (_, d) := form.foldl (fun (next, d) range => Draft.before d next range) (target, d)
    { d with extent := d.extent.grow 0 4 }
  (forms.foldl chain ⟨e.grow 2 0, .empty backwardSlots⟩).extent

/-! ## 5. Literals as alternatives -/

/-- Texts grouped by their first byte, each group with what follows that byte. -/
def groupByFirst (texts : List (List Nat)) : List (Nat × List (List Nat)) :=
  texts.foldl
    (fun groups text =>
      match text with
      | [] => groups
      | b :: rest =>
        if groups.any (·.1 == b) then
          groups.map fun (c, texts) => if c == b then (c, texts ++ [rest]) else (c, texts)
        else groups ++ [(b, [rest])])
    []

/-- Texts between those that are empty, which is where a text ends. -/
def splitAtEnds (texts : List (List Nat)) : List (List (List Nat)) :=
  texts.foldr
    (fun text chunks =>
      match text, chunks with
      | [], chunks => [] :: chunks
      | text, chunk :: chunks => (text :: chunk) :: chunks
      | text, [] => [[text]])
    [[]]

/-- The same texts with one at most of the empty texts at the front. -/
def dropRepeatedEnds : List (List Nat) → List (List Nat)
  | [] :: [] :: rest => dropRepeatedEnds ([] :: rest)
  | texts => texts

/-- The states for texts that go on from one place, as far as the bound allows, with what starts
alike shared.  Texts that come after the end of another one are kept apart from those before. -/
def sharedExtent : Nat → List (List Nat) → Extent
  | 0, _ => ⟨0, 0⟩
  | bound + 1, texts =>
    let chunks := (splitAtEnds (dropRepeatedEnds texts)).map groupByFirst
    let below (group : Nat × List (List Nat)) : Extent :=
      if group.2.all List.isEmpty then ⟨0, 0⟩ else sharedExtent bound group.2
    let chunk (groups : List (Nat × List (List Nat))) : Extent :=
      let choice : Extent :=
        match groups with
        | [] => ⟨0, 0⟩
        | [_] => ⟨1, 4⟩
        | groups => ⟨1, 8 * groups.length + 4⟩
      (groups.map below).foldl Extent.add choice
    (chunks.map chunk).foldl Extent.add ⟨1, 4 * (chunks.length - 1)⟩

/-- The states for literals as alternatives. -/
def literalsExtent (texts : List (List Nat)) : Extent :=
  (sharedExtent ((texts.map List.length).foldl max 0) texts).grow 1 0

/-! ## 6. Plans -/

/-- What a machine is made of. -/
inductive Plan where
  | fixed (e : Extent)
  | set (backward : Bool) (forms : List (List ByteRange))
  | captured (p : Plan)
  | row (ps : List Plan)
  | alternatives (ps : List Plan)
  | repeated (least : Nat) (most : Option Nat) (takesText : Bool) (p : Plan)

/-- Adds some copies in a row to a machine, whose end is open or not. -/
def addCopies (add : Extent → Option (Extent × Bool)) :
    Nat → Extent → Bool → Option (Extent × Bool)
  | 0, e, isOpen => some (e, isOpen)
  | n + 1, e, isOpen =>
    match add e with
    | some (e, next) => addCopies add n (e.grow 0 (linkBytes isOpen)) next
    | none => none

/-- Adds some copies in a row, each of which can be passed by. -/
def addOptions (add : Extent → Option (Extent × Bool)) :
    Nat → Extent → Bool → Option (Extent × Bool)
  | 0, e, isOpen => some (e, isOpen)
  | n + 1, e, isOpen =>
    match add (e.grow 1 (linkBytes isOpen + 8)) with
    | some (e, next) => addOptions add n e next
    | none => none

/-- Adds a number of copies; none at all takes one state. -/
def addExactly (add : Extent → Option (Extent × Bool)) (n : Nat) (e : Extent) :
    Option (Extent × Bool) :=
  if n = 0 then (e.grow 1 0).within false else addCopies add n e false

/-- Adds rounds of a part. -/
def addRounds (add : Extent → Option (Extent × Bool)) (takesText : Bool) (least : Nat)
    (most : Option Nat) (e : Extent) : Option (Extent × Bool) :=
  match least, most with
  | 0, some 1 => do
    let (e, isOpen) ← add (e.grow 1 0)
    (e.grow 1 (8 + linkBytes isOpen)).within false
  | 0, none =>
    if takesText then do
      let (e, isOpen) ← add (e.grow 1 0)
      (e.grow 0 (4 + linkBytes isOpen)).within true
    else do
      let (e, isOpen) ← add e
      (e.grow 3 (16 + linkBytes isOpen)).within false
  | least + 1, none => do
    let (e, isOpen) ← addCopies add (least + 1) e false
    (e.grow 1 (4 + linkBytes isOpen)).within true
  | least, some most => do
    let (e, isOpen) ← addExactly add least e
    if most ≤ least then some (e, isOpen)
    else
      let (e, isOpen) ← addOptions add (most - least) (e.grow 1 0) isOpen
      (e.grow 0 (linkBytes isOpen)).within false

mutual

/-- Adds a part to a machine.  The result is too large, or the machine with the part and whether
the part has an open end. -/
def Plan.addTo : Plan → Extent → Option (Extent × Bool)
  | .fixed part, e => (e.add part).within false
  | .set backward forms, e =>
    (if backward then e.addBackward forms else e.addForward forms).within false
  | .captured p, e => do
    let (e, isOpen) ← Plan.addTo p (e.grow 1 0)
    (e.grow 1 (linkBytes isOpen)).within false
  | .row ps, e => Plan.addRowTo ps e false
  | .alternatives ps, e => Plan.addAlternativesTo ps e
  | .repeated least most takesText p, e => addRounds (Plan.addTo p) takesText least most e

/-- Adds parts in a row to a machine, whose end is open or not. -/
def Plan.addRowTo : List Plan → Extent → Bool → Option (Extent × Bool)
  | [], e, isOpen => some (e, isOpen)
  | p :: rest, e, isOpen => do
    let (e, next) ← Plan.addTo p e
    Plan.addRowTo rest (e.grow 0 (linkBytes isOpen)) next

/-- Adds parts as alternatives.  The states where they part and meet come after the first two. -/
def Plan.addAlternativesTo : List Plan → Extent → Option (Extent × Bool)
  | p :: q :: rest, e => do
    let (e, pOpen) ← Plan.addTo p e
    let (e, qOpen) ← Plan.addTo q e
    let e := e.grow 2 (8 + linkBytes pOpen + linkBytes qOpen)
    (← Plan.addBranchesTo rest e).within false
  | [p], e => Plan.addTo p e
  | [], e => (e.grow 1 0).within false

/-- Adds further alternatives. -/
def Plan.addBranchesTo : List Plan → Extent → Option Extent
  | [], e => some e
  | p :: rest, e => do
    let (e, isOpen) ← Plan.addTo p e
    Plan.addBranchesTo rest (e.grow 0 (4 + linkBytes isOpen))

end

/-! ## 7. The machines of a rule -/

/-- The bytes of a rule for given characters. -/
def Rule.literalBytes? : Rule → Option (List Nat)
  | .literal cs => some (cs.flatMap Utf8.bytes)
  | _ => none

mutual

/-- The plan of the machine of a rule.  A machine that reads backward has the parts of a row in
the opposite order and pays no heed to captures. -/
def Rule.plan (backward : Bool) : Rule → Plan
  | .nothing => .fixed ⟨1, 0⟩
  | .literal cs => .fixed ⟨(cs.flatMap Utf8.bytes).length, 0⟩
  | .one s =>
    if s.isBelow 0x80 then .fixed ⟨2, 8 * s.runs.length⟩
    else .set backward (s.runs.flatMap fun (first, last) => Utf8.forms first last)
  | .look _ => .fixed ⟨1, 0⟩
  | .repeated least most _ r =>
    .repeated least most (r.leastTaken.any (0 < ·)) (Rule.plan backward r)
  | .captured r => if backward then Rule.plan backward r else .captured (Rule.plan backward r)
  | .row rs =>
    let ps := Rule.plans backward rs
    .row (if backward then ps.reverse else ps)
  | .alternatives rs =>
    match rs.mapM Rule.literalBytes? with
    | some texts =>
      .fixed (literalsExtent (if backward then texts.map List.reverse else texts))
    | none => .alternatives (Rule.plans backward rs)

/-- The plans of some rules. -/
def Rule.plans (backward : Bool) : List Rule → List Plan
  | [] => []
  | r :: rest => Rule.plan backward r :: Rule.plans backward rest

end

/-- The extent of the machine of a rule, unless it is too large.  Where a match can begin anywhere,
the machine first passes over bytes; one that reads forward notes where the match begins and
ends. -/
def Rule.machine? (backward : Bool) (r : Rule) : Option Extent := do
  let start : Extent := if r.isAnchored backward then ⟨1, 0⟩ else ⟨3, 16⟩
  let plan := r.plan backward
  let (e, isOpen) ← (if backward then plan else .captured plan).addTo start
  let (e, _) ← (e.grow 1 (linkBytes isOpen)).within false
  some e

/-- The least number of given texts that are searched for without a machine. -/
def manyTexts : Nat := 3000

/-- Is a rule a choice among so many texts that no machine is made for it? -/
def Rule.isTextChoice : Rule → Bool
  | .alternatives rs => decide (manyTexts ≤ rs.length) && rs.all (·.literalBytes?.isSome)
  | _ => false

/-- Is a rule searched for without a machine, or neither of its machines too large? -/
def Rule.fits (r : Rule) : Bool :=
  r.isTextChoice || ((r.machine? false).isSome && (r.machine? true).isSome)

end Pattern

end RecordFilter
