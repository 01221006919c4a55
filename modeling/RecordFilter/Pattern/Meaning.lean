/-
# What trees of patterns mean

`Rule.ofTree` gives the rule of a pattern's tree, working flags and names into sets of characters.
A flag holds from where it is set to the end of the group around it.

Without the Unicode flag, letters with a code beyond ASCII stand for themselves outside brackets
only, and everything that could match a part of a character is refused: a dot, a negated class, a
byte beyond ASCII.  Names of properties are refused too.
-/
import RecordFilter.Pattern.Rule
import RecordFilter.Unicode.Property

namespace RecordFilter

namespace Pattern

open Unicode (CodeSet)

/-! ## 1. Flags and classes -/

/-- The flags that are on at a place of a pattern. -/
structure Flags where
  caseInsensitive : Bool := false
  multiLine : Bool := false
  dotAll : Bool := false
  swapGreed : Bool := false
  unicode : Bool := true
  crlf : Bool := false

/-- The flags after some changes. -/
def Flags.change (flags : Flags) (changes : List FlagChange) : Flags where
  caseInsensitive := (flagAfter changes .caseInsensitive).getD flags.caseInsensitive
  multiLine := (flagAfter changes .multiLine).getD flags.multiLine
  dotAll := (flagAfter changes .dotAll).getD flags.dotAll
  swapGreed := (flagAfter changes .swapGreed).getD flags.swapGreed
  unicode := (flagAfter changes .unicode).getD flags.unicode
  crlf := (flagAfter changes .crlf).getD flags.crlf

/-- A class of ASCII characters by name. -/
def asciiClass (name : String) : CodeSet :=
  .ofText (match name with
    | "alnum" => "30 3a 41 5b 61 7b"
    | "alpha" => "41 5b 61 7b"
    | "ascii" => "0 80"
    | "blank" => "9 a 20 21"
    | "cntrl" => "0 20 7f 80"
    | "digit" => "30 3a"
    | "graph" => "21 7f"
    | "lower" => "61 7b"
    | "print" => "20 7f"
    | "punct" => "21 30 3a 41 5b 61 7b 7f"
    | "space" => "9 e 20 21"
    | "upper" => "41 5b"
    | "word" => "30 3a 41 5b 5f 60 61 7b"
    | _ => "30 3a 41 47 61 67")

/-- The letters of ASCII that differ by case at most from a member of a set, and the set. -/
def asciiClosure (s : CodeSet) : CodeSet :=
  let letters := asciiClass "alpha"
  let shift (first image : Nat) : List Nat :=
    (List.range 26).filterMap fun i =>
      if CodeSet.memberOf (first + i) s.changes then some (image + i) else none
  .unionAll [s, (CodeSet.ofCodes (shift 0x41 0x61 ++ shift 0x61 0x41)).inter letters]

/-- A set with the variants by case of its members, where case does not count. -/
def foldCase (flags : Flags) (s : CodeSet) : CodeSet :=
  if !flags.caseInsensitive then s
  else if flags.unicode then Unicode.caseClosure s
  else asciiClosure s

/-- The characters outside a set; without the Unicode flag that would be parts of characters. -/
def negate (flags : Flags) (negated : Bool) (s : CodeSet) : Option CodeSet :=
  if !negated then some s else if flags.unicode then some s.complement else none

/-- A letter inside brackets. -/
def classLetter (flags : Flags) (l : Letter) : Option Nat :=
  if flags.unicode || l.char.toNat < 0x80 then some l.char.toNat else none

/-- The characters that a name of a property stands for. -/
def propertySet (flags : Flags) (name : PropertyName) : Option CodeSet :=
  if flags.unicode then
    match name with
    | .named name => Unicode.named? name
    | .valued name value => Unicode.withValue? name value
  else none

/-- The characters of a class of one letter. -/
def shortSet (flags : Flags) : ShortClass → CodeSet
  | .digit => if flags.unicode then Unicode.digits else asciiClass "digit"
  | .space => if flags.unicode then Unicode.whiteSpace else asciiClass "space"
  | .word => if flags.unicode then Unicode.wordCharacters else asciiClass "word"

/-- The operation on sets that an operation on classes stands for. -/
def ClassOp.apply : ClassOp → CodeSet → CodeSet → CodeSet
  | .inter => CodeSet.inter
  | .difference => CodeSet.difference
  | .symmDiff => CodeSet.symmDiff

mutual

/-- The characters of a class. -/
def ClassTree.set (flags : Flags) : ClassTree → Option CodeSet
  | .empty => some .empty
  | .letter l => do
    let code ← classLetter flags l
    some (.range code code)
  | .range first last => do some (.range (← classLetter flags first) (← classLetter flags last))
  | .ascii name negated => negate flags negated (foldCase flags (asciiClass name))
  | .property name negated => do negate flags negated (foldCase flags (← propertySet flags name))
  | .short kind negated => negate flags negated (shortSet flags kind)
  | .bracket negated inside => do
    negate flags negated (foldCase flags (← ClassTree.set flags inside))
  | .union items => ClassTree.setAll flags items
  | .combine op left right => do
    let left ← ClassTree.set flags left
    let right ← ClassTree.set flags right
    some (op.apply (foldCase flags left) (foldCase flags right))

/-- The characters of any of some classes. -/
def ClassTree.setAll (flags : Flags) : List ClassTree → Option CodeSet
  | [] => some .empty
  | t :: rest => do
    let s ← ClassTree.set flags t
    some (s.union (← ClassTree.setAll flags rest))

end

/-! ## 2. From trees to rules -/

/-- A letter outside brackets, with its variants where case does not count. -/
def letterSet (flags : Flags) (l : Letter) : Option CodeSet :=
  let code := l.char.toNat
  if flags.unicode then
    some (if flags.caseInsensitive then Unicode.caseVariants code else .range code code)
  else if l.byte && 0x80 ≤ code then none
  else some (foldCase flags (.range code code))

/-- What a dot matches: all but the end of a line, unless it matches that too. -/
def dotSet (flags : Flags) : Option CodeSet :=
  if !flags.unicode then none
  else if flags.dotAll then some .all
  else if flags.crlf then some (CodeSet.ofCodes [0x0A, 0x0D]).complement
  else some (CodeSet.range 0x0A 0x0A).complement

/-- The condition of an anchor. -/
def anchorLook (flags : Flags) : Anchor → Look
  | .lineStart => if flags.multiLine then .lineStart flags.crlf else .textStart
  | .lineEnd => if flags.multiLine then .lineEnd flags.crlf else .textEnd
  | .textStart => .textStart
  | .textEnd => .textEnd
  | place => .boundary (shortSet flags .word) place

mutual

/-- The rule of a tree under flags, and the flags after it. -/
def Rule.ofTree : Tree → Flags → Option (Rule × Flags)
  | .empty, flags => some (.nothing, flags)
  | .flags changes, flags => some (.nothing, flags.change changes)
  | .letter l, flags => do some (.ofSet (← letterSet flags l), flags)
  | .dot, flags => do some (.ofSet (← dotSet flags), flags)
  | .anchor a, flags => some (.look (anchorLook flags a), flags)
  | .property name negated, flags => do
    some (.ofSet (← negate flags negated (foldCase flags (← propertySet flags name))), flags)
  | .short kind negated, flags => do
    some (.ofSet (← negate flags negated (shortSet flags kind)), flags)
  | .bracket negated inside, flags => do
    some (.ofSet (← negate flags negated (foldCase flags (← inside.set flags))), flags)
  | .repeated least most greedy t, flags => do
    let (r, after) ← Rule.ofTree t flags
    some (.repeatRule least most (greedy != after.swapGreed) r, after)
  | .group captures changes t, flags => do
    let (r, _) ← Rule.ofTree t (flags.change changes)
    some (if captures then .captured r else r, flags)
  | .either ts, flags => do
    let (rs, after) ← Rule.ofTrees ts flags
    some (.either rs, after)
  | .concat ts, flags => do
    let (rs, after) ← Rule.ofTrees ts flags
    some (.inRow rs, after)

/-- The rules of some trees; flags set in one hold in those after it. -/
def Rule.ofTrees : List Tree → Flags → Option (List Rule × Flags)
  | [], flags => some ([], flags)
  | t :: rest, flags => do
    let (r, flags) ← Rule.ofTree t flags
    let (rs, flags) ← Rule.ofTrees rest flags
    some (r :: rs, flags)

end

end Pattern

end RecordFilter
