/-
# Patterns as they are written

The tree of a pattern: what stands between its parentheses, bars and brackets, before flags and
names are given a meaning.  The nesting of the tree is limited; the letters, dots and anchors at
its leaves do not count.
-/
namespace RecordFilter

namespace Pattern

/-! ## 1. Leaves -/

/-- What a flag turns on or off. -/
inductive Flag where
  | caseInsensitive
  | multiLine
  | dotAll
  | swapGreed
  | unicode
  | crlf
  | ignoreBlanks
deriving DecidableEq

/-- A flag that is turned on or off. -/
structure FlagChange where
  flag : Flag
  on : Bool
deriving DecidableEq

/-- What becomes of a flag under some changes, if they speak of it. -/
def flagAfter (changes : List FlagChange) (flag : Flag) : Option Bool :=
  (changes.find? fun change => change.flag == flag).map FlagChange.on

/-- A character of a pattern, and whether it was written as two hexadecimal digits. -/
structure Letter where
  char : Char
  byte : Bool

/-- Places that a pattern can ask for. -/
inductive Anchor where
  | lineStart
  | lineEnd
  | textStart
  | textEnd
  | wordBoundary
  | notWordBoundary
  | wordStart
  | wordEnd
  | wordStartHalf
  | wordEndHalf
deriving DecidableEq

/-- The classes of one letter after a backslash. -/
inductive ShortClass where
  | digit
  | space
  | word

/-- A property of characters by name, or by name and value. -/
inductive PropertyName where
  | named (name : String)
  | valued (name value : String)

/-- Operations on classes inside brackets. -/
inductive ClassOp where
  | inter
  | difference
  | symmDiff

/-! ## 2. Classes in brackets -/

/-- What stands between the brackets of a class. -/
inductive ClassTree where
  | empty
  | letter (l : Letter)
  | range (first last : Letter)
  | ascii (name : String) (negated : Bool)
  | property (name : PropertyName) (negated : Bool)
  | short (kind : ShortClass) (negated : Bool)
  | bracket (negated : Bool) (inside : ClassTree)
  | union (items : List ClassTree)
  | combine (op : ClassOp) (left right : ClassTree)

mutual

/-- How deep a class nests. -/
def ClassTree.depth : ClassTree → Nat
  | .bracket _ inside => inside.depth + 1
  | .union items => ClassTree.depthAll items + 1
  | .combine _ left right => max left.depth right.depth + 1
  | _ => 0

/-- How deep the deepest of some classes nests. -/
def ClassTree.depthAll : List ClassTree → Nat
  | [] => 0
  | t :: rest => max t.depth (ClassTree.depthAll rest)

end

/-- The union of some items; a single item stands for itself. -/
def ClassTree.ofItems : List ClassTree → ClassTree
  | [] => .empty
  | [t] => t
  | items => .union items

/-! ## 3. Patterns -/

/-- What a pattern is made of. -/
inductive Tree where
  | empty
  | flags (changes : List FlagChange)
  | letter (l : Letter)
  | dot
  | anchor (a : Anchor)
  | property (name : PropertyName) (negated : Bool)
  | short (kind : ShortClass) (negated : Bool)
  | bracket (negated : Bool) (inside : ClassTree)
  | repeated (least : Nat) (most : Option Nat) (greedy : Bool) (t : Tree)
  | group (captures : Bool) (changes : List FlagChange) (t : Tree)
  | either (ts : List Tree)
  | concat (ts : List Tree)

mutual

/-- How deep a pattern nests. -/
def Tree.depth : Tree → Nat
  | .bracket _ inside => inside.depth + 1
  | .repeated _ _ _ t => t.depth + 1
  | .group _ _ t => t.depth + 1
  | .either ts => Tree.depthAll ts + 1
  | .concat ts => Tree.depthAll ts + 1
  | _ => 0

/-- How deep the deepest of some patterns nests. -/
def Tree.depthAll : List Tree → Nat
  | [] => 0
  | t :: rest => max t.depth (Tree.depthAll rest)

end

/-- The concatenation of some patterns; a single one stands for itself. -/
def Tree.ofConcat : List Tree → Tree
  | [] => .empty
  | [t] => t
  | ts => .concat ts

/-- The alternation of some patterns; a single one stands for itself. -/
def Tree.ofEither : List Tree → Tree
  | [t] => t
  | ts => .either ts

/-- How deep a pattern may nest. -/
def nestingLimit : Nat := 250

end Pattern

end RecordFilter
