/-
# Reading patterns

From the text of a pattern to its tree, or to nothing where the text is no pattern.  The reader
keeps the characters that remain, whether blanks and comments are passed over at the moment, and
the names of groups so far, which may not repeat.  Look-around and back references are not part of
these patterns and are refused.

Loops run on a bound that the length of the text provides: every round takes a character.
-/
import RecordFilter.Pattern.Tree
import RecordFilter.Unicode.Property

namespace RecordFilter

namespace Pattern

/-! ## 1. The cursor -/

/-- Where a reader stands. -/
structure Cursor where
  rest : List Char
  skipsBlanks : Bool
  names : List String

/-- A reader moves the cursor and gives a result, or fails. -/
abbrev Reader := StateT Cursor Option

/-- Is a character white space? -/
def isBlank (c : Char) : Bool := Unicode.whiteSpace.contains c

/-- What remains past blanks and comments; a comment runs from a number sign to the end of its
line. -/
def pastBlanks : Bool → List Char → List Char
  | _, [] => []
  | true, c :: rest => pastBlanks (c != '\n') rest
  | false, c :: rest =>
    if isBlank c then pastBlanks false rest
    else if c == '#' then pastBlanks true rest
    else c :: rest

namespace Reader

/-- Passes over blanks, where they are passed over. -/
def skip : Reader Unit :=
  modify fun s => if s.skipsBlanks then { s with rest := pastBlanks false s.rest } else s

/-- The next character, if there is one. -/
def peek : Reader (Option Char) := do return (← get).rest.head?

/-- The next character; the text must go on. -/
def current : Reader Char := do
  match (← get).rest with
  | c :: _ => return c
  | [] => failure

/-- Takes one character. -/
def advance : Reader Unit := modify fun s => { s with rest := s.rest.tail }

/-- Takes one character and the blanks after it. -/
def step : Reader Unit := do
  advance
  skip

/-- Takes one character and the blanks after it; the text must go on. -/
def stepOn : Reader Unit := do
  step
  let _ ← current

/-- Takes a fixed text if it comes next. -/
def takeIf (text : String) : Reader Bool := do
  let s ← get
  if text.toList.isPrefixOf s.rest then
    set { s with rest := s.rest.drop text.length }
    return true
  else return false

/-- A bound on the rounds that loops still can make. -/
def bound : Reader Nat := do return (← get).rest.length + 1

/-- Takes characters that pass a test, each with the blanks after it. -/
def takeWhile (test : Char → Bool) : Nat → Reader (List Char)
  | 0 => return []
  | n + 1 => do
    match ← peek with
    | some c =>
      if test c then
        step
        return c :: (← takeWhile test n)
      else return []
    | none => return []

end Reader

open Reader

/-! ## 2. Escapes -/

/-- What can stand where one character can. -/
inductive Atom where
  | letter (l : Letter)
  | anchor (a : Anchor)
  | property (name : PropertyName) (negated : Bool)
  | short (kind : ShortClass) (negated : Bool)

/-- Is a character a hexadecimal digit, of either case? -/
def isHexDigit (c : Char) : Bool :=
  c.isDigit || ('a' ≤ c && c ≤ 'f') || ('A' ≤ c && c ≤ 'F')

/-- The character with a hexadecimal code, if there is one. -/
def charOfHex (digits : List Char) : Option Char :=
  let code := Unicode.hexNat (String.ofList (digits.map Char.toLower))
  if code < 0xD800 || (0xE000 ≤ code && code < 0x110000) then some (Char.ofNat code) else none

/-- A fixed number of hexadecimal digits. -/
def readHexDigits : Nat → Reader (List Char)
  | 0 => return []
  | n + 1 => do
    let c ← current
    if isHexDigit c then
      step
      return c :: (← readHexDigits n)
    else failure

/-- A character by its code, after the letter that says how it is written: in braces, or with two,
four or eight digits. -/
def readHex (digitCount : Nat) : Reader Letter := do
  stepOn
  if (← current) == '{' then
    step
    let digits ← takeWhile isHexDigit (← bound)
    if digits.isEmpty || (← current) != '}' then failure
    else
      step
      return ⟨← charOfHex digits, false⟩
  else
    let digits ← readHexDigits digitCount
    return ⟨← charOfHex digits, digitCount == 2⟩

/-- A name with or without a value, as written in braces, and whether the mark between them asks
for every other value. -/
def propertyName (cs : List Char) : PropertyName × Bool :=
  let splitAt (mark : Char) : PropertyName :=
    .valued (String.ofList (cs.takeWhile (· != mark)))
      (String.ofList ((cs.dropWhile (· != mark)).tail))
  match (String.ofList cs).splitOn "!=" with
  | name :: value :: more => (.valued name ("!=".intercalate (value :: more)), true)
  | _ =>
    if cs.contains ':' then (splitAt ':', false)
    else if cs.contains '=' then (splitAt '=', false)
    else (.named (String.ofList cs), false)

/-- A property after the letter that announces it, which can ask for the opposite: one letter, or
a name in braces. -/
def readProperty (opposite : Bool) : Reader Atom := do
  stepOn
  let c ← current
  if c == '{' then
    step
    let name ← takeWhile (· != '}') (← bound)
    let _ ← current
    advance
    let (name, differs) := propertyName name
    return .property name (opposite != differs)
  else if c == '\\' then failure
  else
    step
    return .property (.named (String.singleton c)) opposite

/-- The special boundaries of words by name. -/
def wordAnchor? : String → Option Anchor
  | "start" => some .wordStart
  | "end" => some .wordEnd
  | "start-half" => some .wordStartHalf
  | "end-half" => some .wordEndHalf
  | _ => none

/-- A boundary of words, after its letter: a name in braces makes it a special one.  Braces with
something else in them are left for a repetition. -/
def readWordBoundary : Reader Anchor := do
  let start ← get
  if (← peek) != some '{' then return .wordBoundary
  stepOn
  let isNameChar (c : Char) : Bool :=
    ('a' ≤ c && c ≤ 'z') || ('A' ≤ c && c ≤ 'Z') || c == '-'
  if !isNameChar (← current) then
    set start
    return .wordBoundary
  let name ← takeWhile isNameChar (← bound)
  if (← current) != '}' then failure
  advance
  wordAnchor? (String.ofList name)

/-- The characters with a meaning of their own somewhere in a pattern. -/
def metaCharacters : List Char :=
  ['\\', '.', '+', '*', '?', '(', ')', '|', '[', ']', '{', '}', '^', '$', '#', '&', '-', '~']

/-- May a character be escaped without taking on a meaning? -/
def isEscapable (c : Char) : Bool :=
  metaCharacters.contains c || (c.toNat < 0x80 && !c.isAlphanum && c != '<' && c != '>')

/-- What a backslash and what follows it stand for. -/
def readEscape : Reader Atom := do
  advance
  let c ← current
  let taken (a : Atom) : Reader Atom := do
    advance
    return a
  let plain (c : Char) : Reader Atom := taken (.letter ⟨c, false⟩)
  match c with
  | 'x' => return .letter (← readHex 2)
  | 'u' => return .letter (← readHex 4)
  | 'U' => return .letter (← readHex 8)
  | 'p' => readProperty false
  | 'P' => readProperty true
  | 'd' => taken (.short .digit false)
  | 'D' => taken (.short .digit true)
  | 's' => taken (.short .space false)
  | 'S' => taken (.short .space true)
  | 'w' => taken (.short .word false)
  | 'W' => taken (.short .word true)
  | 'a' => plain '\x07'
  | 'f' => plain '\x0c'
  | 't' => plain '\t'
  | 'n' => plain '\n'
  | 'r' => plain '\r'
  | 'v' => plain '\x0b'
  | 'A' => taken (.anchor .textStart)
  | 'z' => taken (.anchor .textEnd)
  | 'B' => taken (.anchor .notWordBoundary)
  | '<' => taken (.anchor .wordStart)
  | '>' => taken (.anchor .wordEnd)
  | 'b' =>
    advance
    return .anchor (← readWordBoundary)
  | c => if isEscapable c then plain c else failure

/-! ## 3. Classes in brackets -/

/-- The names of the classes of ASCII characters. -/
def asciiClassNames : List String :=
  ["alnum", "alpha", "ascii", "blank", "cntrl", "digit", "graph", "lower", "print", "punct",
    "space", "upper", "word", "xdigit"]

/-- A class of ASCII characters by name, if one comes next. -/
def readAsciiClass : Reader (Option ClassTree) := do
  let s ← get
  match s.rest with
  | '[' :: ':' :: rest =>
    let (negated, rest) := match rest with
      | '^' :: rest => (true, rest)
      | rest => (false, rest)
    let name := String.ofList (rest.takeWhile (· != ':'))
    match rest.dropWhile (· != ':') with
    | ':' :: ']' :: after =>
      if asciiClassNames.contains name then
        set { s with rest := after }
        return some (.ascii name negated)
      else return none
    | _ => return none
  | _ => return none

/-- Takes hyphens at the start of a class, which stand for themselves. -/
def readHyphens : Nat → Reader (List ClassTree)
  | 0 => failure
  | n + 1 => do
    if (← current) == '-' then
      stepOn
      return .letter ⟨'-', false⟩ :: (← readHyphens n)
    else return []

/-- The opening of a class: is it negated, and the hyphens, or the closing bracket, that stand for
themselves because they come first. -/
def readClassOpening : Reader (Bool × List ClassTree) := do
  stepOn
  let negated := (← current) == '^'
  if negated then stepOn
  let hyphens ← readHyphens (← bound)
  if hyphens.isEmpty && (← current) == ']' then
    stepOn
    return (negated, [.letter ⟨']', false⟩])
  else return (negated, hyphens.reverse)

/-- An item of a class that may be the end of a range. -/
def readClassAtom : Reader Atom := do
  let c ← current
  if c == '\\' then readEscape
  else
    advance
    return .letter ⟨c, false⟩

/-- An item by itself; places are no items. -/
def classItem : Atom → Reader ClassTree
  | .letter l => return .letter l
  | .property name negated => return .property name negated
  | .short kind negated => return .short kind negated
  | .anchor _ => failure

/-- The character after the next one, past blanks where they are passed over.  Where comments are,
only the mark of the comment is passed over. -/
def peekPast : Reader (Option Char) := do
  let s ← get
  let rest := s.rest.tail
  if s.skipsBlanks then
    match rest.dropWhile isBlank with
    | '#' :: rest => return (rest.dropWhile isBlank).head?
    | rest => return rest.head?
  else return rest.head?

/-- One item of a class, or a range. -/
def readClassRange : Reader ClassTree := do
  let first ← readClassAtom
  skip
  let c ← current
  let next ← peekPast
  if c != '-' || next == some ']' || next == some '-' then classItem first
  else
    stepOn
    let last ← readClassAtom
    match first, last with
    | .letter a, .letter b => if a.char ≤ b.char then return .range a b else failure
    | _, _ => failure

/-- The class before an operation or the end: the items since the last operation, joined to what
was before it. -/
def closeClass (pending : Option (ClassOp × ClassTree)) (items : List ClassTree) : ClassTree :=
  let last := ClassTree.ofItems items.reverse
  match pending with
  | some (op, left) => .combine op left last
  | none => last

/-- The rest of a class after its opening, up to its closing bracket.  Items come last first. -/
def readClassBody : Nat → Option (ClassOp × ClassTree) → List ClassTree → Reader ClassTree
  | 0, _, _ => failure
  | n + 1, pending, items => do
    skip
    let operation (op : ClassOp) : Reader ClassTree := do
      advance
      advance
      readClassBody n (some (op, closeClass pending items)) []
    match (← get).rest with
    | '[' :: _ =>
      match ← readAsciiClass with
      | some item => readClassBody n pending (item :: items)
      | none =>
        let (negated, inner) ← readClassOpening
        let inside ← readClassBody n none inner
        readClassBody n pending (.bracket negated inside :: items)
    | ']' :: _ =>
      advance
      return closeClass pending items
    | '&' :: '&' :: _ => operation .inter
    | '-' :: '-' :: _ => operation .difference
    | '~' :: '~' :: _ => operation .symmDiff
    | _ :: _ =>
      let item ← readClassRange
      readClassBody n pending (item :: items)
    | [] => failure

/-- A class in brackets. -/
def readBracket : Reader Tree := do
  let (negated, items) ← readClassOpening
  return .bracket negated (← readClassBody (← bound) none items)

/-! ## 4. Groups -/

/-- The flag of a letter. -/
def flagOf? : Char → Option Flag
  | 'i' => some .caseInsensitive
  | 'm' => some .multiLine
  | 's' => some .dotAll
  | 'U' => some .swapGreed
  | 'u' => some .unicode
  | 'R' => some .crlf
  | 'x' => some .ignoreBlanks
  | _ => none

/-- The flags up to a colon or a closing parenthesis.  No flag comes twice, a hyphen turns off the
flags after it, of which there must be one. -/
def readFlags : Nat → Bool → List FlagChange → Reader (List FlagChange)
  | 0, _, _ => failure
  | n + 1, negated, changes => do
    let c ← current
    if c == ':' || c == ')' then
      if negated && changes.all FlagChange.on then failure else return changes
    else if c == '-' then
      if negated then failure
      advance
      readFlags n true changes
    else
      let flag ← flagOf? c
      if changes.any (fun change => change.flag == flag) then failure
      advance
      readFlags n negated (changes ++ [⟨flag, !negated⟩])

/-- May a character stand in the name of a group? -/
def isNameCharacter (first : Bool) (c : Char) : Bool :=
  if first then c == '_' || Unicode.nameLetters.contains c
  else c == '_' || c == '.' || c == '[' || c == ']' || Unicode.nameCharacters.contains c

/-- The name of a group up to its closing angle. -/
def readGroupName : Reader Unit := do
  let s ← get
  let name := s.rest.takeWhile (· != '>')
  match name, s.rest.dropWhile (· != '>') with
  | first :: more, '>' :: after =>
    let text := String.ofList name
    if isNameCharacter true first && more.all (isNameCharacter false) && !s.names.contains text then
      set { s with rest := after, names := text :: s.names }
    else failure
  | _, _ => failure

/-- What an opening parenthesis begins. -/
inductive GroupHead where
  | flags (changes : List FlagChange)
  | group (captures : Bool) (changes : List FlagChange)

/-- What comes after an opening parenthesis, before the contents of a group. -/
def readGroupHead : Reader GroupHead := do
  advance
  skip
  if (← takeIf "?=") || (← takeIf "?!") || (← takeIf "?<=") || (← takeIf "?<!") then failure
  if (← takeIf "?P<") || (← takeIf "?<") then
    readGroupName
    return .group true []
  if ← takeIf "?" then
    let changes ← readFlags (← bound) false []
    let isGroup := (← current) == ':'
    advance
    if isGroup then return .group false changes
    else if changes.isEmpty then failure
    else return .flags changes
  return .group true []

/-! ## 5. Repetitions -/

/-- May a pattern be repeated?  Flags may not. -/
def isRepeatable : Tree → Bool
  | .flags _ => false
  | .empty => false
  | _ => true

/-- Takes blanks, whether blanks are passed over or not. -/
def takeBlanks : Nat → Reader Unit
  | 0 => return ()
  | n + 1 => do
    match ← peek with
    | some c => if isBlank c then do step; takeBlanks n
    | none => return ()

/-- A count below `2 ^ 32`, with blanks around it. -/
def readCount : Reader (Option Nat) := do
  takeBlanks (← bound)
  let digits ← takeWhile Char.isDigit (← bound)
  takeBlanks (← bound)
  let count := digits.foldl (fun n c => 10 * n + (c.toNat - 48)) 0
  return if digits.isEmpty || 0x100000000 ≤ count then none else some count

/-- Does a repetition prefer many rounds?  A question mark after it asks for few. -/
def readGreed : Reader Bool := do
  if (← peek) == some '?' then
    advance
    return false
  else return true

/-- A repetition counted in braces. -/
def readCounted (t : Tree) : Reader Tree := do
  stepOn
  let least ← readCount
  let most : Option Nat ←
    if (← current) == ',' then do
      stepOn
      if (← current) == '}' then pure none
      else do
        let most ← ((← readCount) : Option Nat)
        pure (some most)
    else pure least
  let least ← (least : Option Nat)
  if (← current) != '}' then failure
  step
  let greedy ← readGreed
  if most.any (· < least) then failure else return .repeated least most greedy t

/-! ## 6. Patterns -/

/-- A character, dot, anchor or escape. -/
def readPrimitive : Reader Tree := do
  let taken (t : Tree) : Reader Tree := do
    advance
    return t
  match ← current with
  | '\\' =>
    match ← readEscape with
    | .letter l => return .letter l
    | .anchor a => return .anchor a
    | .property name negated => return .property name negated
    | .short kind negated => return .short kind negated
  | '.' => taken .dot
  | '^' => taken (.anchor .lineStart)
  | '$' => taken (.anchor .lineEnd)
  | c => taken (.letter ⟨c, false⟩)

/-- Alternatives up to a closing parenthesis or the end of the text, after the alternatives `done`
and the parts `parts` of the current one, both last first. -/
def readAlternatives : Nat → List Tree → List Tree → Reader Tree
  | 0, _, _ => failure
  | n + 1, done, parts => do
    skip
    let repeated (read : Tree → Reader Tree) : Reader Tree := do
      match parts with
      | t :: parts =>
        if isRepeatable t then
          let t ← read t
          readAlternatives n done (t :: parts)
        else failure
      | [] => failure
    let simple (least : Nat) (most : Option Nat) : Reader Tree :=
      repeated fun t => do
        advance
        return .repeated least most (← readGreed) t
    match ← peek with
    | none | some ')' => return .ofEither (Tree.ofConcat parts.reverse :: done).reverse
    | some '|' =>
      advance
      readAlternatives n (.ofConcat parts.reverse :: done) []
    | some '(' =>
      match ← readGroupHead with
      | .flags changes =>
        modify fun s =>
          { s with skipsBlanks := (flagAfter changes .ignoreBlanks).getD s.skipsBlanks }
        readAlternatives n done (.flags changes :: parts)
      | .group captures changes =>
        let outer := (← get).skipsBlanks
        modify fun s =>
          { s with skipsBlanks := (flagAfter changes .ignoreBlanks).getD s.skipsBlanks }
        let inside ← readAlternatives n [] []
        if (← current) != ')' then failure
        advance
        modify fun s => { s with skipsBlanks := outer }
        readAlternatives n done (.group captures changes inside :: parts)
    | some '[' =>
      let t ← readBracket
      readAlternatives n done (t :: parts)
    | some '?' => simple 0 (some 1)
    | some '*' => simple 0 none
    | some '+' => simple 1 none
    | some '{' => repeated readCounted
    | some _ =>
      let t ← readPrimitive
      readAlternatives n done (t :: parts)

/-- The tree of a pattern. -/
def readTree (source : String) : Option Tree := do
  let cs := source.toList
  let (t, rest) ← (readAlternatives (cs.length + 1) [] []).run ⟨cs, false, []⟩
  if rest.rest.isEmpty && t.depth ≤ nestingLimit then some t else none

end Pattern

end RecordFilter
