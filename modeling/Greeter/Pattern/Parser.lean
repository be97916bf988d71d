import Greeter.Numeral
import Greeter.Pattern.Expr
import Greeter.Text.Alphabetic
import Greeter.Text.WhiteSpace

/-! # Reading patterns

The written form of a pattern. A character stands for itself unless it is one of
the marks `\ . ^ $ | ? * + ( ) [ {`; a mark behind a backslash stands for itself.
Sets of characters are written in brackets and may be nested and combined; groups
stand in parentheses and may set flags. Letters are known to have two cases, and
words and digits are known at all, only in ASCII, and so only where the flag `u` is
taken away. Repetitions are not counted: a filter has no closing brace to spare for
the count.
-/

namespace Greeter.Pattern

/-- What is in force at a place of a pattern. -/
structure Flags where
  /-- Letters match in either case. -/
  anyCase : Bool
  /-- The marks of start and end hold at every line. -/
  lines : Bool
  /-- The point matches the end of a line too. -/
  wholeText : Bool
  /-- Repetitions prefer to stop. -/
  lazy : Bool
  /-- Characters are not only those of ASCII. -/
  unicode : Bool
  /-- A carriage return ends a line. -/
  returns : Bool
  /-- White space and comments count for nothing. -/
  spaced : Bool
  deriving DecidableEq, Repr

/-- A part of a pattern, and how deep other parts are nested in it. -/
structure Nested (Value : Type) where
  value : Value
  depth : Nat

/-- How deep some parts are nested in what they make up together. A single part
makes up nothing new. -/
def joinedDepth : List Nat → Nat
  | [] => 0
  | [depth] => depth
  | depths => depths.foldl max 0 + 1

namespace Flags

/-- What is in force at the start of a pattern. -/
def start : Flags := ⟨false, false, false, false, true, false, false⟩

/-- Sets the flag of a letter. -/
def set? (flags : Flags) (value : Bool) : Char → Option Flags
  | 'i' => some { flags with anyCase := value }
  | 'm' => some { flags with lines := value }
  | 's' => some { flags with wholeText := value }
  | 'U' => some { flags with lazy := value }
  | 'u' => some { flags with unicode := value }
  | 'R' => some { flags with returns := value }
  | 'x' => some { flags with spaced := value }
  | _ => none

/-- Skips white space and comments, which go from a hash to the end of the
line. -/
def skipSpaced (inComment : Bool) : List Char → List Char
  | [] => []
  | first :: rest =>
    if inComment then skipSpaced (first != '\n') rest
    else if Text.whiteSpace.has first then skipSpaced false rest
    else if first = '#' then skipSpaced true rest
    else first :: rest

/-- Skips what counts for nothing. -/
def skip (flags : Flags) (text : List Char) : List Char :=
  if flags.spaced then skipSpaced false text else text

/-- The set a character stands for. A character that was written as a byte has to
be one of ASCII, where that is all there is. -/
def letter? (flags : Flags) (character : Char) (isByte : Bool) : Option CharSet :=
  if flags.unicode then
    if flags.anyCase then none else some (.single character)
  else if isByte && 0x7f < character.toNat then none
  else if flags.anyCase then some (.anyCase (.single character))
  else some (.single character)

/-- The set a point stands for. -/
def point? (flags : Flags) : Option CharSet :=
  if !flags.unicode then none
  else if flags.wholeText then some (.complement .none)
  else if flags.returns then some (.complement (.ranges [(0x0a, 0x0a), (0x0d, 0x0d)]))
  else some (.complement (.single '\n'))

/-- What the mark of a start asks for. -/
def startLook (flags : Flags) : Look :=
  if flags.lines then .lineStart flags.returns else .textStart

/-- What the mark of an end asks for. -/
def endLook (flags : Flags) : Look :=
  if flags.lines then .lineEnd flags.returns else .textEnd

end Flags

/-- What stands behind a backslash. -/
inductive Escape where
  /-- A character. It may have been written as a byte. -/
  | letter (character : Char) (isByte : Bool)
  | set (set : CharSet)
  | look (kind : Look)

namespace Escape

/-- Reads so many hexadecimal digits. -/
def readDigits? (flags : Flags) : (count : Nat) → (number : Nat) → List Char →
    Option (Nat × List Char)
  | 0, number, text => some (number, text)
  | _ + 1, _, [] => none
  | count + 1, number, first :: rest => do
    let digit ← Numeral.digit? 16 first.toNat
    readDigits? flags count (16 * number + digit) (flags.skip rest)

/-- Reads a character that is written by its code point. -/
def readCodePoint? (flags : Flags) (count : Nat) (isByte : Bool) (text : List Char) :
    Option (Escape × List Char) := do
  let (number, rest) ← readDigits? flags count 0 (flags.skip text)
  if number.isValidChar then some (.letter (Char.ofNat number) isByte, rest) else none

/-- Whether a character stands for itself behind a backslash: an ASCII character
that is no letter, no digit and no angle bracket. -/
def isMark (character : Char) : Bool :=
  character.toNat < 0x80 && !character.isAlphanum && character != '<' && character != '>'

/-- The control characters that have a letter. -/
def control? : Char → Option Char
  | 'a' => some '\x07'
  | 'f' => some '\x0c'
  | 't' => some '\t'
  | 'n' => some '\n'
  | 'r' => some '\r'
  | 'v' => some '\x0b'
  | _ => none

/-- The sets that have a letter. -/
def set? : Char → Option CharSet
  | 'd' => some .digit
  | 's' => some .space
  | 'w' => some .word
  | _ => none

/-- The places that have a letter. -/
def look? : Char → Option Look
  | 'b' => some .wordEdge
  | 'B' => some .noWordEdge
  | '<' => some .wordStart
  | '>' => some .wordEnd
  | _ => none

/-- Reads what follows a backslash. -/
def read? (flags : Flags) : List Char → Option (Escape × List Char)
  | [] => none
  | first :: rest =>
    if first = 'x' then readCodePoint? flags 2 true rest
    else if first = 'u' then readCodePoint? flags 4 false rest
    else if first = 'U' then readCodePoint? flags 8 false rest
    else if first = 'A' then some (.look .textStart, rest)
    else if first = 'z' then some (.look .textEnd, rest)
    else if isMark first then some (.letter first false, rest)
    else
      match control? first with
      | some character => some (.letter character false, rest)
      | none =>
        if flags.unicode then none
        else
          match set? first, look? first with
          | some found, _ => some (.set found, rest)
          | none, some kind => some (.look kind, rest)
          | none, none => none

end Escape

/-- How two sets are combined. -/
inductive SetOperation where
  | intersection
  | difference
  | symmetricDifference

/-- Combines two sets. -/
def SetOperation.apply : SetOperation → CharSet → CharSet → CharSet
  | intersection => .intersection
  | difference => .difference
  | symmetricDifference => .symmetricDifference

/-- How far a set in brackets has been read. -/
inductive SetStage where
  /-- Nothing has been read: a closing bracket stands for itself. -/
  | opened
  /-- Nothing but hyphens, which stand for themselves. -/
  | hyphens
  | items
  deriving DecidableEq

/-- A set whose bracket has not been closed. -/
structure OpenSet where
  negated : Bool
  stage : SetStage
  /-- What has been read since the last operation, the latest first. -/
  items : List (Nested CharSet)
  /-- What stands before the last operation. -/
  left : Option (SetOperation × Nested CharSet)

namespace OpenSet

/-- A set behind its opening bracket. -/
def ofBracket (flags : Flags) (text : List Char) : OpenSet × List Char :=
  match flags.skip text with
  | '^' :: rest => (⟨true, .opened, [], none⟩, rest)
  | text => (⟨false, .opened, [], none⟩, text)

/-- Puts an item to the others. -/
def push (set : OpenSet) (stage : SetStage) (item : Nested CharSet) : OpenSet :=
  { set with stage := stage, items := item :: set.items }

/-- All that has been read so far. -/
def content (flags : Flags) (set : OpenSet) : Nested CharSet :=
  let union := (set.items.map (·.value)).foldl .union .none
  let right : Nested CharSet :=
    ⟨if flags.anyCase then .anyCase union else union, joinedDepth (set.items.map (·.depth))⟩
  match set.left with
  | none => right
  | some (operation, left) =>
    ⟨operation.apply left.value right.value, max left.depth right.depth + 1⟩

/-- Begins the right side of an operation. -/
def operate (flags : Flags) (set : OpenSet) (operation : SetOperation) : OpenSet :=
  { set with stage := .items, items := [], left := some (operation, set.content flags) }

/-- The set, once its bracket is closed. Where characters are those of ASCII a
set cannot be all that is outside another. -/
def close? (flags : Flags) (set : OpenSet) : Option (Nested CharSet) :=
  let ⟨value, depth⟩ := set.content flags
  if !set.negated then some ⟨value, depth + 1⟩
  else if flags.unicode then some ⟨.complement value, depth + 1⟩
  else none

/-- Reads the name of a set of ASCII characters, between colons and the closing
bracket, behind the opening one. -/
def readNamed? (text : List Char) : Option (CharSet × Bool × List Char) :=
  match text with
  | ':' :: rest =>
    let (negated, rest) := match rest with
      | '^' :: rest => (true, rest)
      | rest => (false, rest)
    match rest.dropWhile (· != ':') with
    | ':' :: ']' :: behind =>
      (CharSet.ofName? (rest.takeWhile (· != ':'))).map fun set => (set, negated, behind)
    | _ => none
  | _ => none

/-- A named set, if the flags allow for it. -/
def named? (flags : Flags) (set : CharSet) (negated : Bool) : Option CharSet :=
  if flags.unicode then
    if flags.anyCase then none else some (if negated then .complement set else set)
  else if negated then none
  else some (if flags.anyCase then .anyCase set else set)

/-- Reads one item of a set, or one end of a range. -/
def readItem? (flags : Flags) : List Char → Option (Escape × List Char)
  | [] => none
  | '\\' :: rest => Escape.read? flags rest
  | first :: rest => some (.letter first false, rest)

/-- The set an item stands for. Where characters are those of ASCII no other is
allowed in a set. -/
def item? (flags : Flags) : Escape → Option CharSet
  | .letter character isByte =>
    if !flags.unicode && 0x7f < character.toNat then none else flags.letter? character isByte
  | .set set => some set
  | .look _ => none

/-- The set of a range. -/
def range? (flags : Flags) : Escape → Escape → Option CharSet
  | .letter first _, .letter last _ =>
    if last.toNat < first.toNat || (flags.unicode && flags.anyCase)
        || (!flags.unicode && 0x7f < last.toNat) then none
    else some (.ranges [(first.toNat, last.toNat)])
  | _, _ => none

/-- The character that comes next but for what counts for nothing. -/
def peek? (flags : Flags) (text : List Char) : Option Char :=
  if flags.spaced then
    match text.dropWhile Text.whiteSpace.has with
    | '#' :: rest => (rest.dropWhile Text.whiteSpace.has).head?
    | rest => rest.head?
  else text.head?

/-- Reads one item of a set, or a range. A hyphen before a closing bracket or
another hyphen makes no range. -/
def readRange? (flags : Flags) (text : List Char) : Option (CharSet × List Char) := do
  let (first, rest) ← readItem? flags text
  match flags.skip rest with
  | '-' :: behind =>
    if peek? flags behind = some ']' ∨ peek? flags behind = some '-' then
      return (← item? flags first, '-' :: behind)
    else
      let (last, rest) ← readItem? flags (flags.skip behind)
      return (← range? flags first last, rest)
  | rest => return (← item? flags first, rest)

/-- Reads a set up to its closing bracket. `outer` are the sets in which it is
nested. Every step takes a character at least, so as many steps as there are
characters are enough. -/
def read? (flags : Flags) : (room : Nat) → OpenSet → (outer : List OpenSet) → List Char →
    Option (Nested CharSet × List Char)
  | 0, _, _, _ => none
  | room + 1, set, outer, text =>
    match flags.skip text with
    | [] => none
    | first :: rest =>
      if first = '-' ∧ set.stage ≠ .items then do
        let item ← flags.letter? '-' false
        read? flags room (set.push .hyphens ⟨item, 0⟩) outer rest
      else if first = ']' ∧ set.stage = .opened then do
        let item ← flags.letter? ']' false
        read? flags room (set.push .items ⟨item, 0⟩) outer rest
      else if first = ']' then do
        let closed ← set.close? flags
        match outer with
        | [] => return (closed, rest)
        | parent :: outer => read? flags room (parent.push .items closed) outer rest
      else if first = '[' then
        match readNamed? rest with
        | some (named, negated, rest) => do
          let item ← named? flags named negated
          read? flags room (set.push .items ⟨item, 0⟩) outer rest
        | none =>
          let (nested, rest) := ofBracket flags rest
          read? flags room nested (set :: outer) rest
      else
        match first, rest with
        | '&', '&' :: rest => read? flags room (set.operate flags .intersection) outer rest
        | '-', '-' :: rest => read? flags room (set.operate flags .difference) outer rest
        | '~', '~' :: rest => read? flags room (set.operate flags .symmetricDifference) outer rest
        | _, _ => do
          let (item, rest) ← readRange? flags (first :: rest)
          read? flags room (set.push .items ⟨item, 0⟩) outer rest

end OpenSet

/-- A group whose parenthesis has not been closed; the whole pattern is one. -/
structure OpenGroup where
  /-- What is in force here. -/
  flags : Flags
  /-- The parts since the last bar, the latest first. Flags that are set are a part
  that cannot be repeated. -/
  parts : List (Option (Nested Expr))
  /-- What stands before the bars, the latest first. -/
  alternatives : List (Nested Expr)

namespace OpenGroup

/-- A group of which nothing has been read. -/
def opened (flags : Flags) : OpenGroup := ⟨flags, [], []⟩

/-- Puts a part behind the others. -/
def push (group : OpenGroup) (part : Nested Expr) : OpenGroup :=
  { group with parts := some part :: group.parts }

/-- The parts since the last bar. -/
def alternative (group : OpenGroup) : Nested Expr :=
  ⟨(group.parts.filterMap id).foldl (fun behind part => .sequence part.value behind) .empty,
    joinedDepth (group.parts.map fun part => (part.map (·.depth)).getD 0)⟩

/-- All alternatives. -/
def content (group : OpenGroup) : Nested Expr :=
  let last := group.alternative
  ⟨group.alternatives.foldl (fun behind part => .choice part.value behind) last.value,
    joinedDepth (last.depth :: group.alternatives.map (·.depth))⟩

/-- Begins another alternative. -/
def bar (group : OpenGroup) : OpenGroup :=
  { group with parts := [], alternatives := group.alternative :: group.alternatives }

/-- Repeats the last part. -/
def repeat? (group : OpenGroup) (make : Expr → Expr) : Option OpenGroup :=
  match group.parts with
  | some part :: parts =>
    some { group with parts := some ⟨make part.value, part.depth + 1⟩ :: parts }
  | _ => none

end OpenGroup

/-- What has been read of a pattern. -/
structure Reading where
  group : OpenGroup
  /-- The groups in which it is nested, the innermost first. -/
  outer : List OpenGroup
  /-- The names that groups have. -/
  names : List (List Char)

namespace Reading

/-- Nothing has been read yet. -/
def start : Reading := ⟨.opened .start, [], []⟩

/-- The most that parts may be nested. -/
def maxDepth : Nat := 250

/-- Reads flags up to a colon or a closing parenthesis. `seen` are the marks read
so far, the latest first; none may come twice. -/
def readFlags? (flags : Flags) (value : Bool) (seen : List Char) :
    List Char → Option (Flags × List Char × List Char)
  | [] => none
  | first :: rest =>
    if first = ':' ∨ first = ')' then
      if seen.head? = some '-' then none else some (flags, seen, first :: rest)
    else if seen.contains first then none
    else if first = '-' then readFlags? flags false (first :: seen) rest
    else
      match flags.set? value first with
      | some flags => readFlags? flags value (first :: seen) rest
      | none => none

/-- Whether a group may have the name. -/
def isName : List Char → Bool
  | [] => false
  | first :: rest =>
    (first == '_' || Text.isLetter first) && rest.all fun character =>
      character == '_' || character == '.' || character == '[' || character == ']' ||
        Text.alphanumeric.has character

/-- Begins a group. -/
def openGroup (reading : Reading) (flags : Flags) : Reading :=
  { reading with group := .opened flags, outer := reading.group :: reading.outer }

/-- Begins a group with a name, up to the angle bracket behind it. -/
def openNamed? (reading : Reading) (text : List Char) : Option (Reading × List Char) :=
  let name := text.takeWhile (· != '>')
  match text.dropWhile (· != '>') with
  | [] => none
  | _ :: rest =>
    if isName name && !reading.names.contains name then
      some ({ reading.openGroup reading.group.flags with names := name :: reading.names }, rest)
    else none

/-- Reads what follows an opening parenthesis: the name or the flags of a group, or
flags for what is left of the group around it. -/
def parenthesis? (reading : Reading) (text : List Char) : Option (Reading × List Char) :=
  let flags := reading.group.flags
  match flags.skip text with
  | '?' :: 'P' :: '<' :: rest => reading.openNamed? rest
  | '?' :: '<' :: rest => reading.openNamed? rest
  | '?' :: rest =>
    match readFlags? flags true [] rest with
    | some (flags, _, ':' :: rest) => some (reading.openGroup flags, rest)
    | some (flags, _ :: _, ')' :: rest) =>
      let group := reading.group
      some ({ reading with group := { group with flags := flags, parts := none :: group.parts } },
        rest)
    | _ => none
  | rest => some (reading.openGroup flags, rest)

/-- Closes a group. What was in force before it is in force again. -/
def close? (reading : Reading) : Option Reading :=
  match reading.outer with
  | [] => none
  | parent :: outer =>
    let ⟨value, depth⟩ := reading.group.content
    some { reading with group := parent.push ⟨value, depth + 1⟩, outer := outer }

/-- Puts a part behind the others. -/
def push (reading : Reading) (value : Expr) (depth : Nat) : Reading :=
  { reading with group := reading.group.push ⟨value, depth⟩ }

/-- Repeats the last part. A question mark behind the repetition turns its
preference around. -/
def repeat? (reading : Reading) (make : Bool → Expr → Expr) (text : List Char) :
    Option (Reading × List Char) :=
  let (greedy, rest) := match text with
    | '?' :: rest => (reading.group.flags.lazy, rest)
    | rest => (!reading.group.flags.lazy, rest)
  (reading.group.repeat? (make greedy)).map fun group => ({ reading with group := group }, rest)

/-- Reads what follows a backslash. -/
def escape? (reading : Reading) (text : List Char) : Option (Reading × List Char) := do
  let flags := reading.group.flags
  match ← Escape.read? flags text with
  | (.letter character isByte, rest) =>
    return (reading.push (.one (← flags.letter? character isByte)) 0, rest)
  | (.set set, rest) => return (reading.push (.one set) 0, rest)
  | (.look kind, rest) => return (reading.push (.look kind) 0, rest)

/-- Reads one part, which starts with the given character. -/
def step? (reading : Reading) (first : Char) (rest : List Char) : Option (Reading × List Char) :=
  let flags := reading.group.flags
  match first with
  | '(' => reading.parenthesis? rest
  | ')' => reading.close?.map (·, rest)
  | '|' => some ({ reading with group := reading.group.bar }, rest)
  | '[' => do
    let (set, rest) := OpenSet.ofBracket flags rest
    let (set, rest) ← OpenSet.read? flags (rest.length + 1) set [] rest
    return (reading.push (.one set.value) set.depth, rest)
  | '?' => reading.repeat? .optional rest
  | '+' => reading.repeat? .repeated rest
  | '*' => reading.repeat? (fun greedy body => .optional greedy (.repeated greedy body)) rest
  | '{' => none
  | '\\' => reading.escape? rest
  | '.' => flags.point?.map fun set => (reading.push (.one set) 0, rest)
  | '^' => some (reading.push (.look flags.startLook) 0, rest)
  | '$' => some (reading.push (.look flags.endLook) 0, rest)
  | _ => (flags.letter? first false).map fun set => (reading.push (.one set) 0, rest)

/-- Reads a pattern to its end. Every step takes a character at least, so as many
steps as there are characters are enough. -/
def finish? : (room : Nat) → Reading → List Char → Option Expr
  | 0, _, _ => none
  | room + 1, reading, text =>
    match reading.group.flags.skip text with
    | [] =>
      let ⟨value, depth⟩ := reading.group.content
      if reading.outer.isEmpty && depth ≤ maxDepth then some value else none
    | first :: rest =>
      match reading.step? first rest with
      | some (reading, rest) => finish? room reading rest
      | none => none

end Reading

/-- Reads a pattern. -/
def Expr.ofChars? (text : List Char) : Option Expr :=
  Reading.finish? (text.length + 1) .start text

end Greeter.Pattern
