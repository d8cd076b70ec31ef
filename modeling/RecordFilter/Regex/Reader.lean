import RecordFilter.Regex.ClassName
import RecordFilter.Regex.Tree
import RecordFilter.Text.Digits

/-!
# Reading patterns

The text of a pattern is read in one pass into a pattern tree.  Of the flags only
one bears on the reading: in a verbose pattern blanks and comments do not count, not
even between the digits of a number.  The reader refuses look-around and references
back to groups.
-/

namespace RecordFilter

namespace Pattern

/-! ## Blanks and comments -/

/-- Drop blanks and comments; the Boolean tells that a comment is under way. -/
def skipVerbose : Bool → List Char → List Char
  | _, [] => []
  | comment, c :: cs =>
      if comment then skipVerbose (c != '\n') cs
      else if isSpace c then skipVerbose false cs
      else if c = '#' then skipVerbose true cs
      else c :: cs

def skip (verbose : Bool) (cs : List Char) : List Char :=
  if verbose then skipVerbose false cs else cs

/--
Read characters of a kind as long as there are any.  What does not count is passed
over before and behind each of them; the second Boolean tells that a comment is
under way.
-/
def spanFrom (verbose : Bool) (kind : Char → Bool) : Bool → List Char → List Char × List Char
  | _, [] => ([], [])
  | comment, c :: cs =>
      if comment then spanFrom verbose kind (c != '\n') cs
      else if verbose && isSpace c then spanFrom verbose kind false cs
      else if verbose && c = '#' then spanFrom verbose kind true cs
      else if kind c then
        let (run, rest) := spanFrom verbose kind false cs
        (c :: run, rest)
      else ([], c :: cs)

def span (verbose : Bool) (kind : Char → Bool) (cs : List Char) : List Char × List Char :=
  spanFrom verbose kind false cs

/-! ## Escapes -/

/-- What an escape stands for. -/
inductive Escape where
  | literal (c : Literal)
  | charClass (inner : CharClass)
  | mark (place : Mark)

def char? (code : Nat) : Option Char :=
  if h : code.isValidChar then some (Char.ofNatAux code h) else none

def isEscapable (c : Char) : Bool :=
  c.toNat < 0x80 && !c.isAlphanum && c != '<' && c != '>'

def isHexDigit (c : Char) : Bool :=
  (hexDigit? c).isSome

def readHexDigits (verbose : Bool) : Nat → List Char → Option (List Char × List Char)
  | 0, cs => some ([], cs)
  | count + 1, cs =>
      match skip verbose cs with
      | [] => none
      | c :: rest => do
          guard (isHexDigit c)
          let (digits, rest) ← readHexDigits verbose count rest
          return (c :: digits, rest)

/-- Read a code point of so many hexadecimal digits, or of any number of them in braces. -/
def readHex (verbose : Bool) (width : Nat) (cs : List Char) : Option (Escape × List Char) :=
  match skip verbose cs with
  | '\x7b' :: cs =>
      match span verbose isHexDigit cs with
      | (digits, '\x7d' :: rest) => do
          guard !digits.isEmpty
          let c ← (hexValue? digits).bind char?
          return (.literal ⟨c, false⟩, rest)
      | _ => none
  | cs => do
      let (digits, rest) ← readHexDigits verbose width cs
      let c ← (hexValue? digits).bind char?
      return (.literal ⟨c, width == 2⟩, rest)

def readProperty (verbose : Bool) (negated : Bool) (cs : List Char) :
    Option (Escape × List Char) :=
  match skip verbose cs with
  | [] => none
  | '\\' :: _ => none
  | '\x7b' :: cs =>
      match span verbose (· != '\x7d') cs with
      | (text, _ :: rest) => do
          let (excluded, set) ← ClassName.query? text
          return (.charClass (.property (negated != excluded) set), rest)
      | _ => none
  | c :: rest => do
      let set ← ClassName.named? (ClassName.plain [c])
      return (.charClass (.property negated set), rest)

/-- Digits, blanks and word characters, by the letter of their class. -/
def shorthand? (letter : Char) : Option Shorthand :=
  if letter = 'd' then some .digit
  else if letter = 's' then some .space
  else if letter = 'w' then some .word
  else none

def letterEscape? (c : Char) : Option Char :=
  if c = 'a' then some (Char.ofNat 0x07)
  else if c = 'f' then some (Char.ofNat 0x0C)
  else if c = 't' then some '\t'
  else if c = 'n' then some '\n'
  else if c = 'r' then some '\r'
  else if c = 'v' then some (Char.ofNat 0x0B)
  else none

def namedBoundary? (name : String) : Option Mark :=
  if name == "start" then some .wordStart
  else if name == "end" then some .wordEnd
  else if name == "start-half" then some .wordStartHalf
  else if name == "end-half" then some .wordEndHalf
  else none

def isBoundaryChar (c : Char) : Bool :=
  c.isAlpha || c == '-'

/-- Read what follows the letter of a word boundary; a brace may also open a repetition. -/
def readBoundary (verbose : Bool) (cs : List Char) : Option (Escape × List Char) :=
  match cs with
  | '\x7b' :: more =>
      match skip verbose more with
      | [] => none
      | c :: _ =>
          if isBoundaryChar c then
            match span verbose isBoundaryChar more with
            | (name, '\x7d' :: rest) => do
                let place ← namedBoundary? (String.ofList name)
                return (.mark place, rest)
            | _ => none
          else some (.mark .boundary, cs)
  | _ => some (.mark .boundary, cs)

def readEscape (verbose : Bool) : List Char → Option (Escape × List Char)
  | [] => none
  | c :: cs =>
      if c = 'x' then readHex verbose 2 cs
      else if c = 'u' then readHex verbose 4 cs
      else if c = 'U' then readHex verbose 8 cs
      else if c = 'p' then readProperty verbose false cs
      else if c = 'P' then readProperty verbose true cs
      else if c = 'A' then some (.mark .textStart, cs)
      else if c = 'z' then some (.mark .textEnd, cs)
      else if c = 'b' then readBoundary verbose cs
      else if c = 'B' then some (.mark .notBoundary, cs)
      else if c = '<' then some (.mark .wordStart, cs)
      else if c = '>' then some (.mark .wordEnd, cs)
      else if isEscapable c then some (.literal ⟨c, false⟩, cs)
      else
        match shorthand? c, shorthand? c.toLower, letterEscape? c with
        | some kind, _, _ => some (.charClass (.shorthand false kind), cs)
        | none, some kind, _ => some (.charClass (.shorthand true kind), cs)
        | none, none, some d => some (.literal ⟨d, false⟩, cs)
        | none, none, none => none

/-! ## Classes in brackets -/

/-- Read an ASCII class after its bracket, if it is one. -/
def readAsciiClass : List Char → Option (CharClass × List Char)
  | ':' :: cs => do
      let (negated, cs) :=
        match cs with
        | '^' :: cs => (true, cs)
        | cs => (false, cs)
      let name := cs.takeWhile (· != ':')
      match cs.drop name.length with
      | ':' :: ']' :: rest =>
          let set ← ClassName.ascii? (String.ofList name)
          return (.ascii negated set, rest)
      | _ => none
  | _ => none

/-- A class with the operation that awaits its second operand. -/
abbrev Pending := Option (SetOperation × CharClass)

/-- Apply an operation that was waiting to the members behind it, which are held backwards. -/
def resolvePending (pending : Pending) (items : List CharClass) : CharClass :=
  let right := CharClass.ofItems items.reverse
  match pending with
  | none => right
  | some (operation, left) => .operation operation left right

/-- Read one character or class inside brackets. -/
def readClassItem (verbose : Bool) : List Char → Option (Escape × List Char)
  | [] => none
  | '\\' :: cs => readEscape verbose cs
  | c :: cs => some (.literal ⟨c, false⟩, cs)

def itemClass? : Escape → Option CharClass
  | .literal c => some (.literal c)
  | .charClass inner => some inner
  | .mark _ => none

/--
The character behind a dash that tells whether the dash makes a range.  In a verbose
pattern blanks are passed over, and the mark of a comment with the blanks behind it.
-/
def peekRange (verbose : Bool) (cs : List Char) : Option Char :=
  if verbose then
    match trimStart cs with
    | '#' :: more => (trimStart more).head?
    | cs => cs.head?
  else cs.head?

def readClassRange (verbose : Bool) (cs : List Char) : Option (CharClass × List Char) := do
  let (first, rest) ← readClassItem verbose cs
  match skip verbose rest with
  | '-' :: more =>
      let next := peekRange verbose more
      if next == some ']' || next == some '-' then
        let inner ← itemClass? first
        return (inner, '-' :: more)
      else
        match first, (← readClassItem verbose (skip verbose more)) with
        | .literal low, (.literal high, rest) =>
            if low.char ≤ high.char then some (.range low high, rest) else none
        | _, _ => none
  | rest =>
      let inner ← itemClass? first
      return (inner, rest)

/--
Read the start of a class after its bracket: whether it is negated, and its first
members, backwards.  Dashes at the start are members, and so is a closing bracket
that comes first.
-/
def readClassStart (verbose : Bool) (cs : List Char) : (Bool × List CharClass) × List Char :=
  let (negated, cs) :=
    match skip verbose cs with
    | '^' :: cs => (true, cs)
    | cs => (false, cs)
  match span verbose (· == '-') cs with
  | ([], ']' :: rest) => ((negated, [.literal ⟨']', false⟩]), rest)
  | (dashes, rest) => ((negated, dashes.map fun c => .literal ⟨c, false⟩), rest)

/--
Read the members that are left of a class, and its closing bracket.  `items` holds
the members since the last operation, backwards.  Every step takes a character.
-/
def readMembers (fuel : Nat) (verbose : Bool) (pending : Pending) (items : List CharClass)
    (cs : List Char) : Option (CharClass × List Char) :=
  match fuel with
  | 0 => none
  | fuel + 1 =>
      let operate (operation : SetOperation) (rest : List Char) :=
        readMembers fuel verbose (some (operation, resolvePending pending items)) [] rest
      match skip verbose cs with
      | [] => none
      | ']' :: rest => some (resolvePending pending items, rest)
      | '[' :: rest =>
          match readAsciiClass rest with
          | some (item, rest) => readMembers fuel verbose pending (item :: items) rest
          | none => do
              let ((negated, start), rest) := readClassStart verbose rest
              let (inner, rest) ← readMembers fuel verbose none start rest
              readMembers fuel verbose pending (.bracketed negated inner :: items) rest
      | '&' :: '&' :: rest => operate .inter rest
      | '-' :: '-' :: rest => operate .diff rest
      | '~' :: '~' :: rest => operate .symmetricDiff rest
      | cs => do
          let (item, rest) ← readClassRange verbose cs
          readMembers fuel verbose pending (item :: items) rest

def readClass (verbose : Bool) (cs : List Char) : Option (CharClass × List Char) := do
  let ((negated, start), rest) := readClassStart verbose cs
  let (inner, rest) ← readMembers (rest.length + 1) verbose none start rest
  return (.bracketed negated inner, rest)

/-! ## Repetitions -/

/-- Read a natural of 32 bits with blanks on both sides. -/
def readCount (verbose : Bool) (cs : List Char) : Option (Option Nat × List Char) :=
  let (digits, rest) := span verbose Char.isDigit (trimStart cs)
  let count := digitsValue digits
  if 0xFFFFFFFF < count then none
  else some (if digits.isEmpty then none else some count, trimStart rest)

def readBounds (verbose : Bool) (cs : List Char) :
    Option ((Nat × Option Nat) × List Char) := do
  let (least, rest) ← readCount verbose (skip verbose cs)
  match least, rest with
  | some least, '\x7d' :: rest => return ((least, some least), rest)
  | some least, ',' :: rest =>
      match skip verbose rest with
      | '\x7d' :: rest => return ((least, none), rest)
      | rest =>
          match (← readCount verbose rest) with
          | (some most, '\x7d' :: rest) =>
              if most < least then none else return ((least, some most), rest)
          | _ => none
  | _, _ => none

def skipLazy : List Char → List Char
  | '?' :: cs => cs
  | cs => cs

/-- Repeat the last item; `items` holds the items of a branch backwards. -/
def repeatLast (items : List Tree) (least : Nat) (most : Option Nat) : Option (List Tree) :=
  match items with
  | last :: rest => if last.isRepeatable then some (.repeated last least most :: rest) else none
  | [] => none

/-! ## Groups -/

/-- Read letters of flags up to a colon or a closing parenthesis, which is told apart. -/
def readFlags (change : FlagChange) (negated dangling : Bool) :
    List Char → Option ((FlagChange × Char) × List Char)
  | [] => none
  | c :: cs =>
      if c = ':' ∨ c = ')' then if dangling then none else some ((change, c), cs)
      else if c = '-' then if negated then none else readFlags change true true cs
      else do
        let flag ← Flag.ofLetter? c
        if change.any (·.1 == flag) then none
        else readFlags ((flag, !negated) :: change) negated false cs

def isNameStart (c : Char) : Bool :=
  c == '_' || CharProperty.isAlphabetic c

def isNameRest (c : Char) : Bool :=
  c == '_' || c == '.' || c == '[' || c == ']' || CharProperty.isAlphabetic c ||
    Category.decimalNumberTable.hasChar c || Category.letterNumberTable.hasChar c ||
      Category.otherNumberTable.hasChar c

def readName (names : List (List Char)) (cs : List Char) : Option (List Char × List Char) :=
  let name := cs.takeWhile (· != '>')
  match name, cs.drop name.length with
  | first :: more, _ :: rest =>
      if isNameStart first && more.all isNameRest && !names.contains name then some (name, rest)
      else none
  | _, _ => none

/-- How a group opens. -/
inductive Opening where
  | group
  | namedGroup (name : List Char)
  | scope (change : FlagChange)
  | setting (change : FlagChange)

def readOpening (verbose : Bool) (names : List (List Char)) (cs : List Char) :
    Option (Opening × List Char) :=
  match skip verbose cs with
  | '?' :: 'P' :: '<' :: rest =>
      (readName names rest).map fun (name, rest) => (.namedGroup name, rest)
  | '?' :: '<' :: rest =>
      (readName names rest).map fun (name, rest) => (.namedGroup name, rest)
  | '?' :: rest =>
      match readFlags [] false false rest with
      | some ((change, closing), rest) =>
          if closing = ':' then some (.scope change, rest)
          else if change.isEmpty then none
          else some (.setting change, rest)
      | none => none
  | rest => some (.group, rest)

/-- The tree of a group from its branches and the items of its last branch, all backwards. -/
def finish (branches items : List Tree) : Tree :=
  Tree.ofBranches (Tree.ofItems items.reverse :: branches).reverse

abbrev Reading := List (List Char) × Tree

/--
Read the items that are left of a group.  `branches` and `items` hold what was
read, backwards.  The closing parenthesis is not consumed.  Every step takes a
character.
-/
def readItems (fuel : Nat) (verbose : Bool) (names : List (List Char)) (branches items : List Tree)
    (cs : List Char) : Option (Reading × List Char) :=
  match fuel with
  | 0 => none
  | fuel + 1 =>
      let proceed (items : List Tree) (rest : List Char) :=
        readItems fuel verbose names branches items rest
      let inside (verbose' : Bool) (names : List (List Char)) (wrap : Tree → Tree)
          (rest : List Char) :=
        match readItems fuel verbose' names [] [] rest with
        | some ((names, inner), ')' :: rest) =>
            readItems fuel verbose names branches (wrap inner :: items) rest
        | _ => none
      match skip verbose cs with
      | [] => some ((names, finish branches items), [])
      | c :: rest =>
          if c = ')' then some ((names, finish branches items), c :: rest)
          else if c = '|' then
            readItems fuel verbose names (Tree.ofItems items.reverse :: branches) [] rest
          else if c = '(' then
            match readOpening verbose names rest with
            | some (.setting change, rest) =>
                readItems fuel (Flag.verbose.valueAfter change verbose) names branches
                  (.setting change :: items) rest
            | some (.scope change, rest) =>
                inside (Flag.verbose.valueAfter change verbose) names (.scope change) rest
            | some (.group, rest) => inside verbose names .group rest
            | some (.namedGroup name, rest) => inside verbose (name :: names) .group rest
            | none => none
          else if c = '[' then do
            let (inner, rest) ← readClass verbose rest
            proceed (.charClass inner :: items) rest
          else if c = '*' then do
            let items ← repeatLast items 0 none
            proceed items (skipLazy rest)
          else if c = '+' then do
            let items ← repeatLast items 1 none
            proceed items (skipLazy rest)
          else if c = '?' then do
            let items ← repeatLast items 0 (some 1)
            proceed items (skipLazy rest)
          else if c = '\x7b' then do
            let ((least, most), rest) ← readBounds verbose rest
            let items ← repeatLast items least most
            proceed items (skipLazy (skip verbose rest))
          else if c = '\\' then do
            let (escape, rest) ← readEscape verbose rest
            let item : Tree :=
              match escape with
              | .literal c => .literal c
              | .charClass inner => .charClass inner
              | .mark place => .mark place
            proceed (item :: items) rest
          else if c = '.' then proceed (.dot :: items) rest
          else if c = '^' then proceed (.mark .lineStart :: items) rest
          else if c = '$' then proceed (.mark .lineEnd :: items) rest
          else proceed (.literal ⟨c, false⟩ :: items) rest

def Tree.ofText? (source : List Char) : Option Tree :=
  match readItems (source.length + 1) false [] [] [] source with
  | some ((_, tree), []) => some tree
  | _ => none

end Pattern
end RecordFilter
