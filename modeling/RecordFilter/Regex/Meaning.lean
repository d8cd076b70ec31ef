import RecordFilter.Regex.Basic
import RecordFilter.Regex.ClassName
import RecordFilter.Regex.Tree

/-!
# What patterns mean

The regular expression that a pattern tree stands for depends on the flags in force
where it stands.  Texts are sequences of characters, so without the Unicode flag a
part that could match a single byte beyond the ASCII range has no meaning.
-/

namespace RecordFilter

namespace Pattern

structure Flags where
  caseless : Bool
  multiLine : Bool
  dotAll : Bool
  returns : Bool
  unicode : Bool

namespace Flags

def initial : Flags :=
  ⟨false, false, false, false, true⟩

def update (flags : Flags) (change : FlagChange) : Flags where
  caseless := Flag.caseless.valueAfter change flags.caseless
  multiLine := Flag.multiLine.valueAfter change flags.multiLine
  dotAll := Flag.dotAll.valueAfter change flags.dotAll
  returns := Flag.returns.valueAfter change flags.returns
  unicode := Flag.unicode.valueAfter change flags.unicode

/-- Close a set under letter case if case is to be ignored. -/
def close (flags : Flags) (set : CharSet) : CharSet :=
  if flags.caseless then if flags.unicode then .anyCase set else .anyAsciiCase set else set

/-- Without the Unicode flag, what a class leaves out holds bytes that are no characters. -/
def negate? (flags : Flags) (negated : Bool) (set : CharSet) : Option CharSet :=
  if negated && !flags.unicode then none else some (set.negateIf negated)

end Flags

/-! ## Classes -/

namespace Literal

/-- Whether a literal can be a member of a class. -/
def isMember (literal : Literal) (flags : Flags) : Bool :=
  flags.unicode || literal.char.toNat < 0x80

def regex? (literal : Literal) (flags : Flags) : Option Regex :=
  let set : CharSet := .single literal.char
  if flags.unicode || literal.char.toNat < 0x80 then some (.chars (flags.close set))
  else if literal.isByte then none
  else some (.chars set)

end Literal

namespace Shorthand

def set (flags : Flags) : Shorthand → CharSet
  | .digit =>
      if flags.unicode then .named (.category .decimalNumber) else ClassName.asciiDigit
  | .space => if flags.unicode then .named (.property .whiteSpace) else ClassName.asciiSpace
  | .word => if flags.unicode then .named .word else ClassName.asciiWord

end Shorthand

namespace SetOperation

def apply : SetOperation → CharSet → CharSet → CharSet
  | .inter, a, b => .inter a b
  | .diff, a, b => .diff a b
  | .symmetricDiff, a, b => CharSet.symmetricDiff a b

end SetOperation

namespace CharClass

mutual

/--
The characters of a class.  Case is closed under before anything is negated, and on
both sides of an operation before it is applied.
-/
def set? (flags : Flags) : CharClass → Option CharSet
  | .nothing => some .none
  | .literal c => if c.isMember flags then some (.single c.char) else none
  | .range first last =>
      if first.isMember flags && last.isMember flags then
        some (.range first.char.toNat last.char.toNat)
      else none
  | .ascii negated set => flags.negate? negated (flags.close set)
  | .property negated set =>
      if flags.unicode then some ((flags.close set).negateIf negated) else none
  | .shorthand negated kind => flags.negate? negated (kind.set flags)
  | .bracketed negated inner => do
      let set ← inner.set? flags
      flags.negate? negated (flags.close set)
  | .union items => (sets? flags items).map .ofList
  | .operation kind left right => do
      let a ← left.set? flags
      let b ← right.set? flags
      return kind.apply (flags.close a) (flags.close b)

def sets? (flags : Flags) : List CharClass → Option (List CharSet)
  | [] => some []
  | item :: rest => do
      let set ← item.set? flags
      let sets ← sets? flags rest
      return set :: sets

end

end CharClass

/-! ## Expressions -/

namespace Mark

def assertion (flags : Flags) : Mark → Assertion
  | .lineStart =>
      if flags.multiLine then if flags.returns then .returnLineStart else .lineStart
      else .textStart
  | .lineEnd =>
      if flags.multiLine then if flags.returns then .returnLineEnd else .lineEnd else .textEnd
  | .textStart => .textStart
  | .textEnd => .textEnd
  | .boundary => .boundary (!flags.unicode)
  | .notBoundary => .notBoundary (!flags.unicode)
  | .wordStart => .wordStart (!flags.unicode)
  | .wordEnd => .wordEnd (!flags.unicode)
  | .wordStartHalf => .wordStartHalf (!flags.unicode)
  | .wordEndHalf => .wordEndHalf (!flags.unicode)

end Mark

/-- The dot: any character, save line ends unless they are included. -/
def dot? (flags : Flags) : Option Regex :=
  if !flags.unicode then none
  else if flags.dotAll then some (.chars .any)
  else if flags.returns then
    some (.chars (.compl (.union (.single '\n') (.single '\r'))))
  else some (.chars (.compl (.single '\n')))

namespace Tree

mutual

/-- The expression that a tree stands for, and the flags in force behind it. -/
def regex? (flags : Flags) : Tree → Option (Regex × Flags)
  | .empty => some (.empty, flags)
  | .setting change => some (.empty, flags.update change)
  | .literal c => (c.regex? flags).map fun r => (r, flags)
  | .dot => (dot? flags).map fun r => (r, flags)
  | .mark place => some (.assert (place.assertion flags), flags)
  | .charClass inner => (inner.set? flags).map fun set => (.chars set, flags)
  | .repeated inner least most => do
      let (r, flags) ← inner.regex? flags
      return (.repeated r least most, flags)
  | .group inner => do
      let (r, _) ← inner.regex? flags
      return (.group r, flags)
  | .scope change inner => do
      let (r, _) ← inner.regex? (flags.update change)
      return (r, flags)
  | .alternation branches => do
      let (rs, flags) ← regexes? flags branches
      return (.alternatives rs, flags)
  | .sequence items => do
      let (rs, flags) ← regexes? flags items
      return (.sequence rs, flags)

def regexes? (flags : Flags) : List Tree → Option (List Regex × Flags)
  | [] => some ([], flags)
  | item :: rest => do
      let (r, flags) ← item.regex? flags
      let (rs, flags) ← regexes? flags rest
      return (r :: rs, flags)

end

end Tree

end Pattern
end RecordFilter
