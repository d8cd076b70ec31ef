import RecordFilter.Regex.CharSet

/-!
# Regular expressions

A regular expression is matched by following all its ways at once.  A way is the
expression that is still to be matched; reading a character replaces every way by
the ways that are left after it.  An assertion looks at the characters on both
sides of a place, so whether an expression matches nothing depends on them.

A group that remembers where it matched matches what its content matches.

The search starts the expression anew at every place and succeeds as soon as one
way has nothing left to match.
-/

namespace RecordFilter

/-- A condition on a place between two characters. -/
inductive Assertion where
  | textStart
  | textEnd
  | lineStart
  | lineEnd
  | returnLineStart
  | returnLineEnd
  | boundary (ascii : Bool)
  | notBoundary (ascii : Bool)
  | wordStart (ascii : Bool)
  | wordEnd (ascii : Bool)
  | wordStartHalf (ascii : Bool)
  | wordEndHalf (ascii : Bool)
  deriving DecidableEq, Repr

inductive Regex where
  | empty
  | chars (set : CharSet)
  | assert (assertion : Assertion)
  | seq (a b : Regex)
  | alt (a b : Regex)
  | repeated (a : Regex) (least : Nat) (most : Option Nat)
  | group (a : Regex)
  deriving DecidableEq, Repr

/-- Whether there is a word character on one side of a place. -/
def besideWord (ascii : Bool) (c : Option Char) : Bool :=
  match c with
  | some c => if ascii then isAsciiWordChar c else isWordChar c
  | none => false

namespace Assertion

/-- Whether the condition holds between two characters; an end of the text has none. -/
def holds (before after : Option Char) : Assertion → Bool
  | .textStart => before.isNone
  | .textEnd => after.isNone
  | .lineStart => before.isNone || before == some '\n'
  | .lineEnd => after.isNone || after == some '\n'
  | .returnLineStart =>
      before.isNone || before == some '\n' || (before == some '\r' && after != some '\n')
  | .returnLineEnd =>
      after.isNone || after == some '\r' || (after == some '\n' && before != some '\r')
  | .boundary ascii => besideWord ascii before != besideWord ascii after
  | .notBoundary ascii => besideWord ascii before == besideWord ascii after
  | .wordStart ascii => !besideWord ascii before && besideWord ascii after
  | .wordEnd ascii => besideWord ascii before && !besideWord ascii after
  | .wordStartHalf ascii => !besideWord ascii before
  | .wordEndHalf ascii => !besideWord ascii after

end Assertion

namespace Regex

/-- Whether the expression matches nothing at a place. -/
def matchesEmpty (before after : Option Char) : Regex → Bool
  | .empty => true
  | .chars _ => false
  | .assert assertion => assertion.holds before after
  | .seq a b => a.matchesEmpty before after && b.matchesEmpty before after
  | .alt a b => a.matchesEmpty before after || b.matchesEmpty before after
  | .repeated a least _ => least == 0 || a.matchesEmpty before after
  | .group a => a.matchesEmpty before after

/-- Match expressions one after another. -/
def sequence : List Regex → Regex
  | [] => .empty
  | .empty :: rest => sequence rest
  | a :: rest =>
      match sequence rest with
      | .empty => a
      | tail => .seq a tail

/-- The set of an expression that reads one character. -/
def charSet? : Regex → Option CharSet
  | .chars set => some set
  | _ => none

def anyOf : List Regex → Regex
  | [] => .chars .none
  | [a] => a
  | a :: rest => .alt a (anyOf rest)

/-- Match any of some expressions, which are one set if all of them read one character. -/
def alternatives (branches : List Regex) : Regex :=
  match branches.mapM charSet? with
  | some sets => .chars (.ofList sets)
  | none => anyOf branches

def andThen (a b : Regex) : Regex :=
  match a with
  | .empty => b
  | a => .seq a b

/-- The rounds that are left after one round; empty rounds may stand for missing ones. -/
def roundsLeft (a : Regex) (least : Nat) (most : Option Nat) (skips : Bool) : Regex :=
  .repeated a (if skips then 0 else least - 1) (most.map (· - 1))

/-- The ways that are left after reading the character `c` behind `before`. -/
def after (before : Option Char) (c : Char) : Regex → List Regex
  | .empty => []
  | .chars set => if set.has c.toNat then [.empty] else []
  | .assert _ => []
  | .seq a b =>
      (a.after before c).map (·.andThen b) ++
        if a.matchesEmpty before (some c) then b.after before c else []
  | .alt a b => a.after before c ++ b.after before c
  | .repeated a least most =>
      if most == some 0 then []
      else
        (a.after before c).map
          (·.andThen (roundsLeft a least most (a.matchesEmpty before (some c))))
  | .group a => a.after before c

/-- Search from a place on, with the ways that are under way there. -/
def searchFrom (start : Regex) (ways : List Regex) (before : Option Char) : List Char → Bool
  | [] => (start :: ways).any (·.matchesEmpty before none)
  | c :: cs =>
      (start :: ways).any (·.matchesEmpty before (some c)) ||
        searchFrom start ((start :: ways).flatMap (·.after before c)).eraseDups (some c) cs

def matchesIn (r : Regex) (text : List Char) : Bool :=
  r.searchFrom [] none text

end Regex
end RecordFilter
