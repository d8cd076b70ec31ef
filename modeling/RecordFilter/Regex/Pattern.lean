import RecordFilter.Regex.Meaning
import RecordFilter.Regex.Reader
import RecordFilter.Regex.Size

/-!
# Patterns

A pattern is a text that describes a regular expression, together with the
expression.  A text describes none if it cannot be read, if its parts are nested too
deep, if a part of it has no meaning under its flags, or if the expression is too
large.

The main statement says that a pattern is known by its text.
-/

namespace RecordFilter

namespace Pattern

/-- How deep the parts of a pattern may be nested. -/
def nestLimit : Nat := 250

end Pattern

def Regex.ofText? (source : String) : Option Regex := do
  let tree ← Pattern.Tree.ofText? source.toList
  guard (tree.depth ≤ Pattern.nestLimit)
  let (regex, _) ← tree.regex? .initial
  guard regex.size.isWithinLimit
  return regex

/-- A regular expression together with the text that describes it. -/
structure Pattern where
  source : String
  regex : Regex
  described : Regex.ofText? source = some regex

namespace Pattern

def ofText? (source : String) : Option Pattern :=
  match h : Regex.ofText? source with
  | some regex => some ⟨source, regex, h⟩
  | none => none

def matchesIn (pattern : Pattern) (text : String) : Bool :=
  pattern.regex.matchesIn text.toList

theorem ext_source {a b : Pattern} (h : a.source = b.source) : a = b := by
  obtain ⟨source, regex, described⟩ := a
  obtain ⟨source', regex', described'⟩ := b
  simp only at h
  subst h
  have : some regex = some regex' := described.symm.trans described'
  cases this
  rfl

instance : DecidableEq Pattern := fun a b =>
  if h : a.source = b.source then isTrue (ext_source h)
  else isFalse fun heq => h (congrArg Pattern.source heq)

end Pattern
end RecordFilter
