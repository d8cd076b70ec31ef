/-!
# Splitting text

A text is split into the parts between the occurrences of a mark.  There is always
one part more than there are marks, and parts may be empty.  A text may also be
split once, at the first occurrence of a mark.
-/

namespace RecordFilter

/-- Split at a mark; `part` holds the part being read, backwards. -/
def splitFrom (mark : Char) (part : List Char) : List Char → List (List Char)
  | [] => [part.reverse]
  | c :: rest =>
      if c = mark then part.reverse :: splitFrom mark [] rest
      else splitFrom mark (c :: part) rest

def splitAtMark (mark : Char) (cs : List Char) : List (List Char) :=
  splitFrom mark [] cs

/-- What stands before and behind the first occurrence of a mark. -/
def splitOnce? (mark : List Char) : List Char → Option (List Char × List Char)
  | [] => none
  | c :: rest =>
      if mark.isPrefixOf (c :: rest) then some ([], (c :: rest).drop mark.length)
      else (splitOnce? mark rest).map fun (before, behind) => (c :: before, behind)

end RecordFilter
