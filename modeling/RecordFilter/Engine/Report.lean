import RecordFilter.Engine.Basic

/-!
# The report of an engine

A summary for people: the operators of every type, the saved criteria, and how many
folded texts are remembered.
-/

namespace RecordFilter

def CriterionType.reportLine (type : CriterionType) : String :=
  let names := type.operators.map Operator.name
  "  " ++ type.name ++ ": " ++ (if names.isEmpty then "<predicate>" else ", ".intercalate names)

def Criterion.reportLine (aliasName : String) (criterion : Criterion Hook) : String :=
  let path := if criterion.path.isEmpty then "<record>" else criterion.path.toText
  "  " ++ aliasName ++ ": " ++ criterion.describe ++ " at " ++ path ++ " against " ++
    criterion.operand.describe

/-- The summary of an engine. -/
def Engine.report (engine : Engine Hook) : String :=
  "\n".intercalate <|
    "Operators:" :: (Vocabulary.all : List CriterionType).map CriterionType.reportLine ++
    ("Aliases (" ++ toString engine.registry.length ++ "):") ::
      engine.registry.map (fun (aliasName, criterion) => criterion.reportLine aliasName) ++
    ["Normalizer cache: " ++ toString engine.cachedTexts ++ " entries"]

end RecordFilter
