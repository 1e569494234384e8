import JavaCensus.Calendar

/-!
# Report metadata
-/
namespace JavaCensus

/-- When a report was created and by which version of the program. Either may be left out. -/
structure Metadata where
  created : Option Moment
  version : Option String
  deriving DecidableEq, Repr

end JavaCensus
