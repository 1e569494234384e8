import JavaCensus.Collect.Unit
import JavaCensus.Source.Unit
import JavaCensus.Metrics.Totals

/-!
# The collector

A collector takes in units one by one. A unit is collected apart from the census and added once it
is complete, so a unit that fails changes nothing.
-/
namespace JavaCensus

structure Collector where
  census : Census
  units : Nat

namespace Collector

def empty : Collector := ⟨.empty, 0⟩

/-- How taking in a unit has ended. -/
structure Outcome where
  collector : Collector
  log : List LogRecord
  result : Except Error Unit

end Collector

/-- Adds a collected unit. -/
def Census.addUnit (c : Census) : CollectedUnit CommentCounts → Census
  | .ordinary u => c.extendPackage u.package u.packageComments [u.unit]
  | .modular u => c.addModularUnits [u]

def CollectedUnit.logRecord {β : Type} (name : String) : CollectedUnit β → LogRecord
  | .ordinary u => .debug ("Collected " ++ name ++ ": " ++ toString u.unit.types.length ++ " types")
  | .modular u => .debug ("Collected module " ++ u.module.name.text ++ " from " ++ name)

namespace Collector

def collectUnit (c : Collector) (name : String) (unit : Node) : Outcome :=
  if name = "" then ⟨c, [], .error .emptyUnitName⟩
  else
    match (JavaCensus.collectUnit unit name).run.run .empty with
    | (.error e, _) => ⟨c, [], .error e⟩
    | (.ok u, ledger) =>
      ⟨⟨c.census.addUnit (u.map .ofComments), c.units + 1⟩,
        [u.logRecord name,
          .debug ("Merged " ++ name ++ " (" ++ toString ledger.size ++ " comments attributed)")],
        .ok ()⟩

/-- Reads a source and collects it as the unit of the given name. -/
def collect (c : Collector) (level : LanguageLevel) (preview : Bool) (name : String)
    (source : SourceText) (parse : Parse) : Outcome :=
  match readUnit name level preview source parse with
  | .error e => ⟨c, [], .error e⟩
  | .ok u =>
    let outcome := c.collectUnit name u.unit
    { outcome with log := u.logRecord name :: outcome.log }

end Collector

end JavaCensus
