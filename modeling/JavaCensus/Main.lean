import JavaCensus.Interchange.Surroundings

/-!
# The program

Reads a document of its surroundings from standard input and runs on its arguments. The report goes
to standard output or to its file, the log and the status to standard error.
-/
namespace JavaCensus

/-- The log records that a run shows. -/
def shownLog (args : List String) (r : Run) : List LogRecord :=
  let bound := match Request.ofArguments? false args with
    | some (.collect request) => LogLevel.threshold request.verbose request.quiet
    | _ => LogLevel.threshold false false
  r.log.filter (·.level.shownUnder bound)

partial def readAll (input : IO.FS.Stream) (lines : Array String) : IO String := do
  let line ← input.getLine
  if line.isEmpty then return String.join lines.toList else readAll input (lines.push line)

end JavaCensus

open JavaCensus in
def main (args : List String) : IO UInt32 := do
  let text ← readAll (← IO.getStdin) #[]
  let j := (Json.read? text).getD .null
  let now := (Moment.ofJson? (j.member "timestamp")).getD ⟨⟨1970, 1, 1⟩, ⟨0, 0, 0, 0⟩⟩
  let r := (Surroundings.ofJson ⟨"/", []⟩ now j).run args
  for record in shownLog args r do
    IO.eprintln record.line
  IO.eprint r.statusText
  IO.print r.output
  match r.written with
  | some file => IO.FS.writeFile (Path.joined (file.place.drop 1)) file.content
  | none => pure ()
  if r.interruption.isSome then IO.eprintln "interrupted"
  return UInt32.ofNat r.exitCode
