import ColumnBinding.Inspection.Command

/-! The command line: reports on standard output, messages and log lines on standard error. Two settings
of the environment are left out. `SINKMAP_LOG_FORMAT` is not read: a log line is always a JSON object,
and has no time. Of `RUST_LOG` only the plain name of a level is read, no directive that names a target. -/
namespace ColumnBinding.Inspection

/-- The level up to which events are logged. Without a known name it is `info`. -/
def logLimit : IO (Option Level) := do
  let name ← IO.getEnv "RUST_LOG"
  return (name.bind Level.limit?).getD (some .info)

/-- Runs the command and returns its exit code. -/
def perform (arguments : List String) : IO UInt32 := do
  let outcome := run arguments (← IO.getEnv "SINKMAP_OUTPUT")
  for event in Event.admitted (← logLimit) outcome.events do
    IO.eprintln event.toJson.compact
  IO.eprint outcome.stderr
  IO.print outcome.stdout
  return outcome.exit.toUInt32

end ColumnBinding.Inspection

def main (arguments : List String) : IO UInt32 := ColumnBinding.Inspection.perform arguments
