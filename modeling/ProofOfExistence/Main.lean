import ProofOfExistence.Demo

/-! # The demonstration program

Runs the scenario of `Demo` and prints its report. -/

open ProofOfExistence in
/-- Print the report of the scenario. -/
def main : IO Unit := do
  match Demo.report with
  | .ok report => report.lines.forM IO.println
  | .error fault => IO.eprintln fault.message.toString
