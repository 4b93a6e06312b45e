import Starlane.Drill

/-- Prints the report of the drill. -/
def main (arguments : List String) : IO UInt32 := do
  let (text, code) := Starlane.Drill.run arguments
  IO.print text
  return code
