import Chronicle.Node

/-! The node's command line. -/

open Chronicle

/-- Reads lines until standard input ends. -/
partial def untilEnd (stdin : IO.FS.Stream) : IO Unit := do
  let line ← stdin.getLine
  if line.isEmpty then pure () else untilEnd stdin

/-- Starts a node and keeps it until standard input ends. -/
def main : IO UInt32 := do
  let values ← Node.settingKeys.mapM (fun k => do pure (k, ← IO.getEnv k))
  let env := fun k => (values.lookup k).join
  match Node.start env with
  | (true, _) =>
    IO.println "node ready; close standard input to stop"
    untilEnd (← IO.getStdin)
    IO.println "system shut down"
    pure 0
  | (false, _) =>
    IO.eprintln "supervisors did not become ready"
    pure 1
