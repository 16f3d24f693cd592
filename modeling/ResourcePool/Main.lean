import ResourcePool.Demo.Catalogue

/-! Runs the demonstration whose name is given. -/

def main (args : List String) : IO UInt32 := do
  match args.head?.bind ResourcePool.Demo.byName? with
  | some lines =>
      lines.forM fun line => IO.println line
      return 0
  | none =>
      IO.eprintln "unknown demo"
      return 1
