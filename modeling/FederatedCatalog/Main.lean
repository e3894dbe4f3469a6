import FederatedCatalog.Command.Report

open FederatedCatalog.Command in
/-- Looks up paths and tables in the catalog that a file describes, and prints what is found. -/
def main (words : List String) : IO UInt32 := do
  let report ← match Arguments.read words with
    | .error stop => pure (stopReport stop)
    | .ok arguments => do
      let bytes ← (IO.FS.readBinFile (arguments.catalog?.getD "")).toBaseIO
      pure (fileReport arguments bytes.toOption)
  IO.print report.output
  IO.eprint report.complaint
  return UInt32.ofNat report.exitCode
