import OrderEntry.Rehearsal.ProgramScript

/-! The command line. Settings come from the variables of the environment, then from the file `.env` of
the working folder. No network belongs to this build, so the peer has no route. -/

namespace OrderEntry

def readVariables : IO Environment :=
  Environment.names.filterMapM fun name => return (← IO.getEnv name).map (name, ·)

def readSettingsFile : IO Environment :=
  try return Environment.ofFile (← IO.FS.readFile ".env") catch _ => return []

def runProgram (arguments : List String) : IO UInt32 := do
  let env := (← readVariables) ++ (← readSettingsFile)
  if let .error e := Request.parse {} arguments then
    IO.eprintln s!"error: {e.message}"
  let report := rehearseProgram arguments env { transport := .tcp, routed := false } []
  report.output.forM fun line => IO.println line
  return (report.exitCode.getD 0).toUInt32

end OrderEntry

def main (arguments : List String) : IO UInt32 := OrderEntry.runProgram arguments
