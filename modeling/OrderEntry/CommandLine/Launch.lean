import OrderEntry.Client
import OrderEntry.CommandLine.Settings

/-! The start of the program: from its arguments to a client that is about to connect. -/

namespace OrderEntry

inductive Launch
  | done (exitCode : UInt8) (output : List String)
  | refused (error : ArgumentError)
  | ready (options : Options) (client : Client) (output : List String)

namespace Launch

def refusedCode : UInt8 := 2

def run (o : Options) (env : Environment) : Launch :=
  let (c, warnings) := o.config env
  let output := (warnings ++ [LogLine.startup c]).map LogLine.text
  match Client.new c with
  | .ok client => ready o client output
  | .error e =>
    done refusedCode (output ++ [(LogLine.fault .error "invalid configuration" (.config e)).text])

def start (arguments : List String) (env : Environment) : Launch :=
  match Request.parse {} arguments with
  | .error e => refused e
  | .ok .help => done 0 usage
  | .ok .version => done 0 [versionLine]
  | .ok (.run o) => run o env

end Launch
end OrderEntry
