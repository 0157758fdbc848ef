import VolumeHandover.CommandLine
import VolumeHandover.Json.Writer

set_option autoImplicit false

/-! # The program

Reads the command line and the environment and prints the settings that they come to, as one
JSON object. What cannot be understood is reported on the error output, with exit code 2.
-/

namespace VolumeHandover

namespace CommandLine

/-- What is printed when help is wanted: each flag with its variable. -/
def usage : String :=
  let flags := Setting.all.map fun s => "      --" ++ s.flag ++ " <VALUE>  [env: " ++
    s.environmentName ++ "]"
  "\n".intercalate (["Usage: " ++ provisionerName ++ " [OPTIONS]", "", "Options:"] ++ flags ++
    ["      --log-json  [env: " ++ logJsonVariable ++ "]", "  -h, --help", "  -V, --version"])

def Options.toJson (o : Options) : Json :=
  .ofFields [
    ("driver_name", .text o.driverName), ("method", .text o.config.method.name),
    ("kubeconfig", .ofText? o.kubeconfig), ("node_id", .ofText? o.nodeId),
    ("health_addr", .text o.healthAddr), ("metrics_addr", .text o.metricsAddr),
    ("metrics_path", .text o.metricsPath), ("bind_timeout_secs", .nat o.bindTimeoutSecs),
    ("cleanup_retry_steps", .nat o.cleanupRetrySteps),
    ("cleanup_retry_interval_secs", .nat o.cleanupRetryIntervalSecs),
    ("log_level", .text o.logLevel), ("log_json", .bool o.logJson)]

def UsageError.message : UsageError → String
  | .helpWanted => usage
  | .versionWanted => provisionerName ++ " " ++ driverVersion
  | .unknownArgument => "error: unexpected argument"
  | .invalidValue => "error: a value is missing or not a possible one"
  | .badNumber => "error: a value is not a number in range"
  | .repeated => "error: an argument cannot be used multiple times"
  | .needlessValue => "error: unexpected value for a flag"

/-- The names of all environment variables that count. -/
def environmentNames : List String := Setting.all.map Setting.environmentName ++ [logJsonVariable]

end CommandLine

end VolumeHandover

open VolumeHandover CommandLine in
def main (arguments : List String) : IO UInt32 := do
  let found ← environmentNames.mapM fun name => do return (name, ← IO.getEnv name)
  match parse arguments fun name => (found.lookup name).join with
  | .ok options =>
      IO.println options.toJson.write
      return 0
  | .error e =>
      if e = .helpWanted || e = .versionWanted then
        IO.println e.message
        return 0
      else
        IO.eprintln e.message
        return 2
