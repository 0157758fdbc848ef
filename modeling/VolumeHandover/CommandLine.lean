import VolumeHandover.Method

set_option autoImplicit false

/-! # The command line

Each setting has a flag, an environment variable and, as a rule, a default; a flag comes before
its variable. Arguments are taken in order, and the first problem decides. A value may follow
its flag as the next argument, in which case it is checked when the next known flag is met or
the arguments end.
-/

namespace VolumeHandover

namespace CommandLine

/-! ## Settings -/

inductive Setting where
  | driverName
  | method
  | kubeconfig
  | nodeId
  | healthAddr
  | metricsAddr
  | metricsPath
  | bindTimeoutSecs
  | cleanupRetrySteps
  | cleanupRetryIntervalSecs
  | logLevel
deriving DecidableEq, Inhabited, Repr

namespace Setting

def all : List Setting :=
  [driverName, method, kubeconfig, nodeId, healthAddr, metricsAddr, metricsPath,
    bindTimeoutSecs, cleanupRetrySteps, cleanupRetryIntervalSecs, logLevel]

def flag : Setting → String
  | driverName => "driver-name"
  | method => "method"
  | kubeconfig => "kubeconfig"
  | nodeId => "node-id"
  | healthAddr => "health-addr"
  | metricsAddr => "metrics-addr"
  | metricsPath => "metrics-path"
  | bindTimeoutSecs => "bind-timeout-secs"
  | cleanupRetrySteps => "cleanup-retry-steps"
  | cleanupRetryIntervalSecs => "cleanup-retry-interval-secs"
  | logLevel => "log-level"

def environmentName : Setting → String
  | driverName => "DRIVER_NAME"
  | method => "PROVISION_METHOD"
  | kubeconfig => "KUBECONFIG"
  | nodeId => "NODE_NAME"
  | healthAddr => "HEALTH_ADDR"
  | metricsAddr => "METRICS_ADDR"
  | metricsPath => "METRICS_PATH"
  | bindTimeoutSecs => "BIND_TIMEOUT_SECS"
  | cleanupRetrySteps => "CLEANUP_RETRY_STEPS"
  | cleanupRetryIntervalSecs => "CLEANUP_RETRY_INTERVAL_SECS"
  | logLevel => "LOG_LEVEL"

end Setting

def logJsonVariable : String := "LOG_JSON"

/-! ## Options -/

structure Options where
  driverName : String := defaultDriverName
  method : String := "auto"
  kubeconfig : Option String := none
  nodeId : Option String := none
  healthAddr : String := "0.0.0.0:8081"
  /-- Where to serve metrics; nowhere if empty. -/
  metricsAddr : String := "0.0.0.0:8080"
  metricsPath : String := "/metrics"
  bindTimeoutSecs : Nat := 30
  cleanupRetrySteps : Nat := 5
  cleanupRetryIntervalSecs : Nat := 10
  logLevel : String := "info"
  logJson : Bool := false
deriving DecidableEq, Inhabited, Repr

/-- The number that a list of decimal digits stands for; there has to be a digit. -/
def digits? (s : List Char) : Option Nat :=
  if s.isEmpty || !s.all Char.isDigit then none
  else some (s.foldl (fun n c => n * 10 + (c.toNat - '0'.toNat)) 0)

/-- Read a natural number below `bound`, which may have a plus sign. -/
def natural? (bound : Nat) (s : String) : Option Nat :=
  (match s.toList with
    | '+' :: rest => digits? rest
    | chars => digits? chars).filter (· < bound)

/-- Read a natural number below `bound`; zero may have a minus sign. -/
def signedNatural? (bound : Nat) (s : String) : Option Nat :=
  match s.toList with
  | '-' :: rest => (digits? rest).filter (· = 0)
  | _ => natural? bound s

namespace Options

def assign? (o : Options) (setting : Setting) (value : String) : Option Options :=
  match setting with
  | .driverName => some { o with driverName := value }
  | .method => some { o with method := value }
  | .kubeconfig => some { o with kubeconfig := some value }
  | .nodeId => some { o with nodeId := some value }
  | .healthAddr => some { o with healthAddr := value }
  | .metricsAddr => some { o with metricsAddr := value }
  | .metricsPath => some { o with metricsPath := value }
  | .bindTimeoutSecs => (natural? (Nat.pow 2 64) value).map fun n => { o with bindTimeoutSecs := n }
  | .cleanupRetrySteps =>
      (signedNatural? (Nat.pow 2 32) value).map fun n => { o with cleanupRetrySteps := n }
  | .cleanupRetryIntervalSecs =>
      (natural? (Nat.pow 2 64) value).map fun n => { o with cleanupRetryIntervalSecs := n }
  | .logLevel => some { o with logLevel := value }

def config (o : Options) : Config where
  driverName := o.driverName
  method := Method.ofFlag o.method
  bindTimeout := .ofSeconds o.bindTimeoutSecs
  cleanupRetry := {
    steps := o.cleanupRetrySteps
    interval := .ofSeconds o.cleanupRetryIntervalSecs }

end Options

/-! ## Arguments -/

inductive UsageError where
  | helpWanted
  | versionWanted
  | unknownArgument
  /-- A flag lacks its value, or a value is none of the possible ones. -/
  | invalidValue
  | badNumber
  | repeated
  /-- A flag that takes no value has one. -/
  | needlessValue
deriving DecidableEq, Inhabited, Repr

structure Parsed where
  options : Options := {}
  given : List Setting := []
  logJsonGiven : Bool := false
  /-- The setting whose flag came last, with the argument behind it, if that was all. -/
  pending : Option (Setting × Option String) := none
  /-- Nothing but plain arguments may follow. -/
  plainOnly : Bool := false
deriving Inhabited

namespace Parsed

def give (p : Parsed) (setting : Setting) (value : String) : Except UsageError Parsed :=
  if setting ∈ p.given then .error .repeated
  else match p.options.assign? setting value with
    | some options => .ok { p with options, given := p.given ++ [setting] }
    | none => .error .badNumber

/-- Bring the last flag and its value to an end. -/
def settle (p : Parsed) : Except UsageError Parsed :=
  match p.pending with
  | none => .ok p
  | some (_, none) => .error .invalidValue
  | some (setting, some value) => { p with pending := none }.give setting value

/-- A flag, given without its dashes, with the value attached to it. -/
def takeFlag (p : Parsed) (flag : String) (attached : Option String) :
    Except UsageError Parsed :=
  match Setting.all.find? (·.flag = flag), attached with
  | some setting, some value => do (← p.settle).give setting value
  | some setting, none => do return { ← p.settle with pending := some (setting, none) }
  | none, _ =>
      if flag = "log-json" || flag = "help" || flag = "version" then
        if attached.isSome then .error .needlessValue
        else do
          let p ← p.settle
          if flag = "help" then throw .helpWanted
          else if flag = "version" then throw .versionWanted
          else if p.logJsonGiven then throw .repeated
          else return { p with options := { p.options with logJson := true }, logJsonGiven := true }
      else .error .unknownArgument

/-- Short flags, given without their dash. -/
def takeShort (p : Parsed) : List Char → Except UsageError Parsed
  | 'h' :: _ => do
      let _ ← p.settle
      throw .helpWanted
  | 'V' :: _ => do
      let _ ← p.settle
      throw .versionWanted
  | _ => .error .unknownArgument

/-- An argument that is no flag: a value, if one is missing. -/
def takePlain (p : Parsed) (argument : String) : Except UsageError Parsed :=
  match p.pending with
  | some (setting, none) => .ok { p with pending := some (setting, some argument) }
  | _ => .error .unknownArgument

def take (p : Parsed) (argument : String) : Except UsageError Parsed :=
  if p.plainOnly then .error .unknownArgument
  else match argument.toList with
    | ['-', '-'] => .ok { p with plainOnly := true }
    | '-' :: '-' :: rest =>
        let flag := String.ofList (rest.takeWhile (· ≠ '='))
        match rest.dropWhile (· ≠ '=') with
        | _ :: value => p.takeFlag flag (some (String.ofList value))
        | [] => p.takeFlag flag none
    | '-' :: c :: rest => p.takeShort (c :: rest)
    | _ => p.takePlain argument

/-- Take the value of a setting from the environment, unless its flag was given. -/
def takeVariable (environment : String → Option String) (p : Parsed) (setting : Setting) :
    Except UsageError Parsed :=
  if setting ∈ p.given then .ok p
  else match environment setting.environmentName with
    | none => .ok p
    | some value => p.give setting value

/-- Take from the environment whether to log in JSON, unless the flag was given. -/
def takeLogJson (environment : String → Option String) (p : Parsed) : Except UsageError Parsed :=
  if p.logJsonGiven then .ok p
  else match environment logJsonVariable with
    | none => .ok p
    | some value =>
        if value = "true" then .ok { p with options := { p.options with logJson := true } }
        else if value = "false" then .ok p
        else .error .invalidValue

end Parsed

def parse (arguments : List String) (environment : String → Option String) :
    Except UsageError Options := do
  let p ← arguments.foldlM Parsed.take {}
  let p ← p.settle
  let p ← Setting.all.foldlM (Parsed.takeVariable environment) p
  let p ← p.takeLogJson environment
  return p.options

end CommandLine

end VolumeHandover
