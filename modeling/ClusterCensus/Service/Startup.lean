import ClusterCensus.Cycle.Collector

/-!
# Settings, logs and start of the service

Settings come from the environment. A variable that is missing or empty leaves the default. A
number that cannot be read leaves the default too, but a switch that is neither on nor off is an
error.

Notes go to the common log with time, level and source. Record lines have a log of their own and
go out bare, so that they can be read as JSON. Requests that only probe the service are kept out
of the access log.

The parts of the service are put together once, from the environment and the credentials. When
the service starts it watches the cluster, unless collecting is switched off or there are no
credentials.
-/
namespace ClusterCensus

/-! ### Settings -/

open ClusterCensus.Text

abbrev Environment := List (String × String)

/-- What the service can be told. -/
structure Settings where
  listenPort : Int
  logLevel : String
  requestTimeout : Int
  collectorEnabled : Bool
deriving DecidableEq, Inhabited

namespace Settings

/-- The character may surround a number; information separators may not. -/
def isPadding (c : Char) : Bool :=
  isBlank c && !(28 ≤ c.toNat && c.toNat ≤ 31)

/-- The value of a variable that is set to something. -/
def nonEmpty? (env : Environment) (name : String) : Option String :=
  (env.lookup name).filter fun value => !value.isEmpty

def number (env : Environment) (name : String) (default : Int) : Int :=
  match nonEmpty? env name with
  | none => default
  | some value => (Numeral.integer? (trimBy isPadding value.toList)).getD default

/-- Whether a text switches something on or off. -/
def switch? (text : String) : Option Bool :=
  let word := String.ofList (lower (trim text.toList))
  if ["1", "true", "yes", "on"].contains word then some true
  else if ["0", "false", "no", "off"].contains word then some false
  else none

def switch (env : Environment) (name : String) (default : Bool) : Except Fault Bool :=
  match nonEmpty? env name with
  | none => .ok default
  | some value =>
    match switch? value with
    | some b => .ok b
    | none => .error (.notBoolean name value)

def ofEnvironment (env : Environment) : Except Fault Settings := do
  let enabled ← switch env "COLLECTOR_ENABLED" true
  return {
    listenPort := number env "PORT" 8000
    logLevel := (env.lookup "LOG_LEVEL").getD "info"
    requestTimeout := number env "K8S_API_TIMEOUT_SECONDS" 10
    collectorEnabled := enabled }

end Settings

/-! ### The logs -/

namespace Log

open ClusterCensus.Text

/-- A message that a logger was given. -/
structure Message where
  logger : String
  level : String
  text : String
deriving DecidableEq

def recordLogger : String := "kube_stats"

def recordLevel : String := "INFO"

/-- A sink that hands every line to a logger. -/
structure LineSink where
  logger : String := recordLogger

def LineSink.emit (sink : LineSink) (line : String) : Message :=
  ⟨sink.logger, recordLevel, line⟩

/-- The message was given to a logger or to one below it. -/
def Message.reaches (message : Message) (logger : String) : Bool :=
  message.logger == logger || (logger ++ ".").toList.isPrefixOf message.logger.toList

/-- What a line of the common log shows, in order. -/
inductive Column where
  | time
  | level
  | source
  | text
deriving DecidableEq

/-- The paths that probe the service. -/
def probePaths : List String := ["/healthz", "/ping"]

structure Setup where
  rootLevel : String
  rootColumns : List Column := [.time, .level, .source, .text]
  accessFilter : List String := probePaths
  recordLevel : String := Log.recordLevel
  recordsReachRoot : Bool := false

/-- The level that a name in capitals stands for. -/
def levelNamed? (name : String) : Option String :=
  [("CRITICAL", "CRITICAL"), ("FATAL", "CRITICAL"), ("ERROR", "ERROR"), ("WARN", "WARNING"),
   ("WARNING", "WARNING"), ("INFO", "INFO"), ("DEBUG", "DEBUG"), ("NOTSET", "NOTSET")].lookup name

def configure (level : String) : Except Fault Setup :=
  let name := String.ofList (upper level.toList)
  match levelNamed? name with
  | some known => .ok { rootLevel := known }
  | none => .error (.unknownLevel name)

/-- What is written for record lines. -/
def written (lines : List String) : String :=
  String.join (lines.map (· ++ "\n"))

inductive AccessArguments where
  /-- Client, method, path, and what follows them. -/
  | positional (values : List Value)
  | other

def pathOf (target : List Char) : String :=
  String.ofList (target.takeWhile (· != '?'))

/-- The access message is kept: it is not about one of the paths. -/
def keeps (paths : List String) : AccessArguments → Except Fault Bool
  | .positional (_ :: _ :: target :: _) => do
    let text ← target.display
    return !paths.contains (pathOf text)
  | _ => .ok true

end Log

/-! ### Starting up -/

structure Service where
  settings : Settings
  gateway : Gateway
  sink : Log.LineSink
  collector : Collector

namespace Service

def assemble (env : Environment) (inCluster fromFile : Credentials) : Noted Service := do
  let settings ← Trace.ofExcept (Settings.ofEnvironment env)
  let gateway ← Gateway.connect inCluster fromFile settings.requestTimeout
  return ⟨settings, gateway, {}, {}⟩

/-- Starts the service on a cluster that takes on the given states before the service stops. -/
def start (service : Service) (w : Surroundings) (clusters : List Cluster) : Collector :=
  let c := service.collector.enter (.note (.serviceStarting service.settings.listenPort))
  if !service.settings.collectorEnabled then c.enter (.note .collectionDisabled)
  else if !service.gateway.configured then c.enter (.note .collectionUnconfigured)
  else (c.watch w service.gateway clusters).2

end Service

end ClusterCensus
