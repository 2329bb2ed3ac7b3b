import PowerClass.Command
import PowerClass.Command.Failure
import PowerClass.Command.Output
import PowerClass.Log.Logger
import PowerClass.Settings.File

/-!
# PowerClass.Command.Run

Carrying commands out. A command on a supply opens it first; what a simulated supply keeps is gone
when the command ends.
-/

namespace PowerClass

/-- What tasks work with. -/
structure Context where
  registry : Registry
  source : Source
  logger : Option Logger

namespace Context

variable {m : Type → Type} [Monad m] [Host m]

/-- The notice of an opened supply. A simulated one is opened without notice. -/
def opened? : Except (Path × Directory.OpenError) OpenSupply → Option Notice
  | .ok (.directory d) => some (.opened d.declaration)
  | .ok (.simulated _ _) => none
  | .error (path, e) => some (.skipped path e)

def list (ctx : Context) : m (Except Failure Unit) := do
  match ← ctx.source.survey ctx.registry with
  | .error e => pure (.error (.source e))
  | .ok found =>
    Logger.noteAll ctx.logger (found.filterMap opened?)
    let supplies := found.filterMap Except.toOption
    Host.print (Output.supplies (supplies.map OpenSupply.declaration))
    pure (.ok ())

def registered (ctx : Context) (asJson : Bool) : m (Except Failure Unit) := do
  Host.print (if asJson then Output.registryJson ctx.registry else Output.registry ctx.registry)
  pure (.ok ())

def attributes (ctx : Context) (asJson : Bool) (supply : Supply m) : m (Except Failure Unit) := do
  let all ← supply.attributes ctx.registry
  Host.print (if asJson then Output.attributesJson all else Output.attributes all)
  pure (.ok ())

def showAttribute (ctx : Context) (device property : String) (supply : Supply m) :
    m (Except Failure Unit) := do
  match ← supply.showAttribute ctx.registry property with
  | .ok text => do
    Host.print text
    pure (.ok ())
  | .error e => do
    let _ ← Logger.noteUnread ctx.logger .initial supply.declaration.name property e
    pure (.error (.reading device property e))

/-- The value that the device was given, when a store came so far. -/
def given? (ctx : Context) (property text : String) : Except AccessError Nat → Option Value
  | .error (.unknownAttribute _) | .error (.readOnly _) | .error (.invalidInput _) => none
  | _ => (ctx.registry.lookup? property).bind fun d => (Codec.decode d.kind text).toOption

def storeAttribute (ctx : Context) (device property text : String) (supply : Supply m) :
    m (Except Failure Unit) := do
  let result ← supply.storeAttribute ctx.registry property text
  let given := ctx.given? property text result
  Logger.noteAll ctx.logger
    (given.toList.map fun value => .storing supply.declaration.name property value)
  match result with
  | .error e => pure (.error (.writing device property e))
  | .ok size => do
    Logger.note ctx.logger (.stored device property size)
    Host.print (Output.stored device property size)
    pure (.ok ())

/-- Takes a snapshot and logs what could not be read. -/
def snapshot (ctx : Context) (window : RateLimit.Window) (supply : Supply m) :
    m (Except AccessError Snapshot × RateLimit.Window) := do
  let name := supply.declaration.name
  let readings ← supply.readAll ctx.registry supply.declaration.properties
  let window ← Logger.noteReadings ctx.logger ctx.registry name window readings
  pure (Snapshot.ofReadings ctx.registry name readings, window)

/-- Prints the variables of a uevent, or the snapshot that they come from. -/
def uevent (ctx : Context) (asJson : Bool) (supply : Supply m) : m (Except Failure Unit) := do
  match ← ctx.snapshot .initial supply with
  | (.error e, _) => pure (.error (.snapshot e))
  | (.ok snapshot, _) =>
    if asJson then do
      Host.print (Output.snapshot snapshot)
      pure (.ok ())
    else
      match Uevent.ofEntries snapshot.entries with
      | .ok env => do
        Host.print (Output.uevent env)
        pure (.ok ())
      | .error (var, refusal) => do
        Logger.note ctx.logger (.refused var refusal)
        pure (.error (.snapshot .allocationFailure))

/-- Prints one sample. A snapshot that fails is a sample too. -/
def sample (ctx : Context) (device : String) (isCompact : Bool) (window : RateLimit.Window)
    (supply : Supply m) : m RateLimit.Window := do
  let timestamp ← Host.timestamp
  let (result, window) ← ctx.snapshot window supply
  match result with
  | .ok _ => pure ()
  | .error e => Logger.note ctx.logger (.snapshotFailed device e)
  Host.print (Output.sample isCompact timestamp device result)
  pure window

/-- Prints one sample and a number of others after it, with a pause before each of those. -/
def samples (ctx : Context) (device : String) (interval : Nat) (isCompact : Bool)
    (window : RateLimit.Window) (supply : Supply m) : Nat → m Unit
  | 0 => do
    let _ ← ctx.sample device isCompact window supply
    pure ()
  | others + 1 => do
    let window ← ctx.sample device isCompact window supply
    Host.sleep interval
    ctx.samples device interval isCompact window supply others

/-- The samples of a watch without end: more than anyone waits for. -/
def endless : Nat := 0x10000000000000000

/-- Prints samples at intervals, without end when their number is zero. -/
def watch (ctx : Context) (device : String) (count interval : Nat) (isCompact : Bool)
    (supply : Supply m) : m (Except Failure Unit) := do
  let count := if count = 0 then endless else count
  ctx.samples device interval isCompact .initial supply (count - 1)
  pure (.ok ())

def withSupply (ctx : Context) (device : String)
    (work : Supply (StateT SimulatedState m) → StateT SimulatedState m (Except Failure Unit)) :
    m (Except Failure Unit) := do
  match ← ctx.source.find ctx.registry device with
  | .error e => pure (.error (.source e))
  | .ok opened =>
    Logger.noteAll ctx.logger (opened? (.ok opened)).toList
    (work opened.supply).run' opened.state

def run (ctx : Context) : Task → m (Except Failure Unit)
  | .list => ctx.list
  | .properties none asJson => ctx.registered asJson
  | .properties (some device) asJson => ctx.withSupply device (ctx.attributes asJson)
  | .showAttribute device property => ctx.withSupply device (ctx.showAttribute device property)
  | .storeAttribute device property text =>
    ctx.withSupply device (ctx.storeAttribute device property text)
  | .uevent device asJson => ctx.withSupply device (ctx.uevent asJson)
  | .watch device count interval isCompact =>
    ctx.withSupply device (ctx.watch device count interval isCompact)

end Context

namespace Command

variable {m : Type → Type} [Monad m] [Host m]

/-- Reads the settings, with a warning when the file holds something else. -/
def loadSettings (surroundings : Surroundings) : m Settings := do
  match ← Settings.load surroundings.settingsFile with
  | some stored => pure stored
  | none => do
    Host.warn ("Warning: ignoring invalid config " ++ surroundings.settingsFile.quote ++
      ": TOML parse error")
    pure .default

/-- Starts the log, unless it is off. What cannot be written to a file goes to the user. -/
def startLog (surroundings : Surroundings) (verbosity : Verbosity) (toFile : Bool) :
    m (Option Logger) := do
  match verbosity with
  | .off => pure none
  | .upTo level =>
    let filter := (surroundings.filter?.map Filter.ofText).getD (.upTo level)
    if toFile then
      match ← Disk.makeDirectories surroundings.logDirectory with
      | .ok () => pure (some ⟨filter, .directory surroundings.logDirectory⟩)
      | .error e => do
        Host.warn ("Warning: cannot log to " ++ surroundings.logDirectory.text ++ ": " ++
          e.message ++ "; logging to stderr")
        pure (some ⟨filter, .user⟩)
    else pure (some ⟨filter, .user⟩)

def buildRegistry (logger : Option Logger) (settings : Settings) :
    m (Except RegistryError Registry) := do
  match settings.registry with
  | .error e => pure (.error e)
  | .ok registry => do
    Logger.note logger (.registryBuilt registry.size)
    pure (.ok registry)

/-- Shows or resets the settings, or prints the path of their file. -/
def configure (surroundings : Surroundings) (logger : Option Logger) (onlyPath reset : Bool) :
    m (Except Failure Unit) := do
  let file := surroundings.settingsFile.text
  if onlyPath then do
    Host.print (Output.lines [file])
    pure (.ok ())
  else if reset then
    match ← Settings.default.save surroundings with
    | .error e => pure (.error (.saving e))
    | .ok () => do
      Host.print (Output.lines ["Config reset to defaults at: " ++ file])
      pure (.ok ())
  else do
    let settings ← loadSettings surroundings
    let _ ← buildRegistry logger settings
    Host.print (Output.settings surroundings settings)
    pure (.ok ())

/-- The source that the options ask for, or else that of the settings. -/
def source (options : Options) (settings : Settings) : Source :=
  match options.fixture with
  | some path => .fixture path
  | none => .directories settings.root

def run (options : Options) (command : Command) : m (Except Failure Unit) := do
  let surroundings ← Host.surroundings
  let settings ← loadSettings surroundings
  let verbosity := (options.logLevel.map Verbosity.ofName).getD settings.verbosity
  let logger ← startLog surroundings verbosity options.logsToFile
  match command with
  | .settings onlyPath reset => configure surroundings logger onlyPath reset
  | .task job =>
    let settings := settings.merge options.root options.sets
    match ← buildRegistry logger settings with
    | .error e => pure (.error (.registry e))
    | .ok registry => do
      let source := source options settings
      Logger.note logger (.registryReady source registry.size)
      (Context.mk registry source logger).run job

end Command
end PowerClass
