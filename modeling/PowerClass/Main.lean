import PowerClass.Program
import Std.Time.Format

/-!
# PowerClass.Main

The program in the outside world: its files, its account, its output and its clock.
-/

namespace PowerClass
namespace World

/-- The code of an error of the operating system and what it says. -/
def systemError? : IO.Error → Option (UInt32 × String)
  | .alreadyExists _ code details => some (code, details)
  | .otherError code details => some (code, details)
  | .resourceBusy code details => some (code, details)
  | .resourceVanished code details => some (code, details)
  | .unsupportedOperation code details => some (code, details)
  | .hardwareFault code details => some (code, details)
  | .unsatisfiedConstraints code details => some (code, details)
  | .illegalOperation code details => some (code, details)
  | .protocolError code details => some (code, details)
  | .timeExpired code details => some (code, details)
  | .interrupted _ code details => some (code, details)
  | .noFileOrDirectory _ code details => some (code, details)
  | .invalidArgument _ code details => some (code, details)
  | .permissionDenied _ code details => some (code, details)
  | .resourceExhausted _ code details => some (code, details)
  | .inappropriateType _ code details => some (code, details)
  | .noSuchThing _ code details => some (code, details)
  | .unexpectedEof | .userError _ => none

def fileError (e : IO.Error) : FileError :=
  match systemError? e with
  | none => .other e.toString
  | some (code, details) =>
    match code.toNat with
    | 2 => .notFound
    | 11 => .tryAgain
    | 17 => .alreadyExists
    | 19 => .noDevice
    | 20 => .notDirectory
    | 21 => .isDirectory
    | 61 => .noData
    | n => .other (details ++ " (os error " ++ Decimal.ofNat n ++ ")")

def attempt {α : Type} (path : Path) (operation : IO α) : IO (Except FileError α) := do
  if path.text.isEmpty then pure (.error .notFound)
  else
    match ← operation.toBaseIO with
    | .ok value => pure (.ok value)
    | .error e => pure (.error (fileError e))

/-- Whether a file may be written, found out by opening it for appending, which does not change it.
The metadata of a file has no permission bits here, of which `Tree` looks for any that lets somebody
write. The two differ for root, who may write every file, and for a file of another owner, whose
bits may let the owner write and nobody else. -/
def mayWrite (path : Path) : IO Bool := do
  let opened ← attempt path (IO.FS.Handle.mk path.text .append)
  pure opened.toOption.isSome

def fileStatus (path : Path) : IO (Option FileStatus) := do
  let here ← IO.currentDir
  match ← attempt path (here / path.text).metadata with
  | .error _ => pure none
  | .ok found =>
    match found.type with
    | .dir => pure (some ⟨.directory, true⟩)
    | .file => pure (some ⟨.regular, ← mayWrite path⟩)
    | .symlink | .other => pure (some ⟨.special, false⟩)

def accountHome : IO (Option String) := do
  let status ← (IO.FS.readFile "/proc/self/status").toBaseIO
  let accounts ← (IO.FS.readFile "/etc/passwd").toBaseIO
  let fields (line : String) : List String := (line.splitToList (· == ':'))
  let lines (text : Except IO.Error String) : List String :=
    (text.toOption.getD "").splitToList (· == '\n')
  let ids := (lines status).filterMap fun line =>
    match line.splitToList (· == '\t') with
    | "Uid:" :: real :: _ => some real
    | _ => none
  let homes := (lines accounts).filterMap fun line =>
    match fields line with
    | [_, _, id, _, _, home, _] => if ids.contains id then some home else none
    | _ => none
  pure homes.head?

def timeOfDay : IO String := do
  let now ← Std.Time.Timestamp.now
  let wall := Std.Time.WallTime.ofTimestamp now Std.Time.TimeZone.UTC.offset
  pure ((Std.Time.PlainDateTime.ofWallTime wall).format "uuuu-MM-dd'T'HH:mm:ss.SSSSSSSSS")

instance : Disk IO where
  readText path := do
    match ← attempt path (IO.FS.readBinFile path.text) with
    | .error e => pure (.error e)
    | .ok bytes =>
      match String.fromUTF8? bytes with
      | some text => pure (.ok text)
      | none => pure (.error .notText)
  writeText path text := attempt path (IO.FS.writeFile path.text text)
  status := fileStatus
  listDirectory path := do
    let here ← IO.currentDir
    match ← attempt path (here / path.text).readDir with
    | .error e => pure (.error e)
    | .ok entries => pure (.ok (entries.toList.map fun entry => entry.fileName))
  makeDirectories path := attempt path (IO.FS.createDirAll path.text)

instance : Host IO where
  surroundings := do
    let values ← Surroundings.names.filterMapM fun name => do
      pure ((← IO.getEnv name).map (name, ·))
    pure ⟨values, ← accountHome⟩
  print text := do
    let output ← IO.getStdout
    output.putStr text
    output.flush
  warn line := do (← IO.getStderr).putStrLn line
  log destination event := do
    let line := (← timeOfDay) ++ "Z " ++ event.line
    match destination with
    | .user => (← IO.getStderr).putStrLn line
    | .directory path =>
      let day := String.ofList (line.toList.take 10)
      let file := path.join ("supplyfs." ++ day ++ ".log")
      let opened ← attempt file (IO.FS.Handle.mk file.text .append)
      match opened with
      | .ok handle => handle.putStrLn line
      | .error _ => pure ()
  timestamp := do pure ((← timeOfDay) ++ "+00:00")
  now := IO.monoNanosNow
  sleep pause := IO.sleep (UInt32.ofNat (min (pause / 1000000) 0xFFFFFFFF))

end World
end PowerClass

open PowerClass

/-- Runs the program and reports how it fails. -/
def main (words : List String) : IO UInt32 := do
  let outcome : Outcome ← Program.run words
  let errors ← IO.getStderr
  match outcome with
  | .succeeded => pure ()
  | .failed failure =>
    errors.putStrLn "Error: "
    for line in failure.lines do
      errors.putStrLn ("   " ++ line)
  | .refused e =>
    errors.putStrLn ("error: " ++ e.message)
    errors.putStrLn "For more information, try '--help'."
  pure (UInt32.ofNat outcome.exitCode)
