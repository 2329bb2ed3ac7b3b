import PowerClass.Command
import PowerClass.Command.Switch
import PowerClass.Decimal
import PowerClass.Duration

/-!
# PowerClass.Command.Arguments

Reading the command line. It has two levels: what stands before the name of a command, and what
stands after it. The switches of all commands may stand at either level, and what the second level
gives counts more. Words are taken from left to right, and the first that is at fault, or that asks
for help or the version, ends the reading.
-/

namespace PowerClass

/-- Why words are no command. -/
inductive ArgumentError where
  | unknown (word : String)
  | missingValue (switch : Switch)
  | needlessValue (switch : Switch)
  | invalidValue (switch : Switch) (value : String)
  | repeated (switch : Switch)
  | conflict (first second : Switch)
  | missingOperand (name : String)
  deriving DecidableEq

namespace ArgumentError

def message : ArgumentError → String
  | .unknown word => "unexpected argument `" ++ word ++ "`"
  | .missingValue switch => "`--" ++ switch.long ++ "` needs a value"
  | .needlessValue switch => "`--" ++ switch.long ++ "` takes no value"
  | .invalidValue switch value => "invalid value `" ++ value ++ "` for `--" ++ switch.long ++ "`"
  | .repeated switch => "`--" ++ switch.long ++ "` is given more than once"
  | .conflict first second =>
    "`--" ++ first.long ++ "` cannot be used with `--" ++ second.long ++ "`"
  | .missingOperand name => "<" ++ name ++ "> is missing"

end ArgumentError

/-- Why there is no command to run. -/
inductive Stop where
  | help
  | version
  | fault (error : ArgumentError)
  deriving DecidableEq

namespace Arguments

/-- A word of one level: a switch, with its value if it takes one, or an operand. -/
inductive Item where
  | switch (switch : Switch) (value : String)
  | operand (text : String)
  deriving DecidableEq

/-- What ends a level. -/
inductive Ending where
  | finished
  | command (verb : Verb) (rest : List String)
  | help (rest : List String)
  | fault (error : ArgumentError)
  deriving DecidableEq

/-- What a group of letters ends with: nothing, a switch that waits for its value, or a fault. -/
inductive Open where
  | closed
  | waiting (switch : Switch)
  | fault (error : ArgumentError)
  deriving DecidableEq

/-- The switches of letters after one hyphen. A letter that takes a value takes the letters after
it, less an equals sign in front. -/
def letters (allowed : List Switch) : List Char → List Item × Open
  | [] => ([], .closed)
  | c :: cs =>
    match allowed.find? fun s => s.short? == some c with
    | none => ([], .fault (.unknown (String.ofList ['-', c])))
    | some s =>
      if s.takesValue then
        match cs with
        | [] => ([], .waiting s)
        | '=' :: value => ([.switch s (String.ofList value)], .closed)
        | value => ([.switch s (String.ofList value)], .closed)
      else
        let (items, last) := letters allowed cs
        (.switch s "" :: items, last)

/-- The switch of a name after two hyphens, where a value may follow an equals sign. -/
def name (allowed : List Switch) (cs : List Char) : List Item × Open :=
  let word := String.ofList (cs.takeWhile (· != '='))
  match allowed.find? fun s => s.long == word with
  | none => ([], .fault (.unknown ("--" ++ word)))
  | some s =>
    match cs.dropWhile (· != '='), s.takesValue with
    | [], true => ([], .waiting s)
    | [], false => ([.switch s ""], .closed)
    | _ :: value, true => ([.switch s (String.ofList value)], .closed)
    | _ :: _, false => ([], .fault (.needlessValue s))

/-- Whether a word is a switch, and so no value of the switch before it. -/
def isSwitch (word : String) : Bool :=
  match word.toList with
  | '-' :: _ :: _ => true
  | _ => false

/-- The items of one level up to its ending. `verbs` says whether the name of a command may end the
level; `waiting` is a switch whose value comes next. -/
def scan (allowed : List Switch) (verbs : Bool) (waiting : Option Switch) :
    List String → List Item × Ending
  | [] =>
    match waiting with
    | none => ([], .finished)
    | some s => ([], .fault (.missingValue s))
  | word :: rest =>
    match waiting, word.toList with
    | some s, _ =>
      if isSwitch word then ([], .fault (.missingValue s))
      else
        let (items, ending) := scan allowed verbs none rest
        (.switch s word :: items, ending)
    | none, ['-', '-'] => (rest.map .operand, .finished)
    | none, '-' :: c :: cs =>
      let (first, last) := if c = '-' then name allowed cs else letters allowed (c :: cs)
      match last with
      | .fault e => (first, .fault e)
      | .closed =>
        let (items, ending) := scan allowed verbs none rest
        (first ++ items, ending)
      | .waiting s =>
        let (items, ending) := scan allowed verbs (some s) rest
        (first ++ items, ending)
    | none, _ =>
      let next := if verbs then Verb.ofName? word else none
      match next with
      | some verb => ([], .command verb rest)
      | none =>
        if verbs && word == "help" then ([], .help rest)
        else
          let (items, ending) := scan allowed verbs none rest
          (.operand word :: items, ending)

/-- What one level gives. -/
structure Given where
  root : Option Path := none
  fixture : Option Path := none
  sets : List ExtensionSet := []
  logLevel : Option String := none
  logFile : Bool := false
  device : Option String := none
  json : Bool := false
  samples : Option Nat := none
  interval : Option Nat := none
  compact : Bool := false
  path : Bool := false
  reset : Bool := false
  operands : List String := []
  deriving DecidableEq

namespace Given

/-- A value that is given once only. -/
def once {α : Type} (switch : Switch) (old : Option α) (value : String) (new : Option α) :
    Except Stop (Option α) :=
  match new, old with
  | none, _ => .error (.fault (.invalidValue switch value))
  | some _, some _ => .error (.fault (.repeated switch))
  | some new, none => .ok (some new)

/-- A switch without a value that is given once only. -/
def mark (switch : Switch) (old : Bool) : Except Stop Bool :=
  if old then .error (.fault (.repeated switch)) else .ok true

/-- A path, which must not be empty. -/
def path? (value : String) : Option Path :=
  if value.isEmpty then none else some (.ofString value)

/-- A number of samples, in 32 bits. A sign is allowed. -/
def samples? (value : String) : Option Nat :=
  match Decimal.read? value.toList with
  | some n => if 0 ≤ n ∧ n < 0x100000000 then some n.toNat else none
  | none => none

def addSwitch (given : Given) (switch : Switch) (value : String) : Except Stop Given :=
  match switch with
  | .root => do
    let root ← once .root given.root value (path? value)
    .ok { given with root }
  | .fixture => do
    let fixture ← once .fixture given.fixture value (path? value)
    .ok { given with fixture }
  | .extension =>
    match ExtensionSet.ofName? value with
    | none => .error (.fault (.invalidValue .extension value))
    | some set => .ok { given with sets := given.sets ++ [set] }
  | .logLevel => do
    let logLevel ← once .logLevel given.logLevel value (some value)
    .ok { given with logLevel }
  | .logFile => do
    let logFile ← mark .logFile given.logFile
    .ok { given with logFile }
  | .help => .error .help
  | .version => .error .version
  | .device => do
    let device ← once .device given.device value (some value)
    .ok { given with device }
  | .json => do
    let json ← mark .json given.json
    .ok { given with json }
  | .samples => do
    let samples ← once .samples given.samples value (samples? value)
    .ok { given with samples }
  | .interval => do
    let interval ← once .interval given.interval value (Duration.read? value)
    .ok { given with interval }
  | .compact => do
    let compact ← mark .compact given.compact
    .ok { given with compact }
  | .path => do
    let path ← mark .path given.path
    .ok { given with path }
  | .reset => do
    let reset ← mark .reset given.reset
    .ok { given with reset }

/-- What a level gives with one item more, when it has room for so many operands. -/
def add (arity : Nat) (given : Given) : Item → Except Stop Given
  | .switch switch value => given.addSwitch switch value
  | .operand text =>
    if given.operands.length < arity then .ok { given with operands := given.operands ++ [text] }
    else .error (.fault (.unknown text))

def ofItems (arity : Nat) (items : List Item) : Except Stop Given :=
  items.foldlM (add arity) {}

/-- A root and a fixture exclude each other at one level. -/
def check (given : Given) : Except Stop Unit :=
  if given.root.isSome && given.fixture.isSome then .error (.fault (.conflict .fixture .root))
  else .ok ()

/-- The options of two levels. The sets of the second level take the place of those of the
first. -/
def options (first second : Given) : Options where
  root := second.root <|> first.root
  fixture := second.fixture <|> first.fixture
  sets := if second.sets.isEmpty then first.sets else second.sets
  logLevel := second.logLevel <|> first.logLevel
  logsToFile := second.logFile || first.logFile

/-- The time between samples when none is given: two seconds. -/
def defaultInterval : Nat := 2 * Duration.second

def command (verb : Verb) (given : Given) : Except Stop Command :=
  match verb, given.operands with
  | .list, _ => .ok (.task .list)
  | .props, _ => .ok (.task (.properties given.device given.json))
  | .showAttribute, [device, property] => .ok (.task (.showAttribute device property))
  | .storeAttribute, [device, property, text] =>
    .ok (.task (.storeAttribute device property text))
  | .uevent, [device] => .ok (.task (.uevent device given.json))
  | .watch, [device] =>
    let interval := given.interval.getD defaultInterval
    .ok (.task (.watch device (given.samples.getD 0) interval given.compact))
  | .config, _ => .ok (.settings given.path given.reset)
  | verb, operands =>
    .error (.fault (.missingOperand (verb.operands.getD operands.length "VALUE")))

end Given

/-- The command after its name, and what its level gives. -/
def readCommand (verb : Verb) (words : List String) : Except Stop (Given × Command) := do
  let (items, ending) := scan (Switch.shared ++ verb.ownSwitches) false none words
  let given ← Given.ofItems verb.operands.length items
  match ending with
  | .fault e => .error (.fault e)
  | .finished | .command _ _ | .help _ =>
    given.check
    let command ← given.command verb
    .ok (given, command)

def readHelp : List String → Stop
  | [] => .help
  | [word] => if (Verb.ofName? word).isSome || word == "help" then .help else .fault (.unknown word)
  | word :: next :: _ =>
    .fault (.unknown (if (Verb.ofName? word).isSome || word == "help" then next else word))

/-- The options and the command of a command line. Without the name of a command it lists
supplies. -/
def read (words : List String) : Except Stop (Options × Command) := do
  let (items, ending) := scan (Switch.shared ++ [.version]) true none words
  let first ← Given.ofItems 0 items
  match ending with
  | .fault e => .error (.fault e)
  | .help rest => .error (readHelp rest)
  | .finished =>
    first.check
    .ok (first.options {}, .task .list)
  | .command verb rest =>
    let (second, command) ← readCommand verb rest
    first.check
    .ok (first.options second, command)

end Arguments
end PowerClass
