/-!
# PowerClass.Command.Switch

The words of the command line: the names of commands, and the switches, which start with a hyphen.
Some switches take a value. Some belong to one command, some to all, and `--version` stands only in
front of a command.
-/

namespace PowerClass

/-- A switch of the command line. -/
inductive Switch where
  | root
  | fixture
  | extension
  | logLevel
  | logFile
  | help
  | version
  | device
  | json
  | samples
  | interval
  | compact
  | path
  | reset
  deriving DecidableEq

namespace Switch

/-- The name of a switch after two hyphens. -/
def long : Switch → String
  | .root => "root"
  | .fixture => "fixture"
  | .extension => "extension"
  | .logLevel => "log-level"
  | .logFile => "log-file"
  | .help => "help"
  | .version => "version"
  | .device => "device"
  | .json => "json"
  | .samples => "samples"
  | .interval => "interval"
  | .compact => "compact"
  | .path => "path"
  | .reset => "reset"

/-- The letter of a switch after one hyphen. -/
def short? : Switch → Option Char
  | .help => some 'h'
  | .version => some 'V'
  | .device => some 'd'
  | .samples => some 's'
  | .interval => some 'i'
  | .compact => some 'c'
  | _ => none

def takesValue : Switch → Bool
  | .root | .fixture | .extension | .logLevel | .device | .samples | .interval => true
  | _ => false

def shared : List Switch :=
  [.root, .fixture, .extension, .logLevel, .logFile, .help]

end Switch

/-- The name of a command. -/
inductive Verb where
  | list
  | props
  | showAttribute
  | storeAttribute
  | uevent
  | watch
  | config
  deriving DecidableEq

namespace Verb

def variants : List (String × Verb) :=
  [("list", .list), ("ls", .list), ("props", .props), ("show", .showAttribute),
    ("store", .storeAttribute), ("uevent", .uevent), ("watch", .watch), ("config", .config)]

def ofName? (word : String) : Option Verb :=
  variants.lookup word

def ownSwitches : Verb → List Switch
  | .props => [.device, .json]
  | .uevent => [.json]
  | .watch => [.samples, .interval, .compact]
  | .config => [.path, .reset]
  | .list | .showAttribute | .storeAttribute => []

/-- What stands after the name of a command besides switches. -/
def operands : Verb → List String
  | .showAttribute => ["DEVICE", "PROPERTY"]
  | .storeAttribute => ["DEVICE", "PROPERTY", "VALUE"]
  | .uevent | .watch => ["DEVICE"]
  | .list | .props | .config => []

end Verb
end PowerClass
