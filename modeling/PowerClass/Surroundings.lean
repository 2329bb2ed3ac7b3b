import PowerClass.Disk.Path

/-!
# PowerClass.Surroundings

What a user's account says about where files go: the directories of the variables `XDG_CONFIG_HOME`,
`XDG_CACHE_HOME` and `XDG_RUNTIME_DIR`, as far as they are absolute, or else those below the home
directory; and the wish for a log that the variable `RUST_LOG` holds.
-/

namespace PowerClass

/-- The values of variables, and the home directory of the account. -/
structure Surroundings where
  values : List (String × String)
  accountHome : Option String
  deriving DecidableEq

namespace Surroundings

def names : List String :=
  ["HOME", "XDG_CONFIG_HOME", "XDG_CACHE_HOME", "XDG_RUNTIME_DIR", "RUST_LOG"]

def get? (s : Surroundings) (name : String) : Option String :=
  s.values.lookup name

/-- The directory that a variable names. A relative one counts for nothing. -/
def directory? (s : Surroundings) (name : String) : Option Path :=
  ((s.get? name).map Path.ofString).filter Path.isAbsolute

/-- The home directory: that of a variable which is not empty, or else that of the account. -/
def home? (s : Surroundings) : Option Path :=
  match s.get? "HOME" with
  | some home => if home.isEmpty then s.accountHome.map Path.ofString else some (.ofString home)
  | none => s.accountHome.map Path.ofString

/-- The directory of a variable, or else the one with a name in the home directory. -/
def directoryOr? (s : Surroundings) (name inHome : String) : Option Path :=
  s.directory? name <|> s.home?.map fun home => home.join inHome

def settingsDirectory (s : Surroundings) : Path :=
  ((s.directoryOr? "XDG_CONFIG_HOME" ".config").getD (.ofString "~/.config")).join "supplyfs"

def settingsFile (s : Surroundings) : Path :=
  s.settingsDirectory.join "config.toml"

def logDirectory (s : Surroundings) : Path :=
  ((s.directory? "XDG_RUNTIME_DIR" <|> s.directoryOr? "XDG_CACHE_HOME" ".cache").getD
    (.ofString "/tmp")).join "supplyfs"

def filter? (s : Surroundings) : Option String :=
  s.get? "RUST_LOG"

end Surroundings
end PowerClass
