import PowerClass.Text.Quoted

/-!
# PowerClass.Disk.Path

Paths to files: the text that was written and the steps that it means. Empty steps count for
nothing, except that a path which ends in a slash ends in a step to the directory itself.
-/

namespace PowerClass

/-- A path as it is written, whether it starts at the root, and its steps, outermost first. -/
structure Path where
  text : String
  isAbsolute : Bool
  steps : List String
  deriving DecidableEq

namespace Path

def splitSlashes : List Char → List (List Char)
  | [] => [[]]
  | c :: cs =>
    if c = '/' then [] :: splitSlashes cs
    else
      match splitSlashes cs with
      | [] => [[c]]
      | first :: rest => (c :: first) :: rest

/-- The steps between slashes. A last empty part is a step to the directory itself. -/
def stepsOf : List (List Char) → List String
  | [] => []
  | [[]] => ["."]
  | part :: rest => if part = [] then stepsOf rest else String.ofList part :: stepsOf rest

/-- The path that a text means. The empty text has no steps, so no file has that path. -/
def ofString (text : String) : Path :=
  match text.toList with
  | [] => ⟨text, false, []⟩
  | '/' :: cs => ⟨text, true, stepsOf (splitSlashes cs)⟩
  | cs => ⟨text, false, stepsOf (splitSlashes cs)⟩

/-- The path of a name below a path. An absolute name stands for itself; the empty name adds a last
slash. -/
def join (path : Path) (name : String) : Path :=
  let below := ofString name
  if below.isAbsolute then below
  else
    let slash := if path.text.isEmpty || path.text.toList.getLast? == some '/' then "" else "/"
    let steps := if name.isEmpty && !path.text.isEmpty then ["."] else below.steps
    ⟨path.text ++ slash ++ name, path.isAbsolute, path.steps ++ steps⟩

/-- The name of the file that a path leads to: its last step, unless that step leads upwards. A
path to the root or to where one stands has none. -/
def fileName? (path : Path) : Option String :=
  match (path.steps.filter (· != ".")).getLast? with
  | none | some ".." => none
  | some name => some name

/-- A path in quotes, as log lines and warnings show it. Here a single quote is escaped too. -/
def quote (path : Path) : String :=
  Text.quoteWith true path.text

end Path
end PowerClass
