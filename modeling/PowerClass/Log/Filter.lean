import PowerClass.Decimal
import PowerClass.Log.Event
import PowerClass.Text.Blank

/-!
# PowerClass.Log.Filter

Filters for log lines. A filter is a list of directives, written with commas between them: a level
for all targets, a target for all levels, or `target=level`; a directive may also ask for fields,
`[\x7bname\x7d]`, or for a span. Of the directives that concern a line the most specific decides.
There are no spans here, so a directive for a span decides about no line.
-/

namespace PowerClass

/-- One directive of a filter. -/
structure Directive where
  target : Option String
  span : Option String
  fields : List String
  verbosity : Verbosity
  deriving DecidableEq

namespace Directive

/-- The verbosity that a word stands for: its name in any case, or its number from 0 to 5. -/
def verbosity? (word : List Char) : Option Verbosity :=
  let digits := match word with
    | '+' :: rest => rest
    | rest => rest
  match Decimal.natural? digits with
  | some 0 => some .off
  | some 1 => some (.upTo .error)
  | some 2 => some (.upTo .warn)
  | some 3 => some (.upTo .info)
  | some 4 => some (.upTo .debug)
  | some 5 => some (.upTo .trace)
  | some _ => none
  | none => Verbosity.variants.lookup (String.ofList word).toLower

/-- A directive out of one word: a verbosity for all targets, or else a target for every level. -/
def ofWord (word : List Char) : Directive :=
  match verbosity? word with
  | some verbosity => ⟨none, none, [], verbosity⟩
  | none => ⟨some (String.ofList word), none, [], .upTo .trace⟩

/-- What follows the target: nothing, or the sign and a verbosity, which may be left out. -/
def ending? (target span : Option String) (fields : List String) :
    List Char → Option Directive
  | [] | ['='] => some ⟨target, span, fields, .upTo .trace⟩
  | '=' :: word => (verbosity? word).map (⟨target, span, fields, ·⟩)
  | _ => none

/-- The names of fields up to the closing brace, and what follows it. A name without a value is
looked for in a line; one with a value never holds outside a span. -/
def fields? (name : List Char) : List Char → Option (List (List Char) × List Char)
  | [] => none
  | '\x7d' :: cs => if name = [] then none else some ([name.reverse], cs)
  | ',' :: cs =>
    if name = [] then none
    else (fields? [] cs).map fun (names, cs) => (name.reverse :: names, cs)
  | c :: cs => fields? (c :: name) cs

/-- A directive after an opening bracket. -/
def bracket? (target : Option String) (cs : List Char) : Option Directive :=
  let isEnd (c : Char) : Bool := c == ']' || c == '\x7b'
  let span := cs.takeWhile fun c => !isEnd c
  match cs.dropWhile fun c => !isEnd c with
  | ']' :: cs => ending? target (some (String.ofList span)) [] cs
  | '\x7b' :: cs =>
    match fields? [] cs with
    | some (names, ']' :: cs) =>
      let isPlain := names.all fun name => !name.contains '='
      let span := if span = [] && isPlain then none else some (String.ofList span)
      ending? target span (names.map String.ofList) cs
    | _ => none
  | _ => none

def read? (text : List Char) : Option Directive :=
  match Text.trimChars text with
  | [] => none
  | '[' :: cs => bracket? none cs
  | first :: rest =>
    if !(first.isAlphanum || 0x80 ≤ first.toNat || first == '-' || first == ':' || first == '_')
    then none
    else
      let isEnd (c : Char) : Bool := c == '=' || c == '['
      let word := (first :: rest).takeWhile fun c => !isEnd c
      match (first :: rest).dropWhile fun c => !isEnd c with
      | [] => some (ofWord word)
      | '[' :: cs => bracket? (some (String.ofList word)) cs
      | cs => ending? (some (String.ofList word)) none [] cs

def concerns (directive : Directive) (event : Event) : Bool :=
  directive.span.isNone &&
    (directive.target.all fun target => target.toList.isPrefixOf event.target.toList) &&
    directive.fields.all fun field => field == "message" || (event.fields.lookup field).isSome

/-- The length of a directive's target in bytes. No target is shorter than the empty one. -/
def reach (directive : Directive) : Nat :=
  (directive.target.map fun target => target.utf8ByteSize + 1).getD 0

/-- Whether a directive is more specific than another: it has the longer target, or as long a target
and more fields, or as many fields and the later names. -/
def outranks (a b : Directive) : Bool :=
  if a.reach = b.reach then
    if a.fields.length = b.fields.length then b.fields.lex a.fields fun x y => x < y
    else b.fields.length < a.fields.length
  else b.reach < a.reach

end Directive

/-- Directives in the order in which they were given. -/
structure Filter where
  directives : List Directive
  deriving DecidableEq

namespace Filter

def words (text : String) : List (List Char) :=
  text.toList.splitOn ','

/-- The filter that text stands for, without what is no directive. Without any directive the filter
keeps warnings and errors. -/
def ofText (text : String) : Filter :=
  match (words text).filterMap fun word => if word = [] then none else Directive.read? word with
  | [] => ⟨[⟨none, none, [], .upTo .warn⟩]⟩
  | directives => ⟨directives⟩

/-- The parts of the program that follow the chosen level. -/
def targets : List String := ["supplyfs", "supplyfs_property", "supplyfs_platform"]

/-- The filter that keeps the lines of the program up to a level. -/
def upTo (level : Level) : Filter :=
  ⟨targets.map fun target => ⟨some target, none, [], .upTo level⟩⟩

/-- The directive that decides about a line. Of two equally specific ones it is the later. -/
def decisive? (event : Event) (directives : List Directive) : Option Directive :=
  directives.foldl
    (fun best directive =>
      if !directive.concerns event then best
      else
        match best with
        | none => some directive
        | some other => if other.outranks directive then best else some directive)
    none

def keeps (filter : Filter) (event : Event) : Bool :=
  match decisive? event filter.directives with
  | some directive => directive.verbosity.keeps event.level
  | none => false

end Filter
end PowerClass
