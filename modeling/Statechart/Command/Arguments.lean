import Statechart.Command.Usage
import Statechart.Options
import Statechart.Text.Decimal

/-! The arguments of the program. An option has a long name after two dashes or a letter after one,
and its value stands in the same argument or in the next one. A value that stands in an argument of
its own is looked at only when the argument after it has been recognised, so a fault there is noticed
later than a name that is not known; a value in the same argument as its option is looked at on the
spot. -/
namespace Statechart

/-- How an analysis is shown. -/
inductive Format where
  /-- As a listing. -/
  | listing
  /-- As JSON text. -/
  | structured
  /-- As the statistics of its graph. -/
  | summary
deriving DecidableEq, Repr, Inhabited

/-- The words for the formats. -/
def Format.words : List (String × Format) :=
  [("table", listing), ("json", structured), ("summary", summary)]

/-- What is asked for. -/
structure Command where
  /-- The configuration file, if one is named. -/
  config : Option String
  /-- The path of the diagram. -/
  input : String
  /-- How the analysis is shown. -/
  format : Format
  /-- Replaces the starting number of the configuration. -/
  startingId : Option UInt64
  /-- Replaces the rule of identity of the configuration. -/
  identity : Option Identity
  /-- Replaces what the configuration says about texts for unknown states. -/
  onUnresolved : Option OnUnresolved
deriving DecidableEq, Repr

namespace Command

/-- What an argument can set. -/
inductive Slot where
  /-- The configuration file. -/
  | config
  /-- The path of the diagram. -/
  | input
  /-- How the analysis is shown. -/
  | format
  /-- The starting number. -/
  | startingId
  /-- The rule of identity. -/
  | identity
  /-- What becomes of texts for unknown states. -/
  | onUnresolved
deriving DecidableEq, Repr

/-- What has been set. -/
structure Settings where
  /-- The configuration file. -/
  config : Option String := none
  /-- The path of the diagram. -/
  input : Option String := none
  /-- How the analysis is shown. -/
  format : Option Format := none
  /-- The starting number. -/
  startingId : Option UInt64 := none
  /-- The rule of identity. -/
  identity : Option Identity := none
  /-- What becomes of texts for unknown states. -/
  onUnresolved : Option OnUnresolved := none
deriving DecidableEq, Repr

/-- A number of 64 bits: digits, possibly after a plus sign. -/
def word? (text : String) : Option UInt64 :=
  let digits :=
    match text.toList with
    | '+' :: digits => digits
    | digits => digits
  if Text.isDigits digits then
    if small : Text.ofDigits digits < UInt64.size then some (.ofNatLT (Text.ofDigits digits) small)
    else none
  else none

namespace Settings

/-- Whether something has been set. -/
def isSet (s : Settings) : Slot → Bool
  | .config => s.config.isSome
  | .input => s.input.isSome
  | .format => s.format.isSome
  | .startingId => s.startingId.isSome
  | .identity => s.identity.isSome
  | .onUnresolved => s.onUnresolved.isSome

/-- What a word stands for that must be one of several. -/
def choose (words : List (String × α)) (word : String) : Except UsageError α :=
  match words.lookup word with
  | some choice => .ok choice
  | none => .error .invalidValue

/-- Sets something to a value that can be used. -/
def put (s : Settings) (slot : Slot) (value : String) : Except UsageError Settings :=
  match slot with
  | .config =>
    if value = "" then .error .invalidValue else .ok { s with config := some value }
  | .input =>
    if value = "" then .error .invalidValue else .ok { s with input := some value }
  | .format => do return { s with format := some (← choose Format.words value) }
  | .startingId =>
    match word? value with
    | some number => .ok { s with startingId := some number }
    | none => .error .invalidNumber
  | .identity => do return { s with identity := some (← choose Identity.words value) }
  | .onUnresolved => do return { s with onUnresolved := some (← choose OnUnresolved.words value) }

/-- Sets something that has not been set to a value that must be there. -/
def set (s : Settings) (slot : Slot) (value : Option String) : Except UsageError Settings :=
  match value with
  | none => .error .invalidValue
  | some value => if s.isSet slot then .error .repeated else s.put slot value

end Settings

/-- What a name or a letter after dashes means. -/
inductive Switch where
  /-- A value follows. -/
  | slot (slot : Slot)
  /-- Help is asked for. -/
  | help
  /-- The version is asked for. -/
  | version
deriving DecidableEq, Repr

/-- Where in the arguments a name is looked up. -/
inductive Level where
  /-- Before the word for what is to be done. -/
  | program
  /-- After that word. -/
  | analyze
deriving DecidableEq, Repr

/-- The long names. -/
def Level.names : Level → List (String × Switch)
  | program => [("config", .slot .config), ("help", .help), ("version", .version)]
  | analyze =>
    [("config", .slot .config), ("help", .help), ("output", .slot .format),
      ("starting-id", .slot .startingId), ("identity", .slot .identity),
      ("on-unresolved", .slot .onUnresolved)]

/-- The letters. -/
def Level.letters : Level → List (Char × Switch)
  | program => [('c', .slot .config), ('h', .help), ('V', .version)]
  | analyze => [('c', .slot .config), ('h', .help), ('o', .slot .format)]

/-- The words for what is to be done. -/
def commandWords : List String := ["analyze", "help"]

/-- The arguments of one level while they are being read. -/
structure Scan where
  /-- What has been set. -/
  settings : Settings := {}
  /-- What is to be set next, with its value once that has been seen. -/
  pending : Option (Slot × Option String) := none
  /-- Whether two dashes have been seen, after which nothing is an option. -/
  plain : Bool := false
deriving DecidableEq, Repr

namespace Scan

/-- Whether the next argument is the value of an option. -/
def awaitsValue (s : Scan) : Bool :=
  match s.pending with
  | some (_, none) => true
  | _ => false

/-- Sets what is to be set next. -/
def settle (s : Scan) : Except UsageError Scan :=
  match s.pending with
  | none => .ok s
  | some (slot, value) => do
    let settings ← s.settings.set slot value
    return { s with settings, pending := none }

/-- An option that takes a value, which may stand in the same argument. -/
def option (s : Scan) (slot : Slot) (attached : Option String) : Except UsageError Scan := do
  let s ← s.settle
  match attached with
  | some value =>
    let settings ← s.settings.set slot (some value)
    return { s with settings }
  | none => return { s with pending := some (slot, none) }

/-- An option that takes no value ends the matter. -/
def ending (s : Scan) (e : UsageError) : Except UsageError Scan := do
  let _ ← s.settle
  throw e

/-- An argument after two dashes. -/
def long (s : Scan) (level : Level) (body : List Char) : Except UsageError Scan :=
  let (name, attached) := body.span (· != '=')
  let value : Option String := attached.tail?.map String.ofList
  match level.names.lookup (String.ofList name) with
  | none => .error .unknownArgument
  | some (.slot slot) => s.option slot value
  | some .help => if value.isSome then .error .surplusValue else s.ending .help
  | some .version => if value.isSome then .error .surplusValue else s.ending .version

/-- An argument after one dash. What follows the letter is the value, without an equals sign. -/
def short (s : Scan) (level : Level) (letter : Char) (attached : List Char) :
    Except UsageError Scan :=
  let value : Option String :=
    match attached with
    | [] => none
    | '=' :: value => some (String.ofList value)
    | value => some (String.ofList value)
  match level.letters.lookup letter with
  | none => .error .unknownArgument
  | some (.slot slot) => s.option slot value
  | some .help => s.ending .help
  | some .version => s.ending .version

/-- An argument that is no option. Only the path of a diagram can be given so. -/
def positional (s : Scan) (level : Level) (word : String) : Except UsageError Scan :=
  match level with
  | .program =>
    if s.plain && commandWords.contains word then .error .unknownArgument
    else .error .unknownCommand
  | .analyze =>
    if s.settings.input.isSome || (s.pending.map (·.1)) == some .input then .error .unknownArgument
    else do
      let s ← s.settle
      return { s with pending := some (.input, some word) }

/-- Any argument. -/
def argument (s : Scan) (level : Level) (word : String) : Except UsageError Scan :=
  if s.plain then s.positional level word
  else
    match word.toList with
    | ['-', '-'] => .ok { s with plain := true }
    | '-' :: '-' :: body => s.long level body
    | '-' :: letter :: attached => s.short level letter attached
    | _ =>
      match s.pending with
      | some (slot, none) => .ok { s with pending := some (slot, some word) }
      | _ => s.positional level word

end Scan

/-- The arguments after the word that asks for an analysis. -/
def readAnalyze (words : List String) : Except UsageError Settings := do
  let s ← words.foldlM (fun s word => Scan.argument s .analyze word) {}
  let s ← s.settle
  if s.settings.input.isNone then throw .missingInput
  return s.settings

/-- What comes of asking for help about a word. -/
def readHelp : List String → UsageError
  | [] => .help
  | [word] => if commandWords.contains word then .help else .unknownCommand
  | _ => .unknownCommand

/-- What is asked for, once all is set. A configuration file named later replaces one named before
the word for what is to be done. -/
def ofSettings (outer inner : Settings) : Except UsageError Command :=
  match inner.input with
  | none => .error .missingInput
  | some input =>
    .ok
      { config := inner.config.or outer.config
        input
        format := inner.format.getD .listing
        startingId := inner.startingId
        identity := inner.identity
        onUnresolved := inner.onUnresolved }

/-- The arguments from the first one on, after those that were read. -/
def readProgram : Scan → List String → Except UsageError Command
  | s, [] => do
    let s ← s.settle
    if s.settings.config.isNone then throw .noArguments else throw .missingCommand
  | s, word :: rest =>
    if !s.plain && !s.awaitsValue && word == "help" then .error (readHelp rest)
    else if !s.plain && !s.awaitsValue && word == "analyze" then do
      let inner ← readAnalyze rest
      let outer ← s.settle
      ofSettings outer.settings inner
    else do
      let s ← s.argument .program word
      readProgram s rest

/-- What some arguments ask for. -/
def ofArguments (words : List String) : Except UsageError Command :=
  readProgram {} words

end Command

end Statechart
