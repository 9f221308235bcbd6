import Statechart.Command.Arguments
import Statechart.Config
import Statechart.Graph
import Statechart.Report.Listing
import Statechart.Report.Structured
import Statechart.Report.Summary

/-! What the program does with its arguments. All that it can see of the world is in its surroundings,
and all that it does to the world is in the outcome. A failure stops it, but does not take back what has
been written to standard output before. -/
namespace Statechart

/-- Steps that may write to standard output and may fail, with what has been written so far. -/
abbrev Writing := EStateM Failure String

namespace Writing

/-- Writes a text after what has been written. -/
def put (text : String) : Writing Unit :=
  modify (· ++ text)

/-- Goes on with what has been obtained, or fails for the reason why it has not. -/
def obtain : Except Failure α → Writing α
  | .ok value => pure value
  | .error reason => throw reason

end Writing

/-- A failure on the way, with what had been written until then. -/
structure Interruption where
  /-- What had been written to standard output. -/
  written : String
  /-- The failure. -/
  reason : Failure
deriving DecidableEq, Repr

/-- Where only the reason counts, the failure stands for the whole. -/
instance : Coe Interruption Failure := ⟨Interruption.reason⟩

namespace Command

/-- What a run of the program depends on: what it can see, and what is said by those to whom it leaves the
reading of its arguments and of TOML. -/
structure Surroundings where
  /-- What paths lead to. -/
  files : Files
  /-- What standard input holds. -/
  standardInput : Except ReadError String
  /-- The directory of the user, if there is one. -/
  home : Option String
  /-- What those who read arguments show for arguments that do not ask for an analysis. -/
  usage : List String → String := fun _ => ""
  /-- What those who read TOML say about a text that is no configuration. -/
  complaint : String → String := fun _ => ""

/-- What comes of a run of the program. -/
inductive Outcome where
  /-- The arguments do not ask for an analysis. -/
  | usage (reason : UsageError)
  /-- There is no usable configuration. -/
  | unconfigured (reason : Failure)
  /-- The analysis failed. -/
  | failed (interruption : Interruption)
  /-- The analysis came to its end, and this has been written. -/
  | printed (text : String)
deriving DecidableEq, Repr

/-- What the program answers to its caller. -/
def Outcome.exitCode : Outcome → Nat
  | usage reason => reason.exitCode
  | unconfigured _ | failed _ => 1
  | printed _ => 0

/-- Whether a path is a single dash, which stands for standard input. Slashes and dots after it do not
make it another path. -/
def isStandardInput (path : String) : Bool :=
  match FileTree.steps path with
  | "-" :: later => later.all fun step => step == "" || step == "."
  | _ => false

/-- The configuration that a command asks for. -/
def configuration (c : Command) (s : Surroundings) : Except Failure Config :=
  match c.config with
  | some file => Config.ofFile s.files file s.complaint
  | none => Config.ofStandardFiles s.files s.home s.complaint

/-- The options of a configuration, as far as a command does not replace them. -/
def options (c : Command) (o : Options) : Options :=
  { o with
    startingId := c.startingId.getD o.startingId
    identity := c.identity.getD o.identity
    onUnresolved := c.onUnresolved.getD o.onUnresolved }

/-- The text of the diagram that a command names. -/
def diagram (c : Command) (s : Surroundings) : Except Failure String :=
  match (if isStandardInput c.input then s.standardInput else (s.files c.input).read) with
  | .ok text => .ok text
  | .error reason => .error (.input reason.message)

/-- Obtains and reads the diagram that a command names. -/
def analysis (c : Command) (s : Surroundings) (o : Options) : Except Failure Analysis := do
  let text ← c.diagram s
  (analyze (c.options o) text).mapError .analysis

/-- An analysis in some format. -/
def present (format : Format) (a : Analysis) : String :=
  match format with
  | .listing => Report.listing a
  | .structured => Report.structured a
  | .summary => Report.summary (Graph.ofStates a.states).stats

/-- Obtains, reads and shows the diagram that a command names. -/
def execute (c : Command) (s : Surroundings) (o : Options) : Writing Unit := do
  let a ← Writing.obtain (c.analysis s o)
  Writing.put (present c.format a)

/-- Does what a command asks for, with a configuration and with nothing written yet. -/
def perform (c : Command) (s : Surroundings) (config : Config) : Outcome :=
  match (c.execute s config.options).run "" with
  | .ok _ written => .printed written
  | .error reason written => .failed { written, reason }

/-- Does what some arguments ask for. -/
def run (s : Surroundings) (arguments : List String) : Outcome :=
  match ofArguments arguments with
  | .error reason => .usage reason
  | .ok c =>
    match c.configuration s with
    | .error reason => .unconfigured reason
    | .ok config => c.perform s config

/-- What a run leaves on standard output. Help and the version go there too, but other complaints about
the arguments do not. -/
def standardOutput (s : Surroundings) (arguments : List String) : String :=
  match run s arguments with
  | .usage reason => if reason.exitCode = 0 then s.usage arguments else ""
  | .unconfigured _ => ""
  | .failed interruption => interruption.written
  | .printed text => text

/-- The paths that a run with some arguments may look at. -/
def paths (home : Option String) (c : Command) : List String :=
  (match c.config with
    | some file => [file]
    | none => Config.standardFiles home) ++ [c.input]

end Command

end Statechart
