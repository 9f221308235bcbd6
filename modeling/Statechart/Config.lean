import Statechart.Failure
import Statechart.FileTree
import Statechart.Options
import Statechart.Toml.Reader

/-! The configuration file. It has a table for the way in which diagrams are read and a table for the
log; everything in it may be left out, and names that are not known do not count. -/
namespace Statechart

/-- A configuration. -/
structure Config where
  /-- How diagrams are read. -/
  options : Options := {}
  /-- How much is logged. -/
  logLevel : String := "info"
deriving DecidableEq, Repr, Inhabited

namespace Toml

/-- The fields of a record that is given as a table, or as an array of the fields in their order. A
field that is left out has no value, and a date or a time leaves out all of them. Entries of a table
that are no fields are looked at, but further items of an array are not. -/
def fields? (names : List String) : Toml → Option (List (Option Toml))
  | table _ entries =>
    if entriesUsable (entries.filter fun (name, _) => !names.contains name) then
      some (names.map fun name => entries.lookup name)
    else none
  | array items => some ((List.range names.length).map (items[·]?))
  | tables items =>
    some ((List.range names.length).map fun i => items[i]?.map (table .declared))
  | moment => some (names.map fun _ => none)
  | _ => none

/-- The value of a field, or what counts if it is left out. -/
def fieldOr (missing : α) (read : Toml → Option α) : Option Toml → Option α
  | none => some missing
  | some value => read value

/-- A string. -/
def text? : Toml → Option String
  | string value => some value
  | _ => none

/-- A natural number of at most 64 bits. -/
def word? : Toml → Option UInt64
  | integer (.ofNat value) => if small : value < UInt64.size then some (.ofNatLT value small) else none
  | _ => none

/-- One word out of several, given as a string or as the only key of a table that has nothing more
to say. -/
def choice? (words : List (String × α)) : Toml → Option α
  | string word => words.lookup word
  | table _ [(word, array [])] => words.lookup word
  | table _ [(word, table _ [])] => words.lookup word
  | _ => none

end Toml

/-- The way in which diagrams are read, from its table. -/
def Options.ofToml? (value : Toml) : Option Options :=
  match value.fields? ["starting_id", "identity", "on_unresolved", "content_separator"] with
  | some [startingId, identity, onUnresolved, separator] => do
    let startingId ← Toml.fieldOr 0 Toml.word? startingId
    let identity ← Toml.fieldOr .global (Toml.choice? Identity.words) identity
    let onUnresolved ← Toml.fieldOr .abort (Toml.choice? OnUnresolved.words) onUnresolved
    let separator ← Toml.fieldOr "\n" Toml.text? separator
    return { startingId, identity, onUnresolved, separator }
  | _ => none

namespace Config

/-- How much is logged, from its table. -/
def logLevelOfToml? (value : Toml) : Option String :=
  match value.fields? ["level"] with
  | some [level] => Toml.fieldOr "info" Toml.text? level
  | _ => none

/-- A configuration from the entries of a text. -/
def ofEntries? (entries : Toml.Entries) : Option Config :=
  match Toml.fields? ["analyzer", "logging"] (.table .declared entries) with
  | some [options, logLevel] => do
    let options ← Toml.fieldOr {} Options.ofToml? options
    let logLevel ← Toml.fieldOr "info" logLevelOfToml? logLevel
    return { options, logLevel }
  | _ => none

/-- A configuration from the text of a file. What is wrong with a text that is none is worded by those who
read TOML. -/
def ofText (file text : String) (complaint : String → String) : Except Failure Config :=
  match (Toml.read? text).bind ofEntries? with
  | some config => .ok config
  | none => .error (.configSyntax file (complaint text))

/-- A configuration from a file that is asked for by name. -/
def ofFile (files : Files) (file : String) (complaint : String → String := fun _ => "") :
    Except Failure Config :=
  match (files file).read with
  | .ok text => ofText file text complaint
  | .error reason =>
    .error (.config ("Failed to read config file " ++ Text.quoted file ++ ": " ++ reason.message))

/-- Where configurations are looked for, in order. -/
def standardFiles (home : Option String) : List String :=
  let inHome (home : String) : String :=
    home ++ (if home.endsWith "/" then "" else "/") ++ ".puml-stategraph/config.toml"
  "stategraph.toml" :: (home.map inHome).toList ++ ["/etc/puml-stategraph/config.toml"]

/-- The configuration in the first of the usual places where there is anything, be it readable or not. If
there is nothing in any of them, everything is as it is when it is left out. -/
def ofStandardFiles (files : Files) (home : Option String) (complaint : String → String := fun _ => "") :
    Except Failure Config :=
  match (standardFiles home).find? fun file => (files file).isPresent with
  | some file => ofFile files file complaint
  | none => .ok {}

end Config

end Statechart
