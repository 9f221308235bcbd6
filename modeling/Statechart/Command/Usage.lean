/-! Why arguments may not ask for an analysis. Help and the version are given to those who ask for them,
and are no failures; every other reason is one. The wording is that of the library that reads the
arguments. -/
namespace Statechart

/-- Why arguments do not ask for an analysis. -/
inductive UsageError where
  /-- Help was asked for. -/
  | help
  /-- The version was asked for. -/
  | version
  /-- There are no arguments. -/
  | noArguments
  /-- There are options, but no word for what is to be done. -/
  | missingCommand
  /-- There is no diagram. -/
  | missingInput
  /-- The word for what is to be done is not known. -/
  | unknownCommand
  /-- An option is not known, or there are more arguments than can be used. -/
  | unknownArgument
  /-- The value of an option is missing or not one of those that can be chosen. -/
  | invalidValue
  /-- The value of an option is not a number of 64 bits. -/
  | invalidNumber
  /-- A value is given to an option that takes none. -/
  | surplusValue
  /-- An option is given twice. -/
  | repeated
deriving DecidableEq, Repr

/-- What the program answers to its caller. -/
def UsageError.exitCode : UsageError → Nat
  | help | version => 0
  | _ => 2

end Statechart
