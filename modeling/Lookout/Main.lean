import Lookout.Config.Arguments
import Lookout.Json.Printer

/-!
# The program

The program reads its command line and environment and shows the configuration that they make. What
it prints and how it ends is a function of both (`outcome`); only `main` touches the world.
-/

namespace Lookout

/-- The text that is shown when help is asked for. -/
def usage : String :=
  String.intercalate "\n"
    ["Usage: lookout --token <TOKEN> [OPTIONS]", "", "Options:",
      "  --token <TOKEN>           Token that clients present [env: HOLA_TOKEN]",
      "  --listen <ADDRESS>        Address to listen on [env: HOLA_LISTEN]",
      "  --log-format <FORMAT>     pretty or json [env: HOLA_LOG_FORMAT]",
      "  --max-log-streams <N>     Log streams of a client [env: HOLA_MAX_LOG_STREAMS]",
      "  --max-stats-streams <N>   Stats streams of a client [env: HOLA_MAX_STATS_STREAMS]",
      "  --debug                   Log more",
      "  -h, --help                Show this text",
      "  -V, --version             Show the version"]

/-- What is said of a mistake on the command line. -/
def UsageError.message : UsageError → String
  | unknownArgument => "unexpected argument"
  | invalidValue => "missing or impossible value"
  | valueValidation => "value cannot be read"
  | argumentConflict => "option given twice"
  | tooManyValues => "switch given a value"
  | missingRequiredArgument => "no token given"
  | displayHelp => usage
  | displayVersion => "lookout 0.2.0"

/-- How the program ends: what it prints, whether that is an error, and its exit code. -/
structure Outcome where
  text : String
  isError : Bool
  code : UInt32
  deriving DecidableEq

/-- How the program ends for a command line in an environment. -/
def outcome (words : List String) (lookup : String → Option String) : Outcome :=
  match Arguments.ofWords words lookup with
  | .error .displayHelp => ⟨UsageError.displayHelp.message, false, 0⟩
  | .error .displayVersion => ⟨UsageError.displayVersion.message, false, 0⟩
  | .error e => ⟨"error: " ++ e.message, true, 2⟩
  | .ok arguments =>
    match arguments.toConfig with
    | .error f => ⟨f.message, true, 1⟩
    | .ok config => ⟨config.toJson.text, false, 0⟩

end Lookout

def main (words : List String) : IO UInt32 := do
  let given ← Lookout.ValueOption.all.mapM fun o => do
    return (← IO.getEnv o.variableName).map fun text => (o.variableName, text)
  let outcome := Lookout.outcome words fun name => (given.filterMap id).lookup name
  if outcome.isError then IO.eprintln outcome.text else IO.println outcome.text
  return outcome.code
