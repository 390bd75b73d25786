import Lookout.Config.Basic
import Lookout.Failure
import Lookout.Text.Blank

/-!
# The command line

The agent takes options with a value, as `--name value` or `--name=value`, and switches. Each may be
given once. A value that stands by itself is taken in when the next option or the end is reached, so
an unknown word behind it is the first mistake that is reported. An option that is not given takes
its value from the environment, if it is there.

* `Arguments.ofWords` — the arguments of a command line, or what is wrong with it;
* `Arguments.toConfig` — the configuration they make.
-/

namespace Lookout

/-- Why a command line is not carried out. -/
inductive UsageError where
  /-- A word is no option, or stands where none is expected. -/
  | unknownArgument
  /-- A value is missing, or none of the words an option takes. -/
  | invalidValue
  | valueValidation
  | argumentConflict
  | tooManyValues
  | missingRequiredArgument
  | displayHelp
  | displayVersion
  deriving DecidableEq

/-- The options that take a value. -/
inductive ValueOption where
  | token
  | listen
  | logFormat
  | maxLogStreams
  | maxStatsStreams
  deriving DecidableEq

namespace ValueOption

/-- The name of an option on the command line. -/
def name : ValueOption → String
  | token => "token"
  | listen => "listen"
  | logFormat => "log-format"
  | maxLogStreams => "max-log-streams"
  | maxStatsStreams => "max-stats-streams"

/-- The variable of the environment that stands in for it. -/
def variableName : ValueOption → String
  | token => "HOLA_TOKEN"
  | listen => "HOLA_LISTEN"
  | logFormat => "HOLA_LOG_FORMAT"
  | maxLogStreams => "HOLA_MAX_LOG_STREAMS"
  | maxStatsStreams => "HOLA_MAX_STATS_STREAMS"

/-- All of them, in the order in which the environment is asked for them. -/
def all : List ValueOption := [token, listen, logFormat, maxLogStreams, maxStatsStreams]

end ValueOption

/-- The switches. -/
inductive Switch where
  | debug
  | help
  | version
  deriving DecidableEq

/-- An option of either sort. -/
inductive CommandOption where
  | value (o : ValueOption)
  | switch (s : Switch)
  deriving DecidableEq

/-- The names of all options. -/
def CommandOption.choices : List (String × CommandOption) :=
  ValueOption.all.map (fun o => (o.name, value o)) ++
    [("debug", switch .debug), ("help", switch .help), ("version", switch .version)]

/-- The arguments, as far as they are given. -/
structure Arguments where
  token : Option String := none
  listen : Option SocketAddress := none
  logFormat : Option LogFormat := none
  /-- How many containers' output may be followed at once. -/
  maxLogStreams : Option UInt64 := none
  /-- How many containers may be sampled at once. -/
  maxStatsStreams : Option UInt64 := none
  debug : Bool := false
  deriving DecidableEq

/-- A count: decimal digits, possibly with a plus sign, that fit a word. -/
def readCount (text : String) : Option UInt64 :=
  let digits := match text.toList with
    | '+' :: rest => rest
    | cs => cs
  if digits.isEmpty || !digits.all Char.isDigit then none
  else
    -- All digits are read before the size is asked for, so that zeros in front do not count.
    let n := digits.foldl (fun n c => n * 10 + (c.toNat - '0'.toNat)) 0
    if n < 0x10000000000000000 then some (UInt64.ofNat n) else none

namespace Arguments

/-- Whether an option is given, on the command line or by its variable. -/
def has (a : Arguments) : ValueOption → Bool
  | .token => a.token.isSome
  | .listen => a.listen.isSome
  | .logFormat => a.logFormat.isSome
  | .maxLogStreams => a.maxLogStreams.isSome
  | .maxStatsStreams => a.maxStatsStreams.isSome

/-- Gives an option a value, which must be one that it takes. -/
def assign (a : Arguments) (o : ValueOption) (text : String) : Except UsageError Arguments :=
  match o with
  | .token => .ok { a with token := some text }
  | .listen =>
    match SocketAddress.ofText? text with
    | some address => .ok { a with listen := some address }
    | none => .error .valueValidation
  | .logFormat =>
    match LogFormat.choices.lookup text with
    | some format => .ok { a with logFormat := some format }
    | none => .error .invalidValue
  | .maxLogStreams =>
    match readCount text with
    | some n => .ok { a with maxLogStreams := some n }
    | none => .error .valueValidation
  | .maxStatsStreams =>
    match readCount text with
    | some n => .ok { a with maxStatsStreams := some n }
    | none => .error .valueValidation

/-- Gives an option its value for the first time. -/
def assignOnce (a : Arguments) (o : ValueOption) (text : String) : Except UsageError Arguments :=
  if a.has o then .error .argumentConflict else a.assign o text

end Arguments

/-- A command line read up to some word. -/
structure CommandLine where
  given : Arguments := {}
  /-- An option that waits for its value, or whose value is not taken in yet. -/
  pending : Option (ValueOption × Option String) := none
  /-- Whether the words that end the options have been read. -/
  ended : Bool := false

namespace CommandLine

/-- Takes in the pending option; its value must be there. -/
def settle (l : CommandLine) : Except UsageError Arguments :=
  match l.pending with
  | none => .ok l.given
  | some (_, none) => .error .invalidValue
  | some (o, some text) => l.given.assignOnce o text

/-- Turns a switch on. Those for help and the version end the reading, but only once the option
before them has its value. -/
def turnOn (l : CommandLine) (s : Switch) : Except UsageError CommandLine := do
  -- What is wrong with the option before is reported first.
  let given ← l.settle
  match s with
  | .debug =>
    if given.debug then .error .argumentConflict
    else .ok { l with given := { given with debug := true }, pending := none }
  | .help => .error .displayHelp
  | .version => .error .displayVersion

/-- Reads an option, without the hyphens, and the value attached to it. -/
def long (l : CommandLine) (name : String) (attached : Option String) :
    Except UsageError CommandLine :=
  match CommandOption.choices.lookup name, attached with
  | none, _ => .error .unknownArgument
  | some (.switch _), some _ => .error .tooManyValues
  | some (.switch s), none => l.turnOn s
  -- Its value stands behind the name, so that nothing is waited for.
  | some (.value o), some text => do
    let given ← l.settle
    let given ← given.assignOnce o text
    .ok { l with given := given, pending := none }
  | some (.value o), none => do
    let given ← l.settle
    .ok { l with given := given, pending := some (o, none) }

/-- Reads the letters behind a single hyphen. Every letter that is an option ends the reading, so
only the first one counts. -/
def short (l : CommandLine) (letter : Char) : Except UsageError CommandLine :=
  if letter = 'h' then l.turnOn .help
  else if letter = 'V' then l.turnOn .version
  else .error .unknownArgument

/-- Reads a word that is no option: it is the value that is waited for. -/
def plain (l : CommandLine) (word : String) : Except UsageError CommandLine :=
  match l.pending with
  -- The value is taken in later: the word behind it may be the first that is wrong.
  | some (o, none) => .ok { l with pending := some (o, some word) }
  | _ => .error .unknownArgument

/-- Reads one word, by the hyphens that it begins with. -/
def step (l : CommandLine) (word : String) : Except UsageError CommandLine :=
  -- Two hyphens end the options, and there is nothing else that could come.
  if l.ended then .error .unknownArgument
  else
    match word.toList with
    | ['-', '-'] => .ok { l with ended := true }
    | '-' :: '-' :: rest =>
      match rest.span (· != '=') with
      | (name, _ :: attached) => l.long (String.ofList name) (some (String.ofList attached))
      | (name, []) => l.long (String.ofList name) none
    | '-' :: letter :: _ => l.short letter
    | _ => l.plain word

end CommandLine

namespace Arguments

/-- Gives the options that are not given the values of their variables. -/
def withEnvironment (lookup : String → Option String) (a : Arguments) :
    Except UsageError Arguments :=
  ValueOption.all.foldlM
    (fun a o =>
      -- The command line comes before the environment.
      if a.has o then .ok a
      else
        match lookup o.variableName with
        | some text => a.assign o text
        | none => .ok a)
    a

/-- The arguments of a command line, in an environment. -/
def ofWords (words : List String) (lookup : String → Option String) :
    Except UsageError Arguments := do
  let line ← words.foldlM CommandLine.step {}
  let given ← line.settle
  let given ← given.withEnvironment lookup
  if given.token.isSome then .ok given else .error .missingRequiredArgument

/-- How much the agent logs. -/
def logDirective (a : Arguments) : String :=
  if a.debug then "hola_agent=debug" else "hola_agent=info"

/-- The failure of a configuration without token. -/
def noToken : Failure := .config "no auth token provided: set HOLA_TOKEN or use --token"

/-- The configuration that the arguments make; the token is taken without blanks around it and must
not be empty. -/
def toConfig (a : Arguments) : Except Failure Config :=
  -- A token of nothing but blanks is none, as is one that was not given.
  let token := Text.trim (a.token.getD "").toList
  if token.isEmpty then .error noToken
  else
    let limits : Limits := {}
    .ok
      { token := String.ofList token
        listen := a.listen.getD defaultListen
        logFormat := a.logFormat.getD .json
        limits :=
          { limits with
            maxLogStreams := a.maxLogStreams.getD limits.maxLogStreams
            maxStatsStreams := a.maxStatsStreams.getD limits.maxStatsStreams } }

end Arguments

end Lookout
