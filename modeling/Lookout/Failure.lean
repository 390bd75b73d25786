/-!
# Failures of collaborators

What can go wrong outside the protocol: a container reference that is none, the container daemon,
the metrics source, input and output, the configuration. A failure carries its cause; the words, the
code and the advice shown with it are functions of the cause.
-/

namespace Lookout

/-- A failure and its cause. -/
inductive Failure where
  /-- A text that refers to no container. -/
  | invalidContainerId (id : String)
  /-- The container daemon refused a call or could not be reached. -/
  | docker (message : String)
  /-- The host's metrics could not be taken. -/
  | metrics (message : String)
  | io (message : String)
  /-- The configuration is not usable. -/
  | config (message : String)
  deriving DecidableEq

namespace Failure

/-- What is said of a failure, the cause behind a word for its kind. -/
def message : Failure → String
  | invalidContainerId id => "Invalid container ID: " ++ id
  | docker m => "Docker error: " ++ m
  | metrics m => "Metrics error: " ++ m
  | io m => "I/O error: " ++ m
  | config m => "Configuration error: " ++ m

/-- A name for its kind. -/
def code : Failure → String
  | invalidContainerId _ => "hola::container::invalid_id"
  | docker _ => "hola::docker"
  | metrics _ => "hola::metrics"
  | io _ => "hola::io"
  | config _ => "hola::config"

/-- What can be done about it, if anything. -/
def help : Failure → Option String
  | invalidContainerId _ => some "Container IDs and names are 1-128 characters of [A-Za-z0-9_.-]"
  | docker _ => some "Check that the Docker daemon is running and the socket is readable"
  | _ => none

end Failure

end Lookout
