import ResourceFlow.Polling.Basic
/-! # Settings

  Settings are read from environment variables. A variable whose value is not
  valid UTF-8 counts as unset, and an unset variable has a default. The first
  offending variable is reported, in the order: stop flag, then interval and
  duration of the environment, identity service and deletion waits.
-/

namespace ResourceFlow

/-- The variables of an environment, as the bytes of their values. -/
abbrev Environ := String → Option ByteArray

/-- The text of a variable, unless it is unset or not valid UTF-8. -/
def Environ.text? (env : Environ) (key : String) : Option String :=
  (env key).bind String.fromUTF8?

/-! ### Errors -/

/-- What is wrong with a variable. -/
inductive SettingsError where
  /-- It is needed and not set. -/
  | missing (key : String)
  /-- Its value does not fit. -/
  | invalid (key reason : String)
  deriving DecidableEq, Inhabited

/-- The text of an error. -/
def SettingsError.message : SettingsError → String
  | .missing key => "missing required environment variable: " ++ key
  | .invalid key reason => "invalid value for " ++ key ++ ": " ++ reason

/-! ### Values -/

/-- The number after digits that already read as `n`. -/
def digitsValue (n : Nat) : List Char → Nat
  | [] => n
  | c :: rest => digitsValue (10 * n + (c.toNat - 48)) rest

/-- The value of one or more ASCII digits. -/
def decimal? (ds : List Char) : Option Nat :=
  if ds ≠ [] ∧ ds.all Char.isDigit then some (digitsValue 0 ds) else none

/-- The digits of a number, less a plus sign in front. -/
def dropPlus : List Char → List Char
  | '+' :: rest => rest
  | ds => ds

/-- The unsigned 64-bit number that a text spells, leading zeros and a plus sign allowed. -/
def word? (s : String) : Option Nat :=
  (decimal? (dropPlus s.toList)).bind fun n => if n < 18446744073709551616 then some n else none

/-- The truth value that a text spells. -/
def flag? (s : String) : Option Bool :=
  if s = "true" then some true else if s = "false" then some false else none

/-! ### Waits -/

/-- What the waits of flows and services are configured with. -/
structure Settings where
  /-- Waits for an environment. -/
  environment : Polling
  /-- Waits for an operation of the identity service. -/
  freeipa : Polling
  /-- Waits of a cascading deletion. -/
  deletion : Polling
  deriving DecidableEq, Inhabited

namespace Settings

/-- Ten seconds between attempts, for an hour. -/
def defaultPolling : Polling := { interval := .ofSeconds 10, timeout := .ofSeconds 3600 }

/-- The settings in an environment without variables. -/
def defaults : Settings := ⟨defaultPolling, defaultPolling, defaultPolling⟩

/-- The variable of the stop flag. -/
def stopVariable : String := "STRATUS_STOP_POLLING_ON_ERROR"

/-- The variable of an interval, by the class of waits. -/
def intervalVariable (waits : String) : String := "STRATUS_" ++ waits ++ "_POLL_INTERVAL_SECS"

/-- The variable of a duration, by the class of waits. -/
def durationVariable (waits : String) : String := "STRATUS_" ++ waits ++ "_POLL_DURATION_MINS"

/-- A variable's number, or the default when it is unset. -/
def number (env : Environ) (key : String) (unset : Nat) : Except SettingsError Nat :=
  match env.text? key with
  | none => .ok unset
  | some s =>
    match word? s with
    | some n => .ok n
    | none => .error (.invalid key "must be a positive integer")

/-- The stop flag. -/
def stopOnError (env : Environ) : Except SettingsError Bool :=
  match env.text? stopVariable with
  | none => .ok false
  | some s =>
    match flag? s with
    | some b => .ok b
    | none => .error (.invalid stopVariable "must be true or false")

/-- The seconds between the attempts of a class of waits. -/
def intervalSeconds (env : Environ) (waits : String) : Except SettingsError Nat := do
  let secs ← number env (intervalVariable waits) 10
  if secs = 0 then .error (.invalid (intervalVariable waits) "must be greater than zero")
  else .ok secs

/-- The seconds that a wait of a class may take. -/
def timeoutSeconds (env : Environ) (waits : String) : Except SettingsError Nat := do
  let mins ← number env (durationVariable waits) 60
  if 60 * mins < 18446744073709551616 then .ok (60 * mins)
  else .error (.invalid (durationVariable waits) "is too large")

/-- The configuration of a class of waits. -/
def polling (env : Environ) (waits : String) (stop : Bool) : Except SettingsError Polling := do
  let interval ← intervalSeconds env waits
  let timeout ← timeoutSeconds env waits
  return { interval := .ofSeconds interval, timeout := .ofSeconds timeout, stopOnError := stop }

/-- The settings of an environment. -/
def fromEnv (env : Environ) : Except SettingsError Settings := do
  let stop ← stopOnError env
  let environment ← polling env "ENVIRONMENT" stop
  let freeipa ← polling env "FREEIPA" stop
  let deletion ← polling env "DELETION" stop
  return { environment, freeipa, deletion }

end Settings

/-! ### Telemetry -/

/-- The versions that telemetry components are brought to. -/
structure TelemetrySettings where
  /-- The version of the telemetry package. -/
  cdpTelemetry : String := ""
  /-- The version of the logging agent. -/
  loggingAgent : String := ""
  /-- The release date of the metering agent. -/
  meteringDate : String := ""
  deriving DecidableEq, Inhabited

/-- The telemetry versions of an environment; an unset variable is an empty text. -/
def TelemetrySettings.fromEnv (env : Environ) : TelemetrySettings where
  cdpTelemetry := (env.text? "STRATUS_DESIRED_CDP_TELEMETRY_VERSION").getD ""
  loggingAgent := (env.text? "STRATUS_DESIRED_LOGGING_AGENT_VERSION").getD ""
  meteringDate := (env.text? "STRATUS_METERING_DESIRED_DATE").getD ""

end ResourceFlow
