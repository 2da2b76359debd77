import Parley.Value.Conversion

/-!
# Settings

The limits under which executions run. The first four are checked when settings are made; the
others are taken as they are given and matter only where they are used.
-/

namespace Parley

/-- The limits of the engine. -/
structure Settings where
  /-- How many nodes a tick may visit. -/
  budget : Number
  /-- How often a generator is asked at most. -/
  attempts : Number
  /-- The seconds before a generator is asked again; they double from then on. -/
  delay : Number
  /-- The seconds after which a generator is given up. -/
  timeout : Number
  /-- The seconds of a wait that sets none. -/
  waitTimeout : Value
  /-- The seconds between two looks for waits that are due. -/
  interval : Value
  /-- Where executions are kept; null is in memory. -/
  store : Value
  /-- How much is reported. -/
  logLevel : Value
deriving Inhabited

namespace Settings

/-- The settings in force if nothing is set. -/
def standard : Settings where
  budget := .int 1000
  attempts := .int 3
  delay := .float (.ofNat 1)
  timeout := .float (.ofNat 60)
  waitTimeout := .float (.ofNat 3600)
  interval := .float (.ofNat 5)
  store := .null
  logLevel := .text "info"

/-- The names of the settings. -/
def names : List String := [
  "step_budget", "ai_max_attempts", "ai_base_delay", "ai_timeout", "default_wait_timeout",
  "poll_interval", "db_path", "log_level"]

/-- A setting that is compared with a number must be one. -/
def number (value : Value) : Except Failure Number :=
  match value.number? with
  | some n => .ok n
  | none => .error (.wrongType
      ("'<' not supported between instances of '" ++ value.typeName ++ "' and 'int'"))

/-- Settings made of values, if the limits make sense. -/
def make (budget attempts delay timeout waitTimeout interval store logLevel : Value) :
    Except Failure Settings := do
  let budget ← number budget
  if budget.lt (.int 1) then
    throw (.settings ("step_budget must be >= 1, got " ++ budget.text))
  let attempts ← number attempts
  if attempts.lt (.int 1) then
    throw (.settings ("ai_max_attempts must be >= 1, got " ++ attempts.text))
  let delay ← number delay
  let negative := "ai_base_delay must be >= 0 and ai_timeout > 0"
  if delay.lt (.int 0) then throw (.settings negative)
  let timeout ← number timeout
  if timeout.le (.int 0) then throw (.settings negative)
  return { budget, attempts, delay, timeout, waitTimeout, interval, store, logLevel }

/-- Settings from entries; what they leave out is as usual. -/
def ofEntries (entries : Entries) : Except Failure Settings := do
  Value.requireNames names entries
  let read (name : String) (usual : Value) : Value := (entries.text? name).getD usual
  make (read "step_budget" (.ofNumber standard.budget))
    (read "ai_max_attempts" (.ofNumber standard.attempts))
    (read "ai_base_delay" (.ofNumber standard.delay))
    (read "ai_timeout" (.ofNumber standard.timeout))
    (read "default_wait_timeout" standard.waitTimeout)
    (read "poll_interval" standard.interval)
    (read "db_path" standard.store)
    (read "log_level" standard.logLevel)

/-- Settings from the variables of an environment. -/
def ofEnvironment (environment : List (String × String)) : Except Failure Settings := do
  let read (name usual : String) : Value := .text ((environment.lookup name).getD usual)
  let budget ← (read "CONVOFLOW_STEP_BUDGET" "1000").toInt
  let attempts ← (read "CONVOFLOW_AI_MAX_ATTEMPTS" "3").toInt
  let delay ← (read "CONVOFLOW_AI_BASE_DELAY" "1").toFloat
  let timeout ← (read "CONVOFLOW_AI_TIMEOUT" "60").toFloat
  let waitTimeout ← (read "CONVOFLOW_DEFAULT_WAIT_TIMEOUT" "3600").toFloat
  let interval ← (read "CONVOFLOW_POLL_INTERVAL" "5").toFloat
  let path := (environment.lookup "CONVOFLOW_DB_PATH").getD ""
  make (.int budget) (.int attempts) (.float delay) (.float timeout) (.float waitTimeout)
    (.float interval) (if path = "" then .null else .text path) (read "CONVOFLOW_LOG_LEVEL" "info")

/-- The settings under their names. -/
def toEntries (settings : Settings) : Entries := [
  (.text "step_budget", .ofNumber settings.budget),
  (.text "ai_max_attempts", .ofNumber settings.attempts),
  (.text "ai_base_delay", .ofNumber settings.delay),
  (.text "ai_timeout", .ofNumber settings.timeout),
  (.text "default_wait_timeout", settings.waitTimeout),
  (.text "poll_interval", settings.interval),
  (.text "db_path", settings.store),
  (.text "log_level", settings.logLevel)]

end Settings

end Parley
