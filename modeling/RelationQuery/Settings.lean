import RelationQuery.Keyed
import RelationQuery.Text.Digits
import RelationQuery.Text.Property
import RelationQuery.Text.Words

/-!
# Connection settings

How to reach the server, read from the variables of an environment. A variable that is not set
leaves its setting as it is by default. Times are in milliseconds.
-/

namespace RelationQuery

structure Settings where
  user : Option String := none
  password : Option String := none
  host : String := "localhost"
  database : String := "postgres"
  port : UInt16 := 5432
  poolMax : Nat := 75
  connectionTimeout : Nat := 5000
  statementTimeout : Nat := 30000
  keepAlive : Bool := true
  keepAliveDelay : Nat := 30000
  applicationName : String := "sift"
  deriving DecidableEq, Repr

inductive SettingsError where
  | invalid (variableName value : String)
  | tlsUnsupported
  deriving DecidableEq, Repr

def SettingsError.message : SettingsError → String
  | .invalid variableName value =>
      "invalid value for " ++ variableName ++ ": " ++ String.ofList (Text.shown value)
  | .tlsUnsupported => "POSTGRES_SSL=true is not supported: TLS is not compiled in"

namespace Settings

def standard : Settings := {}

/-- The number in a variable, with blanks around it; the default where it is not set. -/
def readNumber (environment : Keyed String) (name : String) (default : Nat) :
    Except SettingsError Nat :=
  match environment.get? name with
  | none => .ok default
  | some value =>
      match Text.readNat64 (Text.trim value.toList) with
      | .ok n => .ok n
      | .error _ => .error (.invalid name value)

def readPort (environment : Keyed String) : Except SettingsError UInt16 := do
  let port ← readNumber environment "POSTGRES_PORT" standard.port.toNat
  if port < 2 ^ 16 then .ok (.ofNat port)
  else .error (.invalid "POSTGRES_PORT" (toString port))

/-- Reads the settings from an environment. The numbers are checked in the order of the fields. -/
def read (environment : Keyed String) : Except SettingsError Settings := do
  let port ← readPort environment
  let poolMax ← readNumber environment "POSTGRES_POOL_MAX" standard.poolMax
  let connectionTimeout ←
    readNumber environment "POSTGRES_POOL_CONNECTION_TIMEOUT" standard.connectionTimeout
  let statementTimeout ←
    readNumber environment "POSTGRES_STATEMENT_TIMEOUT" standard.statementTimeout
  let keepAliveDelay ←
    readNumber environment "POSTGRES_KEEP_ALIVE_INITIAL_DELAY" standard.keepAliveDelay
  if environment.get? "POSTGRES_SSL" = some "true" then .error .tlsUnsupported
  else
    .ok {
      user := environment.get? "POSTGRES_USER"
      password := environment.get? "POSTGRES_PASSWORD"
      host := (environment.get? "POSTGRES_HOSTNAME").getD standard.host
      database := (environment.get? "POSTGRES_DATABASE").getD standard.database
      port, poolMax, connectionTimeout, statementTimeout
      keepAlive := environment.get? "POSTGRES_KEEP_ALIVE" ≠ some "false"
      keepAliveDelay
      applicationName := (environment.get? "POSTGRES_APP_NAME").getD standard.applicationName }

/-- Where the server listens: at a host name, or at a socket in the file system. -/
inductive Address where
  | tcp (host : String)
  | unix (path : String)
  deriving DecidableEq, Repr

def address (settings : Settings) : Address :=
  match settings.host.toList with
  | '/' :: _ => .unix settings.host
  | _ => .tcp settings.host

def options (settings : Settings) : String :=
  "-c statement_timeout=" ++ toString settings.statementTimeout

end Settings

end RelationQuery
