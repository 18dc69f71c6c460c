import ShopRelay.Text.Blank
import ShopRelay.Text.Digits

/-!
The settings of the service, looked up by name.
-/

namespace ShopRelay.Service

structure Settings where
  databaseUrl : String
  databaseMaxConnections : Nat
  redisUrl : String
  httpAddress : String
  /-- The configuration with which the database analyses texts to be searched. -/
  searchTextConfig : String
  webhookTimeoutSeconds : Nat
  webhookResponseLimit : Nat
deriving DecidableEq, Repr

inductive SettingsError where
  | required (key : String)
  | notANumber (key raw : String) (cause : Text.NumberError)
deriving DecidableEq, Repr

def SettingsError.message : SettingsError → String
  | .required key => key ++ " is required"
  | .notANumber key raw cause =>
    key ++ " must be a number, got '" ++ raw ++ "': " ++ cause.message

namespace Settings

abbrev Lookup := String → Option String

def require (lookup : Lookup) (key : String) : Except SettingsError String :=
  match lookup key with
  | some s => .ok s
  | none => .error (.required key)

/-- A number below a limit, with blanks around it; the standard one when nothing is set. -/
def number (lookup : Lookup) (key : String) (standard limit : Nat) : Except SettingsError Nat :=
  match lookup key with
  | none => .ok standard
  | some raw => (Text.readNatural limit (Text.trim raw)).mapError (.notANumber key raw)

/-- A blank text configuration counts as unset. -/
def ofLookup (lookup : Lookup) (standardAddress : String) : Except SettingsError Settings := do
  let databaseUrl ← require lookup "DATABASE_URL"
  let redisUrl ← require lookup "REDIS_URL"
  let config := (lookup "SEARCH_TEXT_CONFIG").filter fun s => !(Text.trim s).isEmpty
  return {
    databaseUrl
    redisUrl
    httpAddress := (lookup "HTTP_ADDR").getD standardAddress
    searchTextConfig := config.getD "simple"
    databaseMaxConnections := ← number lookup "DATABASE_MAX_CONNECTIONS" 10 UInt32.size
    webhookTimeoutSeconds := ← number lookup "WEBHOOK_TIMEOUT_SECS" 10 UInt64.size
    webhookResponseLimit := ← number lookup "WEBHOOK_RESPONSE_LIMIT" 1024 UInt64.size }

/-- The dispatcher listens on no address. -/
def forWorker (lookup : Lookup) : Except SettingsError Settings := do
  return { ← ofLookup lookup "" with httpAddress := "" }

end Settings

end ShopRelay.Service
