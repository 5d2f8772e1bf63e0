import NestedQuery.File
import NestedQuery.Json.Reader
import NestedQuery.Log.Event
import NestedQuery.Schema.Basic
import NestedQuery.Text.Characters

/-!
# Configuration

A configuration starts from the defaults, takes what its file states and then
what the environment overrides, and is checked last.  Credentials have no
default; offline work does without them.  When several faults coexist the
first of this order is reported: the file, the port of the environment, the
credentials, the port, the timeout.
-/

namespace NestedQuery

open Json (Source FieldReader Decoded)

structure Config where
  host : String := "localhost"
  port : UInt16 := 8000
  databaseId : Option String := none
  secret : Option String := none
  apiBaseUrl : String := "https://api.notion.com"
  apiVersion : String := "2022-06-28"
  /-- In seconds. -/
  requestTimeout : UInt64 := 30
  maxNestingLevel : UInt64 := 2
  corsOrigins : List String := []
  logLevel : Severity := .info
  schema : Schema := .default
  deriving DecidableEq

/-- What a configuration is refused for. -/
inductive ConfigFlaw
  | invalidPort (text : String)
  | missingCredentials
  | zeroPort
  | zeroTimeout
  /-- A reason given in words. -/
  | stated (reason : String)
  deriving DecidableEq

def ConfigFlaw.message : ConfigFlaw → String
  | .invalidPort text => "Invalid PORT: '" ++ text ++ "'"
  | .missingCredentials => "Must define NOTION_SECRET and NOTION_DATABASE_ID in env"
  | .zeroPort => "port must be > 0"
  | .zeroTimeout => "request_timeout_secs must be > 0"
  | .stated reason => reason

inductive ConfigError
  /-- The file cannot be read. -/
  | unreadable (detail : String)
  /-- The file holds no configuration; the detail is left to the reader of
  the file. -/
  | undecodable (detail : Option String)
  | invalid (flaw : ConfigFlaw)
  deriving DecidableEq

def ConfigError.message : ConfigError → String
  | .unreadable detail => "Failed to read config: " ++ detail
  | .undecodable none => "Invalid config JSON"
  | .undecodable (some detail) => "Invalid config JSON: " ++ detail
  | .invalid flaw => flaw.message

/-- A file and what reading it gave: its bytes, or the reason it cannot be
read. -/
structure ConfigFile where
  path : String
  content : Except FileFlaw ByteArray

namespace Config

def toJson (config : Config) : Json :=
  .object
    [("host", .string config.host), ("port", .ofNat config.port.toUInt64),
      ("database_id", .ofOption .string config.databaseId),
      ("secret", .ofOption .string config.secret),
      ("api_base_url", .string config.apiBaseUrl),
      ("api_version", .string config.apiVersion),
      ("request_timeout_secs", .ofNat config.requestTimeout),
      ("max_nesting_level", .ofNat config.maxNestingLevel),
      ("cors_origins", .array (config.corsOrigins.map .string)),
      ("log_level", .string config.logLevel.configName),
      ("schema", config.schema.toJson)]

def decodePort (source : Source) : Decoded UInt16 :=
  (source.decodeNatural UInt16.size).map Nat.toUInt16

def decodeWord (source : Source) : Decoded UInt64 :=
  (source.decodeNatural UInt64.size).map Nat.toUInt64

def fields : List (FieldReader Config) :=
  [.optional "host" Source.decodeString fun config host => { config with host },
    .optional "port" decodePort fun config port => { config with port },
    .optional "database_id" (Source.decodeOption Source.decodeString)
      fun config databaseId => { config with databaseId },
    .optional "secret" (Source.decodeOption Source.decodeString)
      fun config secret => { config with secret },
    .optional "api_base_url" Source.decodeString
      fun config apiBaseUrl => { config with apiBaseUrl },
    .optional "api_version" Source.decodeString
      fun config apiVersion => { config with apiVersion },
    .optional "request_timeout_secs" decodeWord
      fun config requestTimeout => { config with requestTimeout },
    .optional "max_nesting_level" decodeWord
      fun config maxNestingLevel => { config with maxNestingLevel },
    .optional "cors_origins" (Source.decodeList Source.decodeString)
      fun config corsOrigins => { config with corsOrigins },
    .optional "log_level" Severity.decode
      fun config logLevel => { config with logLevel },
    .optional "schema" Schema.decode fun config schema => { config with schema }]

def decode : Source → Decoded Config :=
  Source.decodeStructure fields {}

/-- A missing value and the empty text are no credential. -/
def isMissing (credential : Option String) : Bool :=
  credential.getD "" = ""

def validateSettings (config : Config) : Except ConfigFlaw Unit :=
  if config.port = 0 then .error .zeroPort
  else if config.requestTimeout = 0 then .error .zeroTimeout
  else .ok ()

def validate (config : Config) : Except ConfigFlaw Unit :=
  if isMissing config.databaseId || isMissing config.secret then
    .error .missingCredentials
  else config.validateSettings

/-- A decimal number, a plus sign before it allowed. -/
def natural? : List Char → Option Nat
  | '+' :: text => Text.natural? 10 text
  | text => Text.natural? 10 text

/-- A port as the environment states it, white space around it allowed. -/
def port? (text : String) : Option UInt16 :=
  match natural? (Text.trim text.toList) with
  | some value => if value < UInt16.size then some value.toUInt16 else none
  | none => none

/-- The text of a file. -/
def readText (file : ConfigFile) : Except ConfigError String :=
  match file.content with
  | .error flaw => .error (.unreadable (file.path ++ ": " ++ flaw.message))
  | .ok bytes =>
      match String.fromUTF8? bytes with
      | some text => .ok text
      | none =>
          .error (.unreadable (file.path ++ ": stream did not contain valid UTF-8"))

def ofText (text : String) : Except ConfigError Config :=
  match decode (Json.read text) with
  | .ok config => .ok config
  | .error _ => .error (.undecodable none)

/-- What the file states; without a file the defaults. -/
def ofFile : Option ConfigFile → Except ConfigError Config
  | none => .ok {}
  | some file => readText file >>= ofText

/-- The variables that override a configuration. -/
def override (config : Config) (environment : String → Option String) :
    Except ConfigError Config := do
  let port ←
    match environment "PORT" with
    | none => pure config.port
    | some text =>
        match port? text with
        | some port => pure port
        | none => throw (.invalid (.invalidPort text))
  return { config with
    host := (environment "HOST").getD config.host
    port
    databaseId := environment "NOTION_DATABASE_ID" <|> config.databaseId
    secret := environment "NOTION_SECRET" <|> config.secret
    apiBaseUrl := (environment "NOTION_API_URL").getD config.apiBaseUrl }

/-- Whether a configuration is loaded for work that needs the remote service. -/
inductive Purpose
  | online
  | offline
  deriving DecidableEq

def check (config : Config) : Purpose → Except ConfigFlaw Unit
  | .online => config.validate
  | .offline => config.validateSettings

/-- Loads a configuration from an optional file and the environment. -/
def load (file : Option ConfigFile) (environment : String → Option String)
    (purpose : Purpose) : Except ConfigError Config := do
  let config ← ofFile file
  let config ← config.override environment
  (config.check purpose).mapError .invalid
  return config

/-- The entry that tells of a loaded configuration. -/
def loadedEntry (config : Config) : Log.Entry :=
  Log.Event.configLoaded.entry
    [("host", config.host), ("port", toString config.port.toNat),
      ("max_nesting_level", toString config.maxNestingLevel.toNat)]

/-- What loading logs: a failure is left to the caller to tell. -/
def loadEntries : Except ConfigError Config → List Log.Entry
  | .ok config => [config.loadedEntry]
  | .error _ => []

def socketAddress (config : Config) : String :=
  config.host ++ ":" ++ toString config.port.toNat

/-- The URL of the query endpoint of the configured database. -/
def queryUrl (config : Config) : String :=
  let base := (config.apiBaseUrl.toList.reverse.dropWhile (· = '/')).reverse
  String.ofList base ++ "/v1/databases/" ++ config.databaseId.getD "" ++ "/query"

end Config

end NestedQuery
