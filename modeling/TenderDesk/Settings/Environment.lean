import TenderDesk.Settings.Source

/-!
# Environment — settings from the variables of a process

A variable that is not set has a default, one that is set to an empty text is empty. Numbers are
read at once, in the order of `Environment.deployment`, and the first that is none ends the
reading.
-/

namespace TenderDesk
namespace Settings

/-- What the variables of a process say about the deployment of a desk. -/
structure Deployment where
  /-- The web origins that may call the desk. -/
  origins : List String
  databaseUrl : String
  attempts : Int
  /-- Extensions as they were given. -/
  extensions : List String
  maxSize : Int
  maxTotal : Int
  port : Int
  source : Source
  deriving DecidableEq, Repr

/-- The variables of a process. -/
abbrev Environment := List (String × String)

namespace Environment

def get (env : Environment) (name default : String) : String :=
  (lookup? env name).getD default

/-- A variable as a value; null when it is not set. -/
def value (env : Environment) (name : String) : Json :=
  Json.ofText? (lookup? env name)

def integer (env : Environment) (name default : String) : Except SourceFault Int :=
  let text := env.get name default
  match Number.readInteger text with
  | .ok i => .ok i
  | .error fault => .error (.notInteger text fault)

def real (env : Environment) (name default : String) : Except SourceFault Binary64 :=
  let text := env.get name default
  match Number.readReal? text with
  | some x => .ok x
  | none => .error (.notReal text)

/-- The parts of a text between commas. -/
def commaParts (s : String) : List String :=
  (s.splitOn ",")

def defaultExtensions : String :=
  "csv,doc,docx,jpg,kml,ods,odt,pdf,png,ppt,pptx,rdf,rtf,txt,xls,xlsx,xml,zip"

/-- Where the store is, when nothing else says so. -/
def defaultDatabaseUrl (env : Environment) : String :=
  "postgresql+asyncpg://" ++ env.get "POSTGRES_USER" "postgres" ++ ":"
    ++ env.get "POSTGRES_PASSWORD" "postgres" ++ "@db:" ++ env.get "POSTGRES_PORT" "5432" ++ "/"
    ++ env.get "POSTGRES_DB" "procurement"

def deployment (env : Environment) : Except SourceFault Deployment := do
  let attempts ← env.integer "DB_RETRY_ATTEMPTS" "3"
  let timeout ← env.real "REMOTE_TIMEOUT_SECONDS" "30"
  let maxSize ← env.integer "DOCUMENT_MAX_SIZE" (toString (300 * 1024 * 1024))
  let maxTotal ← env.integer "DOCUMENT_MAX_TOTAL_SIZE" (toString (1024 * 1024 * 1024))
  let port ← env.integer "APP_PORT" "8000"
  let extensions := commaParts (env.get "DOCUMENT_ALLOWED_EXTENSIONS" defaultExtensions)
  return {
    origins := commaParts (env.get "ALLOWED_ORIGINS" "http://localhost:5173")
    databaseUrl := env.get "DATABASE_URL" env.defaultDatabaseUrl
    attempts, extensions, maxSize, maxTotal, port
    source := {
      baseUrl := env.value "REMOTE_BASE_URL"
      platformToken := env.value "REMOTE_API_TOKEN"
      timeout := .real timeout
      endpoints := .str (env.get "REMOTE_ENDPOINTS" "\x7b\x7d")
      creation := .str (env.get "REMOTE_CREATE_RFX" "\x7b\x7d")
      statuses := .str (env.get "RFX_STATUS_TO_TENDER_STATUS" "")
      extensions := .arr (extensions.map .ofText)
      maxSize := .int maxSize
      maxTotal := .int maxTotal
      authority := .str (env.get "OCDS_AUTHORITY" "ocds")
      ocid := .str (env.get "OCDS_OCID_PREFIX" "b5fd17")
      token := env.value "API_TOKEN" } }

end Environment
end Settings
end TenderDesk
