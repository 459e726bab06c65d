import Mathlib.Logic.Function.Basic
import OpenAppsec.Configuration.JsonArchive

/-!
# The configuration of an attachment

The settings that the agent writes to a file and that the attachments read from
it, each of them in a block of its own whose failure leaves a default.
-/

namespace OpenAppsec

open Cereal Cereal.JSONInputArchive

@[ext]
structure DebugConfig where
  client : String
  server : String
  port : BitVec 32
  method : String
  host : String
  uri : String
  deriving DecidableEq

namespace DebugConfig

def default : DebugConfig where
  client := ""
  server := ""
  port := 0
  method := ""
  host := ""
  uri := ""

def save (config : DebugConfig) : JsonValue :=
  .object
    [("clientIp", .string config.client),
      ("listeningIp", .string config.server),
      ("uriPrefix", .string config.uri),
      ("hostName", .string config.host),
      ("httpMethod", .string config.method),
      ("listeningPort", .uint config.port)]

/-- The values of the block in `load`, in this order. -/
def loadValues : Reading DebugConfig :=
  (loadNvp "clientIp" loadString).andThen fun client =>
    (loadNvp "listeningIp" loadString).andThen fun server =>
      (loadNvp "uriPrefix" loadString).andThen fun uri =>
        (loadNvp "hostName" loadString).andThen fun host =>
          (loadNvp "httpMethod" loadString).andThen fun method =>
            (loadNvp "listeningPort" loadUint).andThen fun port archive =>
              (some { client, server, port, method, host, uri }, archive)

/-- `load`, which always returns. -/
def load (archive : JSONInputArchive) : DebugConfig × JSONInputArchive :=
  loadValues.orElse default archive

/-- A configuration is a node of the archive. -/
def loadNode : Reading DebugConfig :=
  startNode.andThen fun _ archive =>
    let loaded := load archive
    (some loaded.1, loaded.2.finishNode)

end DebugConfig

@[ext]
structure HttpAttachmentConfiguration where
  dbg : DebugConfig
  numericalValues : String → Option (BitVec 32)
  stringValues : String → Option String
  excludeSources : List String

namespace HttpAttachmentConfiguration

def getNumericalValue (config : HttpAttachmentConfiguration) (key : String) :
    BitVec 32 :=
  (config.numericalValues key).getD 0

def getStringValue (config : HttpAttachmentConfiguration) (key : String) :
    String :=
  (config.stringValues key).getD ""

def save (config : HttpAttachmentConfiguration) : JsonValue :=
  .object
    [("context_values", config.dbg.save),
      ("ip_ranges", saveVector config.excludeSources),
      number "dbg_level",
      text "static_resources_path",
      number "is_fail_open_mode_enabled",
      number "fail_open_timeout",
      number "is_fail_open_mode_hold_enabled",
      number "fail_open_hold_timeout",
      text "sessions_per_minute_limit_verdict",
      number "max_sessions_per_minute",
      number "res_proccessing_timeout_msec",
      number "req_proccessing_timeout_msec",
      number "transaction_entry_timeout_minutes",
      number "registration_thread_timeout_msec",
      number "req_header_thread_timeout_msec",
      number "req_body_thread_timeout_msec",
      number "res_header_thread_timeout_msec",
      number "res_body_thread_timeout_msec",
      number "waiting_for_verdict_thread_timeout_msec",
      number "nginx_inspection_mode",
      number "num_of_nginx_ipc_elements",
      number "keep_alive_interval_msec",
      number "min_retries_for_verdict",
      number "max_retries_for_verdict",
      number "hold_verdict_retries",
      number "hold_verdict_polling_time",
      number "body_size_trigger",
      number "remove_server_header",
      number "decompression_pool_size",
      number "recompression_pool_size",
      number "is_paired_affinity_enabled",
      number "is_async_mode_enabled",
      number "is_brotli_inspection_enabled"]
where
  number (key : String) : String × JsonValue :=
    (key, .uint (config.getNumericalValue key))
  text (key : String) : String × JsonValue :=
    (key, .string (config.getStringValue key))

/-- The block for a setting that is a string: it is erased if it is not
found. -/
def loadStringValue (name : String)
    (state : HttpAttachmentConfiguration × JSONInputArchive) :
    HttpAttachmentConfiguration × JSONInputArchive :=
  let read := loadNvp name loadString state.2
  ({ state.1 with
      stringValues := Function.update state.1.stringValues name read.1 },
    read.2)

def loadNumericalValue
    (state : HttpAttachmentConfiguration × JSONInputArchive)
    (setting : String × BitVec 32) :
    HttpAttachmentConfiguration × JSONInputArchive :=
  let read := loadNvp setting.1 loadUint state.2
  ({ state.1 with
      numericalValues :=
        Function.update state.1.numericalValues setting.1
          (some (read.1.getD setting.2)) },
    read.2)

/-- The settings that are numbers with their defaults, as they are loaded one
after the other, given the variable `CP_ASYNC_MODE` of the environment. -/
def numericalDefaults (cpAsyncMode : Option String) :
    List (String × BitVec 32) :=
  [("dbg_level", 0),
    ("is_fail_open_mode_enabled", 0),
    ("fail_open_timeout", 50),
    ("is_fail_open_mode_hold_enabled", 0),
    ("fail_open_hold_timeout", 200),
    ("sessions_per_minute_limit_verdict", 0),
    ("max_sessions_per_minute", 0),
    ("res_proccessing_timeout_msec", 3000),
    ("req_proccessing_timeout_msec", 3000),
    ("transaction_entry_timeout_minutes", 1),
    ("registration_thread_timeout_msec", 100),
    ("req_header_thread_timeout_msec", 100),
    ("req_body_thread_timeout_msec", 150),
    ("res_header_thread_timeout_msec", 100),
    ("res_body_thread_timeout_msec", 150),
    ("waiting_for_verdict_thread_timeout_msec", 150),
    ("nginx_inspection_mode", 0),
    ("num_of_nginx_ipc_elements", 200),
    ("keep_alive_interval_msec", 30000),
    ("min_retries_for_verdict", 3),
    ("max_retries_for_verdict", 15),
    ("hold_verdict_retries", 3),
    ("hold_verdict_polling_time", 1),
    ("body_size_trigger", 200000),
    ("remove_server_header", 0),
    ("decompression_pool_size", 262144),
    ("recompression_pool_size", 16384),
    ("is_paired_affinity_enabled", 0),
    ("is_brotli_inspection_enabled", 0),
    ("is_async_mode_enabled",
      if cpAsyncMode = some "true" ∨ cpAsyncMode = some "1" then 1 else 0)]

def load (cpAsyncMode : Option String) (archive : JSONInputArchive)
    (config : HttpAttachmentConfiguration) :
    HttpAttachmentConfiguration × JSONInputArchive :=
  let dbg :=
    (loadNvp "context_values" DebugConfig.loadNode).orElse .default archive
  let sources := (loadNvp "ip_ranges" loadVector).orElse [] dbg.2
  let texts :=
    loadStringValue "sessions_per_minute_limit_verdict"
      (loadStringValue "static_resources_path"
        ({ config with dbg := dbg.1, excludeSources := sources.1 },
          sources.2))
  (numericalDefaults cpAsyncMode).foldl loadNumericalValue texts

/-- `init`, given the document that the file holds: whether it succeeds. -/
def init (cpAsyncMode : Option String) (document : JsonValue)
    (config : HttpAttachmentConfiguration) :
    Bool × HttpAttachmentConfiguration :=
  match ofDocument document with
  | none => (false, config)
  | some archive => (true, (config.load cpAsyncMode archive).1)

end HttpAttachmentConfiguration

end OpenAppsec
