import FacetSearch.Settings.Basic
import FacetSearch.Settings.Coercion

/-!
# Settings trees

Settings as a JSON object of four sections. Missing settings take their defaults, and
members that are no settings do not matter.
-/

namespace FacetSearch

namespace NamespaceTier

def fieldNames : List String := ["prefix", "tier"]

def read? (c : Coercion) (v : Json) : Option NamespaceTier := do
  let r ← c.record? fieldNames v
  return {
    stem := ← r.required? "prefix" c.text?
    tier := ← r.required? "tier" (c.signed? 32) }

def toJson (n : NamespaceTier) : Json :=
  .object [("prefix", .string n.stem), ("tier", .int n.tier)]

end NamespaceTier

namespace ServerSettings

def fieldNames : List String := ["host", "port", "cors_origins", "max_request_body_size"]

def read? (c : Coercion) (v : Json) : Option ServerSettings := do
  let r ← c.group? fieldNames v
  let d : ServerSettings := {}
  return {
    host := ← r.withDefault? "host" d.host c.text?
    port := ← r.withDefault? "port" d.port (c.unsigned? 16)
    corsOrigins := ← r.withDefault? "cors_origins" d.corsOrigins (Json.list? c.text?)
    maxBodySize := ← r.withDefault? "max_request_body_size" d.maxBodySize (c.unsigned? 64) }

def toJson (s : ServerSettings) : Json :=
  .object [("host", .string s.host), ("port", .int s.port),
    ("cors_origins", .strings s.corsOrigins), ("max_request_body_size", .int s.maxBodySize)]

end ServerSettings

namespace DatabaseSettings

def fieldNames : List String := ["url", "test_database_url", "pool_min_size", "pool_max_size",
  "pool_timeout_seconds", "statement_timeout_seconds"]

def read? (c : Coercion) (v : Json) : Option DatabaseSettings := do
  let r ← c.group? fieldNames v
  let d : DatabaseSettings := {}
  return {
    url := ← r.withDefault? "url" d.url c.text?
    testUrl := ← r.nullable? "test_database_url" c.text?
    poolMinSize := ← r.withDefault? "pool_min_size" d.poolMinSize (c.unsigned? 32)
    poolMaxSize := ← r.withDefault? "pool_max_size" d.poolMaxSize (c.unsigned? 32)
    poolTimeoutSeconds :=
      ← r.withDefault? "pool_timeout_seconds" d.poolTimeoutSeconds (c.unsigned? 64)
    statementTimeoutSeconds :=
      ← r.withDefault? "statement_timeout_seconds" d.statementTimeoutSeconds (c.unsigned? 64) }

def toJson (s : DatabaseSettings) : Json :=
  .object [("url", .string s.url), ("test_database_url", .ofOption .string s.testUrl),
    ("pool_min_size", .int s.poolMinSize), ("pool_max_size", .int s.poolMaxSize),
    ("pool_timeout_seconds", .int s.poolTimeoutSeconds),
    ("statement_timeout_seconds", .int s.statementTimeoutSeconds)]

end DatabaseSettings

namespace SearchSettings

def fieldNames : List String :=
  ["default_page_size", "max_page_size", "namespace_priority", "fallback_namespace_tier"]

def read? (c : Coercion) (v : Json) : Option SearchSettings := do
  let r ← c.group? fieldNames v
  let d : SearchSettings := {}
  return {
    defaultPageSize := ← r.withDefault? "default_page_size" d.defaultPageSize (c.signed? 64)
    maxPageSize := ← r.withDefault? "max_page_size" d.maxPageSize (c.signed? 64)
    namespaces :=
      ← r.withDefault? "namespace_priority" d.namespaces (Json.list? (NamespaceTier.read? c))
    fallbackTier := ← r.withDefault? "fallback_namespace_tier" d.fallbackTier (c.signed? 32) }

def toJson (s : SearchSettings) : Json :=
  .object [("default_page_size", .int s.defaultPageSize), ("max_page_size", .int s.maxPageSize),
    ("namespace_priority", .array (s.namespaces.map NamespaceTier.toJson)),
    ("fallback_namespace_tier", .int s.fallbackTier)]

end SearchSettings

namespace LoggingSettings

def fieldNames : List String := ["level", "json", "file_enabled", "file_directory",
  "file_prefix", "file_rotation", "service_name"]

def read? (c : Coercion) (v : Json) : Option LoggingSettings := do
  let r ← c.group? fieldNames v
  let d : LoggingSettings := {}
  return {
    level := ← r.withDefault? "level" d.level c.text?
    json := ← r.withDefault? "json" d.json c.flag?
    fileEnabled := ← r.withDefault? "file_enabled" d.fileEnabled c.flag?
    fileDirectory := ← r.withDefault? "file_directory" d.fileDirectory c.text?
    fileStem := ← r.withDefault? "file_prefix" d.fileStem c.text?
    fileRotation := ← r.withDefault? "file_rotation" d.fileRotation c.text?
    serviceName := ← r.withDefault? "service_name" d.serviceName c.text? }

def toJson (s : LoggingSettings) : Json :=
  .object [("level", .string s.level), ("json", .bool s.json),
    ("file_enabled", .bool s.fileEnabled), ("file_directory", .string s.fileDirectory),
    ("file_prefix", .string s.fileStem), ("file_rotation", .string s.fileRotation),
    ("service_name", .string s.serviceName)]

end LoggingSettings

namespace Settings

def fieldNames : List String := ["server", "database", "search", "logging"]

/-- The settings in a tree. -/
def read? (c : Coercion) (v : Json) : Option Settings := do
  let r ← c.group? fieldNames v
  return {
    server := ← r.withDefault? "server" {} (ServerSettings.read? c)
    database := ← r.withDefault? "database" {} (DatabaseSettings.read? c)
    search := ← r.withDefault? "search" {} (SearchSettings.read? c)
    logging := ← r.withDefault? "logging" {} (LoggingSettings.read? c) }

def toJson (s : Settings) : Json :=
  .object [("server", s.server.toJson), ("database", s.database.toJson),
    ("search", s.search.toJson), ("logging", s.logging.toJson)]

/-- The settings in a JSON document. -/
def ofJson? : Json → Option Settings := read? .strict

end Settings

end FacetSearch
