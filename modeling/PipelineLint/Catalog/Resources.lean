import PipelineLint.Catalog.Shared

set_option autoImplicit false

namespace PipelineLint.Catalog

def memoryBuffer : ComponentSpec where
  name := "memory"
  category := .buffer
  description := "Stores messages in memory between input and processors."
  fields := [
    ("limit", { field .number "Maximum buffer size in bytes" with defaultValue := .int 524288000 }),
    ("batch_policy", field .object "Batching applied when reading from the buffer")
  ]
  docs := some (docsUrl .buffer "memory")

def noneBuffer : ComponentSpec where
  name := "none"
  category := .buffer
  description := "No buffer; back pressure flows straight to the input."
  docs := some (docsUrl .buffer "none")

def systemWindowBuffer : ComponentSpec where
  name := "system_window"
  category := .buffer
  description := "Groups messages into tumbling or sliding time windows."
  fields := [
    ("timestamp_mapping", field .bloblang "Mapping producing the message timestamp"),
    ("size", { field .duration "Window size" with required := true, examples := [.str "1m"] }),
    ("slide", field .duration "Window slide"),
    ("offset", field .duration "Window offset"),
    ("allowed_lateness", field .duration "Grace period for late messages")
  ]
  docs := some (docsUrl .buffer "system_window")

def buffers : List ComponentSpec := [
  memoryBuffer, noneBuffer, systemWindowBuffer
]

def memoryCache : ComponentSpec where
  name := "memory"
  category := .cache
  description := "In-process key/value cache."
  fields := [
    ("default_ttl", { field .duration "Default time to live" with defaultValue := .str "5m" }),
    ("compaction_interval", { field .duration "Expired key sweep interval" with defaultValue := .str "60s" }),
    ("init_values", field .object "Initial contents"),
    ("shards", { field .number "Number of shards" with defaultValue := .int 1 })
  ]
  docs := some (docsUrl .cache "memory")

def redisCache : ComponentSpec where
  name := "redis"
  category := .cache
  description := "Redis backed cache."
  fields := [
    ("url", { field .string "Redis URL" with
      required := true
      examples := [.str "redis://localhost:6379"] }),
    ("prefix", field .string "Key prefix"),
    ("default_ttl", field .duration "Default time to live"),
    ("kind", { field .string "Client kind" with enum := ["simple", "cluster", "failover"] })
  ]
  docs := some (docsUrl .cache "redis")

def caches : List ComponentSpec := [
  memoryCache, redisCache
]

def localRateLimit : ComponentSpec where
  name := "local"
  category := .rateLimit
  description := "Token bucket rate limit local to this process."
  fields := [
    ("count", { field .number "Requests allowed per interval" with defaultValue := .int 1000 }),
    ("interval", { field .duration "Interval length" with defaultValue := .str "1s" }),
    ("byte_size", { field .number "Bytes allowed per interval" with defaultValue := .int 0 })
  ]
  docs := some (docsUrl .rateLimit "local")

def rateLimits : List ComponentSpec := [
  localRateLimit
]

end PipelineLint.Catalog
