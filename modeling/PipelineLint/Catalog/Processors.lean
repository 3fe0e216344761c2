import PipelineLint.Catalog.Shared

set_option autoImplicit false

namespace PipelineLint.Catalog

def processorList : FieldSpec :=
  { field .array "Child processors" with
    required := true
    items := some (field .object "Processor configuration") }

def compressionAlgorithms : List String :=
  ["gzip", "pgzip", "zlib", "flate", "snappy", "lz4", "zstd"]

def mappingProcessor : ComponentSpec where
  name := "mapping"
  category := .processor
  description := "Transforms messages with a Bloblang mapping."
  fields := [
    ("", { field .bloblang "Bloblang mapping" with
      required := true
      examples := [.str "root = this", .str "root.uppercase_name = this.name.uppercase()", .str "root = this.filter(item -> item.active)"] })
  ]
  examples := ["pipeline:\n  processors:\n    - mapping: root.upper = this.name.uppercase()"]
  docs := some (docsUrl .processor "mapping")

def bloblangProcessor : ComponentSpec where
  name := "bloblang"
  category := .processor
  description := "Legacy name of the mapping processor."
  fields := [
    ("", { field .bloblang "Bloblang mapping" with
      required := true
      examples := [.str "root = this"] })
  ]
  examples := ["pipeline:\n  processors:\n    - bloblang: root = this"]
  docs := some (docsUrl .processor "bloblang")

def mutationProcessor : ComponentSpec where
  name := "mutation"
  category := .processor
  description := "Modifies messages in place with a Bloblang mapping."
  fields := [
    ("", { field .bloblang "Bloblang mutation" with
      required := true
      examples := [.str "root.id = uuid_v4()"] })
  ]
  examples := ["pipeline:\n  processors:\n    - mutation: root.id = uuid_v4()"]
  docs := some (docsUrl .processor "mutation")

def jqProcessor : ComponentSpec where
  name := "jq"
  category := .processor
  description := "Transforms messages with a jq query."
  fields := [
    ("query", { field .string "jq query" with required := true, examples := [.str ".", .str ".items[]"] }),
    ("raw", { field .boolean "Output raw strings instead of JSON" with defaultValue := .bool false }),
    ("output_raw", { field .boolean "Write raw output" with defaultValue := .bool false })
  ]
  examples := ["pipeline:\n  processors:\n    - jq:\n        query: .items[]"]
  docs := some (docsUrl .processor "jq")

def httpProcessor : ComponentSpec where
  name := "http"
  category := .processor
  description := "Sends each message to an HTTP endpoint and replaces it with the response."
  fields := [
    ("url", { field .interpolatedString "URL to request" with
      required := true
      examples := [.str "http://api.example.com/enrich", .str "http://localhost:8080/$\x7b! this.id \x7d"] }),
    ("verb", { field .string "HTTP method" with
      defaultValue := .str "POST"
      enum := ["GET", "POST", "PUT", "PATCH", "DELETE"] }),
    ("headers", headers),
    ("timeout", { field .duration "Request timeout" with defaultValue := .str "5s" }),
    ("rate_limit", field .string "Rate limit resource to apply"),
    ("retries", { field .number "Maximum retry attempts" with defaultValue := .int 3 }),
    ("retry_period", { field .duration "Time between retries" with defaultValue := .str "1s" }),
    ("max_retry_backoff", { field .duration "Maximum retry backoff" with defaultValue := .str "300s" }),
    ("parallel", { field .boolean "Send batch messages in parallel" with defaultValue := .bool false }),
    ("batch_as_multipart", field .boolean "Send batches as multipart requests"),
    ("successful_on", field .array "Extra status codes treated as success")
  ]
  examples := ["pipeline:\n  processors:\n    - http:\n        url: http://api.example.com/enrich\n        verb: POST"]
  docs := some (docsUrl .processor "http")

def branchProcessor : ComponentSpec where
  name := "branch"
  category := .processor
  description := "Runs child processors on a copy of the message and maps the result back."
  fields := [
    ("request_map", { field .bloblang "Mapping producing the branch input" with
      defaultValue := .str "root = this" }),
    ("processors", processorList),
    ("result_map", { field .bloblang "Mapping merging the branch result" with
      defaultValue := .str "root = this" })
  ]
  examples := ["pipeline:\n  processors:\n    - branch:\n        request_map: 'root = this.user_id'\n        processors:\n          - http:\n              url: http://api.example.com/users/$\x7b! content() \x7d\n        result_map: 'root.user = this'"]
  docs := some (docsUrl .processor "branch")

def logProcessor : ComponentSpec where
  name := "log"
  category := .processor
  description := "Prints a log event for each message."
  fields := [
    ("level", { field .string "Log level" with
      defaultValue := .str "INFO"
      enum := ["TRACE", "DEBUG", "INFO", "WARN", "ERROR", "FATAL", "ALL"] }),
    ("message", { field .interpolatedString "Log message" with
      required := true
      examples := [.str "Processing message: $\x7b! content() \x7d"] }),
    ("fields_mapping", field .bloblang "Mapping producing structured log fields")
  ]
  examples := ["pipeline:\n  processors:\n    - log:\n        message: 'id: $\x7b! this.id \x7d'"]
  docs := some (docsUrl .processor "log")

def cacheProcessor : ComponentSpec where
  name := "cache"
  category := .processor
  description := "Performs operations against a cache resource."
  fields := [
    ("resource", { field .string "Cache resource label" with required := true, examples := [.str "my_cache"] }),
    ("operator", { field .string "Cache operation" with
      required := true
      enum := ["get", "set", "add", "delete", "keys"]
      examples := [.str "get"] }),
    ("key", { field .interpolatedString "Cache key" with
      required := true
      examples := [.str "$\x7b! this.id \x7d"] }),
    ("value", field .interpolatedString "Value to store"),
    ("ttl", field .duration "Time to live")
  ]
  examples := ["pipeline:\n  processors:\n    - cache:\n        resource: my_cache\n        operator: get\n        key: $\x7b! this.id \x7d"]
  docs := some (docsUrl .processor "cache")

def rateLimitProcessor : ComponentSpec where
  name := "rate_limit"
  category := .processor
  description := "Throttles messages using a rate limit resource."
  fields := [
    ("resource", { field .string "Rate limit resource label" with
      required := true
      examples := [.str "api_limit"] })
  ]
  docs := some (docsUrl .processor "rate_limit")

def dedupeProcessor : ComponentSpec where
  name := "dedupe"
  category := .processor
  description := "Drops messages whose key was already seen in a cache."
  fields := [
    ("cache", { field .string "Cache resource label" with
      required := true
      examples := [.str "dedupe_cache"] }),
    ("key", { field .interpolatedString "Deduplication key" with
      required := true
      examples := [.str "$\x7b! this.id \x7d"] }),
    ("drop_on_err", { field .boolean "Drop messages when the cache fails" with defaultValue := .bool true })
  ]
  docs := some (docsUrl .processor "dedupe")

def sleepProcessor : ComponentSpec where
  name := "sleep"
  category := .processor
  description := "Pauses processing for a duration."
  fields := [
    ("duration", { field .interpolatedString "Sleep duration" with required := true, examples := [.str "1s"] })
  ]
  docs := some (docsUrl .processor "sleep")

def compressProcessor : ComponentSpec where
  name := "compress"
  category := .processor
  description := "Compresses message payloads."
  fields := [
    ("algorithm", { field .string "Compression algorithm" with
      required := true
      enum := compressionAlgorithms
      examples := [.str "gzip"] }),
    ("level", { field .number "Compression level" with defaultValue := .int (-1) })
  ]
  docs := some (docsUrl .processor "compress")

def decompressProcessor : ComponentSpec where
  name := "decompress"
  category := .processor
  description := "Decompresses message payloads."
  fields := [
    ("algorithm", { field .string "Compression algorithm" with
      required := true
      enum := compressionAlgorithms ++ ["bzip2"]
      examples := [.str "gzip"] })
  ]
  docs := some (docsUrl .processor "decompress")

def switchProcessor : ComponentSpec where
  name := "switch"
  category := .processor
  description := "Routes messages through the first case whose check passes."
  fields := [
    ("", { field .array "Switch cases" with
      required := true
      items := some { field .object "Switch case" with
          properties := [
            ("check", field .bloblang "Condition mapping"),
            ("processors", field .array "Processors for this case"),
            ("fallthrough", field .boolean "Continue to the next case")
          ] } })
  ]
  docs := some (docsUrl .processor "switch")

def tryProcessor : ComponentSpec where
  name := "try"
  category := .processor
  description := "Runs child processors, skipping the rest after a failure."
  fields := [
    ("", processorList)
  ]
  docs := some (docsUrl .processor "try")

def catchProcessor : ComponentSpec where
  name := "catch"
  category := .processor
  description := "Runs child processors only on failed messages and clears the error."
  fields := [
    ("", processorList)
  ]
  docs := some (docsUrl .processor "catch")

def processors : List ComponentSpec := [
  mappingProcessor, bloblangProcessor, mutationProcessor, jqProcessor, httpProcessor,
  branchProcessor, logProcessor, cacheProcessor, rateLimitProcessor, dedupeProcessor,
  sleepProcessor, compressProcessor, decompressProcessor, switchProcessor, tryProcessor,
  catchProcessor
]

end PipelineLint.Catalog
