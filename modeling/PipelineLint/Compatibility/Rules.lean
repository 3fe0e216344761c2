import PipelineLint.Compatibility.Outline
import PipelineLint.Finding
import PipelineLint.Name.Nearest

set_option autoImplicit false

namespace PipelineLint.Compatibility

def batchingOutputs : List String := [
  "aws_s3", "gcp_cloud_storage", "azure_blob_storage", "elasticsearch_v8", "opensearch",
  "http_client", "kafka", "kafka_franz", "nats", "nats_jetstream", "gcp_bigquery",
  "snowflake_streaming", "mongodb", "qdrant", "pinecone", "sql_insert"
]

def kafkaTypes : List String := ["kafka", "kafka_franz"]

def changeInputs : List String :=
  ["postgres_cdc", "mysql_cdc", "mongodb_cdc", "cockroachdb_changefeed"]

def databaseInputs : List String :=
  ["sql_select", "sql_raw", "mongodb", "postgres_cdc", "mysql_cdc"]

def databaseProcessors : List String :=
  ["sql_select", "sql_insert", "sql_raw", "mongodb", "couchbase"]

def databaseOutputs : List String :=
  ["sql_insert", "sql_raw", "mongodb", "couchbase", "elasticsearch_v8"]

def sensitiveWords : List String :=
  ["password", "secret", "token", "key", "credential", "ssn"]

def fastOutputs : List String := ["kafka", "nats", "redis_pubsub"]

def slowOutputs : List String := ["http_client", "aws_s3", "elasticsearch_v8"]

def contains (text part : String) : Bool :=
  Text.occursIn part.toList text.toList

def occurrences (part : List Char) : List Char → Nat
  | [] => 0
  | c :: rest => (if part.isPrefixOf (c :: rest) then 1 else 0) + occurrences part rest

def optionText (options : Entries) (name : String) : String :=
  ((Entries.field? options name).map Value.display).getD ""

-- Whether an option is given and not empty.
def hasOption (options : Entries) (name : String) : Bool :=
  (Entries.fieldOrNull options name).isTruthy

def inputBatching? (outline : Outline) : Option Entries :=
  let options := outline.inputOptions
  match Entries.fieldOrNull options "batching" with
  | .map batching => some batching
  | _ =>
      if Entries.hasField options "batch_count" || Entries.hasField options "batching" then some []
      else none

def usesSyncResponse (outline : Outline) : Bool :=
  outline.outputType == "sync_response" || outline.hasProcessor "sync_response"

def mappingTexts (outline : Outline) : List String :=
  (outline.processors.filter fun part => part.type == "mapping" || part.type == "bloblang").map
    fun part => if part.value.isTruthy then part.value.display else ""

def listedTypes (value : Value) : Except KeyFault (List String) :=
  match value with
  | .list items => do
      let parts ← items.mapM part?
      return parts.filterMap fun part => part.map Part.type
  | _ => .ok []

def nestedTypes (part : Option Part) : Except KeyFault (List String) :=
  match part with
  | some part => listedTypes (Entries.fieldOrNull part.options "processors")
  | none => .ok []

def decided (condition : Outline → Bool) (outline : Outline) : Except KeyFault Bool :=
  .ok (condition outline)

def syncResponseWithoutServer (o : Outline) : Bool :=
  o.outputType == "sync_response" && o.inputType != "http_server"

def serverWithoutSyncResponse (o : Outline) : Bool :=
  o.inputType == "http_server" && !usesSyncResponse o

def syncResponseWithBatching (o : Outline) : Bool :=
  usesSyncResponse o && (inputBatching? o).isSome

def batchingIntoSingles (o : Outline) : Bool :=
  (inputBatching? o).isSome && o.output.isSome && !batchingOutputs.contains o.outputType

def kafkaBatchMismatch (o : Outline) : Bool :=
  kafkaTypes.contains o.inputType && kafkaTypes.contains o.outputType &&
    Entries.hasField o.inputOptions "batching" && !Entries.hasField o.outputOptions "batching"

def largeBatchSmallOutput (o : Outline) : Bool :=
  (match Entries.fieldOrNull ((inputBatching? o).getD []) "count" with
    | .int count => 1000 < count
    | _ => false) &&
    ["http_client", "http_server", "websocket"].contains o.outputType

def batchWithoutWindow (o : Outline) : Bool :=
  let batching := (inputBatching? o).getD []
  Entries.hasField batching "count" && !Entries.hasField batching "period"

def readsCsv (o : Outline) : Bool :=
  o.inputType == "csv" ||
    (o.inputType == "file" &&
      (Entries.fieldOrNull o.inputOptions "codec").text? == some "csv")

def csvParsedAsJson (o : Outline) : Bool :=
  readsCsv o && (mappingTexts o).any (contains · "parse_json")

def compressedIntoJson (o : Outline) : Bool :=
  ["elasticsearch_v8", "opensearch", "mongodb", "gcp_bigquery"].contains o.outputType &&
    o.hasProcessor "compress" && !o.hasProcessor "decompress"

def avroWithoutRegistry (o : Outline) : Bool :=
  o.hasProcessor "avro" && !o.hasProcessor "schema_registry_encode" &&
    !o.hasProcessor "schema_registry_decode"

def protobufWithoutSchema (o : Outline) : Bool :=
  (o.firstProcessor? "protobuf").any fun part =>
    !hasOption part.options "message" && !hasOption part.options "import_paths"

def databaseCount (o : Outline) : Nat :=
  (if databaseInputs.contains o.inputType then 1 else 0) +
    (if databaseOutputs.contains o.outputType then 1 else 0) +
    o.processors.countP fun part => databaseProcessors.contains part.type

def manyDatabases (o : Outline) : Bool :=
  2 < databaseCount o

def cacheWithoutResource (o : Outline) : Bool :=
  (o.hasProcessor "cache" || o.hasProcessor "cached") && o.cacheLabels.isEmpty &&
    !Entries.hasField o.whole "cache_resources"

def rateLimitWithoutResource (o : Outline) : Bool :=
  o.hasProcessor "rate_limit" && o.rateLimitLabels.isEmpty &&
    !Entries.hasField o.whole "rate_limit_resources"

def sharedCacheKeys (o : Outline) : Bool :=
  let caches := o.processors.filter (·.type == "cache")
  caches.any fun writer =>
    optionText writer.options "operator" == "set" && caches.any fun reader =>
      optionText reader.options "operator" == "get" &&
        optionText reader.options "resource" == optionText writer.options "resource"

def httpWithoutRetry (o : Outline) : Bool :=
  (o.firstProcessor? "http").any fun part =>
    !Entries.hasField part.options "retries" && !Entries.hasField part.options "retry"

def tryWithoutCatch (o : Outline) : Bool :=
  o.hasProcessor "try" && !o.hasProcessor "catch"

def catchBeforeTry (o : Outline) : Bool :=
  match (o.processors.map Part.type).idxOf? "catch", (o.processors.map Part.type).idxOf? "try" with
  | some first, some second => first < second
  | _, _ => false

def blockingInParallel (o : Outline) : Except KeyFault Bool :=
  (nestedTypes (o.firstProcessor? "parallel")).map fun types =>
    types.any ["http", "sleep", "subprocess"].contains

def unboundedParallel (o : Outline) : Bool :=
  (o.firstProcessor? "parallel").any fun part => !Entries.hasField part.options "cap"

def largeWorkflow (o : Outline) : Bool :=
  (o.firstProcessor? "workflow").any fun part =>
    match Entries.fieldOrNull part.options "branches" with
    | .map branches => 10 < branches.length
    | _ => false

def repeatedParsing (o : Outline) : Bool :=
  2 < (mappingTexts o).foldl
    (fun count text => count + occurrences "parse_json()".toList text.toList) 0

def changesInParallel (o : Outline) : Bool :=
  changeInputs.contains o.inputType && o.hasProcessor "parallel"

def changesIntoAppends (o : Outline) : Bool :=
  changeInputs.contains o.inputType && ["file", "stdout", "http_client"].contains o.outputType

def plainHttp (o : Outline) : Bool :=
  (o.firstProcessor? "http").any fun part =>
    let url := optionText part.options "url"
    "http://".toList.isPrefixOf url.toList && !contains url "localhost" &&
      !contains url "127.0.0.1"

def secretsLogged (o : Outline) : Bool :=
  (o.firstProcessor? "log").any fun part =>
    let message := lowered (optionText part.options "message")
    sensitiveWords.any (contains message)

def kafkaWithoutGroup (o : Outline) : Bool :=
  kafkaTypes.contains o.inputType && !hasOption o.inputOptions "consumer_group"

def natsWithoutTimeout (o : Outline) : Bool :=
  (o.firstProcessor? "nats_request_reply").any fun part => !hasOption part.options "timeout"

def switchWithoutDefault (o : Outline) : Bool :=
  o.outputType == "switch" &&
    match Entries.fieldOrNull o.outputOptions "cases" with
    | .list cases =>
        match cases.getLast? with
        | some (.map last) => Entries.hasField last "check"
        | _ => false
    | _ => false

def unbalancedFanOut (o : Outline) : Except KeyFault Bool :=
  let options := o.outputOptions
  match Entries.fieldOrNull options "outputs" with
  | .list outputs =>
      if o.outputType == "broker" && (Entries.fieldOrNull options "pattern").text? == some "fan_out" &&
          2 ≤ outputs.length then
        (listedTypes (.list outputs)).map fun types =>
          types.any fastOutputs.contains && types.any slowOutputs.contains
      else .ok false
  | _ => .ok false

structure Rule where
  id : String
  severity : Severity
  message : String
  suggestion : String
  condition : Outline → Except KeyFault Bool

def rules : List Rule := [
  ⟨"sync-response-without-http-server", .error,
    "sync_response output requires http_server input to work correctly",
    "Change input to http_server or use a different output type",
    decided syncResponseWithoutServer⟩,
  ⟨"http-server-without-sync-response", .info,
    "http_server input without sync_response will not return responses to clients",
    "Add sync_response output or processor if you need request-reply pattern",
    decided serverWithoutSyncResponse⟩,
  ⟨"sync-response-with-batching", .error,
    "Batching on input is incompatible with sync_response pattern",
    "Remove batching from input when using sync_response",
    decided syncResponseWithBatching⟩,
  ⟨"input-batching-output-no-batching", .warning,
    "Output type may not efficiently handle batched messages",
    "Consider adding batching to output or removing from input",
    decided batchingIntoSingles⟩,
  ⟨"kafka-batch-mismatch", .info,
    "Kafka input has batching but output does not. Consider output batching for efficiency",
    "Add batching to kafka output: batching: \x7b count: 100, period: 1s \x7d",
    decided kafkaBatchMismatch⟩,
  ⟨"large-batch-small-output", .warning,
    "Large batch size (>1000) may cause issues with HTTP-based outputs",
    "Consider reducing batch size or using batching on output with byte_size limit",
    decided largeBatchSmallOutput⟩,
  ⟨"batch-without-window", .info,
    "Count-based batching without time period may cause messages to wait indefinitely",
    "Add period to batching: batching: \x7b count: 100, period: 10s \x7d",
    decided batchWithoutWindow⟩,
  ⟨"csv-input-json-processor", .warning,
    "CSV input already produces structured data, so parse_json() is unnecessary",
    "Access CSV fields directly: root.field = this.column_name",
    decided csvParsedAsJson⟩,
  ⟨"binary-to-json-output", .error,
    "Compressed data sent to JSON-based output will cause errors",
    "Add decompress processor before JSON output or use a binary-compatible output",
    decided compressedIntoJson⟩,
  ⟨"avro-without-schema-registry", .info,
    "Using Avro processor without schema registry may cause schema evolution issues",
    "Consider using schema_registry_encode/decode for schema management",
    decided avroWithoutRegistry⟩,
  ⟨"protobuf-without-schema", .error,
    "Protobuf processor requires message type and schema configuration",
    "Add message type and import_paths to protobuf processor config",
    decided protobufWithoutSchema⟩,
  ⟨"multiple-db-connections", .warning,
    "Multiple database connections detected. Consider using resource pooling",
    "Define database connections in a resources section and reference them by label",
    decided manyDatabases⟩,
  ⟨"cache-without-resource", .error,
    "Cache processor used without cache_resources definition",
    "Add cache_resources section with cache configuration",
    decided cacheWithoutResource⟩,
  ⟨"rate-limit-without-resource", .error,
    "Rate limit processor used without rate_limit_resources definition",
    "Add rate_limit_resources section with rate limit configuration",
    decided rateLimitWithoutResource⟩,
  ⟨"duplicate-cache-keys", .info,
    "Multiple cache operations on same resource. Ensure key patterns do not conflict",
    "Consider using different key prefixes or separate cache resources",
    decided sharedCacheKeys⟩,
  ⟨"http-without-retry", .info,
    "HTTP processor without explicit retry configuration may fail on transient errors",
    "Add retries: 3 and retry_period: 1s to http processor config",
    decided httpWithoutRetry⟩,
  ⟨"try-without-catch", .warning,
    "try processor without catch. Errors will propagate unhandled",
    "Add catch processor after try to handle errors gracefully",
    decided tryWithoutCatch⟩,
  ⟨"catch-before-try", .error,
    "catch processor appears before try. catch must come after try",
    "Reorder processors: try should come before catch",
    decided catchBeforeTry⟩,
  ⟨"blocking-in-parallel", .warning,
    "Blocking operations (http, sleep, subprocess) in parallel may exhaust resources",
    "Consider limiting parallel cap or using async patterns",
    blockingInParallel⟩,
  ⟨"unbounded-parallel", .warning,
    "Parallel processor without cap may spawn unlimited goroutines",
    "Add cap to parallel processor: parallel: \x7b cap: 10, processors: [...] \x7d",
    decided unboundedParallel⟩,
  ⟨"large-workflow-dag", .info,
    "Large workflow DAG (>10 branches) may be hard to debug and maintain",
    "Consider splitting into multiple pipelines or simplifying the workflow",
    decided largeWorkflow⟩,
  ⟨"json-parse-every-message", .info,
    "Multiple parse_json() calls detected. Consider parsing once and storing in a variable",
    "Use let: let data = this.parse_json(); then access $data.field",
    decided repeatedParsing⟩,
  ⟨"cdc-without-ordering", .warning,
    "CDC source with parallel processing may cause out-of-order updates",
    "Ensure ordering is preserved by using sequential processing or key-based partitioning",
    decided changesInParallel⟩,
  ⟨"cdc-to-non-idempotent-output", .warning,
    "CDC source to non-idempotent output may cause duplicates on replay",
    "Use outputs that support upsert/idempotent writes (Kafka key, ES id, MongoDB upsert)",
    decided changesIntoAppends⟩,
  ⟨"http-without-tls", .warning,
    "HTTP processor using non-TLS connection to external host",
    "Use HTTPS for external connections to protect data in transit",
    decided plainHttp⟩,
  ⟨"sensitive-data-logging", .warning,
    "Log processor may expose sensitive data. Review logged fields",
    "Redact sensitive fields before logging or use field-level masking",
    decided secretsLogged⟩,
  ⟨"kafka-consumer-group-missing", .info,
    "Kafka input without consumer_group will not commit offsets",
    "Add consumer_group for reliable offset tracking and scaling",
    decided kafkaWithoutGroup⟩,
  ⟨"nats-request-timeout", .warning,
    "NATS request-reply without timeout may hang indefinitely",
    "Add timeout: 5s to nats_request_reply processor",
    decided natsWithoutTimeout⟩,
  ⟨"switch-without-default", .warning,
    "Switch output without default case. Unmatched messages will error",
    "Add a default case without check: - output: drop: \x7b\x7d",
    decided switchWithoutDefault⟩,
  ⟨"broker-fanout-unbalanced", .info,
    "Fan-out broker with mixed output speeds. Slow outputs may bottleneck fast ones",
    "Consider using broker with pattern: fan_out_sequential or separate pipelines",
    unbalancedFanOut⟩
]

def Rule.fires (rule : Rule) (outline : Outline) : Bool :=
  match rule.condition outline with
  | .ok holds => holds
  | .error _ => false

def Rule.finding (rule : Rule) : Finding :=
  { rule := rule.id, severity := rule.severity, message := rule.message
    suggestion := some rule.suggestion }

def review (outline : Outline) : Report :=
  (rules.filter (·.fires outline)).map Rule.finding

def reviewEntries (entries : Entries) : Except KeyFault Report :=
  (Outline.of entries).map review

def mark : Severity → String
  | .error => "X"
  | .warning => "!"
  | _ => "i"

def findingLines (finding : Finding) : List String :=
  let headline := "  [" ++ mark finding.severity ++ "] " ++ finding.message
  match finding.suggestion with
  | some suggestion => if suggestion = "" then [headline] else [headline, "      -> " ++ suggestion]
  | none => [headline]

def render (findings : List Finding) : String :=
  if findings.isEmpty then ""
  else
    "\n".intercalate (["Compatibility Warnings:", ""] ++
      [Severity.error, .warning, .info].flatMap fun severity =>
        (Report.ofSeverity findings severity).flatMap findingLines)

end PipelineLint.Compatibility
