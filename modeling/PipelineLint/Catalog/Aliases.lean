import PipelineLint.Catalog.Component

set_option autoImplicit false

namespace PipelineLint

-- How certain a correction is. Only a high one is ever applied.
inductive Confidence where
  | high
  | medium
  | low
deriving DecidableEq, Inhabited

namespace Confidence

def all : List Confidence := [.high, .medium, .low]

def name : Confidence → String
  | .high => "high"
  | .medium => "medium"
  | .low => "low"

def ofName? (name : String) : Option Confidence :=
  all.find? (·.name == name)

end Confidence

structure Ambiguity where
  candidates : List String
  confidence : Confidence
  reason : String
deriving DecidableEq

abbrev Misspellings := List (String × String)

namespace Catalog

def componentMisspellings : Misspellings := [
  ("blobl", "bloblang"), ("blobang", "bloblang"), ("blob", "bloblang"), ("map", "mapping"),
  ("transform", "mapping"), ("mappings", "mapping"), ("kafaka", "kafka"), ("kafk", "kafka"),
  ("kakfa", "kafka"), ("kafak", "kafka"), ("kafka_consumer", "kafka"),
  ("kafka_producer", "kafka"), ("s3", "aws_s3"), ("amazon_s3", "aws_s3"),
  ("aws_s3_bucket", "aws_s3"), ("gcs", "gcp_cloud_storage"),
  ("google_cloud_storage", "gcp_cloud_storage"), ("azure_blob", "azure_blob_storage"),
  ("sqs", "aws_sqs"), ("sns", "aws_sns"), ("kinesis", "aws_kinesis"),
  ("dynamodb", "aws_dynamodb"), ("pubsub", "gcp_pubsub"), ("google_pubsub", "gcp_pubsub"),
  ("elasticsearch", "elasticsearch_v8"), ("elastic", "elasticsearch_v8"),
  ("es", "elasticsearch_v8"), ("elastic_search", "elasticsearch_v8"),
  ("elasticsearch_v7", "elasticsearch_v8"), ("mongo", "mongodb"), ("mongdb", "mongodb"),
  ("mongo_db", "mongodb"), ("nat", "nats"), ("nats_consumer", "nats"), ("nats_producer", "nats"),
  ("redis_queue", "redis_list"), ("redis_stream", "redis_streams"), ("rabbitmq", "amqp_0_9"),
  ("rabbit", "amqp_0_9"), ("amqp", "amqp_0_9")
]

def directedMisspellings : Category → Misspellings
  | .input => [("console", "stdin"), ("webhook", "http_server"), ("http_listener", "http_server")]
  | .output => [("console", "stdout"), ("print", "stdout"), ("null", "drop"), ("discard", "drop"), ("devnull", "drop"), ("webhook", "http_client")]
  | .processor => [("logger", "log"), ("print", "log"), ("delay", "sleep"), ("wait", "sleep")]
  | _ => []

def ambiguousComponents : List (String × Ambiguity) := [
  ("http", ⟨["http_client", "http_server"], .medium,
    "polling a URL and serving requests are different components"⟩),
  ("https", ⟨["http_client", "http_server"], .medium,
    "polling a URL and serving requests are different components"⟩),
  ("rest", ⟨["http_client", "http_server"], .low,
    "generic API term"⟩),
  ("api", ⟨["http_client", "http_server"], .low,
    "generic API term"⟩),
  ("sql", ⟨["sql_select", "sql_insert", "sql_raw"], .medium,
    "select, insert and raw statements differ"⟩),
  ("postgres", ⟨["sql_select", "sql_insert", "sql_raw", "postgres_cdc"], .medium,
    "use a sql_* component with driver: postgres"⟩),
  ("postgresql", ⟨["sql_select", "sql_insert", "sql_raw", "postgres_cdc"], .medium,
    "use a sql_* component with driver: postgres"⟩),
  ("pg", ⟨["sql_select", "sql_insert", "sql_raw", "postgres_cdc"], .medium,
    "use a sql_* component with driver: postgres"⟩),
  ("mysql", ⟨["sql_select", "sql_insert", "sql_raw", "mysql_cdc"], .medium,
    "use a sql_* component with driver: mysql"⟩),
  ("database", ⟨["sql_select", "sql_insert", "sql_raw", "mongodb"], .low,
    "no database is implied by the name"⟩),
  ("db", ⟨["sql_select", "sql_insert", "sql_raw", "mongodb"], .low,
    "no database is implied by the name"⟩),
  ("redis", ⟨["redis_list", "redis_pubsub", "redis_streams", "redis_scan", "redis_hash"], .medium,
    "Redis inputs and outputs are split by data structure"⟩),
  ("queue", ⟨["nats", "aws_sqs", "redis_list", "amqp_0_9"], .low,
    "no broker is implied"⟩),
  ("stream", ⟨["kafka", "redis_streams", "nats_jetstream"], .low,
    "no broker is implied"⟩),
  ("filter", ⟨["mapping", "switch"], .medium,
    "filtering is a mapping that assigns deleted() or a switch with checks"⟩),
  ("lambda", ⟨["aws_lambda"], .medium,
    "AWS Lambda is only available as a processor"⟩),
  ("cron", ⟨["generate"], .medium,
    "schedules are generate inputs with an interval"⟩),
  ("timer", ⟨["generate"], .medium,
    "schedules are generate inputs with an interval"⟩)
]

def methodMisspellings : Misspellings := [
  ("parseJson", "parse_json"), ("parseJSON", "parse_json"), ("json_parse", "parse_json"),
  ("fromJson", "parse_json"), ("json_decode", "parse_json"), ("formatJson", "format_json"),
  ("toJson", "format_json"), ("toJSON", "format_json"), ("to_json", "format_json"),
  ("stringify", "format_json"), ("json_encode", "format_json"), ("parseYaml", "parse_yaml"),
  ("parseXml", "parse_xml"), ("parseCsv", "parse_csv"), ("parseUrl", "parse_url"),
  ("mapEach", "map_each"), ("forEach", "map_each"), ("for_each", "map_each"),
  ("sortBy", "sort_by"), ("uniq", "unique"), ("distinct", "unique"), ("flat", "flatten"),
  ("push", "append"), ("len", "length"), ("size", "length"), ("count", "length"),
  ("toUpperCase", "uppercase"), ("toUpper", "uppercase"), ("upper", "uppercase"),
  ("upperCase", "uppercase"), ("to_upper", "uppercase"), ("toLowerCase", "lowercase"),
  ("toLower", "lowercase"), ("lower", "lowercase"), ("lowerCase", "lowercase"),
  ("to_lower", "lowercase"), ("toString", "string"), ("to_string", "string"), ("str", "string"),
  ("toNumber", "number"), ("to_number", "number"), ("parseInt", "number"),
  ("parseFloat", "number"), ("to_int", "number"), ("int", "number"), ("float", "number"),
  ("toBool", "bool"), ("to_bool", "bool"), ("startsWith", "has_prefix"),
  ("starts_with", "has_prefix"), ("endsWith", "has_suffix"), ("ends_with", "has_suffix"),
  ("includes", "contains"), ("indexOf", "index_of"), ("replaceAll", "replace_all"),
  ("replace", "replace_all"), ("strip", "trim"), ("substring", "slice"), ("substr", "slice"),
  ("default", "or"), ("format_timestamp", "ts_format"), ("formatTimestamp", "ts_format"),
  ("parse_timestamp", "ts_parse"), ("parseTimestamp", "ts_parse"),
  ("format_timestamp_unix", "ts_unix"), ("strftime", "ts_strftime"), ("strptime", "ts_strptime")
]

def functionMisspellings : Misspellings := [
  ("uuid", "uuid_v4"), ("uuidv4", "uuid_v4"), ("uuid4", "uuid_v4"), ("guid", "uuid_v4"),
  ("random", "random_int"), ("rand", "random_int"), ("getenv", "env"), ("environ", "env"),
  ("delete", "deleted"), ("drop", "deleted"), ("unix_timestamp", "timestamp_unix"),
  ("timestamp_ms", "timestamp_unix_milli"), ("host_name", "hostname")
]

def ambiguousMethods : List (String × Ambiguity) := [
  ("map", ⟨["map_each", "map_each_key"], .medium,
    "values and keys are mapped separately"⟩),
  ("reduce", ⟨["fold"], .medium,
    "fold takes an initial value and a two-field context"⟩),
  ("parse", ⟨["parse_json", "parse_yaml", "parse_xml", "parse_csv"], .low,
    "format unknown"⟩),
  ("find", ⟨["index_of", "filter"], .low,
    "position or matching elements"⟩),
  ("format_date", ⟨["ts_format", "ts_strftime"], .medium,
    "Go layout or strftime format"⟩)
]

def ambiguousFunctions : List (String × Ambiguity) := [
  ("timestamp", ⟨["now", "timestamp_unix"], .low,
    "string or numeric timestamp"⟩),
  ("date", ⟨["now"], .low,
    "no date-only function exists"⟩),
  ("id", ⟨["uuid_v4", "ulid", "ksuid"], .low,
    "several ID generators"⟩)
]

def processorsSynonyms : List String := [
  "with", "steps", "stages", "tasks", "transforms", "transformations", "actions", "processor", "processes"
]

def processorsKey : String := "processors"

end Catalog

end PipelineLint
