import PipelineLint.Catalog.Component

set_option autoImplicit false

namespace PipelineLint.Catalog

def inputNames : List String := [
  "amqp_0_9", "amqp_1", "aws_kinesis", "aws_s3", "aws_sqs", "azure_blob_storage",
  "azure_cosmosdb", "azure_queue_storage", "azure_table_storage", "batched", "beanstalkd",
  "broker", "cassandra", "cockroachdb_changefeed", "csv", "discord", "dynamic", "file",
  "gcp_bigquery_select", "gcp_cloud_storage", "gcp_pubsub", "gcp_spanner_cdc", "generate", "git",
  "hdfs", "http_client", "http_server", "inproc", "kafka", "kafka_franz",
  "microsoft_sql_server_cdc", "mongodb", "mongodb_cdc", "mqtt", "mysql_cdc", "nanomsg", "nats",
  "nats_jetstream", "nats_kv", "nats_stream", "nsq", "ockam_kafka", "parquet", "postgres_cdc",
  "pulsar", "read_until", "redis_list", "redis_pubsub", "redis_scan", "redis_streams",
  "redpanda", "redpanda_common", "redpanda_migrator", "resource", "schema_registry", "sequence",
  "sftp", "socket", "socket_server", "spicedb_watch", "splunk", "sql_raw", "sql_select", "stdin",
  "subprocess", "tigerbeetle_cdc", "timeplus", "twitter_search", "websocket", "zmq4"
]

def processorNames : List String := [
  "archive", "avro", "awk", "aws_bedrock_chat", "aws_bedrock_embeddings", "aws_dynamodb_partiql",
  "aws_lambda", "azure_cosmosdb", "benchmark", "bloblang", "bounds_check", "branch", "cache",
  "cached", "catch", "cohere_chat", "cohere_embeddings", "cohere_rerank", "command", "compress",
  "couchbase", "crash", "decompress", "dedupe", "for_each", "gcp_bigquery_select",
  "gcp_vertex_ai_chat", "gcp_vertex_ai_embeddings", "google_drive_download",
  "google_drive_list_labels", "google_drive_search", "grok", "group_by", "group_by_value",
  "http", "insert_part", "javascript", "jira", "jmespath", "jq", "json_schema", "log", "mapping",
  "metric", "mongodb", "msgpack", "mutation", "nats_kv", "nats_request_reply", "ollama_chat",
  "ollama_embeddings", "ollama_moderation", "openai_chat_completion", "openai_embeddings",
  "openai_image_generation", "openai_speech", "openai_transcription", "openai_translation",
  "parallel", "parquet_decode", "parquet_encode", "parse_log", "processors", "protobuf",
  "qdrant", "rate_limit", "redis", "redis_script", "redpanda_data_transform", "resource",
  "retry", "schema_registry_decode", "schema_registry_encode", "select_parts", "sleep", "split",
  "sql_insert", "sql_raw", "sql_select", "subprocess", "switch", "sync_response", "text_chunker",
  "try", "unarchive", "wasm", "while", "workflow", "xml"
]

def outputNames : List String := [
  "amqp_0_9", "amqp_1", "aws_dynamodb", "aws_kinesis", "aws_kinesis_firehose", "aws_s3",
  "aws_sns", "aws_sqs", "azure_blob_storage", "azure_cosmosdb", "azure_data_lake_gen2",
  "azure_queue_storage", "azure_table_storage", "beanstalkd", "broker", "cache", "couchbase",
  "cyborgdb", "cypher", "discord", "drop", "drop_on", "dynamic", "elasticsearch_v8", "fallback",
  "file", "gcp_bigquery", "gcp_cloud_storage", "gcp_pubsub", "hdfs", "http_client",
  "http_server", "inproc", "kafka", "kafka_franz", "mongodb", "mqtt", "nanomsg", "nats",
  "nats_jetstream", "nats_kv", "nats_stream", "nsq", "ockam_kafka", "opensearch", "pinecone",
  "pulsar", "pusher", "qdrant", "questdb", "redis_hash", "redis_list", "redis_pubsub",
  "redis_streams", "redpanda", "redpanda_common", "redpanda_migrator", "reject",
  "reject_errored", "resource", "retry", "schema_registry", "sftp", "slack_reaction",
  "snowflake_put", "snowflake_streaming", "socket", "splunk_hec", "sql_insert", "sql_raw",
  "stdout", "switch", "sync_response", "timeplus", "websocket", "zmq4"
]

def cacheNames : List String := [
  "aws_dynamodb", "aws_s3", "couchbase", "file", "gcp_cloud_storage", "lru", "memcached",
  "memory", "mongodb", "multilevel", "nats_kv", "noop", "redis", "redpanda", "ristretto", "sql",
  "ttlru"
]

def rateLimitNames : List String := [
  "local", "redis"
]

def bufferNames : List String := [
  "memory", "none", "system_window"
]

def names : Category → List String
  | .input => inputNames
  | .processor => processorNames
  | .output => outputNames
  | .cache => cacheNames
  | .rateLimit => rateLimitNames
  | .buffer => bufferNames

def isKnown (name : String) (category : Category) : Bool :=
  (names category).contains name

def wrappers : List String := [
  "broker", "catch", "dynamic", "fallback", "switch", "try"
]

def metadataKeys : List String := [
  "_expanso_component_id", "description", "label", "processors"
]

def isMetadata (key : String) : Bool :=
  metadataKeys.contains key || key.toList.head? = some '_'

end PipelineLint.Catalog
