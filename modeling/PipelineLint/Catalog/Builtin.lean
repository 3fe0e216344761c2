set_option autoImplicit false

namespace PipelineLint

inductive CallKind where
  | function
  | method
deriving DecidableEq, Inhabited

namespace CallKind

def name : CallKind → String
  | .function => "function"
  | .method => "method"

def ofName? (name : String) : Option CallKind :=
  [CallKind.function, .method].find? (·.name == name)

def other : CallKind → CallKind
  | .function => .method
  | .method => .function

def render (kind : CallKind) (name : String) : String :=
  match kind with
  | .function => name ++ "()"
  | .method => "." ++ name ++ "()"

end CallKind

structure Builtin where
  kind : CallKind
  name : String
  category : String
  signature : String
  description : String
  usage : String
deriving DecidableEq

namespace Builtin

def functions : List Builtin := [
  ⟨.function, "batch_index", "message", "batch_index()",
    "Index of the message within its batch.",
    "root.idx = batch_index()"⟩,
  ⟨.function, "batch_size", "message", "batch_size()",
    "Size of the current batch.",
    "root.size = batch_size()"⟩,
  ⟨.function, "content", "message", "content()",
    "Raw message payload as bytes.",
    "root.raw = content().string()"⟩,
  ⟨.function, "count", "general", "count(name)",
    "Increments and returns a named counter.",
    "root.n = count(\"files\")"⟩,
  ⟨.function, "counter", "general", "counter(min?, max?)",
    "Incrementing counter local to the mapping.",
    "root.seq = counter()"⟩,
  ⟨.function, "deleted", "general", "deleted()",
    "Drops the message or removes the assigned field.",
    "root = deleted()"⟩,
  ⟨.function, "env", "environment", "env(name)",
    "Value of an environment variable.",
    "root.region = env(\"AWS_REGION\")"⟩,
  ⟨.function, "error", "message", "error()",
    "Error message of a failed message, or null.",
    "root.err = error()"⟩,
  ⟨.function, "errored", "message", "errored()",
    "Whether the message has failed.",
    "root.failed = errored()"⟩,
  ⟨.function, "fake", "fake", "fake(kind)",
    "Fake data of the given kind.",
    "root.email = fake(\"email\")"⟩,
  ⟨.function, "file", "environment", "file(path)",
    "Contents of a file.",
    "root.cfg = file(\"/etc/app.json\").parse_json()"⟩,
  ⟨.function, "hostname", "environment", "hostname()",
    "Host name of the machine.",
    "root.host = hostname()"⟩,
  ⟨.function, "json", "message", "json(path?)",
    "Message payload parsed as JSON, optionally at a path.",
    "root.id = json(\"id\")"⟩,
  ⟨.function, "ksuid", "general", "ksuid()",
    "New K-sortable unique ID.",
    "root.id = ksuid()"⟩,
  ⟨.function, "meta", "message", "meta(key)",
    "Metadata value as a string (legacy form of @key).",
    "root.key = meta(\"kafka_key\")"⟩,
  ⟨.function, "metadata", "message", "metadata(key?)",
    "Metadata value, or all metadata as an object.",
    "root.topic = metadata(\"kafka_topic\")"⟩,
  ⟨.function, "nanoid", "general", "nanoid(length?, alphabet?)",
    "New nano ID.",
    "root.id = nanoid()"⟩,
  ⟨.function, "nothing", "general", "nothing()",
    "Leaves the assigned field unchanged.",
    "root.x = if this.skip \x7b nothing() \x7d else \x7b 1 \x7d"⟩,
  ⟨.function, "now", "timestamp", "now()",
    "Current timestamp as an RFC 3339 string.",
    "root.ts = now()"⟩,
  ⟨.function, "random_int", "number", "random_int(seed?, min?, max?)",
    "Pseudo-random integer.",
    "root.r = random_int(max: 100)"⟩,
  ⟨.function, "range", "general", "range(start, stop, step?)",
    "Array of integers.",
    "root.xs = range(0, 10)"⟩,
  ⟨.function, "throw", "general", "throw(message)",
    "Fails the mapping with an error.",
    "root = throw(\"bad input\")"⟩,
  ⟨.function, "timestamp_unix", "timestamp", "timestamp_unix()",
    "Current Unix time in seconds.",
    "root.ts = timestamp_unix()"⟩,
  ⟨.function, "timestamp_unix_micro", "timestamp", "timestamp_unix_micro()",
    "Current Unix time in microseconds.",
    "root.ts = timestamp_unix_micro()"⟩,
  ⟨.function, "timestamp_unix_milli", "timestamp", "timestamp_unix_milli()",
    "Current Unix time in milliseconds.",
    "root.ts = timestamp_unix_milli()"⟩,
  ⟨.function, "timestamp_unix_nano", "timestamp", "timestamp_unix_nano()",
    "Current Unix time in nanoseconds.",
    "root.ts = timestamp_unix_nano()"⟩,
  ⟨.function, "tracing_id", "message", "tracing_id()",
    "Trace ID of the message.",
    "root.trace = tracing_id()"⟩,
  ⟨.function, "ulid", "general", "ulid()",
    "New ULID.",
    "root.id = ulid()"⟩,
  ⟨.function, "uuid_v4", "general", "uuid_v4()",
    "New random UUID.",
    "root.id = uuid_v4()"⟩
]

def methods : List Builtin := [
  ⟨.method, "apply", "general", "apply(mapping)",
    "Applies a named map to the value.",
    "root.x = this.apply(\"normalize\")"⟩,
  ⟨.method, "catch", "general", "catch(fallback)",
    "Fallback value when the expression fails.",
    "root.n = this.n.number().catch(0)"⟩,
  ⟨.method, "exists", "object", "exists(path)",
    "Whether a path exists in an object.",
    "root.has = this.exists(\"user.id\")"⟩,
  ⟨.method, "from", "general", "from(index)",
    "Evaluates the expression against another message of the batch.",
    "root.prev = content().from(0)"⟩,
  ⟨.method, "from_all", "general", "from_all()",
    "Evaluates the expression against every message of the batch.",
    "root.all = this.id.from_all()"⟩,
  ⟨.method, "not_empty", "general", "not_empty()",
    "Fails when the value is empty.",
    "root.name = this.name.not_empty()"⟩,
  ⟨.method, "not_null", "general", "not_null()",
    "Fails when the value is null.",
    "root.id = this.id.not_null()"⟩,
  ⟨.method, "or", "general", "or(fallback)",
    "Fallback value when the expression is null or fails.",
    "root.name = this.name.or(\"anon\")"⟩,
  ⟨.method, "type", "type", "type()",
    "Type name of the value.",
    "root.t = this.x.type()"⟩,
  ⟨.method, "bool", "type", "bool(default?)",
    "Parses the value as a boolean.",
    "root.ok = this.ok.bool()"⟩,
  ⟨.method, "bytes", "type", "bytes()",
    "Converts the value to bytes.",
    "root.b = this.s.bytes()"⟩,
  ⟨.method, "float64", "type", "float64()",
    "Converts the value to a 64-bit float.",
    "root.f = this.f.float64()"⟩,
  ⟨.method, "int64", "type", "int64()",
    "Converts the value to a 64-bit integer.",
    "root.i = this.i.int64()"⟩,
  ⟨.method, "number", "type", "number(default?)",
    "Parses the value as a number.",
    "root.n = this.n.number()"⟩,
  ⟨.method, "string", "type", "string()",
    "Converts the value to a string.",
    "root.s = this.n.string()"⟩,
  ⟨.method, "capitalize", "string", "capitalize()",
    "Upper-cases the first letter of each word.",
    "root.t = this.t.capitalize()"⟩,
  ⟨.method, "contains", "string", "contains(value)",
    "Whether a string or array contains a value.",
    "root.x = this.tags.contains(\"a\")"⟩,
  ⟨.method, "escape_html", "string", "escape_html()",
    "Escapes HTML characters.",
    "root.h = this.h.escape_html()"⟩,
  ⟨.method, "escape_url_query", "string", "escape_url_query()",
    "Escapes a URL query value.",
    "root.q = this.q.escape_url_query()"⟩,
  ⟨.method, "format", "string", "format(args...)",
    "printf-style formatting.",
    "root.s = \"%s-%s\".format(this.a, this.b)"⟩,
  ⟨.method, "has_prefix", "string", "has_prefix(prefix)",
    "Whether a string starts with a prefix.",
    "root.x = this.s.has_prefix(\"a\")"⟩,
  ⟨.method, "has_suffix", "string", "has_suffix(suffix)",
    "Whether a string ends with a suffix.",
    "root.x = this.s.has_suffix(\"z\")"⟩,
  ⟨.method, "index_of", "string", "index_of(value)",
    "Position of a substring or element, or -1.",
    "root.i = this.s.index_of(\"x\")"⟩,
  ⟨.method, "length", "string", "length()",
    "Length of a string, array or object.",
    "root.n = this.items.length()"⟩,
  ⟨.method, "lowercase", "string", "lowercase()",
    "Lower-cases a string.",
    "root.s = this.s.lowercase()"⟩,
  ⟨.method, "quote", "string", "quote()",
    "Quotes a string.",
    "root.s = this.s.quote()"⟩,
  ⟨.method, "replace_all", "string", "replace_all(old, new)",
    "Replaces every occurrence of a substring.",
    "root.s = this.s.replace_all(\"a\", \"b\")"⟩,
  ⟨.method, "replace_all_many", "string", "replace_all_many(pairs)",
    "Replaces several substrings.",
    "root.s = this.s.replace_all_many([\"a\", \"b\"])"⟩,
  ⟨.method, "reverse", "string", "reverse()",
    "Reverses a string or array.",
    "root.s = this.s.reverse()"⟩,
  ⟨.method, "slice", "string", "slice(low, high?)",
    "Substring or sub-array.",
    "root.s = this.s.slice(0, 3)"⟩,
  ⟨.method, "split", "string", "split(delimiter)",
    "Splits a string into an array.",
    "root.parts = this.s.split(\",\")"⟩,
  ⟨.method, "trim", "string", "trim(cutset?)",
    "Removes surrounding whitespace.",
    "root.s = this.s.trim()"⟩,
  ⟨.method, "trim_prefix", "string", "trim_prefix(prefix)",
    "Removes a prefix.",
    "root.s = this.s.trim_prefix(\"v\")"⟩,
  ⟨.method, "trim_suffix", "string", "trim_suffix(suffix)",
    "Removes a suffix.",
    "root.s = this.s.trim_suffix(\"/\")"⟩,
  ⟨.method, "unescape_html", "string", "unescape_html()",
    "Unescapes HTML characters.",
    "root.h = this.h.unescape_html()"⟩,
  ⟨.method, "unescape_url_query", "string", "unescape_url_query()",
    "Unescapes a URL query value.",
    "root.q = this.q.unescape_url_query()"⟩,
  ⟨.method, "unquote", "string", "unquote()",
    "Unquotes a string.",
    "root.s = this.s.unquote()"⟩,
  ⟨.method, "uppercase", "string", "uppercase()",
    "Upper-cases a string.",
    "root.s = this.s.uppercase()"⟩,
  ⟨.method, "re_find_all", "regex", "re_find_all(pattern)",
    "All matches of a pattern.",
    "root.m = this.s.re_find_all(\"[0-9]+\")"⟩,
  ⟨.method, "re_find_all_object", "regex", "re_find_all_object(pattern)",
    "All matches as objects of named groups.",
    "root.m = this.s.re_find_all_object(\"(?P<n>[0-9]+)\")"⟩,
  ⟨.method, "re_find_object", "regex", "re_find_object(pattern)",
    "First match as an object of named groups.",
    "root.m = this.s.re_find_object(\"(?P<n>[0-9]+)\")"⟩,
  ⟨.method, "re_match", "regex", "re_match(pattern)",
    "Whether a pattern matches.",
    "root.ok = this.s.re_match(\"^a\")"⟩,
  ⟨.method, "re_replace_all", "regex", "re_replace_all(pattern, value)",
    "Replaces every pattern match.",
    "root.s = this.s.re_replace_all(\"[0-9]\", \"#\")"⟩,
  ⟨.method, "abs", "number", "abs()",
    "Absolute value.",
    "root.n = this.n.abs()"⟩,
  ⟨.method, "ceil", "number", "ceil()",
    "Rounds up.",
    "root.n = this.n.ceil()"⟩,
  ⟨.method, "floor", "number", "floor()",
    "Rounds down.",
    "root.n = this.n.floor()"⟩,
  ⟨.method, "log", "number", "log()",
    "Natural logarithm.",
    "root.n = this.n.log()"⟩,
  ⟨.method, "log10", "number", "log10()",
    "Base-10 logarithm.",
    "root.n = this.n.log10()"⟩,
  ⟨.method, "max", "number", "max()",
    "Largest number of an array.",
    "root.n = this.xs.max()"⟩,
  ⟨.method, "min", "number", "min()",
    "Smallest number of an array.",
    "root.n = this.xs.min()"⟩,
  ⟨.method, "round", "number", "round()",
    "Rounds to the nearest integer.",
    "root.n = this.n.round()"⟩,
  ⟨.method, "all", "array", "all(query)",
    "Whether every element satisfies a query.",
    "root.ok = this.xs.all(x -> x > 0)"⟩,
  ⟨.method, "any", "array", "any(query)",
    "Whether any element satisfies a query.",
    "root.ok = this.xs.any(x -> x > 0)"⟩,
  ⟨.method, "append", "array", "append(values...)",
    "Appends values to an array.",
    "root.xs = this.xs.append(4)"⟩,
  ⟨.method, "collapse", "array", "collapse()",
    "Collapses nested structures into dot paths.",
    "root = this.collapse()"⟩,
  ⟨.method, "concat", "array", "concat(arrays...)",
    "Concatenates arrays.",
    "root.xs = this.a.concat(this.b)"⟩,
  ⟨.method, "enumerated", "array", "enumerated()",
    "Pairs each element with its index.",
    "root.xs = this.xs.enumerated()"⟩,
  ⟨.method, "explode", "array", "explode(path)",
    "One document per element at a path.",
    "root = this.explode(\"items\")"⟩,
  ⟨.method, "filter", "array", "filter(query)",
    "Keeps elements satisfying a query.",
    "root.xs = this.xs.filter(x -> x.active)"⟩,
  ⟨.method, "first", "array", "first()",
    "First element.",
    "root.x = this.xs.first()"⟩,
  ⟨.method, "flatten", "array", "flatten()",
    "Flattens nested arrays one level.",
    "root.xs = this.xs.flatten()"⟩,
  ⟨.method, "fold", "array", "fold(initial, query)",
    "Reduces an array to a single value.",
    "root.sum = this.xs.fold(0, item -> item.tally + item.value)"⟩,
  ⟨.method, "index", "array", "index(i)",
    "Element at an index.",
    "root.x = this.xs.index(0)"⟩,
  ⟨.method, "join", "array", "join(delimiter?)",
    "Joins strings with a delimiter.",
    "root.s = this.xs.join(\",\")"⟩,
  ⟨.method, "last", "array", "last()",
    "Last element.",
    "root.x = this.xs.last()"⟩,
  ⟨.method, "map_each", "array", "map_each(query)",
    "Transforms each element or object value.",
    "root.xs = this.xs.map_each(x -> x * 2)"⟩,
  ⟨.method, "sort", "array", "sort(compare?)",
    "Sorts an array.",
    "root.xs = this.xs.sort()"⟩,
  ⟨.method, "sort_by", "array", "sort_by(query)",
    "Sorts an array by a derived key.",
    "root.xs = this.xs.sort_by(x -> x.age)"⟩,
  ⟨.method, "sum", "array", "sum()",
    "Sum of an array of numbers.",
    "root.total = this.xs.sum()"⟩,
  ⟨.method, "unique", "array", "unique(emit?)",
    "Removes duplicates.",
    "root.xs = this.xs.unique()"⟩,
  ⟨.method, "zip", "array", "zip(arrays...)",
    "Zips arrays together.",
    "root.xs = this.a.zip(this.b)"⟩,
  ⟨.method, "assign", "object", "assign(object)",
    "Merges an object, overwriting keys.",
    "root = this.assign(this.extra)"⟩,
  ⟨.method, "get", "object", "get(path)",
    "Value at a dynamic path.",
    "root.x = this.get(\"a.b\")"⟩,
  ⟨.method, "key_values", "object", "key_values()",
    "Array of key/value objects.",
    "root.kv = this.key_values()"⟩,
  ⟨.method, "keys", "object", "keys()",
    "Sorted object keys.",
    "root.keys = this.keys()"⟩,
  ⟨.method, "map_each_key", "object", "map_each_key(query)",
    "Transforms each object key.",
    "root = this.map_each_key(k -> k.uppercase())"⟩,
  ⟨.method, "merge", "object", "merge(value)",
    "Deep-merges two values.",
    "root = this.merge(this.extra)"⟩,
  ⟨.method, "values", "object", "values()",
    "Object values.",
    "root.vals = this.values()"⟩,
  ⟨.method, "with", "object", "with(keys...)",
    "Keeps only the given keys.",
    "root = this.with(\"id\", \"name\")"⟩,
  ⟨.method, "without", "object", "without(keys...)",
    "Removes the given keys.",
    "root = this.without(\"password\")"⟩,
  ⟨.method, "compress", "encoding", "compress(algorithm, level?)",
    "Compresses bytes.",
    "root = content().compress(\"gzip\")"⟩,
  ⟨.method, "decode", "encoding", "decode(scheme)",
    "Decodes base64, hex and other schemes.",
    "root = this.b64.decode(\"base64\")"⟩,
  ⟨.method, "decompress", "encoding", "decompress(algorithm)",
    "Decompresses bytes.",
    "root = content().decompress(\"gzip\")"⟩,
  ⟨.method, "decrypt_aes", "encoding", "decrypt_aes(scheme, key, iv)",
    "AES decryption.",
    "root = this.v.decrypt_aes(\"ctr\", $key, $iv)"⟩,
  ⟨.method, "encode", "encoding", "encode(scheme)",
    "Encodes as base64, hex and other schemes.",
    "root.b64 = content().encode(\"base64\")"⟩,
  ⟨.method, "encrypt_aes", "encoding", "encrypt_aes(scheme, key, iv)",
    "AES encryption.",
    "root = this.v.encrypt_aes(\"ctr\", $key, $iv)"⟩,
  ⟨.method, "format_json", "parsing", "format_json(indent?)",
    "Serializes a value as JSON.",
    "root = this.format_json()"⟩,
  ⟨.method, "format_xml", "parsing", "format_xml()",
    "Serializes a value as XML.",
    "root = this.format_xml()"⟩,
  ⟨.method, "format_yaml", "parsing", "format_yaml()",
    "Serializes a value as YAML.",
    "root = this.format_yaml()"⟩,
  ⟨.method, "hash", "encoding", "hash(algorithm)",
    "Hashes bytes.",
    "root.h = content().hash(\"sha256\").encode(\"hex\")"⟩,
  ⟨.method, "parse_csv", "parsing", "parse_csv()",
    "Parses CSV into an array of objects.",
    "root = content().parse_csv()"⟩,
  ⟨.method, "parse_duration", "parsing", "parse_duration()",
    "Parses a duration string into nanoseconds.",
    "root.ns = \"1m\".parse_duration()"⟩,
  ⟨.method, "parse_form_url_encoded", "parsing", "parse_form_url_encoded()",
    "Parses a form-encoded body.",
    "root = content().string().parse_form_url_encoded()"⟩,
  ⟨.method, "parse_json", "parsing", "parse_json()",
    "Parses a JSON string.",
    "root = this.payload.parse_json()"⟩,
  ⟨.method, "parse_url", "parsing", "parse_url()",
    "Parses a URL into its parts.",
    "root.host = this.url.parse_url().host"⟩,
  ⟨.method, "parse_xml", "parsing", "parse_xml()",
    "Parses an XML document.",
    "root = content().parse_xml()"⟩,
  ⟨.method, "parse_yaml", "parsing", "parse_yaml()",
    "Parses a YAML document.",
    "root = content().parse_yaml()"⟩,
  ⟨.method, "ts_add_iso8601", "timestamp", "ts_add_iso8601(duration)",
    "Adds an ISO 8601 duration.",
    "root.t = this.t.ts_add_iso8601(\"P1D\")"⟩,
  ⟨.method, "ts_format", "timestamp", "ts_format(format?, tz?)",
    "Formats a timestamp with a Go layout.",
    "root.d = this.t.ts_format(\"2006-01-02\")"⟩,
  ⟨.method, "ts_parse", "timestamp", "ts_parse(format)",
    "Parses a timestamp with a Go layout.",
    "root.t = this.d.ts_parse(\"2006-01-02\")"⟩,
  ⟨.method, "ts_strftime", "timestamp", "ts_strftime(format, tz?)",
    "Formats a timestamp with strftime.",
    "root.d = this.t.ts_strftime(\"%Y-%m-%d\")"⟩,
  ⟨.method, "ts_strptime", "timestamp", "ts_strptime(format)",
    "Parses a timestamp with strptime.",
    "root.t = this.d.ts_strptime(\"%Y-%m-%d\")"⟩,
  ⟨.method, "ts_tz", "timestamp", "ts_tz(tz)",
    "Converts a timestamp to a time zone.",
    "root.t = this.t.ts_tz(\"UTC\")"⟩,
  ⟨.method, "ts_unix", "timestamp", "ts_unix()",
    "Timestamp as Unix seconds.",
    "root.s = this.t.ts_unix()"⟩,
  ⟨.method, "ts_unix_micro", "timestamp", "ts_unix_micro()",
    "Timestamp as Unix microseconds.",
    "root.us = this.t.ts_unix_micro()"⟩,
  ⟨.method, "ts_unix_milli", "timestamp", "ts_unix_milli()",
    "Timestamp as Unix milliseconds.",
    "root.ms = this.t.ts_unix_milli()"⟩,
  ⟨.method, "ts_unix_nano", "timestamp", "ts_unix_nano()",
    "Timestamp as Unix nanoseconds.",
    "root.ns = this.t.ts_unix_nano()"⟩
]

def all : List Builtin := functions ++ methods

end Builtin

def CallKind.names : CallKind → List String
  | .function => Builtin.functions.map Builtin.name
  | .method => Builtin.methods.map Builtin.name

end PipelineLint
