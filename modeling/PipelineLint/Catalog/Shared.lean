import PipelineLint.Catalog.Component

set_option autoImplicit false

namespace PipelineLint.Catalog

def field (kind : FieldKind) (description : String) : FieldSpec :=
  { kind, description }

def docsUrl (category : Category) (name : String) : String :=
  "https://docs.expanso.io/components/" ++ category.name ++ "s/" ++ name

def tls : FieldSpec :=
  { field .object "TLS configuration for secure connections" with
    properties := [
      ("enabled", { field .boolean "Enable TLS" with defaultValue := .bool false }),
      ("skip_cert_verify", { field .boolean "Skip certificate verification" with defaultValue := .bool false }),
      ("root_cas", field .string "Inline root CA certificates"),
      ("root_cas_file", field .string "Path to root CA certificate file"),
      ("client_certs", { field .array "Client certificates for mutual TLS" with
        items := some { field .object "Client certificate" with
            properties := [
              ("cert", field .string "Inline certificate"),
              ("key", field .string "Inline key"),
              ("cert_file", field .string "Path to certificate file"),
              ("key_file", field .string "Path to key file")
            ] } })
    ] }

def sasl : FieldSpec :=
  { field .object "SASL authentication configuration" with
    properties := [
      ("mechanism", { field .string "SASL mechanism" with
        enum := ["none", "PLAIN", "SCRAM-SHA-256", "SCRAM-SHA-512", "OAUTHBEARER", "AWS_MSK_IAM"] }),
      ("user", field .string "SASL username"),
      ("password", field .string "SASL password"),
      ("access_token", field .string "OAUTHBEARER static token")
    ] }

def awsCredentials : FieldSpec :=
  { field .object "AWS credentials configuration" with
    properties := [
      ("profile", field .string "AWS profile name"),
      ("id", field .string "AWS access key ID"),
      ("secret", field .string "AWS secret access key"),
      ("token", field .string "AWS session token"),
      ("role", field .string "IAM role ARN to assume"),
      ("role_external_id", field .string "External ID for the assumed role"),
      ("from_ec2_role", field .boolean "Use the EC2 instance role")
    ] }

def batching : FieldSpec :=
  { field .object "Batching policy" with
    properties := [
      ("count", { field .number "Messages per batch" with defaultValue := .int 0 }),
      ("byte_size", { field .number "Bytes per batch" with defaultValue := .int 0 }),
      ("period", { field .duration "Maximum time before flushing a partial batch" with
        defaultValue := .str "" }),
      ("check", field .bloblang "Mapping that ends a batch when it returns true"),
      ("jitter", field .number "Random jitter applied to the period"),
      ("processors", field .array "Processors applied to each batch")
    ] }

def headers : FieldSpec :=
  { field .object "HTTP headers" with
    examples := [.map [(.str "Content-Type", .str "application/json")]] }

def codecNames : List String :=
  ["lines", "all-bytes", "delim:X", "csv", "csv:X", "tar", "gzip", "chunker:N", "auto"]

def maxInFlight : FieldSpec :=
  { field .number "Maximum number of messages in flight" with defaultValue := .int 64 }

end PipelineLint.Catalog
