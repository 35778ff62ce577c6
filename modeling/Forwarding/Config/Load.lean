import Forwarding.Files.Access
import Forwarding.Resolver.Config
import Forwarding.Text.Utf8
import Forwarding.Toml.Document

/-!
The configuration of a run. Table `resolver` of a TOML document names the trusted header, and an
environment variable overrides it.
-/
namespace Forwarding

inductive ConfigError where
  | unreadable (access : FailedAccess)
  | undecodable (error : Text.Utf8.DecodeError)
  | notToml (error : Toml.ReadError)
  /-- Key `resolver` does not hold a table. -/
  | resolverNotATable (value : Toml.Value)
  /-- Key `client_ip_header` of the table does not hold a text. -/
  | headerNotAText (value : Toml.Value)

namespace ConfigError

/-- A value in a message that begins with the given words. A number that cannot be written leaves
only the reason for that. -/
def withValue (words : Text) (value : Toml.Value) : Text :=
  match value.display? with
  | some shown => words ++ shown
  | none =>
    "Exceeds the limit (" ++ Text.decimal Text.digitLimit
      ++ " digits) for integer string conversion; "
      ++ "use sys.set_int_max_str_digits() to increase the limit"

/-- The error in words. What breaks the grammar, and where, is left out: the same words stand for
every malformed document. -/
def message : ConfigError → Text
  | .unreadable access => access.message
  | .undecodable error => error.message
  | .notToml .malformed => "<toml syntax error>"
  | .notToml (.tooManyDigits count) =>
    "Exceeds the limit (" ++ Text.decimal Text.digitLimit
      ++ " digits) for integer string conversion: value has " ++ Text.decimal count
      ++ " digits; use sys.set_int_max_str_digits() to increase the limit"
  | .resolverNotATable value => withValue "resolver must be a table, got " value
  | .headerNotAText value => withValue "resolver.client_ip_header must be a string, got " value

end ConfigError

namespace Config

def standardPath : Text := "clientip.toml"

def variableName : Text := "CLIENTIP_CLIENT_IP_HEADER"

def ofDocument (root : Toml.Entries) : Except ConfigError Config :=
  match root.get? "resolver" with
  | none => .ok .default
  | some (.table resolver) =>
    match Toml.Entries.get? "client_ip_header" resolver with
    | none => .ok .default
    | some (.text name) => .ok (.trusting (some name))
    | some value => .error (.headerNotAText value)
  | some value => .error (.resolverNotATable value)

def readDocument (files : Files) (path : Text) : Except ConfigError Toml.Entries :=
  match files.read path with
  | .error access => .error (.unreadable access)
  | .ok bytes =>
    match Text.Utf8.decode bytes with
    | .error error => .error (.undecodable error)
    | .ok text =>
      match Toml.document text with
      | .error error => .error (.notToml error)
      | .ok root => .ok root

/-- The document in force: that of the named file, or that of the standard file, which may be
missing. -/
def findDocument (files : Files) (path : Option Text) : Except ConfigError Toml.Entries :=
  match path with
  | some path => readDocument files path
  | none => if files.exists standardPath then readDocument files standardPath else .ok []

/-- A nonblank name from the environment in place of the configured header. -/
def override (name : Option Text) (config : Config) : Config :=
  match HeaderName.normalize? name with
  | some name => .trusting (some name)
  | none => config

def load (files : Files) (path environment : Option Text) : Except ConfigError Config := do
  let config ← ofDocument (← findDocument files path)
  return config.override environment

end Config
end Forwarding
