import Reindex.Files
import Reindex.Url.Error

/-!
# Why settings are refused
-/

namespace Reindex

inductive SettingFault where
  /-- The file with the settings cannot be understood. The message does not repeat what the YAML library says
  about the file. -/
  | unreadableFile (path : String)
  | notUrl (setting value : String) (cause : UrlError)
  /-- The URL of a setting has a scheme that cannot be used. -/
  | wrongScheme (setting scheme : String)
  /-- The expected status is outside of the range of statuses. -/
  | notStatus (status : UInt16)
  | blankPartitionHeader
  | zeroTimeout
  | blankSecretName
  | variableNotStatus (var : String)
  | variableNotNumber (var : String)
  /-- A variable should hold a truth value. -/
  | variableNotFlag (var : String)
  /-- Any other fault, in the words of whoever found it. -/
  | stated (message : String)
  deriving DecidableEq, Repr

def SettingFault.message : SettingFault → String
  | .unreadableFile path => "Failed to parse " ++ path
  | .notUrl setting value cause =>
    setting ++ " '" ++ value ++ "' is not a valid URL: " ++ cause.message
  | .wrongScheme setting scheme => setting ++ " must use http or https, got '" ++ scheme ++ "'"
  | .notStatus status =>
    "target.expected-status " ++ toString status.toNat ++ " is not an HTTP status code"
  | .blankPartitionHeader => "target.partition-header must not be empty"
  | .zeroTimeout => "target.timeout-secs must be positive"
  | .blankSecretName => "secret names must not be empty"
  | .variableNotStatus name => name ++ " must be a valid status code"
  | .variableNotNumber name => name ++ " must be a valid number"
  | .variableNotFlag name => name ++ " must be true or false"
  | .stated message => message

/-- What is wrong with a retry policy. -/
inductive PolicyFault where
  | zeroAttempts
  /-- Any other fault, in the words of whoever found it. -/
  | stated (message : String)
  deriving DecidableEq, Repr

def PolicyFault.message : PolicyFault → String
  | .zeroAttempts => "max-attempts must be at least 1"
  | .stated message => message

/-- Why there is no configuration to work with. -/
inductive ConfigError where
  /-- The file that was asked for does not exist. -/
  | fileNotFound (path : String)
  | invalid (fault : SettingFault)
  /-- A setting that has no default is not there. -/
  | missingSetting (name var : String)
  | invalidRetryPolicy (fault : PolicyFault)
  | file (cause : FileError)
  deriving DecidableEq, Repr

def ConfigError.message : ConfigError → String
  | .fileNotFound path => "Configuration file not found: " ++ path
  | .invalid fault => "Invalid configuration: " ++ fault.message
  | .missingSetting name var =>
    "Required setting '" ++ name ++ "' is not set (export " ++ var ++ ")"
  | .invalidRetryPolicy fault => "Invalid retry policy: " ++ fault.message
  | .file cause => "IO error: " ++ cause.message

/-- What is wrong and what is behind it, in words. -/
def ConfigError.messageWithCause : ConfigError → String
  | .file cause => (ConfigError.file cause).message ++ ": " ++ cause.message
  | e => e.message

end Reindex
