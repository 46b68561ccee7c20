import SecretVault.Text.CodePoint

/-!
Errors of the configuration: what is missing from it or wrong in it, and the wording of each.
-/

namespace SecretVault

/-- Why a configuration cannot be used. -/
inductive SettingsError where
  | regionRequired
  /-- The document in a configuration file is not a mapping but something of the given kind. -/
  | notMapping (path : CodePoints) (kind : String)
  /-- The variable that a placeholder names is not set. -/
  | unresolved (name envName : CodePoints)
  /-- The configuration file says nothing about a key store. -/
  | noStoreSection (path : CodePoints)
  deriving DecidableEq

def SettingsError.message : SettingsError → CodePoints
  | .regionRequired => "AWS Secrets Manager: region is required"
  | .notMapping path kind => "Config file " ++ path ++ " must contain a mapping, got " ++ kind
  | .unresolved name envName =>
    "Placeholder '" ++ name ++ "' cannot be resolved. Set environment variable: " ++ envName
  | .noStoreSection path => "No 'keystore' section in " ++ path

end SecretVault
