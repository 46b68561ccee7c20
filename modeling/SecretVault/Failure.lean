import SecretVault.Context
import SecretVault.Outside.Error
import SecretVault.Settings.Error

/-!
Failures of operations. A key store reports five errors of its own and passes on those of contexts,
configurations and values. An error that stands for one from outside remembers it.
-/

namespace SecretVault

/-- What lies behind a store error: an error from outside, or a reason in words. -/
inductive Cause where
  | text (reason : CodePoints)
  | error (e : OutsideError)

def Cause.message : Cause → CodePoints
  | .text reason => reason
  | .error e => e.text

inductive StoreError where
  | keyExists
  | keyNotFound
  | accessDenied (name : CodePoints) (e : OutsideError)
  | unreachable (cause : Cause)
  /-- Any other failure of an operation on an entry. -/
  | unknown (operation name : CodePoints) (cause : Cause) (vendor : CodePoints)

def StoreError.message : StoreError → CodePoints
  | .keyExists => "key already exists"
  | .keyNotFound => "key does not exist"
  | .accessDenied name e => "aws: cannot access '" ++ name ++ "': " ++ e.text
  | .unreachable cause => "key store is unreachable: " ++ cause.message
  | .unknown operation name cause vendor =>
    vendor ++ ": failed to " ++ operation ++ " '" ++ name ++ "': " ++ cause.message

/-- Why an action stopped. -/
inductive Failure where
  | context (e : ContextError)
  | store (e : StoreError)
  | settings (e : SettingsError)
  | outside (e : OutsideError)
  | fault (f : Fault)
  /-- A configuration file that is not there, by its path as given. -/
  | fileMissing (path : CodePoints)
  | malformed
  /-- A key store provider that is not registered, and those that are. -/
  | unknownProvider (provider : Value) (known : List String)

/-- A failure, and the error from outside that it stands for, if it stands for one. -/
structure Raised where
  failure : Failure
  chained : Option OutsideError

namespace Raised

/-- A failure that stands for nothing else. -/
def plain (f : Failure) : Raised :=
  ⟨f, none⟩

def standingFor (f : Failure) (e : OutsideError) : Raised :=
  ⟨f, some e⟩

end Raised

/-- The wording of a failure, where the wording is part of it. -/
def Failure.message? : Failure → Option CodePoints
  | .context e => some e.message
  | .store e => some e.message
  | .settings e => some e.message
  | .outside e => some e.text
  | .fault _ => none
  | .fileMissing path => some ("Config file not found: " ++ path)
  | .malformed => none
  | .unknownProvider provider known =>
    some ("Unknown key store provider: '" ++ provider.text ++ "'. Available: "
      ++ (Value.list (known.map fun name : String => .str name)).quoted)

end SecretVault
