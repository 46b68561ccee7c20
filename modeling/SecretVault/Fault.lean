/-!
Faults of values: what can be wrong with a value when it is used, whatever the value was for.
-/

namespace SecretVault

/-- Why a value is unfit for what is asked of it. -/
inductive Fault where
  /-- The value is of a kind that the operation does not take. -/
  | wrongKind
  /-- The value's kind lacks the operation that is asked of it. -/
  | unsupported
  /-- The kind is right, the value is not. -/
  | badValue
  | overflow
  | divisionByZero
  /-- A text is empty where its first character is asked for. -/
  | emptyText
  | missingField
  /-- Bytes that are no UTF-8 text. -/
  | undecodable
  /-- A text with a surrogate in it that has no bytes. -/
  | unencodable
  /-- A directory stands where a file is read. -/
  | isDirectory
  /-- A name that the host does not take. -/
  | unusableName
  | noRoom
  /-- A value that contains itself. -/
  | endless
  deriving DecidableEq

end SecretVault
