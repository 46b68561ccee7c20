import SecretVault.Failure

/-!
The wording of errors that a caller puts together. An error of the library can be raised with other
words than its own: most take one text in place of theirs, and those that tell of a cause take its
parts in order.
-/

namespace SecretVault

/-- The errors of the library, as a caller names them. -/
inductive ErrorClass where
  | store
  | keyExists
  | keyNotFound
  | accessDenied
  | unreachable
  | unknown
  | canceled
  | deadlineExceeded
  | settings

def ErrorClass.isStoreError : ErrorClass → Bool
  | .canceled => false
  | .deadlineExceeded => false
  | .settings => false
  | _ => true

/-- An error put together: its wording, the operation and the name that it is about, and its cause.
-/
structure Wording where
  message : CodePoints
  operation : Option CodePoints
  name : Option CodePoints
  cause : Option Cause

/-- An error of which nothing but the wording is known. -/
def Wording.plain (message : CodePoints) : Wording :=
  ⟨message, none, none, none⟩

/-- A part of an error inside a list of parts. An error from outside has its name before it. -/
def Cause.quoted (label : OutsideError → String) : Cause → String
  | .text reason => Text.quoted reason
  | .error e =>
    let inside := match e with
      | .missingKey s => s
      | e => e.text
    label e ++ "(" ++ Text.quoted inside ++ ")"

/-- The wording of an error of any number of parts. -/
def wordingOf (label : OutsideError → String) : List Cause → CodePoints
  | [] => ""
  | [part] => part.message
  | parts => "(" ++ commaSeparated (parts.map (Cause.quoted label)) ++ ")"

/-- An error that has words of its own, or those of a single part. -/
def Wording.orOwn (own : CodePoints) : List Cause → Except Fault Wording
  | [] => .ok (.plain own)
  | [part] => .ok (.plain part.message)
  | _ => .error .wrongKind

/-- An error that tells of a cause. -/
def Wording.ofStoreError (e : StoreError) : Wording :=
  match e with
  | .unreachable cause => ⟨e.message, none, none, some cause⟩
  | .unknown operation name cause _ => ⟨e.message, some operation, some name, some cause⟩
  | e => .plain e.message

/-- The fault of a part that could not be put together. -/
def Cause.fault? : Cause → Option Fault
  | .error (.broken f) => some f
  | _ => none

/-- An error of a class put together from parts. The vendor is the last part, and may be left out.
-/
def ErrorClass.compose (label : OutsideError → String) (c : ErrorClass) (parts : List Cause) :
    Except Fault Wording :=
  match parts.findSome? Cause.fault?, c, parts with
  | some f, _, _ => .error f
  | none, .store, _ => .ok (.plain (wordingOf label parts))
  | none, .accessDenied, _ => .ok (.plain (wordingOf label parts))
  | none, .settings, _ => .ok (.plain (wordingOf label parts))
  | none, .keyExists, _ => Wording.orOwn StoreError.keyExists.message parts
  | none, .keyNotFound, _ => Wording.orOwn StoreError.keyNotFound.message parts
  | none, .canceled, _ => Wording.orOwn ContextError.canceled.message parts
  | none, .deadlineExceeded, _ => Wording.orOwn ContextError.deadlineExceeded.message parts
  | none, .unreachable, [cause] => .ok (.ofStoreError (.unreachable cause))
  | none, .unknown, [operation, name, cause] =>
    .ok (.ofStoreError (.unknown operation.message name.message cause "aws"))
  | none, .unknown, [operation, name, cause, vendor] =>
    .ok (.ofStoreError (.unknown operation.message name.message cause vendor.message))
  | none, .unreachable, _ => .error .wrongKind
  | none, .unknown, _ => .error .wrongKind

end SecretVault
