import SecretVault.Fault
import SecretVault.Text.LowerCase
import SecretVault.Value.Text

/-!
Errors that come from outside the library: what the vault service refuses, what goes wrong on the
way to it, and whatever else a source or a probe may raise. The vendor's errors are sorted into
kinds; the code of a refusal decides, and where the code is not enough the message does.
-/

namespace SecretVault

/-- What a plain HTTP request can fail with. -/
inductive RequestTrouble where
  | general
  | connection
  | timeout
  | tls
  | invalidUrl
  deriving DecidableEq

/-- An error that comes from outside the library. -/
inductive OutsideError where
  /-- The service refused an operation. The label is the name of the refusal's own class, if it has
  one. -/
  | refused (label : Option String) (response : Entries) (operation : Value)
  | unspecified
  | connection (text : CodePoints)
  | httpClient (text : CodePoints)
  | endpoint (url : CodePoints)
  | tls (url text : CodePoints)
  | connectionClosed (url : CodePoints)
  | connectTimeout (url : CodePoints)
  | readTimeout (url : CodePoints)
  | proxy (url : CodePoints)
  | noCredentials
  | noRegion
  | badParameters (text : CodePoints)
  | pagination (text : CodePoints)
  /-- The number of attempts asked of a client is negative. -/
  | badAttempts (attempts : Int)
  | profileFileMissing (path : CodePoints)
  | profileFileBroken (path : CodePoints)
  | request (trouble : RequestTrouble) (text : CodePoints)
  | runtime (text : CodePoints)
  | badValue (text : CodePoints)
  /-- A key that is not there; its wording is the key in quotes. -/
  | missingKey (text : CodePoints)
  /-- The error that was to be raised could not be put together. -/
  | broken (f : Fault)
  deriving Inhabited

namespace OutsideError

def containsText {α : Type} [BEq α] (needle : List α) : List α → Bool
  | [] => needle.isEmpty
  | c :: cs => needle.isPrefixOf (c :: cs) || containsText needle cs

/-- The field of a response that tells how it came about. -/
def metadataField : String := "ResponseMetadata"

/-- Whether a part of a response is a mapping, if the part is there. -/
def hasMapping (response : Entries) (name : String) : Bool :=
  match response.named? name with
  | none => true
  | some (.map _) => true
  | some _ => false

/-- The fields of a response in which a refusal can be found. What is no mapping has none, and what
has no members cannot even be asked. -/
def refusalIn : Value → Except Fault Entries
  | .map response =>
    if hasMapping response metadataField && hasMapping response "Error" then .ok response
    else .error .unsupported
  | .list items =>
    .error (if items.any fun item => match item with
      | .str t => t == metadataField
      | _ => false then .wrongKind else .unsupported)
  | .str t => .error (if containsText metadataField t then .wrongKind else .unsupported)
  | _ => .error .wrongKind

/-- The refusal that a response tells of. -/
def refusal (label : Option String) (response operation : Value) : OutsideError :=
  match refusalIn response with
  | .ok response => .refused label response operation
  | .error f => .broken f

/-- The part of a refusal that holds its code and message. -/
def errorPart (response : Entries) : Entries :=
  match response.named? "Error" with
  | some (.map entries) => entries
  | _ => []

/-- How often a refused request was repeated, if that was the last time. -/
def retryNote (response : Entries) : CodePoints :=
  match response.named? metadataField with
  | some (.map metadata) =>
    let reached := (Entries.named? "MaxAttemptsReached" metadata).getD .null
    match Entries.named? "RetryAttempts" metadata with
    | some attempts =>
      if reached.isGiven then " (reached max retries: " ++ attempts.text ++ ")" else ""
    | none => ""
  | _ => ""

def text : OutsideError → CodePoints
  | .refused _ response operation =>
    let part := errorPart response
    let code := (part.named? "Code").getD (.str "Unknown")
    let message := (part.named? "Message").getD (.str "Unknown")
    "An error occurred (" ++ code.text ++ ") when calling the " ++ operation.text ++ " operation"
      ++ retryNote response ++ ": " ++ message.text
  | .unspecified => "An unspecified error occurred"
  | .connection text => "An HTTP Client failed to establish a connection: " ++ text
  | .httpClient text => "An HTTP Client raised an unhandled exception: " ++ text
  | .endpoint url => "Could not connect to the endpoint URL: \"" ++ url ++ "\""
  | .tls url text => "SSL validation failed for " ++ url ++ " " ++ text
  | .connectionClosed url =>
    "Connection was closed before we received a valid response from endpoint URL: \"" ++ url
      ++ "\"."
  | .connectTimeout url => "Connect timeout on endpoint URL: \"" ++ url ++ "\""
  | .readTimeout url => "Read timeout on endpoint URL: \"" ++ url ++ "\""
  | .proxy url => "Failed to connect to proxy URL: \"" ++ url ++ "\""
  | .noCredentials => "Unable to locate credentials"
  | .noRegion => "You must specify a region."
  | .badParameters text => "Parameter validation failed:\n" ++ text
  | .pagination text => "Error during pagination: " ++ text
  | .badAttempts attempts =>
    "Value provided to \"max_attempts\": " ++ toString attempts
      ++ " must be an integer greater than or equal to 0."
  | .profileFileMissing path => "The specified config file (" ++ path ++ ") could not be found."
  | .profileFileBroken path => "Unable to parse config file: " ++ path
  | .request _ text => text
  | .runtime text => text
  | .badValue text => text
  | .missingKey text => Text.quoted text
  | .broken _ => ""

/-- Whether the error is the vendor's, so that the store reports it as its own. -/
def isVendor : OutsideError → Bool
  | .request _ _ => false
  | .runtime _ => false
  | .badValue _ => false
  | .missingKey _ => false
  | .broken _ => false
  | _ => true

/-- Whether the vendor could not be connected to. -/
def isConnection : OutsideError → Bool
  | .connection _ => true
  | .endpoint _ => true
  | .tls _ _ => true
  | .connectTimeout _ => true
  | .proxy _ => true
  | _ => false

/-- Whether a plain HTTP request failed. -/
def isRequest : OutsideError → Bool
  | .request _ _ => true
  | _ => false

def code? : OutsideError → Option Value
  | .refused _ response _ =>
    match (errorPart response).named? "Code" with
    | some .null => none
    | found => found
  | _ => none

/-- The message of a refusal, empty if it has none; the wording of any other error. -/
def message : OutsideError → Value
  | .refused _ response _ =>
    (((errorPart response).named? "Message").getD (.str "")).orElse (.str "")
  | e => .str e.text

end OutsideError

/-- What an error of the vendor means for the caller. -/
inductive ErrorKind where
  | alreadyExists
  | notFound
  | accessDenied
  | unreachable
  | unknown
  deriving DecidableEq

namespace OutsideError

/-- What the message of a refusal contains if the secret is deleted but not purged yet. -/
def deletionMark : String := "marked for deletion"

/-- Whether a message, in lower case, contains the deletion mark. -/
def isDeletionMessage (message : CodePoints) : Bool :=
  containsText deletionMark.toList (Text.lower message.shown)

/-- The kind that a code stands for by itself. -/
def kindOfCode (code : CodePoints) : ErrorKind :=
  if code = "ResourceExistsException" then .alreadyExists
  else if code = "ResourceNotFoundException" then .notFound
  else if code = "DecryptionFailure" then .accessDenied
  else if code = "DecryptionFailureException" then .accessDenied
  else if code = "AccessDeniedException" then .accessDenied
  else .unknown

/-- The kind of a refusal with the given code. Codes that are lists or mappings cannot be looked
up. -/
def kindWithCode (e : OutsideError) : Value → Except Fault ErrorKind
  | .str code =>
    if code = "InvalidRequestException" then
      match e.message with
      | .str message => .ok (if isDeletionMessage message then .notFound else .unknown)
      | .bytes _ => .error .wrongKind
      | _ => .error .unsupported
    else .ok (kindOfCode code)
  | .scalar _ => .ok .unknown
  | _ => .error .wrongKind

/-- Sorts an error: failed connections first, then by the code. -/
def kind (e : OutsideError) : Except Fault ErrorKind :=
  if e.isConnection then .ok .unreachable
  else
    match e.code? with
    | none => .ok .unknown
    | some code => e.kindWithCode code

end OutsideError

end SecretVault
