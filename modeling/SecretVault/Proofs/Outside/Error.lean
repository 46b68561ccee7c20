import Mathlib.Data.List.Infix
import SecretVault.Outside.Error

/-!
What an error of the vendor is sorted as, said of the fields of the response that it came with. A
failed connection comes first in the sorting, but it came with no response, so the order of the
questions does not matter.
-/

namespace SecretVault.OutsideError

/-! ## Errors of the vendor -/

/-- The errors that the vendor's library raises: refusals of the service, and its own. -/
inductive FromVendor : OutsideError → Prop where
  | refused (label : Option String) (response : Entries) (operation : Value) :
      FromVendor (.refused label response operation)
  | unspecified : FromVendor .unspecified
  | connection (text : CodePoints) : FromVendor (.connection text)
  | httpClient (text : CodePoints) : FromVendor (.httpClient text)
  | endpoint (url : CodePoints) : FromVendor (.endpoint url)
  | tls (url text : CodePoints) : FromVendor (.tls url text)
  | connectionClosed (url : CodePoints) : FromVendor (.connectionClosed url)
  | connectTimeout (url : CodePoints) : FromVendor (.connectTimeout url)
  | readTimeout (url : CodePoints) : FromVendor (.readTimeout url)
  | proxy (url : CodePoints) : FromVendor (.proxy url)
  | noCredentials : FromVendor .noCredentials
  | noRegion : FromVendor .noRegion
  | badParameters (text : CodePoints) : FromVendor (.badParameters text)
  | pagination (text : CodePoints) : FromVendor (.pagination text)
  | badAttempts (attempts : Int) : FromVendor (.badAttempts attempts)
  | profileFileMissing (path : CodePoints) : FromVendor (.profileFileMissing path)
  | profileFileBroken (path : CodePoints) : FromVendor (.profileFileBroken path)

theorem isVendor_iff {e : OutsideError} : e.isVendor = true ↔ e.FromVendor := by
  constructor
  · intro h
    cases e with
    | request | runtime | badValue | missingKey | broken => cases h
    | _ => constructor
  · rintro (_ | _)
    all_goals rfl

/-! ## Fields of a refusal -/

/-- The response that a refusal came with tells this of the error. -/
inductive HasField (field : String) (value : Value) : OutsideError → Prop where
  | intro {label : Option String} {response part : Entries} {operation : Value}
      (error : response.named? "Error" = some (.map part)) (here : part.named? field = some value) :
      HasField field value (.refused label response operation)

variable {e : OutsideError}

theorem hasField_refused {field : String} {value operation : Value} {label : Option String}
    {response : Entries} : HasField field value (.refused label response operation) ↔
      (errorPart response).named? field = some value := by
  constructor
  · rintro ⟨error, here⟩
    rwa [errorPart, error]
  · intro h
    unfold errorPart at h
    split at h
    · exact ⟨‹_›, h⟩
    · cases h

theorem hasField_unique {field : String} {value other : Value} (h : e.HasField field value)
    (h' : e.HasField field other) : value = other := by
  cases h with
  | intro error here =>
      rw [hasField_refused, errorPart, error] at h'
      exact Option.some.inj (here.symm.trans h')

theorem hasCode_iff {code : CodePoints} (found : e.HasField "Code" (.str code))
    {other : CodePoints} : e.HasField "Code" (.str other) ↔ code = other := by
  constructor
  · intro h
    simpa using hasField_unique found h
  · rintro rfl
    exact found

theorem code?_eq_some_iff {value : Value} :
    e.code? = some value ↔ e.HasField "Code" value ∧ value ≠ .null := by
  cases e with
  | refused label response operation =>
      rw [hasField_refused, code?]
      split
      · rename_i null
        constructor
        · rintro ⟨⟩
        · rintro ⟨found, given⟩
          exact absurd (Option.some.inj (found.symm.trans null)) given
      · rename_i found given
        constructor
        · intro h
          exact ⟨h, fun null => given (h.trans (congrArg some null))⟩
        · exact And.left
  | _ =>
      constructor
      · rintro ⟨⟩
      · rintro ⟨⟨⟩, -⟩

theorem code?_eq_str {code : CodePoints} :
    e.code? = some (.str code) ↔ e.HasField "Code" (.str code) := by
  simp [code?_eq_some_iff]

/-- The message says, in whatever letters, that the secret is marked for deletion. -/
def IsMark (message : CodePoints) : Prop :=
  "marked for deletion".toList <:+: Text.lower message.shown

/-- Whether the service refused a request because the secret is deleted, though still there. -/
def IsDeletion (e : OutsideError) : Prop :=
  e.HasField "Code" (.str "InvalidRequestException") ∧
    ∃ message, e.HasField "Message" (.str message) ∧ IsMark message

def IsDenial (e : OutsideError) : Prop :=
  ∃ code ∈ ["DecryptionFailure", "DecryptionFailureException", "AccessDeniedException"],
    e.HasField "Code" (.str code)

/-- A code, if one is given, is a text, and so is the message where the code alone does not tell. -/
structure IsLegible (e : OutsideError) : Prop where
  code : ∀ value, e.HasField "Code" value → value = .null ∨ ∃ text, value = .str text
  message : e.HasField "Code" (.str "InvalidRequestException") → ∀ value,
    e.HasField "Message" value → value.isGiven = false ∨ ∃ text, value = .str text

/-! ## Messages -/

theorem containsText_iff {needle text : List Char} :
    containsText needle text = true ↔ needle <:+: text := by
  induction text with
  | nil => simp [containsText]
  | cons c cs ih => simp [containsText, List.infix_cons_iff, ih]

theorem isDeletionMessage_iff {message : CodePoints} :
    isDeletionMessage message = true ↔ IsMark message :=
  containsText_iff

theorem not_isMark_nil : ¬ IsMark [] := by
  rw [← isDeletionMessage_iff]
  decide

theorem exists_message {code : CodePoints} (found : e.HasField "Code" (.str code))
    (legible : ∀ value, e.HasField "Message" value →
      value.isGiven = false ∨ ∃ text, value = .str text) :
    ∃ message, e.message = .str message ∧
      (IsMark message ↔ ∃ text, e.HasField "Message" (.str text) ∧ IsMark text) := by
  cases found with
  | @intro label response part operation error here =>
      simp only [hasField_refused] at legible ⊢
      rw [message]
      cases given : (errorPart response).named? "Message" with
      | none => exact ⟨[], rfl, by simp [not_isMark_nil]⟩
      | some value =>
          cases empty : value.isGiven with
          | false =>
              refine ⟨[], ?_, ?_⟩
              · rw [Option.getD_some, Value.orElse, empty]
                rfl
              · simp only [not_isMark_nil, false_iff, not_exists, not_and, Option.some.injEq]
                rintro text rfl
                obtain rfl : text = [] := by simpa [Value.isGiven, Scalar.isGiven] using empty
                exact not_isMark_nil
          | true =>
              obtain ⟨text, rfl⟩ := (legible value given).resolve_left (by simp [empty])
              refine ⟨text, ?_, by simp⟩
              rw [Option.getD_some, Value.orElse, if_pos empty]

/-! ## Kinds -/

/-- The kind says what the code and the message say. -/
structure Tells (e : OutsideError) (kind : ErrorKind) : Prop where
  alreadyExists : kind = .alreadyExists ↔ e.HasField "Code" (.str "ResourceExistsException")
  notFound : kind = .notFound ↔
    e.HasField "Code" (.str "ResourceNotFoundException") ∨ e.IsDeletion
  accessDenied : kind = .accessDenied ↔ e.IsDenial

theorem Tells.of_codeless {kind : ErrorKind}
    (codeless : ∀ code, ¬ e.HasField "Code" (.str code))
    (other : kind = .unreachable ∨ kind = .unknown) : Tells e kind := by
  rcases other with rfl | rfl
  · exact ⟨by simp [codeless], by simp [codeless, IsDeletion], by simp [codeless, IsDenial]⟩
  · exact ⟨by simp [codeless], by simp [codeless, IsDeletion], by simp [codeless, IsDenial]⟩

theorem Tells.of_request {message : CodePoints}
    (code : e.HasField "Code" (.str "InvalidRequestException"))
    (worded : IsMark message ↔ ∃ text, e.HasField "Message" (.str text) ∧ IsMark text) :
    Tells e (if isDeletionMessage message then .notFound else .unknown) := by
  have deleted : e.IsDeletion ↔ isDeletionMessage message = true := by
    rw [isDeletionMessage_iff, worded]
    exact and_iff_right code
  by_cases marked : isDeletionMessage message = true
  · rw [if_pos marked]
    exact ⟨by simp [hasCode_iff code], by simp [deleted, marked],
      by simp [IsDenial, hasCode_iff code]⟩
  · rw [if_neg marked]
    exact ⟨by simp [hasCode_iff code], by simp [hasCode_iff code, deleted, marked],
      by simp [IsDenial, hasCode_iff code]⟩

theorem Tells.of_code {code : CodePoints} (found : e.HasField "Code" (.str code))
    (tells : code ≠ "InvalidRequestException") : Tells e (kindOfCode code) := by
  have undeleted : ¬ e.IsDeletion := fun h => tells ((hasCode_iff found).mp h.1)
  unfold kindOfCode
  constructor
  · rw [hasCode_iff found]
    split_ifs <;> simp_all
  · rw [hasCode_iff found]
    split_ifs <;> simp_all
  · simp only [IsDenial, hasCode_iff found]
    split_ifs <;> simp_all

theorem not_hasField_of_isConnection (h : e.isConnection = true) (field : String) (value : Value) :
    ¬ e.HasField field value := by
  rintro ⟨⟩
  cases h

/-- An error whose code and message can be read has a kind, which says what they say. -/
theorem IsLegible.kind (h : e.IsLegible) : ∃ kind, e.kind = .ok kind ∧ Tells e kind := by
  unfold OutsideError.kind
  by_cases connection : e.isConnection = true
  · rw [if_pos connection]
    have codeless := not_hasField_of_isConnection connection "Code"
    exact ⟨_, rfl, .of_codeless (fun code => codeless (.str code)) (.inl rfl)⟩
  · rw [if_neg connection]
    cases found : e.code? with
    | none =>
        refine ⟨_, rfl, .of_codeless (fun code here => ?_) (.inr rfl)⟩
        rw [code?_eq_str.mpr here] at found
        cases found
    | some value =>
        obtain ⟨here, given⟩ := code?_eq_some_iff.mp found
        obtain ⟨code, rfl⟩ := (h.code value here).resolve_left given
        by_cases request : code = CodePoints.ofString "InvalidRequestException"
        · subst request
          obtain ⟨message, worded, marked⟩ := exists_message here (h.message here)
          refine ⟨_, ?_, .of_request here marked⟩
          simp only [kindWithCode, if_true, worded]
        · refine ⟨_, ?_, .of_code here request⟩
          simp only [kindWithCode, request, if_false]

end SecretVault.OutsideError
