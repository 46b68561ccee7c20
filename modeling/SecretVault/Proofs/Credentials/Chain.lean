import SecretVault.Proofs.World.Rehearsing
import SecretVault.Readers

/-!
Resolving credentials as ordered first success. Sources are loaded one after the other until one of
them yields credentials; what a load brings may depend on the loads before it, which can change the
environment of the host. The usual chain is read off the host and the answer of the metadata
service.
-/

namespace SecretVault

variable {T σ : Type} [Seconds T] [Outside T σ]

open SecretVault.Action World

/-- Some secret of the credentials is given. -/
def Credentials.IsGiven (c : Credentials) : Prop :=
  c.accessKey.isGiven = true ∨ c.secretKey.isGiven = true ∨ c.sessionToken.isGiven = true

theorem Credentials.isEmpty_eq_false_iff {c : Credentials} : c.isEmpty = false ↔ c.IsGiven := by
  simp only [isEmpty, IsGiven, Bool.not_eq_false', Bool.or_eq_true, or_assoc]

theorem Credentials.isEmpty_iff {c : Credentials} : c.isEmpty = true ↔ ¬ c.IsGiven := by
  rw [← isEmpty_eq_false_iff, Bool.not_eq_false]

namespace Host

/-! ## Loading a `.env` file -/

/-- The `.env` file of the working folder can be read, and makes one host of another. -/
def ExtendsTo (host after : Host) : Prop :=
  host.loadDotenv host.dotenvPath = (after, .ok ())

theorem ExtendsTo.value? {host after : Host} (h : host.ExtendsTo after) {name value : CodePoints}
    (held : host.value? name = some value) : after.value? name = some value := by
  unfold ExtendsTo loadDotenv at h
  split at h
  · cases h
    exact held
  · cases h
  · obtain rfl := congrArg Prod.fst h
    exact host.readers.dotenv_keeps _ _ _ _ held

end Host

namespace Source

/-! ## One source after another -/

def leaves (source : Source) (w : World T σ) : World T σ :=
  (source.load.outcome w).2

/-- The credentials that a load of the source yields. One that fails, has none or has empty ones
yields nothing. -/
def yields (source : Source) (w : World T σ) : Option Credentials :=
  match (source.load.outcome w).1 with
  | .ok (some c) => if c.isEmpty then none else some c
  | _ => none

/-- Sources are loaded once each, in their order, and none of them yields credentials. -/
inductive PassesOver : List Source → World T σ → World T σ → Prop where
  | nil (w : World T σ) : PassesOver [] w w
  | cons {source : Source} {rest : List Source} {w after : World T σ}
      (nothing : source.yields w = none) (later : PassesOver rest (source.leaves w) after) :
      PassesOver (source :: rest) w after

def yieldsOf : List Source → World T σ → List (Option Credentials)
  | [], _ => []
  | source :: rest, w => source.yields w :: yieldsOf rest (source.leaves w)

def calls : Source → List (Call T)
  | .foreign name slot => [.load name slot]
  | .role .service => [.metadata]
  | _ => []

variable {source : Source} {sources before later : List Source} {w w₁ after : World T σ}
  {c : Credentials}

theorem outcome_resolve_cons (source : Source) (rest : List Source) (w : World T σ) :
    (resolve (source :: rest)).outcome w =
      match source.yields w with
      | some c => (.ok (some c), source.leaves w)
      | none => (resolve rest).outcome (source.leaves w) := by
  simp only [resolve, outcome_bind, outcome_attempt, yields, leaves]
  rcases source.load.outcome w with ⟨result, after⟩
  cases result with
  | error raised => rfl
  | ok found =>
      cases found with
      | none => rfl
      | some c =>
          dsimp only
          cases c.isEmpty <;> rfl

theorem isGiven_of_yields (h : source.yields w = some c) : c.IsGiven := by
  unfold yields at h
  split at h
  · split at h
    · cases h
    · rename_i given
      cases h
      exact Credentials.isEmpty_eq_false_iff.mp (Bool.not_eq_true _ ▸ given)
  · cases h

theorem PassesOver.outcome_append (h : PassesOver before w w₁) (more : List Source) :
    (resolve (before ++ more)).outcome w = (resolve more).outcome w₁ := by
  induction h with
  | nil w => rfl
  | cons nothing later ih => rw [List.cons_append, outcome_resolve_cons, nothing, ih]

theorem PassesOver.outcome (h : PassesOver sources w after) :
    (resolve sources).outcome w = (.ok none, after) := by
  have whole := h.outcome_append []
  rwa [List.append_nil] at whole

theorem PassesOver.outcome_found (h : PassesOver before w w₁) (found : source.yields w₁ = some c) :
    (resolve (before ++ source :: later)).outcome w = (.ok (some c), source.leaves w₁) := by
  rw [h.outcome_append, outcome_resolve_cons, found]

theorem passesOver_or_yields (sources : List Source) (w : World T σ) :
    (∃ after, PassesOver sources w after) ∨ ∃ before source later w₁ c,
      sources = before ++ source :: later ∧ PassesOver before w w₁ ∧ source.yields w₁ = some c := by
  induction sources generalizing w with
  | nil => exact .inl ⟨w, .nil w⟩
  | cons source rest ih =>
      cases h : source.yields w with
      | some c => exact .inr ⟨[], source, rest, w, c, rfl, .nil w, h⟩
      | none =>
          rcases ih (source.leaves w) with ⟨after, skipped⟩ |
            ⟨before, next, later, w₁, c, rfl, skipped, found⟩
          · exact .inl ⟨after, .cons h skipped⟩
          · exact .inr ⟨source :: before, next, later, w₁, c, rfl, .cons h skipped, found⟩

/-- The result is the first of the credentials that would be yielded. -/
theorem resolve_eq_findSome? (sources : List Source) (w : World T σ) :
    ((resolve sources).outcome w).1 = .ok ((yieldsOf sources w).findSome? id) := by
  induction sources generalizing w with
  | nil => rfl
  | cons source rest ih =>
      rw [outcome_resolve_cons, yieldsOf, List.findSome?_cons]
      cases h : source.yields w with
      | some c => rfl
      | none => exact ih _

/-- Whether a load of the source leaves the world as it is. -/
def isStill : Source → Bool
  | .login _ => true
  | .profile _ _ => true
  | .role (.known _) => true
  | _ => false

theorem leaves_of_isStill (still : source.isStill = true) (w : World T σ) :
    source.leaves w = w := by
  cases source with
  | login c => rfl
  | profile path selected => simp only [leaves, load, outcome_bind, outcome_get, outcome_ofExcept]
  | role metadata =>
      cases metadata with
      | known answer =>
          simp only [leaves, load, fetch, outcome_bind, outcome_ofExcept]
          cases answer <;> simp
      | service => cases still
  | _ => cases still

theorem passesOver_of_isStill (idle : ∀ source ∈ sources, source.isStill = true ∧
    source.yields w = none) : PassesOver sources w w := by
  induction sources with
  | nil => exact .nil w
  | cons source rest ih =>
      obtain ⟨still, nothing⟩ := idle source List.mem_cons_self
      refine .cons nothing ?_
      rw [leaves_of_isStill still]
      exact ih fun source h => idle source (List.mem_cons_of_mem _ h)

/-! ## Calls -/

theorem outcome_environment (start : CodePoints) (file : Option CodePoints) (w : World T σ) :
    (load (.environment start file)).outcome w =
      (let loaded := w.host.loadDotenv (dotenvPath w.host file)
      ((loaded.2.mapError .plain).bind fun _ =>
          (ofVariables loaded.1 start).mapError fun f => .plain (.fault f),
        { w with host := loaded.1 })) := by
  simp only [load, loadVariables, World.loadDotenv, outcome_bind, outcome_ofOutcome, outcome_get,
    outcome_ofFault]
  rcases w.host.loadDotenv (dotenvPath w.host file) with ⟨host, result⟩
  cases result <;> rfl

theorem calls_leaves (source : Source) (w : World T σ) :
    (source.leaves w).log.map (·.call) = w.log.map (·.call) ++ source.calls := by
  have performed (call : Call T) : ((perform call).outcome w).2.log.map (·.call) =
      w.log.map (·.call) ++ [call] := by
    simp [outcome_perform]
  cases source with
  | login c => exact (List.append_nil _).symm
  | environment start file =>
      rw [leaves, outcome_environment]
      exact (List.append_nil _).symm
  | profile path selected =>
      rw [leaves_of_isStill rfl]
      exact (List.append_nil _).symm
  | role metadata =>
      cases metadata with
      | known answer =>
          rw [leaves_of_isStill rfl]
          exact (List.append_nil _).symm
      | service =>
          have asked := performed .metadata
          simp only [leaves, load, fetch, outcome_bind, calls]
          rcases hasked : (perform (T := T) Call.metadata).outcome w with ⟨result, after⟩
          rw [hasked] at asked
          cases result <;> simpa [outcome_ofFault] using asked
  | foreign name slot => exact performed (.load name slot)

theorem PassesOver.calls (h : PassesOver sources w after) :
    after.log.map (·.call) = w.log.map (·.call) ++ sources.flatMap Source.calls := by
  induction h with
  | nil w => simp
  | cons nothing later ih => rw [ih, calls_leaves, List.append_assoc, List.flatMap_cons]

/-! ## The usual chain -/

def variableOf (host : Host) (name : String) : CodePoints :=
  host.valueOr name ""

def HasVariables (host : Host) : Prop :=
  variableOf host "AWS_ACCESS_KEY_ID" ≠ [] ∧ variableOf host "AWS_SECRET_ACCESS_KEY" ≠ []

def optionOr (options : Entries) (name : String) : Value :=
  (options.named? name).getD (.str "")

def HasKeys (options : Entries) : Prop :=
  (optionOr options "aws_access_key_id").isGiven = true ∧
    (optionOr options "aws_secret_access_key").isGiven = true

instance : DecidablePred HasVariables :=
  fun _ => inferInstanceAs (Decidable (_ ∧ _))

instance : DecidablePred HasKeys :=
  fun _ => inferInstanceAs (Decidable (_ ∧ _))

/-- What the shared credentials file says on a host: it is not there, it does not have the selected
profile, or it has the profile with these options. -/
inductive Selects (host : Host) : Option Entries → Prop where
  | noFile {path : CodePoints}
      (path_eq : host.expandHome
        (host.valueOr "AWS_SHARED_CREDENTIALS_FILE" "~/.aws/credentials") = .ok path)
      (missing : ∀ content, host.files.findAsWritten path ≠ .file content) : Selects host none
  | file {path : CodePoints} {content : Bytes} {profiles : List (CodePoints × Entries)}
      (path_eq : host.expandHome
        (host.valueOr "AWS_SHARED_CREDENTIALS_FILE" "~/.aws/credentials") = .ok path)
      (there : host.files.findAsWritten path = .file content)
      (parsed : host.readers.profiles host.toMachine path = .ok profiles) :
      Selects host
        ((profiles.find? (·.1 == host.valueOr "AWS_PROFILE" "default")).map (·.2))

/-- The credentials of the machine's role, if the metadata service answers any. -/
def roleIn : Except OutsideError Value → Option Credentials
  | .error _ => none
  | .ok answer =>
    match ofMetadata answer with
    | .ok (some c) => if c.isEmpty then none else some c
    | _ => none

theorem yields_login (login : Credentials) (w : World T σ) :
    (Source.login login).leaves w = w ∧ (Source.login login).yields w =
      if login.isEmpty then none
      else some { login with source := "static", expiresAt := none } := by
  refine ⟨rfl, ?_⟩
  simp only [yields, load, outcome_pure, ofLogin]
  cases h : login.isEmpty with
  | true => rfl
  | false =>
      have given : ({ login with source := "static", expiresAt := none } : Credentials).isEmpty =
          false := h
      simp [given]

omit [Seconds T] [Outside T σ] in
/-- The names of the variables have bytes, so the environment can be asked for them. -/
theorem ofVariables_eq (host : Host) : ofVariables host "" = .ok
    (if (variableOf host "AWS_ACCESS_KEY_ID").isEmpty ||
        (variableOf host "AWS_SECRET_ACCESS_KEY").isEmpty then none
      else some ⟨.str (variableOf host "AWS_ACCESS_KEY_ID"),
        .str (variableOf host "AWS_SECRET_ACCESS_KEY"), .str (variableOf host "AWS_SESSION_TOKEN"),
        "env", none⟩) := by
  have read (name : String) : host.environment.read ("" ++ name) = .ok (host.value? name) :=
    if_pos (CodePoints.isEncodable_ofString name)
  simp only [ofVariables, read, bind, Except.bind, pure, Except.pure]
  exact (apply_ite Except.ok _ _ _).symm

theorem yields_environment {host : Host} (h : w.host.ExtendsTo host) :
    (Source.environment "" none).leaves w = { w with host := host } ∧
      (HasVariables host → (Source.environment "" none).yields w =
        some ⟨.str (variableOf host "AWS_ACCESS_KEY_ID"),
          .str (variableOf host "AWS_SECRET_ACCESS_KEY"),
          .str (variableOf host "AWS_SESSION_TOKEN"), "env", none⟩) ∧
      (¬ HasVariables host → (Source.environment "" none).yields w = none) := by
  have loaded : (load (.environment "" none)).outcome w =
      ((ofVariables host "").mapError fun f => .plain (.fault f), { w with host := host }) := by
    rw [outcome_environment, dotenvPath, h]
    rfl
  rw [ofVariables_eq] at loaded
  refine ⟨by rw [leaves, loaded], ?_, ?_⟩
  · rintro ⟨access, secret⟩
    simp [yields, loaded, access, secret, Credentials.isEmpty, Value.isGiven, Scalar.isGiven]
  · intro unset
    by_cases access : variableOf host "AWS_ACCESS_KEY_ID" = []
    · simp [yields, loaded, access]
    · have secret : variableOf host "AWS_SECRET_ACCESS_KEY" = [] :=
        Classical.byContradiction fun given => unset ⟨access, given⟩
      simp [yields, loaded, secret]

theorem yields_profile {options? : Option Entries} (h : Selects w.host options?) :
    (Source.profile none none).leaves w = w ∧
      (∀ options, options? = some options → HasKeys options → (Source.profile none none).yields w =
        some ⟨optionOr options "aws_access_key_id", optionOr options "aws_secret_access_key",
          optionOr options "aws_session_token",
          "shared-file:" ++ w.host.valueOr "AWS_PROFILE" "default", none⟩) ∧
      ((∀ options, options? = some options → ¬ HasKeys options) →
        (Source.profile none none).yields w = none) := by
  have selected : inProfiles w.host none none = .ok (options?.bind fun options =>
      ofProfile (w.host.valueOr "AWS_PROFILE" "default") options) := by
    cases h with
    | noFile path_eq missing =>
        rename_i path
        simp only [inProfiles, chosen, path_eq, mapError_ok, bind, Except.bind]
        cases found : w.host.files.findAsWritten path with
        | file content => exact absurd found (missing content)
        | _ => rfl
    | @file path content profiles path_eq there parsed =>
        simp only [inProfiles, chosen, path_eq, mapError_ok, bind, Except.bind, there, parsed]
        cases profiles.find? (·.1 == w.host.valueOr "AWS_PROFILE" "default") <;> rfl
  have loaded : (load (.profile none none)).outcome w =
      (.ok (options?.bind fun options =>
        ofProfile (w.host.valueOr "AWS_PROFILE" "default") options), w) := by
    simp only [load, outcome_bind, outcome_get, outcome_ofExcept, selected, mapError_ok]
  refine ⟨by rw [leaves, loaded], ?_, ?_⟩
  · intro options there given
    simp only [HasKeys, optionOr] at given
    simp [yields, loaded, there, ofProfile, optionOr, given, Credentials.isEmpty]
  · intro unkeyed
    cases options? with
    | none => simp [yields, loaded]
    | some options =>
        have lacking := unkeyed options rfl
        simp only [HasKeys, optionOr] at lacking
        simp [yields, loaded, ofProfile, lacking]

theorem yields_role (w : World T σ) :
    (Source.role .service).leaves w = w.afterCall .metadata ∧
      (Source.role .service).yields w = roleIn (w.reply .metadata).result := by
  have loaded : (load (.role .service)).outcome w =
      (((w.reply .metadata).result.mapError fun e => .plain (.outside e)).bind fun answer =>
        (ofMetadata answer).mapError fun f => .plain (.fault f), w.afterCall .metadata) := by
    simp only [load, fetch, outcome_bind, outcome_perform w .metadata]
    cases (w.reply (Call.metadata (T := T))).result with
    | error e => rfl
    | ok answer =>
        dsimp only [mapError_ok]
        rw [outcome_ofFault]
        rfl
  refine ⟨by rw [leaves, loaded], ?_⟩
  simp only [yields, loaded]
  cases (w.reply (Call.metadata (T := T))).result with
  | error e => rfl
  | ok answer =>
      simp only [mapError_ok, Except.bind, roleIn]
      cases ofMetadata answer with
      | error f => rfl
      | ok found => cases found <;> rfl

/-! ## Ordered first success -/

/-- Resolving a list of sources is ordered first success, whatever the loads bring. -/
structure FirstSuccess (sources : List Source) (w : World T σ) : Prop where
  ends : ∃ found after, (resolve sources).outcome w = (.ok found, after)
  /-- The credentials are those of the first source that yields any. The sources before it were
  loaded once each, in their order, then it was loaded, and none behind it. -/
  found_iff : ∀ c after, (resolve sources).outcome w = (.ok (some c), after) ↔
    ∃ before source later w₁, sources = before ++ source :: later ∧ PassesOver before w w₁ ∧
      source.yields w₁ = some c ∧ after = source.leaves w₁
  given : ∀ c after, (resolve sources).outcome w = (.ok (some c), after) → c.IsGiven
  none_iff : ∀ after, (resolve sources).outcome w = (.ok none, after) ↔ PassesOver sources w after
  calls : ∀ before source w₁, PassesOver before w w₁ →
    (source.leaves w₁).log.map (·.call) =
      w.log.map (·.call) ++ (before ++ [source]).flatMap Source.calls
  /-- More sources behind are resolved if there was nothing, in the world that is left then. -/
  append : ∀ more, (resolve (sources ++ more)).outcome w =
    match (resolve sources).outcome w with
    | (.ok none, after) => (resolve more).outcome after
    | settled => settled
  /-- Sources that yield nothing make no difference where they leave alone what the sources behind
  them yield. -/
  inserted : ∀ before idle later, sources = before ++ later →
    (∀ w₁, PassesOver before w w₁ → ∃ w₂, PassesOver idle w₁ w₂ ∧
      yieldsOf later w₂ = yieldsOf later w₁) →
    ((resolve (before ++ idle ++ later)).outcome w).1 = ((resolve sources).outcome w).1
  /-- So it is with all that look at nothing but the configuration, the profile file and what they
  know beforehand. -/
  inserted_still : ∀ before idle later, sources = before ++ later →
    (∀ w₁, PassesOver before w w₁ → ∀ source ∈ idle, source.isStill = true ∧
      source.yields w₁ = none) →
    ((resolve (before ++ idle ++ later)).outcome w).1 = ((resolve sources).outcome w).1

theorem resolve_inserted {idle : List Source} (idles : ∀ w₁, PassesOver before w w₁ →
    ∃ w₂, PassesOver idle w₁ w₂ ∧ yieldsOf later w₂ = yieldsOf later w₁) :
    ((resolve (before ++ idle ++ later)).outcome w).1 =
      ((resolve (before ++ later)).outcome w).1 := by
  rw [List.append_assoc]
  rcases passesOver_or_yields before w with ⟨w₁, skipped⟩ |
    ⟨front, source, back, w₁, c, rfl, skipped, found⟩
  · obtain ⟨w₂, passed, same⟩ := idles w₁ skipped
    rw [skipped.outcome_append, skipped.outcome_append, passed.outcome_append, resolve_eq_findSome?,
      resolve_eq_findSome?, same]
  · -- what comes behind the first credentials is not looked at
    rw [List.append_assoc, List.append_assoc, List.cons_append, List.cons_append,
      skipped.outcome_found found, skipped.outcome_found found]

theorem resolve_eq_some_iff : (resolve sources).outcome w = (.ok (some c), after) ↔
    ∃ before source later w₁, sources = before ++ source :: later ∧ PassesOver before w w₁ ∧
      source.yields w₁ = some c ∧ after = source.leaves w₁ := by
  constructor
  · intro h
    rcases passesOver_or_yields sources w with ⟨after', skipped⟩ |
      ⟨before, source, later, w₁, c', rfl, skipped, found⟩
    · rw [skipped.outcome] at h
      cases h
    · rw [skipped.outcome_found found] at h
      cases h
      exact ⟨before, source, later, w₁, rfl, skipped, found, rfl⟩
  · rintro ⟨before, source, later, w₁, rfl, skipped, found, rfl⟩
    exact skipped.outcome_found found

theorem resolve_eq_none_iff :
    (resolve sources).outcome w = (.ok none, after) ↔ PassesOver sources w after := by
  constructor
  · intro h
    rcases passesOver_or_yields sources w with ⟨after', skipped⟩ |
      ⟨before, source, later, w₁, c', rfl, skipped, found⟩
    · rw [skipped.outcome] at h
      cases h
      exact skipped
    · rw [skipped.outcome_found found] at h
      cases h
  · intro skipped
    exact skipped.outcome

theorem firstSuccess (sources : List Source) (w : World T σ) : FirstSuccess sources w where
  ends := resolve_ok sources w
  found_iff c after := resolve_eq_some_iff
  given c after h := by
    obtain ⟨before, source, later, w₁, -, -, found, -⟩ := resolve_eq_some_iff.mp h
    exact isGiven_of_yields found
  none_iff after := resolve_eq_none_iff
  calls before source w₁ skipped := by
    rw [calls_leaves, skipped.calls, List.append_assoc, List.flatMap_append,
      List.flatMap_singleton]
  append more := by
    rcases passesOver_or_yields sources w with ⟨after', skipped⟩ |
      ⟨before, source, later, w₁, c', rfl, skipped, found⟩
    · rw [skipped.outcome_append, skipped.outcome]
    · rw [skipped.outcome_found found, List.append_assoc, List.cons_append,
        skipped.outcome_found found]
  inserted before idle later split idles := by
    rw [split]
    exact resolve_inserted idles
  inserted_still before idle later split idles := by
    rw [split]
    exact resolve_inserted fun w₁ skipped => ⟨w₁, passesOver_of_isStill (idles w₁ skipped), rfl⟩

/-- The order of the usual chain: the configuration, the environment, the selected profile, the role
of the machine. -/
structure UsualOrder (login : Credentials) (w : World T σ) : Prop where
  /-- Credentials of the configuration are taken if any secret is given, and nothing else is looked
  at. -/
  configured : login.IsGiven → (resolve (usual login)).outcome w =
    (.ok (some { login with source := "static", expiresAt := none }), w)
  kept : ∀ host, w.host.ExtendsTo host → ∀ name value, w.host.value? name = some value →
    host.value? name = some value
  /-- Otherwise the keys in the environment are taken if both are set. -/
  environment : ∀ host, ¬ login.IsGiven → w.host.ExtendsTo host → HasVariables host →
    (resolve (usual login)).outcome w =
      (.ok (some ⟨.str (variableOf host "AWS_ACCESS_KEY_ID"),
        .str (variableOf host "AWS_SECRET_ACCESS_KEY"),
        .str (variableOf host "AWS_SESSION_TOKEN"), "env", none⟩), { w with host := host })
  /-- Otherwise those of the selected profile, if both are given. -/
  profile : ∀ host options, ¬ login.IsGiven → w.host.ExtendsTo host → ¬ HasVariables host →
    Selects host (some options) → HasKeys options →
      (resolve (usual login)).outcome w =
        (.ok (some ⟨optionOr options "aws_access_key_id",
          optionOr options "aws_secret_access_key", optionOr options "aws_session_token",
          "shared-file:" ++ host.valueOr "AWS_PROFILE" "default", none⟩), { w with host := host })
  /-- Only then the metadata service is asked, once, and credentials of the role are taken. -/
  role : ∀ host options?, ¬ login.IsGiven → w.host.ExtendsTo host → ¬ HasVariables host →
    Selects host options? → (∀ options, options? = some options → ¬ HasKeys options) →
      (resolve (usual login)).outcome w =
        (.ok (roleIn (({ w with host := host } : World T σ).reply .metadata).result),
          ({ w with host := host } : World T σ).afterCall .metadata)

theorem usualOrder (login : Credentials) (w : World T σ) : UsualOrder login w := by
  have configured := yields_login login w
  -- each case passes over the sources of the cases before it
  have unconfigured {host : Host} (empty : ¬ login.IsGiven) (h : w.host.ExtendsTo host)
      (unset : ¬ HasVariables host) :
      PassesOver [.login login, .environment "" none] w { w with host := host } := by
    rw [Credentials.isEmpty_iff.mpr empty, if_pos rfl] at configured
    obtain ⟨left, _, nothing⟩ := yields_environment h
    refine .cons configured.2 ?_
    rw [configured.1]
    refine .cons (nothing unset) ?_
    rw [left]
    exact .nil _
  constructor
  · intro given
    rw [Credentials.isEmpty_eq_false_iff.mpr given] at configured
    rw [usual, outcome_resolve_cons, configured.2, configured.1]
    rfl
  · exact fun host h name value held => h.value? held
  · intro host empty h set_
    rw [Credentials.isEmpty_iff.mpr empty, if_pos rfl] at configured
    obtain ⟨left, found, _⟩ := yields_environment h
    rw [usual, outcome_resolve_cons, configured.2, configured.1]
    dsimp only
    rw [outcome_resolve_cons, found set_, left]
  · intro host options empty h unset selects given
    obtain ⟨left, found, _⟩ := yields_profile (w := { w with host := host }) selects
    have skipped := unconfigured empty h unset
    exact (skipped.outcome_append _).trans (by
      rw [outcome_resolve_cons, found options rfl given, left])
  · intro host options? empty h unset selects lacking
    obtain ⟨left, _, nothing⟩ := yields_profile (w := { w with host := host }) selects
    obtain ⟨left', found⟩ := yields_role ({ w with host := host } : World T σ)
    have skipped := unconfigured empty h unset
    refine (skipped.outcome_append _).trans ?_
    rw [outcome_resolve_cons, nothing lacking, left]
    dsimp only
    rw [outcome_resolve_cons, found, left']
    cases roleIn (({ w with host := host } : World T σ).reply .metadata).result <;> rfl

/-- Resolving is ordered first success, and the usual chain goes from the configuration over the
environment and the selected profile to the role of the machine. -/
theorem resolves_in_order (T σ : Type) [Seconds T] [Outside T σ] :
    (∀ sources (w : World T σ), FirstSuccess sources w) ∧
      ∀ login (w : World T σ), UsualOrder login w :=
  ⟨firstSuccess, usualOrder⟩

/-- A world with a home folder, a `.env` file in the working folder and a credentials file in the
home folder, on a machine that has a role. -/
def home (dotenv credentials : String) : World Rat (Rehearsal Rat) where
  moment := ⟨0, []⟩
  began := 0
  date := 60 * Calendar.minute
  host := {
    values := [("HOME", "/home/vault")]
    files := ⟨[(["work", ".env"], Utf8.ofString dotenv),
      (["home", "vault", ".aws", "credentials"], Utf8.ofString credentials)],
      [["home"], ["home", "vault"], ["home", "vault", ".aws"], ["work"]], ["work"]⟩
    accounts := []
    home := none
    readers := .rehearsal }
  sessions := 0
  clients := 0
  log := []
  outside := { Rehearsal.planned .empty [] [] with
    metadata := .ok (.map [(.str "role_name", .str "vault"), (.str "access_key", .str "A3"),
      (.str "secret_key", .str "S3")]) }

def originOf (sources : List Source) (w : World Rat (Rehearsal Rat)) : Option CodePoints :=
  (((resolve sources).outcome w).1.toOption.bind id).map (·.source)

def extended (w : World Rat (Rehearsal Rat)) : Host :=
  (w.host.loadDotenv w.host.dotenvPath).1

theorem extendsTo_extended {w : World Rat (Rehearsal Rat)}
    (loads : (w.host.loadDotenv w.host.dotenvPath).2.toOption = some ()) :
    w.host.ExtendsTo (extended w) :=
  Prod.ext rfl (ok_of_toOption loads)

theorem exists_selects (host : Host) (content : String) (given : Bool)
    (path_eq : (host.expandHome (host.valueOr "AWS_SHARED_CREDENTIALS_FILE"
      "~/.aws/credentials")).toOption = some (.ofString "/home/vault/.aws/credentials"))
    (there : host.files.findAsWritten "/home/vault/.aws/credentials" =
      .file (Utf8.ofString content))
    (reads : (host.readers.profiles host.toMachine "/home/vault/.aws/credentials").toOption.map
      (fun profiles => ((profiles.find? (·.1 == host.valueOr "AWS_PROFILE" "default")).map
        (·.2)).any (HasKeys ·)) = some given) :
    ∃ options?, Selects host options? ∧ options?.any (HasKeys ·) = given := by
  cases parsed : host.readers.profiles host.toMachine "/home/vault/.aws/credentials" with
  | error e =>
      rw [parsed] at reads
      cases reads
  | ok profiles =>
      rw [parsed] at reads
      exact ⟨_, .file (ok_of_toOption path_eq) there parsed, Option.some.inj reads⟩

def keyed : World Rat (Rehearsal Rat) :=
  home "AWS_ACCESS_KEY_ID=A1\nAWS_SECRET_ACCESS_KEY=S1\n" ""

def profiled : World Rat (Rehearsal Rat) :=
  home "AWS_PROFILE=other\n" "[other]\naws_access_key_id = A2\naws_secret_access_key = S2\n"

def bare : World Rat (Rehearsal Rat) :=
  home "" "[default]\nregion = eu-central-1\n"

/-- A home with keys in the environment, one with keys in a profile, and one with neither. -/
theorem homes_in_order :
    (keyed.host.ExtendsTo (extended keyed) ∧ HasVariables (extended keyed) ∧
      originOf (usual .empty) keyed = some (.ofString "env")) ∧
    (profiled.host.ExtendsTo (extended profiled) ∧ ¬ HasVariables (extended profiled) ∧
      (∃ options, Selects (extended profiled) (some options) ∧ HasKeys options) ∧
      originOf (usual .empty) profiled = some (.ofString "shared-file:other")) ∧
    bare.host.ExtendsTo (extended bare) ∧ ¬ HasVariables (extended bare) ∧
      (∃ options?, Selects (extended bare) options? ∧
        ∀ options, options? = some options → ¬ HasKeys options) ∧
      originOf (usual .empty) bare = some (.ofString "instance-role:vault") := by
  have order (w) : UsualOrder .empty w := (resolves_in_order Rat (Rehearsal Rat)).2 .empty w
  have unconfigured : ¬ Credentials.empty.IsGiven := Credentials.isEmpty_iff.mp (by decide)
  refine ⟨?_, ?_, ?_⟩
  · have extends_ : keyed.host.ExtendsTo (extended keyed) := extendsTo_extended (by decide +kernel)
    have set_ : HasVariables (extended keyed) := by decide +kernel
    refine ⟨extends_, set_, ?_⟩
    rw [originOf, (order keyed).environment _ unconfigured extends_ set_]
    rfl
  · have extends_ : profiled.host.ExtendsTo (extended profiled) :=
      extendsTo_extended (by decide +kernel)
    have unset : ¬ HasVariables (extended profiled) := by decide +kernel
    obtain ⟨options?, selects, given⟩ := exists_selects (extended profiled)
      "[other]\naws_access_key_id = A2\naws_secret_access_key = S2\n" true
      (by decide +kernel) (by decide +kernel) (by decide +kernel)
    obtain ⟨options, rfl, keys⟩ : ∃ options, options? = some options ∧ HasKeys options := by
      simpa [Option.any_eq_true] using given
    refine ⟨extends_, unset, ⟨options, selects, keys⟩, ?_⟩
    rw [originOf, (order profiled).profile _ options unconfigured extends_ unset selects keys]
    change some (.ofString "shared-file:" ++ (extended profiled).valueOr "AWS_PROFILE" "default") =
      some (.ofString "shared-file:other")
    decide +kernel
  · have extends_ : bare.host.ExtendsTo (extended bare) := extendsTo_extended (by decide +kernel)
    have unset : ¬ HasVariables (extended bare) := by decide +kernel
    obtain ⟨options?, selects, given⟩ := exists_selects (extended bare)
      "[default]\nregion = eu-central-1\n" false
      (by decide +kernel) (by decide +kernel) (by decide +kernel)
    have unkeyed : ∀ options, options? = some options → ¬ HasKeys options := by
      rintro options rfl
      simpa using given
    refine ⟨extends_, unset, ⟨options?, selects, unkeyed⟩, ?_⟩
    rw [originOf, (order bare).role _ options? unconfigured extends_ unset selects unkeyed]
    decide +kernel

/-- A world with two profiles in a file, and a `.env` file that gives no keys but selects a
profile. -/
def rerouted : World Rat (Rehearsal Rat) :=
  home "AWS_PROFILE=other\n" ("[default]\naws_access_key_id = A1\naws_secret_access_key = S1\n"
    ++ "[other]\naws_access_key_id = A2\naws_secret_access_key = S2\n")

/-- A source that yields nothing can make a difference: loading the environment selects another
profile. -/
theorem idle_environment_reroutes :
    ¬ ∀ (idle : Source) (later : List Source) (w : World Rat (Rehearsal Rat)),
      idle.yields w = none →
        ((resolve (idle :: later)).outcome w).1 = ((resolve later).outcome w).1 := by
  intro same
  have idle : ((Source.environment "" none).yields rerouted).isNone = true := by decide +kernel
  have other : originOf [.environment "" none, .profile none none] rerouted =
      some (.ofString "shared-file:other") := by decide +kernel
  have default : originOf [.profile none none] rerouted =
      some (.ofString "shared-file:default") := by decide +kernel
  have unmoved : originOf [.environment "" none, .profile none none] rerouted =
      originOf [.profile none none] rerouted := by
    rw [originOf, same _ _ _ (Option.isNone_iff_eq_none.mp idle), originOf]
  rw [other, default] at unmoved
  exact absurd unmoved (by decide)

end Source

end SecretVault
