import SecretVault.Proofs.Value.References
import SecretVault.Settings.Cell

/-!
What a load finds: the rules by which a file is read, the file of an environment is laid over it,
and the placeholders are resolved in the environment that the `.env` file leaves. Each rule says
what it needs of the host and of its readers, and does not invoke the loader.
-/

namespace SecretVault.Settings

variable {host : Host} {number : Nat}

/-- What is read from a file: no document if nothing lies there, and an empty one if it says
nothing. -/
inductive Reads (host : Host) (number : Nat) (path : Path) :
    Except Failure (Option Document) → Prop where
  | missing (absent : host.files.find path = .missing) : Reads host number path (.ok none)
  | folder (folder : host.files.find path = .folder) :
      Reads host number path (.error (.fault .isDirectory))
  | tooLong (long : host.files.find path = .tooLong) :
      Reads host number path (.error (.fault .unusableName))
  | malformed {content : Bytes} {e : Failure} (file : host.files.find path = .file content)
      (fails : host.readers.yaml number content = .error e) : Reads host number path (.error e)
  | silent {content : Bytes} {d : Document} (file : host.files.find path = .file content)
      (reads : host.readers.yaml number content = .ok d) (nothing : d.outline.isGiven = false) :
      Reads host number path (.ok (some .empty))
  | mapping {content : Bytes} {d : Document} {entries : Entries}
      (file : host.files.find path = .file content)
      (reads : host.readers.yaml number content = .ok d) (given : d.outline.isGiven = true)
      (outline : d.outline = .map entries) : Reads host number path (.ok (some d))
  | other {content : Bytes} {d : Document} (file : host.files.find path = .file content)
      (reads : host.readers.yaml number content = .ok d) (given : d.outline.isGiven = true)
      (outline : ∀ entries, d.outline ≠ .map entries) :
      Reads host number path (.error (.settings (.notMapping path.text d.outline.kindName)))

section

variable {path : Path} {content : Bytes} {d : Document}

theorem document_of_nothing (reads : host.readers.yaml number content = .ok d)
    (nothing : d.outline.isGiven = false) :
    document host number path content = .ok .empty := by
  simp [document, reads, Value.orElse, nothing, bind, Except.bind, pure, Except.pure]

theorem document_of_map {entries : Entries} (reads : host.readers.yaml number content = .ok d)
    (given : d.outline.isGiven = true) (outline : d.outline = .map entries) :
    document host number path content = .ok d := by
  rw [outline] at given
  obtain ⟨entry, rest, rfl⟩ := List.exists_cons_of_ne_nil
    (show entries ≠ [] by simpa [Value.isGiven] using given)
  rw [document, reads]
  simp only [bind, Except.bind, outline, Value.orElse, if_pos given]
  rfl

theorem document_of_other (reads : host.readers.yaml number content = .ok d)
    (given : d.outline.isGiven = true) (outline : ∀ entries, d.outline ≠ .map entries) :
    document host number path content =
      .error (.settings (.notMapping path.text d.outline.kindName)) := by
  rw [document, reads]
  simp only [bind, Except.bind, Value.orElse, if_pos given]
  split
  · rename_i empty
    exact absurd empty (outline [])
  · rename_i map
    exact absurd map (outline _)
  · rfl

theorem readFile_iff {found : Except Failure (Option Document)} :
    readFile host number path = found ↔ Reads host number path found := by
  constructor
  · rintro rfl
    unfold readFile
    split
    · rename_i content file
      cases reads : host.readers.yaml number content with
      | error e =>
          have fails : document host number path content = .error e := by rw [document, reads]; rfl
          rw [fails]
          exact .malformed file reads
      | ok d =>
          cases given : d.outline.isGiven with
          | false =>
              rw [document_of_nothing reads given]
              exact .silent file reads given
          | true =>
              by_cases map : ∃ entries, d.outline = .map entries
              · obtain ⟨entries, outline⟩ := map
                rw [document_of_map reads given outline]
                exact .mapping file reads given outline
              · have outline := not_exists.mp map
                rw [document_of_other reads given outline]
                exact .other file reads given outline
    · exact .folder ‹_›
    · exact .missing ‹_›
    · exact .tooLong ‹_›
  · rintro (absent | folder | long | ⟨file, fails⟩ | ⟨file, reads, nothing⟩ |
      ⟨file, reads, given, outline⟩ | ⟨file, reads, given, outline⟩)
    · simp only [readFile, absent]
    · simp only [readFile, folder]
    · simp only [readFile, long]
    · simp only [readFile, file, document, fails, bind, Except.bind, Except.map]
    · simp only [readFile, file, document_of_nothing reads nothing, Except.map]
    · simp only [readFile, file, document_of_map reads given outline, Except.map]
    · simp only [readFile, file, document_of_other reads given outline, Except.map]

end

/-! ## Two files -/

/-- What is read from the file of an environment. There is no file for none, or an empty name. -/
inductive ReadsOver (host : Host) (path : Path) (env : Option CodePoints) :
    Except Failure (Option Document) → Prop where
  | unnamed (unnamed : env.getD [] = []) : ReadsOver host path env (.ok none)
  | named {name : CodePoints} {found : Except Failure (Option Document)} (named : env = some name)
      (given : name ≠ []) (reads : Reads host 1 (environmentPath path name) found) :
      ReadsOver host path env found

/-- The settings that the main file and that of an environment make up, or why there are none. -/
inductive Gathers (host : Host) (path : CodePoints) (env : Option CodePoints) :
    Except Failure Raw → Prop where
  | missing (main : Reads host 0 (.ofText path) (.ok none)) :
      Gathers host path env (.error (.fileMissing path))
  | broken {e : Failure} (main : Reads host 0 (.ofText path) (.error e)) :
      Gathers host path env (.error e)
  | brokenOver {d : Document} {e : Failure} (main : Reads host 0 (.ofText path) (.ok (some d)))
      (over_ : ReadsOver host (.ofText path) env (.error e)) : Gathers host path env (.error e)
  | alone {d : Document} (main : Reads host 0 (.ofText path) (.ok (some d)))
      (over_ : ReadsOver host (.ofText path) env (.ok none)) :
      Gathers host path env (.ok (.ofUnfolded d.value))
  | overlaid {lower upper : Document} {old new : Entries}
      (main : Reads host 0 (.ofText path) (.ok (some lower)))
      (over_ : ReadsOver host (.ofText path) env (.ok (some upper)))
      (old_eq : lower.value = .ok (.map old)) (new_eq : upper.value = .ok (.map new)) :
      Gathers host path env (.ok (.entries (Entries.overlay old new)))
  /-- One of the documents at least goes on without end, but may do so under what is replaced. -/
  | endless {lower upper : Document} (main : Reads host 0 (.ofText path) (.ok (some lower)))
      (over_ : ReadsOver host (.ofText path) env (.ok (some upper)))
      (unending : (∃ before, lower.value = .error before) ∨ ∃ before, upper.value = .error before) :
      Gathers host path env
        ((Draft.over? lower upper).elim (.error (.fault .endless)) (.ok ∘ .ofUnfolded))

theorem unfold_map {d : Document} {fuel id : Nat} {parts : List (Scalar × Nat)}
    (h : d.meaning id = .map parts) :
    d.unfold (fuel + 1) id = unfoldEntries (d.unfold fuel) parts := by
  rw [Document.unfold, h]

theorem Reads.value_eq {path : Path} {d : Document} (h : Reads host number path (.ok (some d))) :
    (∃ data, d.value = .ok (.map data)) ∨ ∃ before, d.value = .error before := by
  cases h with
  | silent => exact .inl ⟨[], rfl⟩
  | mapping _ _ _ outline =>
      cases meaning : d.meaning d.root with
      | map parts =>
          have value_eq : d.value = unfoldEntries (d.unfold 489) parts := unfold_map meaning
          rw [value_eq, unfoldEntries]
          cases unfoldAll (d.unfold 489) (parts.map (·.2)) with
          | error before => exact .inr ⟨before, rfl⟩
          | ok values => exact .inl ⟨_, rfl⟩
      | _ => simp [Document.outline, meaning] at outline

theorem ReadsOver.value_eq {path : Path} {env : Option CodePoints} {d : Document}
    (h : ReadsOver host path env (.ok (some d))) :
    (∃ data, d.value = .ok (.map data)) ∨ ∃ before, d.value = .error before := by
  cases h with
  | named _ _ reads => exact reads.value_eq

theorem overlaid_of_unending {lower upper : Document}
    (h : (∃ before, lower.value = .error before) ∨ ∃ before, upper.value = .error before) :
    overlaid lower upper =
      (Draft.over? lower upper).elim (.error (.fault .endless)) (.ok ∘ .ofUnfolded) := by
  unfold overlaid
  split
  · rename_i old_eq new_eq
    simp [old_eq, new_eq] at h
  · rfl

theorem gathers_over {path : CodePoints} {env : Option CodePoints} {lower upper : Document}
    (main : Reads host 0 (.ofText path) (.ok (some lower)))
    (over_ : ReadsOver host (.ofText path) env (.ok (some upper))) :
    Gathers host path env (overlaid lower upper) := by
  rcases main.value_eq with ⟨old, old_eq⟩ | old_unending
  · rcases over_.value_eq with ⟨new, new_eq⟩ | new_unending
    · have overlaid_eq : overlaid lower upper = .ok (.entries (Entries.overlay old new)) := by
        simp only [overlaid, old_eq, new_eq]
      rw [overlaid_eq]
      exact .overlaid main over_ old_eq new_eq
    · rw [overlaid_of_unending (.inr new_unending)]
      exact .endless main over_ (.inr new_unending)
  · rw [overlaid_of_unending (.inl old_unending)]
    exact .endless main over_ (.inl old_unending)

def readOver (host : Host) (path : Path) (env : Option CodePoints) :
    Except Failure (Option Document) :=
  match env.getD [] with
  | [] => .ok none
  | name => readFile host 1 (environmentPath path name)

theorem readOver_iff {path : Path} {env : Option CodePoints}
    {found : Except Failure (Option Document)} :
    readOver host path env = found ↔ ReadsOver host path env found := by
  constructor
  · rintro rfl
    unfold readOver
    split
    · exact .unnamed ‹_›
    · rename_i name given
      cases env with
      | none => exact absurd rfl given
      | some env => exact .named rfl given (readFile_iff.mp rfl)
  · intro reads
    cases reads with
    | unnamed unnamed => rw [readOver, unnamed]
    | @named name _ named given reads =>
        obtain ⟨p, rest, rfl⟩ := List.exists_cons_of_ne_nil given
        rw [readOver, named]
        exact readFile_iff.mpr reads

theorem raw_eq (path : CodePoints) (env : Option CodePoints) : raw host path env = (do
    match ← readFile host 0 (.ofText path) with
    | none => .error (.fileMissing path)
    | some lower =>
      match ← readOver host (.ofText path) env with
      | none => return .ofUnfolded lower.value
      | some upper => overlaid lower upper) := by
  rw [raw]
  rcases env with _ | _ | ⟨p, rest⟩
  · rfl
  · rfl
  · rfl

theorem raw_iff {path : CodePoints} {env : Option CodePoints} {found : Except Failure Raw} :
    raw host path env = found ↔ Gathers host path env found := by
  rw [raw_eq]
  constructor
  · rintro rfl
    cases main : readFile host 0 (.ofText path) with
    | error e => exact .broken (readFile_iff.mp main)
    | ok d =>
        cases d with
        | none => exact .missing (readFile_iff.mp main)
        | some lower =>
            have below := readFile_iff.mp main
            cases over_ : readOver host (.ofText path) env with
            | error e => exact .brokenOver below (readOver_iff.mp over_)
            | ok d =>
                have above := readOver_iff.mp over_
                cases d with
                | none => exact .alone below above
                | some upper => exact gathers_over below above
  · intro gathers
    cases gathers with
    | missing main => rw [readFile_iff.mpr main]; rfl
    | broken main => rw [readFile_iff.mpr main]; rfl
    | brokenOver main over_ => rw [readFile_iff.mpr main, readOver_iff.mpr over_]; rfl
    | alone main over_ => rw [readFile_iff.mpr main, readOver_iff.mpr over_]; rfl
    | overlaid main over_ old_eq new_eq =>
        rw [readFile_iff.mpr main, readOver_iff.mpr over_]
        simp only [bind, Except.bind, overlaid, old_eq, new_eq]
    | endless main over_ unending =>
        rw [readFile_iff.mpr main, readOver_iff.mpr over_]
        exact overlaid_of_unending unending

/-! ## A load -/

open Placeholder (Refuses)

/-- What resolving goes over: the settings, or what comes before the place where they go on without
end. -/
def Raw.extent : Raw → Value
  | .entries data => .map data
  | .endless before => .list before

variable {T σ : Type}

def withDotenv (w : World T σ) : World T σ :=
  { w with host := (w.host.loadDotenv w.host.dotenvPath).1 }

/-- What a load finds in a world: settings whose placeholders are all resolved, or why there are
none. -/
inductive Settles (w : World T σ) (path : CodePoints) (env : Option CodePoints) :
    Except Failure Entries → Prop where
  | ungathered {e : Failure} (gathers : Gathers w.host path env (.error e)) :
      Settles w path env (.error e)
  | dotenv {data : Raw} {e : Failure} (gathers : Gathers w.host path env (.ok data))
      (fails : (w.host.loadDotenv w.host.dotenvPath).2 = .error e) : Settles w path env (.error e)
  | resolved {data found : Entries} (gathers : Gathers w.host path env (.ok (.entries data)))
      (loads : (w.host.loadDotenv w.host.dotenvPath).2 = .ok ())
      (each : (Value.map data).Resolved (withDotenv w).host.environment "" (.map found)) :
      Settles w path env (.ok found)
  | endless {before found : List Value} (gathers : Gathers w.host path env (.ok (.endless before)))
      (loads : (w.host.loadDotenv w.host.dotenvPath).2 = .ok ())
      (each : (Value.list before).Resolved (withDotenv w).host.environment "" (.list found)) :
      Settles w path env (.error (.fault .endless))
  /-- The variables of the placeholders before the one that fails all hold values. -/
  | refused {data : Raw} {before after : List CodePoints} {name : CodePoints} {e : Failure}
      (gathers : Gathers w.host path env (.ok data))
      (loads : (w.host.loadDotenv w.host.dotenvPath).2 = .ok ())
      (refers : data.extent.Refers (before ++ name :: after))
      (held : ∀ earlier ∈ before, ∃ value,
        Placeholder.Holds (withDotenv w).host.environment "" earlier value)
      (refuses : Refuses (withDotenv w).host.environment "" name e) : Settles w path env (.error e)

def settled (w : World T σ) (path : CodePoints) (env : Option CodePoints) :
    Except Failure Entries := do
  let data ← raw w.host path env
  (w.host.loadDotenv w.host.dotenvPath).2
  data.resolve (withDotenv w).host.environment

section

variable {env : Environment} {e : Failure}

theorem Raw.resolve_of_refused {data : Raw} (h : data.extent.resolve env "" = .error e) :
    data.resolve env = .error e := by
  cases data with
  | entries data => exact map_eq_error.mp h
  | endless before =>
      rw [Raw.resolve, map_eq_error.mp h]
      rfl

theorem Raw.resolve_entries {data found : Entries}
    (h : (Value.map data).Resolved env "" (.map found)) :
    (Raw.entries data).resolve env = .ok found := by
  obtain ⟨_, resolves, same⟩ := resolve_map_eq_ok.mp ((Value.resolve_eq_ok _ _).mpr h)
  cases same
  exact resolves

theorem Raw.resolve_endless {before found : List Value}
    (h : (Value.list before).Resolved env "" (.list found)) :
    (Raw.endless before).resolve env = .error (.fault .endless) := by
  obtain ⟨_, resolves, -⟩ := map_eq_ok.mp ((Value.resolve_eq_ok _ _).mpr h)
  rw [Raw.resolve, resolves]
  rfl

end

theorem settles_of_gathers {w : World T σ} {path : CodePoints} {env : Option CodePoints}
    {data : Raw} (gathers : Gathers w.host path env (.ok data))
    (loads : (w.host.loadDotenv w.host.dotenvPath).2 = .ok ()) :
    Settles w path env (data.resolve (withDotenv w).host.environment) := by
  cases found : data.extent.resolve (withDotenv w).host.environment "" with
  | error e =>
      obtain ⟨before, name, after, split, refuses, held⟩ :=
        (Value.resolve_eq_error (Value.refers_iff.mpr rfl)).mp found
      rw [Raw.resolve_of_refused found]
      exact .refused gathers loads (Value.refers_iff.mpr split) held refuses
  | ok v =>
      cases data with
      | entries data =>
          obtain ⟨resolved, -, rfl⟩ := resolve_map_eq_ok.mp found
          have each := (Value.resolve_eq_ok _ _).mp found
          rw [Raw.resolve_entries each]
          exact .resolved gathers loads each
      | endless before =>
          obtain ⟨resolved, -, rfl⟩ := map_eq_ok.mp found
          have each := (Value.resolve_eq_ok _ _).mp found
          rw [Raw.resolve_endless each]
          exact .endless gathers loads each

theorem settled_iff {w : World T σ} {path : CodePoints} {env : Option CodePoints}
    {found : Except Failure Entries} : settled w path env = found ↔ Settles w path env found := by
  constructor
  · rintro rfl
    rw [settled]
    cases gathers : raw w.host path env with
    | error e => exact .ungathered (raw_iff.mp gathers)
    | ok data =>
        cases loads : (w.host.loadDotenv w.host.dotenvPath).2 with
        | error e => exact .dotenv (raw_iff.mp gathers) loads
        | ok _ => exact settles_of_gathers (raw_iff.mp gathers) loads
  · intro settles
    cases settles with
    | ungathered gathers => rw [settled, raw_iff.mpr gathers]; rfl
    | dotenv gathers fails => rw [settled, raw_iff.mpr gathers, fails]; rfl
    | resolved gathers loads each =>
        rw [settled, raw_iff.mpr gathers, loads]
        exact Raw.resolve_entries each
    | endless gathers loads each =>
        rw [settled, raw_iff.mpr gathers, loads]
        exact Raw.resolve_endless each
    | refused gathers loads refers held refuses =>
        rw [settled, raw_iff.mpr gathers, loads]
        exact Raw.resolve_of_refused
          ((Value.resolve_eq_error refers).mpr ⟨_, _, _, rfl, refuses, held⟩)

end SecretVault.Settings
