import SecretVault.Store.Remote
import SecretVault.World.Rehearsal
import SecretVault.Proofs.World.Calls

/-!
Rehearsals as an outside. Whatever a plan interferes with, only a creation or a deletion changes the
vault. The plain worlds, options and credentials below are those that concrete runs start from.
-/

namespace SecretVault

/-! ## What a call leaves alone -/

namespace Rehearsal

variable {T : Type} [Seconds T]

omit [Seconds T] in
theorem vault_plainAnswer {c : Call T} (hc : c.isChange = false) (r : Rehearsal T) :
    (r.plainAnswer c).2.vault = r.vault := by
  cases c with
  | create => cases hc
  | delete => cases hc
  | _ => rfl

omit [Seconds T] in
theorem vault_plannedAnswer {c : Call T} (hc : c.isChange = false) (r : Rehearsal T)
    (response : Value) : (r.plannedAnswer response c).2.vault = r.vault := by
  cases c with
  | create => cases hc
  | delete => cases hc
  | _ => rfl

/-- Only a creation or a deletion changes the vault. -/
theorem vault_answer (c : Call T) (hc : c.isChange = false) (r : Rehearsal T) :
    (Outside.answer c r).state.vault = r.vault := by
  change (r.reply c).state.vault = r.vault
  unfold reply
  rcases take c.kind r.plan with ⟨_ | i, plan⟩
  · exact vault_plainAnswer hc _
  · dsimp only
    split
    · split
      · exact vault_plainAnswer hc _
      · rfl
    · exact vault_plannedAnswer hc _ _
    · exact vault_plainAnswer hc _

/-- A rehearsal with a vault, the answers of one foreign source and a plan. -/
def planned (vault : Vault) (answers : List (Except OutsideError (Option Credentials)))
    (plan : List (Interference T)) : Rehearsal T where
  vault := vault
  pageSize := 2
  closable := true
  metadata := .ok (.map [])
  scripts := [answers]
  plan := plan
  pages := none

end Rehearsal

/-! ## Where concrete runs start -/

/-- A world whose clock reads zero, with no contexts cancelled and no calls made, at a date. -/
def World.starting {T σ : Type} [Seconds T] (date : Instant) (outside : σ) : World T σ where
  moment := ⟨Seconds.ofInt 0, []⟩
  began := Seconds.ofInt 0
  date := date
  host := .empty
  sessions := 0
  clients := 0
  log := []
  outside := outside

def Options.ofRegion {T : Type} [Seconds T] (region : String) : Options T where
  region := .str region
  address := .str ""
  encryptionKey := .str ""
  login := .empty
  limits := ⟨Seconds.ofInt 5, Seconds.ofInt 30, 3⟩

def Credentials.lasting (last : Instant) : Credentials :=
  ⟨.str "key", .str "secret", .str "token", "role", some last⟩

def Resolver.foreign : Resolver :=
  .chain [.foreign "foreign" 0]

/-- A world at the end of the first hour, with a foreign source whose credentials are good for
another hour. -/
def World.firstHour : World Rat (Rehearsal Rat) :=
  .starting (60 * Calendar.minute)
    (.planned .empty [.ok (some (.lasting (120 * Calendar.minute)))] [])

/-- A store with one client, of the first session, that was built with credentials that have an
end. -/
def RemoteStore.lasting {T : Type} [Seconds T] (last : Instant) : RemoteStore T where
  options := .ofRegion "us-east-1"
  resolver := .foreign
  credentials := some (.lasting last)
  session := some 1
  client := some ⟨1, true⟩
  bounded := []

end SecretVault
