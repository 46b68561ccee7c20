import SecretVault.Proofs.World.Discretion
import SecretVault.Store.Remote

/-!
One store in the vault in two worlds that differ in nothing but secrets. Whatever it does to get a
client, it does in both; creating sends the two values and is answered alike, and only what is read
differs, as text in one world and as raw bytes in the other or the same way in both.
-/

namespace SecretVault

open SecretVault.Action

namespace RemoteStore

variable {T σ α : Type} [Outside T σ] {d : Discreet T σ} {P : Pairing} {Q : α → α → Prop}

/-- One store in two worlds side by side. -/
def Beside (d : Discreet T σ) (P : Pairing) (st st' : RemoteStore T × World T σ) : Prop :=
  st'.1 = st.1 ∧ World.Beside d P st.2 st'.2

theorem abreast_current : Abreast (Beside d P) Eq (current : Op T σ _) current :=
  Abreast.get.bind fun _ _ h => .pure h.1.symm

theorem abreast_update (f : RemoteStore T → RemoteStore T) :
    Abreast (Beside d P) Eq (update f : Op T σ Unit) (update f) :=
  Abreast.change fun _ _ h => ⟨congrArg f h.1, h.2⟩

theorem abreast_outward {a a' : Action (World T σ) α} (h : Abreast (World.Beside d P) Q a a') :
    Abreast (Beside d P) Q (outward a) (outward a') :=
  h.onSecond (F := fun s s' => s' = s)

variable [Seconds T]

theorem abreast_check (ctx : Context T) :
    Abreast (Beside d P) Eq (check ctx : Op T σ Unit) (check ctx) :=
  abreast_outward (World.abreast_check ctx)

/-! ## Sessions and clients -/

theorem abreast_resolve (resolver : Resolver) :
    Abreast (World.Beside d P) Eq (resolve resolver) (resolve resolver) := by
  cases resolver with
  | chain sources => exact Source.abreast_resolve sources
  | unusable => exact .throw _

theorem abreast_newSession : Abreast (Beside d P) Eq (newSession : Op T σ Nat) newSession := by
  refine abreast_current.then_ fun store => ?_
  refine (abreast_outward (abreast_resolve store.resolver)).then_ fun credentials => ?_
  refine (abreast_update _).then_ fun _ => ?_
  exact abreast_outward (World.abreast_openSession _ _)

theorem abreast_build (session : Nat) (limits : Limits T) :
    Abreast (Beside d P) Eq (build session limits : Op T σ Client) (build session limits) := by
  refine abreast_current.then_ fun store => ?_
  refine (Abreast.ofFault (.refl _)).then_ fun endpoint => ?_
  split
  · exact .throw _
  · exact abreast_outward (World.abreast_buildClient session endpoint limits)

theorem abreast_newClient : Abreast (Beside d P) Eq (newClient : Op T σ Client) newClient := by
  refine abreast_newSession.then_ fun session => ?_
  refine (abreast_update _).then_ fun _ => ?_
  exact abreast_current.then_ fun store => abreast_build session _

theorem abreast_closeAll (clients : List Client) :
    Abreast (Beside d P) Eq (closeAll clients : Op T σ Unit) (closeAll clients) := by
  induction clients with
  | nil => exact .pure rfl
  | cons c rest ih => exact (abreast_outward (World.abreast_closeClient c)).then_ fun _ => ih

theorem abreast_freshClient : Abreast (Beside d P) Eq (freshClient : Op T σ _) freshClient := by
  refine Abreast.get.bind ?_
  rintro ⟨store, w⟩ ⟨_, w'⟩ ⟨rfl, h⟩
  dsimp only
  rw [h.wall_eq]
  refine (Abreast.ofFault (.refl _)).then_ fun stale => ?_
  split
  · refine (abreast_update _).then_ fun _ => ?_
    refine abreast_newClient.then_ fun client => ?_
    refine (abreast_update _).then_ fun _ => ?_
    refine (abreast_closeAll _).then_ fun _ => ?_
    exact abreast_current.then_ fun store => .pure rfl
  · exact abreast_current.then_ fun store => .pure rfl

theorem abreast_clientFor (ctx : Context T) (operation name : String) :
    Abreast (Beside d P) Eq (clientFor ctx operation name : Op T σ Client)
      (clientFor ctx operation name) := by
  refine abreast_freshClient.then_ fun _ => ?_
  refine Abreast.get.bind ?_
  rintro ⟨store, w⟩ ⟨_, w'⟩ ⟨rfl, h⟩
  dsimp only
  rw [h.moment_eq]
  refine (Abreast.ofFault (.refl _)).then_ fun limits? => ?_
  split
  · exact .throw _
  · split
    · split
      · exact .pure rfl
      · refine (abreast_build _ _).then_ fun bounded => ?_
        exact (abreast_update _).then_ fun _ => .pure rfl
    · exact .pure rfl

theorem abreast_close : Abreast (Beside d P) Eq (close : Op T σ Unit) close := by
  refine abreast_current.then_ fun store => ?_
  refine (abreast_update _).then_ fun _ => ?_
  split
  · exact .pure rfl
  · exact abreast_closeAll _

/-! ## Operations -/

theorem abreast_report (ctx : Context T) (operation name : String) (e : OutsideError) :
    Abreast (Beside d P) Q (report ctx operation name e) (report ctx operation name e) := by
  refine (abreast_outward World.abreast_now).then_ fun moment => ?_
  split
  · exact .throw _
  · exact (Abreast.ofFault (.refl _)).then_ fun kind => .throw _

theorem abreast_reporting {a a' : Op T σ α} (ctx : Context T) (operation name : String)
    (h : Abreast (Beside d P) Q a a') :
    Abreast (Beside d P) Q (reporting ctx operation name a) (reporting ctx operation name a') := by
  refine h.attempt.bind ?_
  intro result result' related
  cases related with
  | ok answers => exact .pure answers
  | error raised =>
      dsimp only
      split
      · split
        · exact abreast_report _ _ _ _
        · exact .throw _
      · exact .throw _

theorem abreast_create {name : String} {b b' : Bytes} (ctx : Context T) (paired : P name b b') :
    Abreast (Beside d P) Eq (create ctx name b : Op T σ Unit) (create ctx name b') := by
  refine (abreast_check ctx).then_ fun _ => abreast_current.then_ fun store => ?_
  apply abreast_reporting
  refine (abreast_clientFor ctx _ _).then_ fun client => ?_
  exact abreast_outward (World.abreast_create paired client.id _)

theorem abreast_read (ctx : Context T) (name : String) :
    Abreast (Beside d P) (P.Shows name) (read ctx name : Op T σ Bytes) (read ctx name) := by
  refine (abreast_check ctx).then_ fun _ => ?_
  refine (abreast_reporting ctx _ name (Q := Responses P name) ?_).bind ?_
  · refine (abreast_clientFor ctx _ _).then_ fun client => ?_
    exact abreast_outward (World.abreast_get client.id name)
  · intro response response' related
    have bytes := Abreast.ofFault (R := Beside d P) related.toBytes
    rw [ofFault_map, ofFault_map] at bytes
    exact bytes

theorem abreast_delete (ctx : Context T) (name : String) :
    Abreast (Beside d P) Eq (delete ctx name : Op T σ Unit) (delete ctx name) := by
  refine (abreast_check ctx).then_ fun _ => ?_
  apply abreast_reporting
  refine (abreast_clientFor ctx _ _).then_ fun client => ?_
  exact abreast_outward (World.abreast_perform (.delete client.id name) rfl)

theorem abreast_fetch (ctx : Context T) (client : Nat) (indices : List Nat) :
    Abreast (Beside d P) Eq (fetch ctx client indices : Op T σ (List Value))
      (fetch ctx client indices) := by
  induction indices with
  | nil => exact .pure rfl
  | cons index rest ih =>
      refine (abreast_outward (World.abreast_perform (.page client index) rfl)).then_ fun page => ?_
      refine (abreast_check ctx).then_ fun _ => (Abreast.ofFault (.refl _)).then_ fun names => ?_
      exact ih.then_ fun more => .pure rfl

theorem abreast_list (ctx : Context T) (start : String) (limit : Int) (cursor : String) :
    Abreast (Beside d P) Eq (list ctx start limit cursor : Op T σ Page)
      (list ctx start limit cursor) := by
  refine (abreast_check ctx).then_ fun _ => ?_
  refine Abreast.then_ (abreast_reporting ctx _ _ ?_) fun found => ?_
  · refine (abreast_clientFor ctx _ _).then_ fun client => ?_
    refine Abreast.then_ (abreast_outward ?_) fun count => abreast_fetch ctx client.id _
    exact World.abreast_perform (.paginator client.id) rfl
  · exact (Abreast.ofFault (.refl _)).then_ fun names => .pure rfl

end RemoteStore

end SecretVault
