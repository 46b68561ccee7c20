import SecretVault.Store.Basic
import SecretVault.Proofs.Action.Outcome

/-!
The data operations of a key store as data, so that runs can be sequences of them. One operation is
carried out on a key store of either kind; on the store in memory and on the store in the vault it
is what that kind has for it.
-/

namespace SecretVault

inductive Operation where
  | create (name : String) (value : Bytes)
  | put (name : String) (value : Bytes)
  | read (name : String)
  | delete (name : String)
  | list (start : String) (limit : Int) (cursor : String)

inductive Answer where
  | done
  | value (b : Bytes)
  | page (p : Page)
  deriving DecidableEq

namespace Operation

variable {T σ : Type} [Seconds T]

def perform [Outside T σ] (ctx : Context T) : Operation → KeyStore.Op T σ Answer
  | .create name value => do
    KeyStore.create ctx name value
    return .done
  | .put name value => do
    KeyStore.put ctx name value
    return .done
  | .read name => return .value (← KeyStore.read ctx name)
  | .delete name => do
    KeyStore.delete ctx name
    return .done
  | .list start limit cursor => return .page (← KeyStore.list ctx start limit cursor)

def onMemory (ctx : Context T) : Operation → MemoryStore.Op T σ Answer
  | .create name value => do
    MemoryStore.create ctx name value
    return .done
  | .put name value => do
    MemoryStore.create ctx name value
    return .done
  | .read name => return .value (← MemoryStore.read ctx name)
  | .delete name => do
    MemoryStore.delete ctx name
    return .done
  | .list start limit cursor => return .page (← MemoryStore.list ctx start limit cursor)

def onRemote [Outside T σ] (ctx : Context T) : Operation → RemoteStore.Op T σ Answer
  | .create name value => do
    RemoteStore.create ctx name value
    return .done
  | .put name value => do
    RemoteStore.create ctx name value
    return .done
  | .read name => return .value (← RemoteStore.read ctx name)
  | .delete name => do
    RemoteStore.delete ctx name
    return .done
  | .list start limit cursor => return .page (← RemoteStore.list ctx start limit cursor)

open SecretVault.Action

omit [Seconds T] in
/-- Answering something else after a dispatched action is dispatching the actions that answer it. -/
theorem outcome_dispatch_bind {α β : Type} (memory : MemoryStore.Op T σ α)
    (remote : RemoteStore.Op T σ α) (f : α → β) (st : KeyStore T × World T σ) :
    (KeyStore.dispatch memory remote >>= fun x => pure (f x)).outcome st =
      (KeyStore.dispatch (memory >>= fun x => pure (f x))
        (remote >>= fun x => pure (f x))).outcome st := by
  obtain ⟨store, world⟩ := st
  cases store with
  | memory label s =>
      simp only [KeyStore.dispatch, outcome_bind, outcome_ofOutcome]
      rcases memory.outcome (s, world) with ⟨result, after⟩
      cases result <;> rfl
  | remote label s =>
      simp only [KeyStore.dispatch, outcome_bind, outcome_ofOutcome]
      rcases remote.outcome (s, world) with ⟨result, after⟩
      cases result <;> rfl

theorem outcome_perform [Outside T σ] (ctx : Context T) (op : Operation)
    (st : KeyStore T × World T σ) :
    (op.perform ctx).outcome st =
      (KeyStore.dispatch (op.onMemory ctx) (op.onRemote ctx)).outcome st := by
  cases op with
  | create name value => exact outcome_dispatch_bind _ _ _ st
  | put name value =>
      exact outcome_dispatch_bind (MemoryStore.create ctx name value)
        (RemoteStore.create ctx name value) (fun _ => Answer.done) st
  | read name => exact outcome_dispatch_bind _ _ _ st
  | delete name => exact outcome_dispatch_bind _ _ _ st
  | list start limit cursor => exact outcome_dispatch_bind _ _ _ st

theorem outcome_perform_memory [Outside T σ] (ctx : Context T) (op : Operation) (label : String)
    (s : MemoryStore) (w : World T σ) :
    (op.perform ctx).outcome (.memory label s, w) =
      (((op.onMemory ctx).outcome (s, w)).1, .memory label ((op.onMemory ctx).outcome (s, w)).2.1,
        ((op.onMemory ctx).outcome (s, w)).2.2) := by
  rw [outcome_perform]
  rfl

theorem outcome_perform_remote [Outside T σ] (ctx : Context T) (op : Operation) (label : String)
    (s : RemoteStore T) (w : World T σ) :
    (op.perform ctx).outcome (.remote label s, w) =
      (((op.onRemote ctx).outcome (s, w)).1, .remote label ((op.onRemote ctx).outcome (s, w)).2.1,
        ((op.onRemote ctx).outcome (s, w)).2.2) := by
  rw [outcome_perform]
  rfl

end Operation

end SecretVault
