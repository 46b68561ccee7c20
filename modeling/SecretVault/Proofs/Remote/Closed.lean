import Mathlib.Data.List.Nodup
import SecretVault.Proofs.Limits
import SecretVault.Proofs.Remote.Ledger

/-!
Closing is final. A closed store keeps its credentials but has no client, and without a client it
never looks at them again: operations say that it is closed, a look at its client finds none, and
another closing has nothing to close. So the clients that it held are closed once and for all.
-/

namespace SecretVault

open SecretVault.Action World

def Call.isProbe {T : Type} : Call T → Bool
  | .probe _ _ _ => true
  | _ => false

namespace RemoteStore

variable {T σ : Type} [Seconds T] [Outside T σ]

variable {s s' : RemoteStore T} {w w' : World T σ}

/-! ## Without a client -/

theorem freshClient_closed (closed : s.client = none) (w : World T σ) :
    freshClient.outcome (s, w) = (.ok none, s, w) := by
  have kept : s.isStale w.wall = .ok false := by simp [isStale, closed]
  have access := (Accessed.kept kept).outcome
  rw [closed] at access
  exact access

theorem clientFor_closed {ctx : Context T} {limits? : Option (Limits T)}
    (closed : s.client = none)
    (limits : s.options.limits.for? (ctx.remaining w.moment) = .ok limits?)
    (operation name : String) :
    (clientFor ctx operation name).outcome (s, w) =
      (.error (.plain (.store (.unknown operation name (.text "store is closed") "aws"))), s, w) :=
  (Picked.closed (freshClient_closed closed w) limits closed).outcome

theorem Picked.of_closed {ctx : Context T} {operation name : String}
    {result : Except Raised Client} (closed : s.client = none)
    (h : Picked ctx operation name s w result s' w') :
    (s', w') = (s, w) ∧ ∃ raised, result = .error raised := by
  -- every case begins with a look at the client, which leaves the store without one
  have unchanged {fresh : Except Raised (Option Client)} {s₁ : RemoteStore T} {w₁ : World T σ}
      (looked : freshClient.outcome (s, w) = (fresh, s₁, w₁)) :
      fresh = .ok none ∧ (s₁, w₁) = (s, w) := by
    rw [freshClient_closed closed w] at looked
    cases looked
    exact ⟨rfl, rfl⟩
  have clientless {fresh : Except Raised (Option Client)} {s₁ : RemoteStore T} {w₁ : World T σ}
      {c : Client} (looked : freshClient.outcome (s, w) = (fresh, s₁, w₁)) :
      s₁.client ≠ some c := by
    obtain ⟨-, rfl, rfl⟩ := unchanged looked
    rw [closed]
    exact nofun
  cases h with
  | refused looked => cases (unchanged looked).1
  | noLimits looked => exact ⟨(unchanged looked).2, _, rfl⟩
  | closed looked => exact ⟨(unchanged looked).2, _, rfl⟩
  | configured looked _ client => exact absurd client (clientless looked)
  | cached looked _ client => exact absurd client (clientless looked)
  | unbuilt looked _ client => exact absurd client (clientless looked)
  | built looked _ client => exact absurd client (clientless looked)

theorem Operated.of_closed {ctx : Context T} {op : Operation} (closed : s.client = none)
    (h : Operated ctx op s w s' w') : (s', w') = (s, w) := by
  cases h with
  | late => rfl
  | refused _ picked => exact (picked.of_closed closed).1
  | served _ picked _ =>
      obtain ⟨-, raised, hraised⟩ := picked.of_closed closed
      cases hraised

/-- An operation on a closed store makes no call and changes nothing, whatever its context. -/
theorem onRemote_closed (ctx : Context T) (op : Operation) (closed : s.client = none)
    (w : World T σ) : ((op.onRemote ctx).outcome (s, w)).2 = (s, w) :=
  (operated_onRemote ctx op s w).of_closed closed

theorem onRemote_reports_closed {ctx : Context T} {limits? : Option (Limits T)} (op : Operation)
    (closed : s.client = none) (alive : ctx.err w.moment = none)
    (limits : s.options.limits.for? (ctx.remaining w.moment) = .ok limits?) :
    (op.onRemote ctx).outcome (s, w) =
      (.error (.plain (.store (.unknown op.label op.subject (.text "store is closed") "aws"))),
        s, w) := by
  rw [Operation.outcome_onRemote, alive, Operation.work_eq_serve, outcome_bind,
    clientFor_closed closed limits]
  dsimp only
  rw [reported_of_not_vendor (by rintro e ⟨⟩)]

theorem close_closed (closed : s.client = none) (w : World T σ) :
    close.outcome (s, w) = (.ok (), s.cleared, w) := by
  obtain ⟨result, after, houtcome, idle, -⟩ := closed_close s w
  obtain ⟨rfl, rfl⟩ := idle closed
  exact houtcome

/-! ## After the first closing -/

/-- An event leaves a closed store as it is, and of all events only a look at its state makes a
call. -/
theorem after_cleared (s : RemoteStore T) (w : World T σ) (event : Event T σ) :
    (after (s.cleared, w) event).1 = s.cleared ∧
      Logs (fun e => e.call.isProbe = true) w (after (s.cleared, w) event).2 := by
  cases event with
  | operate ctx op =>
      rw [after, onRemote_closed ctx op rfl w]
      exact ⟨rfl, .refl w⟩
  | look ctx =>
      have sent : Sending (fun call : Call T => call.isProbe = true) (s.cleared, w)
          (after (s.cleared, w) (.look ctx)) :=
        sending_probing (fun _ _ _ => rfl) ctx (s.cleared, w)
      exact ⟨sent.store_eq, sent.passes.logs⟩
  | access =>
      rw [after, freshClient_closed rfl w]
      exact ⟨rfl, .refl w⟩
  | close =>
      rw [after, close_closed rfl w]
      exact ⟨rfl, .refl w⟩
  | meanwhile moment host outside => exact ⟨rfl, [], by simp [after], by simp⟩

theorem foldl_cleared (s : RemoteStore T) (w : World T σ) (later : List (Event T σ)) :
    (later.foldl after (s.cleared, w)).1 = s.cleared ∧
      Logs (fun e => e.call.isProbe = true) w (later.foldl after (s.cleared, w)).2 := by
  induction later generalizing w with
  | nil => exact ⟨rfl, .refl w⟩
  | cons event later ih =>
      obtain ⟨hstore, hlogs⟩ := after_cleared s w event
      rcases hnext : after (s.cleared, w) event with ⟨s₁, w₁⟩
      rw [hnext] at hstore hlogs
      obtain rfl : s₁ = s.cleared := hstore
      obtain ⟨hstore', hlogs'⟩ := ih w₁
      rw [List.foldl_cons, hnext]
      exact ⟨hstore', hlogs.trans hlogs'⟩

def afterClosing (st : RemoteStore T × World T σ) (later : List (Event T σ)) :
    RemoteStore T × World T σ :=
  later.foldl after (after st .close)

/-- The store is what the closing left of it, and nothing but probes has been sent since. -/
theorem silent_afterClosing (st : RemoteStore T × World T σ) (later : List (Event T σ)) :
    (afterClosing st later).1 = st.1.cleared ∧
      Logs (fun e => e.call.isProbe = true) (after st .close).2 (afterClosing st later).2 := by
  obtain ⟨result, w₁, hclose, -⟩ := closed_close st.1 st.2
  have first : after st .close = (st.1.cleared, w₁) := by rw [after, hclose]
  rw [afterClosing, first]
  exact foldl_cleared st.1 w₁ later

/-! ## Clients that are closed once -/

/-- A store at its beginning: it was connected, or it was made with a client that was built before,
or with none. -/
inductive Begins (w₀ : World T σ) : RemoteStore T × World T σ → Prop where
  | connected {ctx : Context T} {options : Options T} {resolver : Resolver} {s : RemoteStore T}
      {w : World T σ} (h : (connect ctx options resolver).outcome w₀ = (.ok s, w)) :
      Begins w₀ (s, w)
  | given (options : Options T) (resolver : Resolver) (client : Option Client)
      (numbered : ∀ c ∈ client, c.id ≤ w₀.clients) :
      Begins w₀ ({ unconnected options resolver with client := client }, w₀)

def priorEntry (moment : Moment T) (limits : Limits T) (c : Client) : Logged T :=
  ⟨.client 0 c.id none limits, moment, true⟩

theorem Begins.sound {w₀ : World T σ} {start : RemoteStore T × World T σ}
    (begun : Begins w₀ start) :
    ∃ prior calls, start.2.log = w₀.log ++ calls ∧ Log.closed prior = [] ∧
      Sound (prior ++ calls) start.1 start.2 := by
  cases begun with
  | connected h =>
      obtain ⟨calls, hlog, sound⟩ := (connected_connect h).sound
      exact ⟨[], calls, hlog, rfl, sound⟩
  | given options resolver client numbered =>
      cases client with
      | none =>
          exact ⟨[], [], by simp, rfl, ⟨.nil, nofun, List.nodup_nil, nofun⟩, nofun, fun _ => rfl⟩
      | some c =>
          have builds : (priorEntry w₀.moment options.limits c).builds = some c.id := rfl
          have bound : c.id ≤ w₀.clients := numbered c rfl
          refine ⟨[priorEntry w₀.moment options.limits c], [], by simp, rfl, ⟨?_, ?_, ?_, ?_⟩,
            nofun, fun _ => rfl⟩
          · exact Log.Proper.nil.snoc (fun _ _ => List.not_mem_nil) nofun nofun
          · intro id hid
            obtain rfl : id = c.id := by simpa [heldIds, held, unconnected] using hid
            exact ⟨by simp [Log.built, builds], List.not_mem_nil⟩
          · simp [heldIds, held, unconnected]
          · intro id hid
            obtain rfl : id = c.id := by simpa [Log.built, builds] using hid
            exact bound

theorem Begins.sound_run {w₀ : World T σ} {start st : RemoteStore T × World T σ}
    (begun : Begins w₀ start) (run : Reaches (fun _ _ => True) start st) :
    ∃ prior calls, st.2.log = w₀.log ++ calls ∧ Log.closed prior = [] ∧
      Sound (prior ++ calls) st.1 st.2 := by
  obtain ⟨prior, calls, hlog, hprior, sound⟩ := begun.sound
  obtain ⟨more, hmore, sound'⟩ := run.sound sound
  refine ⟨prior, calls ++ more, by rw [hmore, hlog, List.append_assoc], hprior, ?_⟩
  rw [← List.append_assoc]
  exact sound'

theorem closed_of_close (idle : s.client = none → s.bounded = [])
    (h : (close.outcome (s, w)).1 = .ok ()) :
    ∃ closings, (after (s, w) .close).2.log = w.log ++ closings ∧
      Log.closed closings = (s.held.filter (·.closable)).map (·.id) := by
  obtain ⟨result, last, houtcome, hidle, hopen⟩ := closed_close s w
  rw [houtcome] at h
  obtain rfl : result = .ok () := h
  rw [after, houtcome]
  by_cases hclient : s.client = none
  · obtain ⟨-, rfl⟩ := hidle hclient
    have nothing : s.held = [] := by simp [held, hclient, idle hclient]
    exact ⟨[], by simp, by rw [nothing]; rfl⟩
  · obtain ⟨closings, done, hlog, -, hcalls, hall⟩ := (hopen hclient).log_eq
    refine ⟨closings, hlog, ?_⟩
    rw [Log.closed_of_map (closes_of_calls hcalls), hall rfl]

/-! ## Closed for good -/

/-- No client is closed twice in a run, and none of those closed by a closing that succeeds was
closed before or is closed again. -/
theorem Begins.closed_once {w₀ : World T σ} {start st : RemoteStore T × World T σ}
    (begun : Begins w₀ start) (run : Reaches (fun _ _ => True) start st)
    (later : List (Event T σ)) :
    ∃ calls, (afterClosing st later).2.log = w₀.log ++ calls ∧ (Log.closed calls).Nodup ∧
      ((close.outcome st).1 = .ok () →
        ∀ c ∈ st.1.held, c.closable = true → (Log.closed calls).count c.id = 1) := by
  have closed_run : Reaches (fun _ _ => True) start (afterClosing st later) :=
    (run.step .close trivial).foldl later
  obtain ⟨prior, calls, hcalls, hprior, sound⟩ := begun.sound_run closed_run
  have nodup : (Log.closed calls).Nodup := by
    have := sound.books.proper.closed_nodup
    rwa [Log.closed_append, hprior, List.nil_append] at this
  refine ⟨calls, hcalls, nodup, ?_⟩
  intro succeeded c held closable
  obtain ⟨_, before, hbefore, -, sound_before⟩ := begun.sound_run run
  obtain ⟨closings, hclosings, closed_eq⟩ := closed_of_close sound_before.idle succeeded
  obtain ⟨-, probes, hprobes, -⟩ := silent_afterClosing st later
  have calls_eq : calls = before ++ closings ++ probes := by
    refine @List.append_cancel_left _ w₀.log _ _ ?_
    rw [← hcalls, hprobes, hclosings, hbefore]
    simp only [List.append_assoc]
  have member : c.id ∈ Log.closed closings := by
    rw [closed_eq]
    exact List.mem_map_of_mem (List.mem_filter.mpr ⟨held, closable⟩)
  refine List.count_eq_one_of_mem nodup ?_
  rw [calls_eq, Log.closed_append, Log.closed_append]
  exact List.mem_append_left _ (List.mem_append_right _ member)

structure ClosedForGood (w₀ : World T σ) (st : RemoteStore T × World T σ)
    (later : List (Event T σ)) : Prop where
  store_eq : (afterClosing st later).1 = st.1.cleared
  /-- No operation changes anything, outside or inside, whatever its context. -/
  operation : ∀ (ctx : Context T) (op : Operation),
    ((op.onRemote ctx).outcome (afterClosing st later)).2 = afterClosing st later
  /-- If its context is not done, and limits for the time left can be computed, an operation says
  that the store is closed. -/
  reported : ∀ (ctx : Context T) (op : Operation),
    ctx.err (afterClosing st later).2.moment = none →
      (∃ limits?, st.1.options.limits.for? (ctx.remaining (afterClosing st later).2.moment) =
        .ok limits?) →
      ((op.onRemote ctx).outcome (afterClosing st later)).1 =
        .error (.plain (.store (.unknown op.label op.subject (.text "store is closed") "aws")))
  access : freshClient.outcome (afterClosing st later) = (.ok none, afterClosing st later)
  closing : close.outcome (afterClosing st later) = (.ok (), afterClosing st later)
  silent : Logs (fun e => e.call.isProbe = true) (after st .close).2 (afterClosing st later).2
  /-- No client has ever been closed twice. If the closing succeeded, each client that was held then
  and can be closed has been closed once. -/
  once : ∃ calls, (afterClosing st later).2.log = w₀.log ++ calls ∧ (Log.closed calls).Nodup ∧
    ((close.outcome st).1 = .ok () →
      ∀ c ∈ st.1.held, c.closable = true → (Log.closed calls).count c.id = 1)

/-- In every run of a store, closing it is final. -/
theorem closed_for_good {w₀ : World T σ} {start st : RemoteStore T × World T σ}
    (begun : Begins w₀ start) (run : Reaches (fun _ _ => True) start st)
    (later : List (Event T σ)) : ClosedForGood w₀ st later := by
  obtain ⟨store_eq, silent⟩ := silent_afterClosing st later
  have last_eq : afterClosing st later = (st.1.cleared, (afterClosing st later).2) :=
    Prod.ext store_eq rfl
  refine ⟨store_eq, ?_, ?_, ?_, ?_, silent, begun.closed_once run later⟩
  · intro ctx op
    rw [last_eq]
    exact onRemote_closed ctx op rfl _
  · rintro ctx op alive ⟨limits?, limits⟩
    rw [last_eq, onRemote_reports_closed (s := st.1.cleared) op rfl alive limits]
  · rw [last_eq]
    exact freshClient_closed rfl _
  · rw [last_eq]
    exact close_closed rfl _

/-- A store that has read once, and is closed and then, an hour later, closed again. -/
theorem usedStore_closed_for_good :
    Begins .firstHour (opened ⟨0, [], none⟩ (.ofRegion "us-east-1") .foreign .firstHour) ∧
      Reaches (fun _ _ => True)
        (opened ⟨0, [], none⟩ (.ofRegion "us-east-1") .foreign .firstHour) usedStore ∧
      ClosedForGood .firstHour usedStore [anHour, .close] ∧
      Log.closed (afterClosing usedStore [anHour, .close]).2.log = [1, 2] ∧
      (((Operation.list "p" 5 "").onRemote ⟨1, [], some 3610⟩).outcome
          (afterClosing usedStore [anHour, .close])).1 =
        .error (.plain (.store (.unknown "list" "p" (.text "store is closed") "aws"))) := by
  have connects : ((connect ⟨0, [], none⟩ (.ofRegion "us-east-1") .foreign).outcome
      World.firstHour).1.isOk = true := by
    decide +kernel
  have begun := Begins.connected (connect_opened connects)
  have run : Reaches (fun _ _ => True)
      (opened ⟨0, [], none⟩ (.ofRegion "us-east-1") .foreign .firstHour) usedStore :=
    .step (.operate ⟨1, [], some 10⟩ (.read "k")) .start trivial
  have final := closed_for_good begun run [anHour, .close]
  refine ⟨begun, run, final, by decide +kernel, ?_⟩
  exact final.reported ⟨1, [], some 3610⟩ (.list "p" 5 "") (by decide +kernel)
    (Limits.for?_positive (by decide +kernel) (by decide +kernel) _)

/-- A client that a store is made with, and that has no way to be closed, is held at the first
closing and never closed. -/
theorem unclosable_never_closed :
    ∃ (w₀ : World Rat (Rehearsal Rat)) (s : RemoteStore Rat), Begins w₀ (s, w₀) ∧
      (close.outcome (s, w₀)).1 = .ok () ∧
      ∃ c ∈ s.held, (Log.closed (afterClosing (s, w₀) [.close]).2.log).count c.id ≠ 1 := by
  let client : Client := ⟨0, false⟩
  let s : RemoteStore Rat := { unconnected (.ofRegion "us-east-1") .foreign with
    client := some client }
  have begun : Begins .firstHour (s, .firstHour) := by
    refine .given (.ofRegion "us-east-1") .foreign (some client) ?_
    rintro c ⟨⟩
    exact Nat.le_refl 0
  exact ⟨.firstHour, s, begun, ok_of_toOption (by decide +kernel), client, by decide +kernel,
    by decide +kernel⟩

end RemoteStore

end SecretVault
