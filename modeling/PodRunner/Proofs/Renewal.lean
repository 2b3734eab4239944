import PodRunner.Proofs.History

/-!
# Sessions that begin anew

No operation reads the log, or looks back at calls and sleeps. A call only counts the earlier ones to find its
reply. So a session can be cut at any place: what happens after it is what happens in a session that begins there,
with the same time on its clock and the replies that are left.

`s.after past` is the session `s` with another one before it. What is said about `after` is said first about the
orchestrator, then about one function after the other up to whole runs.
-/

namespace PodRunner

/-! ### Orchestrators -/

namespace Orchestrator

variable {α : Type}

def rest (past : Orchestrator) (script : Script) : Script where
  creations k := script.creations (past.created + k)
  queries k := script.queries (past.queried + k)
  deletions k := script.deletions (past.deleted + k)

def left (past : Orchestrator) : Backend → Backend
  | .scripted script => .scripted (past.rest script)
  | .kubernetes => .kubernetes

/-- An orchestrator that has not been called, with the replies that are left. -/
def renewed (past : Orchestrator) : Orchestrator where
  backend := past.left past.backend
  responses k := past.responses (past.exchanges.length + k)
  calls := []
  exchanges := []

def after (o past : Orchestrator) : Orchestrator where
  backend := past.backend
  responses := past.responses
  calls := past.calls ++ o.calls
  exchanges := past.exchanges ++ o.exchanges

/-- The orchestrator replies with what the other one has left. -/
structure Inherits (o past : Orchestrator) : Prop where
  backend_eq : o.backend = past.left past.backend
  responses_eq : ∀ k, o.responses k = past.responses (past.exchanges.length + k)

variable {o past : Orchestrator}

theorem Inherits.exchange (h : o.Inherits past) (request : Except Kubernetes.ApiError Kubernetes.Request)
    (read : Kubernetes.Response → Except Kubernetes.ApiError α) :
    (o.after past).exchange request read =
        ((o.exchange request read).1, (o.exchange request read).2.after past) ∧
      (o.exchange request read).2.Inherits past := by
  cases request with
  | error e => exact ⟨rfl, h⟩
  | ok request =>
    have hreply : past.responses (past.exchanges ++ o.exchanges).length = o.responses o.exchanges.length := by
      rw [List.length_append, h.responses_eq]
    refine ⟨?_, h.backend_eq, h.responses_eq⟩
    simp only [Orchestrator.exchange, after, hreply, List.append_assoc]

theorem after_remember (o past : Orchestrator) (call : Call) :
    (o.after past).remember call = (o.remember call).after past := by
  simp only [remember, after, List.append_assoc]

/-- What all calls have in common: a script is read where earlier calls of the same kind have left it, the API is
sent a request, and the call is remembered with its reply. -/
private def calling {β : Type} (o : Orchestrator) (kind : Call → Bool) (pick : Script → Nat → Reply α)
    (request : Except Kubernetes.ApiError Kubernetes.Request)
    (read : Kubernetes.Response → Except Kubernetes.ApiError β) (shape : Reply β → Reply α)
    (entry : Reply α → Call) : Reply α × Orchestrator :=
  match o.backend with
  | .scripted script =>
    let reply := pick script (o.calls.countP kind)
    (reply, o.remember (entry reply))
  | .kubernetes =>
    let sent := o.exchange request read
    (shape sent.1, sent.2.remember (entry (shape sent.1)))

private theorem Inherits.calling {β : Type} (h : o.Inherits past) {kind : Call → Bool}
    {pick : Script → Nat → Reply α}
    (hpick : ∀ script k, pick (past.rest script) k = pick script (past.calls.countP kind + k))
    (request : Except Kubernetes.ApiError Kubernetes.Request)
    (read : Kubernetes.Response → Except Kubernetes.ApiError β) (shape : Reply β → Reply α)
    (entry : Reply α → Call) :
    (o.after past).calling kind pick request read shape entry =
        ((o.calling kind pick request read shape entry).1,
          (o.calling kind pick request read shape entry).2.after past) ∧
      (o.calling kind pick request read shape entry).2.Inherits past := by
  have hbackend := h.backend_eq
  cases hpast : past.backend with
  | scripted script =>
    have hafter : (o.after past).backend = .scripted script := hpast
    have hcount : (o.after past).calls.countP kind = past.calls.countP kind + o.calls.countP kind :=
      List.countP_append
    rw [hpast] at hbackend
    refine ⟨?_, ?_⟩
    · simp only [Orchestrator.calling, hafter, hbackend, left, hcount, hpick, after_remember]
    · simp only [Orchestrator.calling, hbackend, left]
      exact ⟨h.backend_eq, h.responses_eq⟩
  | kubernetes =>
    have hafter : (o.after past).backend = .kubernetes := hpast
    rw [hpast] at hbackend
    obtain ⟨hsent, hkept⟩ := h.exchange request read
    refine ⟨?_, ?_⟩
    · simp only [Orchestrator.calling, hafter, hbackend, left, hsent, after_remember]
    · simp only [Orchestrator.calling, hbackend, left]
      exact ⟨hkept.backend_eq, hkept.responses_eq⟩

theorem Inherits.create (h : o.Inherits past) (ns : String) (pod : Pod) :
    (o.after past).create ns pod = ((o.create ns pod).1, (o.create ns pod).2.after past) ∧
      (o.create ns pod).2.Inherits past := by
  have hcreate : ∀ p : Orchestrator, p.create ns pod =
      p.calling Call.isCreate Script.creations (Kubernetes.Request.createPod ns pod) (·.pod)
        (·.bind (·.instance? ns)) (.create ns pod) := by
    intro p
    rw [Orchestrator.create, Orchestrator.calling]
    cases p.backend <;> rfl
  rw [hcreate, hcreate]
  exact h.calling (fun _ _ => rfl) _ _ _ _

theorem Inherits.query (h : o.Inherits past) (name ns : String) (asked : Time) :
    (o.after past).query name ns asked = ((o.query name ns asked).1, (o.query name ns asked).2.after past) ∧
      (o.query name ns asked).2.Inherits past := by
  have hquery : ∀ p : Orchestrator, p.query name ns asked =
      p.calling Call.isGet Script.queries (Kubernetes.Request.getPod name ns) (·.pod)
        (·.bind fun pod => .ok pod.instanceStatus) (.get name ns asked) := by
    intro p
    rw [Orchestrator.query, Orchestrator.calling]
    cases p.backend <;> rfl
  rw [hquery, hquery]
  exact h.calling (fun _ _ => rfl) _ _ _ _

theorem Inherits.delete (h : o.Inherits past) (name ns : String) :
    (o.after past).delete name ns = ((o.delete name ns).1, (o.delete name ns).2.after past) ∧
      (o.delete name ns).2.Inherits past := by
  have hdelete : ∀ p : Orchestrator, p.delete name ns =
      p.calling Call.isDelete Script.deletions (Kubernetes.Request.deletePod name ns) (·.deletion) id
        (.delete name ns) := by
    intro p
    rw [Orchestrator.delete, Orchestrator.calling]
    cases p.backend <;> rfl
  rw [hdelete, hdelete]
  exact h.calling (fun _ _ => rfl) _ _ _ _

/-- Nothing is left out: the replies that are left follow on those that were given. -/
theorem renewed_inherits (past : Orchestrator) : past.renewed.Inherits past := ⟨rfl, fun _ => rfl⟩

theorem renewed_after (past : Orchestrator) : past.renewed.after past = past := by
  simp only [renewed, after, List.append_nil]

theorem Inherits.isKubernetes_eq (h : o.Inherits past) : o.isKubernetes = past.isKubernetes := by
  rw [isKubernetes, isKubernetes, h.backend_eq]
  cases past.backend <;> rfl

end Orchestrator

/-! ### Sessions -/

namespace Session

variable {α β : Type} {past : Session Orchestrator}

def renewed (s : Session Orchestrator) : Session Orchestrator := .starting s.clock.now s.remote.renewed

def after (s past : Session Orchestrator) : Session Orchestrator where
  clock := ⟨s.clock.now, past.clock.sleeps ++ s.clock.sleeps⟩
  events := past.events ++ s.events
  remote := s.remote.after past.remote

theorem renewed_after (s : Session Orchestrator) : s.renewed.after s = s := by
  simp only [renewed, after, starting, Clock.startingAt, Orchestrator.renewed_after, List.append_nil]

def Forgets (past : Session Orchestrator) (f : Session Orchestrator → α × Session Orchestrator) : Prop :=
  ∀ s : Session Orchestrator, s.remote.Inherits past.remote →
    f (s.after past) = ((f s).1, (f s).2.after past) ∧ (f s).2.remote.Inherits past.remote

theorem Forgets.step {f : Session Orchestrator → α × Session Orchestrator} (h : Forgets past f)
    {s : Session Orchestrator} (hs : s.remote.Inherits past.remote) :
    ∃ a next, f s = (a, next) ∧ f (s.after past) = (a, next.after past) ∧ next.remote.Inherits past.remote :=
  ⟨(f s).1, (f s).2, rfl, (h s hs).1, (h s hs).2⟩

theorem log_after (s past : Session Orchestrator) (event : Event) :
    (s.after past).log event = (s.log event).after past := by
  simp only [log, after, List.append_assoc]

theorem Forgets.bind {f : Session Orchestrator → α × Session Orchestrator}
    {g : α → Session Orchestrator → β × Session Orchestrator} (hf : Forgets past f)
    (hg : ∀ a, Forgets past (g a)) : Forgets past fun s => g (f s).1 (f s).2 := by
  intro s hs
  obtain ⟨hfirst, hkept⟩ := hf s hs
  obtain ⟨hsecond, hlast⟩ := hg (f s).1 (f s).2 hkept
  refine ⟨?_, hlast⟩
  dsimp only
  rw [hfirst]
  exact hsecond

theorem Forgets.traced {body : Session Orchestrator → α × Session Orchestrator} (h : Forgets past body)
    (function : Traced) : Forgets past fun s => s.traced function body := by
  intro s hs
  obtain ⟨hbody, hkept⟩ := h (s.log (.entered function)) hs
  refine ⟨?_, hkept⟩
  simp only [Session.traced, log_after, hbody]

theorem forgets_advance (d : Duration) : Forgets past fun s => s.advance d := by
  intro s hs
  refine ⟨?_, hs⟩
  simp only [advance, Clock.advance, after]
  cases s.clock.now.later? (Clock.move d) <;> rfl

theorem forgets_sleep (d : Duration) : Forgets past fun s => s.sleep d := by
  intro s hs
  refine ⟨?_, hs⟩
  simp only [sleep, Clock.sleep, Clock.advance, Clock.record, after]
  cases s.clock.now.later? (Clock.move d) <;> simp only [List.append_assoc]

theorem forgets_receive (reply : Reply α) : Forgets past fun s => s.receive reply := by
  intro s hs
  obtain ⟨result, next, htaken, hadvanced, hkept⟩ := (forgets_advance reply.advance).step hs
  simp only [receive, hadvanced, htaken]
  cases result <;> exact ⟨rfl, hkept⟩

theorem forgets_queryInstance (name ns : String) : Forgets past fun s => s.queryInstance name ns := by
  intro s hs
  obtain ⟨hquery, hkept⟩ := hs.query name ns s.clock.now
  refine ⟨?_, hkept⟩
  simp only [queryInstance, after, hquery]

private theorem forgets_taken (function : Traced) (call : Orchestrator → Reply α × Orchestrator)
    (hcall : ∀ o : Orchestrator, o.Inherits past.remote →
      call (o.after past.remote) = ((call o).1, (call o).2.after past.remote) ∧
        (call o).2.Inherits past.remote)
    {taken : Session Orchestrator → Outcome α × Session Orchestrator}
    (htaken : ∀ s, taken s =
      if s.remote.isKubernetes then
        s.traced function fun s => { s with remote := (call s.remote).2 }.receive (call s.remote).1
      else { s with remote := (call s.remote).2 }.receive (call s.remote).1) : Forgets past taken := by
  have hplain : Forgets past fun s : Session Orchestrator =>
      { s with remote := (call s.remote).2 }.receive (call s.remote).1 := by
    intro s hs
    obtain ⟨hmade, hkept⟩ := hcall s.remote hs
    have hreceived := forgets_receive (call s.remote).1 { s with remote := (call s.remote).2 } hkept
    dsimp only [after] at hmade hreceived ⊢
    rw [hmade]
    exact hreceived
  intro s hs
  have hsame : (s.after past).remote.isKubernetes = s.remote.isKubernetes := hs.isKubernetes_eq.symm
  rw [htaken, htaken, hsame]
  by_cases hkubernetes : s.remote.isKubernetes
  · rw [if_pos hkubernetes, if_pos hkubernetes]
    exact hplain.traced function s hs
  · rw [if_neg hkubernetes, if_neg hkubernetes]
    exact hplain s hs

theorem forgets_createInstance (ns : String) (pod : Pod) : Forgets past fun s => s.createInstance ns pod :=
  forgets_taken .createInstance (fun o => o.create ns pod) (fun _ ho => ho.create ns pod) fun _ => rfl

theorem forgets_deleteInstance (name ns : String) : Forgets past fun s => s.deleteInstance name ns :=
  forgets_taken .deleteInstance (fun o => o.delete name ns) (fun _ ho => ho.delete name ns) fun _ => rfl

end Session

/-! ### Operations -/

namespace Retry

variable {α π : Type} (next : π → Except Fault (Duration × π)) (name : String) (attempts : Nat)
  {past : Session Orchestrator}

theorem forgets_pause (attempt : Nat) (error : Error) (pace : π) :
    past.Forgets fun s => pause next name attempts attempt error pace s := by
  intro s hs
  dsimp only [pause]
  cases next pace with
  | error fault => exact ⟨rfl, hs⟩
  | ok drawn =>
    obtain ⟨delay, later⟩ := drawn
    have hlogged : (s.log (.retrying name attempt attempts delay error)).remote.Inherits past.remote := hs
    obtain ⟨result, slept, hsleep, hslept, hkept⟩ := (Session.forgets_sleep delay).step hlogged
    dsimp only
    rw [Session.log_after, hsleep, hslept]
    cases result <;> exact ⟨rfl, hkept⟩

theorem forgets_attemptFrom {operation : Session Orchestrator → Outcome α × Session Orchestrator}
    (hoperation : past.Forgets operation) (pauses attempt : Nat) (pace : π) :
    past.Forgets fun s => attemptFrom next name attempts operation pauses attempt pace s := by
  induction pauses generalizing attempt pace with
  | zero =>
    intro s hs
    obtain ⟨outcome, tried, htry, htried, hkept⟩ := hoperation.step hs
    dsimp only [attemptFrom]
    rw [htry, htried]
    cases outcome with
    | failed error =>
      dsimp only
      rw [Session.log_after]
      exact ⟨rfl, hkept⟩
    | _ => exact ⟨rfl, hkept⟩
  | succ pauses ih =>
    intro s hs
    obtain ⟨outcome, tried, htry, htried, hkept⟩ := hoperation.step hs
    dsimp only [attemptFrom]
    rw [htry, htried]
    cases outcome with
    | done value => exact ⟨rfl, hkept⟩
    | broken fault => exact ⟨rfl, hkept⟩
    | failed error =>
      obtain ⟨result, paused, hpause, hpaused, hlast⟩ :=
        (forgets_pause next name attempts attempt error pace).step hkept
      dsimp only
      rw [hpause, hpaused]
      cases result with
      | error fault => exact ⟨rfl, hlast⟩
      | ok later => exact ih (attempt + 1) later paused hlast

end Retry

namespace Runner

variable {past : Session Orchestrator}

theorem forgets_deleteOnce (ns name : String) : past.Forgets (deleteOnce ns name) := by
  intro s hs
  have hlogged : (s.log (.deleting ns name)).remote.Inherits past.remote := hs
  obtain ⟨outcome, deleted, hdelete, hdeleted, hkept⟩ :=
    (Session.forgets_deleteInstance name ns).step hlogged
  rw [deleteOnce, deleteOnce, Session.log_after, hdelete, hdeleted]
  cases outcome with
  | done value => exact ⟨rfl, hkept⟩
  | broken fault => exact ⟨rfl, hkept⟩
  | failed error =>
    cases error with
    | notFound what => exact ⟨by dsimp only; rw [Session.log_after], hkept⟩
    | _ => exact ⟨rfl, hkept⟩

theorem forgets_cleanUp (r : Runner) (name : String) : past.Forgets (r.cleanUp name) := by
  intro s hs
  obtain ⟨outcome, tried, htry, htried, hkept⟩ := (Retry.forgets_attemptFrom Backoff.Pace.next deletion
    r.cleanup.attempts.toNat (forgets_deleteOnce r.ns name) r.cleanup.pauses 1 r.cleanup.pace).step hs
  rw [cleanUp, cleanUp, Retry.run, Retry.run, htry, htried]
  cases outcome with
  | failed e =>
    dsimp only
    rw [Session.log_after]
    exact ⟨rfl, hkept⟩
  | _ => exact ⟨rfl, hkept⟩

theorem forgets_stop (r : Runner) : past.Forgets r.stop := by
  have hdispose : past.Forgets r.dispose := by
    intro s hs
    dsimp only [dispose]
    cases r.instanceName with
    | none => exact ⟨by rw [Session.log_after], hs⟩
    | some name => exact forgets_cleanUp r name s hs
  exact (hdispose.bind (g := fun outcome s => ((outcome, r.halted), s)) fun _ _ hs => ⟨rfl, hs⟩).traced .stop

theorem forgets_start (r : Runner) : past.Forgets r.start := by
  have hsubmit : past.Forgets r.submit := by
    intro s hs
    dsimp only [submit]
    split
    · exact ⟨rfl, hs⟩
    · cases Manifest.build r.workload r.owner with
      | error e => exact ⟨rfl, hs⟩
      | ok pod =>
        obtain ⟨outcome, next, hcreate, hcreated, hkept⟩ := (Session.forgets_createInstance r.ns pod).step hs
        dsimp only
        rw [hcreate, hcreated]
        cases outcome with
        | done server =>
          dsimp only
          rw [Session.log_after]
          exact ⟨rfl, hkept⟩
        | _ => exact ⟨rfl, hkept⟩
  exact hsubmit.traced .start

theorem forgets_poll (r : Runner) (name : String) : past.Forgets (r.poll name) := by
  intro s hs
  obtain ⟨reply, asked, hquery, hasked, hkept⟩ := (Session.forgets_queryInstance name r.ns).step hs
  obtain ⟨result, polled, hadvance, htaken, hlast⟩ := (Session.forgets_advance (r.passing reply)).step hkept
  cases result with
  | ok =>
    rw [poll_ok hasked htaken, poll_ok hquery hadvance, Session.log_after]
    exact ⟨rfl, hlast⟩
  | error fault =>
    rw [poll_error hasked htaken, poll_error hquery hadvance]
    exact ⟨rfl, hlast⟩

theorem rested_after (r : Runner) (deadline : Time) (s past : Session Orchestrator) :
    r.rested deadline (s.after past) = (r.rested deadline s).after past := by
  simp only [rested, Session.after, List.append_assoc]

theorem forgets_pollUntil (r : Runner) (name : String) (deadline : Time) :
    past.Forgets (r.pollUntil name deadline) := by
  intro s hs
  induction s using pollUntil_rounds r name deadline with
  | past s hpast =>
    rw [pollUntil_past hpast, pollUntil_past (s := s.after past) hpast]
    exact ⟨rfl, hs⟩
  | ended s ended polled hbefore hpoll =>
    obtain ⟨hasked, hkept⟩ := forgets_poll r name s hs
    rw [hpoll] at hasked hkept
    rw [pollUntil_ended hbefore hpoll, pollUntil_ended (s := s.after past) hbefore hasked]
    exact ⟨rfl, hkept⟩
  | next s polled hbefore hpoll ih =>
    obtain ⟨hasked, hkept⟩ := forgets_poll r name s hs
    rw [hpoll] at hasked hkept
    rw [pollUntil_next hbefore hpoll, pollUntil_next (s := s.after past) hbefore hasked, rested_after]
    exact ih hkept

theorem forgets_waitUntilRunning (r : Runner) (deadline : Time) :
    past.Forgets (r.waitUntilRunning deadline) := by
  have hawait : past.Forgets (r.await deadline) := by
    intro s hs
    unfold await
    split
    · exact ⟨rfl, hs⟩
    · exact ⟨rfl, hs⟩
    · exact forgets_pollUntil r _ deadline s hs
    · exact forgets_pollUntil r _ deadline s hs
    · exact ⟨rfl, hs⟩
  exact hawait.traced .waitUntilRunning

theorem forgets_perform (r : Runner) (operation : Operation) :
    past.Forgets fun s => r.perform s operation := by
  have hanswered : ∀ {β : Type} (answer : β → Answer) {body : Session Orchestrator →
      (Outcome β × Runner) × Session Orchestrator}, past.Forgets body →
        past.Forgets fun s => (((body s).1.1.map answer, (body s).1.2), (body s).2) :=
    fun answer _ hbody => hbody.bind (g := fun ended s => ((ended.1.map answer, ended.2), s))
      fun _ _ hs => ⟨rfl, hs⟩
  cases operation with
  | start => exact hanswered (fun _ => .finished) (forgets_start r)
  | wait deadline => exact hanswered (fun _ => .finished) (forgets_waitUntilRunning r deadline)
  | stop => exact hanswered .stopped (forgets_stop r)
  | pass time =>
    intro s hs
    obtain ⟨result, next, hadvance, hadvanced, hkept⟩ := (Session.forgets_advance time).step hs
    dsimp only [perform]
    rw [hadvance, hadvanced]
    cases result <;> exact ⟨rfl, hkept⟩

/-! ### Runs -/

theorem callsSince_after (s next past : Session Orchestrator) :
    (s.after past).callsSince (next.after past) = s.callsSince next := by
  simp only [Session.callsSince, Session.after, Orchestrator.after, List.length_append, List.drop_length_add_append]

theorem run_after {s : Session Orchestrator} (hs : s.remote.Inherits past.remote) (r : Runner)
    (operations : List Operation) :
    r.run (s.after past) operations = ((r.run s operations).1, (r.run s operations).2.after past) ∧
      r.history (s.after past) operations = r.history s operations := by
  induction operations generalizing r s with
  | nil => exact ⟨rfl, rfl⟩
  | cons operation rest ih =>
    obtain ⟨⟨outcome, after⟩, next, hperform, hperformed, hkept⟩ := (forgets_perform r operation).step hs
    rw [run_cons hperform, run_cons hperformed, history_cons hperform, history_cons hperformed,
      callsSince_after]
    split
    · exact ⟨rfl, rfl⟩
    · obtain ⟨hrun, hhistory⟩ := ih hkept after
      rw [hrun, hhistory]
      exact ⟨rfl, rfl⟩

/-- A run from any session is the run from the session that begins there, with the past before it. -/
theorem run_renewed (r : Runner) (s : Session Orchestrator) (operations : List Operation) :
    r.run s operations = ((r.run s.renewed operations).1, (r.run s.renewed operations).2.after s) ∧
      r.history s operations = r.history s.renewed operations := by
  have hinherits : s.renewed.remote.Inherits s.remote := s.remote.renewed_inherits
  have h := run_after hinherits r operations
  rwa [s.renewed_after] at h

end Runner

end PodRunner
