import PodRunner.Orchestrator

/-!
# What a call does

Everything the theory knows about the remote side. A call adds one entry to the calls that the orchestrator
remembers and moves the clock as its reply says, and that is all it does to a session beside the log. How an
orchestrator comes by its replies is looked at here and nowhere else.
-/

namespace PodRunner

namespace Time

/-- The point `nanos` nanoseconds later, or the end of the calendar if that comes first. -/
def after (t : Time) (nanos : Nat) : Time := (t.later? nanos).getD latest

def epoch : Time := ⟨0, by decide, by decide⟩

theorem later?_eq_after {t : Time} {nanos : Nat} (h : (t.later? nanos).isSome = true) :
    t.later? nanos = some (t.after nanos) := by
  obtain ⟨u, hu⟩ := Option.isSome_iff_exists.1 h
  rw [after, hu]
  rfl

theorem nanos_after {t u : Time} {nanos : Nat} (h : t.nanos + nanos ≤ u.nanos) :
    (t.after nanos).nanos = t.nanos + nanos :=
  later?_eq_some_iff.1 (later?_eq_after (later?_isSome_of_le h))

theorem later?_zero (t : Time) : t.later? 0 = some t :=
  later?_eq_some_iff.2 (by omega)

theorem after_zero (t : Time) : t.after 0 = t := by
  rw [after, later?_zero]
  rfl

theorem after_after {t u : Time} {m n : Nat} (h : t.nanos + (m + n : Nat) ≤ u.nanos) :
    (t.after m).after n = t.after (m + n) := by
  have hfirst : (t.after m).nanos = t.nanos + m := nanos_after (u := u) (by omega)
  apply ext_nanos
  rw [nanos_after h, nanos_after (u := u) (by omega)]
  omega

end Time

namespace Call

def created? : Call → Option Instance
  | create _ _ reply => reply.result.toOption
  | get _ _ _ _ | delete _ _ _ => none

/-- Name and namespace of the instance that a query or a deletion is about. -/
def subject? : Call → Option (String × String)
  | create _ _ _ => none
  | get name ns _ _ | delete name ns _ => some (name, ns)

theorem isCreate_of_created? {call : Call} {server : Instance} (h : call.created? = some server) :
    call.isCreate = true := by
  cases call with
  | create ns pod reply => rfl
  | get name ns asked reply => cases h
  | delete name ns reply => cases h

theorem isCreate_of_subject? {call : Call} {subject : String × String}
    (h : call.subject? = some subject) : call.isCreate = false := by
  cases call with
  | create ns pod reply => cases h
  | get name ns asked reply => rfl
  | delete name ns reply => rfl

theorem created?_of_subject? {call : Call} {subject : String × String}
    (h : call.subject? = some subject) : call.created? = none := by
  cases call with
  | create ns pod reply => cases h
  | get name ns asked reply => rfl
  | delete name ns reply => rfl

theorem isCreate_of_no_subject {call : Call} (h : call.subject? = none) : call.isCreate = true := by
  cases call with
  | create ns pod reply => rfl
  | get name ns asked reply => cases h
  | delete name ns reply => cases h

end Call

/-! ### One more entry -/

namespace Orchestrator

variable {α : Type} (o : Orchestrator)

private theorem exchange_calls (request : Except Kubernetes.ApiError Kubernetes.Request)
    (read : Kubernetes.Response → Except Kubernetes.ApiError α) :
    (o.exchange request read).2.calls = o.calls := by
  cases request <;> rfl

theorem create_calls (ns : String) (pod : Pod) :
    (o.create ns pod).2.calls = o.calls ++ [.create ns pod (o.create ns pod).1] := by
  cases h : o.backend with
  | scripted script => simp only [create, h, remember]
  | kubernetes => simp only [create, h, remember, exchange_calls]

theorem query_calls (name ns : String) (asked : Time) :
    (o.query name ns asked).2.calls = o.calls ++ [.get name ns asked (o.query name ns asked).1] := by
  cases h : o.backend with
  | scripted script => simp only [query, h, remember]
  | kubernetes => simp only [query, h, remember, getPod, exchange_calls]

theorem delete_calls (name ns : String) :
    (o.delete name ns).2.calls = o.calls ++ [.delete name ns (o.delete name ns).1] := by
  cases h : o.backend with
  | scripted script => simp only [delete, h, remember]
  | kubernetes => simp only [delete, h, remember, exchange_calls]

/-! ### The replies to come -/

/-- The replies to the deletions to come, if one instance is deleted again and again and nothing else happens. -/
def removal (o : Orchestrator) (name ns : String) : Nat → Reply Unit
  | 0 => (o.delete name ns).1
  | k + 1 => (o.delete name ns).2.removal name ns k

private theorem deleted_remember (o : Orchestrator) (name ns : String) (reply : Reply Unit) :
    (o.remember (.delete name ns reply)).deleted = o.deleted + 1 := by
  rw [deleted, remember, List.countP_append]
  rfl

theorem removal_scripted {script : Script} (h : o.backend = .scripted script) (name ns : String) (k : Nat) :
    o.removal name ns k = script.deletions (o.deleted + k) := by
  induction k generalizing o with
  | zero => simp only [removal, delete, h, Nat.add_zero]
  | succ k ih =>
    have hnext : (o.delete name ns).2 = o.remember (.delete name ns (script.deletions o.deleted)) := by
      simp only [delete, h]
    have hlater := ih (o.remember (.delete name ns (script.deletions o.deleted))) h
    rw [removal, hnext, hlater, deleted_remember, Nat.add_assoc, Nat.add_comm 1 k]

/-- The replies to the queries to come, if one instance is asked for and nothing else happens. -/
def answer (o : Orchestrator) (name ns : String) : Nat → Reply InstanceStatus
  | 0 => (o.query name ns .earliest).1
  | k + 1 => (o.query name ns .earliest).2.answer name ns k

private theorem queried_remember (o : Orchestrator) (name ns : String) (asked : Time)
    (reply : Reply InstanceStatus) :
    (o.remember (.get name ns asked reply)).queried = o.queried + 1 := by
  rw [queried, remember, List.countP_append]
  rfl

/-- Orchestrators that differ in their past calls only, of which as many were queries. -/
private def Alike (o p : Orchestrator) : Prop :=
  p.queried = o.queried ∧ ∃ calls, p = { o with calls }

/-- The time of a query is not looked at, and neither is what was asked before it. -/
private theorem Alike.query {o p : Orchestrator} (h : Alike o p) (name ns : String) (asked later : Time) :
    (p.query name ns later).1 = (o.query name ns asked).1 ∧
      Alike (o.query name ns asked).2 (p.query name ns later).2 := by
  obtain ⟨backend, responses, others, exchanges⟩ := o
  obtain ⟨hqueried, calls, rfl⟩ := h
  have hnext : queried ⟨backend, responses, calls, exchanges⟩ + 1 =
      queried ⟨backend, responses, others, exchanges⟩ + 1 := congrArg (· + 1) hqueried
  cases backend with
  | scripted script =>
    refine ⟨congrArg script.queries hqueried, ?_, _, rfl⟩
    rw [Orchestrator.query, Orchestrator.query, queried_remember, queried_remember]
    exact hnext
  | kubernetes =>
    simp only [Orchestrator.query, getPod, exchange]
    cases Kubernetes.Request.getPod name ns with
    | error e =>
      refine ⟨rfl, ?_, _, rfl⟩
      rw [queried_remember, queried_remember]
      exact hnext
    | ok request =>
      refine ⟨rfl, ?_, _, rfl⟩
      rw [queried_remember, queried_remember]
      exact hnext

private theorem Alike.answer_eq {o p : Orchestrator} (h : Alike o p) (name ns : String) (k : Nat) :
    p.answer name ns k = o.answer name ns k := by
  induction k generalizing o p with
  | zero => exact (h.query name ns .earliest .earliest).1
  | succ k ih => exact ih (h.query name ns .earliest .earliest).2

theorem query_reply (name ns : String) (asked : Time) :
    (o.query name ns asked).1 = o.answer name ns 0 :=
  (Alike.query ⟨rfl, _, rfl⟩ name ns .earliest asked).1

theorem answer_query (name ns : String) (asked : Time) (k : Nat) :
    (o.query name ns asked).2.answer name ns k = o.answer name ns (k + 1) :=
  (Alike.query ⟨rfl, _, rfl⟩ name ns .earliest asked).2.answer_eq name ns k

/-- A script is read where earlier queries have left it. -/
theorem answer_scripted {script : Script} (h : o.backend = .scripted script) (name ns : String) (k : Nat) :
    o.answer name ns k = script.queries (o.queried + k) := by
  induction k generalizing o with
  | zero => simp only [answer, query, h, Nat.add_zero]
  | succ k ih =>
    have hnext : (o.query name ns .earliest).2 =
        o.remember (.get name ns .earliest (script.queries o.queried)) := by
      simp only [query, h]
    have hlater := ih (o.remember (.get name ns .earliest (script.queries o.queried))) h
    rw [answer, hnext, hlater, queried_remember, Nat.add_assoc, Nat.add_comm 1 k]

end Orchestrator

/-! ### Taking a reply -/

namespace Session

variable {σ α : Type}

theorem advance_remote (s : Session σ) (d : Duration) : (s.advance d).2.remote = s.remote := rfl

theorem advance_zero (s : Session σ) : s.advance .zero = (.ok (), s) := by
  have hlater : s.clock.now.later? (Clock.move .zero) = some s.clock.now := Time.later?_zero _
  simp only [advance, Clock.advance, hlater]

theorem sleep_of_later {s : Session σ} {d : Duration} {later : Time}
    (h : s.clock.now.later? (Clock.move d) = some later) :
    s.sleep d = (.ok (), { s with clock := ⟨later, s.clock.sleeps ++ [d]⟩ }) := by
  simp only [sleep, Clock.sleep, Clock.advance, Clock.record, h]

theorem receive_remote (s : Session σ) (reply : Reply α) : (s.receive reply).2.remote = s.remote := by
  have h := s.advance_remote reply.advance
  unfold receive
  split <;> rename_i heq <;> rw [heq] at h <;> exact h

theorem receive_events (s : Session σ) (reply : Reply α) : (s.receive reply).2.events = s.events := by
  simp only [receive, advance]
  cases s.clock.advance reply.advance with
  | mk result clock => cases result <;> rfl

theorem receive_ok {s : Session σ} {reply : Reply α} {later : Time}
    (h : s.clock.now.later? (Clock.move reply.advance) = some later) :
    s.receive reply = (Outcome.ofExcept reply.result, { s with clock := { s.clock with now := later } }) := by
  simp only [receive, advance, Clock.advance, h]

theorem receive_overrun {s : Session σ} {reply : Reply α}
    (h : s.clock.now.later? (Clock.move reply.advance) = none) :
    s.receive reply = (.broken .timeOutOfRange, s) := by
  simp only [receive, advance, Clock.advance, h]

theorem receive_outcome (s : Session σ) (reply : Reply α) :
    (s.receive reply).1 = Outcome.ofExcept reply.result ∨
      ∃ fault, (s.receive reply).1 = .broken fault := by
  unfold receive
  split
  · exact Or.inl rfl
  · exact Or.inr ⟨_, rfl⟩

theorem receive_congr {s t : Session σ} (h : s.clock = t.clock) (reply : Reply α) :
    (s.receive reply).1 = (t.receive reply).1 ∧
      (s.receive reply).2.clock = (t.receive reply).2.clock := by
  simp only [receive, advance, h]
  cases t.clock.advance reply.advance with
  | mk result clock => cases result <;> exact ⟨rfl, rfl⟩

/-- A call that takes its reply at once does the same with marks in the log and without them. -/
private theorem taken_spec (s : Session Orchestrator) (function : Traced) (reply : Reply α)
    (remote : Orchestrator) (call : Session Orchestrator → Outcome α × Session Orchestrator)
    (hcall : ∀ t : Session Orchestrator, t.remote = s.remote → call t = { t with remote }.receive reply) :
    let called := if s.remote.isKubernetes then s.traced function call else call s
    called.1 = (s.receive reply).1 ∧ called.2.remote = remote ∧
      called.2.clock = (s.receive reply).2.clock := by
  intro called
  have hat : ∀ t : Session Orchestrator, t.remote = s.remote → t.clock = s.clock →
      (call t).1 = (s.receive reply).1 ∧ (call t).2.remote = remote ∧
        (call t).2.clock = (s.receive reply).2.clock := by
    intro t hremote hclock
    rw [hcall t hremote, receive_remote]
    obtain ⟨houtcome, hlater⟩ := receive_congr (s := { t with remote }) (t := s) hclock reply
    exact ⟨houtcome, rfl, hlater⟩
  by_cases hkubernetes : s.remote.isKubernetes
  · have hcalled : called = s.traced function call := if_pos hkubernetes
    rw [hcalled]
    exact hat (s.log (.entered function)) rfl rfl
  · have hcalled : called = call s := if_neg hkubernetes
    rw [hcalled]
    exact hat s rfl rfl

private theorem taken_events (s : Session Orchestrator) (function : Traced) (reply : Reply α)
    (remote : Orchestrator) (call : Session Orchestrator → Outcome α × Session Orchestrator)
    (hcall : ∀ t : Session Orchestrator, t.remote = s.remote → call t = { t with remote }.receive reply) :
    (if s.remote.isKubernetes then s.traced function call else call s).2.events =
      if s.remote.isKubernetes then s.events ++ [.entered function, .left function] else s.events := by
  have hat : ∀ t : Session Orchestrator, t.remote = s.remote → (call t).2.events = t.events := by
    intro t hremote
    rw [hcall t hremote, receive_events]
  split
  · rw [traced, log_events, hat _ (s.log_remote _), log_events, List.append_assoc]
    rfl
  · exact hat s rfl

theorem createInstance_spec (s : Session Orchestrator) (ns : String) (pod : Pod) :
    (s.createInstance ns pod).1 = (s.receive (s.remote.create ns pod).1).1 ∧
      (s.createInstance ns pod).2.remote = (s.remote.create ns pod).2 ∧
      (s.createInstance ns pod).2.clock = (s.receive (s.remote.create ns pod).1).2.clock :=
  taken_spec s .createInstance _ _ _ fun t ht => by simp only [ht]

theorem deleteInstance_spec (s : Session Orchestrator) (name ns : String) :
    (s.deleteInstance name ns).1 = (s.receive (s.remote.delete name ns).1).1 ∧
      (s.deleteInstance name ns).2.remote = (s.remote.delete name ns).2 ∧
      (s.deleteInstance name ns).2.clock = (s.receive (s.remote.delete name ns).1).2.clock :=
  taken_spec s .deleteInstance _ _ _ fun t ht => by simp only [ht]

theorem createInstance_events (s : Session Orchestrator) (ns : String) (pod : Pod) :
    (s.createInstance ns pod).2.events =
      if s.remote.isKubernetes then s.events ++ [.entered .createInstance, .left .createInstance]
      else s.events :=
  taken_events s .createInstance (s.remote.create ns pod).1 (s.remote.create ns pod).2 _ fun t ht => by
    simp only [ht]

theorem deleteInstance_events (s : Session Orchestrator) (name ns : String) :
    (s.deleteInstance name ns).2.events =
      if s.remote.isKubernetes then s.events ++ [.entered .deleteInstance, .left .deleteInstance]
      else s.events :=
  taken_events s .deleteInstance (s.remote.delete name ns).1 (s.remote.delete name ns).2 _ fun t ht => by
    simp only [ht]

theorem queryInstance_calls (s : Session Orchestrator) (name ns : String) :
    (s.queryInstance name ns).2.remote.calls =
      s.remote.calls ++ [.get name ns s.clock.now (s.queryInstance name ns).1] :=
  s.remote.query_calls name ns s.clock.now

def callsSince (s t : Session Orchestrator) : List Call :=
  t.remote.calls.drop s.remote.calls.length

theorem callsSince_of_append {s t : Session Orchestrator} {made : List Call}
    (h : t.remote.calls = s.remote.calls ++ made) : callsSince s t = made := by
  rw [callsSince, h, List.drop_left]

end Session

end PodRunner
