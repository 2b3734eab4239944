import PodRunner.Proofs.Creation

/-!
# Calls over the API

Over the API a call is a request and what is read from the response. So the replies to come are known from the
responses to come, and a reply that tells how an instance is doing has a Pod behind it, in the last exchange.
-/

namespace PodRunner

open Kubernetes (ApiError Request Response)

namespace Orchestrator

variable {α : Type} (o : Orchestrator)

theorem exchange_backend (request : Except ApiError Request) (read : Response → Except ApiError α) :
    (o.exchange request read).2.backend = o.backend := by
  cases request <;> rfl

theorem create_backend (ns : String) (pod : Pod) : (o.create ns pod).2.backend = o.backend := by
  cases h : o.backend with
  | scripted script => simp only [create, h, remember]
  | kubernetes => simp only [create, h, remember, exchange_backend]

theorem query_backend (name ns : String) (asked : Time) : (o.query name ns asked).2.backend = o.backend := by
  cases h : o.backend with
  | scripted script => simp only [query, h, remember]
  | kubernetes => simp only [query, h, remember, getPod, exchange_backend]

theorem delete_backend (name ns : String) : (o.delete name ns).2.backend = o.backend := by
  cases h : o.backend with
  | scripted script => simp only [delete, h, remember]
  | kubernetes => simp only [delete, h, remember, exchange_backend]

/-! ### The replies to come -/

/-- What a request comes to after so many others. -/
def hears (request : Except ApiError Request) (read : Response → Except ApiError α) (k : Nat) :
    Except ApiError α :=
  request.bind fun _ =>
    ((o.responses (o.exchanges.length + k)).result.mapError fun e => .service e.message).bind read

theorem exchange_result (request : Except ApiError Request) (read : Response → Except ApiError α) :
    (o.exchange request read).1.result = (o.hears request read 0).mapError (·.toError) := by
  cases request <;> rfl

theorem exchange_hears (request : Except ApiError Request) (read : Response → Except ApiError α) (k : Nat) :
    (o.exchange request read).2.hears request read k = o.hears request read (k + 1) := by
  cases request with
  | error e => rfl
  | ok request =>
    simp only [exchange, hears, List.length_append, List.length_singleton, Nat.add_assoc, Nat.add_comm 1 k]

def deletion (name ns : String) (k : Nat) : Except ApiError Unit :=
  o.hears (Request.deletePod name ns) (·.deletion) k

def sighting (name ns : String) (k : Nat) : Except ApiError Pod :=
  o.hears (Request.getPod name ns) (·.pod) k

section Kubernetes

variable {o} (h : o.backend = .kubernetes) (name ns : String)

include h

theorem removal_kubernetes (k : Nat) :
    (o.removal name ns k).result = (o.deletion name ns k).mapError (·.toError) := by
  induction k generalizing o with
  | zero =>
    simp only [removal, delete, h]
    exact o.exchange_result _ _
  | succ k ih =>
    have hbackend : (o.delete name ns).2.backend = .kubernetes := (o.delete_backend name ns).trans h
    rw [removal, ih hbackend, deletion, deletion, ← o.exchange_hears]
    simp only [delete, h, remember]
    rfl

theorem answer_kubernetes (k : Nat) :
    (o.answer name ns k).result =
      ((o.sighting name ns k).mapError (·.toError)).bind fun pod => .ok pod.instanceStatus := by
  induction k generalizing o with
  | zero =>
    simp only [answer, query, h, getPod, Reply.bind, exchange_result]
    rfl
  | succ k ih =>
    have hbackend : (o.query name ns .earliest).2.backend = .kubernetes :=
      (o.query_backend name ns .earliest).trans h
    rw [answer, ih hbackend, sighting, sighting, ← o.exchange_hears]
    simp only [query, h, remember, getPod]
    rfl

end Kubernetes

/-! ### The Pod behind a reply -/

/-- The last exchange has read this Pod by its name, with this delay. -/
def Shows (name ns : String) (delay : Duration) (pod : Pod) : Prop :=
  ∃ x response, o.exchanges.getLast? = some x ∧ Request.getPod name ns = .ok x.request ∧
    x.reply.delay = delay ∧ x.reply.result = .ok response ∧ response.pod = .ok pod

theorem exchange_ok {request : Except ApiError Request} {read : Response → Except ApiError α} {value : α}
    (h : (o.exchange request read).1.result = .ok value) :
    ∃ sent response, request = .ok sent ∧ o.nextReply.result = .ok response ∧ read response = .ok value ∧
      (o.exchange request read).1.delay = o.nextReply.delay ∧
      (o.exchange request read).2.exchanges = o.exchanges ++ [⟨sent, o.nextReply⟩] := by
  rw [exchange_result] at h
  cases request with
  | error e => cases h
  | ok sent =>
    cases hresult : o.nextReply.result with
    | error e =>
      rw [nextReply] at hresult
      simp only [hears, Except.bind, Nat.add_zero, hresult] at h
      cases h
    | ok response =>
      refine ⟨sent, response, rfl, rfl, ?_, rfl, rfl⟩
      have hread : (read response).mapError (·.toError) = .ok value := by
        rw [← h, hears, Nat.add_zero, ← nextReply, hresult]
        rfl
      cases hvalue : read response with
      | error e =>
        rw [hvalue] at hread
        cases hread
      | ok found =>
        rw [hvalue] at hread
        cases hread
        rfl

variable {o}

theorem query_shows (h : o.backend = .kubernetes) {name ns : String} {asked : Time} {status : InstanceStatus}
    (hresult : (o.query name ns asked).1.result = .ok status) :
    ∃ pod, (o.query name ns asked).2.Shows name ns (o.query name ns asked).1.delay pod ∧
      status = pod.instanceStatus := by
  simp only [query, h, getPod] at hresult ⊢
  cases hpod : (o.exchange (Request.getPod name ns) (·.pod)).1.result with
  | error e =>
    rw [Reply.bind, hpod] at hresult
    cases hresult
  | ok pod =>
    obtain ⟨sent, response, hsent, hresponse, hread, hdelay, hexchanges⟩ := o.exchange_ok hpod
    rw [Reply.bind, hpod] at hresult
    cases hresult
    refine ⟨pod, ⟨⟨sent, o.nextReply⟩, response, ?_, hsent, hdelay.symm, hresponse, hread⟩, rfl⟩
    simp only [remember]
    rw [hexchanges]
    exact List.getLast?_concat

/-- Since these calls, a status that the last one was given is that of a Pod in the last exchange. -/
structure Attests (past : List Call) (o : Orchestrator) : Prop where
  backend_eq : o.backend = .kubernetes
  shown : ∃ made, o.calls = past ++ made ∧ ∀ name ns asked reply status,
    made.getLast? = some (.get name ns asked reply) → reply.result = .ok status →
      ∃ pod, o.Shows name ns reply.delay pod ∧ status = pod.instanceStatus

theorem Attests.of_remembered {past : List Call} {p : Orchestrator} {call : Call} (h : Attests past o)
    (hbackend : p.backend = o.backend) (hcalls : p.calls = o.calls ++ [call])
    (hshown : ∀ name ns asked reply status, call = .get name ns asked reply → reply.result = .ok status →
      ∃ pod, p.Shows name ns reply.delay pod ∧ status = pod.instanceStatus) : Attests past p := by
  obtain ⟨made, hmade, _⟩ := h.shown
  refine ⟨hbackend.trans h.backend_eq, made ++ [call], ?_, ?_⟩
  · rw [hcalls, hmade, List.append_assoc]
  · intro name ns asked reply status hlast
    rw [List.getLast?_concat] at hlast
    exact hshown name ns asked reply status (Option.some.inj hlast)

end Orchestrator

namespace Runner

theorem run_keeps_remote {I : Orchestrator → Prop} (hcreate : ∀ o ns pod, I o → I (o.create ns pod).2)
    (hquery : ∀ o name ns asked, I o → I (o.query name ns asked).2)
    (hdelete : ∀ o name ns, I o → I (o.delete name ns).2) (r : Runner) {s : Session Orchestrator}
    (hs : I s.remote) (operations : List Operation) : I (r.run s operations).2.remote := by
  induction operations generalizing r s with
  | nil => exact hs
  | cons operation rest ih =>
    have hnext : I (r.perform s operation).2.remote := by
      by_cases hoperation : operation = .start
      · subst hoperation
        by_cases hpod : ∃ pod, r.IsStartable ∧ Manifest.build r.workload r.owner = .ok pod
        · obtain ⟨pod, hstartable, hbuild⟩ := hpod
          rw [start_remote hstartable hbuild]
          exact hcreate s.remote r.ns pod hs
        · rw [start_idle (not_exists.1 hpod)]
          exact hs
      · exact perform_keeps (fun o name asked => hquery o name r.ns asked) (fun o name => hdelete o name r.ns)
          hs hoperation
    rcases hperform : r.perform s operation with ⟨⟨outcome, after⟩, next⟩
    rw [hperform] at hnext
    rw [run_cons hperform]
    split
    · exact hnext
    · exact ih after hnext

theorem run_attests (r : Runner) {s : Session Orchestrator} (hs : s.remote.backend = .kubernetes)
    (operations : List Operation) : (r.run s operations).2.remote.Attests s.remote.calls := by
  apply run_keeps_remote (I := Orchestrator.Attests s.remote.calls)
  · intro o ns pod ho
    refine ho.of_remembered (o.create_backend ns pod) (o.create_calls ns pod) ?_
    intro _ _ _ _ _ hcall
    cases hcall
  · intro o name ns asked ho
    refine ho.of_remembered (o.query_backend name ns asked) (o.query_calls name ns asked) ?_
    intro _ _ _ reply status hcall hresult
    cases hcall
    exact Orchestrator.query_shows ho.backend_eq hresult
  · intro o name ns ho
    refine ho.of_remembered (o.delete_backend name ns) (o.delete_calls name ns) ?_
    intro _ _ _ _ _ hcall
    cases hcall
  · refine ⟨hs, [], (List.append_nil _).symm, ?_⟩
    intro _ _ _ _ _ hlast
    cases hlast

end Runner

end PodRunner
