import PodRunner.Proofs.History

/-!
# What is true of every runner

A runner comes from an owner and a workload, or from a context, and does nothing by itself. What holds of it at
any time is an invariant of the transitions: the endpoint is stored exactly while the instance runs, and the name
of an instance is stored exactly when one has been created.
-/

namespace PodRunner.Runner

/-- A runner that nothing has been done with. -/
structure Unused (r : Runner) : Prop where
  ns_eq : r.ns = r.owner.ns
  instanceName_eq : r.instanceName = none
  endpoint_eq : r.endpoint = none
  state_eq : r.state = .unstarted

inductive Built : Runner → Prop
  | new (owner : Owner) (workload : Workload) : Built (new owner workload)
  | fromContext {source : OwnerSource} {context : Context} {modelPath : String}
      {s next : Session Orchestrator} {r : Runner}
      (h : fromContext source context modelPath s = (.done r, next)) : Built r

def specimen : Runner :=
  new ⟨"v1", "Pod", "owner-0", "b2", "team", none⟩ ⟨"image", .empty, 8500, none, none, .none⟩

/-- An orchestrator that grants everything, and says these things about the instance, one after the other. -/
def granting (statuses : Nat → InstanceStatus) : Session Orchestrator :=
  let script : Script :=
    ⟨fun _ => .prompt (.ok ⟨"modelserver-1", "team", none⟩), fun k => .prompt (.ok (statuses k)),
      fun _ => .prompt (.ok ())⟩
  .starting .epoch (.scripted script fun _ => .prompt (.error (.internal "unused")))

/-- The instance runs as soon as it is asked for. -/
def obliging : Session Orchestrator := granting fun _ => ⟨.running, some "10.0.0.7"⟩

def Reachable (r : Runner) : Prop :=
  ∃ built s operations, Built built ∧ (built.run s operations).1 = r

structure Consistent (r : Runner) : Prop where
  endpoint_iff : r.endpoint.isSome = true ↔ r.state = .running
  unnamed : r.instanceName = none → r.state = .unstarted ∨ r.state = .stopped
  named : r.instanceName.isSome = true → r.state ≠ .unstarted

/-! ### Runners at the beginning -/

/-- A context sets how to poll and how to clean up, and nothing else of what a runner stores. -/
theorem assemble_ok {owner : Owner} {context : Context} {modelPath : String} {r : Runner}
    (h : assemble owner context modelPath = .ok r) :
    ∃ serving binary workload, context.serving = some serving ∧ ServingBinary.ofConfig serving = .ok binary ∧
      binary.workload modelPath context.kubernetes .none = .ok workload ∧
      r = { new owner workload with polling := context.polling, cleanup := context.cleanup } := by
  unfold assemble at h
  split at h
  · cases h
  · rename_i serving hserving
    cases hbinary : ServingBinary.ofConfig serving with
    | error e =>
      rw [hbinary] at h
      cases h
    | ok binary =>
      rw [hbinary] at h
      cases hworkload : binary.workload modelPath context.kubernetes .none with
      | error e =>
        simp only [bind, Except.bind, hworkload] at h
        cases h
      | ok workload =>
        simp only [bind, Except.bind, hworkload] at h
        cases h
        exact ⟨serving, binary, workload, hserving, hbinary, hworkload, rfl⟩

theorem fromContext_assembled {source : OwnerSource} {context : Context} {modelPath : String}
    {s next : Session Orchestrator} {r : Runner} (h : fromContext source context modelPath s = (.done r, next)) :
    ∃ owner, ((s.log (.entered .fromContext)).resolveOwner source).1 = .done owner ∧
      assemble owner context modelPath = .ok r := by
  simp only [fromContext, Session.traced, Prod.mk.injEq] at h
  have hdone := h.1
  split at hdone
  · cases hdone
  · cases hdone
  · rename_i owner _ hresolved
    refine ⟨owner, congrArg Prod.fst hresolved, ?_⟩
    split at hdone
    · cases hdone
    · rename_i hassemble
      cases hdone
      exact hassemble

theorem fromContext_done {source : OwnerSource} {context : Context} {modelPath : String}
    {s next : Session Orchestrator} {r : Runner} (h : fromContext source context modelPath s = (.done r, next)) :
    ∃ owner workload,
      r = { new owner workload with polling := context.polling, cleanup := context.cleanup } := by
  obtain ⟨owner, _, hassemble⟩ := fromContext_assembled h
  obtain ⟨_, _, workload, _, _, _, hr⟩ := assemble_ok hassemble
  exact ⟨owner, workload, hr⟩

theorem Built.unused {r : Runner} (h : Built r) : r.Unused := by
  cases h with
  | new owner workload => exact ⟨rfl, rfl, rfl, rfl⟩
  | fromContext h =>
    obtain ⟨owner, workload, rfl⟩ := fromContext_done h
    exact ⟨rfl, rfl, rfl, rfl⟩

theorem Unused.consistent {r : Runner} (h : r.Unused) : r.Consistent where
  endpoint_iff := by
    rw [h.endpoint_eq, h.state_eq]
    decide
  unnamed _ := Or.inl h.state_eq
  named hname := by
    rw [h.instanceName_eq] at hname
    cases hname

theorem Consistent.isStartable_iff {r : Runner} (h : r.Consistent) :
    r.IsStartable ↔ r.state = .unstarted := by
  refine ⟨fun hstartable => hstartable.1, fun hstate => ⟨hstate, ?_⟩⟩
  cases hname : r.instanceName with
  | none => rfl
  | some name => exact absurd hstate (h.named (by rw [hname]; rfl))

theorem Consistent.endpoint_eq_none {r : Runner} (h : r.Consistent) (hstate : r.state ≠ .running) :
    r.endpoint = none :=
  Option.not_isSome_iff_eq_none.1 fun hendpoint => hstate (h.endpoint_iff.1 hendpoint)

theorem Consistent.awaits {r : Runner} (h : r.Consistent)
    (hstate : r.state = .pending ∨ r.state = .timedOut) : ∃ name, r.Awaits name := by
  cases hname : r.instanceName with
  | none =>
    rcases h.unnamed hname with hother | hother <;> rw [hother] at hstate <;>
      exact absurd hstate (by decide)
  | some name => exact ⟨name, hname, hstate⟩

/-! ### One transition -/

structure SameSettings (r t : Runner) : Prop where
  owner_eq : t.owner = r.owner
  workload_eq : t.workload = r.workload
  polling_eq : t.polling = r.polling
  cleanup_eq : t.cleanup = r.cleanup
  ns_eq : t.ns = r.ns

theorem SameSettings.refl (r : Runner) : SameSettings r r := ⟨rfl, rfl, rfl, rfl, rfl⟩

theorem SameSettings.trans {r t u : Runner} (hrt : SameSettings r t) (htu : SameSettings t u) :
    SameSettings r u :=
  ⟨htu.owner_eq.trans hrt.owner_eq, htu.workload_eq.trans hrt.workload_eq,
    htu.polling_eq.trans hrt.polling_eq, htu.cleanup_eq.trans hrt.cleanup_eq,
    htu.ns_eq.trans hrt.ns_eq⟩

/-- How a wait can leave a runner after these queries. Only a reply to the last one that leaves the calendar
can break it. -/
inductive WaitEnd (r : Runner) (name : String) (gets : List Call) : Outcome Unit → Runner → Prop
  | running (address : String) :
      WaitEnd r name gets (.done ()) { r with endpoint := some (r.endpointAt address), state := .running }
  | aborted (phase : Phase) :
      WaitEnd r name gets (.failed (.jobAborted phase)) { r with state := .aborted }
  | timedOut (text : String) :
      WaitEnd r name gets (.failed (.deadlineExceeded text)) { r with state := .timedOut }
  | broke {asked : Time} {reply : Reply InstanceStatus}
      (hlast : gets.getLast? = some (.get name r.ns asked reply)) (hoverruns : r.Overruns asked reply) :
      WaitEnd r name gets (.broken .timeOutOfRange) r

theorem conclude_waitEnd {r : Runner} {observation : Observation} {outcome : Outcome Unit} {after : Runner}
    (h : r.conclude observation = some (outcome, after)) (name : String) (gets : List Call) :
    WaitEnd r name gets outcome after := by
  cases observation with
  | runningAt address =>
    cases h
    exact .running address
  | exited phase =>
    cases h
    exact .aborted phase
  | waiting phase => cases h
  | unclear e => cases h

theorem Polled.waitEnd {r : Runner} {name : String} {deadline : Time} {gets : List Call}
    {outcome : Outcome Unit} {after : Runner} (h : Polled r name deadline gets outcome after) :
    WaitEnd r name gets outcome after := by
  induction h with
  | expired => exact .timedOut _
  | ended _ hended => exact conclude_waitEnd hended name _
  | broke _ hoverruns => exact .broke rfl hoverruns
  | next _ _ _ ih =>
    cases ih with
    | running address => exact .running address
    | aborted phase => exact .aborted phase
    | timedOut text => exact .timedOut text
    | broke hlast hoverruns =>
      refine .broke ?_ hoverruns
      rw [List.getLast?_cons, hlast]
      rfl

section Step

variable {r after : Runner} {operation : Operation} {outcome : Outcome Answer} {calls : List Call}

theorem Step.sameSettings (h : Step r operation outcome after calls) : SameSettings r after := by
  cases h with
  | waited _ hpolled => cases hpolled.waitEnd <;> exact ⟨rfl, rfl, rfl, rfl, rfl⟩
  | _ => exact ⟨rfl, rfl, rfl, rfl, rfl⟩

theorem Step.consistent (h : Step r operation outcome after calls) (hr : r.Consistent) :
    after.Consistent := by
  cases h with
  | created hstartable _ _ =>
    have hnone : r.endpoint = none := hr.endpoint_eq_none (by rw [hstartable.1]; decide)
    exact ⟨by simp [hnone], nofun, fun _ => nofun⟩
  | waited hawaits hpolled =>
    have hnamed : ∀ {p : Prop}, r.instanceName = none → p := fun h =>
      absurd (hawaits.1.symm.trans h) nofun
    have hnone : r.endpoint = none := hr.endpoint_eq_none (by
      rcases hawaits.2 with h | h <;> rw [h] <;> decide)
    cases hpolled.waitEnd with
    | running address => exact ⟨by simp, hnamed, fun _ => nofun⟩
    | aborted phase => exact ⟨by simp [hnone], hnamed, fun _ => nofun⟩
    | timedOut text => exact ⟨by simp [hnone], hnamed, fun _ => nofun⟩
    | broke _ _ => exact hr
  | stopped _ _ => exact ⟨by simp [halted], fun _ => Or.inr rfl, fun _ => nofun⟩
  | _ => exact hr

end Step

theorem run_sameSettings (r : Runner) (s : Session Orchestrator) (operations : List Operation) :
    SameSettings r (r.run s operations).1 :=
  run_keeps (I := SameSettings r) (P := fun _ => True) (fun _ ht h => ht.trans h.sameSettings) (.refl r) s
    fun _ _ => trivial

end PodRunner.Runner
