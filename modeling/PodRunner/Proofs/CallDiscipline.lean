import PodRunner.Proofs.Invariant

/-!
# The order of calls

The calls of a run are creations that fail, then at most one that succeeds, and then queries and deletions of the
instance that it created. A runner that has been stopped or has created an instance creates no other, and one
that has seen its instance run or end, or has been stopped, does not ask for it again.
-/

namespace PodRunner.Runner

/-- Creations that fail, and after them at most one that succeeds, with the uses of the instance behind it. -/
inductive Orderly (ns : String) : List Call → Prop
  | nothing : Orderly ns []
  | failed {call : Call} {rest : List Call} (hcreated : call.created? = none)
      (hsubject : call.subject? = none) (hrest : Orderly ns rest) : Orderly ns (call :: rest)
  | created {call : Call} {server : Instance} {uses : List Call} (hcreated : call.created? = some server)
      (huses : ∀ use ∈ uses, use.subject? = some (server.name, ns)) : Orderly ns (call :: uses)

theorem Orderly.created_once {ns : String} {calls : List Call} (h : Orderly ns calls) :
    (calls.filterMap Call.created?).length ≤ 1 := by
  induction h with
  | nothing => exact Nat.zero_le 1
  | failed hcreated _ _ ih =>
    rw [List.filterMap_cons_none hcreated]
    exact ih
  | created hcreated huses =>
    have hnone : ∀ use ∈ _, Call.created? use = none := fun use huse =>
      Call.created?_of_subject? (huses use huse)
    rw [List.filterMap_cons_some hcreated, List.filterMap_eq_nil_iff.2 hnone]
    exact Nat.le_refl 1

theorem Orderly.no_creation_after {ns : String} {calls before after : List Call} {call : Call}
    {server : Instance} (h : Orderly ns calls) (hsplit : calls = before ++ call :: after)
    (hcall : call.created? = some server) : ∀ later ∈ after, later.isCreate = false := by
  induction h generalizing before with
  | nothing => exact absurd hsplit (by simp)
  | failed hcreated _ _ ih =>
    cases before with
    | nil =>
      obtain ⟨rfl, -⟩ := List.cons.inj hsplit
      rw [hcreated] at hcall
      cases hcall
    | cons first before =>
      exact ih (List.cons.inj hsplit).2
  | created _ huses =>
    cases before with
    | nil =>
      obtain ⟨-, rfl⟩ := List.cons.inj hsplit
      exact fun later hlater => Call.isCreate_of_subject? (huses later hlater)
    | cons first before =>
      obtain ⟨-, rfl⟩ := List.cons.inj (hsplit.trans List.cons_append)
      have hmem : call ∈ before ++ call :: after := List.mem_append_right _ List.mem_cons_self
      rw [Call.created?_of_subject? (huses call hmem)] at hcall
      cases hcall

theorem Orderly.use_of_created {ns : String} {calls before after : List Call} {call : Call}
    (h : Orderly ns calls) (hsplit : calls = before ++ call :: after) (hcall : call.isCreate = false) :
    ∃ creation ∈ before, ∃ server, creation.created? = some server ∧
      call.subject? = some (server.name, ns) := by
  induction h generalizing before with
  | nothing => exact absurd hsplit (by simp)
  | failed _ hsubject _ ih =>
    cases before with
    | nil =>
      obtain ⟨rfl, -⟩ := List.cons.inj hsplit
      rw [Call.isCreate_of_no_subject hsubject] at hcall
      cases hcall
    | cons first before =>
      obtain ⟨creation, hmem, hserver⟩ := ih (List.cons.inj hsplit).2
      exact ⟨creation, List.mem_cons_of_mem _ hmem, hserver⟩
  | created hcreated huses =>
    cases before with
    | nil =>
      obtain ⟨rfl, -⟩ := List.cons.inj hsplit
      rw [Call.isCreate_of_created? hcreated] at hcall
      cases hcall
    | cons first before =>
      obtain ⟨rfl, rfl⟩ := List.cons.inj (hsplit.trans List.cons_append)
      have hmem : call ∈ before ++ call :: after := List.mem_append_right _ List.mem_cons_self
      exact ⟨_, List.mem_cons_self, _, hcreated, huses call hmem⟩

/-! ### The calls of one transition -/

theorem Polled.get {r : Runner} {name : String} {deadline : Time} {gets : List Call}
    {outcome : Outcome Unit} {after : Runner} (h : Polled r name deadline gets outcome after) :
    ∀ call ∈ gets, ∃ asked reply, call = .get name r.ns asked reply := by
  induction h with
  | expired => exact fun _ hcall => absurd hcall List.not_mem_nil
  | ended _ _ => exact fun call hcall => ⟨_, _, List.mem_singleton.1 hcall⟩
  | broke _ _ => exact fun call hcall => ⟨_, _, List.mem_singleton.1 hcall⟩
  | next _ _ _ ih =>
    intro call hcall
    rcases List.mem_cons.1 hcall with hcall | hcall
    · exact ⟨_, _, hcall⟩
    · exact ih call hcall

inductive Makes (r : Runner) : Operation → Call → Prop
  | creation {pod : Pod} {reply : Reply Instance} (hstartable : r.IsStartable)
      (hbuild : Manifest.build r.workload r.owner = .ok pod) : Makes r .start (.create r.ns pod reply)
  | query {name : String} {deadline asked : Time} {reply : Reply InstanceStatus}
      (hawaits : r.Awaits name) : Makes r (.wait deadline) (.get name r.ns asked reply)
  | deletion {name : String} {reply : Reply Unit} (hname : r.instanceName = some name) :
      Makes r .stop (.delete name r.ns reply)

/-- The instance is known to run or to have ended, or nobody wants to know any more. -/
def IsSettled (r : Runner) : Prop := r.state = .running ∨ r.state = .aborted ∨ r.state = .stopped

theorem Awaits.not_settled {r : Runner} {name : String} (h : r.Awaits name) : ¬ r.IsSettled := by
  rintro (hstate | hstate | hstate) <;> rcases h.2 with h | h <;> exact absurd (h.symm.trans hstate) nofun

section Step

variable {r after : Runner} {operation : Operation} {outcome : Outcome Answer} {calls : List Call}

theorem Step.not_startable (h : Step r operation outcome after calls) (hr : ¬ r.IsStartable) :
    ¬ after.IsStartable := by
  cases h with
  | created hstartable _ _ => exact absurd hstartable hr
  | waited hawaits hpolled =>
    cases hpolled.waitEnd with
    | broke _ _ => exact hr
    | _ => exact fun hstartable => absurd (hawaits.1.symm.trans hstartable.2) nofun
  | stopped _ _ => exact fun hstartable => absurd hstartable.1 nofun
  | _ => exact hr

theorem Step.makes (h : Step r operation outcome after calls) :
    ∀ call ∈ calls, Makes r operation call := by
  intro call hcall
  cases h with
  | notCreated hstartable hbuild _ =>
    rw [List.mem_singleton.1 hcall]
    exact .creation hstartable hbuild
  | creationBroke hstartable hbuild =>
    rw [List.mem_singleton.1 hcall]
    exact .creation hstartable hbuild
  | created hstartable hbuild _ =>
    rw [List.mem_singleton.1 hcall]
    exact .creation hstartable hbuild
  | waited hawaits hpolled =>
    obtain ⟨asked, reply, rfl⟩ := hpolled.get call hcall
    exact .query hawaits
  | stopped _ hdeletes =>
    obtain ⟨name, reply, hname, rfl⟩ := hdeletes call hcall
    exact .deletion hname
  | _ => exact absurd hcall List.not_mem_nil

theorem Step.no_creation (h : Step r operation outcome after calls) (hr : ¬ r.IsStartable) :
    ∀ call ∈ calls, call.isCreate = false := by
  intro call hcall
  cases h.makes call hcall with
  | creation hstartable _ => exact absurd hstartable hr
  | query _ => rfl
  | deletion _ => rfl

theorem Step.creation (h : Step r operation outcome after calls) {ns : String} {pod : Pod}
    {reply : Reply Instance} (hcall : .create ns pod reply ∈ calls) :
    ns = r.ns ∧ Manifest.build r.workload r.owner = .ok pod := by
  cases h.makes _ hcall with
  | creation _ hbuild => exact ⟨rfl, hbuild⟩

theorem Step.instanceName_eq (h : Step r operation outcome after calls) {name : String}
    (hname : r.instanceName = some name) : after.instanceName = some name := by
  cases h with
  | created hstartable _ _ => exact absurd (hname.symm.trans hstartable.2) nofun
  | waited _ hpolled => cases hpolled.waitEnd <;> exact hname
  | _ => exact hname

theorem Step.subject (h : Step r operation outcome after calls) {name : String}
    (hname : r.instanceName = some name) : ∀ call ∈ calls, call.subject? = some (name, r.ns) := by
  intro call hcall
  cases h.makes call hcall with
  | creation hstartable _ => exact absurd (hname.symm.trans hstartable.2) nofun
  | query hawaits =>
    cases hname.symm.trans hawaits.1
    rfl
  | deletion hdeleted =>
    cases hname.symm.trans hdeleted
    rfl

theorem Step.settled (h : Step r operation outcome after calls) (hr : r.IsSettled) : after.IsSettled := by
  cases h with
  | created hstartable _ _ =>
    rcases hr with h | h | h <;> exact absurd (hstartable.1.symm.trans h) nofun
  | waited hawaits _ => exact absurd hr (hawaits.not_settled)
  | stopped _ _ => exact Or.inr (Or.inr rfl)
  | _ => exact hr

theorem Step.no_query (h : Step r operation outcome after calls) (hr : r.IsSettled) :
    ∀ call ∈ calls, call.isGet = false := by
  intro call hcall
  cases h.makes call hcall with
  | creation _ _ => rfl
  | query hawaits => exact absurd hr hawaits.not_settled
  | deletion _ => rfl

theorem Step.of_stop (h : Step r .stop outcome after calls) :
    after.state = .stopped ∧ ∀ call ∈ calls, call.isCreate = false := by
  constructor
  · cases h with
    | stopped _ _ => rfl
  · intro call hcall
    cases h.makes call hcall with
    | deletion _ => rfl

end Step

/-! ### The calls of a run -/

theorem Path.orderly {r : Runner} {performed : List Performed} (h : Path r performed)
    (hunnamed : r.instanceName = none) : Orderly r.ns (callsOf performed) := by
  induction h with
  | nil r => exact .nothing
  | @cons r p rest hstep hlast hrest ih =>
    obtain ⟨operation, outcome, after, calls⟩ := p
    dsimp only at hstep hlast hrest ih
    rw [callsOf_cons]
    cases hstep with
    | notCreated _ _ hreply =>
      exact .failed (congrArg Except.toOption hreply) rfl (ih hunnamed)
    | @creationBroke _ reply _ _ _ =>
      -- nothing is known about the reply, but nothing comes after it
      cases hlast rfl
      cases hreply : reply.result with
      | ok server =>
        exact .created (congrArg Except.toOption hreply) fun _ h => absurd h List.not_mem_nil
      | error e => exact .failed (congrArg Except.toOption hreply) rfl .nothing
    | @created _ _ server _ _ hreply =>
      refine .created (congrArg Except.toOption hreply) ?_
      refine Path.all_calls (I := fun t => t.instanceName = some server.name ∧ t.ns = r.ns) ?_ ?_ hrest
        ⟨rfl, rfl⟩
      · intro _ _ _ _ _ ht hstep
        exact ⟨hstep.instanceName_eq ht.1, hstep.sameSettings.ns_eq.trans ht.2⟩
      · intro _ _ _ _ _ ht hstep
        rw [← ht.2]
        exact hstep.subject ht.1
    | waited hawaits _ => exact absurd (hunnamed.symm.trans hawaits.1) nofun
    | stopped _ hdeletes =>
      have hnone : calls = [] := by
        refine List.eq_nil_iff_forall_not_mem.2 fun call hcall => ?_
        obtain ⟨name, _, hname, _⟩ := hdeletes call hcall
        rw [hunnamed] at hname
        cases hname
      rw [hnone]
      exact ih hunnamed
    | _ => exact ih hunnamed

/-- What is promised about the calls of a run from a runner that nothing has been done with. -/
structure Disciplined (r : Runner) (performed : List Performed) : Prop where
  created_once : ((callsOf performed).filterMap Call.created?).length ≤ 1
  no_creation_after_created : ∀ before call server after,
    callsOf performed = before ++ call :: after → call.created? = some server →
      ∀ later ∈ after, later.isCreate = false
  no_creation_from_stop : ∀ earlier stop later,
    performed = earlier ++ stop :: later → stop.operation = .stop →
      ∀ call ∈ stop.calls ++ callsOf later, call.isCreate = false
  creation_is_ours : ∀ ns pod reply, .create ns pod reply ∈ callsOf performed →
    ns = r.owner.ns ∧ Manifest.build r.workload r.owner = .ok pod
  /-- Every query and every deletion. -/
  use_of_created : ∀ before call after,
    callsOf performed = before ++ call :: after → call.isCreate = false →
      ∃ creation ∈ before, ∃ server, creation.created? = some server ∧
        call.subject? = some (server.name, r.owner.ns)
  no_query_once_settled : ∀ earlier p later,
    performed = earlier ++ p :: later → p.runner.IsSettled →
      ∀ call ∈ callsOf later, call.isGet = false

/-- Whatever is asked of a runner and whatever is replied to it, its calls keep their order. -/
theorem run_disciplined {r : Runner} (hr : r.Unused) (s : Session Orchestrator)
    (operations : List Operation) :
    (r.run s operations).2.remote.calls = s.remote.calls ++ callsOf (r.history s operations) ∧
      Disciplined r (r.history s operations) := by
  have hpath := r.history_path s operations
  have horderly := hpath.orderly hr.instanceName_eq
  rw [hr.ns_eq] at horderly
  refine ⟨(r.run_eq_history s operations).2, ?_⟩
  constructor
  case created_once => exact horderly.created_once
  case no_creation_after_created =>
    intro before call server after hsplit hcall
    exact horderly.no_creation_after hsplit hcall
  case no_creation_from_stop =>
    intro earlier stop later hsplit hstop call hcall
    rw [hsplit] at hpath
    obtain ⟨_, hstep, hlater⟩ := hpath.split
    rw [hstop] at hstep
    obtain ⟨hstopped, hdeletes⟩ := hstep.of_stop
    have hover : ¬ stop.runner.IsStartable := by
      intro hstartable
      rw [hstartable.1] at hstopped
      cases hstopped
    rcases List.mem_append.1 hcall with hcall | hcall
    · exact hdeletes call hcall
    · exact hlater.all_calls (fun ht h => h.not_startable ht) (fun ht h => h.no_creation ht) hover call hcall
  case creation_is_ours =>
    intro ns pod reply hcall
    refine hpath.all_calls (I := SameSettings r) (Q := fun call => ∀ ns pod reply,
      call = .create ns pod reply → ns = r.owner.ns ∧ Manifest.build r.workload r.owner = .ok pod)
      (fun ht h => ht.trans h.sameSettings) ?_ (.refl r) _ hcall ns pod reply rfl
    rintro t _ _ _ _ ht hstep _ hcall ns pod reply rfl
    obtain ⟨hns, hpod⟩ := hstep.creation hcall
    rw [ht.workload_eq, ht.owner_eq] at hpod
    exact ⟨hns.trans (ht.ns_eq.trans hr.ns_eq), hpod⟩
  case use_of_created =>
    intro before call after hsplit hcall
    exact horderly.use_of_created hsplit hcall
  case no_query_once_settled =>
    intro earlier p later hsplit hsettled
    rw [hsplit] at hpath
    obtain ⟨_, _, hlater⟩ := hpath.split
    exact hlater.all_calls (fun ht h => h.settled ht) (fun ht h => h.no_query ht) hsettled

/-- One creation, one query and one deletion; the start after the stop makes no call. -/
theorem specimen_disciplined :
    specimen.Unused ∧
      Disciplined specimen (specimen.history obliging [.start, .wait .latest, .stop, .start]) ∧
      (callsOf (specimen.history obliging [.start, .wait .latest, .stop, .start])).map
        (fun call => (call.isCreate, call.isGet)) = [(true, false), (false, true), (false, false)] := by
  have hunused : specimen.Unused := (Built.new _ _).unused
  exact ⟨hunused, (run_disciplined hunused obliging _).2, by decide +kernel⟩

end PodRunner.Runner
