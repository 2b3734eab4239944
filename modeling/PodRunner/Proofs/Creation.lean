import PodRunner.Proofs.CallDiscipline

/-!
# Creations over the API

Over the API an instance is created by a request, and only a start sends one. The runner remembers the instance
if the answer names a Pod, and then none of its operations sends another. An answer of success that names no Pod is
taken for a failure: the runner stays as it was, so the next start sends the request again, and a stop finds
nothing to delete.
-/

namespace PodRunner

open Kubernetes (ApiError Request Response)

namespace Kubernetes.Response

variable {response : Response} {ns : String}

def podName? (response : Response) : Option String := response.pod.toOption.bind (·.metadata.name)

def created (response : Response) (ns : String) : Except Error Instance :=
  (response.pod.mapError (·.toError)).bind (·.instance? ns)

theorem created_of_named {name : String} (h : response.podName? = some name) :
    ∃ server, response.created ns = .ok server ∧ server.name = name := by
  rw [podName?] at h
  cases hpod : response.pod with
  | error e =>
    rw [hpod] at h
    cases h
  | ok pod =>
    rw [hpod] at h
    have hname : pod.metadata.name = some name := h
    have hcreated : response.created ns = pod.instance? ns := by
      rw [created, hpod]
      rfl
    rw [hcreated, Pod.instance?, hname]
    exact ⟨_, rfl, rfl⟩

/-- A response of success that names no Pod is taken for an error. -/
theorem created_of_unnamed (hsuccess : response.isFailure = false) (h : response.podName? = none) :
    response.created ns = .error Pod.unnamed ∨ response.created ns = .error ApiError.undecodable.toError := by
  rw [podName?] at h
  cases hpod : response.pod with
  | ok pod =>
    left
    rw [hpod] at h
    have hname : pod.metadata.name = none := h
    have hcreated : response.created ns = pod.instance? ns := by
      rw [created, hpod]
      rfl
    rw [hcreated, Pod.instance?, hname]
  | error e =>
    right
    have hundecodable : e = .undecodable := by
      have hbody : response.checked = .ok response.body := by
        rw [checked, hsuccess]
        rfl
      rw [pod, hbody] at hpod
      dsimp only [bind, Except.bind] at hpod
      split at hpod <;> cases hpod
      rfl
    rw [created, hpod, hundecodable]
    rfl

end Kubernetes.Response

def Exchange.isPost (x : Exchange) : Bool := x.request.method = .post

/-! ### Requests that create -/

namespace Orchestrator

variable {α : Type} (o : Orchestrator)

def posts : List Exchange := o.exchanges.filter Exchange.isPost

def nextReply : Reply Response := o.responses o.exchanges.length

theorem posts_append {p : Orchestrator} {x : Exchange} (h : p.exchanges = o.exchanges ++ [x]) :
    p.posts = o.posts ++ [x].filter Exchange.isPost := by
  rw [posts, h, List.filter_append, posts]

theorem exchange_posts (request : Except ApiError Request) (read : Response → Except ApiError α)
    (h : ∀ sent, request = .ok sent → sent.method ≠ .post) : (o.exchange request read).2.posts = o.posts := by
  cases request with
  | error e => rfl
  | ok sent =>
    have hother : [(⟨sent, o.nextReply⟩ : Exchange)].filter Exchange.isPost = [] :=
      List.filter_cons_of_neg (by simpa [Exchange.isPost] using h sent rfl)
    rw [o.posts_append (x := ⟨sent, o.nextReply⟩) rfl, hother, List.append_nil]

theorem query_posts (name ns : String) (asked : Time) : (o.query name ns asked).2.posts = o.posts := by
  cases h : o.backend with
  | scripted script => simp only [query, h, remember, posts]
  | kubernetes =>
    have hsent := o.exchange_posts (Request.getPod name ns) (·.pod) fun sent hsent => by
      rw [Request.getPod_method hsent]
      decide
    simp only [query, h]
    exact hsent

theorem delete_posts (name ns : String) : (o.delete name ns).2.posts = o.posts := by
  cases h : o.backend with
  | scripted script => simp only [delete, h, remember, posts]
  | kubernetes =>
    have hsent := o.exchange_posts (Request.deletePod name ns) (·.deletion) fun sent hsent => by
      rw [Request.deletePod_method hsent]
      decide
    simp only [delete, h]
    exact hsent

/-- A creation sends this request. -/
structure Sends (o : Orchestrator) (ns : String) (pod : Pod) (request : Request) : Prop where
  backend_eq : o.backend = .kubernetes
  request_eq : Request.createPod ns pod = .ok request

variable {o} {ns : String} {pod : Pod} {request : Request}

theorem Sends.create_eq (h : o.Sends ns pod request) :
    (o.create ns pod).2.exchanges = o.exchanges ++ [⟨request, o.nextReply⟩] ∧
      (o.create ns pod).2.backend = .kubernetes := by
  simp only [create, h.backend_eq, exchange, h.request_eq, remember, nextReply, and_self]

theorem Sends.posts_eq (h : o.Sends ns pod request) :
    (o.create ns pod).2.posts = o.posts ++ [⟨request, o.nextReply⟩] := by
  have hpost : [(⟨request, o.nextReply⟩ : Exchange)].filter Exchange.isPost = [⟨request, o.nextReply⟩] :=
    List.filter_cons_of_pos (by simp [Exchange.isPost, Request.createPod_method h.request_eq])
  rw [o.posts_append h.create_eq.1, hpost]

theorem Sends.result_eq (h : o.Sends ns pod request) {response : Response}
    (hreply : o.nextReply.result = .ok response) : (o.create ns pod).1.result = response.created ns := by
  rw [nextReply] at hreply
  simp only [create, h.backend_eq, exchange, h.request_eq, hreply]
  rfl

theorem sends_or_posts_eq (o : Orchestrator) (ns : String) (pod : Pod) :
    (∃ request, o.Sends ns pod request) ∨ (o.create ns pod).2.posts = o.posts := by
  cases hbackend : o.backend with
  | scripted script =>
    right
    simp only [create, hbackend, remember, posts]
  | kubernetes =>
    cases hrequest : Request.createPod ns pod with
    | ok request => exact Or.inl ⟨request, hbackend, hrequest⟩
    | error e =>
      right
      simp only [create, hbackend, exchange, hrequest, remember, posts]

end Orchestrator

namespace Session

def postsSince (s t : Session Orchestrator) : List Exchange := t.remote.posts.drop s.remote.posts.length

variable {s t : Session Orchestrator}

theorem postsSince_of_append {sent : List Exchange} (h : t.remote.posts = s.remote.posts ++ sent) :
    s.postsSince t = sent := by
  rw [postsSince, h, List.drop_left]

theorem postsSince_of_eq (h : t.remote.posts = s.remote.posts) : s.postsSince t = [] :=
  postsSince_of_append (h.trans (List.append_nil _).symm)

end Session

namespace Runner

variable {r : Runner} {s : Session Orchestrator}

/-! ### Who sends them -/

theorem start_remote {pod : Pod} (hstartable : r.IsStartable)
    (hbuild : Manifest.build r.workload r.owner = .ok pod) (s : Session Orchestrator) :
    (r.perform s .start).2.remote = (s.remote.create r.ns pod).2 := by
  let entered := s.log (.entered .start)
  obtain ⟨_, hremote, _⟩ := entered.createInstance_spec r.ns pod
  rw [perform, start, Session.traced, submit, if_neg (isStartable_iff.1 hstartable), hbuild]
  rcases hcreate : entered.createInstance r.ns pod with ⟨outcome, next⟩
  rw [hcreate] at hremote
  cases outcome <;> simp only [entered, hcreate] at * <;> exact hremote

theorem start_idle (h : ∀ pod, ¬ (r.IsStartable ∧ Manifest.build r.workload r.owner = .ok pod))
    (s : Session Orchestrator) : (r.perform s .start).2.remote = s.remote := by
  rw [perform, start, Session.traced, submit]
  by_cases hguard : r.state ≠ .unstarted ∨ r.instanceName.isSome
  · rw [if_pos hguard]
    rfl
  · rw [if_neg hguard]
    cases hbuild : Manifest.build r.workload r.owner with
    | error e => rfl
    | ok pod => exact absurd ⟨isStartable_iff.2 hguard, hbuild⟩ (h pod)

/-- What queries and deletions keep, every operation but a start keeps. -/
theorem perform_keeps {I : Orchestrator → Prop} (hquery : ∀ o name asked, I o → I (o.query name r.ns asked).2)
    (hdelete : ∀ o name, I o → I (o.delete name r.ns).2) (hs : I s.remote) {operation : Operation}
    (hoperation : operation ≠ .start) : I (r.perform s operation).2.remote := by
  cases operation with
  | start => exact absurd rfl hoperation
  | wait deadline =>
    change I (r.await deadline (s.log (.entered .waitUntilRunning))).2.remote
    unfold await
    split
    · exact hs
    · exact hs
    · exact pollUntil_keeps (fun o asked => hquery o _ asked) hs
    · exact pollUntil_keeps (fun o asked => hquery o _ asked) hs
    · exact hs
  | stop =>
    change I (r.dispose (s.log (.entered .stop))).2.remote
    unfold dispose
    split
    · exact hs
    · exact cleanUp_keeps (fun o => hdelete o _) hs
  | pass time =>
    have hremote := s.advance_remote time
    rw [perform]
    split <;> rename_i heq <;> rw [heq] at hremote <;> exact hremote.symm ▸ hs

theorem perform_posts {operation : Operation} (hoperation : operation ≠ .start) :
    (r.perform s operation).2.remote.posts = s.remote.posts := by
  apply perform_keeps (I := fun o => o.posts = s.remote.posts)
  · exact fun o name asked ho => (o.query_posts name r.ns asked).trans ho
  · exact fun o name ho => (o.delete_posts name r.ns).trans ho
  · rfl
  · exact hoperation

/-- A runner that knows its instance by name sends no request to create one. -/
theorem perform_posts_of_named {name : String} (hname : r.instanceName = some name) (operation : Operation) :
    (r.perform s operation).2.remote.posts = s.remote.posts := by
  by_cases hoperation : operation = .start
  · subst hoperation
    rw [start_idle fun _ h => absurd (hname.symm.trans h.1.2) nofun]
  · exact perform_posts hoperation

theorem run_posts_of_named {name : String} (hname : r.instanceName = some name) (s : Session Orchestrator)
    (operations : List Operation) : (r.run s operations).2.remote.posts = s.remote.posts := by
  induction operations generalizing r s with
  | nil => rfl
  | cons operation rest ih =>
    obtain ⟨_, _, hstep⟩ := r.perform_step s operation
    have hposts := perform_posts_of_named (s := s) hname operation
    rcases hperform : r.perform s operation with ⟨⟨outcome, after⟩, next⟩
    rw [hperform] at hstep hposts
    rw [run_cons hperform]
    split
    · exact hposts
    · exact (ih (hstep.instanceName_eq hname) next).trans hposts

/-- A start of this runner sends this request. -/
structure Posts (r : Runner) (o : Orchestrator) (pod : Pod) (request : Request) : Prop where
  startable : r.IsStartable
  build_eq : Manifest.build r.workload r.owner = .ok pod
  sends : o.Sends r.ns pod request

variable {pod : Pod} {request : Request}

theorem Posts.sent_eq (h : r.Posts s.remote pod request) :
    s.postsSince (r.perform s .start).2 = [⟨request, s.remote.nextReply⟩] := by
  apply Session.postsSince_of_append
  rw [start_remote h.startable h.build_eq, h.sends.posts_eq]

theorem Posts.again (h : r.Posts s.remote pod request) :
    r.Posts (r.perform s .start).2.remote pod request := by
  refine ⟨h.startable, h.build_eq, ?_, h.sends.request_eq⟩
  rw [start_remote h.startable h.build_eq]
  exact h.sends.create_eq.2

/-- Only a start sends a request to create a Pod, and only one. -/
theorem posts_of_sent {operation : Operation} {x : Exchange}
    (hsent : x ∈ s.postsSince (r.perform s operation).2) :
    operation = .start ∧ ∃ pod request, r.Posts s.remote pod request ∧ x = ⟨request, s.remote.nextReply⟩ := by
  have hunsent : ∀ t : Session Orchestrator, x ∈ s.postsSince t → t.remote.posts ≠ s.remote.posts := by
    intro t hmem heq
    rw [Session.postsSince_of_eq heq] at hmem
    cases hmem
  by_cases hoperation : operation = .start
  · subst hoperation
    refine ⟨rfl, ?_⟩
    by_cases hpod : ∃ pod, r.IsStartable ∧ Manifest.build r.workload r.owner = .ok pod
    · obtain ⟨pod, hstartable, hbuild⟩ := hpod
      rcases s.remote.sends_or_posts_eq r.ns pod with ⟨request, hsends⟩ | hposts
      · have hposted : r.Posts s.remote pod request := ⟨hstartable, hbuild, hsends⟩
        rw [hposted.sent_eq] at hsent
        exact ⟨pod, request, hposted, List.mem_singleton.1 hsent⟩
      · rw [← start_remote hstartable hbuild] at hposts
        exact absurd hposts (hunsent _ hsent)
    · exact absurd (congrArg Orchestrator.posts (start_idle (not_exists.1 hpod) s)) (hunsent _ hsent)
  · exact absurd (perform_posts hoperation) (hunsent _ hsent)

section Step

variable {after : Runner} {outcome : Outcome Answer} {ns : String} {reply : Reply Instance}

theorem Step.of_granted (h : Step r .start outcome after [.create ns pod reply])
    (htaken : outcome.isBroken = false) {server : Instance} (hreply : reply.result = .ok server) :
    outcome = .done .finished ∧ after.instanceName = some server.name := by
  cases h with
  | notCreated _ _ hrefused => cases hreply.symm.trans hrefused
  | creationBroke _ _ => cases htaken
  | created _ _ hcreated =>
    cases hreply.symm.trans hcreated
    exact ⟨rfl, rfl⟩

theorem Step.of_refused (h : Step r .start outcome after [.create ns pod reply])
    (htaken : outcome.isBroken = false) {e : Error} (hreply : reply.result = .error e) :
    outcome = .failed e ∧ after = r := by
  cases h with
  | notCreated _ _ hrefused =>
    cases hreply.symm.trans hrefused
    exact ⟨rfl, rfl⟩
  | creationBroke _ _ => cases htaken
  | created _ _ hcreated => cases hreply.symm.trans hcreated

end Step

theorem Posts.step (h : r.Posts s.remote pod request) :
    Step r .start (r.perform s .start).1.1 (r.perform s .start).1.2
      [.create r.ns pod (s.remote.create r.ns pod).1] := by
  obtain ⟨made, hcalls, hstep⟩ := r.perform_step s .start
  rw [start_remote h.startable h.build_eq, Orchestrator.create_calls] at hcalls
  rw [List.append_cancel_left hcalls]
  exact hstep

/-! ### What an answer leads to -/

theorem stop_of_unnamed (hname : r.instanceName = none) (s : Session Orchestrator) :
    (r.perform s .stop).1.1 = .done (.stopped .nothingToStop) := by
  rw [perform, stop, Session.traced, dispose, hname]
  rfl

theorem stop_of_named {name : String} (hname : r.instanceName = some name) (s : Session Orchestrator) :
    (r.perform s .stop).1.1 ≠ .done (.stopped .nothingToStop) := by
  intro h
  rw [perform, stop, Session.traced, dispose, hname] at h
  have hcleaned := r.cleanUp_ne_nothingToStop name (s.log (.entered .stop))
  dsimp only at h
  cases houtcome : (r.cleanUp name (s.log (.entered .stop))).1 with
  | done outcome =>
    rw [houtcome] at h hcleaned
    cases h
    exact hcleaned rfl
  | _ =>
    rw [houtcome] at h
    cases h

/-- What an answer of success leads to is decided by whether it names a Pod. -/
theorem creation_answered {operation : Operation} {x : Exchange} {response : Response}
    (hsent : x ∈ s.postsSince (r.perform s operation).2) (hanswer : x.reply.result = .ok response)
    (hsuccess : response.isFailure = false) (htaken : (r.perform s operation).1.1.isBroken = false) :
    let outcome := (r.perform s operation).1.1
    let after := (r.perform s operation).1.2
    let next := (r.perform s operation).2
    (∀ name, response.podName? = some name →
      outcome = .done .finished ∧ after.instanceName = some name ∧ ∀ operations,
        let later := after.run next operations
        next.postsSince later.2 = [] ∧
          (later.1.perform later.2 .stop).1.1 ≠ .done (.stopped .nothingToStop)) ∧
    (response.podName? = none →
      (outcome = .failed Pod.unnamed ∨ outcome = .failed ApiError.undecodable.toError) ∧ after = r ∧
        (∃ reply, next.postsSince (after.perform next .start).2 = [⟨x.request, reply⟩]) ∧
        (after.perform next .stop).1.1 = .done (.stopped .nothingToStop)) := by
  obtain ⟨rfl, pod, request, hposts, rfl⟩ := posts_of_sent hsent
  have hstep := hposts.step
  have hagain := hposts.again
  have hresult := hposts.sends.result_eq hanswer
  rcases hperform : r.perform s .start with ⟨⟨outcome, after⟩, next⟩
  rw [hperform] at htaken hstep hagain
  dsimp only at htaken hstep hagain ⊢
  constructor
  · intro name hname
    obtain ⟨server, hcreated, rfl⟩ := Response.created_of_named hname
    obtain ⟨hdone, hnamed⟩ := hstep.of_granted htaken (hresult.trans hcreated)
    refine ⟨hdone, hnamed, fun operations => ?_⟩
    have hkept : (after.run next operations).1.instanceName = some server.name :=
      run_keeps (I := fun t => t.instanceName = some server.name) (P := fun _ => True)
        (fun _ ht h => h.instanceName_eq ht) hnamed next fun _ _ => trivial
    exact ⟨Session.postsSince_of_eq (run_posts_of_named hnamed next operations), stop_of_named hkept _⟩
  · intro hunnamed
    have hrefused : ∀ e, response.created r.ns = .error e → outcome = .failed e ∧ after = r := fun e he =>
      hstep.of_refused htaken (hresult.trans he)
    have hfailed : (outcome = .failed Pod.unnamed ∨ outcome = .failed ApiError.undecodable.toError) ∧
        after = r := by
      rcases Response.created_of_unnamed hsuccess hunnamed with he | he
      · exact ⟨Or.inl (hrefused _ he).1, (hrefused _ he).2⟩
      · exact ⟨Or.inr (hrefused _ he).1, (hrefused _ he).2⟩
    obtain ⟨houtcome, rfl⟩ := hfailed
    exact ⟨houtcome, rfl, ⟨_, hagain.sent_eq⟩, stop_of_unnamed hposts.startable.2 next⟩

def answering (response : Response) : Session Orchestrator :=
  .starting .epoch (.overKubernetes fun _ => .prompt (.ok response))

def namedPod : Response := ⟨201, "\x7b\"metadata\": \x7b\"name\": \"modelserver-1\"\x7d\x7d"⟩

theorem answering_reply {response : Response} {operation : Operation} {x : Exchange}
    (hsent : x ∈ (answering response).postsSince (r.perform (answering response) operation).2) :
    x.reply.result = .ok response := by
  obtain ⟨_, _, _, _, rfl⟩ := posts_of_sent hsent
  rfl

/-- The Pod that a start creates is the only one, and a stop after two more starts tries to delete it. -/
theorem namedPod_creates_once :
    let s := answering namedPod
    let started := specimen.perform s .start
    let later := started.1.2.run started.2 [.start, .wait .earliest, .start]
    started.1.1 = .done .finished ∧ started.1.2.instanceName = some "modelserver-1" ∧
      (s.postsSince started.2).length = 1 ∧ started.2.postsSince later.2 = [] ∧
      (later.1.perform later.2 .stop).1.1 ≠ .done (.stopped .nothingToStop) := by
  have hposted : ((answering namedPod).postsSince
      (specimen.perform (answering namedPod) .start).2).length = 1 := by decide +kernel
  have hreturned : (specimen.perform (answering namedPod) .start).1.1.isBroken = false := by decide +kernel
  have hname : namedPod.podName? = some "modelserver-1" := by decide +kernel
  have hsuccess : namedPod.isFailure = false := rfl
  obtain ⟨x, hx⟩ := List.length_eq_one_iff.1 hposted
  have hsent : x ∈ (answering namedPod).postsSince (specimen.perform (answering namedPod) .start).2 := by
    rw [hx]
    exact List.mem_singleton_self x
  obtain ⟨hanswered, _⟩ := creation_answered hsent (answering_reply hsent) hsuccess hreturned
  obtain ⟨hdone, hnamed, hafter⟩ := hanswered "modelserver-1" hname
  obtain ⟨hnone, hstop⟩ := hafter [.start, .wait .earliest, .start]
  exact ⟨hdone, hnamed, hposted, hnone, hstop⟩

/-- The requests to create a Pod that two starts send, and what a stop after them answers. -/
def startedTwice (response : Response) : List Exchange × Outcome Answer :=
  let once := specimen.perform (answering response) .start
  let twice := once.1.2.perform once.2 .start
  (twice.2.remote.posts, (twice.1.2.perform twice.2 .stop).1.1)

def namelessPod : Response := ⟨201, "\x7b\"metadata\": \x7b\x7d\x7d"⟩

def truncatedPod : Response := ⟨201, "\x7b\"metadata\": "⟩

/-- After either answer there is a Pod, the second start has another one made, and the stop knows of none. -/
theorem unnamed_creates_twice :
    let nameless := startedTwice namelessPod
    let truncated := startedTwice truncatedPod
    namelessPod.isFailure = false ∧ truncatedPod.isFailure = false ∧
      nameless.1.map (·.reply.result.toOption) = [some namelessPod, some namelessPod] ∧
      truncated.1.map (·.reply.result.toOption) = [some truncatedPod, some truncatedPod] ∧
      nameless.2 = .done (.stopped .nothingToStop) ∧ truncated.2 = .done (.stopped .nothingToStop) := by
  decide +kernel

end Runner

end PodRunner
