import PodRunner.Proofs.Exchanges
import PodRunner.Proofs.Submission

/-!
# Finding the owner

A process that runs in a Pod finds its owner in steps: its name, its namespace, the Pod of this name, and what the
Pod says about itself. The first step that fails is the last one, and nothing is sent before both variables are known.
What a runner is told about its owner is what the Pod says: the namespace of the environment only serves to ask for
the Pod.
-/

namespace PodRunner

open Kubernetes (ApiError Request Response)

/-! ### The variables -/

namespace Owner

variable {lookup other : String → Option String} {key value name ns : String}

def Sets (lookup : String → Option String) (key value : String) : Prop := lookup key = some value ∧ value ≠ ""

def Unset (lookup : String → Option String) (key : String) : Prop := ∀ value, ¬ Sets lookup key value

/-- The first of the two variables that has no value. -/
inductive FirstUnset (lookup : String → Option String) : String → Prop
  | name (hname : Unset lookup podNameVariable) : FirstUnset lookup podNameVariable
  | ns {name : String} (hname : Sets lookup podNameVariable name) (hns : Unset lookup namespaceVariable) :
      FirstUnset lookup namespaceVariable

theorem read_of_sets (h : Sets lookup key value) : read lookup key = .ok value := by
  have hkept : (lookup key).filter (fun value => !value.isEmpty) = some value := by
    rw [h.1, Option.filter_some, if_pos]
    simpa [String.isEmpty_iff] using h.2
  rw [read, hkept]

theorem read_of_unset (h : Unset lookup key) : read lookup key = .error (unset key) := by
  have hnone : (lookup key).filter (fun value => !value.isEmpty) = none := by
    rw [Option.filter_eq_none_iff]
    intro value hvalue hnonempty
    apply h value
    exact ⟨hvalue, by simpa [String.isEmpty_iff] using hnonempty⟩
  rw [read, hnone]

theorem sets_or_unset (lookup : String → Option String) (key : String) :
    (∃ value, Sets lookup key value) ∨ Unset lookup key := by
  rw [Unset, ← not_exists]
  exact Classical.em _

theorem set_or_firstUnset (lookup : String → Option String) :
    (∃ name ns, Sets lookup podNameVariable name ∧ Sets lookup namespaceVariable ns) ∨
      ∃ key, FirstUnset lookup key := by
  rcases sets_or_unset lookup podNameVariable with ⟨name, hname⟩ | hname
  · rcases sets_or_unset lookup namespaceVariable with ⟨ns, hns⟩ | hns
    · exact Or.inl ⟨name, ns, hname, hns⟩
    · exact Or.inr ⟨_, .ns hname hns⟩
  · exact Or.inr ⟨_, .name hname⟩

theorem identity_of_sets (hname : Sets lookup podNameVariable name) (hns : Sets lookup namespaceVariable ns) :
    identity lookup = (.ok (name, ns), [podNameVariable, namespaceVariable]) := by
  rw [identity, read_of_sets hname, read_of_sets hns]
  rfl

theorem FirstUnset.identity_eq (h : FirstUnset lookup key) : (identity lookup).1 = .error (unset key) := by
  cases h with
  | name hname => rw [identity, read_of_unset hname]
  | ns hname hns =>
    rw [identity, read_of_sets hname, read_of_unset hns]
    rfl

/-- Without a name nothing else is looked up. -/
theorem identity_of_unset (h : Unset lookup podNameVariable) :
    identity lookup = (.error (unset podNameVariable), [podNameVariable]) := by
  rw [identity, read_of_unset h]

theorem Unset.congr (h : Unset lookup key) (hsame : other key = lookup key) : Unset other key := by
  intro value hvalue
  apply h value
  exact ⟨hsame.symm.trans hvalue.1, hvalue.2⟩

/-! ### The Pod -/

/-- The owner is this Pod, by all that the Pod says about itself. -/
structure IsOf (owner : Owner) (pod : Pod) : Prop where
  name_eq : pod.metadata.name = some owner.name
  uid_eq : pod.metadata.uid = some owner.uid
  ns_eq : pod.metadata.ns = some owner.ns
  account_eq : pod.spec.bind (·.serviceAccountName) = owner.serviceAccountName
  apiVersion_eq : owner.apiVersion = "v1"
  kind_eq : owner.kind = "Pod"

theorem exists_isOf_iff {pod : Pod} : (∃ owner : Owner, owner.IsOf pod) ↔
    pod.metadata.name ≠ none ∧ pod.metadata.uid ≠ none ∧ pod.metadata.ns ≠ none := by
  simp only [Option.ne_none_iff_exists']
  constructor
  · intro ⟨owner, h⟩
    exact ⟨⟨_, h.name_eq⟩, ⟨_, h.uid_eq⟩, ⟨_, h.ns_eq⟩⟩
  · intro ⟨⟨name, hname⟩, ⟨uid, huid⟩, ⟨ns, hns⟩⟩
    exact ⟨⟨"v1", "Pod", name, uid, ns, _⟩, hname, huid, hns, rfl, rfl, rfl⟩

end Owner

namespace Pod

variable {pod : Pod} {field : String} {owner : Owner}

/-- The first thing that the Pod does not say about itself. -/
inductive Lacks (pod : Pod) : String → Prop
  | name (hname : pod.metadata.name = none) : Lacks pod "name"
  | uid {name : String} (hname : pod.metadata.name = some name) (huid : pod.metadata.uid = none) :
      Lacks pod "uid"
  | ns {name uid : String} (hname : pod.metadata.name = some name) (huid : pod.metadata.uid = some uid)
      (hns : pod.metadata.ns = none) : Lacks pod "namespace"

theorem Lacks.owner?_eq (h : pod.Lacks field) : pod.owner? = .error (ownerLacks field) := by
  cases h with
  | name hname => rw [owner?, hname]
  | uid hname huid => rw [owner?, hname, huid]
  | ns hname huid hns => rw [owner?, hname, huid, hns]

theorem owner?_eq_ok_iff : pod.owner? = .ok owner ↔ owner.IsOf pod := by
  constructor
  · intro h
    unfold owner? at h
    split at h
    · cases h
    · rename_i name hname
      split at h
      · cases h
      · rename_i uid huid
        split at h <;> cases h
        rename_i ns hns
        exact ⟨hname, huid, hns, rfl, rfl, rfl⟩
  · intro h
    obtain ⟨apiVersion, kind, name, uid, ns, account⟩ := owner
    obtain ⟨hname, huid, hns, haccount, rfl, rfl⟩ := h
    rw [owner?, hname, huid, hns, haccount]
    rfl

end Pod

/-! ### The resolution -/

namespace Session

variable {s : Session Orchestrator} {lookup : String → Option String} {name ns : String}

/-- When the reply about the Pod comes, if that is in the calendar. -/
def heardAt? (s : Session Orchestrator) (name ns : String) : Option Time :=
  s.clock.now.later? (Clock.move (s.remote.getPod name ns).1.advance)

theorem resolveOwner_of_unset {e : Error} (h : (Owner.identity lookup).1 = .error e) :
    s.resolveOwner (.ownPod lookup) =
      (.failed e, (s.log (.entered .resolveOwner)).log (.left .resolveOwner)) := by
  show s.traced .resolveOwner (resolveOwnPod lookup) = _
  rw [traced, resolveOwnPod, h]

def noted : Outcome Owner → List Event
  | .done owner => [.ownerResolved owner]
  | _ => []

/-- With both, all depends on what is heard about the Pod. -/
theorem resolveOwner_of_set (h : (Owner.identity lookup).1 = .ok (name, ns)) :
    let resolved := s.resolveOwner (.ownPod lookup)
    resolved.2.remote = (s.remote.getPod name ns).2 ∧
      resolved.2.events = s.events ++ .entered .resolveOwner :: noted resolved.1 ++ [.left .resolveOwner] ∧
      resolved.1 = (s.heardAt? name ns).elim (.broken .timeOutOfRange) fun _ =>
        .ofExcept (((s.remote.sighting name ns 0).mapError (·.toError)).bind (·.owner?)) := by
  intro resolved
  have hresult : (s.remote.getPod name ns).1.result =
      (s.remote.sighting name ns 0).mapError (·.toError) := s.remote.exchange_result _ _
  have hresolved : resolved = s.traced .resolveOwner (resolveOwnPod lookup) := rfl
  let asked : Session Orchestrator :=
    { s.log (.entered .resolveOwner) with remote := (s.remote.getPod name ns).2 }
  rw [hresolved, traced, resolveOwnPod, h, ← hresult]
  dsimp only [log_remote]
  cases hheard : s.heardAt? name ns with
  | none =>
    have hreceived : asked.receive (s.remote.getPod name ns).1 = (.broken .timeOutOfRange, asked) :=
      receive_overrun hheard
    rw [hreceived]
    exact ⟨rfl, rfl, rfl⟩
  | some later =>
    have hreceived : asked.receive (s.remote.getPod name ns).1 = (Outcome.ofExcept (s.remote.getPod name ns).1.result,
        { asked with clock := { asked.clock with now := later } }) := receive_ok hheard
    rw [hreceived]
    cases (s.remote.getPod name ns).1.result with
    | error e => exact ⟨rfl, rfl, rfl⟩
    | ok pod =>
      dsimp only [Outcome.ofExcept]
      cases howner : pod.owner? with
      | error e => simp [howner, Except.bind, asked, noted]
      | ok owner => simp [howner, Except.bind, asked, noted]

theorem resolveOwner_events (s : Session Orchestrator) (lookup : String → Option String) :
    let resolved := s.resolveOwner (.ownPod lookup)
    resolved.2.events = s.events ++ .entered .resolveOwner :: noted resolved.1 ++ [.left .resolveOwner] := by
  cases hidentity : (Owner.identity lookup).1 with
  | error e =>
    rw [resolveOwner_of_unset hidentity]
    rfl
  | ok named => exact (resolveOwner_of_set hidentity).2.1

/-- The Pod of this name in this namespace is asked for once, and what is heard decides. -/
structure Asks (s : Session Orchestrator) (name ns : String) (resolved : Outcome Owner × Session Orchestrator) :
    Prop where
  unsent : ∀ e, Request.getPod name ns = .error e → resolved.1 = .failed e.toError ∧ resolved.2.remote = s.remote
  sent : ∀ request, Request.getPod name ns = .ok request →
    request.method = .get ∧ Request.address? s!"{Request.podsUri ns}/{name}" = some request.uri ∧
      request.body = none ∧
      resolved.2.remote = { s.remote with exchanges := s.remote.exchanges ++ [⟨request, s.remote.nextReply⟩] }
  overrun : s.heardAt? name ns = none → resolved.1 = .broken .timeOutOfRange
  refused : ∀ later e, s.heardAt? name ns = some later → s.remote.sighting name ns 0 = .error e →
    resolved.1 = .failed e.toError
  lacking : ∀ later pod field, s.heardAt? name ns = some later → s.remote.sighting name ns 0 = .ok pod →
    pod.Lacks field → resolved.1 = .failed (.ownerUnavailable s!"owner pod has no {field}")
  found : ∀ later pod, s.heardAt? name ns = some later → s.remote.sighting name ns 0 = .ok pod →
    (∀ owner, resolved.1 = .done owner ↔ owner.IsOf pod) ∧ ((∃ owner, resolved.1 = .done owner) ↔
      pod.metadata.name ≠ none ∧ pod.metadata.uid ≠ none ∧ pod.metadata.ns ≠ none)

theorem heardAt?_of_unsent {e : ApiError} (h : Request.getPod name ns = .error e) :
    s.heardAt? name ns = some s.clock.now := by
  rw [heardAt?, Orchestrator.getPod, h]
  exact Time.later?_zero s.clock.now

theorem resolveOwner_asks (h : (Owner.identity lookup).1 = .ok (name, ns)) :
    s.Asks name ns (s.resolveOwner (.ownPod lookup)) := by
  obtain ⟨hremote, _, houtcome⟩ := s.resolveOwner_of_set h
  constructor
  case unsent =>
    intro e hunsent
    rw [houtcome, hremote, heardAt?_of_unsent hunsent, Orchestrator.sighting, Orchestrator.getPod, hunsent]
    exact ⟨rfl, rfl⟩
  case sent =>
    intro request hsent
    obtain ⟨hmethod, huri, hbody⟩ := Request.getPod_ok hsent
    refine ⟨hmethod, huri, hbody, ?_⟩
    rw [hremote, Orchestrator.getPod, hsent]
    rfl
  case overrun =>
    intro hheard
    rw [houtcome, hheard]
    rfl
  case refused =>
    intro later e hheard hrefused
    rw [houtcome, hheard, hrefused]
    rfl
  case lacking =>
    intro later pod field hheard hfound hlacks
    rw [houtcome, hheard, hfound]
    show Outcome.ofExcept pod.owner? = _
    rw [hlacks.owner?_eq]
    rfl
  case found =>
    intro later pod hheard hfound
    have hdone : ∀ owner, (s.resolveOwner (.ownPod lookup)).1 = .done owner ↔ owner.IsOf pod := by
      intro owner
      rw [houtcome, hheard, hfound]
      show Outcome.ofExcept pod.owner? = _ ↔ _
      rw [Outcome.ofExcept_eq_done_iff, Pod.owner?_eq_ok_iff]
    refine ⟨hdone, ?_⟩
    simp only [hdone]
    exact Owner.exists_isOf_iff

theorem Asks.exists_pod {resolved : Outcome Owner × Session Orchestrator} (h : s.Asks name ns resolved)
    {owner : Owner} (hdone : resolved.1 = .done owner) :
    ∃ pod, s.remote.sighting name ns 0 = .ok pod ∧ owner.IsOf pod := by
  cases hheard : s.heardAt? name ns with
  | none => cases (h.overrun hheard).symm.trans hdone
  | some later =>
    cases hsighting : s.remote.sighting name ns 0 with
    | error e => cases (h.refused later e hheard hsighting).symm.trans hdone
    | ok pod => exact ⟨pod, rfl, ((h.found later pod hheard hsighting).1 owner).1 hdone⟩

end Session

/-! ### Runners of the owner -/

namespace Runner

variable {lookup : String → Option String} {s : Session Orchestrator} {pod : Pod} {r : Runner}

inductive BuiltFor (lookup : String → Option String) (s : Session Orchestrator) : Runner → Prop
  | new {owner : Owner} (hfound : (s.resolveOwner (.ownPod lookup)).1 = .done owner) (workload : Workload) :
      BuiltFor lookup s (new owner workload)
  | fromContext {context : Context} {modelPath : String} {past next : Session Orchestrator} {r : Runner}
      (hs : s = past.log (.entered .fromContext))
      (h : fromContext (.ownPod lookup) context modelPath past = (.done r, next)) : BuiltFor lookup s r

theorem BuiltFor.built (h : BuiltFor lookup s r) : Built r := by
  cases h with
  | new hfound workload => exact .new _ workload
  | fromContext _ h => exact .fromContext h

theorem BuiltFor.owner_found (h : BuiltFor lookup s r) : (s.resolveOwner (.ownPod lookup)).1 = .done r.owner := by
  cases h with
  | new hfound workload => exact hfound
  | fromContext hs h =>
    obtain ⟨owner, hfound, hassemble⟩ := fromContext_assembled h
    obtain ⟨_, _, workload, _, _, _, rfl⟩ := assemble_ok hassemble
    rw [hs]
    exact hfound

/-- The runner creates its instances beside the Pod and belonging to it, whatever it is asked to do, and a first start
does create one. -/
structure Beside (r : Runner) (pod : Pod) : Prop where
  creations : ∀ (t : Session Orchestrator) operations ns created reply,
    .create ns created reply ∈ t.callsSince (r.run t operations).2 → pod.metadata.ns = some ns ∧
      ∃ name uid, pod.metadata.name = some name ∧ pod.metadata.uid = some uid ∧
        created.metadata.ownerReferences = some [⟨"v1", "Pod", name, uid⟩]
  start : ∀ (t : Session Orchestrator) created, Manifest.build r.workload r.owner = .ok created → ∃ ns reply,
    pod.metadata.ns = some ns ∧ (r.perform t .start).2.remote.calls = t.remote.calls ++ [.create ns created reply]

theorem Built.beside (hbuilt : Built r) (howner : r.owner.IsOf pod) : r.Beside pod := by
  have hunused := hbuilt.unused
  constructor
  case creations =>
    intro t operations ns created reply hcall
    obtain ⟨hns, hbuild⟩ := run_creations hunused.ns_eq t operations hcall
    obtain ⟨_, rfl⟩ := Manifest.build_eq_ok_iff.1 hbuild
    refine ⟨by rw [hns, howner.ns_eq], _, _, howner.name_eq, howner.uid_eq, ?_⟩
    rw [← howner.apiVersion_eq, ← howner.kind_eq]
    rfl
  case start =>
    intro t created hbuild
    refine ⟨r.owner.ns, (t.remote.create r.ns created).1, howner.ns_eq, ?_⟩
    rw [start_remote ⟨hunused.state_eq, hunused.instanceName_eq⟩ hbuild, Orchestrator.create_calls, hunused.ns_eq]

end Runner

/-- The owner is found step by step, or the first step that fails tells why. A variable that is missing is named, the
first one first, with nothing sent and, without a name, nothing more looked up. With both the Pod is asked for once,
and what is heard decides. A runner for the owner that is found belongs to that Pod and stays beside it, whatever the
namespace is in which the Pod was asked for. A reply that leaves the calendar is one case more and no exception: what it
holds is never read, and no owner is found (`Asks.overrun`). -/
theorem Session.resolveOwner_faithful (lookup : String → Option String) (s : Session Orchestrator) :
    let resolved := s.resolveOwner (.ownPod lookup)
    (∀ key, Owner.FirstUnset lookup key → resolved.2.remote = s.remote ∧
      resolved.1 = .failed (.ownerUnavailable s!"environment variable <{key}> is not set")) ∧
      (Owner.Unset lookup Owner.podNameVariable → (Owner.identity lookup).2 = [Owner.podNameVariable] ∧
        ∀ other, other Owner.podNameVariable = lookup Owner.podNameVariable →
          s.resolveOwner (.ownPod other) = resolved) ∧
      (∀ name ns, Owner.Sets lookup Owner.podNameVariable name → Owner.Sets lookup Owner.namespaceVariable ns →
        s.Asks name ns resolved) ∧
      ∀ r, Runner.BuiltFor lookup s r → ∃ name ns pod, Owner.Sets lookup Owner.podNameVariable name ∧
        Owner.Sets lookup Owner.namespaceVariable ns ∧ s.remote.sighting name ns 0 = .ok pod ∧
        r.owner.IsOf pod ∧ r.Beside pod := by
  intro resolved
  have hasks : ∀ name ns, Owner.Sets lookup Owner.podNameVariable name →
      Owner.Sets lookup Owner.namespaceVariable ns → s.Asks name ns resolved := by
    intro name ns hname hns
    apply resolveOwner_asks
    rw [Owner.identity_of_sets hname hns]
  have hunset : ∀ key, Owner.FirstUnset lookup key →
      resolved.2.remote = s.remote ∧ resolved.1 = .failed (Owner.unset key) := by
    intro key hfirst
    have hresolved := s.resolveOwner_of_unset hfirst.identity_eq
    exact ⟨congrArg (·.2.remote) hresolved, congrArg Prod.fst hresolved⟩
  refine ⟨hunset, ?_, hasks, ?_⟩
  · intro hname
    refine ⟨congrArg Prod.snd (Owner.identity_of_unset hname), ?_⟩
    intro other hsame
    have hother := Owner.FirstUnset.name (hname.congr hsame)
    exact (resolveOwner_of_unset hother.identity_eq).trans
      (resolveOwner_of_unset (Owner.FirstUnset.name hname).identity_eq).symm
  · intro r hr
    have hfound : resolved.1 = .done r.owner := hr.owner_found
    rcases Owner.set_or_firstUnset lookup with ⟨name, ns, hname, hns⟩ | ⟨key, hfirst⟩
    · obtain ⟨pod, hpod, howner⟩ := (hasks name ns hname hns).exists_pod hfound
      exact ⟨name, ns, pod, hname, hns, hpod, howner, hr.built.beside howner⟩
    · cases (hunset key hfirst).2.symm.trans hfound

def teamPod : Response :=
  ⟨200, "\x7b\"metadata\": \x7b\"name\": \"trainer-0\", \"uid\": \"b2\", \"namespace\": \"team\"\x7d\x7d"⟩

/-- The environment names a namespace of its own, and the owner is in that of the Pod. -/
example : ((Runner.answering teamPod).resolveOwner
    (.ownPod fun key => some (if key = "KFP_POD_NAME" then "trainer-0" else "elsewhere"))).1 =
      .done ⟨"v1", "Pod", "trainer-0", "b2", "team", none⟩ := by
  decide +kernel

end PodRunner
