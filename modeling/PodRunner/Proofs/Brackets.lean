import PodRunner.Proofs.Construction
import PodRunner.Proofs.Exchanges
import PodRunner.Proofs.Notices

/-!
# Marks in the log

The beginning and the end of a function are marked however it ends, so the marks of a log are well bracketed. Each
operation contributes one pair that encloses everything else it logs. Inside it are the pairs of the calls that the
Kubernetes API marks, one after the other: a creation, the attempts to delete, the owner that is asked for. Polling is
not marked.
-/

namespace PodRunner

namespace Event

def isMark : Event → Bool
  | entered _ | left _ => true
  | _ => false

def marks (events : List Event) : List Event := events.filter isMark

/-- The marks of functions that run one after the other and have no marked functions inside them. -/
def pairs (functions : List Traced) : List Event :=
  functions.flatMap fun function => [entered function, left function]

/-- Every beginning has an end of the same function, and what is in between is balanced itself. -/
inductive Balanced : List Event → Prop
  | nil : Balanced []
  | enclosed {function : Traced} {inner rest : List Event} (hinner : Balanced inner) (hrest : Balanced rest) :
      Balanced (entered function :: inner ++ left function :: rest)

variable {events later : List Event}

theorem Balanced.append (h : Balanced events) (hlater : Balanced later) : Balanced (events ++ later) := by
  induction h with
  | nil => exact hlater
  | enclosed hinner _ _ ih =>
    rw [List.append_assoc, List.cons_append]
    exact .enclosed hinner ih

theorem Balanced.enclose (h : Balanced events) (function : Traced) :
    Balanced (entered function :: events ++ [left function]) := .enclosed h .nil

theorem balanced_pairs (functions : List Traced) : Balanced (pairs functions) := by
  induction functions with
  | nil => exact .nil
  | cons function functions ih =>
    change Balanced (entered function :: [] ++ left function :: pairs functions)
    exact .enclosed .nil ih

theorem marks_append (events later : List Event) : marks (events ++ later) = marks events ++ marks later :=
  List.filter_append ..

theorem pairs_append (functions more : List Traced) : pairs (functions ++ more) = pairs functions ++ pairs more :=
  List.flatMap_append

theorem marks_pairs (functions : List Traced) : marks (pairs functions) = pairs functions := by
  refine List.filter_eq_self.2 fun event hmem => ?_
  obtain ⟨function, _, hmark⟩ := List.mem_flatMap.1 hmem
  rcases List.mem_pair.1 hmark with rfl | rfl <;> rfl

theorem marks_eq_nil (h : ∀ event ∈ events, event.isMark = false) : marks events = [] :=
  List.filter_eq_nil_iff.2 fun event hmem => Bool.not_eq_true _ ▸ h event hmem

theorem isMark_of_level {event : Event} (h : event.level ≠ .trace) : event.isMark = false := by
  cases event with
  | entered _ | left _ => exact absurd rfl h
  | _ => rfl

theorem isMark_of_isNotice {event : Event} (h : event.isNotice = true) : event.isMark = false := by
  cases event with
  | entered _ | left _ => cases h
  | _ => rfl

end Event

/-! ### Marked calls -/

namespace Session

/-- The marked functions behind so many calls. Only the Kubernetes API marks them. -/
def marking (s : Session Orchestrator) (function : Traced) (calls : Nat) : List Traced :=
  if s.remote.isKubernetes then List.replicate calls function else []

/-- A later session. The marks that were logged up to it are those of the calls of one kind. -/
structure Marked (function : Traced) (counts : Call → Bool) (s t : Session Orchestrator) : Prop where
  isKubernetes_eq : t.remote.isKubernetes = s.remote.isKubernetes
  written : ∃ made events, t.remote.calls = s.remote.calls ++ made ∧ t.events = s.events ++ events ∧
    Event.marks events = Event.pairs (s.marking function (made.countP counts))

section Marked

variable {function : Traced} {counts : Call → Bool} {s t u : Session Orchestrator}

theorem marking_zero (s : Session Orchestrator) (function : Traced) : s.marking function 0 = [] := ite_self _

theorem marking_succ (s : Session Orchestrator) (function : Traced) (calls : Nat) :
    s.marking function (calls + 1) = s.marking function calls ++ s.marking function 1 := by
  unfold marking
  split
  · exact List.replicate_succ'
  · rfl

theorem Marked.refl (function : Traced) (counts : Call → Bool) (s : Session Orchestrator) :
    Marked function counts s s :=
  ⟨rfl, [], [], (List.append_nil _).symm, (List.append_nil _).symm, by rw [List.countP_nil, marking_zero]; rfl⟩

theorem Marked.of_eq (h : Marked function counts s t) (hremote : u.remote = t.remote) (hevents : u.events = t.events) :
    Marked function counts s u := by
  obtain ⟨hkubernetes, hwritten⟩ := h
  refine ⟨?_, ?_⟩ <;> rw [hremote]
  · exact hkubernetes
  · rw [hevents]
    exact hwritten

theorem Marked.log (h : Marked function counts s t) (event : Event) (hquiet : event.isMark = false) :
    Marked function counts s (t.log event) := by
  obtain ⟨hkubernetes, made, events, hcalls, hevents, hmarks⟩ := h
  refine ⟨hkubernetes, made, events ++ [event], hcalls, ?_, ?_⟩
  · rw [log_events, hevents, List.append_assoc]
  · have hnone : Event.marks [event] = [] := Event.marks_eq_nil (by simpa using hquiet)
    rw [Event.marks_append, hnone, List.append_nil, hmarks]

theorem Marked.call (h : Marked function counts s t) {call : Call} (hcounts : counts call = true)
    (hbackend : u.remote.backend = t.remote.backend) (hcall : u.remote.calls = t.remote.calls ++ [call])
    (hmarked : u.events =
      if t.remote.isKubernetes then t.events ++ [.entered function, .left function] else t.events) :
    Marked function counts s u := by
  obtain ⟨hkubernetes, made, events, hcalls, hevents, hmarks⟩ := h
  have hsame : u.remote.isKubernetes = t.remote.isKubernetes := by
    rw [Orchestrator.isKubernetes, hbackend, Orchestrator.isKubernetes]
  have hpair : u.events = t.events ++ Event.pairs (s.marking function 1) := by
    rw [hmarked, hkubernetes, marking]
    split
    · rfl
    · exact (List.append_nil _).symm
  refine ⟨hsame.trans hkubernetes, made ++ [call], events ++ Event.pairs (s.marking function 1), ?_, ?_, ?_⟩
  · rw [hcall, hcalls, List.append_assoc]
  · rw [hpair, hevents, List.append_assoc]
  · rw [Event.marks_append, hmarks, Event.marks_pairs, ← Event.pairs_append, ← marking_succ, List.countP_append,
      List.countP_singleton, if_pos hcounts]

theorem Marked.createInstance (h : Marked .createInstance Call.isCreate s t) (ns : String) (pod : Pod) :
    Marked .createInstance Call.isCreate s (t.createInstance ns pod).2 := by
  obtain ⟨_, hremote, _⟩ := t.createInstance_spec ns pod
  have hcalls := t.remote.create_calls ns pod
  have hbackend := t.remote.create_backend ns pod
  rw [← hremote] at hcalls hbackend
  exact h.call rfl hbackend hcalls (t.createInstance_events ns pod)

theorem Marked.deleteInstance (h : Marked .deleteInstance Call.isDelete s t) (name ns : String) :
    Marked .deleteInstance Call.isDelete s (t.deleteInstance name ns).2 := by
  obtain ⟨_, hremote, _⟩ := t.deleteInstance_spec name ns
  have hcalls := t.remote.delete_calls name ns
  have hbackend := t.remote.delete_backend name ns
  rw [← hremote] at hcalls hbackend
  exact h.call rfl hbackend hcalls (t.deleteInstance_events name ns)

end Marked

/-! ### Brackets -/

/-- A function has begun and ended between two sessions. Everything logged in the meantime stands between its marks,
and the marks among it are pairs of these functions, one after the other. -/
def Bracketed (function : Traced) (inner : List Traced) (s t : Session Orchestrator) : Prop :=
  ∃ events, t.events = s.events ++ .entered function :: events ++ [.left function] ∧
    Event.marks events = Event.pairs inner

def Balances (s t : Session Orchestrator) : Prop :=
  ∃ events, t.events = s.events ++ events ∧ Event.Balanced (Event.marks events)

variable {function : Traced} {inner : List Traced} {s t u : Session Orchestrator}

theorem Balances.of_eq (h : t.events = s.events) : Balances s t :=
  ⟨[], h.trans (List.append_nil _).symm, .nil⟩

theorem Balances.trans (hst : Balances s t) (htu : Balances t u) : Balances s u := by
  obtain ⟨events, hevents, hbalanced⟩ := hst
  obtain ⟨more, hmore, hlater⟩ := htu
  refine ⟨events ++ more, ?_, ?_⟩
  · rw [hmore, hevents, List.append_assoc]
  · rw [Event.marks_append]
    exact hbalanced.append hlater

theorem Bracketed.balances (h : Bracketed function inner s t) : Balances s t := by
  obtain ⟨events, hevents, hmarks⟩ := h
  refine ⟨.entered function :: events ++ [.left function], ?_, ?_⟩
  · rw [hevents, List.append_assoc]
  · have hword : Event.marks (.entered function :: events ++ [.left function]) =
        .entered function :: Event.pairs inner ++ [.left function] := by
      rw [Event.marks_append, ← hmarks]
      rfl
    rw [hword]
    exact (Event.balanced_pairs inner).enclose function

theorem Marked.bracketed {called : Traced} {counts : Call → Bool}
    (h : Marked called counts (s.log (.entered function)) t) :
    Bracketed function (s.marking called ((s.callsSince t).countP counts)) s (t.log (.left function)) := by
  obtain ⟨_, made, events, hcalls, hevents, hmarks⟩ := h
  refine ⟨events, ?_, ?_⟩
  · rw [log_events, hevents, log_events, List.append_assoc s.events]
    rfl
  · have hmade : s.callsSince t = made := callsSince_of_append hcalls
    rw [hmade]
    exact hmarks

end Session

def OwnerSource.marking : OwnerSource → List Traced
  | known _ => []
  | ownPod _ => [.resolveOwner]

namespace Runner

open Session

/-! ### The operations -/

theorem resolveOwner_marks (source : OwnerSource) (s : Session Orchestrator) :
    ∃ found, (s.resolveOwner source).2.events = s.events ++ found ∧
      Event.marks found = Event.pairs source.marking := by
  cases source with
  | known answer => exact ⟨[], (List.append_nil _).symm, rfl⟩
  | ownPod lookup =>
    obtain ⟨_, found, hevents, howners⟩ := s.resolveOwner_ownPod lookup
    refine ⟨.entered .resolveOwner :: found ++ [.left .resolveOwner], ?_, ?_⟩
    · rw [hevents, List.append_assoc]
    · have hquiet : ∀ event ∈ found, event.isMark = false := by
        intro event hmem
        obtain ⟨owner, rfl⟩ := howners event hmem
        rfl
      have hword : Event.marks (.entered .resolveOwner :: found ++ [.left .resolveOwner]) =
          .entered .resolveOwner :: Event.marks found ++ [.left .resolveOwner] := Event.marks_append _ _
      rw [hword, Event.marks_eq_nil hquiet]
      rfl

theorem fromContext_bracketed (source : OwnerSource) (context : Context) (modelPath : String)
    (s : Session Orchestrator) :
    Bracketed .fromContext source.marking s (fromContext source context modelPath s).2 := by
  obtain ⟨found, hfound, hmarks⟩ := resolveOwner_marks source (s.log (.entered .fromContext))
  have hended : ∃ written, (fromContext source context modelPath s).2.events =
      s.events ++ .entered .fromContext :: (found ++ written) ++ [.left .fromContext] ∧
        ∀ event ∈ written, event.isMark = false := by
    rw [fromContext, traced]
    rcases hresolved : (s.log (.entered .fromContext)).resolveOwner source with ⟨outcome, t⟩
    rw [hresolved] at hfound
    have hevents : t.events = s.events ++ [.entered .fromContext] ++ found := hfound
    cases outcome with
    | done owner =>
      dsimp only
      cases assemble owner context modelPath with
      | error e => exact ⟨[], by simp [hevents], by simp⟩
      | ok built => exact ⟨[.built built.describe context.describe], by simp [hevents], by simp [Event.isMark]⟩
    | failed e => exact ⟨[], by simp [hevents], by simp⟩
    | broken fault => exact ⟨[], by simp [hevents], by simp⟩
  obtain ⟨written, hevents, hquiet⟩ := hended
  refine ⟨found ++ written, hevents, ?_⟩
  rw [Event.marks_append, hmarks, Event.marks_eq_nil hquiet, List.append_nil]

theorem submit_marked (r : Runner) (s : Session Orchestrator) :
    Marked .createInstance Call.isCreate s (r.submit s).2 := by
  unfold submit
  split
  · exact .refl _ _ s
  · split
    · exact .refl _ _ s
    · rename_i pod _
      have hcreated := (Marked.refl .createInstance Call.isCreate s).createInstance r.ns pod
      split <;> rename_i heq <;> rw [heq] at hcreated
      · exact hcreated
      · exact hcreated
      · exact hcreated.log _ rfl

theorem deleteOnce_marked {s t : Session Orchestrator} (h : Marked .deleteInstance Call.isDelete s t)
    (ns name : String) : Marked .deleteInstance Call.isDelete s (deleteOnce ns name t).2 := by
  have hdeleted := (h.log (.deleting ns name) rfl).deleteInstance name ns
  unfold deleteOnce
  split <;> rename_i heq <;> rw [heq] at hdeleted
  · exact hdeleted
  · exact hdeleted.log _ rfl
  · exact hdeleted
  · exact hdeleted

theorem cleanUp_marked (r : Runner) (name : String) (s : Session Orchestrator) :
    Marked .deleteInstance Call.isDelete s (r.cleanUp name s).2 := by
  have hretried : Marked .deleteInstance Call.isDelete s
      (Retry.run r.cleanup deletion (deleteOnce r.ns name) s).2 := by
    apply Retry.attemptFrom_keeps (I := Marked .deleteInstance Call.isDelete s)
    · exact fun t event hlevel ht => ht.log event (Event.isMark_of_level hlevel)
    · exact fun t d ht => ht.of_eq rfl rfl
    · exact fun t ht => deleteOnce_marked ht r.ns name
    · exact .refl _ _ s
  unfold cleanUp
  split <;> rename_i heq
  · rw [heq] at hretried
    exact hretried.log _ rfl
  · exact hretried

theorem dispose_marked (r : Runner) (s : Session Orchestrator) :
    Marked .deleteInstance Call.isDelete s (r.dispose s).2 := by
  unfold dispose
  split
  · exact (Marked.refl _ _ s).log _ rfl
  · rename_i name _
    exact r.cleanUp_marked name s

theorem start_bracketed (r : Runner) (s : Session Orchestrator) :
    let started := r.start s
    Bracketed .start (s.marking .createInstance ((s.callsSince started.2).countP Call.isCreate)) s started.2 :=
  (r.submit_marked (s.log (.entered .start))).bracketed

theorem stop_bracketed (r : Runner) (s : Session Orchestrator) :
    let stopped := r.stop s
    Bracketed .stop (s.marking .deleteInstance ((s.callsSince stopped.2).countP Call.isDelete)) s stopped.2 :=
  (r.dispose_marked (s.log (.entered .stop))).bracketed

theorem waitUntilRunning_bracketed (r : Runner) (deadline : Time) (s : Session Orchestrator) :
    Bracketed .waitUntilRunning [] s (r.waitUntilRunning deadline s).2 := by
  obtain ⟨gets, events, _, hevents, hrounds⟩ := r.waitUntilRunning_cases deadline s
  refine ⟨events, hevents, ?_⟩
  rcases hrounds with ⟨_, hreported⟩ | ⟨_, rfl, _⟩
  · exact Event.marks_eq_nil fun event hmem =>
      Event.isMark_of_isNotice (List.filter_eq_self.1 hreported.filter_eq event hmem)
  · rfl

theorem pass_events (r : Runner) (time : Duration) (s : Session Orchestrator) :
    (r.perform s (.pass time)).2.events = s.events := by
  have hadvanced : (s.advance time).2.events = s.events := rfl
  rw [perform]
  split <;> rename_i heq <;> rw [heq] at hadvanced <;> exact hadvanced

theorem perform_balances (r : Runner) (s : Session Orchestrator) (operation : Operation) :
    Balances s (r.perform s operation).2 := by
  cases operation with
  | start => exact (r.start_bracketed s).balances
  | wait deadline => exact (r.waitUntilRunning_bracketed deadline s).balances
  | stop => exact (r.stop_bracketed s).balances
  | pass time => exact .of_eq (r.pass_events time s)

/-! ### One after the other -/

/-- The runner and the session after a list of operations, all of which are performed, whatever becomes of them. -/
def carryOn (r : Runner) (s : Session Orchestrator) : List Operation → Runner × Session Orchestrator
  | [] => (r, s)
  | operation :: rest =>
    let ((_, after), next) := r.perform s operation
    after.carryOn next rest

theorem carryOn_balances (r : Runner) (s : Session Orchestrator) (operations : List Operation) :
    Balances s (r.carryOn s operations).2 := by
  induction operations generalizing r s with
  | nil => exact .of_eq rfl
  | cons operation rest ih => exact (r.perform_balances s operation).trans (ih _ _)

/-- A run performs its operations up to the first one that breaks. -/
theorem run_eq_carryOn (r : Runner) (s : Session Orchestrator) (operations : List Operation) :
    ∃ performed, performed <+: operations ∧ r.run s operations = r.carryOn s performed := by
  induction operations generalizing r s with
  | nil => exact ⟨[], List.nil_prefix, rfl⟩
  | cons operation rest ih =>
    rcases hperform : r.perform s operation with ⟨⟨outcome, after⟩, next⟩
    rw [run_cons hperform]
    split
    · refine ⟨[operation], ⟨rest, rfl⟩, ?_⟩
      rw [carryOn, hperform]
      rfl
    · obtain ⟨performed, hprefix, hrest⟩ := ih after next
      refine ⟨operation :: performed, List.cons_prefix_cons.2 ⟨rfl, hprefix⟩, ?_⟩
      rw [hrest, carryOn, hperform]

/-- However they end, a construction and each operation on a runner stand between two marks of their own. Inside them
are the pairs of the owner, the creations and the attempts to delete, one for each of these calls, and none for the
queries of a wait. So whatever operations follow each other, the marks of the log are balanced. -/
theorem marks_bracketed (s : Session Orchestrator) :
    (∀ source context modelPath,
      Bracketed .fromContext source.marking s (fromContext source context modelPath s).2) ∧
    (∀ r : Runner,
      let started := r.start s
      Bracketed .start (s.marking .createInstance ((s.callsSince started.2).countP Call.isCreate)) s started.2) ∧
    (∀ (r : Runner) deadline, Bracketed .waitUntilRunning [] s (r.waitUntilRunning deadline s).2) ∧
    (∀ r : Runner,
      let stopped := r.stop s
      Bracketed .stop (s.marking .deleteInstance ((s.callsSince stopped.2).countP Call.isDelete)) s stopped.2) ∧
    (∀ (r : Runner) time, (r.perform s (.pass time)).2.events = s.events) ∧
    (∀ (r : Runner) operations, Balances s (r.run s operations).2 ∧ Balances s (r.carryOn s operations).2) ∧
    ∀ source context modelPath (r : Runner) operations,
      Balances s (r.carryOn (fromContext source context modelPath s).2 operations).2 := by
  refine ⟨fun source context modelPath => fromContext_bracketed source context modelPath s,
    fun r => r.start_bracketed s, fun r deadline => r.waitUntilRunning_bracketed deadline s,
    fun r => r.stop_bracketed s, fun r time => r.pass_events time s, fun r operations => ⟨?_, ?_⟩, ?_⟩
  · obtain ⟨performed, _, hrun⟩ := r.run_eq_carryOn s operations
    rw [hrun]
    exact r.carryOn_balances s performed
  · exact r.carryOn_balances s operations
  · intro source context modelPath r operations
    exact (fromContext_bracketed source context modelPath s).balances.trans (r.carryOn_balances _ operations)

/-- A creation that fails is marked like any other. -/
example : (specimen.start (.starting .epoch (.overKubernetes fun _ => .prompt (.error (.network "reset"))))).2.events =
    [.entered .start, .entered .createInstance, .left .createInstance, .left .start] := by
  decide +kernel

end Runner

end PodRunner
