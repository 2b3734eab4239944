import PodRunner.Proofs.Pauses
import PodRunner.Proofs.StopResult
import PodRunner.Proofs.Validation

/-!
# Pauses that cannot be computed

A pause is handed out together with the computation of the one after it, so an accepted cleanup may ask for
one that is no duration. That depends on the cleanup alone, and where it does not happen only the clock can
break a stop. Where it does, a stop breaks as soon as all attempts before the last one have failed.
-/

namespace PodRunner

/-! ### Faults of the clock -/

namespace Session

variable {σ α : Type} {s : Session σ} {fault : Fault}

theorem advance_fault {d : Duration} (h : (s.advance d).1 = .error fault) : fault = .timeOutOfRange := by
  simp only [advance, Clock.advance] at h
  split at h <;> cases h
  rfl

theorem sleep_fault {d : Duration} (h : (s.sleep d).1 = .error fault) : fault = .timeOutOfRange := by
  simp only [sleep, Clock.sleep, Clock.advance] at h
  split at h <;> cases h
  rfl

theorem receive_fault {reply : Reply α} (h : (s.receive reply).1 = .broken fault) :
    fault = .timeOutOfRange := by
  unfold receive at h
  split at h
  · cases hresult : reply.result <;> rw [hresult] at h <;> cases h
  · rename_i heq
    cases h
    exact advance_fault (congrArg Prod.fst heq)

end Session

/-! ### Faults of the pauses -/

namespace Backoff.Pace

variable {pace : Pace} {n : Nat} {fault : Fault}

/-- The draw that breaks is the one after the pauses that are handed out. -/
theorem delays_of_fault {handed : List Duration} (h : pace.delays n = (handed, some fault)) :
    handed.length < n ∧ (pace.delays handed.length).2 = none ∧
      (pace.delays (handed.length + 1)).2 = some fault := by
  -- a successful draw adds one pause in front and moves the fault one draw further away
  induction n generalizing pace handed with
  | zero =>
    rw [delays] at h
    cases (Prod.mk.inj h).2
  | succ n ih =>
    cases hnext : pace.next with
    | error first =>
      rw [delays_succ_error n hnext] at h
      obtain ⟨rfl, hfault⟩ := Prod.mk.inj h
      refine ⟨Nat.succ_pos n, ?_, ?_⟩
      · rw [List.length_nil, delays]
      · rw [List.length_nil, delays_succ_error 0 hnext]
        exact hfault
    | ok drawn =>
      obtain ⟨delay, later⟩ := drawn
      rw [delays_succ_ok n hnext] at h
      obtain ⟨rfl, hfault⟩ := Prod.mk.inj h
      obtain ⟨hlt, hpaced, hbroken⟩ := ih (Prod.ext rfl hfault)
      exact ⟨Nat.succ_lt_succ hlt, (delays_succ_fault _ hnext).trans hpaced,
        (delays_succ_fault _ hnext).trans hbroken⟩

theorem next_of_fault (h : (pace.delays 1).2 = some fault) : pace.next = .error fault := by
  cases hnext : pace.next with
  | error first =>
    rw [delays_succ_error 0 hnext] at h
    exact congrArg Except.error (Option.some.inj h)
  | ok drawn =>
    obtain ⟨delay, later⟩ := drawn
    rw [delays_succ_fault 0 hnext, delays] at h
    cases h

end Backoff.Pace

/-- What a backoff gives to someone who asks as often as it has attempts, or more often. -/
theorem Backoff.draws_eq (b : Backoff) {count : Nat} (hcount : b.pauses < count) :
    b.draws count = b.delays.1.map Draw.delay ++ [b.delays.2.elim .exhausted .broken] := by
  rcases hdelays : b.delays with ⟨handed, fault⟩
  have hpaced : b.pace.delays b.pauses = (handed, fault) := hdelays
  rw [draws, Nat.min_eq_left (Nat.le_of_lt hcount), hpaced]
  cases fault with
  | some fault => rfl
  | none =>
    have hlength : handed.length = b.pauses := by
      have hall := Pace.length_delays (congrArg Prod.snd hpaced)
      rwa [hpaced] at hall
    simp only [hlength, if_pos hcount, Option.elim_none]

namespace Retry

variable {σ α π : Type} {next : π → Except Fault (Duration × π)} {name : String}
  {operation : Session σ → Outcome α × Session σ} {fault : Fault}

theorem attemptFrom_fault {P : Nat → π → Prop}
    (hnext : ∀ n pace, P (n + 1) pace → ∃ delay later, next pace = .ok (delay, later) ∧ P n later)
    (hoperation : ∀ s fault, (operation s).1 = .broken fault → fault = .timeOutOfRange)
    (attempts attempt : Nat) {pauses : Nat} {pace : π} (hpaced : P pauses pace) (s : Session σ)
    (h : (attemptFrom next name attempts operation pauses attempt pace s).1 = .broken fault) :
    fault = .timeOutOfRange := by
  induction pauses generalizing attempt pace s with
  | zero =>
    rw [attemptFrom] at h
    split at h
    · cases h
    · exact hoperation s fault h
  | succ pauses ih =>
    -- the draw succeeds, which leaves the sleep, the operation and the attempts after them
    obtain ⟨delay, later, hdrawn, hlater⟩ := hnext pauses pace hpaced
    rw [attemptFrom] at h
    split at h
    · rename_i error failed _
      simp only [pause, hdrawn] at h
      cases hslept : (failed.log (.retrying name attempt attempts delay error)).sleep delay with
      | mk result slept =>
        rw [hslept] at h
        cases result with
        | error broken =>
          cases h
          exact Session.sleep_fault (congrArg Prod.fst hslept)
        | ok => exact ih (attempt + 1) hlater slept h
    · exact hoperation s fault h

end Retry

namespace Runner

variable {r : Runner} {name : String} {s : Session Orchestrator} {fault : Fault}

theorem deleteOnce_fault {ns : String} (h : (deleteOnce ns name s).1 = .broken fault) :
    fault = .timeOutOfRange := by
  obtain ⟨houtcome, _, _⟩ := (s.log (.deleting ns name)).deleteInstance_spec name ns
  unfold deleteOnce at h
  split at h <;> rename_i heq <;> rw [heq] at houtcome
  · cases h
  · cases h
  · cases h
  · cases h
    exact Session.receive_fault houtcome.symm

theorem cleanUp_fault (hpaced : r.cleanup.delays.2 = none) (h : (r.cleanUp name s).1 = .broken fault) :
    fault = .timeOutOfRange := by
  unfold cleanUp at h
  split at h
  · cases h
  · exact Retry.attemptFrom_fault (P := fun n pace => (pace.delays n).2 = none)
      (fun _ _ hpaced => Backoff.Pace.next_of_delays hpaced) (fun _ _ => deleteOnce_fault) _ _ hpaced s h

/-- A stop returns unless the clock breaks it, as long as all its pauses can be computed. -/
theorem stop_returns (hpaced : r.cleanup.delays.2 = none) (s : Session Orchestrator) :
    (∃ outcome, (r.stop s).1.1 = .done outcome) ∨ (r.stop s).1.1 = .broken .timeOutOfRange := by
  have hstop : (r.stop s).1.1 = (r.dispose (s.log (.entered .stop))).1 := rfl
  rw [hstop, dispose]
  cases hname : r.instanceName with
  | none => exact Or.inl ⟨_, rfl⟩
  | some name =>
    cases hcleaned : (r.cleanUp name (s.log (.entered .stop))).1 with
    | done outcome => exact Or.inl ⟨outcome, rfl⟩
    | failed e => exact absurd hcleaned (r.cleanUp_never_fails name _ e)
    | broken fault =>
      obtain rfl := cleanUp_fault hpaced hcleaned
      exact Or.inr rfl

/-- A stop breaks when it would have to wait for the pause that cannot be computed. -/
theorem stop_breaks {handed : List Duration} (hname : r.instanceName = some name)
    (hdelays : r.cleanup.delays = (handed, some fault))
    (hopen : ∀ k < handed.length + 1, ∀ outcome, ¬ Settles (s.remote.removal name r.ns k) outcome)
    (hroom : Room r name s (handed.length + 1)) :
    (r.stop s).1.1 = .broken fault ∧
      (r.stop s).2.remote.calls = s.remote.calls ++ s.remote.deletions name r.ns (handed.length + 1) := by
  obtain ⟨hlt, _, hbroken⟩ := Backoff.Pace.delays_of_fault hdelays
  obtain ⟨later, t, u, hrun, hpauses, hlast, _, _, hcalls, _⟩ :=
    run_tried (by rw [budget_eq]; omega) (fun k hk => hopen k (by omega)) hroom
  obtain ⟨e, _, hverdict⟩ := verdict_of_unsettled (hopen handed.length (by omega))
  rw [hverdict] at hlast
  -- all pauses before this one were handed out, so the fault of the whole backoff is that of the next draw
  have hnext : later.next = .error fault := Backoff.Pace.next_of_fault ((hpauses 1).trans hbroken)
  obtain ⟨pauses, hmore⟩ : ∃ pauses, r.cleanup.pauses - handed.length = pauses + 1 :=
    ⟨r.cleanup.pauses - handed.length - 1, by omega⟩
  rw [hmore, Retry.attemptFrom_broke pauses _ hlast hnext] at hrun
  have hstop : r.stop s = ((.broken fault, r.halted), u.log (.left .stop)) := by
    rw [stop, Session.traced]
    simp only [dispose, hname, cleanUp, hrun]
  rw [hstop]
  exact ⟨rfl, hcalls⟩

end Runner

/-! ### Accepted cleanups -/

def Draft.Cleanup.blank : Draft.Cleanup := ⟨none, none, none⟩

theorem Draft.Cleanup.validate_getD_blank (cleanup : Option Draft.Cleanup) :
    (cleanup.getD .blank).validate = cleanup.elim (.ok .default) Draft.Cleanup.validate := by
  cases cleanup with
  | none => decide +kernel
  | some cleanup => rfl

theorem Draft.validate_cleanup {draft : Draft} {context : Context} (h : draft.validate = .ok context) :
    (draft.cleanup.getD .blank).validate = .ok context.cleanup := by
  rw [Draft.Cleanup.validate_getD_blank]
  exact (validate_eq_ok_iff.1 h).2.1

namespace Runner

theorem run_cleanup {context : Context} {source : OwnerSource} {modelPath : String}
    {s next : Session Orchestrator} {built : Runner}
    (hbuilt : fromContext source context modelPath s = (.done built, next)) (earlier : Session Orchestrator)
    (operations : List Operation) : (built.run earlier operations).1.cleanup = context.cleanup := by
  obtain ⟨owner, workload, rfl⟩ := fromContext_done hbuilt
  exact (run_sameSettings _ earlier operations).cleanup_eq

/-- Whether the pauses of an accepted cleanup can be computed depends on the cleanup alone. If they can, it
hands out one pause less than it has attempts, and a stop returns unless the clock breaks it. If not, it hands
out one pause less again and then breaks, and so does a stop that gets there. -/
theorem accepted_stop {draft : Draft} {context : Context} (hvalid : draft.validate = .ok context)
    {source : OwnerSource} {modelPath : String} {past next : Session Orchestrator} {built : Runner}
    (hbuilt : fromContext source context modelPath past = (.done built, next))
    (earlier : Session Orchestrator) (operations : List Operation) :
    let b := context.cleanup
    let attempts := b.attempts.toNat
    let reached := (built.run earlier operations).1
    (¬ (draft.cleanup.getD .blank).Overflows →
      b.delays.1.length = attempts - 1 ∧
        (∀ count, attempts ≤ count → b.draws count = b.delays.1.map .delay ++ [.exhausted]) ∧
        ∀ s, (∃ outcome, (reached.stop s).1.1 = .done outcome) ∨
          (reached.stop s).1.1 = .broken .timeOutOfRange) ∧
      ((draft.cleanup.getD .blank).Overflows →
        b.delays.1.length = attempts - 2 ∧
          (∀ count, attempts ≤ count →
            b.draws count = b.delays.1.map .delay ++ [.broken .durationOutOfRange]) ∧
          ∀ name s, reached.instanceName = some name →
            (∀ k < attempts - 1, ∀ outcome, ¬ Settles (s.remote.removal name reached.ns k) outcome) →
            Room reached name s (attempts - 1) →
              (reached.stop s).1.1 = .broken .durationOutOfRange ∧
                (reached.stop s).2.remote.calls =
                  s.remote.calls ++ s.remote.deletions name reached.ns (attempts - 1)) := by
  intro b attempts reached
  obtain ⟨hbackoff, hgrows⟩ := (Draft.Cleanup.validate_eq_ok_iff _ _).1 (Draft.validate_cleanup hvalid)
  have hcleanup : reached.cleanup = b := run_cleanup hbuilt earlier operations
  have hcount : attempts = (draft.cleanup.getD .blank).attemptCount := congrArg (·.attempts.toNat) hbackoff
  have hpos : 0 < attempts := hcount ▸ hgrows.attempts_pos
  have hpauses : b.pauses < attempts := Nat.sub_lt hpos Nat.one_pos
  constructor
  · intro hfits
    obtain ⟨hpaced, hlength⟩ := hgrows.delays_of_not_overflows hfits
    rw [← hbackoff] at hpaced hlength
    refine ⟨hlength.trans (by rw [hcount]), ?_, ?_⟩
    · intro count hle
      rw [b.draws_eq (Nat.lt_of_lt_of_le hpauses hle), hpaced, Option.elim_none]
    · intro s
      exact stop_returns (by rw [hcleanup]; exact hpaced) s
  · intro hover
    obtain ⟨hfault, hlength⟩ := hgrows.delays_of_overflows hover
    have hhanded : b.delays.1.length = attempts - 2 := by rw [hcount, ← hlength, ← hbackoff]
    rw [← hbackoff] at hfault
    have hmany : 1 < attempts := hcount ▸ hover.1
    refine ⟨hhanded, ?_, ?_⟩
    · intro count hle
      rw [b.draws_eq (Nat.lt_of_lt_of_le hpauses hle), hfault, Option.elim_some]
    · intro name s hname hopen hroom
      have hlast : attempts - 1 = b.delays.1.length + 1 := by omega
      rw [hlast] at hopen hroom ⊢
      exact stop_breaks hname (by rw [hcleanup]; exact Prod.ext rfl hfault) hopen hroom

end Runner

/-- Two attempts, half the longest time between them, and a cap that is no less than anything. -/
def Draft.Cleanup.farsighted : Draft.Cleanup :=
  ⟨some 2, some 9223372036854775808, some 18446744073709551615⟩

/-- A draft with a cleanup section and the shortest serving section, its context, and a runner from that. -/
def Draft.minimal (cleanup : Option Draft.Cleanup) : Draft := ⟨none, cleanup, none, some ⟨none, "m", none⟩⟩

def Context.minimal (cleanup : Backoff) : Context :=
  ⟨.default, cleanup, ⟨none, none⟩, some ⟨"tensorflow_serving", "m", "latest"⟩⟩

namespace Runner

def minimal (cleanup : Backoff) : Runner :=
  { new specimen.owner ⟨"tensorflow/serving:latest",
      .ofList [("MODEL_NAME", "m"), ("MODEL_BASE_PATH", "/models")], 8500, none, none, .none⟩ with cleanup }

/-- The pause between the two attempts is a duration, but not its double, and the cap counts as `2 ^ 64`. -/
theorem farsighted_breaks :
    let context : Context := .minimal Draft.Cleanup.farsighted.backoff
    let started := ((minimal context.cleanup).run obliging [.start]).1
    (Draft.minimal (some .farsighted)).validate = .ok context ∧
      (fromContext (.known (.ok specimen.owner)) context "/models/m/1" obliging).1 =
        .done (minimal context.cleanup) ∧
      context.cleanup.draws 2 = [.broken .durationOutOfRange] ∧
      (started.stop (refusing 9)).1.1 = .broken .durationOutOfRange := by
  decide +kernel

/-- Such a stop breaks after one attempt, while a stop with the default cleanup returns. -/
theorem farsighted_stop :
    let context : Context := .minimal Draft.Cleanup.farsighted.backoff
    let started := ((minimal context.cleanup).run obliging [.start]).1
    let usual := ((minimal .default).run obliging [.start]).1
    (Draft.minimal (some .farsighted)).validate = .ok context ∧ Draft.Cleanup.farsighted.Overflows ∧
      context.cleanup.draws 2 = [.broken .durationOutOfRange] ∧
      (started.stop (refusing 9)).1.1 = .broken .durationOutOfRange ∧
      (Draft.minimal none).validate = .ok (.minimal .default) ∧ ¬ Draft.Cleanup.blank.Overflows ∧
      ∀ s, (∃ outcome, (usual.stop s).1.1 = .done outcome) ∨ (usual.stop s).1.1 = .broken .timeOutOfRange := by
  intro context started usual
  have hvalid : (Draft.minimal (some .farsighted)).validate = .ok context := by decide +kernel
  have hover : Draft.Cleanup.farsighted.Overflows := by decide +kernel
  have hbuilt : fromContext (.known (.ok specimen.owner)) context "/models/m/1" obliging =
      (.done (minimal context.cleanup),
        (fromContext (.known (.ok specimen.owner)) context "/models/m/1" obliging).2) :=
    Prod.ext (by decide +kernel) rfl
  have hdefault : (Draft.minimal none).validate = .ok (.minimal .default) := by decide +kernel
  have hfits : ¬ Draft.Cleanup.blank.Overflows := by decide +kernel
  have husual : fromContext (.known (.ok specimen.owner)) (.minimal .default) "/models/m/1" obliging =
      (.done (minimal .default),
        (fromContext (.known (.ok specimen.owner)) (.minimal .default) "/models/m/1" obliging).2) :=
    Prod.ext (by decide +kernel) rfl
  obtain ⟨hlength, hdraws, hbreaks⟩ := (accepted_stop hvalid hbuilt obliging [.start]).2 hover
  obtain ⟨_, _, hreturns⟩ := (accepted_stop hdefault husual obliging [.start]).1 hfits
  have hname : started.instanceName = some "modelserver-1" := by decide +kernel
  have hopen : ∀ k < 1, ∀ outcome,
      ¬ Settles ((refusing 9).remote.removal "modelserver-1" started.ns k) outcome :=
    fun k hk => refusing_unsettled (by omega) _ _
  have hroom : Room started "modelserver-1" (refusing 9) 1 := ⟨by decide +kernel, by decide +kernel⟩
  refine ⟨hvalid, hover, ?_, (hbreaks _ (refusing 9) hname hopen hroom).1, hdefault, hfits, hreturns⟩
  have hnone : context.cleanup.delays.1 = [] := List.length_eq_zero_iff.1 hlength
  have hdrawn := hdraws 2 (by decide)
  rw [hnone] at hdrawn
  exact hdrawn

end Runner

end PodRunner
