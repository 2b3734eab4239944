import PodRunner.Proofs.Calls
import PodRunner.Runner.Stopping

/-!
# The calls of a stop

Trying again adds nothing to what the single attempts do, so a stop makes no calls but deletions of the one
instance that the runner knows by name.
-/

namespace PodRunner

namespace Retry

variable {σ α π : Type} {I : Session σ → Prop} {next : π → Except Fault (Duration × π)} {name : String}
  {attempts : Nat}

private theorem pause_keeps (hlog : ∀ s event, event.level ≠ .trace → I s → I (s.log event))
    (hsleep : ∀ s d, I s → I (s.sleep d).2) {attempt : Nat} {error : Error} {pace : π} {s : Session σ}
    (hs : I s) : I (pause next name attempts attempt error pace s).2 := by
  unfold pause
  split
  · exact hs
  · rename_i delay later _
    have hslept := hsleep _ delay (hlog s (.retrying name attempt attempts delay error) nofun hs)
    split <;> rename_i heq <;> rw [heq] at hslept <;> exact hslept

/-- What logging, sleeping and the operation keep, trying again keeps. Nothing is logged that is only for tracing. -/
theorem attemptFrom_keeps {operation : Session σ → Outcome α × Session σ}
    (hlog : ∀ s event, event.level ≠ .trace → I s → I (s.log event)) (hsleep : ∀ s d, I s → I (s.sleep d).2)
    (hoperation : ∀ s, I s → I (operation s).2) (pauses attempt : Nat) (pace : π) (s : Session σ)
    (hs : I s) : I (attemptFrom next name attempts operation pauses attempt pace s).2 := by
  induction pauses generalizing attempt pace s with
  | zero =>
    have htried := hoperation s hs
    rw [attemptFrom]
    split
    · rename_i error failed heq
      rw [heq] at htried
      exact hlog failed _ nofun htried
    · exact htried
  | succ pauses ih =>
    have htried := hoperation s hs
    rw [attemptFrom]
    split
    · rename_i error failed heq
      rw [heq] at htried
      have hpaused : I (pause next name attempts attempt error pace failed).2 :=
        pause_keeps hlog hsleep htried
      split <;> rename_i hpause <;> rw [hpause] at hpaused
      · exact hpaused
      · exact ih _ _ _ hpaused
    · exact htried

theorem attemptFrom_value {operation : Session σ → Outcome α × Session σ} {value : α} {pauses attempt : Nat}
    {pace : π} {s : Session σ}
    (h : (attemptFrom next name attempts operation pauses attempt pace s).1 = .done value) :
    ∃ t, (operation t).1 = .done value := by
  induction pauses generalizing attempt pace s with
  | zero =>
    rw [attemptFrom] at h
    split at h
    · cases h
    · exact ⟨s, h⟩
  | succ pauses ih =>
    rw [attemptFrom] at h
    split at h
    · split at h
      · cases h
      · exact ih h
    · exact ⟨s, h⟩

end Retry

namespace Runner

def OnlyDeletes (name ns : String) (s t : Session Orchestrator) : Prop :=
  ∃ deletes, t.remote.calls = s.remote.calls ++ deletes ∧
    ∀ call ∈ deletes, ∃ reply, call = .delete name ns reply

theorem OnlyDeletes.refl (name ns : String) (s : Session Orchestrator) : OnlyDeletes name ns s s :=
  ⟨[], (List.append_nil _).symm, fun _ h => absurd h (List.not_mem_nil)⟩

theorem OnlyDeletes.trans {name ns : String} {s t u : Session Orchestrator}
    (hst : OnlyDeletes name ns s t) (htu : OnlyDeletes name ns t u) : OnlyDeletes name ns s u := by
  obtain ⟨first, hfirst, hdeletes⟩ := hst
  obtain ⟨second, hsecond, hmore⟩ := htu
  refine ⟨first ++ second, ?_, ?_⟩
  · rw [hsecond, hfirst, List.append_assoc]
  · intro call hcall
    rcases List.mem_append.1 hcall with h | h
    · exact hdeletes call h
    · exact hmore call h

theorem deleteOnce_remote (name ns : String) (s : Session Orchestrator) :
    (deleteOnce ns name s).2.remote = (s.remote.delete name ns).2 := by
  obtain ⟨_, hremote, _⟩ := (s.log (.deleting ns name)).deleteInstance_spec name ns
  unfold deleteOnce
  split <;> rename_i heq <;> rw [heq] at hremote <;> exact hremote

theorem cleanUp_keeps {I : Orchestrator → Prop} {r : Runner} {name : String}
    (hdelete : ∀ o, I o → I (o.delete name r.ns).2) {s : Session Orchestrator} (hs : I s.remote) :
    I (r.cleanUp name s).2.remote := by
  have hkept : I (Retry.run r.cleanup deletion (deleteOnce r.ns name) s).2.remote := by
    apply Retry.attemptFrom_keeps (I := fun t => I t.remote)
    · exact fun t event _ ht => ht
    · exact fun t d ht => ht
    · intro t ht
      rw [deleteOnce_remote]
      exact hdelete t.remote ht
    · exact hs
  unfold cleanUp
  split <;> rename_i heq
  · rw [heq] at hkept
    exact hkept
  · exact hkept

theorem cleanUp_deletes (r : Runner) (name : String) (s : Session Orchestrator) :
    OnlyDeletes name r.ns s (r.cleanUp name s).2 := by
  apply cleanUp_keeps (I := fun o => OnlyDeletes name r.ns s { s with remote := o })
  · intro o ho
    exact ho.trans ⟨_, o.delete_calls name r.ns, fun call hcall => ⟨_, List.mem_singleton.1 hcall⟩⟩
  · exact .refl name r.ns s

theorem cleanUp_never_fails (r : Runner) (name : String) (s : Session Orchestrator) (e : Error) :
    (r.cleanUp name s).1 ≠ .failed e := by
  unfold cleanUp
  split
  · intro h
    cases h
  · rename_i hended
    intro h
    exact hended _ _ (Prod.ext h rfl)

theorem cleanUp_ne_nothingToStop (r : Runner) (name : String) (s : Session Orchestrator) :
    (r.cleanUp name s).1 ≠ .done .nothingToStop := by
  unfold cleanUp
  split
  · exact nofun
  · intro h
    obtain ⟨t, htried⟩ := Retry.attemptFrom_value h
    unfold deleteOnce at htried
    split at htried <;> cases htried

end Runner
end PodRunner
