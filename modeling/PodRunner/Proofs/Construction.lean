import PodRunner.Proofs.OwnerResolution

/-!
# How a construction ends

A construction asks for the owner first and looks at the context and the path only when it knows it. What can then
be wrong comes in one order: the serving section, its kind, the form of the path, the model that the path names.
`Unsuited` has a constructor for each of these, and none of them looks at what comes after it. Nothing is created or
deleted on the way: the one request that there may be reads the Pod of the owner.
-/

namespace PodRunner

/-! ### Asking for the owner -/

namespace Orchestrator

/-- A later orchestrator that has been asked for no instance and has been sent nothing but reading requests. -/
structure OnlyRead (o p : Orchestrator) : Prop where
  calls_eq : p.calls = o.calls
  exchanges : ∃ sent, p.exchanges = o.exchanges ++ sent ∧ ∀ x ∈ sent, x.request.method = .get

theorem OnlyRead.refl (o : Orchestrator) : OnlyRead o o :=
  ⟨rfl, [], (List.append_nil _).symm, nofun⟩

theorem getPod_onlyRead (o : Orchestrator) (name ns : String) : OnlyRead o (o.getPod name ns).2 := by
  unfold getPod exchange
  cases hrequest : Kubernetes.Request.getPod name ns with
  | error e => exact .refl o
  | ok request =>
    refine ⟨rfl, _, rfl, fun x hx => ?_⟩
    rw [List.mem_singleton.1 hx]
    exact Kubernetes.Request.getPod_method hrequest

end Orchestrator

namespace Session

/-- The Pod of the running process is read by one request, or by none if the environment does not name it. What is
logged about it stands between two marks. -/
theorem resolveOwner_ownPod (s : Session Orchestrator) (lookup : String → Option String) :
    let resolved := s.resolveOwner (.ownPod lookup)
    (resolved.2.remote = s.remote ∨ ∃ name ns, resolved.2.remote = (s.remote.getPod name ns).2) ∧
      ∃ found, resolved.2.events = s.events ++ .entered .resolveOwner :: found ++ [.left .resolveOwner] ∧
        ∀ event ∈ found, ∃ owner, event = .ownerResolved owner := by
  intro resolved
  have hnoted : ∀ event ∈ noted resolved.1, ∃ owner, event = .ownerResolved owner := by
    intro event hevent
    cases houtcome : resolved.1 <;> rw [houtcome] at hevent <;> cases hevent
    · exact ⟨_, rfl⟩
    · contradiction
  refine ⟨?_, noted resolved.1, s.resolveOwner_events lookup, hnoted⟩
  cases hidentity : (Owner.identity lookup).1 with
  | error e => exact Or.inl (congrArg (·.2.remote) (resolveOwner_of_unset hidentity))
  | ok named => exact Or.inr ⟨named.1, named.2, (resolveOwner_of_set hidentity).1⟩

theorem resolveOwner_onlyRead (s : Session Orchestrator) (source : OwnerSource) :
    s.remote.OnlyRead (s.resolveOwner source).2.remote := by
  cases source with
  | known answer => exact .refl s.remote
  | ownPod lookup =>
    obtain ⟨hunasked | ⟨name, ns, hasked⟩, _⟩ := s.resolveOwner_ownPod lookup
    · rw [hunasked]
      exact .refl s.remote
    · rw [hasked]
      exact s.remote.getPod_onlyRead name ns

end Session

namespace Runner

variable {source : OwnerSource} {context : Context} {modelPath : String} {owner : Owner} {e : Error}

theorem fromContext_remote (source : OwnerSource) (context : Context) (modelPath : String)
    (s : Session Orchestrator) :
    (fromContext source context modelPath s).2.remote =
      ((s.log (.entered .fromContext)).resolveOwner source).2.remote := by
  rw [fromContext, Session.traced]
  rcases (s.log (.entered .fromContext)).resolveOwner source with ⟨outcome, t⟩
  cases outcome with
  | done owner => cases hassemble : assemble owner context modelPath <;> simp [hassemble]
  | _ => rfl

/-- Once the owner is known, the rest does not depend on the session. -/
theorem fromContext_outcome (source : OwnerSource) (context : Context) (modelPath : String)
    (s : Session Orchestrator) :
    (fromContext source context modelPath s).1 =
      match ((s.log (.entered .fromContext)).resolveOwner source).1 with
      | .done owner => Outcome.ofExcept (assemble owner context modelPath)
      | .failed e => .failed e
      | .broken fault => .broken fault := by
  rw [fromContext, Session.traced]
  rcases (s.log (.entered .fromContext)).resolveOwner source with ⟨outcome, t⟩
  cases outcome with
  | done owner => cases hassemble : assemble owner context modelPath <;> simp [hassemble, Outcome.ofExcept]
  | _ => rfl

/-! ### What comes after the owner -/

/-- What is wrong with a context and a path: the first of these that applies. -/
inductive Unsuited (context : Context) (modelPath : String) : Error → Prop
  | noServing (hserving : context.serving = none) :
      Unsuited context modelPath (.invalidConfig "serving section is missing")
  | otherKind {serving : ServingConfig} (hserving : context.serving = some serving)
      (hkind : serving.kind ≠ "tensorflow_serving") :
      Unsuited context modelPath (.notImplemented s!"serving binary <{serving.kind}>")
  | noModelPath {serving : ServingConfig} (hserving : context.serving = some serving)
      (hkind : serving.kind = "tensorflow_serving")
      (hpath : ∀ parts version slashes, ¬ ModelPath.Spells modelPath parts version slashes) :
      Unsuited context modelPath
        (.invalidConfig s!"<{modelPath}> is not a <base_path>/<model_name>/<version> model path")
  | otherModel {serving : ServingConfig} {parts : ModelPath} {version slashes : String}
      (hserving : context.serving = some serving) (hkind : serving.kind = "tensorflow_serving")
      (hpath : ModelPath.Spells modelPath parts version slashes) (hmodel : parts.modelName ≠ serving.modelName) :
      Unsuited context modelPath
        (.invalidConfig s!"model path <{modelPath}> does not belong to model <{serving.modelName}>")

inductive Suited (context : Context) (modelPath : String) : Prop
  | intro {serving : ServingConfig} {parts : ModelPath} {version slashes : String}
      (hserving : context.serving = some serving) (hkind : serving.kind = "tensorflow_serving")
      (hpath : ModelPath.Spells modelPath parts version slashes) (hmodel : parts.modelName = serving.modelName)

/-- With a binary that there is, the path decides. -/
theorem assemble_of_kind {serving : ServingConfig} (hserving : context.serving = some serving)
    (hkind : serving.kind = "tensorflow_serving") (owner : Owner) (modelPath : String) :
    ∃ built : ModelPath → Runner, assemble owner context modelPath =
      (ModelPath.parse modelPath).bind fun parts =>
        if parts.modelName = serving.modelName then .ok (built parts)
        else .error (ServingBinary.otherModel modelPath serving.modelName) := by
  have hbinary : ServingBinary.ofConfig serving = .ok (.tensorFlowServing serving.modelName serving.tag) :=
    if_pos hkind
  let binary : ServingBinary := .tensorFlowServing serving.modelName serving.tag
  let served (parts : ModelPath) : Workload :=
    ⟨binary.image, .ofList [("MODEL_NAME", parts.modelName), ("MODEL_BASE_PATH", parts.basePath)],
      binary.containerPort, context.kubernetes.serviceAccountName, context.kubernetes.activeDeadlineSeconds, .none⟩
  refine ⟨fun parts =>
    { new owner (served parts) with polling := context.polling, cleanup := context.cleanup }, ?_⟩
  simp only [assemble, hserving, hbinary, ServingBinary.workload, ServingBinary.environment, bind, Except.bind]
  cases ModelPath.parse modelPath with
  | error e => rfl
  | ok parts =>
    by_cases hmodel : parts.modelName = serving.modelName
    · simp only [if_pos hmodel]
      rfl
    · simp only [if_neg hmodel]
      rfl

theorem Unsuited.assemble_eq (h : Unsuited context modelPath e) (owner : Owner) :
    assemble owner context modelPath = .error e := by
  cases h with
  | noServing hserving =>
    rw [assemble, hserving]
    rfl
  | otherKind hserving hkind =>
    have hbinary : ServingBinary.ofConfig _ = .error (.notImplemented _) := if_neg hkind
    rw [assemble, hserving]
    dsimp only
    rw [hbinary]
    rfl
  | noModelPath hserving hkind hpath =>
    obtain ⟨built, hassemble⟩ := assemble_of_kind hserving hkind owner modelPath
    rw [hassemble, ModelPath.parse_eq_error_iff.2 ⟨hpath, rfl⟩]
    rfl
  | otherModel hserving hkind hpath hmodel =>
    obtain ⟨built, hassemble⟩ := assemble_of_kind hserving hkind owner modelPath
    rw [hassemble, ModelPath.parse_of_spells hpath]
    exact if_neg hmodel

theorem Suited.assemble_ok (h : Suited context modelPath) (owner : Owner) :
    ∃ r, assemble owner context modelPath = .ok r := by
  obtain ⟨hserving, hkind, hpath, hmodel⟩ := h
  obtain ⟨built, hassemble⟩ := assemble_of_kind hserving hkind owner modelPath
  rw [hassemble, ModelPath.parse_of_spells hpath]
  exact ⟨_, if_pos hmodel⟩

theorem suited_or_unsuited (context : Context) (modelPath : String) :
    Suited context modelPath ∨ ∃ e, Unsuited context modelPath e := by
  cases hserving : context.serving with
  | none => exact Or.inr ⟨_, .noServing hserving⟩
  | some serving =>
    by_cases hkind : serving.kind = "tensorflow_serving"
    · by_cases hpath : ∃ parts version slashes, ModelPath.Spells modelPath parts version slashes
      · obtain ⟨parts, version, slashes, hspells⟩ := hpath
        by_cases hmodel : parts.modelName = serving.modelName
        · exact Or.inl ⟨hserving, hkind, hspells, hmodel⟩
        · exact Or.inr ⟨_, .otherModel hserving hkind hspells hmodel⟩
      · refine Or.inr ⟨_, .noModelPath hserving hkind fun parts version slashes hspells => ?_⟩
        exact hpath ⟨parts, version, slashes, hspells⟩
    · exact Or.inr ⟨_, .otherKind hserving hkind⟩

theorem assemble_eq_error_iff (owner : Owner) :
    assemble owner context modelPath = .error e ↔ Unsuited context modelPath e := by
  constructor
  · intro h
    rcases suited_or_unsuited context modelPath with hsuited | ⟨found, hunsuited⟩
    · obtain ⟨r, hr⟩ := hsuited.assemble_ok owner
      cases hr.symm.trans h
    · cases (hunsuited.assemble_eq owner).symm.trans h
      exact hunsuited
  · intro h
    exact h.assemble_eq owner

theorem assemble_ok_iff (owner : Owner) :
    (∃ r, assemble owner context modelPath = .ok r) ↔ Suited context modelPath := by
  constructor
  · rintro ⟨r, hr⟩
    rcases suited_or_unsuited context modelPath with hsuited | ⟨found, hunsuited⟩
    · exact hsuited
    · cases (hunsuited.assemble_eq owner).symm.trans hr
  · intro h
    exact h.assemble_ok owner

/-- A construction fails with the error of the owner if there is one, whatever it is built from, and otherwise with
what is wrong first in the context and the path. In all other cases it gives a runner that has done nothing yet. It
asks for no instance and sends nothing but a request to read. -/
theorem fromContext_in_order (source : OwnerSource) (s : Session Orchestrator) :
    let resolved := ((s.log (.entered .fromContext)).resolveOwner source).1
    (∀ context modelPath, s.remote.OnlyRead (fromContext source context modelPath s).2.remote) ∧
      (∀ e, resolved = .failed e → ∀ context modelPath, (fromContext source context modelPath s).1 = .failed e) ∧
      (∀ fault, resolved = .broken fault → ∀ context modelPath,
        (fromContext source context modelPath s).1 = .broken fault) ∧
      ∀ owner, resolved = .done owner → ∀ context modelPath,
        let built := (fromContext source context modelPath s).1
        (∀ e, built = .failed e ↔ Unsuited context modelPath e) ∧
          ((∃ r, built = .done r) ↔ Suited context modelPath) ∧
          ((∃ r, built = .done r) ↔ ∀ e, ¬ Unsuited context modelPath e) ∧
          ∀ r, built = .done r → r.state = .unstarted ∧ r.instanceName = none ∧ r.ns = owner.ns := by
  dsimp only
  refine ⟨?_, ?_, ?_, ?_⟩
  · intro context modelPath
    rw [fromContext_remote]
    exact (s.log (.entered .fromContext)).resolveOwner_onlyRead source
  · intro e hfailed context modelPath
    rw [fromContext_outcome, hfailed]
  · intro fault hbroken context modelPath
    rw [fromContext_outcome, hbroken]
  · intro owner hknown context modelPath
    have hbuilt : (fromContext source context modelPath s).1 = .ofExcept (assemble owner context modelPath) := by
      rw [fromContext_outcome, hknown]
    simp only [hbuilt, Outcome.ofExcept_eq_done_iff, Outcome.ofExcept_eq_failed_iff]
    refine ⟨fun e => assemble_eq_error_iff owner, assemble_ok_iff owner, ?_, ?_⟩
    · rw [assemble_ok_iff]
      constructor
      · intro hsuited e hunsuited
        obtain ⟨r, hr⟩ := hsuited.assemble_ok owner
        cases hr.symm.trans (hunsuited.assemble_eq owner)
      · intro hnone
        exact (suited_or_unsuited context modelPath).resolve_right fun ⟨e, hunsuited⟩ => hnone e hunsuited
    · intro r hr
      obtain ⟨_, _, workload, _, _, _, rfl⟩ := assemble_ok hr
      exact ⟨rfl, rfl, rfl⟩

/-- Neither the kind nor the path is any good, and the kind comes first. -/
example : (fromContext (.known (.ok specimen.owner)) { Context.taxi with serving := some ⟨"triton", "m", "latest"⟩ }
    "no path" obliging).1 = .failed (.notImplemented "serving binary <triton>") := by
  rfl

end Runner

end PodRunner
