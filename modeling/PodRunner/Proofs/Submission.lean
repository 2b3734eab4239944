import PodRunner.Proofs.PathReading
import PodRunner.Proofs.Problems

/-!
# From a draft to its Pod

What is written in a draft reaches the Pod through its context, its serving binary and its workload. Each of these
passes on what it was given, and what was left out is filled in once: in a context, or for the account and the
deadline in the manifest.
-/

namespace PodRunner

/-! ### One layer after the other -/

namespace ServingBinary

theorem ofConfig_ok {config : ServingConfig} {binary : ServingBinary} (h : ofConfig config = .ok binary) :
    binary = .tensorFlowServing config.modelName config.tag := by
  unfold ofConfig at h
  split at h
  · exact (Except.ok.inj h).symm
  · cases h

theorem environment_ok {binary : ServingBinary} {modelPath : String} {environment : Environment}
    (h : binary.environment modelPath = .ok environment) :
    ∃ parts tag, ModelPath.parse modelPath = .ok parts ∧ binary = .tensorFlowServing parts.modelName tag ∧
      environment.entries = [("MODEL_BASE_PATH", parts.basePath), ("MODEL_NAME", parts.modelName)] := by
  obtain ⟨modelName, tag⟩ := binary
  cases hparts : ModelPath.parse modelPath with
  | error e =>
    simp only [ServingBinary.environment, hparts, bind, Except.bind] at h
    cases h
  | ok parts =>
    simp only [ServingBinary.environment, hparts, bind, Except.bind, pure, Except.pure] at h
    split at h
    · rename_i hname
      obtain rfl := Except.ok.inj h
      refine ⟨parts, tag, rfl, by rw [hname], ?_⟩
      have hbefore : Environment.Before "MODEL_BASE_PATH" "MODEL_NAME" := by decide +kernel
      simp [Environment.ofList, Environment.insert, Environment.put, Environment.empty, hbefore]
    · cases h

/-- What a binary is told about the cluster it passes on, and the rest comes from the path and the binary. -/
theorem workload_ok {binary : ServingBinary} {modelPath : String} {kubernetes : KubernetesConfig}
    {resources : ResourceLimits} {workload : Workload}
    (h : binary.workload modelPath kubernetes resources = .ok workload) :
    ∃ environment, binary.environment modelPath = .ok environment ∧
      workload = ⟨binary.image, environment, binary.containerPort, kubernetes.serviceAccountName,
        kubernetes.activeDeadlineSeconds, resources⟩ := by
  cases henvironment : binary.environment modelPath with
  | error e =>
    simp only [ServingBinary.workload, henvironment, bind, Except.bind] at h
    cases h
  | ok environment =>
    simp only [ServingBinary.workload, henvironment, bind, Except.bind, pure, Except.pure] at h
    exact ⟨environment, rfl, (Except.ok.inj h).symm⟩

end ServingBinary

/-- The deadline of a draft, or a day if it gives none that is positive. -/
def Draft.deadline (draft : Draft) : Int :=
  ((draft.kubernetes.getD .blank).activeDeadlineSeconds.filter (0 < ·)).getD 86400

structure Draft.Fits (draft : Draft) (serving : Draft.Serving) (basePath : String) (workload : Workload) :
    Prop where
  image_eq : workload.image = "tensorflow/serving:" ++ serving.tag.getD Serving.defaultTag
  entries_eq : workload.environment.entries =
    [("MODEL_BASE_PATH", basePath), ("MODEL_NAME", serving.modelName)]
  containerPort_eq : workload.containerPort = 8500
  account_eq : workload.serviceAccountName = draft.account
  deadline_eq : (workload.activeDeadlineSeconds.filter (0 < ·)).getD 86400 = draft.deadline

structure Draft.Describes (draft : Draft) (serving : Draft.Serving) (basePath : String) (owner : Owner)
    (pod : Pod) : Prop where
  container : ∃ container, pod.spec.map (·.containers) = some [container] ∧
    container.image = some ("tensorflow/serving:" ++ serving.tag.getD Serving.defaultTag) ∧
    container.env = some [⟨"MODEL_BASE_PATH", some basePath⟩, ⟨"MODEL_NAME", some serving.modelName⟩]
  account_eq : pod.spec.bind (·.serviceAccountName) = draft.account.or owner.serviceAccountName
  deadline_eq : pod.spec.bind (·.activeDeadlineSeconds) = some draft.deadline
  owner_eq : pod.metadata.ownerReferences = some [⟨owner.apiVersion, owner.kind, owner.name, owner.uid⟩]

theorem Draft.Fits.describes {draft : Draft} {serving : Draft.Serving} {basePath : String}
    {workload : Workload} (h : draft.Fits serving basePath workload) {owner : Owner} {pod : Pod}
    (hbuild : Manifest.build workload owner = .ok pod) : draft.Describes serving basePath owner pod := by
  obtain ⟨hnonneg, rfl⟩ := Manifest.build_eq_ok_iff.1 hbuild
  constructor
  case container =>
    refine ⟨Manifest.container workload, rfl, congrArg some h.image_eq, ?_⟩
    rw [Manifest.container, h.entries_eq]
    rfl
  case account_eq =>
    rw [← h.account_eq]
    rfl
  case deadline_eq =>
    rw [← h.deadline_eq, ← Manifest.lifetime_eq hnonneg]
    rfl
  case owner_eq => rfl

theorem Draft.serving_of_validate {draft : Draft} {context : Context} {config : ServingConfig}
    (hvalid : draft.validate = .ok context) (hconfig : context.serving = some config) :
    ∃ serving, draft.serving = some serving ∧ config = ⟨serving.kind.getD ServingBinary.tensorFlowServingKind,
      serving.modelName, serving.tag.getD Serving.defaultTag⟩ := by
  have hserving := (validate_eq_ok_iff_fills.1 hvalid).2.serving_eq
  rw [hconfig, eq_comm, Option.map_eq_some_iff] at hserving
  obtain ⟨serving, hdraft, rfl⟩ := hserving
  exact ⟨serving, hdraft, rfl⟩

namespace Runner

theorem assemble_fits {draft : Draft} {context : Context} (hvalid : draft.validate = .ok context)
    {owner : Owner} {modelPath : String} {r : Runner} (h : assemble owner context modelPath = .ok r) :
    ∃ serving parts version slashes, draft.serving = some serving ∧ parts.modelName = serving.modelName ∧
      ModelPath.Spells modelPath parts version slashes ∧ draft.Fits serving parts.basePath r.workload ∧
      r = { new owner r.workload with polling := context.polling, cleanup := context.cleanup } := by
  obtain ⟨config, binary, workload, hconfig, hbinary, hworkload, hr⟩ := assemble_ok h
  obtain ⟨serving, hdraft, hchecked⟩ := Draft.serving_of_validate hvalid hconfig
  obtain ⟨_, _, hkubernetes, _⟩ := Draft.validate_eq_ok_iff.1 hvalid
  rw [← Draft.Kubernetes.config_getD_blank] at hkubernetes
  obtain ⟨environment, henvironment, hgiven⟩ := ServingBinary.workload_ok hworkload
  obtain ⟨parts, tag, hparts, hsame, hentries⟩ := ServingBinary.environment_ok henvironment
  rw [ServingBinary.ofConfig_ok hbinary, hchecked] at hsame hgiven
  obtain ⟨hname, _⟩ := ServingBinary.tensorFlowServing.inj hsame
  obtain ⟨version, slashes, hspells⟩ := ModelPath.spells_of_parse hparts
  have hown : r.workload = workload := by rw [hr]; rfl
  refine ⟨serving, parts, version, slashes, hdraft, hname.symm, hspells, ?_, hown ▸ hr⟩
  rw [hown, hgiven]
  constructor
  case image_eq => rfl
  case entries_eq => rw [hentries, ← hname]
  case containerPort_eq => rfl
  case account_eq => rw [← hkubernetes, Draft.account_eq_config]
  case deadline_eq =>
    rw [← hkubernetes]
    rfl

theorem Step.endpoint_at {r after : Runner} {operation : Operation} {outcome : Outcome Answer}
    {calls : List Call} (h : Step r operation outcome after calls) {endpoint : String}
    (hstored : after.endpoint = some endpoint) :
    r.endpoint = some endpoint ∨ ∃ address, endpoint = r.endpointAt address := by
  cases h with
  | waited _ hpolled =>
    cases hpolled.waitEnd with
    | running address => exact Or.inr ⟨address, (Option.some.inj hstored).symm⟩
    | _ => exact Or.inl hstored
  | stopped _ _ => cases hstored
  | _ => exact Or.inl hstored

theorem endpoint?_eq_ok {r : Runner} {endpoint : String} (h : r.endpoint? = .ok endpoint) :
    r.endpoint = some endpoint := by
  unfold endpoint? at h
  split at h
  · rename_i hstored _
    cases h
    exact hstored
  · cases h

/-- Any endpoint that a run stores is made of an address and the port of the workload. -/
theorem run_endpoint_at {r : Runner} (hr : r.endpoint = none) (s : Session Orchestrator)
    (operations : List Operation) {endpoint : String}
    (hstored : (r.run s operations).1.endpoint = some endpoint) : ∃ address, endpoint = r.endpointAt address := by
  have hkept : SameSettings r (r.run s operations).1 ∧ ∀ endpoint,
      (r.run s operations).1.endpoint = some endpoint → ∃ address, endpoint = r.endpointAt address := by
    apply run_keeps (P := fun _ => True) (I := fun t => SameSettings r t ∧ ∀ endpoint,
      t.endpoint = some endpoint → ∃ address, endpoint = r.endpointAt address)
    · rintro t _ _ _ _ _ ⟨hsettings, hbefore⟩ hstep
      refine ⟨hsettings.trans hstep.sameSettings, fun endpoint hstored => ?_⟩
      rcases hstep.endpoint_at hstored with hold | ⟨address, hnew⟩
      · exact hbefore endpoint hold
      · rw [endpointAt, hsettings.workload_eq] at hnew
        exact ⟨address, hnew⟩
    · exact ⟨.refl r, fun _ h => absurd (hr.symm.trans h) nofun⟩
    · exact fun _ _ => trivial
  exact hkept.2 endpoint hstored

/-- Every Pod that a run submits is the one of the workload, in the namespace of the owner. -/
theorem run_creations {r : Runner} (hr : r.ns = r.owner.ns) (s : Session Orchestrator)
    (operations : List Operation) {ns : String} {pod : Pod} {reply : Reply Instance}
    (hcall : .create ns pod reply ∈ s.callsSince (r.run s operations).2) :
    ns = r.owner.ns ∧ Manifest.build r.workload r.owner = .ok pod := by
  rw [Session.callsSince_of_append (r.run_eq_history s operations).2] at hcall
  have hours : ∀ call ∈ callsOf (r.history s operations), ∀ ns pod reply, call = .create ns pod reply →
      ns = r.owner.ns ∧ Manifest.build r.workload r.owner = .ok pod := by
    refine (r.history_path s operations).all_calls (I := SameSettings r) (Q := fun call => ∀ ns pod reply,
      call = .create ns pod reply → ns = r.owner.ns ∧ Manifest.build r.workload r.owner = .ok pod)
      (fun ht hstep => ht.trans hstep.sameSettings) ?_ (.refl r)
    rintro t _ _ _ _ ht hstep _ hmade ns pod reply rfl
    obtain ⟨hns, hbuild⟩ := hstep.creation hmade
    rw [ht.workload_eq, ht.owner_eq] at hbuild
    exact ⟨hns.trans (ht.ns_eq.trans hr), hbuild⟩
  exact hours _ hcall ns pod reply rfl

/-- What a valid draft says is what its runner submits, and how it polls and cleans up. -/
theorem fromContext_submits {draft : Draft} {context : Context} (hvalid : draft.validate = .ok context)
    {source : OwnerSource} {modelPath : String} {past next : Session Orchestrator} {built : Runner}
    (hbuilt : fromContext source context modelPath past = (.done built, next)) :
    ∃ owner serving parts version slashes,
      ((past.log (.entered .fromContext)).resolveOwner source).1 = .done owner ∧
      draft.serving = some serving ∧ parts.modelName = serving.modelName ∧
      ModelPath.Spells modelPath parts version slashes ∧
      ∀ s operations,
        let reached := (built.run s operations).1
        (∀ ns pod reply, .create ns pod reply ∈ s.callsSince (built.run s operations).2 →
          ns = owner.ns ∧ draft.Describes serving parts.basePath owner pod) ∧
        reached.polling.interval = .ofSecs ((draft.polling.getD .blank).intervalSecs.getD 5).toNat ∧
        reached.polling.timeout = .ofSecs ((draft.polling.getD .blank).timeoutSecs.getD 3).toNat ∧
        reached.cleanup = (draft.cleanup.getD .blank).backoff ∧
        ∀ endpoint, reached.endpoint? = .ok endpoint → ∃ address, endpoint = address ++ ":8500" := by
  obtain ⟨owner, hresolved, hassemble⟩ := fromContext_assembled hbuilt
  obtain ⟨serving, parts, version, slashes, hserving, hname, hspells, hfits, hr⟩ :=
    assemble_fits hvalid hassemble
  refine ⟨owner, serving, parts, version, slashes, hresolved, hserving, hname, hspells, fun s operations => ?_⟩
  have hunused : built.Unused := (Built.fromContext hbuilt).unused
  have howner : built.owner = owner := congrArg Runner.owner hr
  have hpolling : (built.run s operations).1.polling = context.polling :=
    (run_sameSettings built s operations).polling_eq.trans (congrArg Runner.polling hr)
  obtain ⟨hdraft, _, _, _⟩ := Draft.validate_eq_ok_iff.1 hvalid
  rw [← Draft.Polling.validate_getD_blank] at hdraft
  obtain ⟨hinterval, htimeout, _, _⟩ := Draft.Polling.validate_eq_ok_iff.1 hdraft
  intro reached
  refine ⟨?_, ?_, ?_, ?_, ?_⟩
  · intro ns pod reply hcall
    obtain ⟨hns, hbuild⟩ := run_creations hunused.ns_eq s operations hcall
    rw [howner] at hns hbuild
    exact ⟨hns, hfits.describes hbuild⟩
  · rw [hpolling]
    exact hinterval
  · rw [hpolling]
    exact htimeout
  · rw [run_cleanup hbuilt]
    exact ((Draft.Cleanup.validate_eq_ok_iff _ _).1 (Draft.validate_cleanup hvalid)).1
  · intro endpoint hreported
    obtain ⟨address, haddress⟩ := run_endpoint_at hunused.endpoint_eq s operations (endpoint?_eq_ok hreported)
    rw [endpointAt, hfits.containerPort_eq] at haddress
    refine ⟨address, ?_⟩
    rw [haddress, String.append_assoc]
    rfl

end Runner

def Draft.taxi : Draft :=
  ⟨some ⟨some 10, some 4⟩, some ⟨some 2, none, none⟩, some ⟨some "model-server", some 600⟩,
    some ⟨none, "chicago-taxi", some "2.15.0"⟩⟩

def Context.taxi : Context :=
  ⟨⟨.ofSecs 10, .ofSecs 4, by decide +kernel⟩, { Backoff.default with attempts := 2 },
    ⟨some "model-server", some 600⟩, some ⟨"tensorflow_serving", "chicago-taxi", "2.15.0"⟩⟩

namespace Runner

def taxi : Runner :=
  { new specimen.owner ⟨"tensorflow/serving:2.15.0",
      .ofList [("MODEL_NAME", "chicago-taxi"), ("MODEL_BASE_PATH", "gs://bucket/serving")], 8500,
      some "model-server", some 600, .none⟩ with
    polling := Context.taxi.polling
    cleanup := Context.taxi.cleanup }

theorem taxi_submits :
    let modelPath := "gs://bucket/serving/chicago-taxi/7//"
    let reached := (taxi.run obliging [.start, .wait .latest]).1
    let calls := obliging.callsSince (taxi.run obliging [.start, .wait .latest]).2
    Draft.taxi.validate = .ok .taxi ∧
      (fromContext (.known (.ok specimen.owner)) .taxi modelPath obliging).1 = .done taxi ∧
      (∃ parts version slashes pod reply, ModelPath.Spells modelPath parts version slashes ∧
        .create "team" pod reply ∈ calls ∧
          Draft.taxi.Describes ⟨none, "chicago-taxi", some "2.15.0"⟩ parts.basePath specimen.owner pod) ∧
      reached.polling.interval = .ofSecs 10 ∧ reached.polling.timeout = .ofSecs 4 ∧
      reached.cleanup = Draft.Cleanup.backoff ⟨some 2, none, none⟩ ∧
      reached.endpoint? = .ok "10.0.0.7:8500" ∧ ∃ address, "10.0.0.7:8500" = address ++ ":8500" := by
  have hvalid : Draft.taxi.validate = .ok .taxi := by decide +kernel
  have hdone : (fromContext (.known (.ok specimen.owner)) .taxi
      "gs://bucket/serving/chicago-taxi/7//" obliging).1 = .done taxi := by decide +kernel
  have hcreated : (obliging.callsSince (taxi.run obliging [.start, .wait .latest]).2).any
      Call.isCreate = true := by decide +kernel
  have hendpoint : (taxi.run obliging [.start, .wait .latest]).1.endpoint? = .ok "10.0.0.7:8500" := by
    decide +kernel
  obtain ⟨owner, serving, parts, version, slashes, hresolved, hserving, _, hspells, hruns⟩ :=
    fromContext_submits hvalid (Prod.ext hdone rfl)
  cases hresolved
  cases hserving
  obtain ⟨hours, hinterval, htimeout, hcleanup, hports⟩ := hruns obliging [.start, .wait .latest]
  obtain ⟨call, hcall, hcreate⟩ := List.any_eq_true.1 hcreated
  cases call with
  | create ns pod reply =>
    obtain ⟨rfl, hdescribes⟩ := hours ns pod reply hcall
    exact ⟨hvalid, hdone, ⟨parts, version, slashes, pod, reply, hspells, hcall, hdescribes⟩, hinterval,
      htimeout, hcleanup, hendpoint, hports _ hendpoint⟩
  | get => cases hcreate
  | delete => cases hcreate

end Runner

end PodRunner
