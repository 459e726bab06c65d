import OpenAppsec.Webhook.Mutation

/-!
# Removal after injection

The volumes that come with the sidecar outlive it: a removal takes out one of
them at most.
-/

namespace OpenAppsec.Webhook

open ArrayEdits

variable {patches : List Patch} {spec : Spec}

section Fields

variable {containers : List Container} {name envVarName : String}

theorem addEnvIfNotExist_field :
    ∀ patch ∈ addEnvIfNotExist containers name, patch.field = .containers := by
  rw [addEnvIfNotExist]
  split
  · split
    · simp [Patch.field]
    · nofun
  · nofun

theorem addEnvVariableValueFrom_field {valueFrom : Json} :
    ∀ patch ∈ addEnvVariableValueFrom containers name envVarName valueFrom,
      patch.field = .containers := by
  rw [addEnvVariableValueFrom]
  split
  · split <;> simp [Patch.field]
  · nofun

theorem addEnvVariable_field {envValue : String}
    (listed : addEnvVariable containers name envVarName envValue =
      some patches) : ∀ patch ∈ patches, patch.field = .containers := by
  rw [addEnvVariable] at listed
  split at listed
  · dsimp only at listed
    split at listed
    · obtain ⟨current, _, rfl⟩ := Option.map_eq_some_iff.mp listed
      split
      · split
        · nofun
        · simp [Patch.field]
      · simp [Patch.field]
    · cases listed
      simp [Patch.field]
  · cases listed
    nofun

theorem removeEnvVariable_field :
    ∀ patch ∈ removeEnvVariable containers name envVarName,
      patch.field = .containers := by
  rw [removeEnvVariable]
  split
  · split
    · simp [Patch.field]
    · nofun
  · nofun

theorem imageUpdate_field {image : String} {replace : Nat → String → Patch}
    {field : Field} (edits : ∀ index image, (replace index image).field = field) :
    ∀ patch ∈ imageUpdate containers name image replace,
      patch.field = field := by
  rw [imageUpdate]
  split
  · split
    · simp [edits]
    · nofun
  · nofun

variable {e : Environment}

theorem proxyEnvInjections_field
    (listed : proxyEnvInjections e containers = some patches) :
    ∀ patch ∈ patches, patch.field = .containers := by
  rw [proxyEnvInjections] at listed
  dsimp only at listed
  split at listed
  · obtain ⟨assigned, mapped, same⟩ := Option.bind_eq_some_iff.mp listed
    cases same
    intro patch member
    obtain member | member := List.mem_append.mp member
    · obtain member | member := List.mem_append.mp member
      · exact addEnvIfNotExist_field patch member
      · exact addEnvVariableValueFrom_field patch member
    · obtain ⟨part, ofPart, member⟩ := List.mem_flatten.mp member
      obtain ⟨_, _, listed⟩ := exists_of_mem_mapM mapped part ofPart
      exact addEnvVariable_field listed patch member
  · cases listed
    nofun

/-- What a proxy kind is given is neither a volume nor an annotation. -/
theorem envoyInjections_field (listed : envoyInjections e spec = some patches) :
    ∀ patch ∈ patches,
      patch.field ≠ .volumes ∧ patch.field ≠ .annotations := by
  obtain ⟨initContainer, _, listed⟩ := Option.bind_eq_some_iff.mp listed
  obtain ⟨assigned, ofProxy, same⟩ := Option.bind_eq_some_iff.mp listed
  cases same
  intro patch member
  obtain member | member := List.mem_append.mp member
  · obtain member | member := List.mem_append.mp member
    · simp [proxyEnvInjections_field ofProxy patch member]
    · obtain rfl | member := List.mem_cons.mp member
      · exact ⟨nofun, nofun⟩
      · cases List.mem_singleton.mp member
        exact ⟨nofun, nofun⟩
  · split at member
    · cases List.mem_singleton.mp member
      exact ⟨nofun, nofun⟩
    · exact nomatch member

theorem traefikInjections_field {requested : Bool} :
    ∀ patch ∈ traefikInjections e requested containers,
      patch.field = .containers := by
  rw [traefikInjections]
  split
  · split
    · simp [Patch.field]
    · exact imageUpdate_field fun _ _ => rfl
  · split
    · simp [Patch.field]
    · nofun

theorem envoyRemovals_field :
    ∀ patch ∈ envoyRemovals e spec, patch.field ≠ .volumes := by
  intro patch member
  obtain member | member := List.mem_append.mp member
  · obtain member | member := List.mem_append.mp member
    · split at member
      · obtain ⟨envVarName, _, member⟩ := List.mem_flatMap.mp member
        simp [removeEnvVariable_field patch member]
      · exact nomatch member
    · split at member
      · cases List.mem_singleton.mp member
        exact nofun
      · exact nomatch member
  · split at member
    · cases List.mem_singleton.mp member
      exact nofun
    · exact nomatch member

theorem mountRemovals_field :
    ∀ patch ∈ mountRemovals containers, patch.field = .containers := by
  intro patch member
  obtain ⟨⟨container, index⟩, _, member⟩ := List.mem_flatMap.mp member
  obtain ⟨⟨mount, place⟩, _, same⟩ := List.mem_filterMap.mp member
  dsimp only at same
  split at same
  · cases same
    rfl
  · exact nomatch same

theorem containerRemovals_field :
    ∀ patch ∈ containerRemovals containers, patch.field = .containers := by
  intro patch member
  obtain ⟨index, _, rfl⟩ := List.mem_map.mp member
  rfl

end Fields

variable {e : Environment} {pod : Pod}

theorem originalConfiguration_field :
    ∀ patch ∈ originalConfiguration e pod, patch.field = .annotations := by
  rw [originalConfiguration]
  split
  · nofun
  · simp [Patch.field]

theorem kindRemovals_field :
    ∀ patch ∈ (if e.isEnvoyBasedProxyAgent then envoyRemovals e spec
        else if spec.automountServiceAccountToken.isSome then
          [Patch.replaceAutomount false]
        else []), patch.field ≠ .volumes := by
  split
  · exact envoyRemovals_field
  · split
    · simp [Patch.field]
    · nofun

theorem containers_field {containers : List Container} :
    ∀ patch ∈ (if containers.any isInjected then
        (if e.isEnvoyBasedProxyAgent then mountRemovals containers else []) ++
          containerRemovals containers
      else []), patch.field ≠ .volumes := by
  intro patch member
  split at member
  · obtain member | member := List.mem_append.mp member
    · split at member
      · simp [mountRemovals_field patch member]
      · exact nomatch member
    · simp [containerRemovals_field patch member]
  · exact nomatch member

theorem initImageUpdate_field :
    ∀ patch ∈ initImageUpdate e spec, patch.field = .initContainers := by
  rw [initImageUpdate]
  split
  · exact imageUpdate_field fun _ _ => rfl
  · nofun

theorem getVolumeDefinition_length (e : Environment) :
    (if e.isEnvoyBasedProxyAgent then 2 else 1) ≤
      (getVolumeDefinition e).length := by
  rw [getVolumeDefinition]
  cases e.isEnvoyBasedProxyAgent <;> simp

theorem getVolumeDefinition_ne_nil (e : Environment) :
    getVolumeDefinition e ≠ [] := by
  simp [getVolumeDefinition]

theorem kind_field {kind : List Patch}
    (listed : kindInjections e pod.spec = some kind) :
    ∀ patch ∈ kind,
      patch.field ≠ .volumes ∧ patch.field ≠ .annotations := by
  rw [kindInjections] at listed
  split at listed
  · exact envoyInjections_field listed
  · split at listed
    · cases listed
      simp [Patch.field]
    · cases listed
      simp [Patch.field]

theorem sidecarInjections_field {containers : List Container} :
    ∀ patch ∈ sidecarInjections e containers,
      patch.field = .containers ∨ patch.field = .volumes := by
  rw [sidecarInjections]
  split
  · simp [Patch.field]
  · intro patch member
    have edits : ∀ index image,
        (Patch.replaceImage index image).field = .containers :=
      fun _ _ => rfl
    simp [imageUpdate_field edits patch member]

/-- An injection leaves the annotations as they are. -/
theorem injections_field (listed : injections e pod = some patches) :
    ∀ patch ∈ patches, patch.field ≠ .annotations := by
  obtain ⟨kind, ofKind, rfl⟩ := Option.map_eq_some_iff.mp listed
  intro patch member
  obtain member | member := List.mem_append.mp member
  · obtain member | member := List.mem_append.mp member
    · obtain member | member := List.mem_append.mp member
      · exact (kind_field ofKind patch member).2
      · obtain same | same := sidecarInjections_field patch member <;>
          simp [same]
    · simp [traefikInjections_field patch member]
  · simp [initImageUpdate_field patch member]

theorem fixed_volumes (field : ∀ patch ∈ patches, patch.field ≠ .volumes) :
    ∀ patch ∈ patches, ∀ volumes,
      Patch.onVolumes volumes patch = some volumes :=
  fun patch member => Patch.onVolumes_of_field (field patch member)

theorem other_field {field other : Field}
    (same : ∀ patch ∈ patches, patch.field = field) (differs : field ≠ other) :
    ∀ patch ∈ patches, patch.field ≠ other :=
  fun patch member => (same patch member).trans_ne differs

/-- The kind of the proxy decides what an injection does outside the
containers and the volumes. -/
theorem injections_others {β : Type*} {edit : β → Patch → Option β}
    (fixed : ∀ patch : Patch, patch.field = .containers ∨
      patch.field = .volumes ∨ patch.field = .initContainers →
        ∀ value, edit value patch = some value)
    {kind : List Patch} {containers others : List Container} {wanted : Bool}
    (value : β) :
    (kind ++ sidecarInjections e containers ++
      traefikInjections e wanted others ++ initImageUpdate e spec).foldlM edit
        value = kind.foldlM edit value := by
  rw [foldlM_append_of_fixed_right fun patch member =>
      fixed patch (.inr (.inr (initImageUpdate_field patch member))),
    foldlM_append_of_fixed_right fun patch member =>
      fixed patch (.inl (traefikInjections_field patch member)),
    foldlM_append_of_fixed_right fun patch member =>
      fixed patch ((sidecarInjections_field patch member).imp_right .inl)]

theorem envoyInjections_others {β : Type*} {edit : β → Patch → Option β}
    (fixed : ∀ patch : Patch, patch.field = .containers ∨
      patch.field = .volumes ∨ patch.field = .initContainers →
        ∀ value, edit value patch = some value)
    {kind : List Patch} (listed : envoyInjections e spec = some kind)
    (value : β) :
    kind.foldlM edit value = edit value (.addShareProcessNamespace true) := by
  obtain ⟨initContainer, created, ofEnvoy⟩ := Option.bind_eq_some_iff.mp listed
  obtain ⟨assigned, ofProxy, same⟩ := Option.bind_eq_some_iff.mp ofEnvoy
  cases same
  rw [List.append_assoc, foldlM_append_of_fixed_left fun patch member =>
    fixed patch (.inl (proxyEnvInjections_field ofProxy patch member))]
  rw [foldlM_append_of_fixed_right]
  · change (edit value _).bind (fun next => (edit next _).bind some) = _
    cases edit value (.addShareProcessNamespace true) with
    | none => rfl
    | some next =>
        exact congrArg (·.bind some)
          (fixed (.addVolumeMount 0 getVolumeMount) (.inl rfl) next)
  · intro patch member
    split at member
    · cases List.mem_singleton.mp member
      exact fixed _ (.inr (.inr rfl))
    · cases member

theorem onAutomount_fixed (patch : Patch)
    (field : patch.field = .containers ∨ patch.field = .volumes ∨
      patch.field = .initContainers) (value : Option Bool) :
    Patch.onAutomount value patch = some value := by
  apply Patch.onAutomount_of_field
  obtain field | field | field := field <;> simp [field]

/-- A new sidecar brings its volumes. -/
theorem injected_volumes {injected : Pod}
    (off : e.isTrue "REMOVE_INJECTED_DATA" = false)
    (absent : containerIndex (pod.spec.containers.getD []) sidecarName = none)
    (reviewed : review e pod = some injected) :
    ∃ volumes, pod.spec.volumes = some volumes ∧
      injected.spec.volumes = some (volumes ++ getVolumeDefinition e) := by
  obtain ⟨patches, listed, applied⟩ := Option.bind_eq_some_iff.mp reviewed
  have edited := (applyPatches_eq_some_iff.mp applied).volumes
  rw [mutate, off, if_neg nofun] at listed
  obtain ⟨others, injects, rfl⟩ := Option.map_eq_some_iff.mp listed
  obtain ⟨kind, ofKind, rfl⟩ := Option.map_eq_some_iff.mp injects
  rw [foldlM_append_of_fixed_left
      (fixed_volumes (other_field originalConfiguration_field nofun)),
    foldlM_append_of_fixed_right (fixed_volumes (other_field initImageUpdate_field nofun)),
    foldlM_append_of_fixed_right (fixed_volumes (other_field traefikInjections_field nofun)),
    foldlM_append_of_fixed_left (fixed_volumes fun patch member =>
      (kind_field ofKind patch member).1),
    sidecarInjections, absent, Option.isNone_none, if_pos rfl,
    List.foldlM_cons] at edited
  have edited : ((getVolumeDefinition e).map Patch.addVolume).foldlM
      Patch.onVolumes pod.spec.volumes = some injected.spec.volumes := edited
  rw [List.foldlM_map] at edited
  have edited : (getVolumeDefinition e).foldlM
      (fun array item => (push item array).map some) pod.spec.volumes =
        some injected.spec.volumes := edited
  cases present : pod.spec.volumes with
  | some volumes =>
      rw [present, foldlM_push] at edited
      exact ⟨volumes, rfl, (Option.some.inj edited).symm⟩
  | none =>
      rw [present] at edited
      obtain ⟨first, rest, same⟩ :=
        List.exists_cons_of_ne_nil (getVolumeDefinition_ne_nil e)
      rw [same] at edited
      exact nomatch edited

/-- A removal takes out the shared volume at most. -/
theorem removed_volumes {restored : Pod}
    (on : e.isTrue "REMOVE_INJECTED_DATA" = true)
    (reviewed : review e pod = some restored) :
    (pod.spec.volumes.getD []).length ≤
      (restored.spec.volumes.getD []).length +
        if e.isEnvoyBasedProxyAgent then 1 else 0 := by
  obtain ⟨patches, listed, applied⟩ := Option.bind_eq_some_iff.mp reviewed
  have edited := (applyPatches_eq_some_iff.mp applied).volumes
  rw [mutate, on, if_pos rfl] at listed
  cases listed
  rw [foldlM_append_of_fixed_left (fixed_volumes
    (other_field originalConfiguration_field nofun)), removals,
    List.append_assoc,
    foldlM_append_of_fixed_left (fixed_volumes kindRemovals_field),
    foldlM_append_of_fixed_left (fixed_volumes containers_field)] at edited
  split at edited
  · rename_i envoy
    rw [if_pos envoy]
    split at edited
    · obtain ⟨next, removed, same⟩ := Option.bind_eq_some_iff.mp edited
      cases same
      obtain ⟨volumes, removed, same⟩ := Option.map_eq_some_iff.mp removed
      obtain ⟨items, present, inside, rfl⟩ := removeAt_eq_some_iff.mp removed
      rw [present, ← same]
      simp only [Option.getD_some, List.length_eraseIdx_of_lt inside]
      omega
    · rw [← Option.some.inj edited]
      omega
  · rw [← Option.some.inj edited]
    omega

theorem isEnvoyBasedProxyAgent_congr {other : Environment}
    (same : other.getenv "PROXY_KIND" = e.getenv "PROXY_KIND") :
    other.isEnvoyBasedProxyAgent = e.isEnvoyBasedProxyAgent := by
  have proxyKind : other.proxyKind = e.proxyKind := by
    rw [Environment.proxyKind, Environment.getenvD, same]
    rfl
  rw [Environment.isEnvoyBasedProxyAgent, Environment.isIstioAgent,
    Environment.isEnvoyGatewayAgent, proxyKind]
  rfl

/-- A removal never gives back the specification that the injection was made
to: a volume stays. -/
theorem removal_leaves_volume {removing : Environment}
    (off : e.isTrue "REMOVE_INJECTED_DATA" = false)
    (on : removing.isTrue "REMOVE_INJECTED_DATA" = true)
    (kind : removing.getenv "PROXY_KIND" = e.getenv "PROXY_KIND")
    (absent : ∀ container ∈ pod.spec.containers.getD [],
      container.name ≠ sidecarName)
    {injected restored : Pod} (injects : review e pod = some injected)
    (restores : review removing injected = some restored) :
    restored.spec ≠ pod.spec := by
  have noSidecar :
      containerIndex (pod.spec.containers.getD []) sidecarName = none := by
    rw [containerIndex, List.findIdx?_eq_none_iff]
    simpa using absent
  obtain ⟨volumes, present, grown⟩ := injected_volumes off noSidecar injects
  have left := removed_volumes on restores
  have added := getVolumeDefinition_length e
  rw [grown, isEnvoyBasedProxyAgent_congr kind] at left
  simp only [Option.getD_some, List.length_append] at left
  intro same
  rw [same, present] at left
  cases envoy : e.isEnvoyBasedProxyAgent with
  | true =>
      simp only [envoy, if_true, Option.getD_some] at left added
      omega
  | false =>
      simp only [envoy, Bool.false_eq_true, if_false, Option.getD_some]
        at left added
      omega

/-- An environment without variables. -/
def unset : Environment :=
  { getenv := fun _ => none
    envoyVersion := fun _ => some "1.33"
    dumps := fun _ => "" }

def unsetRemoving : Environment :=
  { unset with
    getenv := fun name =>
      if name = "REMOVE_INJECTED_DATA" then some "true" else none }

def proxyPod : Pod :=
  { labels := none
    annotations := some []
    spec :=
      { containers := some
          [{ name := "istio-proxy", image := some "proxyv2", env := some []
             volumeMounts := some [], rest := [] }]
        initContainers := none
        volumes := some []
        shareProcessNamespace := none
        automountServiceAccountToken := none
        rest := [] }
    rest := [] }

theorem removal_leaves_volume_proxyPod :
    ∃ injected restored, review unset proxyPod = some injected ∧
      review unsetRemoving injected = some restored ∧
      restored.spec ≠ proxyPod.spec := by
  have both : ((review unset proxyPod).bind
      (review unsetRemoving)).isSome = true := by
    decide +kernel
  obtain ⟨restored, both⟩ := Option.isSome_iff_exists.mp both
  obtain ⟨injected, injects, restores⟩ := Option.bind_eq_some_iff.mp both
  have kind : unsetRemoving.getenv "PROXY_KIND" =
      unset.getenv "PROXY_KIND" := by
    simp [unsetRemoving, unset]
  exact ⟨injected, restored, injects, restores,
    removal_leaves_volume (by decide +kernel) (by decide +kernel) kind
      (by simp [proxyPod, sidecarName]) injects restores⟩

/-- The volume of the model and the variable with the pod's identity stay. -/
theorem removal_leaves_model :
    let restored := (review unset proxyPod).bind (review unsetRemoving)
    (restored.bind fun pod => pod.spec.volumes.map (·.map Volume.name)) =
        some ["advanced-model"] ∧
      (restored.bind fun pod => pod.spec.containers.map (·.map fun container =>
        (container.env.getD []).map EnvVar.name)) =
        some [["OPENAPPSEC_UID"]] := by
  decide +kernel

end OpenAppsec.Webhook
