import OpenAppsec.Webhook.IntendedInjections

/-!
# Pods that an injection is right for

An injection gives the pod that is meant exactly for the pods that it is right
for, field by field.
-/

namespace OpenAppsec.Webhook

open ArrayEdits

variable {e : Environment} {pod : Pod}

variable {patches : List Patch} {containers : List Container} {requested : Bool}
variable {result : Option (List Container)}

theorem sameFirst_edited {name kind : String} {edit : Container → Container}
    (keepsName : ∀ container, (edit container).name = container.name)
    (keepsImage : ∀ container, (edit container).image = container.image)
    (containers : List Container) :
    SameFirst (named name) Container.image containers
      (editFirst (named kind) edit containers) :=
  SameFirst.of_editFirst fun container _ =>
    ⟨named_congr (keepsName container), fun _ => keepsImage container⟩

theorem sameFirst_mounted {name : String} {head : Container}
    {tail : List Container} {mounts : List VolumeMount} :
    SameFirst (named name) Container.image (head :: tail)
      (mounted mounts head :: tail) := by
  have same : named name (mounted mounts head) = named name head :=
    named_congr rfl
  constructor
  · rw [List.findIdx?_cons, List.findIdx?_cons, same]
  · rw [List.find?_cons, List.find?_cons, same]
    cases named name head <;> rfl

theorem sameFirst_withSidecar (containers : List Container) :
    SameFirst (named traefikDaemonContainerName) Container.image containers
      (withSidecar e containers) := by
  apply SameFirst.of_editFirstOrAdd
  · intro container own
    refine ⟨named_congr rfl, fun daemon => ?_⟩
    have own : container.name = sidecarName := by simpa [named] using own
    have daemon : container.name = traefikDaemonContainerName := by
      simpa [named] using daemon
    exact absurd (own.symm.trans daemon) sidecarName_ne
  · simp [named, getSidecarContainer, sidecarName_ne]

/-- The containers with the agent's own ones, as the patches give them. -/
def agentOf (e : Environment) (requested : Bool) (containers : List Container) :
    List Container :=
  if requested then withDaemon e (withSidecar e containers)
  else (withSidecar e containers).eraseP (named traefikDaemonContainerName)

/-- The same as it is intended. -/
def agentIntended (e : Environment) (requested : Bool)
    (containers : List Container) : List Container :=
  if requested then withDaemon e (withSidecar e containers)
  else (withSidecar e containers).filter fun container =>
    !named traefikDaemonContainerName container

theorem agentOf_eq_iff :
    agentOf e requested containers = agentIntended e requested containers ↔
      (requested = false →
        containers.countP (named traefikDaemonContainerName) ≤ 1) := by
  cases requested with
  | true => simp [agentOf, agentIntended]
  | false =>
      simp only [agentOf, agentIntended, Bool.false_eq_true, if_false,
        forall_const]
      rw [← countP_withSidecar (e := e)]
      exact ⟨countP_le_one_of_eraseP rfl, eraseP_eq_filter⟩

theorem agents_eq_some_iff {current : List Container}
    (same : ∀ name,
      SameFirst (named name) Container.image containers current) :
    (sidecarInjections e containers ++
        traefikInjections e requested containers).foldlM Patch.onContainers
          (some current) = some result ↔
      HasImage sidecarName containers ∧
        (requested = true → HasImage traefikDaemonContainerName containers) ∧
        result = some (agentOf e requested current) := by
  have daemon := (same traefikDaemonContainerName).trans
    (sameFirst_withSidecar (e := e) current)
  rw [List.foldlM_append, Option.bind_eq_bind, Option.bind_eq_some_iff]
  simp only [sidecarInjections_eq_some_iff (same sidecarName), agentOf]
  cases requested with
  | true =>
      simp only [if_true, forall_const]
      constructor
      · rintro ⟨next, ⟨sidecar, rfl⟩, later⟩
        exact ⟨sidecar, (traefikInjections_eq_some_iff daemon).mp later⟩
      · rintro ⟨sidecar, later⟩
        exact ⟨_, ⟨sidecar, rfl⟩,
          (traefikInjections_eq_some_iff daemon).mpr later⟩
  | false =>
      simp only [Bool.false_eq_true, if_false, false_implies, true_and]
      constructor
      · rintro ⟨next, ⟨sidecar, rfl⟩, later⟩
        rw [traefikInjections_removes daemon] at later
        exact ⟨sidecar, (Option.some.inj later).symm⟩
      · rintro ⟨sidecar, rfl⟩
        exact ⟨_, ⟨sidecar, rfl⟩, traefikInjections_removes daemon⟩

theorem agents_of_none :
    (sidecarInjections e [] ++ traefikInjections e requested []).foldlM
      Patch.onContainers none = none :=
  rfl

theorem foldlM_onContainers_none
    (applied : patches.foldlM Patch.onContainers none = some result) :
    result = none := by
  induction patches with
  | nil =>
      cases applied
      rfl
  | cons patch patches induction =>
      rw [List.foldlM_cons] at applied
      obtain ⟨next, here, later⟩ := Option.bind_eq_some_iff.mp applied
      have none : next = none := by
        cases edits : patch.onContainer with
        | some edit =>
            obtain ⟨index, update⟩ := edit
            rw [Patch.onContainers_of_edit edits] at here
            exact nomatch here
        | none =>
            cases patch with
            | addContainer value => exact nomatch here
            | removeContainer index => exact nomatch here
            | _ => cases edits <;> (cases here; rfl)
      rw [none] at later
      exact induction later

theorem addVolumeMount_eq_some_iff :
    Patch.onContainers (some containers) (.addVolumeMount 0 getVolumeMount) =
        some result ↔
      ∃ head tail mounts, containers = head :: tail ∧
        head.volumeMounts = some mounts ∧
        result = some (mounted mounts head :: tail) := by
  have edits : Patch.onContainers (some containers)
      (.addVolumeMount 0 getVolumeMount) =
        (updateAt 0 (·.editMounts (push getVolumeMount))
          (some containers)).map some :=
    rfl
  rw [edits]
  constructor
  · intro applied
    obtain ⟨items, edited, rfl⟩ := Option.map_eq_some_iff.mp applied
    obtain ⟨items, old, new, same, here, updated, rfl⟩ :=
      updateAt_eq_some_iff.mp edited
    cases same
    obtain ⟨_, pushed, rfl⟩ := Option.map_eq_some_iff.mp updated
    obtain ⟨mounts, present, rfl⟩ := push_eq_some_iff.mp pushed
    cases containers with
    | nil => exact nomatch here
    | cons head tail =>
        cases here
        exact ⟨_, _, mounts, rfl, present, rfl⟩
  · rintro ⟨head, tail, mounts, rfl, present, rfl⟩
    rw [updateAt, Option.bind_some, List.getElem?_cons_zero, Option.bind_some,
      Container.editMounts, present]
    rfl

theorem withVariables_name (container : Container) :
    (withVariables e container).name = container.name := by
  rw [withVariables]
  split <;> rfl

theorem withVariables_image (container : Container) :
    (withVariables e container).image = container.image := by
  rw [withVariables]
  split <;> rfl

theorem withVariables_mounts (container : Container) :
    (withVariables e container).volumeMounts = container.volumeMounts := by
  rw [withVariables]
  split <;> rfl

/-- Variables make no difference to where the mount belongs. -/
theorem mountsProxy_withVariables :
    MountsProxy e requested (editFirst
        (named e.envoyBasedProxyContainerName) (withVariables e) containers) ↔
      MountsProxy e requested containers := by
  cases containers with
  | nil => rfl
  | cons head tail =>
      have name : ∀ other,
          named other (withVariables e head) = named other head :=
        fun _ => named_congr (withVariables_name head)
      rw [editFirst]
      split
      · rename_i proxy
        constructor
        · rintro ⟨_, _, mounts, same, present, rest⟩
          cases same
          rw [withVariables_mounts] at present
          rw [name, name] at rest
          exact ⟨_, _, mounts, rfl, present, rest⟩
        · rintro ⟨_, _, mounts, same, present, rest⟩
          cases same
          refine ⟨_, _, mounts, rfl, (withVariables_mounts _).trans present, ?_⟩
          rw [name, name]
          exact rest
      · have found : ((tail.find? (named e.envoyBasedProxyContainerName)).map
            (withVariables e)) =
            (editFirst (named e.envoyBasedProxyContainerName)
              (withVariables e) tail).find?
                (named e.envoyBasedProxyContainerName) :=
          (find?_editFirst fun container _ =>
            named_congr (withVariables_name container)).symm
        constructor
        · rintro ⟨_, _, mounts, same, present, rest⟩
          cases same
          refine ⟨_, _, mounts, rfl, present, ?_⟩
          rw [← found] at rest
          split
          · rename_i removed
            rw [if_pos removed] at rest
            intro other proxy there
            rw [there] at rest
            simpa [withVariables_mounts] using rest other
          · rename_i kept
            rw [if_neg kept] at rest
            exact rest
        · rintro ⟨_, _, mounts, same, present, rest⟩
          cases same
          refine ⟨_, _, mounts, rfl, present, ?_⟩
          rw [← found]
          split
          · rename_i removed
            rw [if_pos removed] at rest
            intro other proxy there
            obtain ⟨before, original, rfl⟩ := Option.map_eq_some_iff.mp there
            simpa [withVariables_mounts] using rest other before original
          · rename_i kept
            rw [if_neg kept] at rest
            exact rest

theorem envoyContainers_eq_some_iff {spec : Spec} {kind : List Patch}
    (listed : envoyInjections e spec = some kind)
    (present : spec.containers = some containers) :
    kind.foldlM Patch.onContainers (some containers) = some result ↔
      ∃ head tail mounts,
        editFirst (named e.envoyBasedProxyContainerName) (withVariables e)
            containers = head :: tail ∧
          head.volumeMounts = some mounts ∧
          result = some (mounted mounts head :: tail) := by
  obtain ⟨initContainer, _, listed⟩ := Option.bind_eq_some_iff.mp listed
  obtain ⟨assigned, ofProxy, same⟩ := Option.bind_eq_some_iff.mp listed
  cases same
  rw [present, Option.getD_some] at ofProxy
  have fixed : ∀ patch ∈
      (if (containerIndex (spec.initContainers.getD [])
          initContainerName).isNone then
        [Patch.addInitContainers
          (spec.initContainers.getD [] ++ [initContainer])]
        else []), ∀ containers,
        Patch.onContainers containers patch = some containers := by
    split
    · intro patch member
      cases List.mem_singleton.mp member
      exact fun _ => rfl
    · nofun
  rw [foldlM_append_of_fixed_right fixed, List.foldlM_append,
    proxyEnvInjections_apply ofProxy]
  change (Patch.onContainers (some (editFirst _ _ containers))
    (.addVolumeMount 0 getVolumeMount) >>= some) = some result ↔ _
  rw [Option.bind_eq_bind, Option.bind_fun_some]
  exact addVolumeMount_eq_some_iff

theorem injectedAgents_iff {current : List Container}
    (same : ∀ name,
      SameFirst (named name) Container.image containers current) :
    (∃ next, (∃ head tail mounts, current = head :: tail ∧
        head.volumeMounts = some mounts ∧
        next = some (mounted mounts head :: tail)) ∧
      (sidecarInjections e containers ++
        traefikInjections e requested containers).foldlM Patch.onContainers
          next =
        some (some (agentIntended e requested
          (editFirst (named e.envoyBasedProxyContainerName) withMount
            current)))) ↔
      HasImage sidecarName containers ∧
        (requested = true → HasImage traefikDaemonContainerName containers) ∧
        (requested = false →
          current.countP (named traefikDaemonContainerName) ≤ 1) ∧
        MountsProxy e requested current := by
  constructor
  · rintro ⟨_, ⟨head, tail, mounts, rfl, present, rfl⟩, later⟩
    obtain ⟨sidecar, daemon, equal⟩ := (agents_eq_some_iff fun name =>
      (same name).trans sameFirst_mounted).mp later
    have both := (agent_of_mount_iff present).mp (Option.some.inj equal).symm
    exact ⟨sidecar, daemon, both⟩
  · rintro ⟨sidecar, daemon, once, mount⟩
    have there := mount
    obtain ⟨head, tail, mounts, rfl, present, _⟩ := there
    refine ⟨_, ⟨head, tail, mounts, rfl, present, rfl⟩, ?_⟩
    have equal := (agent_of_mount_iff present).mpr ⟨once, mount⟩
    exact (agents_eq_some_iff fun name =>
      (same name).trans sameFirst_mounted).mpr
        ⟨sidecar, daemon, congrArg some equal.symm⟩

variable (listed : injections e pod = some patches)

include listed in
/-- The containers are as intended exactly under these conditions. -/
theorem injectedContainers_iff :
    patches.foldlM Patch.onContainers pod.spec.containers =
        some (some (injectedContainers e (wantsTraefikDaemon pod)
          (pod.spec.containers.getD []))) ↔
      pod.spec.containers.isSome ∧
        HasImage sidecarName (pod.spec.containers.getD []) ∧
        (wantsTraefikDaemon pod = true →
          HasImage traefikDaemonContainerName
            (pod.spec.containers.getD [])) ∧
        (wantsTraefikDaemon pod = false →
          (pod.spec.containers.getD []).countP
            (named traefikDaemonContainerName) ≤ 1) ∧
        (e.isEnvoyBasedProxyAgent = true →
          MountsProxy e (wantsTraefikDaemon pod)
            (pod.spec.containers.getD [])) := by
  obtain ⟨kind, ofKind, rfl⟩ := Option.map_eq_some_iff.mp listed
  have fixed : ∀ patch ∈ initImageUpdate e pod.spec, ∀ containers,
      Patch.onContainers containers patch = some containers := by
    intro patch member
    apply Patch.onContainers_of_field
    simp [initImageUpdate_field patch member]
  rw [foldlM_append_of_fixed_right fixed, List.append_assoc,
    List.foldlM_append, Option.bind_eq_bind, Option.bind_eq_some_iff]
  cases present : pod.spec.containers with
  | none =>
      constructor
      · rintro ⟨next, here, later⟩
        rw [foldlM_onContainers_none here, Option.getD_none] at later
        exact nomatch later.symm.trans agents_of_none
      · rintro ⟨there, _⟩
        exact nomatch there
  | some containers =>
      rw [Option.getD_some, Option.isSome_some]
      cases envoy : e.isEnvoyBasedProxyAgent with
      | true =>
          rw [kindInjections, if_pos envoy] at ofKind
          simp only [envoyContainers_eq_some_iff ofKind present, true_and,
            forall_const]
          have intended : injectedContainers e (wantsTraefikDaemon pod)
              containers = agentIntended e (wantsTraefikDaemon pod)
                (editFirst (named e.envoyBasedProxyContainerName) withMount
                  (editFirst (named e.envoyBasedProxyContainerName)
                    (withVariables e) containers)) := by
            rw [editFirst_editFirst fun container =>
              named_congr (withVariables_name container)]
            simp [injectedContainers, agentIntended, envoy]
          have count : (editFirst (named e.envoyBasedProxyContainerName)
              (withVariables e) containers).countP
                (named traefikDaemonContainerName) =
              containers.countP (named traefikDaemonContainerName) :=
            countP_editFirst fun container _ =>
              named_congr (withVariables_name container)
          have edited (name : String) : SameFirst (named name) Container.image
              containers (editFirst (named e.envoyBasedProxyContainerName)
                (withVariables e) containers) :=
            sameFirst_edited withVariables_name withVariables_image containers
          rw [intended, ← mountsProxy_withVariables, ← count]
          exact injectedAgents_iff edited
      | false =>
          rw [kindInjections, if_neg (by simp [envoy])] at ofKind
          have unchanged : kind.foldlM Patch.onContainers (some containers) =
              some (some containers) := by
            split at ofKind <;> cases ofKind <;> rfl
          simp only [unchanged, Option.some.injEq, exists_eq_left',
            Bool.false_eq_true, false_implies, true_and, and_true]
          have intended : injectedContainers e (wantsTraefikDaemon pod)
              containers = agentIntended e (wantsTraefikDaemon pod)
                containers := by
            simp [injectedContainers, agentIntended, envoy]
          have flipped : agentIntended e (wantsTraefikDaemon pod) containers =
              agentOf e (wantsTraefikDaemon pod) containers ↔
                (wantsTraefikDaemon pod = false →
                  containers.countP (named traefikDaemonContainerName) ≤ 1) :=
            eq_comm.trans agentOf_eq_iff
          rw [agents_eq_some_iff fun name => SameFirst.refl containers,
            Option.some.injEq, intended, flipped]

theorem foldlM_addVolume {volumes new : List Volume} :
    (new.map Patch.addVolume).foldlM Patch.onVolumes (some volumes) =
      some (some (volumes ++ new)) := by
  rw [List.foldlM_map]
  exact foldlM_push volumes new

include listed in
/-- The volumes are as intended exactly if new ones are new by name. -/
theorem injectedVolumes_iff :
    patches.foldlM Patch.onVolumes pod.spec.volumes =
        some (injectedVolumes e pod.spec) ↔
      ((pod.spec.containers.getD []).any (named sidecarName) = false →
        ∃ volumes, pod.spec.volumes = some volumes ∧
          ∀ new ∈ getVolumeDefinition e, ∀ volume ∈ volumes,
            volume.name ≠ new.name) := by
  obtain ⟨kind, ofKind, rfl⟩ := Option.map_eq_some_iff.mp listed
  rw [foldlM_append_of_fixed_right
      (fixed_volumes (other_field initImageUpdate_field (by simp))),
    foldlM_append_of_fixed_right
      (fixed_volumes (other_field traefikInjections_field (by simp))),
    foldlM_append_of_fixed_left (fixed_volumes fun patch member =>
      (kind_field ofKind patch member).1), injectedVolumes, sidecarInjections,
    isNone_containerIndex]
  cases present : (pod.spec.containers.getD []).any (named sidecarName) with
  | true =>
      have edits : ∀ index image,
          (Patch.replaceImage index image).field = .containers :=
        fun _ _ => rfl
      have fixed : ∀ patch ∈ imageUpdate (pod.spec.containers.getD [])
          sidecarName e.fullAgentImage .replaceImage, ∀ volumes,
            Patch.onVolumes volumes patch = some volumes :=
        fixed_volumes (other_field (imageUpdate_field edits) (by simp))
      simp only [Bool.not_true, Bool.false_eq_true, if_false, if_true,
        Bool.true_eq_false, false_implies, iff_true]
      exact foldlM_of_fixed fixed _
  | false =>
      simp only [Bool.not_false, if_true, Bool.false_eq_true, if_false,
        forall_const]
      rw [List.foldlM_cons]
      change ((getVolumeDefinition e).map Patch.addVolume).foldlM
        Patch.onVolumes pod.spec.volumes = _ ↔ _
      cases there : pod.spec.volumes with
      | none =>
          obtain ⟨first, rest, same⟩ :=
            List.exists_cons_of_ne_nil (getVolumeDefinition_ne_nil e)
          rw [same, List.map_cons, List.foldlM_cons]
          constructor
          · rintro ⟨⟩
          · rintro ⟨volumes, same, _⟩
            cases same
      | some volumes =>
          rw [foldlM_addVolume, Option.getD_some]
          simp only [Option.some.injEq, exists_eq_left',
            List.append_cancel_left_eq]
          rw [eq_comm, List.filter_eq_self]
          simp

include listed in
theorem injectedInitContainers_iff :
    patches.foldlM Patch.onInitContainers pod.spec.initContainers =
        some (injectedInitContainers e pod.spec) ↔
      (e.isEnvoyBasedProxyAgent = true →
        HasImage initContainerName (pod.spec.initContainers.getD [])) := by
  obtain ⟨kind, ofKind, rfl⟩ := Option.map_eq_some_iff.mp listed
  have fixed {patches : List Patch}
      (field : ∀ patch ∈ patches, patch.field ≠ .initContainers) :
      ∀ patch ∈ patches, ∀ containers,
        Patch.onInitContainers containers patch = some containers :=
    fun patch member => Patch.onInitContainers_of_field (field patch member)
  have ofSidecar : ∀ patch ∈
      sidecarInjections e (pod.spec.containers.getD []),
      patch.field ≠ .initContainers := by
    intro patch member
    obtain same | same := sidecarInjections_field patch member <;> simp [same]
  rw [List.foldlM_append, foldlM_append_of_fixed_right
      (fixed (other_field traefikInjections_field (by simp))),
    foldlM_append_of_fixed_right (fixed ofSidecar), injectedInitContainers,
    initImageUpdate]
  cases envoy : e.isEnvoyBasedProxyAgent with
  | false =>
      rw [kindInjections, if_neg (by simp [envoy])] at ofKind
      have unchanged : kind.foldlM Patch.onInitContainers
          pod.spec.initContainers = some pod.spec.initContainers := by
        split at ofKind <;> cases ofKind <;> rfl
      rw [unchanged]
      simp
  | true =>
      rw [kindInjections, if_pos envoy] at ofKind
      obtain ⟨initContainer, created, ofEnvoy⟩ :=
        Option.bind_eq_some_iff.mp ofKind
      obtain ⟨assigned, ofProxy, same⟩ := Option.bind_eq_some_iff.mp ofEnvoy
      cases same
      have others : ∀ patch ∈ assigned ++
          [.addShareProcessNamespace true, .addVolumeMount 0 getVolumeMount],
          patch.field ≠ .initContainers := by
        simp only [List.forall_mem_append]
        exact ⟨other_field (proxyEnvInjections_field ofProxy) (by simp), by
          simp [Patch.field]⟩
      rw [foldlM_append_of_fixed_left (fixed others), isNone_containerIndex,
        created]
      simp only [if_true, forall_const]
      cases present : (pod.spec.initContainers.getD []).any
          (named initContainerName) with
      | false =>
          have has : HasImage initContainerName
              (pod.spec.initContainers.getD []) := hasImage_of_absent present
          rw [imageUpdate, namedContainer_of_absent present]
          simp only [has, iff_true]
          rfl
      | true =>
          cases there : pod.spec.initContainers with
          | none =>
              rw [there] at present
              cases present
          | some containers =>
              have replaces : ∀ index, Patch.onInitContainers (some containers)
                  (.replaceInitImage index e.fullInitContainerImage) =
                    (updateAt index (·.replaceImage e.fullInitContainerImage)
                      (some containers)).map some :=
                fun _ => rfl
              have same : SameFirst (named initContainerName) Container.image
                  containers containers :=
                SameFirst.refl containers
              exact (imageUpdate_eq_some_iff replaces image_ne_empty same).trans
                (and_iff_left rfl)

theorem annotated_iff (others : ∀ patch ∈ patches, patch.field ≠ .annotations) :
    (originalConfiguration e pod ++ patches).foldlM Patch.onAnnotations
        pod.annotations = some (some (annotated e pod)) ↔
      pod.annotations.isSome = true := by
  have fixed : ∀ patch ∈ patches, ∀ annotations,
      Patch.onAnnotations annotations patch = some annotations :=
    fun patch member => Patch.onAnnotations_of_field (others patch member)
  rw [foldlM_append_of_fixed_right fixed, originalConfiguration, annotated]
  cases there : pod.annotations with
  | none =>
      constructor
      · rintro ⟨⟩
      · simp
  | some entries =>
      rw [Option.getD_some, Option.isSome_some]
      split
      · simp
      · rename_i missing
        rw [List.foldlM_cons]
        change some (some (setKey _ _ entries)) = _ ↔ _
        rw [setKey, if_neg missing]
        simp

theorem onShareProcessNamespace_fixed (patch : Patch)
    (field : patch.field = .containers ∨ patch.field = .volumes ∨
      patch.field = .initContainers) (value : Option Bool) :
    Patch.onShareProcessNamespace value patch = some value := by
  apply Patch.onShareProcessNamespace_of_field
  obtain field | field | field := field <;> simp [field]

include listed in
theorem injectedShare :
    patches.foldlM Patch.onShareProcessNamespace
        pod.spec.shareProcessNamespace =
      some (if e.isEnvoyBasedProxyAgent then some true
        else pod.spec.shareProcessNamespace) := by
  obtain ⟨kind, ofKind, rfl⟩ := Option.map_eq_some_iff.mp listed
  rw [injections_others onShareProcessNamespace_fixed]
  cases envoy : e.isEnvoyBasedProxyAgent with
  | false =>
      rw [kindInjections, if_neg (by simp [envoy])] at ofKind
      split at ofKind <;> cases ofKind <;> rfl
  | true =>
      rw [kindInjections, if_pos envoy] at ofKind
      rw [envoyInjections_others onShareProcessNamespace_fixed ofKind]
      rfl

include listed in
theorem injectedAutomount :
    patches.foldlM Patch.onAutomount
        pod.spec.automountServiceAccountToken =
      some (if e.isEnvoyBasedProxyAgent then
        pod.spec.automountServiceAccountToken else some true) := by
  obtain ⟨kind, ofKind, rfl⟩ := Option.map_eq_some_iff.mp listed
  rw [injections_others onAutomount_fixed]
  cases envoy : e.isEnvoyBasedProxyAgent with
  | false =>
      rw [kindInjections, if_neg (by simp [envoy])] at ofKind
      cases there : pod.spec.automountServiceAccountToken <;>
        (rw [there] at ofKind; cases ofKind; rfl)
  | true =>
      rw [kindInjections, if_pos envoy] at ofKind
      rw [envoyInjections_others onAutomount_fixed ofKind]
      rfl

theorem isSome_injections_iff :
    (injections e pod).isSome = true ↔
      (e.isEnvoyBasedProxyAgent = true →
        (e.envoyVersion (pod.spec.containers.getD [])).isSome = true ∧
          HasValues e (pod.spec.containers.getD [])) := by
  rw [injections, Option.isSome_map, kindInjections]
  split
  · rename_i envoy
    simp only [envoy, forall_const]
    rw [← isSome_proxyEnvInjections_iff, envoyInjections, getInitContainer]
    cases e.envoyVersion (pod.spec.containers.getD []) with
    | none => simp
    | some version =>
        cases proxyEnvInjections e (pod.spec.containers.getD []) <;> simp
  · rename_i other
    simp only [other, Bool.false_eq_true, false_implies, iff_true]
    split <;> rfl

/-- The annotation is the only effect of the first patches. -/
theorem originalConfiguration_others (e : Environment) (pod : Pod)
    (patches : List Patch) :
    (originalConfiguration e pod ++ patches).foldlM Patch.onContainers
        pod.spec.containers =
      patches.foldlM Patch.onContainers pod.spec.containers ∧
    (originalConfiguration e pod ++ patches).foldlM Patch.onInitContainers
        pod.spec.initContainers =
      patches.foldlM Patch.onInitContainers pod.spec.initContainers ∧
    (originalConfiguration e pod ++ patches).foldlM Patch.onVolumes
        pod.spec.volumes =
      patches.foldlM Patch.onVolumes pod.spec.volumes ∧
    (originalConfiguration e pod ++ patches).foldlM
        Patch.onShareProcessNamespace pod.spec.shareProcessNamespace =
      patches.foldlM Patch.onShareProcessNamespace
        pod.spec.shareProcessNamespace ∧
    (originalConfiguration e pod ++ patches).foldlM Patch.onAutomount
        pod.spec.automountServiceAccountToken =
      patches.foldlM Patch.onAutomount
        pod.spec.automountServiceAccountToken := by
  have field : ∀ patch ∈ originalConfiguration e pod,
      patch.field = .annotations :=
    originalConfiguration_field
  refine ⟨?_, ?_, ?_, ?_, ?_⟩
  · apply foldlM_append_of_fixed_left
    intro patch member
    apply Patch.onContainers_of_field
    simp [field patch member]
  · apply foldlM_append_of_fixed_left
    intro patch member
    apply Patch.onInitContainers_of_field
    simp [field patch member]
  · apply foldlM_append_of_fixed_left
    intro patch member
    apply Patch.onVolumes_of_field
    simp [field patch member]
  · apply foldlM_append_of_fixed_left
    intro patch member
    apply Patch.onShareProcessNamespace_of_field
    simp [field patch member]
  · apply foldlM_append_of_fixed_left
    intro patch member
    apply Patch.onAutomount_of_field
    simp [field patch member]

/-- Without removal, the pod is as intended exactly if the injection is right
for it. -/
theorem injection_intended_iff
    (off : e.isTrue "REMOVE_INJECTED_DATA" = false) :
    review e pod = some (intended e pod) ↔ InjectsCleanly e pod := by
  have applied (patches : List Patch)
      (listed : injections e pod = some patches) :
      review e pod =
        applyPatches pod (originalConfiguration e pod ++ patches) := by
    rw [review, mutate, off, if_neg (by simp), listed]
    rfl
  have spec : (intended e pod).spec = injectedSpec e pod := by
    rw [intended, off]
    rfl
  constructor
  · intro reviewed
    cases listed : injections e pod with
    | none =>
        rw [review, mutate, off, if_neg (by simp), listed] at reviewed
        cases reviewed
    | some patches =>
        rw [applied patches listed] at reviewed
        obtain ⟨annotations, containers, initContainers, volumes, _⟩ :=
          applyPatches_eq_some_iff.mp reviewed
        obtain ⟨ofContainers, ofInit, ofVolumes, _, _⟩ :=
          originalConfiguration_others e pod patches
        rw [ofContainers, spec] at containers
        rw [ofInit, spec] at initContainers
        rw [ofVolumes, spec] at volumes
        obtain ⟨some, sidecar, daemon, once, mount⟩ :=
          (injectedContainers_iff listed).mp containers
        have listable := isSome_injections_iff.mp
          (Option.isSome_of_eq_some listed)
        exact
          { annotations := (annotated_iff (injections_field listed)).mp
              annotations
            containers := some
            volumes := (injectedVolumes_iff listed).mp volumes
            sidecar
            daemon
            daemonOnce := once
            version := fun envoy => (listable envoy).1
            initImage := (injectedInitContainers_iff listed).mp initContainers
            values := fun envoy => (listable envoy).2
            mount }
  · intro right
    have listable : (injections e pod).isSome = true :=
      isSome_injections_iff.mpr fun envoy =>
        ⟨right.version envoy, right.values envoy⟩
    obtain ⟨patches, listed⟩ := Option.isSome_iff_exists.mp listable
    rw [applied patches listed, applyPatches_eq_some_iff]
    obtain ⟨ofContainers, ofInit, ofVolumes, ofShare, ofAutomount⟩ :=
      originalConfiguration_others e pod patches
    rw [ofContainers, ofInit, ofVolumes, ofShare, ofAutomount]
    constructor
    · exact (annotated_iff (injections_field listed)).mpr right.annotations
    · rw [spec]
      exact (injectedContainers_iff listed).mpr
        ⟨right.containers, right.sidecar, right.daemon, right.daemonOnce,
          right.mount⟩
    · rw [spec]
      exact (injectedInitContainers_iff listed).mpr right.initImage
    · rw [spec]
      exact (injectedVolumes_iff listed).mpr right.volumes
    · rw [spec]
      exact injectedShare listed
    · rw [spec]
      exact injectedAutomount listed
    · rfl
    · rfl
    · rw [spec]
      rfl

end OpenAppsec.Webhook
