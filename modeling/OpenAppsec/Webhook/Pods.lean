import OpenAppsec.Library.ArrayEdits

/-!
# Pods and their patches

The part of a pod object that the mutating webhook reads and edits, with every
other field kept as it is, and the edits that it asks the API server for.
-/

namespace OpenAppsec.Webhook

open ArrayEdits

inductive Json where
  | null
  | bool (value : Bool)
  | number (value : Int)
  | string (value : String)
  | array (items : List Json)
  | object (fields : List (String × Json))

/-- Fields that the webhook does not look at. -/
abbrev Fields := List (String × Json)

structure EnvVar where
  name : String
  value : Option String
  rest : Fields

structure VolumeMount where
  name : String
  rest : Fields

structure Volume where
  name : String
  rest : Fields

structure Container where
  name : String
  image : Option String
  env : Option (List EnvVar)
  volumeMounts : Option (List VolumeMount)
  rest : Fields

structure Spec where
  containers : Option (List Container)
  initContainers : Option (List Container)
  volumes : Option (List Volume)
  shareProcessNamespace : Option Bool
  automountServiceAccountToken : Option Bool
  rest : Fields

/-- A pod object; its labels and annotations are maps from strings. -/
structure Pod where
  labels : Option (List (String × String))
  annotations : Option (List (String × String))
  spec : Spec
  rest : Fields

/-- The operations of a patch, by their paths. -/
inductive Patch where
  /-- add `/metadata/annotations/{key}` -/
  | annotate (key value : String)
  /-- add `/spec/containers/{container}/env` -/
  | addEnv (container : Nat) (value : List EnvVar)
  /-- add at the end of `/spec/containers/{container}/env` -/
  | addEnvVar (container : Nat) (value : EnvVar)
  /-- replace `/spec/containers/{container}/env/{index}` -/
  | replaceEnvVar (container index : Nat) (value : EnvVar)
  /-- replace `/spec/containers/{container}/env/{index}/value` -/
  | replaceEnvValue (container index : Nat) (value : String)
  /-- remove `/spec/containers/{container}/env/{index}` -/
  | removeEnvVar (container index : Nat)
  /-- add at the end of `/spec/containers/{container}/volumeMounts` -/
  | addVolumeMount (container : Nat) (value : VolumeMount)
  /-- remove `/spec/containers/{container}/volumeMounts/{index}` -/
  | removeVolumeMount (container index : Nat)
  /-- add at the end of `/spec/containers` -/
  | addContainer (value : Container)
  /-- replace `/spec/containers/{container}/image` -/
  | replaceImage (container : Nat) (value : String)
  /-- remove `/spec/containers/{container}` -/
  | removeContainer (container : Nat)
  /-- add `/spec/initContainers` -/
  | addInitContainers (value : List Container)
  /-- replace `/spec/initContainers/{container}/image` -/
  | replaceInitImage (container : Nat) (value : String)
  /-- remove `/spec/initContainers/{container}` -/
  | removeInitContainer (container : Nat)
  /-- add at the end of `/spec/volumes` -/
  | addVolume (value : Volume)
  /-- remove `/spec/volumes/{index}` -/
  | removeVolume (index : Nat)
  /-- add `/spec/shareProcessNamespace` -/
  | addShareProcessNamespace (value : Bool)
  /-- remove `/spec/shareProcessNamespace` -/
  | removeShareProcessNamespace
  /-- add `/spec/automountServiceAccountToken` -/
  | addAutomount (value : Bool)
  /-- replace `/spec/automountServiceAccountToken` -/
  | replaceAutomount (value : Bool)

/-- Change the value of a key, or add the key. -/
def setKey (key value : String) (entries : List (String × String)) :
    List (String × String) :=
  if entries.any fun entry => entry.1 = key then
    entries.map fun entry => if entry.1 = key then (key, value) else entry
  else entries ++ [(key, value)]

def Container.editEnv (edit : Option (List EnvVar) → Option (List EnvVar))
    (container : Container) : Option Container :=
  (edit container.env).map fun env => { container with env := some env }

def Container.editMounts
    (edit : Option (List VolumeMount) → Option (List VolumeMount))
    (container : Container) : Option Container :=
  (edit container.volumeMounts).map fun mounts =>
    { container with volumeMounts := some mounts }

/-- `replace` needs a member that exists. -/
def Container.replaceImage (image : String) (container : Container) :
    Option Container :=
  container.image.map fun _ => { container with image := some image }

def EnvVar.replaceValue (value : String) (var : EnvVar) : Option EnvVar :=
  var.value.map fun _ => { var with value := some value }

variable {patch : Patch}

namespace Patch

/-- The container at an index and how a patch changes it. -/
def onContainer : Patch → Option (Nat × (Container → Option Container))
  | .addEnv container value =>
      some (container, (·.editEnv fun _ => some value))
  | .addEnvVar container value => some (container, (·.editEnv (push value)))
  | .replaceEnvVar container index value =>
      some (container, (·.editEnv (updateAt index fun _ => some value)))
  | .replaceEnvValue container index value =>
      some (container, (·.editEnv (updateAt index (·.replaceValue value))))
  | .removeEnvVar container index =>
      some (container, (·.editEnv (removeAt index)))
  | .addVolumeMount container value =>
      some (container, (·.editMounts (push value)))
  | .removeVolumeMount container index =>
      some (container, (·.editMounts (removeAt index)))
  | .replaceImage container value => some (container, (·.replaceImage value))
  | _ => none

def onContainers (containers : Option (List Container)) (patch : Patch) :
    Option (Option (List Container)) :=
  match patch.onContainer with
  | some (index, update) => (updateAt index update containers).map some
  | none =>
      match patch with
      | .addContainer value => (push value containers).map some
      | .removeContainer container => (removeAt container containers).map some
      | _ => some containers

theorem onContainers_of_edit {index : Nat}
    {update : Container → Option Container}
    (edits : patch.onContainer = some (index, update))
    (containers : Option (List Container)) :
    onContainers containers patch =
      (updateAt index update containers).map some := by
  unfold onContainers
  rw [edits]

def onInitContainers (containers : Option (List Container)) :
    Patch → Option (Option (List Container))
  | .addInitContainers value => some (some value)
  | .replaceInitImage container value =>
      (updateAt container (·.replaceImage value) containers).map some
  | .removeInitContainer container => (removeAt container containers).map some
  | _ => some containers

def onVolumes (volumes : Option (List Volume)) : Patch → Option (Option (List Volume))
  | .addVolume value => (push value volumes).map some
  | .removeVolume index => (removeAt index volumes).map some
  | _ => some volumes

def onShareProcessNamespace (value : Option Bool) :
    Patch → Option (Option Bool)
  | .addShareProcessNamespace new => some (some new)
  | .removeShareProcessNamespace => value.map fun _ => none
  | _ => some value

def onAutomount (value : Option Bool) : Patch → Option (Option Bool)
  | .addAutomount new => some (some new)
  | .replaceAutomount new => value.map fun _ => some new
  | _ => some value

def onAnnotations (annotations : Option (List (String × String))) :
    Patch → Option (Option (List (String × String)))
  | .annotate key value =>
      annotations.map fun entries => some (setKey key value entries)
  | _ => some annotations

/-- A patch after RFC 6902: the target of `remove` and `replace` exists, and so
does the parent of what `add` adds. -/
def apply (pod : Pod) (patch : Patch) : Option Pod := do
  let annotations ← patch.onAnnotations pod.annotations
  let containers ← patch.onContainers pod.spec.containers
  let initContainers ← patch.onInitContainers pod.spec.initContainers
  let volumes ← patch.onVolumes pod.spec.volumes
  let shareProcessNamespace ←
    patch.onShareProcessNamespace pod.spec.shareProcessNamespace
  let automountServiceAccountToken ←
    patch.onAutomount pod.spec.automountServiceAccountToken
  return { pod with
    annotations
    spec := { pod.spec with
      containers
      initContainers
      volumes
      shareProcessNamespace
      automountServiceAccountToken } }

end Patch

/-- The patches in order, as far as the API server accepts them. -/
def applyPatches (pod : Pod) (patches : List Patch) : Option Pod :=
  patches.foldlM Patch.apply pod

/-- The fields of a pod that patches change. -/
inductive Field where
  | annotations
  | containers
  | initContainers
  | volumes
  | shareProcessNamespace
  | automountServiceAccountToken
  deriving DecidableEq

namespace Patch

def field : Patch → Field
  | .annotate _ _ => .annotations
  | .addEnv _ _ | .addEnvVar _ _ | .replaceEnvVar _ _ _
  | .replaceEnvValue _ _ _ | .removeEnvVar _ _ | .addVolumeMount _ _
  | .removeVolumeMount _ _ | .addContainer _ | .replaceImage _ _
  | .removeContainer _ => .containers
  | .addInitContainers _ | .replaceInitImage _ _ | .removeInitContainer _ =>
      .initContainers
  | .addVolume _ | .removeVolume _ => .volumes
  | .addShareProcessNamespace _ | .removeShareProcessNamespace =>
      .shareProcessNamespace
  | .addAutomount _ | .replaceAutomount _ => .automountServiceAccountToken

theorem onAnnotations_of_field (other : patch.field ≠ .annotations)
    (annotations : Option (List (String × String))) :
    patch.onAnnotations annotations = some annotations := by
  cases patch <;> first | rfl | exact (other rfl).elim

theorem onContainers_of_field (other : patch.field ≠ .containers)
    (containers : Option (List Container)) :
    onContainers containers patch = some containers := by
  cases patch <;> first | rfl | exact (other rfl).elim

theorem onInitContainers_of_field (other : patch.field ≠ .initContainers)
    (containers : Option (List Container)) :
    onInitContainers containers patch = some containers := by
  cases patch <;> first | rfl | exact (other rfl).elim

theorem onVolumes_of_field (other : patch.field ≠ .volumes)
    (volumes : Option (List Volume)) :
    onVolumes volumes patch = some volumes := by
  cases patch <;> first | rfl | exact (other rfl).elim

theorem onShareProcessNamespace_of_field
    (other : patch.field ≠ .shareProcessNamespace) (value : Option Bool) :
    onShareProcessNamespace value patch = some value := by
  cases patch <;> first | rfl | exact (other rfl).elim

theorem onAutomount_of_field
    (other : patch.field ≠ .automountServiceAccountToken)
    (value : Option Bool) : onAutomount value patch = some value := by
  cases patch <;> first | rfl | exact (other rfl).elim

end Patch

/-- The result of each field. -/
structure Patched (pod result : Pod) (annotations : Option (Option (List (String × String))))
    (containers initContainers : Option (Option (List Container))) (volumes : Option (Option (List Volume)))
    (share automount : Option (Option Bool)) : Prop where
  annotations : annotations = some result.annotations
  containers : containers = some result.spec.containers
  initContainers : initContainers = some result.spec.initContainers
  volumes : volumes = some result.spec.volumes
  share : share = some result.spec.shareProcessNamespace
  automount : automount = some result.spec.automountServiceAccountToken
  labels : result.labels = pod.labels
  rest : result.rest = pod.rest
  specRest : result.spec.rest = pod.spec.rest

theorem Patch.apply_eq_some_iff {pod result : Pod} :
    patch.apply pod = some result ↔
      Patched pod result (patch.onAnnotations pod.annotations)
        (patch.onContainers pod.spec.containers)
        (patch.onInitContainers pod.spec.initContainers)
        (patch.onVolumes pod.spec.volumes)
        (patch.onShareProcessNamespace pod.spec.shareProcessNamespace)
        (patch.onAutomount pod.spec.automountServiceAccountToken) := by
  constructor
  · intro applied
    simp only [apply, Option.bind_eq_bind, Option.bind_eq_some_iff,
      Option.pure_def, Option.some.injEq] at applied
    obtain ⟨_, annotations, _, containers, _, initContainers, _, volumes, _,
      share, _, automount, rfl⟩ := applied
    exact ⟨annotations, containers, initContainers, volumes, share, automount,
      rfl, rfl, rfl⟩
  · rintro ⟨annotations, containers, initContainers, volumes, share, automount,
      labels, rest, specRest⟩
    rw [apply, annotations, containers, initContainers, volumes, share,
      automount]
    simp [← labels, ← rest, ← specRest]

/-- The patches change a pod field by field. -/
theorem applyPatches_eq_some_iff {pod result : Pod} {patches : List Patch} :
    applyPatches pod patches = some result ↔
      Patched pod result (patches.foldlM Patch.onAnnotations pod.annotations)
        (patches.foldlM Patch.onContainers pod.spec.containers)
        (patches.foldlM Patch.onInitContainers pod.spec.initContainers)
        (patches.foldlM Patch.onVolumes pod.spec.volumes)
        (patches.foldlM Patch.onShareProcessNamespace
          pod.spec.shareProcessNamespace)
        (patches.foldlM Patch.onAutomount
          pod.spec.automountServiceAccountToken) := by
  induction patches generalizing pod with
  | nil =>
      constructor
      · intro same
        cases same
        exact ⟨rfl, rfl, rfl, rfl, rfl, rfl, rfl, rfl, rfl⟩
      · rintro ⟨annotations, containers, initContainers, volumes, share,
          automount, labels, rest, specRest⟩
        obtain ⟨_, _, ⟨_, _, _, _, _, _⟩, _⟩ := pod
        obtain ⟨_, _, ⟨_, _, _, _, _, _⟩, _⟩ := result
        cases annotations
        cases containers
        cases initContainers
        cases volumes
        cases share
        cases automount
        cases labels
        cases rest
        cases specRest
        rfl
  | cons patch patches induction =>
      rw [applyPatches, List.foldlM_cons]
      constructor
      · intro applied
        obtain ⟨next, here, later⟩ := Option.bind_eq_some_iff.mp applied
        have here := Patch.apply_eq_some_iff.mp here
        have later := induction.mp later
        constructor
        · rw [List.foldlM_cons, here.annotations]
          exact later.annotations
        · rw [List.foldlM_cons, here.containers]
          exact later.containers
        · rw [List.foldlM_cons, here.initContainers]
          exact later.initContainers
        · rw [List.foldlM_cons, here.volumes]
          exact later.volumes
        · rw [List.foldlM_cons, here.share]
          exact later.share
        · rw [List.foldlM_cons, here.automount]
          exact later.automount
        · exact later.labels.trans here.labels
        · exact later.rest.trans here.rest
        · exact later.specRest.trans here.specRest
      · rintro ⟨annotations, containers, initContainers, volumes, share,
          automount, labels, rest, specRest⟩
        obtain ⟨newAnnotations, annotations, annotationsLater⟩ :=
          Option.bind_eq_some_iff.mp annotations
        obtain ⟨newContainers, containers, containersLater⟩ :=
          Option.bind_eq_some_iff.mp containers
        obtain ⟨newInitContainers, initContainers, initContainersLater⟩ :=
          Option.bind_eq_some_iff.mp initContainers
        obtain ⟨newVolumes, volumes, volumesLater⟩ :=
          Option.bind_eq_some_iff.mp volumes
        obtain ⟨newShare, share, shareLater⟩ :=
          Option.bind_eq_some_iff.mp share
        obtain ⟨newAutomount, automount, automountLater⟩ :=
          Option.bind_eq_some_iff.mp automount
        let next : Pod :=
          { pod with
            annotations := newAnnotations
            spec :=
              { containers := newContainers
                initContainers := newInitContainers
                volumes := newVolumes
                shareProcessNamespace := newShare
                automountServiceAccountToken := newAutomount
                rest := pod.spec.rest } }
        have here : patch.apply pod = some next :=
          Patch.apply_eq_some_iff.mpr ⟨annotations, containers, initContainers,
            volumes, share, automount, rfl, rfl, rfl⟩
        rw [here]
        exact induction.mpr ⟨annotationsLater, containersLater,
          initContainersLater, volumesLater, shareLater, automountLater, labels,
          rest, specRest⟩

end OpenAppsec.Webhook
