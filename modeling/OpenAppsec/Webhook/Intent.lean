import OpenAppsec.Library.FirstItems
import OpenAppsec.Library.PlaceRemovals
import OpenAppsec.Webhook.Idempotence

/-!
# What a review is meant to give

The pod that the webhook means to have after a review, found by names alone,
and the pods for which its patches, made by positions, give that pod.
-/

namespace OpenAppsec.Webhook

open ArrayEdits

def namedVar (name : String) (var : EnvVar) : Bool :=
  var.name = name

def sharedMount (mount : VolumeMount) : Bool :=
  mount.name = sharedVolumeName

def sharedVolume (volume : Volume) : Bool :=
  volume.name = sharedVolumeName

/-- The new value of a variable, which a library path is added to. -/
def mergedValue (name value current : String) : String :=
  if name = "LD_LIBRARY_PATH" then
    if isIn value current then current else current ++ ":" ++ value
  else value

/-- A variable is set, or added. -/
def assigned (env : List EnvVar) (assignment : String × String) :
    List EnvVar :=
  editFirstOrAdd (namedVar assignment.1)
    (fun var => { var with
      value := var.value.map (mergedValue assignment.1 assignment.2) })
    (envVar assignment.1 assignment.2) env

def uidVariable : EnvVar :=
  { name := "OPENAPPSEC_UID", value := none, rest := [("valueFrom", uidSource)] }

def withUid (env : List EnvVar) : List EnvVar :=
  editFirstOrAdd (namedVar "OPENAPPSEC_UID") (fun _ => uidVariable) uidVariable
    env

/-- The shared volume is mounted once. -/
def withMount (container : Container) : Container :=
  let mounts := container.volumeMounts.getD []
  { container with
    volumeMounts := some
      (if mounts.any sharedMount then mounts else mounts ++ [getVolumeMount]) }

def withImage (image : String) (container : Container) : Container :=
  { container with image := some image }

/-- The container of that name has that image, or is added. -/
def provided (name image : String) (new : Container)
    (containers : List Container) : List Container :=
  editFirstOrAdd (named name) (withImage image) new containers

section Environment

variable (e : Environment)

def withVariables (container : Container) : Container :=
  if e.envoyBasedProxyContainerName ≠ "" then
    { container with
      env := some ((proxyVariables e).foldl assigned
        (withUid (container.env.getD []))) }
  else container

def withSidecar (containers : List Container) : List Container :=
  provided sidecarName e.fullAgentImage (getSidecarContainer e) containers

def withDaemon (containers : List Container) : List Container :=
  provided traefikDaemonContainerName e.fullTraefikDaemonImage
    (getTraefikDaemonContainer e) containers

/-- The containers of an injected pod. -/
def injectedContainers (requested : Bool) (containers : List Container) :
    List Container :=
  let proxied :=
    if e.isEnvoyBasedProxyAgent then
      editFirst (named e.envoyBasedProxyContainerName)
        (fun container => withMount (withVariables e container)) containers
    else containers
  let agent := withSidecar e proxied
  if requested then withDaemon e agent
  else agent.filter fun container => !named traefikDaemonContainerName container

/-- A new sidecar comes with its volumes. -/
def injectedVolumes (spec : Spec) : Option (List Volume) :=
  if (spec.containers.getD []).any (named sidecarName) then spec.volumes
  else
    let volumes := spec.volumes.getD []
    some (volumes ++ (getVolumeDefinition e).filter fun new =>
      !volumes.any fun volume => volume.name = new.name)

def injectedInitContainers (spec : Spec) : Option (List Container) :=
  if e.isEnvoyBasedProxyAgent then
    let initContainers := spec.initContainers.getD []
    if initContainers.any (named initContainerName) then
      some (editFirst (named initContainerName)
        (withImage e.fullInitContainerImage) initContainers)
    else
      some (initContainers ++
        (getInitContainer e (spec.containers.getD [])).toList)
  else spec.initContainers

def injectedSpec (pod : Pod) : Spec :=
  { containers := some (injectedContainers e (wantsTraefikDaemon pod)
      (pod.spec.containers.getD []))
    initContainers := injectedInitContainers e pod.spec
    volumes := injectedVolumes e pod.spec
    shareProcessNamespace :=
      if e.isEnvoyBasedProxyAgent then some true
      else pod.spec.shareProcessNamespace
    automountServiceAccountToken :=
      if e.isEnvoyBasedProxyAgent then pod.spec.automountServiceAccountToken
      else some true
    rest := pod.spec.rest }

def withoutVariables (container : Container) : Container :=
  { container with
    env := container.env.map (·.filter fun var =>
      !decide (var.name ∈ removedVariables e)) }

def withoutMounts (container : Container) : Container :=
  { container with
    volumeMounts := container.volumeMounts.map (·.filter fun mount =>
      !sharedMount mount) }

/-- The containers that the injection was not made for. -/
def restoredContainers (containers : List Container) : List Container :=
  let proxied :=
    if e.isEnvoyBasedProxyAgent ∧ e.envoyBasedProxyContainerName ≠ "" then
      editFirst (named e.envoyBasedProxyContainerName) (withoutVariables e)
        containers
    else containers
  let unmounted :=
    if e.isEnvoyBasedProxyAgent ∧ containers.any isInjected then
      proxied.map withoutMounts
    else proxied
  unmounted.filter fun container => !isInjected container

def restoredSpec (spec : Spec) : Spec :=
  { containers := spec.containers.map (restoredContainers e)
    initContainers :=
      if e.isEnvoyBasedProxyAgent then
        spec.initContainers.map (·.filter fun container =>
          !named initContainerName container)
      else spec.initContainers
    volumes :=
      if e.isEnvoyBasedProxyAgent then
        spec.volumes.map (·.filter fun volume => !sharedVolume volume)
      else spec.volumes
    shareProcessNamespace :=
      if e.isEnvoyBasedProxyAgent then none else spec.shareProcessNamespace
    automountServiceAccountToken :=
      if e.isEnvoyBasedProxyAgent then spec.automountServiceAccountToken
      else spec.automountServiceAccountToken.map fun _ => false
    rest := spec.rest }

/-- The original specification is kept, once. -/
def annotated (pod : Pod) : List (String × String) :=
  let entries := pod.annotations.getD []
  if entries.any fun entry => entry.1 = "original-configuration" then entries
  else entries ++ [("original-configuration", e.dumps pod.spec)]

def intended (pod : Pod) : Pod :=
  { labels := pod.labels
    annotations := some (annotated e pod)
    spec :=
      if e.isTrue "REMOVE_INJECTED_DATA" then restoredSpec e pod.spec
      else injectedSpec e pod
    rest := pod.rest }

/-- The patches for the proxy reach it as the first container, which has mounts
but not this one.  A first container that is taken out takes a wrong mount
along. -/
def MountsProxy (requested : Bool) (containers : List Container) : Prop :=
  ∃ head tail mounts, containers = head :: tail ∧
    head.volumeMounts = some mounts ∧
    if requested = false ∧ named traefikDaemonContainerName head then
      named e.envoyBasedProxyContainerName head = false →
        ∀ proxy,
          tail.find? (named e.envoyBasedProxyContainerName) = some proxy →
            (proxy.volumeMounts.getD []).any sharedMount
    else
      named e.envoyBasedProxyContainerName head ∧
        mounts.any sharedMount = false

/-- The variables that the proxy is to be given have a value there. -/
def HasValues (containers : List Container) : Prop :=
  e.envoyBasedProxyContainerName ≠ "" →
    ∀ proxy,
      containers.find? (named e.envoyBasedProxyContainerName) = some proxy →
        ∀ assignment ∈ proxyVariables e, ∀ var,
          (proxy.env.getD []).find? (namedVar assignment.1) = some var →
            var.value.isSome

/-- A container of that name has an image. -/
def HasImage (name : String) (containers : List Container) : Prop :=
  ∀ container, containers.find? (named name) = some container →
    container.image.isSome

/-- The pods that an injection is right for. -/
structure InjectsCleanly (pod : Pod) : Prop where
  annotations : pod.annotations.isSome
  containers : pod.spec.containers.isSome
  volumes : (pod.spec.containers.getD []).any (named sidecarName) = false →
    ∃ volumes, pod.spec.volumes = some volumes ∧
      ∀ new ∈ getVolumeDefinition e, ∀ volume ∈ volumes, volume.name ≠ new.name
  sidecar : HasImage sidecarName (pod.spec.containers.getD [])
  daemon : wantsTraefikDaemon pod = true →
    HasImage traefikDaemonContainerName (pod.spec.containers.getD [])
  daemonOnce : wantsTraefikDaemon pod = false →
    (pod.spec.containers.getD []).countP (named traefikDaemonContainerName) ≤ 1
  version : e.isEnvoyBasedProxyAgent = true →
    (e.envoyVersion (pod.spec.containers.getD [])).isSome
  initImage : e.isEnvoyBasedProxyAgent = true →
    HasImage initContainerName (pod.spec.initContainers.getD [])
  values : e.isEnvoyBasedProxyAgent = true →
    HasValues e (pod.spec.containers.getD [])
  mount : e.isEnvoyBasedProxyAgent = true →
    MountsProxy e (wantsTraefikDaemon pod) (pod.spec.containers.getD [])

def removedPlaces (env : List EnvVar) : List Nat :=
  (removedVariables e).filterMap (envIndex env)

/-- The variables to be removed stand there once each, and in the order in
which they are set.  Of a container that is taken out itself it is enough that
the places exist. -/
def RemovesVariables (container : Container) : Prop :=
  let env := container.env.getD []
  if isInjected container then InBounds (removedPlaces e env) env.length
  else
    removedPlaces e env =
      (positions (fun var => decide (var.name ∈ removedVariables e))
        env).reverse

def RemovesMounts (container : Container) : Prop :=
  let mounts := container.volumeMounts.getD []
  if isInjected container then
    InBounds (positions sharedMount mounts) mounts.length
  else mounts.countP sharedMount ≤ 1

/-- The pods that a removal is right for. -/
structure RemovesCleanly (pod : Pod) : Prop where
  annotations : pod.annotations.isSome
  initContainers : e.isEnvoyBasedProxyAgent = true →
    (pod.spec.initContainers.getD []).countP (named initContainerName) ≤ 1
  volumes : e.isEnvoyBasedProxyAgent = true →
    (pod.spec.volumes.getD []).countP sharedVolume ≤ 1
  env : e.isEnvoyBasedProxyAgent = true →
    e.envoyBasedProxyContainerName ≠ "" →
      ∀ proxy,
        (pod.spec.containers.getD []).find?
            (named e.envoyBasedProxyContainerName) = some proxy →
          RemovesVariables e proxy
  mounts : e.isEnvoyBasedProxyAgent = true →
    (pod.spec.containers.getD []).any isInjected →
      ∀ container ∈ pod.spec.containers.getD [], RemovesMounts container

end Environment

end OpenAppsec.Webhook
