import Mathlib.Data.List.Infix
import OpenAppsec.Webhook.Pods

/-!
# The mutating webhook

For a pod under review, `mutate` lists the patches that inject the agent and
what its attachment needs, or that take these out again.
-/

namespace OpenAppsec.Webhook

/-- What the webhook runs with: its environment variables, the version of
envoy that `get_init_container` finds, unless it fails, and `json.dumps`. -/
structure Environment where
  getenv : String → Option String
  envoyVersion : List Container → Option String
  dumps : Spec → String

namespace Environment

variable (e : Environment)

def getenvD (name default : String) : String :=
  (e.getenv name).getD default

/-- The variable is set to `true`, in any case of letters. -/
def isTrue (name : String) : Bool :=
  (e.getenvD name "false").toLower = "true"

def fullAgentImage : String :=
  e.getenvD "AGENT_IMAGE" "ghcr.io/openappsec/agent" ++ ":" ++
    e.getenvD "AGENT_TAG" "latest"

def fullInitContainerImage : String :=
  e.getenvD "INIT_CONTAINER_IMAGE"
      "ghcr.io/openappsec/openappsec-envoy-filters" ++ ":" ++
    e.getenvD "INIT_CONTAINER_TAG" "latest"

def fullTraefikDaemonImage : String :=
  e.getenvD "TRAEFIK_DAEMON_IMAGE"
      "ghcr.io/jclab-oss/openappsec-traefik-daemon" ++ ":" ++
    e.getenvD "TRAEFIK_DAEMON_TAG" "latest"

def proxyKind : String :=
  e.getenvD "PROXY_KIND" "istio"

def isIstioAgent : Bool :=
  e.proxyKind.toLower = "istio"

def isEnvoyGatewayAgent : Bool :=
  e.proxyKind.toLower = "envoy_gateway"

def isEnvoyBasedProxyAgent : Bool :=
  e.isIstioAgent || e.isEnvoyGatewayAgent

def persistenceEnabled : Bool :=
  e.isTrue "APPSEC_PERSISTENCE_ENABLED"

def envoyBasedProxyContainerName : String :=
  if e.isEnvoyGatewayAgent then e.getenvD "ENVOY_GATEWAY_CONTAINER_NAME" "envoy"
  else e.getenvD "ISTIO_CONTAINER_NAME" "istio-proxy"

/-- A variable that is set to some text. -/
def filled (name : String) : Option String :=
  (e.getenv name).filter (· ≠ "")

def libraryPath : Option String :=
  some (e.getenvD "LIBRARY_PATH_VALUE" "/usr/lib/attachment") |>.filter (· ≠ "")

end Environment

def sidecarName : String := "open-appsec-nano-agent"

def traefikDaemonContainerName : String := "openappsec-traefik-daemon"

def initContainerName : String := "prepare-attachment"

def sharedVolumeName : String := "envoy-attachment-shared"

def stringOrNull : Option String → Json
  | some value => .string value
  | none => .null

def strings (values : List String) : Json :=
  .array (values.map Json.string)

def mountAt (name mountPath : String) : VolumeMount :=
  { name, rest := [("mountPath", .string mountPath)] }

def envVar (name value : String) : EnvVar :=
  { name, value := some value, rest := [] }

/-- The fields that both injected containers have. -/
def privileges : Fields :=
  [("securityContext",
      .object [("runAsNonRoot", .bool false), ("runAsUser", .number 0)]),
    ("terminationMessagePath", .string "/dev/termination-log"),
    ("terminationMessagePolicy", .string "File")]

def cpuRequest (cpu : String) : Json :=
  .object [("requests", .object [("cpu", .string cpu)])]

section Environment

variable (e : Environment)

def sidecarVolumeMounts : List VolumeMount :=
  (if e.isEnvoyBasedProxyAgent then
      [mountAt sharedVolumeName "/envoy/attachment/shared/",
        mountAt "advanced-model" "/advanced-model"]
    else [mountAt "advanced-model" "/advanced-model"]) ++
  if e.persistenceEnabled then
    [mountAt "open-appsec-conf" "/etc/cp/conf",
      mountAt "open-appsec-data" "/etc/cp/data"]
  else []

def sidecarArgs : List String :=
  (match e.filled "TOKEN" with
    | some token => ["--token", token]
    | none => ["--hybrid-mode"]) ++
  (match e.filled "FOG_ADDRESS" with
    | some address =>
        if e.getenv "CUSTOM_FOG_ENABLED" = some "true" then ["--fog", address]
        else []
    | none => []) ++
  match e.filled "APPSEC_PROXY" with
  | some proxy => ["--proxy", proxy]
  | none => []

def optionalEnvVars : List String :=
  ["AGENT_TOKEN", "user_email", "appsecClassName", "SHARED_STORAGE_HOST",
    "LEARNING_HOST", "TUNING_HOST", "LOCAL_TUNING_ENABLED", "PLAYGROUND",
    "CRDS_SCOPE"]

/-- `get_sidecar_container`.  An unset `REGISTERED_SERVER` is a null value. -/
def getSidecarContainer : Container :=
  let registered : EnvVar :=
    match e.getenv "REGISTERED_SERVER" with
    | some server => envVar "registered_server" server
    | none =>
        { name := "registered_server", value := none
          rest := [("value", .null)] }
  { name := sidecarName
    image := some e.fullAgentImage
    env := some (registered :: optionalEnvVars.filterMap fun name =>
      (e.getenv name).map (envVar name))
    volumeMounts := some (sidecarVolumeMounts e)
    rest :=
      [("imagePullPolicy", .string "Always"),
        ("command", strings ["/cp-nano-agent"]),
        ("args", strings (sidecarArgs e)),
        ("resources", cpuRequest (e.getenvD "AGENT_CPU" "200m")),
        ("envFrom", .array
          [.object [("configMapRef", .object
              [("name", stringOrNull (e.getenv "CONFIG_MAP_REF"))])],
            .object [("secretRef", .object
              [("name", stringOrNull (e.getenv "SECRET_REF"))])]])] ++
      privileges }

def traefikEnvVars : List String :=
  ["CONCURRENCY_CALC", "CONCURRENCY_NUMBER", "OPENAPPSEC_DAEMON_LISTEN",
    "OPENAPPSEC_ACQUIRE_TIMEOUT_MS", "OPENAPPSEC_SESSION_TTL_SEC"]

/-- `get_traefik_daemon_container`. -/
def getTraefikDaemonContainer : Container :=
  { name := traefikDaemonContainerName
    image := some e.fullTraefikDaemonImage
    env := some (traefikEnvVars.filterMap fun name =>
      (e.getenv ("TRAEFIK_" ++ name) <|> e.getenv name).map (envVar name))
    volumeMounts := none
    rest := ("imagePullPolicy", .string "Always") :: privileges ++
      match e.filled "TRAEFIK_DAEMON_CPU" with
      | some cpu => [("resources", cpuRequest cpu)]
      | none => [] }

/-- `get_init_container`, unless it fails to find a version. -/
def getInitContainer (containers : List Container) : Option Container :=
  (e.envoyVersion containers).map fun version =>
    { name := initContainerName
      image := some e.fullInitContainerImage
      env := none
      volumeMounts := some [mountAt sharedVolumeName "/envoy/attachment/shared"]
      rest :=
        [("imagePullPolicy", .string "Always"),
          ("command", strings ["sh", "-c",
            "mkdir -p /envoy/attachment/shared && " ++
              "cp -r /envoy/attachment/lib* /envoy/attachment/shared && " ++
              "cp /envoy/attachment/versions/" ++ version ++
              "/lib* /envoy/attachment/shared"])] }

/-- `get_volume_mount`. -/
def getVolumeMount : VolumeMount :=
  mountAt sharedVolumeName "/usr/lib/attachment/"

def claimVolume (name : String) : Volume :=
  { name
    rest := [("persistentVolumeClaim", .object [("claimName", .string name)])] }

/-- `get_volume_definition`. -/
def getVolumeDefinition : List Volume :=
  (if e.isEnvoyBasedProxyAgent then
      [{ name := sharedVolumeName, rest := [("emptyDir", .object [])] }]
    else []) ++
  [{ name := "advanced-model"
     rest := [("configMap", .object
      [("name", .string "advanced-model-config"), ("optional", .bool true)])] }] ++
  if e.persistenceEnabled then
    [claimVolume "open-appsec-conf", claimVolume "open-appsec-data"]
  else []

end Environment

/-- The place of the first container with that name. -/
def containerIndex (containers : List Container) (name : String) : Option Nat :=
  containers.findIdx? fun container => container.name = name

def envIndex (env : List EnvVar) (name : String) : Option Nat :=
  env.findIdx? fun var => var.name = name

/-- The first container with that name and its place. -/
def namedContainer (containers : List Container) (name : String) :
    Option (Nat × Container) :=
  (containerIndex containers name).bind fun index =>
    containers[index]?.map fun container => (index, container)

/-- `add_env_if_not_exist`. -/
def addEnvIfNotExist (containers : List Container) (name : String) :
    List Patch :=
  match namedContainer containers name with
  | some (index, container) =>
      if container.env = none then [.addEnv index []] else []
  | none => []

/-- `add_env_variable_value_from`. -/
def addEnvVariableValueFrom (containers : List Container)
    (name envVarName : String) (valueFrom : Json) : List Patch :=
  let value : EnvVar :=
    { name := envVarName, value := none, rest := [("valueFrom", valueFrom)] }
  match namedContainer containers name with
  | some (index, container) =>
      match envIndex (container.env.getD []) envVarName with
      | some var => [.replaceEnvVar index var value]
      | none => [.addEnvVar index value]
  | none => []

/-- `needle in haystack`. -/
def isIn (needle haystack : String) : Bool :=
  needle.toList <:+: haystack.toList

/-- `add_env_variable`; a variable without a value is an error. -/
def addEnvVariable (containers : List Container)
    (name envVarName envValue : String) : Option (List Patch) :=
  match namedContainer containers name with
  | some (index, container) =>
      let env := container.env.getD []
      match envIndex env envVarName with
      | some var =>
          (env[var]?.bind EnvVar.value).map fun current =>
            if envVarName = "LD_LIBRARY_PATH" then
              if isIn envValue current then []
              else [.replaceEnvValue index var (current ++ ":" ++ envValue)]
            else [.replaceEnvValue index var envValue]
      | none => some [.addEnvVar index (envVar envVarName envValue)]
  | none => some []

/-- `remove_env_variable`. -/
def removeEnvVariable (containers : List Container)
    (name envVarName : String) : List Patch :=
  match namedContainer containers name with
  | some (index, container) =>
      match envIndex (container.env.getD []) envVarName with
      | some var => [.removeEnvVar index var]
      | none => []
  | none => []

/-- `str.isspace` for one character. -/
def isSpace (c : Char) : Bool :=
  c.toNat ∈ [0x20, 0x85, 0xa0, 0x1680, 0x2028, 0x2029, 0x202f, 0x205f, 0x3000] ||
    (0x09 ≤ c.toNat && c.toNat ≤ 0x0d) || (0x1c ≤ c.toNat && c.toNat ≤ 0x1f) ||
    (0x2000 ≤ c.toNat && c.toNat ≤ 0x200a)

/-- `str.strip`. -/
def strip (text : String) : String :=
  String.ofList ((text.toList.dropWhile isSpace).reverse.dropWhile
    isSpace).reverse

/-- `wants_traefik_daemon`. -/
def wantsTraefikDaemon (pod : Pod) : Bool :=
  [pod.labels, pod.annotations].any fun source =>
    match (source.getD []).lookup "attachment.openappsec.io/traefik" with
    | some value =>
        (strip value).toLower ∈ ["true", "yes", "on", "1", "enabled"]
    | none => false

section Environment

variable (e : Environment)

/-- The original specification is kept in an annotation. -/
def originalConfiguration (pod : Pod) : List Patch :=
  if (pod.annotations.getD []).any fun entry =>
      entry.1 = "original-configuration" then []
  else [.annotate "original-configuration" (e.dumps pod.spec)]

/-- The variables that are set for the proxy, in the order of their removal. -/
def removedVariables : List String :=
  (if (e.filled "CONCURRENCY_NUMBER").isSome then ["CONCURRENCY_NUMBER"]
    else []) ++
  (if (e.filled "CONFIG_PORT").isSome then ["CONFIG_PORT"] else []) ++
  (if (e.filled "CONCURRENCY_CALC").isSome then ["CONCURRENCY_CALC"] else []) ++
  if e.libraryPath.isSome then ["LD_LIBRARY_PATH"] else []

/-- The removals of what only a proxy with envoy is given. -/
def envoyRemovals (spec : Spec) : List Patch :=
  (if e.envoyBasedProxyContainerName ≠ "" then
      (removedVariables e).flatMap (removeEnvVariable (spec.containers.getD [])
        e.envoyBasedProxyContainerName)
    else []) ++
  (if spec.shareProcessNamespace.isSome then [.removeShareProcessNamespace]
    else []) ++
  match containerIndex (spec.initContainers.getD []) initContainerName with
  | some index => [.removeInitContainer index]
  | none => []

/-- The mounts of the shared volume in all containers. -/
def mountRemovals (containers : List Container) : List Patch :=
  containers.zipIdx.flatMap fun (container, index) =>
    (container.volumeMounts.getD []).zipIdx.filterMap fun (mount, place) =>
      if mount.name = sharedVolumeName then
        some (.removeVolumeMount index place)
      else none

def isInjected (container : Container) : Bool :=
  container.name = sidecarName || container.name = traefikDaemonContainerName

/-- The places of the injected containers, the last first. -/
def containerRemovals (containers : List Container) : List Patch :=
  (containers.zipIdx.filterMap fun (container, index) =>
    if isInjected container then some index else none).reverse.map
      .removeContainer

/-- `mutate` with `REMOVE_INJECTED_DATA`. -/
def removals (spec : Spec) : List Patch :=
  let containers := spec.containers.getD []
  (if e.isEnvoyBasedProxyAgent then envoyRemovals e spec
    else if spec.automountServiceAccountToken.isSome then
      [.replaceAutomount false]
    else []) ++
  (if containers.any isInjected then
      (if e.isEnvoyBasedProxyAgent then mountRemovals containers else []) ++
        containerRemovals containers
    else []) ++
  if e.isEnvoyBasedProxyAgent then
    match (spec.volumes.getD []).findIdx? fun volume =>
        volume.name = sharedVolumeName with
    | some index => [.removeVolume index]
    | none => []
  else []

/-- The variables that the proxy is given, in their order. -/
def proxyVariables : List (String × String) :=
  [("LD_LIBRARY_PATH", e.libraryPath),
    ("CONCURRENCY_CALC", e.filled "CONCURRENCY_CALC"),
    ("CONFIG_PORT", e.filled "CONFIG_PORT"),
    ("CONCURRENCY_NUMBER", e.filled "CONCURRENCY_NUMBER")].filterMap
      fun (name, value) => value.map fun value => (name, value)

/-- `metadata.uid`, as the value of a variable. -/
def uidSource : Json :=
  .object [("fieldRef", .object [("fieldPath", .string "metadata.uid")])]

def proxyEnvInjections (containers : List Container) : Option (List Patch) :=
  let name := e.envoyBasedProxyContainerName
  if name ≠ "" then do
    let assigned ← (proxyVariables e).mapM fun (envVarName, value) =>
      addEnvVariable containers name envVarName value
    return addEnvIfNotExist containers name ++
      addEnvVariableValueFrom containers name "OPENAPPSEC_UID" uidSource ++
      assigned.flatten
  else some []

/-- What only a proxy with envoy is given. -/
def envoyInjections (spec : Spec) : Option (List Patch) := do
  let containers := spec.containers.getD []
  let initContainer ← getInitContainer e containers
  let assigned ← proxyEnvInjections e containers
  return assigned ++
    [.addShareProcessNamespace true, .addVolumeMount 0 getVolumeMount] ++
    if (containerIndex (spec.initContainers.getD [])
        initContainerName).isNone then
      [.addInitContainers (spec.initContainers.getD [] ++ [initContainer])]
    else []

/-- The image of the first container with that name is brought up to date. -/
def imageUpdate (containers : List Container) (name image : String)
    (replace : Nat → String → Patch) : List Patch :=
  match namedContainer containers name with
  | some (index, container) =>
      if container.image.getD "" ≠ image then [replace index image] else []
  | none => []

def sidecarInjections (containers : List Container) : List Patch :=
  if (containerIndex containers sidecarName).isNone then
    .addContainer (getSidecarContainer e) ::
      (getVolumeDefinition e).map .addVolume
  else imageUpdate containers sidecarName e.fullAgentImage .replaceImage

def traefikInjections (requested : Bool) (containers : List Container) :
    List Patch :=
  if requested then
    if (containerIndex containers traefikDaemonContainerName).isNone then
      [.addContainer (getTraefikDaemonContainer e)]
    else
      imageUpdate containers traefikDaemonContainerName
        e.fullTraefikDaemonImage .replaceImage
  else
    match containerIndex containers traefikDaemonContainerName with
    | some index => [.removeContainer index]
    | none => []

/-- What the kind of proxy needs. -/
def kindInjections (spec : Spec) : Option (List Patch) :=
  if e.isEnvoyBasedProxyAgent then envoyInjections e spec
  else if spec.automountServiceAccountToken.isSome then
    some [.replaceAutomount true]
  else some [.addAutomount true]

def initImageUpdate (spec : Spec) : List Patch :=
  if e.isEnvoyBasedProxyAgent then
    imageUpdate (spec.initContainers.getD []) initContainerName
      e.fullInitContainerImage .replaceInitImage
  else []

/-- `mutate` without `REMOVE_INJECTED_DATA`. -/
def injections (pod : Pod) : Option (List Patch) :=
  let containers := pod.spec.containers.getD []
  (kindInjections e pod.spec).map fun kind =>
    kind ++ sidecarInjections e containers ++
      traefikInjections e (wantsTraefikDaemon pod) containers ++
      initImageUpdate e pod.spec

/-- The patches of `mutate`, unless it fails with an error. -/
def mutate (pod : Pod) : Option (List Patch) :=
  (if e.isTrue "REMOVE_INJECTED_DATA" then some (removals e pod.spec)
    else injections e pod).map (originalConfiguration e pod ++ ·)

/-- The pod as the API server has it after a review. -/
def review (pod : Pod) : Option Pod :=
  (mutate e pod).bind (applyPatches pod)

end Environment

end OpenAppsec.Webhook
