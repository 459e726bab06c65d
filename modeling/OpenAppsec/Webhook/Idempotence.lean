import Mathlib.Algebra.Ring.Nat
import OpenAppsec.Webhook.Removal
import Mathlib.Algebra.Order.BigOperators.Group.List
import Mathlib.Algebra.Order.Group.Nat

/-!
# Injection into a pod that has been injected

A second review of a pod finds the injected containers by their names.  For a
proxy with envoy it adds one more mount all the same.
-/

namespace OpenAppsec.Webhook

open ArrayEdits

variable {containers : List Container} {patches : List Patch}
variable {name image : String} {result : Option (List Container)}
variable {patch : Patch} {index : Nat} {requested : Bool} {names : List String}
variable {old new : Container} {injected : Pod}

/-- How a patch changes the names of the containers. -/
def Patch.onNames (names : List String) : Patch → List String
  | .addContainer container => names ++ [container.name]
  | .removeContainer index => names.eraseIdx index
  | _ => names

def namesOf (containers : Option (List Container)) : List String :=
  (containers.getD []).map Container.name

theorem Patch.onContainer_name {update : Container → Option Container}
    (edits : patch.onContainer = some (index, update))
    (updated : update old = some new) : new.name = old.name := by
  have ofEnv {edit : Option (List EnvVar) → Option (List EnvVar)}
      (updated : old.editEnv edit = some new) : new.name = old.name := by
    obtain ⟨_, _, rfl⟩ := Option.map_eq_some_iff.mp updated
    rfl
  have ofMounts {edit : Option (List VolumeMount) → Option (List VolumeMount)}
      (updated : old.editMounts edit = some new) : new.name = old.name := by
    obtain ⟨_, _, rfl⟩ := Option.map_eq_some_iff.mp updated
    rfl
  cases patch <;> cases edits <;>
    first
    | exact ofEnv updated
    | exact ofMounts updated
    | skip
  obtain ⟨_, _, rfl⟩ := Option.map_eq_some_iff.mp updated
  rfl

theorem Patch.onNames_of_onContainer
    {edit : Nat × (Container → Option Container)}
    (edits : patch.onContainer = some edit) (names : List String) :
    patch.onNames names = names := by
  cases patch <;> first | rfl | exact nomatch edits

theorem map_name_set {items : List Container} (here : items[index]? = some old)
    (same : new.name = old.name) :
    (items.set index new).map Container.name =
      items.map Container.name := by
  rw [List.map_set, same]
  apply List.ext_getElem?
  intro place
  rw [List.getElem?_set]
  split
  · rename_i same
    cases same
    split
    · rw [List.getElem?_map, here]
      rfl
    · rename_i outside
      rw [List.getElem?_eq_none (Nat.le_of_not_lt outside)]
  · rfl

theorem Patch.onContainers_names {containers : Option (List Container)}
    (applied : onContainers containers patch = some result) :
    namesOf result = patch.onNames (namesOf containers) := by
  cases edits : patch.onContainer with
  | some edit =>
      obtain ⟨index, update⟩ := edit
      rw [onContainers_of_edit edits] at applied
      obtain ⟨items, edited, rfl⟩ := Option.map_eq_some_iff.mp applied
      obtain ⟨items, old, new, rfl, here, updated, rfl⟩ :=
        updateAt_eq_some_iff.mp edited
      rw [onNames_of_onContainer edits]
      exact map_name_set here (onContainer_name edits updated)
  | none =>
      cases patch with
      | addContainer value =>
          obtain ⟨items, pushed, rfl⟩ := Option.map_eq_some_iff.mp applied
          obtain ⟨items, rfl, rfl⟩ := push_eq_some_iff.mp pushed
          simp [namesOf, onNames]
      | removeContainer index =>
          obtain ⟨items, removed, rfl⟩ := Option.map_eq_some_iff.mp applied
          obtain ⟨items, rfl, _, rfl⟩ := removeAt_eq_some_iff.mp removed
          simp [namesOf, onNames, List.eraseIdx_eq_take_drop_succ]
      | _ =>
          cases edits <;> (cases applied; rfl)

theorem foldlM_onContainers_names {containers : Option (List Container)}
    (applied : patches.foldlM Patch.onContainers containers = some result) :
    namesOf result = patches.foldl Patch.onNames (namesOf containers) := by
  induction patches generalizing containers with
  | nil =>
      cases applied
      rfl
  | cons patch patches induction =>
      obtain ⟨next, here, later⟩ := Option.bind_eq_some_iff.mp applied
      rw [List.foldl_cons, ← Patch.onContainers_names here]
      exact induction later

variable {e : Environment} {pod : Pod}

theorem foldl_onNames_of_fixed
    (fixed : ∀ patch ∈ patches, ∀ names, patch.onNames names = names) :
    patches.foldl Patch.onNames names = names := by
  induction patches with
  | nil => rfl
  | cons patch patches induction =>
      rw [List.foldl_cons, fixed patch List.mem_cons_self]
      exact induction fun other member =>
        fixed other (List.mem_cons_of_mem _ member)

theorem Patch.onNames_of_field (other : patch.field ≠ .containers)
    (names : List String) :
    patch.onNames names = names := by
  cases patch <;> first | rfl | exact (other rfl).elim

/-- No container or mount is taken out, and none is added but for mounts. -/
def Patch.Additive : Patch → Prop
  | .addContainer _ | .removeContainer _ | .removeVolumeMount _ _ => False
  | _ => True

/-- No container is added or removed. -/
def InPlace (patches : List Patch) : Prop :=
  ∀ patch ∈ patches, ∀ names, patch.onNames names = names

theorem inPlace_of_field
    (other : ∀ patch ∈ patches, patch.field ≠ .containers) :
    InPlace patches :=
  fun patch member => Patch.onNames_of_field (other patch member)

theorem inPlace_of_additive (additive : ∀ patch ∈ patches, patch.Additive) :
    InPlace patches := by
  intro patch member names
  have kept := additive patch member
  cases patch with
  | addContainer value => exact kept.elim
  | removeContainer index => exact kept.elim
  | _ => rfl

theorem addEnvVariable_additive {envVarName envValue : String}
    (listed : addEnvVariable containers name envVarName envValue =
      some patches) : ∀ patch ∈ patches, patch.Additive := by
  rw [addEnvVariable] at listed
  split at listed
  · dsimp only at listed
    split at listed
    · obtain ⟨current, _, rfl⟩ := Option.map_eq_some_iff.mp listed
      split
      · split
        · simp
        · simp [Patch.Additive]
      · simp [Patch.Additive]
    · cases listed
      simp [Patch.Additive]
  · cases listed
    simp

theorem proxyEnvInjections_additive
    (listed : proxyEnvInjections e containers = some patches) :
    ∀ patch ∈ patches, patch.Additive := by
  rw [proxyEnvInjections] at listed
  dsimp only at listed
  split at listed
  · obtain ⟨assigned, mapped, same⟩ := Option.bind_eq_some_iff.mp listed
    cases same
    simp only [List.forall_mem_append]
    refine ⟨⟨?_, ?_⟩, ?_⟩
    · rw [addEnvIfNotExist]
      split
      · split <;> simp [Patch.Additive]
      · simp
    · rw [addEnvVariableValueFrom]
      split
      · split <;> simp [Patch.Additive]
      · simp
    · intro patch member
      obtain ⟨part, ofPart, member⟩ := List.mem_flatten.mp member
      obtain ⟨_, _, listed⟩ := exists_of_mem_mapM mapped part ofPart
      exact addEnvVariable_additive listed patch member
  · cases listed
    simp

theorem kindInjections_additive
    (listed : kindInjections e pod.spec = some patches) :
    ∀ patch ∈ patches, patch.Additive := by
  rw [kindInjections] at listed
  split at listed
  · obtain ⟨initContainer, _, listed⟩ := Option.bind_eq_some_iff.mp listed
    obtain ⟨assigned, ofProxy, same⟩ := Option.bind_eq_some_iff.mp listed
    cases same
    simp only [List.forall_mem_append]
    refine ⟨⟨proxyEnvInjections_additive ofProxy, ?_⟩, ?_⟩
    · simp [Patch.Additive]
    · split
      · simp [Patch.Additive]
      · simp
  · split at listed <;> cases listed <;> simp [Patch.Additive]

theorem imageUpdate_additive {replace : Nat → String → Patch}
    (additive : ∀ index image, (replace index image).Additive) :
    ∀ patch ∈ imageUpdate containers name image replace, patch.Additive := by
  rw [imageUpdate]
  split
  · split
    · simp [additive]
    · simp
  · simp

theorem replaceImages_additive :
    ∀ patch ∈ imageUpdate containers name image .replaceImage,
      patch.Additive :=
  imageUpdate_additive fun _ _ => trivial

/-- The names after the sidecar. -/
def sidecarNames (names : List String) : List String :=
  if sidecarName ∈ names then names else names ++ [sidecarName]

/-- The names after the traefik daemon. -/
def traefikNames (requested : Bool) (names : List String) : List String :=
  if requested then
    if traefikDaemonContainerName ∈ names then names
    else names ++ [traefikDaemonContainerName]
  else names.erase traefikDaemonContainerName

theorem containerIndex_eq_none_iff :
    containerIndex containers name = none ↔
      name ∉ containers.map Container.name := by
  rw [containerIndex, List.findIdx?_eq_none_iff]
  simp

theorem sidecarInjections_names :
    (sidecarInjections e containers).foldl Patch.onNames
        (containers.map Container.name) =
      sidecarNames (containers.map Container.name) := by
  rw [sidecarInjections, sidecarNames]
  by_cases present : sidecarName ∈ containers.map Container.name
  · have found : containerIndex containers sidecarName ≠ none := by
      rw [Ne, containerIndex_eq_none_iff]
      exact not_not_intro present
    rw [if_pos present, if_neg (by simpa using found)]
    exact foldl_onNames_of_fixed (inPlace_of_additive replaceImages_additive)
  · have absent := containerIndex_eq_none_iff.mpr present
    rw [if_neg present, absent, Option.isNone_none, if_pos rfl, List.foldl_cons]
    apply foldl_onNames_of_fixed
    intro patch member
    obtain ⟨volume, _, rfl⟩ := List.mem_map.mp member
    exact fun _ => rfl

theorem sidecarName_ne : sidecarName ≠ traefikDaemonContainerName := by
  simp [sidecarName, traefikDaemonContainerName]

theorem traefik_mem_sidecarNames :
    traefikDaemonContainerName ∈ sidecarNames names ↔
      traefikDaemonContainerName ∈ names := by
  rw [sidecarNames]
  split <;> simp [sidecarName_ne.symm]

theorem sidecarNames_eraseIdx
    (found : containerIndex containers traefikDaemonContainerName =
      some index) :
    (sidecarNames (containers.map Container.name)).eraseIdx index =
      (sidecarNames (containers.map Container.name)).erase
        traefikDaemonContainerName := by
  obtain ⟨before, daemon, after, first, rfl⟩ := exists_firstAt found
  have named : daemon.name = traefikDaemonContainerName := by
    simpa using first.ofKind
  have earlier : traefikDaemonContainerName ∉ before.map Container.name := by
    intro member
    obtain ⟨other, listed, same⟩ := List.mem_map.mp member
    simpa [same] using first.none other listed
  obtain ⟨more, extended⟩ : ∃ more,
      sidecarNames (containers.map Container.name) =
        before.map Container.name ++ traefikDaemonContainerName :: more := by
    rw [sidecarNames, first.split]
    split
    · exact ⟨after.map Container.name, by simp [named]⟩
    · exact ⟨after.map Container.name ++ [sidecarName], by simp [named]⟩
  rw [extended, List.erase_append_right _ earlier, List.erase_cons_head,
    List.eraseIdx_append_of_length_le (by simp)]
  simp

theorem traefikInjections_names :
    (traefikInjections e requested containers).foldl Patch.onNames
        (sidecarNames (containers.map Container.name)) =
      traefikNames requested
        (sidecarNames (containers.map Container.name)) := by
  rw [traefikInjections, traefikNames]
  cases requested with
  | true =>
      rw [if_pos rfl, if_pos rfl]
      by_cases present :
          traefikDaemonContainerName ∈ containers.map Container.name
      · have found :
            containerIndex containers traefikDaemonContainerName ≠ none := by
          rw [Ne, containerIndex_eq_none_iff]
          exact not_not_intro present
        rw [if_pos (traefik_mem_sidecarNames.mpr present),
          if_neg (by simpa using found)]
        exact foldl_onNames_of_fixed (inPlace_of_additive replaceImages_additive)
      · have absent := containerIndex_eq_none_iff.mpr present
        rw [if_neg (traefik_mem_sidecarNames.not.mpr present), absent,
          Option.isNone_none, if_pos rfl]
        rfl
  | false =>
      rw [if_neg (by simp), if_neg (by simp)]
      cases found : containerIndex containers traefikDaemonContainerName with
      | some index => exact sidecarNames_eraseIdx found
      | none =>
          have absent := containerIndex_eq_none_iff.mp found
          rw [List.erase_of_not_mem (traefik_mem_sidecarNames.not.mpr absent)]
          rfl

variable (off : e.isTrue "REMOVE_INJECTED_DATA" = false)

include off in
theorem injected_names (reviewed : review e pod = some injected) :
    namesOf injected.spec.containers =
      traefikNames (wantsTraefikDaemon pod)
        (sidecarNames (namesOf pod.spec.containers)) := by
  obtain ⟨patches, listed, applied⟩ := Option.bind_eq_some_iff.mp reviewed
  have edited := (applyPatches_eq_some_iff.mp applied).containers
  rw [mutate, off, if_neg (by simp)] at listed
  obtain ⟨others, injects, rfl⟩ := Option.map_eq_some_iff.mp listed
  obtain ⟨kind, ofKind, rfl⟩ := Option.map_eq_some_iff.mp injects
  rw [foldlM_onContainers_names edited, List.foldl_append, List.foldl_append,
    List.foldl_append, List.foldl_append,
    foldl_onNames_of_fixed (inPlace_of_field
      (other_field originalConfiguration_field (by simp))),
    foldl_onNames_of_fixed (inPlace_of_additive
      (kindInjections_additive ofKind)), namesOf,
    sidecarInjections_names, traefikInjections_names]
  exact foldl_onNames_of_fixed (inPlace_of_field
    (other_field initImageUpdate_field (by simp)))

theorem lookup_setKey_of_ne {key other value : String}
    {entries : List (String × String)} (differs : other ≠ key) :
    (setKey key value entries).lookup other = entries.lookup other := by
  have replaced (entries : List (String × String)) :
      (entries.map fun entry =>
        if entry.1 = key then (key, value) else entry).lookup other =
          entries.lookup other := by
    induction entries with
    | nil => rfl
    | cons entry entries induction =>
        obtain ⟨name, current⟩ := entry
        rw [List.map_cons, List.lookup_cons, List.lookup_cons, induction]
        by_cases same : name = key
        · have other' : (other == key) = false := by simpa using differs
          simp [same, other']
        · simp [same]
  rw [setKey]
  split
  · exact replaced entries
  · rw [List.lookup_append]
    simp [differs]

theorem any_setKey {key value : String} {entries : List (String × String)} :
    (setKey key value entries).any (fun entry => entry.1 = key) = true := by
  rw [setKey]
  split
  · rename_i present
    obtain ⟨entry, member, same⟩ := List.any_eq_true.mp present
    refine List.any_eq_true.mpr ⟨(key, value), ?_, by simp⟩
    refine List.mem_map.mpr ⟨entry, member, ?_⟩
    rw [if_pos (by simpa using same)]
  · simp

include off in
/-- A review leaves what the pod asks for as it is, and keeps the original
specification. -/
theorem injected_annotations (reviewed : review e pod = some injected) :
    wantsTraefikDaemon injected = wantsTraefikDaemon pod ∧
      originalConfiguration e injected = [] := by
  obtain ⟨patches, listed, applied⟩ := Option.bind_eq_some_iff.mp reviewed
  have patched := applyPatches_eq_some_iff.mp applied
  have edited := patched.annotations
  rw [mutate, off, if_neg (by simp)] at listed
  obtain ⟨others, injects, rfl⟩ := Option.map_eq_some_iff.mp listed
  have later := injections_field injects
  rw [foldlM_append_of_fixed_right fun patch member =>
    Patch.onAnnotations_of_field (later patch member)] at edited
  rw [originalConfiguration] at edited
  split at edited
  · rename_i present
    have same := Option.some.inj edited
    rw [wantsTraefikDaemon, wantsTraefikDaemon, patched.labels, ← same,
      originalConfiguration, ← same, if_pos present]
    exact ⟨rfl, rfl⟩
  · obtain ⟨next, set, same⟩ := Option.bind_eq_some_iff.mp edited
    cases same
    obtain ⟨entries, present, set⟩ := Option.map_eq_some_iff.mp set
    rw [wantsTraefikDaemon, wantsTraefikDaemon, patched.labels, ← set, present,
      originalConfiguration, ← set]
    constructor
    · simp only [Option.getD_some, List.any_cons, List.any_nil]
      rw [lookup_setKey_of_ne (by decide)]
    · rw [Option.getD_some, if_pos any_setKey]

theorem sidecarName_mem_injected :
    sidecarName ∈ traefikNames requested (sidecarNames names) := by
  have here : sidecarName ∈ sidecarNames names := by
    rw [sidecarNames]
    split
    · assumption
    · simp
  rw [traefikNames]
  split
  · split
    · exact here
    · exact List.mem_append_left _ here
  · exact (List.mem_erase_of_ne sidecarName_ne).mpr here

/-- A second review keeps the names when at most one daemon was there. -/
theorem injected_names_again :
    traefikNames requested
        (sidecarNames (traefikNames requested (sidecarNames names))) =
          traefikNames requested (sidecarNames names) ↔
      (requested = false → names.count traefikDaemonContainerName ≤ 1) := by
  rw [sidecarNames, if_pos sidecarName_mem_injected]
  have count : (sidecarNames names).count traefikDaemonContainerName =
      names.count traefikDaemonContainerName := by
    rw [sidecarNames]
    split
    · rfl
    · simp [List.count_append, sidecarName_ne]
  cases requested with
  | true =>
      have present : traefikDaemonContainerName ∈
          traefikNames true (sidecarNames names) := by
        rw [traefikNames, if_pos rfl]
        split
        · assumption
        · simp
      rw [traefikNames, if_pos rfl, if_pos present]
      exact iff_of_true rfl nofun
  | false =>
      simp only [traefikNames, Bool.false_eq_true, if_false]
      rw [← count, List.erase_eq_self_iff, ← List.count_eq_zero,
        List.count_erase_self]
      simp only [forall_const]
      omega

/-- The mounts of all containers. -/
def mountCount (containers : Option (List Container)) : Nat :=
  ((containers.getD []).map fun container =>
    (container.volumeMounts.getD []).length).sum

/-- How many mounts a patch of a container adds. -/
def Patch.addedMounts : Patch → Nat
  | .addVolumeMount _ _ => 1
  | _ => 0

def Container.mounts (container : Container) : Nat :=
  (container.volumeMounts.getD []).length

theorem Patch.onContainer_mounts {update : Container → Option Container}
    (additive : patch.Additive)
    (edits : patch.onContainer = some (index, update))
    (updated : update old = some new) :
    new.mounts = old.mounts + patch.addedMounts := by
  have ofEnv {edit : Option (List EnvVar) → Option (List EnvVar)}
      (updated : old.editEnv edit = some new) : new.mounts = old.mounts := by
    obtain ⟨_, _, rfl⟩ := Option.map_eq_some_iff.mp updated
    rfl
  cases patch with
  | addVolumeMount container mount =>
      cases edits
      obtain ⟨_, pushed, rfl⟩ := Option.map_eq_some_iff.mp updated
      obtain ⟨mounts, present, rfl⟩ := push_eq_some_iff.mp pushed
      simp [Container.mounts, present, addedMounts]
  | replaceImage container image =>
      cases edits
      obtain ⟨_, _, rfl⟩ := Option.map_eq_some_iff.mp updated
      rfl
  | _ =>
      cases edits <;>
        first
        | exact additive.elim
        | exact ofEnv updated

theorem Patch.onContainers_mountCount {containers : Option (List Container)}
    (additive : patch.Additive)
    (applied : onContainers containers patch = some result) :
    mountCount result = mountCount containers + patch.addedMounts := by
  cases edits : patch.onContainer with
  | some edit =>
      obtain ⟨index, update⟩ := edit
      rw [onContainers_of_edit edits] at applied
      obtain ⟨items, edited, rfl⟩ := Option.map_eq_some_iff.mp applied
      obtain ⟨items, old, new, rfl, here, updated, rfl⟩ :=
        updateAt_eq_some_iff.mp edited
      have changed : ((items.set index new).map Container.mounts).sum +
          old.mounts = (items.map Container.mounts).sum + new.mounts :=
        sum_map_set here
      have added := onContainer_mounts additive edits updated
      change ((items.set index new).map Container.mounts).sum =
        (items.map Container.mounts).sum + patch.addedMounts
      omega
  | none =>
      cases patch with
      | addContainer value => exact additive.elim
      | removeContainer index => exact additive.elim
      | _ => cases edits <;> (cases applied; rfl)

theorem foldlM_onContainers_mountCount {containers : Option (List Container)}
    (additive : ∀ patch ∈ patches, patch.Additive)
    (applied : patches.foldlM Patch.onContainers containers = some result) :
    mountCount result =
      mountCount containers + (patches.map Patch.addedMounts).sum := by
  induction patches generalizing containers with
  | nil =>
      cases applied
      rfl
  | cons patch patches induction =>
      obtain ⟨next, here, later⟩ := Option.bind_eq_some_iff.mp applied
      have rest := induction
        (fun other member => additive other (List.mem_cons_of_mem _ member))
        later
      have added := Patch.onContainers_mountCount
        (additive patch List.mem_cons_self) here
      rw [List.map_cons, List.sum_cons]
      omega

def named (name : String) (container : Container) : Bool :=
  container.name = name

/-- The first container with that name, if any, has that image. -/
def UpToDate (name image : String) (containers : List Container) : Prop :=
  ∀ container, containers.find? (named name) = some container →
    container.image.getD "" = image

theorem namedContainer_eq_some {container : Container}
    (found : namedContainer containers name = some (index, container)) :
    ∃ before after,
      FirstAt (named name) containers before container after ∧
        before.length = index := by
  obtain ⟨place, at', same⟩ := Option.bind_eq_some_iff.mp found
  obtain ⟨here, present, same⟩ := Option.map_eq_some_iff.mp same
  cases same
  obtain ⟨before, item, after, first, length⟩ := exists_firstAt at'
  cases length
  cases first.getElem?.symm.trans present
  exact ⟨before, after, first, rfl⟩

theorem find?_of_namedContainer_none
    (absent : namedContainer containers name = none) :
    containers.find? (named name) = none := by
  have missing : containerIndex containers name = none := by
    by_contra present
    obtain ⟨index, found⟩ := Option.ne_none_iff_exists'.mp present
    obtain ⟨before, item, after, first, rfl⟩ := exists_firstAt found
    rw [namedContainer, found, Option.bind_some, first.getElem?] at absent
    exact nomatch absent
  rw [containerIndex, List.findIdx?_eq_none_iff] at missing
  exact List.find?_eq_none.mpr fun container member => by
    simp [named, missing container member]

theorem imageUpdate_of_upToDate {replace : Nat → String → Patch}
    (upToDate : UpToDate name image containers) :
    imageUpdate containers name image replace = [] := by
  rw [imageUpdate]
  split
  · rename_i index container found
    obtain ⟨before, after, first, _⟩ := namedContainer_eq_some found
    rw [if_neg]
    exact not_not_intro (upToDate container first.find?)
  · rfl

theorem containerIndex_of_names {updated : List Container} {more : List String}
    (names : updated.map Container.name =
      containers.map Container.name ++ more)
    (found : containerIndex containers name = some index) :
    containerIndex updated name = some index := by
  have byNames (items : List Container) : containerIndex items name =
      (items.map Container.name).findIdx? fun other => other = name := by
    rw [containerIndex, List.findIdx?_map]
    rfl
  rw [byNames] at found ⊢
  rw [names, List.findIdx?_append, found]
  rfl

theorem named_of_ne {container : Container} {other : String}
    (own : named name container = true) (differs : other ≠ name) :
    named other container = false := by
  have isNamed : container.name = name := by simpa [named] using own
  simp [named, isNamed, differs.symm]

/-- What brings one container up to date, in containers that may have been
joined by others. -/
theorem imageUpdate_applied {updated : List Container} {more : List String}
    (names : updated.map Container.name =
      containers.map Container.name ++ more)
    (same : updated.find? (named name) = containers.find? (named name))
    (applied : (imageUpdate containers name image .replaceImage).foldlM
      Patch.onContainers (some updated) = some result) :
    ∃ final, result = some final ∧ UpToDate name image final ∧
      final.map Container.name = updated.map Container.name ∧
      ∀ other ≠ name,
        final.find? (named other) = updated.find? (named other) := by
  rw [imageUpdate] at applied
  split at applied
  · rename_i index container found
    obtain ⟨before, after, first, rfl⟩ := namedContainer_eq_some found
    split at applied
    · obtain ⟨next, step, last⟩ := Option.bind_eq_some_iff.mp applied
      cases last
      obtain ⟨items, edited, rfl⟩ := Option.map_eq_some_iff.mp step
      obtain ⟨items, old, new, listed, here, replaced, rfl⟩ :=
        updateAt_eq_some_iff.mp edited
      cases listed
      obtain ⟨_, _, rfl⟩ := Option.map_eq_some_iff.mp replaced
      obtain ⟨earlier, item, later, firstHere, length⟩ := exists_firstAt
        (containerIndex_of_names names first.findIdx?)
      rw [← length] at here ⊢
      obtain rfl : item = old :=
        Option.some.inj (firstHere.getElem?.symm.trans here)
      have set : FirstAt (named name)
          (updated.set earlier.length { item with image := some image })
          earlier { item with image := some image } later :=
        firstHere.of_set firstHere.ofKind
      refine ⟨_, rfl, ?_, map_name_set here rfl, ?_⟩
      · intro container found
        cases set.find?.symm.trans found
        rfl
      · intro other differs
        have notNamed := named_of_ne firstHere.ofKind differs
        exact find?_set_of_not here notNamed notNamed
    · rename_i current
      cases applied
      refine ⟨updated, rfl, ?_, rfl, fun _ _ => rfl⟩
      intro other here
      rw [same, first.find?] at here
      cases here
      simpa using current
  · rename_i absent
    cases applied
    refine ⟨updated, rfl, ?_, rfl, fun _ _ => rfl⟩
    intro container here
    rw [same, find?_of_namedContainer_none absent] at here
    cases here

/-- The containers after the sidecar. -/
theorem sidecarInjections_applied
    (applied : (sidecarInjections e containers).foldlM Patch.onContainers
      (some containers) = some result) :
    ∃ updated, result = some updated ∧
      UpToDate sidecarName e.fullAgentImage updated ∧
      updated.find? (named traefikDaemonContainerName) =
        containers.find? (named traefikDaemonContainerName) ∧
      ∃ more, updated.map Container.name =
        containers.map Container.name ++ more := by
  rw [sidecarInjections] at applied
  split at applied
  · rename_i absent
    rw [List.foldlM_cons] at applied
    obtain ⟨next, added, later⟩ := Option.bind_eq_some_iff.mp applied
    have noVolume : ∀ patch ∈ (getVolumeDefinition e).map Patch.addVolume,
        ∀ containers, Patch.onContainers containers patch =
          some containers := by
      intro patch member
      obtain ⟨volume, _, rfl⟩ := List.mem_map.mp member
      exact fun _ => rfl
    rw [foldlM_of_fixed noVolume] at later
    cases later
    cases added
    have missing : containers.find? (named sidecarName) = none := by
      have none := Option.isNone_iff_eq_none.mp absent
      rw [containerIndex, List.findIdx?_eq_none_iff] at none
      exact List.find?_eq_none.mpr fun container member => by
        simp [named, none container member]
    refine ⟨_, rfl, ?_, ?_, [sidecarName], ?_⟩
    · intro container found
      rw [List.find?_append, missing, Option.none_or] at found
      have own : named sidecarName (getSidecarContainer e) = true := by
        simp [named, getSidecarContainer]
      rw [List.find?_cons_of_pos own] at found
      cases found
      rfl
    · have other : named traefikDaemonContainerName
          (getSidecarContainer e) = false := by
        simp [named, getSidecarContainer, sidecarName_ne]
      rw [List.find?_append, List.find?_cons_of_neg (by simp [other])]
      simp
    · simp [getSidecarContainer]
  · obtain ⟨updated, same, upToDate, names, others⟩ :=
      imageUpdate_applied (List.append_nil _).symm rfl applied
    exact ⟨updated, same, upToDate, others _ sidecarName_ne.symm, [], by
      simp [names]⟩

/-- The daemon is added. -/
theorem traefikInjection_added {updated : List Container}
    (absent : updated.find? (named traefikDaemonContainerName) = none)
    (sidecar : UpToDate sidecarName e.fullAgentImage updated) :
    UpToDate sidecarName e.fullAgentImage
        (updated ++ [getTraefikDaemonContainer e]) ∧
      UpToDate traefikDaemonContainerName e.fullTraefikDaemonImage
        (updated ++ [getTraefikDaemonContainer e]) := by
  have own : named traefikDaemonContainerName
      (getTraefikDaemonContainer e) = true := by
    simp [named, getTraefikDaemonContainer]
  constructor
  · intro container found
    rw [List.find?_append, List.find?_cons_of_neg
      (by simp [named_of_ne own sidecarName_ne])] at found
    exact sidecar container (by simpa using found)
  · intro container found
    rw [List.find?_append, absent, Option.none_or,
      List.find?_cons_of_pos own] at found
    cases found
    rfl

/-- The containers after the daemon. -/
theorem traefikInjections_applied {updated : List Container}
    {more : List String}
    (names : updated.map Container.name =
      containers.map Container.name ++ more)
    (same : updated.find? (named traefikDaemonContainerName) =
      containers.find? (named traefikDaemonContainerName))
    (sidecar : UpToDate sidecarName e.fullAgentImage updated)
    (applied : (traefikInjections e requested containers).foldlM
      Patch.onContainers (some updated) = some result) :
    ∃ final, result = some final ∧
      UpToDate sidecarName e.fullAgentImage final ∧
      (requested = true →
        UpToDate traefikDaemonContainerName e.fullTraefikDaemonImage final) := by
  rw [traefikInjections] at applied
  split at applied
  · split at applied
    · rename_i absent
      rw [List.foldlM_cons] at applied
      obtain ⟨next, added, later⟩ := Option.bind_eq_some_iff.mp applied
      cases later
      cases added
      have missing :
          updated.find? (named traefikDaemonContainerName) = none := by
        have none := Option.isNone_iff_eq_none.mp absent
        rw [containerIndex, List.findIdx?_eq_none_iff] at none
        rw [same]
        exact List.find?_eq_none.mpr fun container member => by
          simp [named, none container member]
      obtain ⟨keeps, daemon⟩ := traefikInjection_added missing sidecar
      exact ⟨_, rfl, keeps, fun _ => daemon⟩
    · obtain ⟨final, rfl, upToDate, -, others⟩ :=
        imageUpdate_applied names same applied
      refine ⟨final, rfl, ?_, fun _ => upToDate⟩
      rw [UpToDate, others sidecarName sidecarName_ne]
      exact sidecar
  · rename_i unrequested
    split at applied
    · rename_i index found
      rw [List.foldlM_cons] at applied
      obtain ⟨next, step, last⟩ := Option.bind_eq_some_iff.mp applied
      cases last
      obtain ⟨items, removed, rfl⟩ := Option.map_eq_some_iff.mp step
      obtain ⟨items, listed, _, rfl⟩ := removeAt_eq_some_iff.mp removed
      cases listed
      obtain ⟨earlier, daemon, later, first, rfl⟩ := exists_firstAt
        (containerIndex_of_names names found)
      refine ⟨_, rfl, ?_, fun requested => (unrequested requested).elim⟩
      intro container found
      rw [find?_eraseIdx_of_not first.getElem?
        (named_of_ne first.ofKind sidecarName_ne)] at found
      exact sidecar container found
    · cases applied
      exact ⟨updated, rfl, sidecar,
        fun requested => (unrequested requested).elim⟩

theorem sidecarInjections_of_mem
    (present : sidecarName ∈ containers.map Container.name) :
    sidecarInjections e containers =
      imageUpdate containers sidecarName e.fullAgentImage .replaceImage := by
  have found : containerIndex containers sidecarName ≠ none := by
    rw [Ne, containerIndex_eq_none_iff]
    exact not_not_intro present
  rw [sidecarInjections, if_neg (by simpa using found)]

theorem traefikInjections_of_settled
    (present : requested = true →
      traefikDaemonContainerName ∈ containers.map Container.name)
    (absent : requested = false →
      traefikDaemonContainerName ∉ containers.map Container.name) :
    traefikInjections e requested containers =
      if requested then
        imageUpdate containers traefikDaemonContainerName
          e.fullTraefikDaemonImage .replaceImage
      else [] := by
  rw [traefikInjections]
  cases requested with
  | true =>
      have found :
          containerIndex containers traefikDaemonContainerName ≠ none := by
        rw [Ne, containerIndex_eq_none_iff]
        exact not_not_intro (present rfl)
      rw [if_pos rfl, if_pos rfl, if_neg (by simpa using found)]
  | false =>
      have missing := containerIndex_eq_none_iff.mpr (absent rfl)
      rw [if_neg (by simp), if_neg (by simp), missing]

theorem mem_of_settled
    (settled : traefikNames requested (sidecarNames names) = names) :
    sidecarName ∈ names ∧
      (requested = true → traefikDaemonContainerName ∈ names) ∧
      (requested = false → traefikDaemonContainerName ∉ names) := by
  have sidecar : sidecarName ∈ names := settled ▸ sidecarName_mem_injected
  rw [sidecarNames, if_pos sidecar] at settled
  refine ⟨sidecar, ?_, ?_⟩
  · rintro rfl
    rw [traefikNames, if_pos rfl] at settled
    split at settled
    · assumption
    · rw [← settled]
      simp
  · rintro rfl
    rw [traefikNames, if_neg nofun] at settled
    exact List.erase_eq_self_iff.mp settled

include off

theorem mutate_additive
    (settled : traefikNames (wantsTraefikDaemon pod)
      (sidecarNames (namesOf pod.spec.containers)) =
        namesOf pod.spec.containers) (listed : mutate e pod = some patches) :
    ∀ patch ∈ patches, patch.Additive := by
  obtain ⟨sidecar, present, absent⟩ := mem_of_settled settled
  rw [mutate, off, if_neg (by simp)] at listed
  obtain ⟨others, injects, rfl⟩ := Option.map_eq_some_iff.mp listed
  obtain ⟨kind, ofKind, rfl⟩ := Option.map_eq_some_iff.mp injects
  rw [sidecarInjections_of_mem sidecar,
    traefikInjections_of_settled present absent]
  simp only [List.forall_mem_append]
  refine ⟨?_, ⟨⟨kindInjections_additive ofKind, replaceImages_additive⟩, ?_⟩,
    ?_⟩
  · rw [originalConfiguration]
    split
    · simp
    · simp [Patch.Additive]
  · split
    · exact replaceImages_additive
    · simp
  · rw [initImageUpdate]
    split
    · exact imageUpdate_additive fun _ _ => trivial
    · simp

theorem mutate_addsMount (envoy : e.isEnvoyBasedProxyAgent = true)
    (listed : mutate e pod = some patches) :
    .addVolumeMount 0 getVolumeMount ∈ patches := by
  rw [mutate, off, if_neg (by simp)] at listed
  obtain ⟨others, injects, rfl⟩ := Option.map_eq_some_iff.mp listed
  obtain ⟨kind, ofKind, rfl⟩ := Option.map_eq_some_iff.mp injects
  rw [kindInjections, if_pos envoy] at ofKind
  obtain ⟨initContainer, _, ofEnvoy⟩ := Option.bind_eq_some_iff.mp ofKind
  obtain ⟨assigned, _, same⟩ := Option.bind_eq_some_iff.mp ofEnvoy
  cases same
  simp

/-- The containers and the service account token after an injection for
another proxy. -/
theorem injected_upToDate (other : e.isEnvoyBasedProxyAgent = false)
    (reviewed : review e pod = some injected) :
    injected.spec.automountServiceAccountToken = some true ∧
      ∃ final, injected.spec.containers = some final ∧
        UpToDate sidecarName e.fullAgentImage final ∧
        (wantsTraefikDaemon pod = true →
          UpToDate traefikDaemonContainerName e.fullTraefikDaemonImage
            final) := by
  obtain ⟨patches, listed, applied⟩ := Option.bind_eq_some_iff.mp reviewed
  have patched := applyPatches_eq_some_iff.mp applied
  rw [mutate, off, if_neg (by simp)] at listed
  obtain ⟨others, injects, rfl⟩ := Option.map_eq_some_iff.mp listed
  obtain ⟨kind, ofKind, rfl⟩ := Option.map_eq_some_iff.mp injects
  rw [kindInjections, if_neg (by simp [other])] at ofKind
  constructor
  · have edited := patched.automount
    rw [foldlM_append_of_fixed_left fun patch member =>
        Patch.onAutomount_of_field (by
          simp [originalConfiguration_field patch member]),
      injections_others onAutomount_fixed] at edited
    split at ofKind
    · cases ofKind
      obtain ⟨next, replaced, same⟩ := Option.bind_eq_some_iff.mp edited
      cases same
      obtain ⟨_, _, same⟩ := Option.map_eq_some_iff.mp replaced
      exact same.symm
    · cases ofKind
      exact (Option.some.inj edited).symm
  · have edited := patched.containers
    have fixed {patches : List Patch}
        (field : ∀ patch ∈ patches, patch.field ≠ .containers) :
        ∀ patch ∈ patches, ∀ containers,
          Patch.onContainers containers patch = some containers :=
      fun patch member => Patch.onContainers_of_field (field patch member)
    have ofKindField : ∀ patch ∈ kind, patch.field ≠ .containers := by
      split at ofKind <;> cases ofKind <;> simp [Patch.field]
    rw [foldlM_append_of_fixed_left
        (fixed (other_field originalConfiguration_field (by simp))),
      foldlM_append_of_fixed_right
        (fixed (other_field initImageUpdate_field (by simp))), List.append_assoc,
      foldlM_append_of_fixed_left (fixed ofKindField), List.foldlM_append]
      at edited
    obtain ⟨next, ofSidecar, ofDaemon⟩ := Option.bind_eq_some_iff.mp edited
    cases listed : pod.spec.containers with
    | none =>
        rw [listed] at ofSidecar
        cases ofSidecar
    | some containers =>
        rw [listed] at ofSidecar ofDaemon
        obtain ⟨updated, rfl, upToDate, daemon, more, names⟩ :=
          sidecarInjections_applied ofSidecar
        obtain ⟨final, same, sidecar, requested⟩ :=
          traefikInjections_applied names daemon upToDate ofDaemon
        exact ⟨final, same, sidecar, requested⟩

/-- For another proxy, a second review only confirms the service account
token. -/
theorem mutate_of_settled (other : e.isEnvoyBasedProxyAgent = false)
    (kept : originalConfiguration e pod = [])
    (automount : pod.spec.automountServiceAccountToken = some true)
    (listed : pod.spec.containers = some containers)
    (settled : traefikNames (wantsTraefikDaemon pod)
      (sidecarNames (namesOf pod.spec.containers)) =
        namesOf pod.spec.containers)
    (sidecar : UpToDate sidecarName e.fullAgentImage containers)
    (daemon : wantsTraefikDaemon pod = true →
      UpToDate traefikDaemonContainerName e.fullTraefikDaemonImage
        containers) :
    mutate e pod = some [.replaceAutomount true] := by
  obtain ⟨there, present, absent⟩ := mem_of_settled settled
  have onKind :
      kindInjections e pod.spec = some [.replaceAutomount true] := by
    rw [kindInjections, other, if_neg (by simp), automount, Option.isSome_some,
      if_pos rfl]
  have onSidecar :
      sidecarInjections e (pod.spec.containers.getD []) = [] := by
    rw [sidecarInjections_of_mem there, listed]
    exact imageUpdate_of_upToDate sidecar
  have onDaemon : traefikInjections e (wantsTraefikDaemon pod)
      (pod.spec.containers.getD []) = [] := by
    rw [traefikInjections_of_settled present absent]
    split
    · rename_i requested
      rw [listed]
      exact imageUpdate_of_upToDate (daemon requested)
    · rfl
  have onInit : initImageUpdate e pod.spec = [] := by
    rw [initImageUpdate, other, if_neg (by simp)]
  rw [mutate, off, if_neg (by simp), kept, injections, onKind, onSidecar, onDaemon, onInit]
  rfl

omit off

/-- A second review leaves an injected pod as it is exactly if the proxy has
no envoy and no daemon is left over. -/
theorem injection_idempotent {injected : Pod}
    (off : e.isTrue "REMOVE_INJECTED_DATA" = false)
    (reviewed : review e pod = some injected) :
    review e injected = some injected ↔
      e.isEnvoyBasedProxyAgent = false ∧
        (wantsTraefikDaemon pod = false →
          (namesOf pod.spec.containers).count traefikDaemonContainerName ≤
            1) := by
  obtain ⟨wanted, kept⟩ := injected_annotations off reviewed
  have names := injected_names off reviewed
  have settled_iff : traefikNames (wantsTraefikDaemon injected)
      (sidecarNames (namesOf injected.spec.containers)) =
        namesOf injected.spec.containers ↔
      (wantsTraefikDaemon pod = false →
        (namesOf pod.spec.containers).count traefikDaemonContainerName ≤
          1) := by
    rw [wanted, names]
    exact injected_names_again
  constructor
  · intro again
    have settled := (injected_names off again).symm
    refine ⟨?_, settled_iff.mp settled⟩
    by_contra envoy
    -- The number of mounts would not stay.
    obtain ⟨patches, listed, applied⟩ := Option.bind_eq_some_iff.mp again
    have counted := foldlM_onContainers_mountCount
      (mutate_additive off settled listed)
      (applyPatches_eq_some_iff.mp applied).containers
    have added := List.mem_map_of_mem (f := Patch.addedMounts)
      (mutate_addsMount off (by simpa using envoy) listed)
    have positive := List.single_le_sum (fun _ _ => Nat.zero_le _) _ added
    have one : Patch.addedMounts (.addVolumeMount 0 getVolumeMount) = 1 := rfl
    omega
  · rintro ⟨other, once⟩
    obtain ⟨automount, final, listed, sidecar, daemon⟩ :=
      injected_upToDate off other reviewed
    have again := mutate_of_settled off other kept automount listed
      (settled_iff.mpr once) sidecar (wanted ▸ daemon)
    rw [review, again]
    apply applyPatches_eq_some_iff.mpr
    refine ⟨rfl, rfl, rfl, rfl, rfl, ?_, rfl, rfl, rfl⟩
    rw [automount]
    rfl

def kong : Environment :=
  { unset with
    getenv := fun name => if name = "PROXY_KIND" then some "kong" else none }

theorem injection_idempotent_kong :
    ∃ injected, review kong proxyPod = some injected ∧
      review kong injected = some injected := by
  have reviewed : (review kong proxyPod).isSome = true := by
    decide +kernel
  obtain ⟨injected, reviewed⟩ := Option.isSome_iff_exists.mp reviewed
  refine ⟨injected, reviewed, ?_⟩
  apply (injection_idempotent (by decide +kernel) reviewed).mpr
  decide +kernel

/-- A proxy with envoy gets the shared volume mounted a second time. -/
theorem second_injection_mounts_again :
    let mounts := fun reviewed : Option Pod => reviewed.bind fun pod =>
      pod.spec.containers.bind fun containers => containers.head?.bind
        fun container => container.volumeMounts.map (·.map VolumeMount.name)
    mounts (review unset proxyPod) = some [sharedVolumeName] ∧
      mounts ((review unset proxyPod).bind (review unset)) =
        some [sharedVolumeName, sharedVolumeName] := by
  decide +kernel

end OpenAppsec.Webhook
