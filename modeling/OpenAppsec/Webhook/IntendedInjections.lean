import OpenAppsec.Webhook.Intent

/-!
# Injections as intended

Each part of an injection gives what is meant, as far as its positions are
those of the names.
-/

namespace OpenAppsec.Webhook

open ArrayEdits

variable {e : Environment} {pod : Pod}

variable {containers current : List Container} {name image : String}
variable {container now : Container} {index : Nat}
variable {result : Option (List Container)} {env : List EnvVar}

theorem onContainers_of_editEnv {patch : Patch}
    {edit : Option (List EnvVar) → Option (List EnvVar)}
    (edits : patch.onContainer = some (index, (·.editEnv edit)))
    (here : current[index]? = some container)
    (edited : edit container.env = some env) :
    Patch.onContainers (some current) patch =
      some (some (current.set index { container with env := some env })) := by
  rw [Patch.onContainers_of_edit edits]
  have updated : container.editEnv edit =
      some { container with env := some env } := by
    rw [Container.editEnv, edited]
    rfl
  rw [updateAt, Option.bind_some, here, Option.bind_some, updated]
  rfl

theorem foldlM_singleton {patch : Patch}
    (applied : Patch.onContainers (some containers) patch = some result) :
    [patch].foldlM Patch.onContainers (some containers) = some result := by
  rw [List.foldlM_cons, applied]
  rfl

theorem set_of_same (here : containers[index]? = some container) :
    containers.set index container = containers := by
  obtain ⟨inside, rfl⟩ := List.getElem?_eq_some_iff.mp here
  exact List.set_getElem_self inside

theorem updateAt_of_first {α : Type*} {kind : α → Bool}
    {items before after : List α} {item new : α}
    {update : α → Option α} {edit : α → α}
    (first : FirstAt kind items before item after)
    (updated : update item = some new) (same : edit item = new) :
    updateAt before.length update (some items) =
      some (editFirst kind edit items) := by
  rw [updateAt, Option.bind_some, first.getElem?, Option.bind_some, updated,
    first.editFirst_eq, Option.map_some, first.set, same]

/-- A variable is set in a container whose variable of that name has not been
touched. -/
theorem addEnvVariable_applies {envVarName envValue : String}
    {patches : List Patch}
    (first : namedContainer containers name = some (index, container))
    (listed : addEnvVariable containers name envVarName envValue =
      some patches) (here : current[index]? = some now)
    (present : now.env = some env)
    (same : SameFirst (namedVar envVarName) EnvVar.value
      (container.env.getD []) env) :
    patches.foldlM Patch.onContainers (some current) =
      some (some (current.set index
        { now with env := some (assigned env (envVarName, envValue)) })) := by
  rw [addEnvVariable, first] at listed
  dsimp only at listed
  split at listed
  · rename_i var found
    obtain ⟨value, seen, rfl⟩ := Option.map_eq_some_iff.mp listed
    obtain ⟨before, old, after, original, length⟩ := exists_firstAt found
    rw [← length, original.getElem?, Option.bind_some] at seen
    obtain ⟨before', now', after', current', length', seen'⟩ :=
      same.exists_first found original.find?
    have anyNow := current'.any
    have set : assigned env (envVarName, envValue) =
        editFirst (namedVar envVarName) (fun var => { var with
          value := var.value.map (mergedValue envVarName envValue) }) env := by
      rw [assigned, editFirstOrAdd, if_pos anyNow]
    have merged {new : String} (value : mergedValue envVarName envValue value =
        new) :
        Patch.onContainers (some current) (.replaceEnvValue index var new) =
          some (some (current.set index
            { now with
              env := some (assigned env (envVarName, envValue)) })) := by
      refine onContainers_of_editEnv rfl here ?_
      rw [present, set, ← length']
      have replaced : EnvVar.replaceValue new now' =
          some { now' with value := some new } := by
        rw [EnvVar.replaceValue, seen', seen]
        rfl
      apply updateAt_of_first current' replaced
      rw [seen', seen, Option.map_some, value]
    split
    · rename_i path
      split
      · rename_i already
        have kept : assigned env (envVarName, envValue) = env := by
          rw [set]
          apply editFirst_of_fixed
          intro item found
          cases current'.find?.symm.trans found
          rw [seen', seen, Option.map_some, mergedValue, if_pos path,
            if_pos already, ← seen, ← seen']
        have unchanged : { now with env := some env } = now := by
          rw [← present]
        rw [kept, unchanged, set_of_same here]
        rfl
      · rename_i missing
        apply foldlM_singleton
        apply merged
        rw [mergedValue, if_pos path, if_neg missing]
    · rename_i other
      apply foldlM_singleton
      apply merged
      rw [mergedValue, if_neg other]
  · rename_i absent
    cases listed
    apply foldlM_singleton
    refine onContainers_of_editEnv rfl here ?_
    have none : env.any (namedVar envVarName) = false := by
      rw [same.any, any_eq_isSome_findIdx?]
      exact congrArg Option.isSome absent
    rw [present, assigned, editFirstOrAdd, if_neg (by simp [none])]
    rfl

theorem sameFirst_assigned {assignment : String × String}
    (differs : name ≠ assignment.1) (env : List EnvVar) :
    SameFirst (namedVar name) EnvVar.value env (assigned env assignment) := by
  apply SameFirst.of_editFirstOrAdd
  · intro var own
    refine ⟨rfl, fun named => ?_⟩
    have own : var.name = assignment.1 := by simpa [namedVar] using own
    have named : var.name = name := by simpa [namedVar] using named
    exact absurd (named.symm.trans own) differs
  · simp [namedVar, envVar, differs.symm]

theorem sameFirst_withUid (differs : name ≠ "OPENAPPSEC_UID")
    (env : List EnvVar) :
    SameFirst (namedVar name) EnvVar.value env (withUid env) := by
  have other : namedVar name uidVariable = false := by
    simp [namedVar, uidVariable, differs.symm]
  apply SameFirst.of_editFirstOrAdd
  · intro var own
    have unlike : namedVar name var = false := by
      have own : var.name = "OPENAPPSEC_UID" := by simpa [namedVar] using own
      simp [namedVar, own, differs.symm]
    rw [other, unlike]
    exact ⟨rfl, nofun⟩
  · exact other

/-- All variables are set, one after the other. -/
theorem addEnvVariables_apply
    (first : namedContainer containers name = some (index, container))
    {assignments : List (String × String)}
    (once : (assignments.map Prod.fst).Nodup) {parts : List (List Patch)}
    (listed : assignments.mapM (fun (envVarName, value) =>
      addEnvVariable containers name envVarName value) = some parts)
    (here : current[index]? = some now) (present : now.env = some env)
    (same : ∀ assignment ∈ assignments,
      SameFirst (namedVar assignment.1) EnvVar.value (container.env.getD [])
        env) :
    parts.flatten.foldlM Patch.onContainers (some current) =
      some (some (current.set index
        { now with env := some (assignments.foldl assigned env) })) := by
  induction assignments generalizing parts env current now with
  | nil =>
      cases listed
      have unchanged : { now with env := some env } = now := by
        rw [← present]
      rw [List.foldl_nil, unchanged, set_of_same here]
      rfl
  | cons assignment assignments induction =>
      rw [List.mapM_cons] at listed
      obtain ⟨patches, one, listed⟩ := Option.bind_eq_some_iff.mp listed
      obtain ⟨later, rest, listed⟩ := Option.bind_eq_some_iff.mp listed
      cases listed
      obtain ⟨fresh, once⟩ := List.nodup_cons.mp once
      have step := addEnvVariable_applies first one here present
        (same assignment List.mem_cons_self)
      have inside := (List.getElem?_eq_some_iff.mp here).1
      rw [List.flatten_cons, List.foldlM_append, step]
      change later.flatten.foldlM Patch.onContainers (some (current.set index
        { now with env := some (assigned env assignment) })) = _
      rw [induction once rest (List.getElem?_set_self inside) rfl,
        List.set_set]
      · rfl
      · intro other member
        have differs : other.1 ≠ assignment.1 := by
          intro equal
          exact fresh (equal ▸ List.mem_map_of_mem (f := Prod.fst) member)
        exact (same other (List.mem_cons_of_mem _ member)).trans
          (sameFirst_assigned differs env)

theorem proxyVariables_names :
    ((proxyVariables e).map Prod.fst).Sublist
      ["LD_LIBRARY_PATH", "CONCURRENCY_CALC", "CONFIG_PORT",
        "CONCURRENCY_NUMBER"] := by
  rw [proxyVariables]
  generalize e.libraryPath = path
  generalize e.filled "CONCURRENCY_CALC" = calc'
  generalize e.filled "CONFIG_PORT" = port
  generalize e.filled "CONCURRENCY_NUMBER" = number
  cases path <;> cases calc' <;> cases port <;> cases number <;> simp

theorem proxyVariables_nodup : ((proxyVariables e).map Prod.fst).Nodup :=
  proxyVariables_names.nodup (by decide)

theorem proxyVariables_ne_uid {assignment : String × String}
    (member : assignment ∈ proxyVariables e) :
    assignment.1 ≠ "OPENAPPSEC_UID" := by
  have listed := proxyVariables_names.subset (List.mem_map_of_mem (f := Prod.fst) member)
  intro same
  rw [same] at listed
  exact absurd listed (by decide)

theorem namedContainer_of_first {before after : List Container}
    (first : FirstAt (named name) containers before container after) :
    namedContainer containers name = some (before.length, container) := by
  have index : containerIndex containers name = some before.length :=
    first.findIdx?
  rw [namedContainer, index, Option.bind_some, first.getElem?]
  rfl

variable (absent : containers.any (named name) = false)

include absent

theorem namedContainer_of_absent :
    namedContainer containers name = none := by
  rw [any_eq_isSome_findIdx?] at absent
  have index : containerIndex containers name = none :=
    Option.isSome_eq_false_iff.mp absent |> Option.isNone_iff_eq_none.mp
  rw [namedContainer, index]
  rfl

theorem find?_of_absent :
    containers.find? (named name) = none :=
  find?_of_namedContainer_none (namedContainer_of_absent absent)

theorem hasImage_of_absent :
    HasImage name containers := by
  intro container found
  rw [find?_of_absent absent] at found
  cases found

omit absent

theorem first_or_absent (containers : List Container) (name : String) :
    (∃ before container after,
      FirstAt (named name) containers before container after) ∨
      containers.any (named name) = false := by
  cases found : containers.findIdx? (named name) with
  | some index =>
      obtain ⟨before, container, after, first, _⟩ := exists_firstAt found
      exact .inl ⟨before, container, after, first⟩
  | none =>
      right
      rw [any_eq_isSome_findIdx?, found]
      rfl

theorem addEnvVariable_of_absent {envVarName envValue : String}
    (absent : namedContainer containers name = none) :
    addEnvVariable containers name envVarName envValue = some [] := by
  rw [addEnvVariable, absent]

theorem addEnvIfNotExist_applies
    (found : namedContainer containers name = some (index, container))
    (here : containers[index]? = some container) :
    (addEnvIfNotExist containers name).foldlM Patch.onContainers
        (some containers) =
      some (some (containers.set index
        { container with env := some (container.env.getD []) })) := by
  rw [addEnvIfNotExist, found]
  dsimp only
  split
  · rename_i missing
    apply foldlM_singleton
    rw [missing]
    exact onContainers_of_editEnv rfl here rfl
  · rename_i there
    obtain ⟨env, present⟩ := Option.ne_none_iff_exists'.mp there
    have unchanged :
        { container with env := some (container.env.getD []) } =
          container := by
      obtain ⟨_, _, _, _, _⟩ := container
      cases present
      rfl
    rw [unchanged, set_of_same here]
    rfl

theorem addEnvVariableValueFrom_applies
    (found : namedContainer containers name = some (index, container))
    (here : current[index]? = some now)
    (present : now.env = some (container.env.getD [])) :
    (addEnvVariableValueFrom containers name "OPENAPPSEC_UID"
        uidSource).foldlM Patch.onContainers (some current) =
      some (some (current.set index
        { now with env := some (withUid (container.env.getD [])) })) := by
  rw [addEnvVariableValueFrom, found]
  dsimp only
  split
  · rename_i var there
    obtain ⟨before, old, after, own, length⟩ := exists_firstAt there
    have anyOwn : (container.env.getD []).any (namedVar "OPENAPPSEC_UID") =
        true :=
      own.any
    apply foldlM_singleton
    apply onContainers_of_editEnv rfl here
    rw [present, withUid, editFirstOrAdd, if_pos anyOwn, ← length]
    exact updateAt_of_first own rfl rfl
  · rename_i missing
    apply foldlM_singleton
    apply onContainers_of_editEnv rfl here
    have none : (container.env.getD []).any
        (namedVar "OPENAPPSEC_UID") = false := by
      rw [any_eq_isSome_findIdx?]
      exact congrArg Option.isSome missing
    rw [present, withUid, editFirstOrAdd, if_neg (by simp [none])]
    rfl

/-- The patches of the proxy's variables give the variables that are meant. -/
theorem proxyEnvInjections_apply {patches : List Patch}
    (listed : proxyEnvInjections e containers = some patches) :
    patches.foldlM Patch.onContainers (some containers) =
      some (some (editFirst (named e.envoyBasedProxyContainerName)
        (withVariables e) containers)) := by
  rw [proxyEnvInjections] at listed
  dsimp only at listed
  split at listed
  · rename_i enabled
    obtain ⟨parts, mapped, same⟩ := Option.bind_eq_some_iff.mp listed
    cases same
    obtain ⟨before, container, after, first⟩ | absent :=
      first_or_absent containers e.envoyBasedProxyContainerName
    · have found := namedContainer_of_first first
      have here := first.getElem?
      have inside := (List.getElem?_eq_some_iff.mp here).1
      have set (env : List EnvVar) : (containers.set before.length
          { container with env := some env })[before.length]? =
            some { container with env := some env } :=
        List.getElem?_set_self inside
      have identified := addEnvVariableValueFrom_applies found
        (set (container.env.getD [])) rfl
      have all := addEnvVariables_apply found proxyVariables_nodup mapped
        (set (withUid (container.env.getD []))) rfl fun assignment member =>
          sameFirst_withUid (proxyVariables_ne_uid member)
            (container.env.getD [])
      rw [List.set_set] at identified all
      rw [List.foldlM_append, List.foldlM_append,
        addEnvIfNotExist_applies found here]
      refine (congrArg (· >>= _) identified).trans (all.trans ?_)
      rw [first.set, first.editFirst_eq, withVariables, if_pos enabled]
    · have missing := namedContainer_of_absent absent
      have nothing : parts.flatten = [] := by
        rw [List.flatten_eq_nil_iff]
        intro part member
        obtain ⟨_, _, one⟩ := exists_of_mem_mapM mapped part member
        rw [addEnvVariable_of_absent missing] at one
        exact (Option.some.inj one).symm
      rw [editFirst_of_absent absent, addEnvIfNotExist, missing,
        addEnvVariableValueFrom, missing, nothing]
      rfl
  · rename_i disabled
    cases listed
    rw [editFirst_of_fixed fun container _ => by
      rw [withVariables, if_neg disabled]]
    rfl

/-- The patches of the proxy's variables can be listed if the variables that
are there have values. -/
theorem isSome_proxyEnvInjections_iff :
    (proxyEnvInjections e containers).isSome = true ↔
      HasValues e containers := by
  have listed : (proxyEnvInjections e containers).isSome = true ↔
      (e.envoyBasedProxyContainerName ≠ "" →
        ∀ assignment ∈ proxyVariables e,
          (addEnvVariable containers e.envoyBasedProxyContainerName
            assignment.1 assignment.2).isSome = true) := by
    rw [proxyEnvInjections]
    dsimp only
    split
    · rename_i enabled
      rw [← isSome_mapM_iff]
      simp only [Option.bind_eq_bind, Option.isSome_bind, enabled, ne_eq,
        not_false_eq_true, forall_const]
      cases (proxyVariables e).mapM fun assignment =>
        addEnvVariable containers e.envoyBasedProxyContainerName assignment.1
          assignment.2 <;> simp
    · rename_i disabled
      simp [disabled]
  rw [listed, HasValues]
  refine forall_congr' fun _ => ?_
  obtain ⟨before, container, after, first⟩ | absent :=
    first_or_absent containers e.envoyBasedProxyContainerName
  · rw [first.find?]
    simp only [Option.some.injEq, forall_eq']
    refine forall₂_congr fun assignment _ => ?_
    rw [addEnvVariable, namedContainer_of_first first]
    dsimp only
    cases found : envIndex (container.env.getD []) assignment.1 with
    | some index =>
        obtain ⟨earlier, var, later, own, length⟩ := exists_firstAt found
        have find : (container.env.getD []).find? (namedVar assignment.1) =
            some var :=
          own.find?
        rw [find, ← length]
        dsimp only
        rw [own.getElem?, Option.bind_some, Option.isSome_map]
        simp
    | none =>
        have find : (container.env.getD []).find? (namedVar assignment.1) =
            none :=
          find?_of_findIdx?_none found
        rw [find]
        simp
  · have missing := namedContainer_of_absent absent
    have find : containers.find? (named e.envoyBasedProxyContainerName) =
        none :=
      find?_of_namedContainer_none missing
    rw [find]
    simp [addEnvVariable_of_absent missing]

theorem image_ne_empty {tag : String} : image ++ ":" ++ tag ≠ "" := by
  intro same
  have length := congrArg String.length same
  simp at length

/-- The image of a container is brought up to date if it has one. -/
theorem imageUpdate_eq_some_iff {replace : Nat → String → Patch}
    {edit : Option (List Container) → Patch → Option (Option (List Container))}
    (replaces : ∀ index, edit (some current) (replace index image) =
      (updateAt index (·.replaceImage image) (some current)).map some)
    (nonempty : image ≠ "")
    (same : SameFirst (named name) Container.image containers current) :
    (imageUpdate containers name image replace).foldlM edit (some current) =
        some result ↔
      HasImage name containers ∧
        result = some (editFirst (named name) (withImage image) current) := by
  obtain ⟨before, container, after, first⟩ | absent :=
    first_or_absent containers name
  · have has : HasImage name containers ↔ container.image.isSome = true := by
      rw [HasImage, first.find?]
      simp
    obtain ⟨earlier, now, later, current', length, seen⟩ :=
      same.exists_first first.findIdx? first.find?
    rw [imageUpdate, namedContainer_of_first first, has]
    dsimp only
    split
    · rename_i stale
      rw [List.foldlM_cons, replaces, ← length, updateAt, Option.bind_some,
        current'.getElem?, Option.bind_some, Container.replaceImage, seen]
      cases container.image with
      | none => simp
      | some old =>
          have set := current'.set (withImage image now)
          rw [current'.editFirst_eq, ← set]
          simp [withImage, eq_comm]
    · rename_i upToDate
      cases present : container.image with
      | none =>
          rw [present] at upToDate
          exact absurd (Ne.symm nonempty) upToDate
      | some old =>
          rw [present] at upToDate
          have old_eq : old = image := by simpa using upToDate
          have kept :
              editFirst (named name) (withImage image) current = current := by
            apply editFirst_of_fixed
            intro item found
            cases current'.find?.symm.trans found
            rw [withImage, ← old_eq, ← present, ← seen]
          rw [kept]
          simp [eq_comm]
  · have none : current.any (named name) = false := same.any.trans absent
    rw [imageUpdate, namedContainer_of_absent absent, editFirst_of_absent none]
    simp [hasImage_of_absent absent, eq_comm]

theorem isNone_containerIndex :
    (containerIndex containers name).isNone =
      !containers.any (named name) := by
  rw [any_eq_isSome_findIdx?]
  exact (Option.not_isSome _).symm

theorem replaceImages (index : Nat) :
    Patch.onContainers (some current) (.replaceImage index image) =
      (updateAt index (·.replaceImage image) (some current)).map some :=
  rfl

theorem sidecarInjections_eq_some_iff
    (same : SameFirst (named sidecarName) Container.image containers current) :
    (sidecarInjections e containers).foldlM Patch.onContainers
        (some current) = some result ↔
      HasImage sidecarName containers ∧
        result = some (withSidecar e current) := by
  rw [sidecarInjections, isNone_containerIndex, withSidecar, provided,
    editFirstOrAdd, same.any]
  cases present : containers.any (named sidecarName) with
  | true =>
      simp only [Bool.not_true, Bool.false_eq_true, if_false, if_true]
      exact imageUpdate_eq_some_iff replaceImages image_ne_empty same
  | false =>
      have volumes : ∀ patch ∈ (getVolumeDefinition e).map Patch.addVolume,
          ∀ containers, Patch.onContainers containers patch =
            some containers := by
        intro patch member
        obtain ⟨volume, _, rfl⟩ := List.mem_map.mp member
        exact fun _ => rfl
      simp only [Bool.not_false, if_true, Bool.false_eq_true, if_false,
        List.foldlM_cons]
      change ((getVolumeDefinition e).map Patch.addVolume).foldlM _ _ = _ ↔ _
      rw [foldlM_of_fixed volumes]
      simp [hasImage_of_absent present, eq_comm]

/-- Where the daemon is asked for. -/
theorem traefikInjections_eq_some_iff
    (same : SameFirst (named traefikDaemonContainerName) Container.image
      containers current) :
    (traefikInjections e true containers).foldlM Patch.onContainers
        (some current) = some result ↔
      HasImage traefikDaemonContainerName containers ∧
        result = some (withDaemon e current) := by
  rw [traefikInjections, isNone_containerIndex, withDaemon, provided,
    editFirstOrAdd, same.any]
  cases present : containers.any (named traefikDaemonContainerName) with
  | true =>
      simp only [Bool.not_true, Bool.false_eq_true, if_false, if_true]
      exact imageUpdate_eq_some_iff replaceImages image_ne_empty same
  | false =>
      simp only [Bool.not_false, if_true, Bool.false_eq_true, if_false]
      rw [List.foldlM_cons]
      change some (some (current ++ [getTraefikDaemonContainer e])) = _ ↔ _
      simp [hasImage_of_absent present, eq_comm]

/-- Where the daemon is not asked for, the first one is taken out. -/
theorem traefikInjections_removes
    (same : SameFirst (named traefikDaemonContainerName) Container.image
      containers current) :
    (traefikInjections e false containers).foldlM Patch.onContainers
        (some current) =
      some (some (current.eraseP (named traefikDaemonContainerName))) := by
  rw [traefikInjections, if_neg (by simp)]
  cases found : containerIndex containers traefikDaemonContainerName with
  | some index =>
      obtain ⟨before, container, after, first, length⟩ :=
        exists_firstAt (same.place.trans found)
      dsimp only
      apply foldlM_singleton
      have inside := (List.getElem?_eq_some_iff.mp first.getElem?).1
      have removed : Patch.onContainers (some current)
          (.removeContainer index) = (removeAt index (some current)).map some :=
        rfl
      rw [removed, ← length, removeAt_some, if_pos inside, first.eraseIdx,
        first.eraseP]
      rfl
  | none =>
      have absent : current.any (named traefikDaemonContainerName) = false := by
        rw [any_eq_isSome_findIdx?, same.place]
        exact congrArg Option.isSome found
      rw [List.eraseP_of_forall_not (by simpa using absent)]
      rfl

theorem withSidecar_mounts (inside : index < containers.length) :
    (withSidecar e containers)[index]?.map Container.volumeMounts =
      containers[index]?.map Container.volumeMounts := by
  rw [withSidecar, provided, editFirstOrAdd]
  split
  · apply getElem?_editFirst
    exact fun _ => rfl
  · rw [List.getElem?_append_left inside]

theorem named_congr {first second : Container}
    (same : first.name = second.name) :
    named name first = named name second := by
  simp [named, same]

theorem countP_withSidecar :
    (withSidecar e containers).countP (named traefikDaemonContainerName) =
      containers.countP (named traefikDaemonContainerName) := by
  have other :
      named traefikDaemonContainerName (getSidecarContainer e) = false := by
    simp [named, getSidecarContainer, sidecarName_ne]
  rw [withSidecar, provided, editFirstOrAdd]
  split
  · exact countP_editFirst fun _ _ => named_congr rfl
  · simp [List.countP_append, other]

theorem length_withSidecar_congr {first second : List Container}
    (same : first.any (named sidecarName) = second.any (named sidecarName))
    (length : first.length = second.length) :
    (withSidecar e first).length = (withSidecar e second).length := by
  rw [withSidecar, withSidecar, provided, provided, editFirstOrAdd,
    editFirstOrAdd, same]
  split
  · rw [length_editFirst, length_editFirst, length]
  · rw [List.length_append, List.length_append, length]

theorem withSidecar_cons {head : Container} {tail : List Container}
    (other : named sidecarName head = false) :
    withSidecar e (head :: tail) = head :: withSidecar e tail := by
  rw [withSidecar, withSidecar, provided, provided, editFirstOrAdd,
    editFirstOrAdd, List.any_cons, other, Bool.false_or]
  split
  · rw [editFirst, other, if_neg (by simp)]
  · rfl

theorem withSidecar_head (head : Container) (tail : List Container) :
    ∃ first rest, withSidecar e (head :: tail) = first :: rest ∧
      first.name = head.name ∧ first.volumeMounts = head.volumeMounts := by
  rw [withSidecar, provided, editFirstOrAdd]
  split
  · rw [editFirst]
    split
    · exact ⟨_, _, rfl, rfl, rfl⟩
    · exact ⟨_, _, rfl, rfl, rfl⟩
  · exact ⟨_, _, rfl, rfl, rfl⟩

theorem withDaemon_head (head : Container) (tail : List Container) :
    ∃ first rest, withDaemon e (head :: tail) = first :: rest ∧
      first.volumeMounts = head.volumeMounts := by
  rw [withDaemon, provided, editFirstOrAdd]
  split
  · rw [editFirst]
    split
    · exact ⟨_, _, rfl, rfl⟩
    · exact ⟨_, _, rfl, rfl⟩
  · exact ⟨_, _, rfl, rfl⟩

theorem withMount_of_shared
    (shared : (container.volumeMounts.getD []).any sharedMount = true) :
    withMount container = container := by
  obtain ⟨_, _, _, mounts, _⟩ := container
  cases mounts with
  | none => exact nomatch shared
  | some mounts =>
      have shared : mounts.any sharedMount = true := shared
      rw [withMount]
      simp [shared]

theorem shared_of_withMount
    (same : (withMount container).volumeMounts = container.volumeMounts) :
    (container.volumeMounts.getD []).any sharedMount = true := by
  by_contra missing
  rw [withMount, if_neg missing] at same
  have length := congrArg (fun mounts => (mounts.getD []).length) same
  simp at length

/-- The effect of the patch of the mounts on a list of containers. -/
def mounted (mounts : List VolumeMount) (container : Container) : Container :=
  { container with volumeMounts := some (mounts ++ [getVolumeMount]) }

section Mount

variable {head : Container} {tail : List Container}
  {mounts : List VolumeMount}

theorem proxied_head (tail : List Container) (name : String)
    (present : head.volumeMounts = some mounts) :
    ∃ first rest,
      editFirst (named name) withMount (head :: tail) = first :: rest ∧
        first.name = head.name ∧
        (first.volumeMounts = some (mounts ++ [getVolumeMount]) ↔
          named name head = true ∧ mounts.any sharedMount = false) := by
  rw [editFirst]
  split
  · rename_i proxy
    refine ⟨_, _, rfl, rfl, ?_⟩
    rw [withMount, present]
    cases shared : mounts.any sharedMount <;> simp [shared, proxy]
  · rename_i other
    refine ⟨_, _, rfl, rfl, ?_⟩
    rw [present]
    simp [other]

theorem proxied_eq_mounted (present : head.volumeMounts = some mounts)
    (proxy : named name head = true)
    (missing : mounts.any sharedMount = false) :
    editFirst (named name) withMount (head :: tail) =
      mounted mounts head :: tail := by
  have added : withMount head = mounted mounts head := by
    rw [withMount, present]
    simp [missing, mounted]
  rw [editFirst, if_pos proxy, added]

theorem countP_proxied :
    (withSidecar e (editFirst (named name) withMount containers)).countP
        (named traefikDaemonContainerName) =
      containers.countP (named traefikDaemonContainerName) := by
  rw [countP_withSidecar]
  exact countP_editFirst fun _ _ => named_congr rfl

theorem length_proxied :
    (withSidecar e (mounted mounts head :: tail)).length =
      (withSidecar e
        (editFirst (named name) withMount (head :: tail))).length := by
  have keeps : ∀ container, named name container = true →
      named sidecarName (withMount container) = named sidecarName container :=
    fun _ _ => named_congr rfl
  apply length_withSidecar_congr
  · rw [any_editFirst keeps, List.any_cons, List.any_cons]
    rfl
  · rw [length_editFirst]
    rfl

theorem mount_of_kept (name : String)
    (present : head.volumeMounts = some mounts)
    (kept : named traefikDaemonContainerName head = false)
    (same : (withSidecar e (mounted mounts head :: tail)).eraseP
        (named traefikDaemonContainerName) =
      (withSidecar e (editFirst (named name) withMount
        (head :: tail))).filter fun container =>
          !named traefikDaemonContainerName container) :
    named name head = true ∧ mounts.any sharedMount = false := by
  obtain ⟨proxied, others, edited, sameName, hasMount⟩ :=
    proxied_head tail name present
  obtain ⟨first, rest, listed, firstName, firstMounts⟩ :=
    withSidecar_head (e := e) (mounted mounts head) tail
  obtain ⟨second, more, listed', secondName, secondMounts⟩ :=
    withSidecar_head (e := e) proxied others
  have firstKept : named traefikDaemonContainerName first = false :=
    (named_congr firstName).trans kept
  have secondKept : named traefikDaemonContainerName second = false :=
    (named_congr (secondName.trans sameName)).trans kept
  rw [edited, listed, listed', List.eraseP_cons_of_neg (by simp [firstKept]),
    List.filter_cons_of_pos (by simp [secondKept])] at same
  have equal := (List.cons.inj same).1
  rw [← hasMount, ← secondMounts, ← equal, firstMounts]
  rfl

/-- Where the first container is taken out, the proxy has to have the mount. -/
theorem mount_of_removed
    (removed : named traefikDaemonContainerName head = true)
    (other : named name head = false) :
    (withSidecar e (mounted mounts head :: tail)).eraseP
        (named traefikDaemonContainerName) =
      ((withSidecar e (editFirst (named name) withMount
        (head :: tail))).filter fun container =>
          !named traefikDaemonContainerName container) ↔
      (head :: tail).countP (named traefikDaemonContainerName) ≤ 1 ∧
        ∀ proxy, tail.find? (named name) = some proxy →
          (proxy.volumeMounts.getD []).any sharedMount = true := by
  have notSidecar : named sidecarName head = false := by
    have own : head.name = traefikDaemonContainerName := by
      simpa [named] using removed
    simp [named, own, sidecarName_ne.symm]
  have notSidecar' : named sidecarName (mounted mounts head) = false :=
    notSidecar
  have removed' :
      named traefikDaemonContainerName (mounted mounts head) = true :=
    removed
  have length : (withSidecar e (mounted mounts head :: tail)).length =
      (withSidecar e
        (editFirst (named name) withMount (head :: tail))).length :=
    length_proxied
  have edited : editFirst (named name) withMount (head :: tail) =
      head :: editFirst (named name) withMount tail := by
    rw [editFirst, other, if_neg (by simp)]
  have few_iff : (head :: tail).countP (named traefikDaemonContainerName) ≤
      1 ↔ tail.countP (named traefikDaemonContainerName) = 0 := by
    rw [List.countP_cons_of_pos removed]
    omega
  have untouched (few : tail.countP (named traefikDaemonContainerName) = 0) :
      ((withSidecar e (editFirst (named name) withMount tail)).filter
        fun container => !named traefikDaemonContainerName container) =
      withSidecar e (editFirst (named name) withMount tail) := by
    have few : (withSidecar e
        (editFirst (named name) withMount tail)).countP
          (named traefikDaemonContainerName) = 0 :=
      countP_proxied.trans few
    rw [List.countP_eq_zero] at few
    exact List.filter_eq_self.mpr fun container member => by
      simpa using few container member
  constructor
  · intro same
    have few := countP_le_one_of_eraseP length same
    rw [countP_proxied] at few
    refine ⟨few, fun proxy found => ?_⟩
    rw [edited, withSidecar_cons notSidecar, withSidecar_cons notSidecar',
      List.eraseP_cons_of_pos removed',
      List.filter_cons_of_neg (by simp [removed]),
      untouched (few_iff.mp few)] at same
    obtain ⟨before, container, after, first⟩ | absent :=
      first_or_absent tail name
    · cases first.find?.symm.trans found
      have inside := (List.getElem?_eq_some_iff.mp first.getElem?).1
      have inside' : before.length <
          (editFirst (named name) withMount tail).length := by
        rw [length_editFirst]
        exact inside
      have kept := withSidecar_mounts (e := e) inside
      have changed := withSidecar_mounts (e := e) inside'
      have set : (editFirst (named name) withMount tail)[before.length]? =
          some (withMount proxy) := by
        rw [first.editFirst_eq]
        simp
      have same := congrArg
        (fun items : List Container =>
          items[before.length]?.map Container.volumeMounts) same
      rw [kept, changed, set, first.getElem?] at same
      exact shared_of_withMount (Option.some.inj same).symm
    · rw [find?_of_absent absent]
        at found
      cases found
  · rintro ⟨few, shared⟩
    rw [edited, withSidecar_cons notSidecar, withSidecar_cons notSidecar',
      List.eraseP_cons_of_pos removed',
      List.filter_cons_of_neg (by simp [removed]),
      untouched (few_iff.mp few), editFirst_of_fixed fun proxy found =>
        withMount_of_shared (shared proxy found)]

theorem mount_of_removed_proxy
    (removed : named traefikDaemonContainerName head = true)
    (proxy : named name head = true) :
    (withSidecar e (mounted mounts head :: tail)).eraseP
        (named traefikDaemonContainerName) =
      ((withSidecar e (editFirst (named name) withMount
        (head :: tail))).filter fun container =>
          !named traefikDaemonContainerName container) ↔
      (head :: tail).countP (named traefikDaemonContainerName) ≤ 1 := by
  have notSidecar (container : Container)
      (same : container.name = head.name) :
      named sidecarName container = false := by
    have own : head.name = traefikDaemonContainerName := by
      simpa [named] using removed
    simp [named, same, own, sidecarName_ne.symm]
  have removed' (container : Container) (same : container.name = head.name) :
      named traefikDaemonContainerName container = true :=
    (named_congr same).trans removed
  constructor
  · intro same
    exact countP_proxied (e := e) ▸ countP_le_one_of_eraseP length_proxied same
  · intro few
    rw [List.countP_cons_of_pos removed] at few
    have none : (withSidecar e tail).countP
        (named traefikDaemonContainerName) = 0 := by
      rw [countP_withSidecar]
      omega
    rw [List.countP_eq_zero] at none
    rw [editFirst, if_pos proxy,
      withSidecar_cons (notSidecar (mounted mounts head) rfl),
      withSidecar_cons (notSidecar (withMount head) rfl),
      List.eraseP_cons_of_pos (removed' (mounted mounts head) rfl),
      List.filter_cons_of_neg (by simp [removed' (withMount head) rfl])]
    exact (List.filter_eq_self.mpr fun container member => by
      simpa using none container member).symm

theorem mountsProxy_cons_iff {requested : Bool}
    (present : head.volumeMounts = some mounts) :
    MountsProxy e requested (head :: tail) ↔
      if requested = false ∧ named traefikDaemonContainerName head then
        named e.envoyBasedProxyContainerName head = false →
          ∀ proxy,
            tail.find? (named e.envoyBasedProxyContainerName) = some proxy →
              (proxy.volumeMounts.getD []).any sharedMount
      else
        named e.envoyBasedProxyContainerName head ∧
          mounts.any sharedMount = false := by
  constructor
  · rintro ⟨first, rest, others, same, there, mounts⟩
    cases same
    cases there.symm.trans present
    exact mounts
  · intro mounts
    exact ⟨head, tail, _, rfl, present, mounts⟩

/-- With one mount at the first container, the containers are as intended
exactly if it is the proxy, without the mount, or is taken out. -/
theorem agent_of_mount_iff {requested : Bool}
    (present : head.volumeMounts = some mounts) :
    (if requested then withDaemon e (withSidecar e (mounted mounts head :: tail))
      else (withSidecar e (mounted mounts head :: tail)).eraseP
        (named traefikDaemonContainerName)) =
      (if requested then
        withDaemon e (withSidecar e (editFirst
          (named e.envoyBasedProxyContainerName) withMount (head :: tail)))
      else
        (withSidecar e (editFirst (named e.envoyBasedProxyContainerName)
          withMount (head :: tail))).filter fun container =>
            !named traefikDaemonContainerName container) ↔
      (requested = false →
        (head :: tail).countP (named traefikDaemonContainerName) ≤ 1) ∧
        MountsProxy e requested (head :: tail) := by
  rw [mountsProxy_cons_iff present]
  cases requested with
  | true =>
      simp only [if_true, Bool.true_eq_false, false_and, if_false, false_implies,
        true_and]
      constructor
      · intro same
        obtain ⟨proxied, others, edited, _, hasMount⟩ :=
          proxied_head tail e.envoyBasedProxyContainerName present
        obtain ⟨first, rest, listed, _, firstMounts⟩ :=
          withSidecar_head (e := e) (mounted mounts head) tail
        obtain ⟨second, more, listed', _, secondMounts⟩ :=
          withSidecar_head (e := e) proxied others
        obtain ⟨first', rest', final, finalMounts⟩ :=
          withDaemon_head (e := e) first rest
        obtain ⟨second', more', final', finalMounts'⟩ :=
          withDaemon_head (e := e) second more
        rw [edited, listed, listed', final, final'] at same
        have equal := (List.cons.inj same).1
        rw [← hasMount, ← secondMounts, ← finalMounts', ← equal, finalMounts,
          firstMounts]
        rfl
      · rintro ⟨proxy, missing⟩
        rw [proxied_eq_mounted present proxy missing]
  | false =>
      simp only [Bool.false_eq_true, if_false, forall_const, true_and]
      cases removed : named traefikDaemonContainerName head with
      | true =>
          rw [if_pos rfl]
          cases proxy : named e.envoyBasedProxyContainerName head with
          | false =>
              rw [mount_of_removed removed proxy]
              simp only [forall_const]
          | true =>
              simp only [Bool.true_eq_false, false_implies, and_true]
              exact mount_of_removed_proxy removed proxy
      | false =>
          rw [if_neg nofun]
          constructor
          · intro same
            have few := countP_le_one_of_eraseP length_proxied same
            exact ⟨countP_proxied ▸ few, mount_of_kept _ present removed same⟩
          · rintro ⟨few, proxy, missing⟩
            rw [proxied_eq_mounted present proxy missing]
            apply eraseP_eq_filter
            rw [countP_withSidecar]
            exact few

end Mount

end OpenAppsec.Webhook
