import OpenAppsec.Webhook.InjectedPods

/-!
# Pods that a removal is right for

A removal gives the pod that is meant exactly for the pods that it is right
for.  Its patches name places in the pod as it was before the first of them.
-/

namespace OpenAppsec.Webhook

open ArrayEdits

variable {e : Environment} {pod : Pod}

variable {containers current : List Container} {container cleared : Container}
variable {spec : Spec} {α : Type*} {name : String} {index : Nat} {sweeps : Bool}
variable {places : List Nat} {env : List EnvVar}

/-- The variables at these places are removed, as far as they are there. -/
def clearEnv (places : List Nat) (container : Container) : Option Container :=
  match container.env with
  | some env =>
      (removeAll places env).map fun env => { container with env := some env }
  | none => some container

/-- The mounts of the shared volume are removed at their places. -/
def clearMounts (container : Container) : Option Container :=
  match container.volumeMounts with
  | some mounts =>
      (removeAll (positions sharedMount mounts) mounts).map fun mounts =>
        { container with volumeMounts := some mounts }
  | none => some container

theorem foldlM_onContainers_at {items : List α} {patch : α → Patch}
    {update : α → Container → Option Container}
    (edits : ∀ item, (patch item).onContainer = some (index, update item))
    (here : containers[index]? = some container) :
    (items.map patch).foldlM Patch.onContainers (some containers) =
      (items.foldlM (fun container item => update item container)
        container).map fun container =>
          some (containers.set index container) := by
  induction items generalizing containers container with
  | nil =>
      change some (some containers) = some (some _)
      rw [set_of_same here]
  | cons item items induction =>
      rw [List.map_cons, List.foldlM_cons, List.foldlM_cons,
        Patch.onContainers_of_edit (edits item), updateAt, Option.bind_some,
        here, Option.bind_some]
      cases update item container with
      | none => rfl
      | some next =>
          have inside := (List.getElem?_eq_some_iff.mp here).1
          refine (induction (List.getElem?_set_self inside)).trans ?_
          simp [List.set_set]

theorem foldlM_editEnv (present : container.env = some env) :
    places.foldlM (fun container place =>
        container.editEnv (removeAt place)) container =
      clearEnv places container := by
  rw [clearEnv, present]
  induction places generalizing container env with
  | nil =>
      obtain ⟨_, _, _, _, _⟩ := container
      cases present
      rfl
  | cons place places induction =>
      rw [List.foldlM_cons, Container.editEnv, present, removeAt_some]
      dsimp only
      rw [removeAll, List.foldlM_cons, removeAt_some]
      split
      · exact induction rfl
      · rfl

theorem foldlM_editMounts {mounts : List VolumeMount}
    (present : container.volumeMounts = some mounts) :
    places.foldlM (fun container place =>
        container.editMounts (removeAt place)) container =
      (removeAll places mounts).map fun mounts =>
        { container with volumeMounts := some mounts } := by
  induction places generalizing container mounts with
  | nil =>
      obtain ⟨_, _, _, _, _⟩ := container
      cases present
      rfl
  | cons place places induction =>
      rw [List.foldlM_cons, Container.editMounts, present, removeAt_some,
        removeAll, List.foldlM_cons, removeAt_some]
      split
      · exact induction rfl
      · rfl

theorem removedVariables_nodup : (removedVariables e).Nodup := by
  rw [removedVariables]
  generalize (e.filled "CONCURRENCY_NUMBER").isSome = number
  generalize (e.filled "CONFIG_PORT").isSome = port
  generalize (e.filled "CONCURRENCY_CALC").isSome = calculation
  generalize e.libraryPath.isSome = path
  revert number port calculation path
  decide +kernel

theorem envIndex_eq_some (found : envIndex env name = some index) :
    ∃ var, env[index]? = some var ∧ var.name = name := by
  obtain ⟨before, var, after, first, rfl⟩ := exists_firstAt found
  exact ⟨var, first.getElem?, by simpa using first.ofKind⟩

theorem removedPlaces_nodup (env : List EnvVar) :
    (removedPlaces e env).Nodup := by
  apply List.Nodup.filterMap _ removedVariables_nodup
  intro first second index ofFirst ofSecond
  obtain ⟨var, here, name⟩ := envIndex_eq_some ofFirst
  obtain ⟨var', here', name'⟩ := envIndex_eq_some ofSecond
  cases here.symm.trans here'
  exact name.symm.trans name'

theorem mem_positions_of_mem_removedPlaces {place : Nat}
    (member : place ∈ removedPlaces e env) :
    place ∈ positions (fun var => decide (var.name ∈ removedVariables e))
      env := by
  obtain ⟨name, removed, found⟩ := List.mem_filterMap.mp member
  obtain ⟨var, here, rfl⟩ := envIndex_eq_some found
  exact mem_positions_iff.mpr ⟨var, here, by simpa using removed⟩

theorem clearEnv_iff :
    (∃ cleared,
      clearEnv (removedPlaces e (container.env.getD [])) container =
          some cleared ∧
        (isInjected container = false →
          cleared = withoutVariables e container)) ↔
      RemovesVariables e container := by
  obtain ⟨name, image, env, mounts, rest⟩ := container
  cases env with
  | none =>
      have places : removedPlaces e [] = [] := by
        rw [removedPlaces]
        exact List.filterMap_eq_nil_iff.mpr fun _ _ => rfl
      simp [clearEnv, withoutVariables, RemovesVariables, places, InBounds,
        positions]
  | some env =>
      simp only [clearEnv, Option.getD_some, RemovesVariables,
        withoutVariables, Option.map_some]
      cases injected : isInjected
          { name, image, env := some env, volumeMounts := mounts, rest } with
      | true =>
          simp only [Bool.true_eq_false, false_implies, and_true, if_true]
          rw [← isSome_removeAll_iff]
          cases removeAll (removedPlaces e env) env <;> simp
      | false =>
          simp only [forall_const, Bool.false_eq_true, if_false]
          rw [← removeAll_eq_filter_iff (removedPlaces_nodup env) fun _ =>
            mem_positions_of_mem_removedPlaces]
          cases removeAll (removedPlaces e env) env <;> simp

/-- The mounts of a container, whose variables may have been changed, are
removed as meant. -/
theorem clearMounts_iff (mounts : cleared.volumeMounts = container.volumeMounts)
    {goal : Container}
    (sameMounts : goal.volumeMounts = container.volumeMounts) :
    (∃ result, clearMounts cleared = some result ∧
      (isInjected container = false → result = withoutMounts goal)) ↔
      RemovesMounts container ∧
        (isInjected container = false → cleared = goal) := by
  obtain ⟨ofName, image, env, ofMounts, rest⟩ := cleared
  obtain ⟨goalName, goalImage, goalEnv, goalMounts, goalRest⟩ := goal
  cases mounts
  cases sameMounts
  rw [RemovesMounts]
  cases there : container.volumeMounts with
  | none =>
      simp only [clearMounts, there]
      cases injected : isInjected container with
      | true => simp [InBounds, positions]
      | false => simp [withoutMounts]
  | some mounts =>
      simp only [clearMounts, there, Option.getD_some]
      cases injected : isInjected container with
      | true =>
          simp only [Bool.true_eq_false, false_implies, and_true, if_true]
          rw [← isSome_removeAll_iff]
          cases removeAll (positions sharedMount mounts) mounts <;> simp
      | false =>
          simp only [forall_const, Bool.false_eq_true, if_false]
          rw [← removeAll_positions_eq_filter_iff]
          cases removeAll (positions sharedMount mounts) mounts with
          | none => simp
          | some left =>
              simp [withoutMounts]
              tauto

theorem removeEnvVariables_eq
    (found : namedContainer containers name = some (index, container))
    (names : List String) :
    names.flatMap (removeEnvVariable containers name) =
      (names.filterMap (envIndex (container.env.getD []))).map
        (.removeEnvVar index) := by
  induction names with
  | nil => rfl
  | cons first names induction =>
      rw [List.flatMap_cons, List.filterMap_cons, induction]
      cases place : envIndex (container.env.getD []) first with
      | none =>
          have one : removeEnvVariable containers name first = [] := by
            simp [removeEnvVariable, found, place]
          rw [one, List.nil_append]
      | some var =>
          have one : removeEnvVariable containers name first =
              [.removeEnvVar index var] := by
            simp [removeEnvVariable, found, place]
          rw [one, List.singleton_append, List.map_cons]

theorem removeEnvVariables_apply {before after : List Container}
    {proxy : Container}
    (first : FirstAt (named name) containers before proxy after) :
    ((removedVariables e).flatMap (removeEnvVariable containers name)).foldlM
        Patch.onContainers (some containers) =
      (clearEnv (removedPlaces e (proxy.env.getD [])) proxy).map fun cleared =>
        some (before ++ cleared :: after) := by
  rw [removeEnvVariables_eq (namedContainer_of_first first)]
  have edits : ∀ place, (Patch.removeEnvVar before.length place).onContainer =
      some (before.length, (·.editEnv (removeAt place))) :=
    fun _ => rfl
  rw [foldlM_onContainers_at edits first.getElem?]
  cases present : proxy.env with
  | some env =>
      rw [foldlM_editEnv present, Option.getD_some, removedPlaces]
      simp only [first.set]
  | none =>
      have places : (removedVariables e).filterMap (envIndex []) = [] :=
        List.filterMap_eq_nil_iff.mpr fun _ _ => rfl
      rw [Option.getD_none, removedPlaces, places, clearEnv, present]
      exact congrArg (fun items => some (some items)) (first.set proxy)

/-- What the patches of the mounts do, from some container on. -/
theorem mountRemovals_apply (done : List Container)
    (same : current.map Container.volumeMounts =
      containers.map Container.volumeMounts) :
    ((containers.zipIdx done.length).flatMap fun (container, index) =>
      (container.volumeMounts.getD []).zipIdx.filterMap fun (mount, place) =>
        if mount.name = sharedVolumeName then
          some (.removeVolumeMount index place)
        else none).foldlM Patch.onContainers (some (done ++ current)) =
      (current.mapM clearMounts).map fun cleared => some (done ++ cleared) := by
  induction containers generalizing current done with
  | nil =>
      cases List.map_eq_nil_iff.mp same
      rfl
  | cons container containers induction =>
      cases current with
      | nil => exact nomatch same
      | cons now current =>
          obtain ⟨here, same⟩ := List.cons.inj same
          rw [List.zipIdx_cons, List.flatMap_cons, List.foldlM_append,
            List.mapM_cons]
          dsimp only
          have listed : ((container.volumeMounts.getD []).zipIdx.filterMap
              fun (mount, place) =>
                if mount.name = sharedVolumeName then
                  some (Patch.removeVolumeMount done.length place)
                else none) =
              (positions sharedMount (container.volumeMounts.getD [])).map
                (.removeVolumeMount done.length) := by
            have listed := filterMap_zipIdx sharedMount
              (container.volumeMounts.getD []) 0
              (Patch.removeVolumeMount done.length)
            simpa [sharedMount] using listed
          have at' : (done ++ now :: current)[done.length]? = some now := by
            simp
          have edits : ∀ place,
              (Patch.removeVolumeMount done.length place).onContainer =
                some (done.length, (·.editMounts (removeAt place))) :=
            fun _ => rfl
          have step : ((positions sharedMount
              (container.volumeMounts.getD [])).map
                (.removeVolumeMount done.length)).foldlM Patch.onContainers
                  (some (done ++ now :: current)) =
              (clearMounts now).map fun cleared =>
                some (done ++ cleared :: current) := by
            rw [foldlM_onContainers_at edits at', ← here, clearMounts]
            cases present : now.volumeMounts with
            | some mounts =>
                rw [Option.getD_some, foldlM_editMounts present]
                simp
            | none =>
                simp [positions]
          rw [listed, step]
          cases clearMounts now with
          | none => rfl
          | some cleared =>
              have rest := induction (done ++ [cleared]) same
              simp only [List.length_append, List.length_singleton,
                List.append_assoc, List.singleton_append] at rest
              refine rest.trans ?_
              cases current.mapM clearMounts <;> rfl

theorem containerRemovals_apply
    (same : current.map isInjected = containers.map isInjected) :
    (containerRemovals containers).foldlM Patch.onContainers (some current) =
      some (some (current.filter fun container => !isInjected container)) := by
  have positions_congr {first second : List Container}
      (same : first.map isInjected = second.map isInjected) :
      positions isInjected first = positions isInjected second := by
    induction first generalizing second with
    | nil =>
        cases List.map_eq_nil_iff.mp same.symm
        rfl
    | cons container first induction =>
        cases second with
        | nil => exact nomatch same
        | cons other second =>
            obtain ⟨here, same⟩ := List.cons.inj same
            rw [positions, positions, here, induction same]
  have listed : (containers.zipIdx.filterMap fun (container, index) =>
      if isInjected container then some index else none) =
        positions isInjected containers := by
    have listed := filterMap_zipIdx isInjected containers 0 fun index => index
    simpa using listed
  have applied (places : List Nat) (current : List Container) :
      (places.map Patch.removeContainer).foldlM Patch.onContainers
          (some current) = (removeAll places current).map some := by
    induction places generalizing current with
    | nil => rfl
    | cons place places induction =>
        rw [List.map_cons, List.foldlM_cons, removeAll, List.foldlM_cons]
        change ((removeAt place (some current)).map some >>= _) = _
        cases removeAt place (some current) with
        | none => rfl
        | some next => exact induction next
  rw [containerRemovals, listed, applied, ← positions_congr same,
    removeAll_reverse_positions]
  rfl

theorem forall₂_around {relation : α → α → Prop} {before after : List α}
    {first second : α} :
    List.Forall₂ relation (before ++ first :: after)
        (before ++ second :: after) ↔
      (∀ item ∈ before, relation item item) ∧ relation first second ∧
        ∀ item ∈ after, relation item item := by
  induction before with
  | nil => simp [List.forall₂_same]
  | cons item before induction =>
      simp only [List.cons_append, List.forall₂_cons, induction,
        List.forall_mem_cons, and_assoc]

/-- Edits that keep what is filtered agree after the filter exactly if they
agree on what passes it. -/
theorem mapM_filter_iff {keep : α → Bool} {edit : α → Option α} {goal : α → α}
    (keeps : ∀ item next, edit item = some next →
      keep next = keep item) (goalKeeps : ∀ item, keep (goal item) = keep item)
    {items others : List α}
    (aligned : List.Forall₂ (fun item other => keep other = keep item) items
      others) :
    (∃ results, items.mapM edit = some results ∧
      results.filter keep = (others.map goal).filter keep) ↔
      List.Forall₂ (fun item other => ∃ result, edit item = some result ∧
        (keep item = true → result = goal other)) items others := by
  induction aligned with
  | nil => simp
  | @cons item other items others same aligned induction =>
      rw [List.forall₂_cons, ← induction, List.mapM_cons, List.map_cons]
      constructor
      · rintro ⟨results, mapped, equal⟩
        obtain ⟨result, here, others⟩ := Option.bind_eq_some_iff.mp mapped
        obtain ⟨later, ofRest, listed⟩ := Option.bind_eq_some_iff.mp others
        cases listed
        have sameKeep := keeps item result here
        cases kept : keep item with
        | true =>
            rw [List.filter_cons_of_pos (sameKeep.trans kept),
              List.filter_cons_of_pos
                ((goalKeeps other).trans (same.trans kept))] at equal
            obtain ⟨first, rest⟩ := List.cons.inj equal
            exact ⟨⟨result, here, fun _ => first⟩, later, ofRest, rest⟩
        | false =>
            have dropped : ¬keep result = true := by simp [sameKeep, kept]
            have goalDropped : ¬keep (goal other) = true := by
              simp [goalKeeps, same, kept]
            rw [List.filter_cons_of_neg dropped,
              List.filter_cons_of_neg goalDropped] at equal
            exact ⟨⟨result, here, nofun⟩, later, ofRest, equal⟩
      · rintro ⟨⟨result, here, first⟩, later, mapped, rest⟩
        have sameKeep := keeps item result here
        refine ⟨result :: later, by simp [here, mapped], ?_⟩
        cases kept : keep item with
        | true =>
            rw [List.filter_cons_of_pos (sameKeep.trans kept),
              List.filter_cons_of_pos
                ((goalKeeps other).trans (same.trans kept)), rest, first kept]
        | false =>
            have dropped : ¬keep result = true := by simp [sameKeep, kept]
            have goalDropped : ¬keep (goal other) = true := by
              simp [goalKeeps, same, kept]
            rw [List.filter_cons_of_neg dropped,
              List.filter_cons_of_neg goalDropped, rest]

theorem isInjected_congr {first second : Container}
    (same : first.name = second.name) :
    isInjected first = isInjected second := by
  simp [isInjected, same]

theorem clearEnv_name (removed : clearEnv places container = some cleared) :
    cleared.name = container.name ∧
      cleared.volumeMounts = container.volumeMounts := by
  rw [clearEnv] at removed
  split at removed
  · obtain ⟨_, _, rfl⟩ := Option.map_eq_some_iff.mp removed
    exact ⟨rfl, rfl⟩
  · cases removed
    exact ⟨rfl, rfl⟩

theorem clearMounts_name (removed : clearMounts container = some cleared) :
    cleared.name = container.name := by
  rw [clearMounts] at removed
  split at removed
  · obtain ⟨_, _, rfl⟩ := Option.map_eq_some_iff.mp removed
    rfl
  · cases removed
    rfl

/-- How the containers are cleared of mounts, where that is done. -/
def swept (sweeps : Bool) (container : Container) : Option Container :=
  if sweeps then clearMounts container else some container

def intendedMounts (sweeps : Bool) (container : Container) : Container :=
  if sweeps then withoutMounts container else container

theorem swept_name (removed : swept sweeps container = some cleared) :
    cleared.name = container.name := by
  rw [swept] at removed
  split at removed
  · exact clearMounts_name removed
  · cases removed
    rfl

theorem swept_iff {goal : Container}
    (mounts : cleared.volumeMounts = container.volumeMounts)
    (sameMounts : goal.volumeMounts = container.volumeMounts) :
    (∃ result, swept sweeps cleared = some result ∧
      (isInjected container = false →
        result = intendedMounts sweeps goal)) ↔
      (sweeps = true → RemovesMounts container) ∧
        (isInjected container = false → cleared = goal) := by
  cases sweeps with
  | true =>
      simp only [swept, intendedMounts, if_true, forall_const]
      exact clearMounts_iff mounts sameMounts
  | false =>
      simp [swept, intendedMounts]

theorem mapM_map_name {results : List Container}
    (mapped : containers.mapM (swept sweeps) = some results) :
    results.map isInjected = containers.map isInjected := by
  induction containers generalizing results with
  | nil =>
      cases mapped
      rfl
  | cons container containers induction =>
      rw [List.mapM_cons] at mapped
      obtain ⟨result, here, others⟩ := Option.bind_eq_some_iff.mp mapped
      obtain ⟨later, ofRest, listed⟩ := Option.bind_eq_some_iff.mp others
      cases listed
      rw [List.map_cons, List.map_cons, induction ofRest,
        isInjected_congr (swept_name here)]

/-- What the patches after those of the variables do. -/
theorem sweep_apply
    (mounts : current.map Container.volumeMounts =
      containers.map Container.volumeMounts)
    (injected : current.map isInjected = containers.map isInjected) :
    (if containers.any isInjected then
        (if e.isEnvoyBasedProxyAgent then mountRemovals containers else []) ++
          containerRemovals containers
      else []).foldlM Patch.onContainers (some current) =
      (current.mapM (swept
        (e.isEnvoyBasedProxyAgent && containers.any isInjected))).map
          fun results =>
            some (results.filter fun container => !isInjected container) := by
  have unswept (containers : List Container) :
      containers.mapM (swept false) = some containers := by
    induction containers with
    | nil => rfl
    | cons container containers induction =>
        rw [List.mapM_cons, induction]
        rfl
  have any_eq (containers : List Container) : containers.any isInjected =
      (containers.map isInjected).any id := by
    rw [List.any_map]
    rfl
  cases any : containers.any isInjected with
  | false =>
      have none : current.filter (fun container => !isInjected container) =
          current := by
        rw [any_eq, ← injected, ← any_eq] at any
        apply List.filter_eq_self.mpr
        intro container member
        have other := List.any_eq_false.mp any container member
        simpa using other
      rw [Bool.and_false, unswept, Option.map_some, none]
      rfl
  | true =>
      rw [if_pos rfl, Bool.and_true, List.foldlM_append]
      cases e.isEnvoyBasedProxyAgent with
      | false =>
          rw [unswept]
          exact containerRemovals_apply injected
      | true =>
          have mounted := mountRemovals_apply [] mounts
          have removed : (mountRemovals containers).foldlM
              Patch.onContainers (some current) =
                (current.mapM clearMounts).map some :=
            mounted
          have all : current.mapM (swept true) = current.mapM clearMounts :=
            rfl
          rw [if_pos rfl, removed, all]
          cases results : current.mapM clearMounts with
          | none => rfl
          | some results' =>
              have names := mapM_map_name (all.trans results)
              exact containerRemovals_apply (names.trans injected)

theorem sweptAlone_iff :
    (∃ result, swept sweeps container = some result ∧
      ((!isInjected container) = true →
        result = intendedMounts sweeps container)) ↔
      (sweeps = true → RemovesMounts container) := by
  simp only [Bool.not_eq_eq_eq_not, Bool.not_true]
  rw [swept_iff rfl rfl]
  simp

theorem aligned_around (before after : List Container)
    {first second : Container} (name : second.name = first.name) :
    List.Forall₂ (fun container other : Container =>
      (!isInjected other) = !isInjected container)
        (before ++ first :: after) (before ++ second :: after) :=
  forall₂_around.mpr
    ⟨fun _ _ => rfl, congrArg (!·) (isInjected_congr name), fun _ _ => rfl⟩

theorem restoredContainers_eq :
    restoredContainers e containers =
      ((if e.isEnvoyBasedProxyAgent ∧ e.envoyBasedProxyContainerName ≠ "" then
          editFirst (named e.envoyBasedProxyContainerName) (withoutVariables e)
            containers
        else containers).map (intendedMounts
          (e.isEnvoyBasedProxyAgent && containers.any isInjected))).filter
            fun container => !isInjected container := by
  have same (sweeps : Bool) (items : List Container) :
      items.map (intendedMounts sweeps) =
        if sweeps then items.map withoutMounts else items := by
    cases sweeps with
    | true => rfl
    | false => exact List.map_id' items
  rw [same, restoredContainers]
  simp only [Bool.and_eq_true]

theorem kindRemovals_apply {containers : Option (List Container)} :
    (if e.isEnvoyBasedProxyAgent then envoyRemovals e spec
      else if spec.automountServiceAccountToken.isSome then
        [.replaceAutomount false]
      else []).foldlM Patch.onContainers containers =
      (if e.isEnvoyBasedProxyAgent ∧ e.envoyBasedProxyContainerName ≠ "" then
        (removedVariables e).flatMap (removeEnvVariable
          (spec.containers.getD []) e.envoyBasedProxyContainerName)
      else []).foldlM Patch.onContainers containers := by
  cases envoy : e.isEnvoyBasedProxyAgent with
  | false =>
      simp only [Bool.false_eq_true, if_false, false_and]
      split <;> rfl
  | true =>
      simp only [if_true, true_and]
      rw [envoyRemovals]
      refine (foldlM_append_of_fixed_right ?_ _ _).trans
        (foldlM_append_of_fixed_right ?_ _ _)
      · split
        · intro patch member
          cases List.mem_singleton.mp member
          exact fun _ => rfl
        · nofun
      · split
        · intro patch member
          cases List.mem_singleton.mp member
          exact fun _ => rfl
        · nofun

theorem sweep_intended_iff {goal : List Container}
    (mounts : current.map Container.volumeMounts =
      containers.map Container.volumeMounts)
    (injected : current.map isInjected = containers.map isInjected)
    (aligned : List.Forall₂ (fun container other : Container =>
      (!isInjected other) = !isInjected container) current goal) :
    (if containers.any isInjected then
        (if e.isEnvoyBasedProxyAgent then mountRemovals containers else []) ++
          containerRemovals containers
      else []).foldlM Patch.onContainers (some current) =
      some (some ((goal.map (intendedMounts
        (e.isEnvoyBasedProxyAgent && containers.any isInjected))).filter
          fun container => !isInjected container)) ↔
      List.Forall₂ (fun container other => ∃ result,
        swept (e.isEnvoyBasedProxyAgent && containers.any isInjected)
            container = some result ∧
          ((!isInjected container) = true → result = intendedMounts
            (e.isEnvoyBasedProxyAgent && containers.any isInjected) other))
        current goal := by
  rw [sweep_apply mounts injected, Option.map_eq_some_iff]
  simp only [Option.some.injEq]
  refine mapM_filter_iff (fun container result removed => ?_)
    (fun container => ?_) aligned
  · exact congrArg (!·) (isInjected_congr (swept_name removed))
  · refine congrArg (!·) (isInjected_congr ?_)
    rw [intendedMounts]
    split <;> rfl

theorem sweepAlone_iff (containers : List Container) :
    (if containers.any isInjected then
        (if e.isEnvoyBasedProxyAgent then mountRemovals containers else []) ++
          containerRemovals containers
      else []).foldlM Patch.onContainers (some containers) =
      some (some ((containers.map (intendedMounts
        (e.isEnvoyBasedProxyAgent && containers.any isInjected))).filter
          fun container => !isInjected container)) ↔
      ∀ container ∈ containers,
        (e.isEnvoyBasedProxyAgent && containers.any isInjected) = true →
          RemovesMounts container := by
  rw [sweep_intended_iff rfl rfl (List.forall₂_same.mpr fun _ _ => rfl),
    List.forall₂_same]
  simp only [sweptAlone_iff]

/-- The containers are as intended if those of the proxy are. -/
theorem restoredProxy_iff {before after : List Container} {proxy : Container}
    (first : FirstAt (named name) containers before proxy after)
    (envoy : e.isEnvoyBasedProxyAgent = true) :
    (((clearEnv (removedPlaces e (proxy.env.getD [])) proxy).map
        fun cleared => some (before ++ cleared :: after)) >>= fun current =>
          (if containers.any isInjected then
              mountRemovals containers ++ containerRemovals containers
            else []).foldlM Patch.onContainers current) =
      some (some (((before ++ withoutVariables e proxy :: after).map
        (intendedMounts (containers.any isInjected))).filter
          fun container => !isInjected container)) ↔
      RemovesVariables e proxy ∧
        (containers.any isInjected = true →
          ∀ container ∈ containers, RemovesMounts container) := by
  have swept_eq {cleared : Container}
      (removed : clearEnv (removedPlaces e (proxy.env.getD [])) proxy =
        some cleared) :
      (if containers.any isInjected then
          mountRemovals containers ++ containerRemovals containers
        else []).foldlM Patch.onContainers
          (some (before ++ cleared :: after)) =
        some (some (((before ++ withoutVariables e proxy :: after).map
          (intendedMounts (containers.any isInjected))).filter
            fun container => !isInjected container)) ↔
        (isInjected proxy = false → cleared = withoutVariables e proxy) ∧
          (containers.any isInjected = true →
            ∀ container ∈ containers, RemovesMounts container) := by
    obtain ⟨sameName, sameMounts⟩ := clearEnv_name removed
    have mounts : (before ++ cleared :: after).map Container.volumeMounts =
        containers.map Container.volumeMounts := by
      rw [first.split]
      simp [sameMounts]
    have injected : (before ++ cleared :: after).map isInjected =
        containers.map isInjected := by
      rw [first.split]
      simp [isInjected_congr sameName]
    have goalName : (withoutVariables e proxy).name = cleared.name :=
      sameName.symm
    have intended := sweep_intended_iff (e := e) mounts injected
      (aligned_around before after goalName)
    simp only [envoy, if_true, Bool.true_and] at intended
    rw [intended, forall₂_around]
    simp only [sweptAlone_iff]
    have own : (∃ result,
        swept (containers.any isInjected) cleared = some result ∧
          ((!isInjected cleared) = true → result = intendedMounts
            (containers.any isInjected) (withoutVariables e proxy))) ↔
        (containers.any isInjected = true → RemovesMounts proxy) ∧
          (isInjected proxy = false →
            cleared = withoutVariables e proxy) := by
      rw [isInjected_congr sameName]
      simp only [Bool.not_eq_eq_eq_not, Bool.not_true]
      exact swept_iff sameMounts rfl
    rw [own, first.split]
    constructor
    · rintro ⟨earlier, ⟨here, same⟩, later⟩
      refine ⟨same, fun any container member => ?_⟩
      obtain member | member := List.mem_append.mp member
      · exact earlier container member any
      · obtain rfl | member := List.mem_cons.mp member
        · exact here any
        · exact later container member any
    · rintro ⟨same, all⟩
      refine ⟨fun container member any => ?_, ⟨fun any => ?_, same⟩,
        fun container member any => ?_⟩
      · exact all any container (List.mem_append_left _ member)
      · exact all any proxy (by simp)
      · exact all any container (by simp [member])
  rw [← clearEnv_iff, Option.bind_eq_bind, Option.bind_eq_some_iff]
  constructor
  · rintro ⟨current, mapped, swept⟩
    obtain ⟨cleared, removed, rfl⟩ := Option.map_eq_some_iff.mp mapped
    obtain ⟨same, all⟩ := (swept_eq removed).mp swept
    exact ⟨⟨cleared, removed, same⟩, all⟩
  · rintro ⟨⟨cleared, removed, same⟩, all⟩
    exact ⟨_, Option.map_eq_some_iff.mpr ⟨cleared, removed, rfl⟩,
      (swept_eq removed).mpr ⟨same, all⟩⟩

/-- The containers are as intended exactly under these conditions. -/
theorem restoredContainers_iff :
    (removals e spec).foldlM Patch.onContainers spec.containers =
        some (spec.containers.map (restoredContainers e)) ↔
      (e.isEnvoyBasedProxyAgent = true →
        e.envoyBasedProxyContainerName ≠ "" → ∀ proxy,
          (spec.containers.getD []).find?
              (named e.envoyBasedProxyContainerName) = some proxy →
            RemovesVariables e proxy) ∧
      (e.isEnvoyBasedProxyAgent = true →
        (spec.containers.getD []).any isInjected →
          ∀ container ∈ spec.containers.getD [], RemovesMounts container) := by
  have listed : (removals e spec).foldlM Patch.onContainers spec.containers =
      ((if e.isEnvoyBasedProxyAgent ∧ e.envoyBasedProxyContainerName ≠ "" then
        (removedVariables e).flatMap (removeEnvVariable
          (spec.containers.getD []) e.envoyBasedProxyContainerName)
      else []).foldlM Patch.onContainers spec.containers) >>= fun current =>
        (if (spec.containers.getD []).any isInjected then
          (if e.isEnvoyBasedProxyAgent then
              mountRemovals (spec.containers.getD []) else []) ++
            containerRemovals (spec.containers.getD [])
        else []).foldlM Patch.onContainers current := by
    rw [removals]
    refine (foldlM_append_of_fixed_right ?_ _ _).trans ?_
    · split
      · split
        · intro patch member
          cases List.mem_singleton.mp member
          exact fun _ => rfl
        · simp
      · simp
    · rw [List.foldlM_append, kindRemovals_apply]
  rw [listed]
  cases there : spec.containers with
  | none =>
      have nothing : (removedVariables e).flatMap (removeEnvVariable []
          e.envoyBasedProxyContainerName) = [] := by
        rw [List.flatMap_eq_nil_iff]
        intro name _
        rfl
      simp only [Option.getD_none, nothing, ite_self]
      simp
  | some containers =>
      rw [Option.getD_some, Option.map_some, restoredContainers_eq]
      have sweeps : (e.isEnvoyBasedProxyAgent && containers.any isInjected) =
          true ↔ e.isEnvoyBasedProxyAgent = true ∧
            containers.any isInjected = true :=
        Bool.and_eq_true_iff
      by_cases edits : e.isEnvoyBasedProxyAgent ∧
          e.envoyBasedProxyContainerName ≠ ""
      · rw [if_pos edits, if_pos edits]
        obtain ⟨envoy, enabled⟩ := edits
        simp only [envoy, enabled, ne_eq, not_false_eq_true, forall_const,
          Bool.true_and]
        obtain ⟨before, proxy, after, first⟩ | absent :=
          first_or_absent containers e.envoyBasedProxyContainerName
        · rw [removeEnvVariables_apply first, first.editFirst_eq, first.find?]
          simp only [Option.some.injEq, forall_eq']
          exact restoredProxy_iff first envoy
        · have nothing : (removedVariables e).flatMap (removeEnvVariable
              containers e.envoyBasedProxyContainerName) = [] := by
            rw [List.flatMap_eq_nil_iff]
            intro name _
            rw [removeEnvVariable, namedContainer_of_absent absent]
          rw [editFirst_of_absent absent, find?_of_namedContainer_none
            (namedContainer_of_absent absent), nothing]
          have alone := sweepAlone_iff (e := e) containers
          simp only [envoy, if_true, Bool.true_and] at alone
          refine alone.trans ?_
          exact ⟨fun all => ⟨by simp, fun any container member =>
            all container member any⟩, fun both container member any =>
              both.2 any container member⟩
      · rw [if_neg edits, if_neg edits]
        refine (sweepAlone_iff containers).trans ?_
        simp only [sweeps]
        constructor
        · intro all
          exact ⟨fun envoy enabled => absurd ⟨envoy, enabled⟩ edits,
            fun envoy any container member => all container member ⟨envoy, any⟩⟩
        · intro both container member sweeps
          exact both.2 sweeps.1 sweeps.2 container member

theorem removeAt_first_iff {kind : α → Bool} {items : List α}
    (found : items.findIdx? kind = some index) :
    removeAt index (some items) =
        some (items.filter fun item => !kind item) ↔
      items.countP kind ≤ 1 := by
  obtain ⟨before, item, after, first, rfl⟩ := exists_firstAt found
  have inside := (List.getElem?_eq_some_iff.mp first.getElem?).1
  rw [removeAt_some, if_pos inside, Option.some.injEq,
    first.eraseIdx_eq_filter_iff]

theorem filter_of_absent {kind : α → Bool} {items : List α}
    (absent : items.findIdx? kind = none) :
    (items.filter fun item => !kind item) = items ∧ items.countP kind = 0 := by
  have absent := List.findIdx?_eq_none_iff.mp absent
  constructor
  · exact List.filter_eq_self.mpr fun item member => by
      simp [absent item member]
  · exact List.countP_eq_zero.mpr fun item member => by
      simp [absent item member]

theorem containerPatches_field :
    ∀ patch ∈ (if containers.any isInjected then
        (if e.isEnvoyBasedProxyAgent then mountRemovals containers else []) ++
          containerRemovals containers
      else []), patch.field = .containers := by
  split
  · simp only [List.forall_mem_append]
    refine ⟨?_, containerRemovals_field⟩
    split
    · exact mountRemovals_field
    · nofun
  · nofun

theorem removeEnvVariables_field :
    ∀ patch ∈ (if e.envoyBasedProxyContainerName ≠ "" then
        (removedVariables e).flatMap (removeEnvVariable containers name)
      else []), patch.field = .containers := by
  split
  · intro patch member
    obtain ⟨variable', _, member⟩ := List.mem_flatMap.mp member
    exact removeEnvVariable_field patch member
  · nofun

theorem restoredVolumes_iff :
    (removals e spec).foldlM Patch.onVolumes spec.volumes =
        some (restoredSpec e spec).volumes ↔
      (e.isEnvoyBasedProxyAgent = true →
        (spec.volumes.getD []).countP sharedVolume ≤ 1) := by
  rw [removals, List.append_assoc,
    foldlM_append_of_fixed_left (fixed_volumes kindRemovals_field),
    foldlM_append_of_fixed_left (fixed_volumes
      (other_field containerPatches_field (by simp))), restoredSpec]
  cases envoy : e.isEnvoyBasedProxyAgent with
  | false => simp
  | true =>
      simp only [if_true, forall_const]
      cases there : spec.volumes with
      | none => simp
      | some volumes =>
          rw [Option.getD_some, Option.map_some]
          split
          · rename_i index found
            rw [List.foldlM_cons]
            change ((removeAt index (some volumes)).map some >>= some) = _ ↔ _
            have found : volumes.findIdx? sharedVolume = some index := found
            rw [← removeAt_first_iff found]
            cases removeAt index (some volumes) <;> simp
          · rename_i absent
            have absent : volumes.findIdx? sharedVolume = none := absent
            obtain ⟨same, none⟩ := filter_of_absent absent
            rw [same, none]
            simp

theorem removals_others {β : Type*} {edit : β → Patch → Option β}
    (fixed : ∀ patch : Patch,
      patch.field = .containers ∨ patch.field = .volumes →
        ∀ value, edit value patch = some value) (value : β) :
    (removals e spec).foldlM edit value =
      (if e.isEnvoyBasedProxyAgent then envoyRemovals e spec
        else if spec.automountServiceAccountToken.isSome then
          [.replaceAutomount false]
        else []).foldlM edit value := by
  rw [removals]
  refine (foldlM_append_of_fixed_right ?_ _ _).trans
    (foldlM_append_of_fixed_right ?_ _ _)
  · split
    · split
      · intro patch member
        cases List.mem_singleton.mp member
        exact fixed _ (.inr rfl)
      · simp
    · simp
  · intro patch member
    exact fixed patch (.inl (containerPatches_field patch member))

theorem restoredInitContainers_iff :
    (removals e spec).foldlM Patch.onInitContainers spec.initContainers =
        some (restoredSpec e spec).initContainers ↔
      (e.isEnvoyBasedProxyAgent = true →
        (spec.initContainers.getD []).countP (named initContainerName) ≤
          1) := by
  rw [removals_others (fun patch field =>
    Patch.onInitContainers_of_field (by
      obtain field | field := field <;> simp [field])), restoredSpec]
  cases envoy : e.isEnvoyBasedProxyAgent with
  | false =>
      simp only [Bool.false_eq_true, if_false, false_implies, iff_true]
      split <;> rfl
  | true =>
      simp only [if_true, forall_const]
      have others : ∀ patch ∈
          (if e.envoyBasedProxyContainerName ≠ "" then
            (removedVariables e).flatMap (removeEnvVariable
              (spec.containers.getD []) e.envoyBasedProxyContainerName)
          else []) ++
          (if spec.shareProcessNamespace.isSome then
            [Patch.removeShareProcessNamespace]
          else []), ∀ containers,
            Patch.onInitContainers containers patch = some containers := by
        simp only [List.forall_mem_append]
        constructor
        · intro patch member
          apply Patch.onInitContainers_of_field
          simp [removeEnvVariables_field patch member]
        · split
          · intro patch member
            cases List.mem_singleton.mp member
            exact fun _ => rfl
          · nofun
      rw [envoyRemovals, foldlM_append_of_fixed_left others]
      cases there : spec.initContainers with
      | none => simp [containerIndex]
      | some containers =>
          rw [Option.getD_some, Option.map_some]
          split
          · rename_i index found
            have found : containers.findIdx? (named initContainerName) =
                some index :=
              found
            rw [List.foldlM_cons]
            change ((removeAt index (some containers)).map some >>= some) =
              _ ↔ _
            rw [← removeAt_first_iff found]
            cases removeAt index (some containers) <;> simp
          · rename_i absent
            have absent : containers.findIdx? (named initContainerName) =
                none :=
              absent
            obtain ⟨same, none⟩ := filter_of_absent absent
            rw [same, none]
            simp

theorem restoredShare :
    (removals e spec).foldlM Patch.onShareProcessNamespace
        spec.shareProcessNamespace =
      some (restoredSpec e spec).shareProcessNamespace := by
  rw [removals_others (fun patch field =>
    Patch.onShareProcessNamespace_of_field (by
      obtain field | field := field <;> simp [field])), restoredSpec]
  cases envoy : e.isEnvoyBasedProxyAgent with
  | false =>
      simp only [Bool.false_eq_true, if_false]
      split <;> rfl
  | true =>
      simp only [if_true]
      rw [envoyRemovals]
      refine (foldlM_append_of_fixed_right ?_ _ _).trans ?_
      · split
        · intro patch member
          cases List.mem_singleton.mp member
          exact fun _ => rfl
        · nofun
      · rw [foldlM_append_of_fixed_left fun patch member =>
          Patch.onShareProcessNamespace_of_field (by
            simp [removeEnvVariables_field patch member])]
        cases spec.shareProcessNamespace <;> rfl

theorem restoredAutomount :
    (removals e spec).foldlM Patch.onAutomount
        spec.automountServiceAccountToken =
      some (restoredSpec e spec).automountServiceAccountToken := by
  rw [removals_others (fun patch field =>
    Patch.onAutomount_of_field (by
      obtain field | field := field <;> simp [field])), restoredSpec]
  cases envoy : e.isEnvoyBasedProxyAgent with
  | false =>
      simp only [Bool.false_eq_true, if_false]
      cases spec.automountServiceAccountToken <;> rfl
  | true =>
      simp only [if_true]
      apply foldlM_of_fixed
      rw [envoyRemovals]
      simp only [List.forall_mem_append]
      refine ⟨⟨?_, ?_⟩, ?_⟩
      · intro patch member
        apply Patch.onAutomount_of_field
        simp [removeEnvVariables_field patch member]
      · split
        · intro patch member
          cases List.mem_singleton.mp member
          exact fun _ => rfl
        · nofun
      · split
        · intro patch member
          cases List.mem_singleton.mp member
          exact fun _ => rfl
        · nofun

theorem removals_unannotated :
    ∀ patch ∈ removals e spec, patch.field ≠ .annotations := by
  rw [removals]
  simp only [List.forall_mem_append]
  refine ⟨⟨?_, other_field containerPatches_field (by simp)⟩, ?_⟩
  · split
    · rw [envoyRemovals]
      simp only [List.forall_mem_append]
      refine ⟨⟨other_field removeEnvVariables_field (by simp), ?_⟩, ?_⟩
      · split
        · simp [Patch.field]
        · simp
      · split
        · simp [Patch.field]
        · simp
    · split
      · simp [Patch.field]
      · simp
  · split
    · split
      · simp [Patch.field]
      · simp
    · simp

/-- With removal, the pod is as intended exactly if the removal is right for
it. -/
theorem removal_intended_iff
    (on : e.isTrue "REMOVE_INJECTED_DATA" = true) :
    review e pod = some (intended e pod) ↔ RemovesCleanly e pod := by
  have applied : review e pod = applyPatches pod
      (originalConfiguration e pod ++ removals e pod.spec) := by
    rw [review, mutate, on]
    rfl
  have spec : (intended e pod).spec = restoredSpec e pod.spec := by
    rw [intended, on]
    rfl
  have unannotated : ∀ patch ∈ removals e pod.spec,
      patch.field ≠ .annotations :=
    removals_unannotated
  obtain ⟨ofContainers, ofInit, ofVolumes, ofShare, ofAutomount⟩ :=
    originalConfiguration_others e pod (removals e pod.spec)
  rw [applied, applyPatches_eq_some_iff, ofContainers, ofInit, ofVolumes,
    ofShare, ofAutomount]
  constructor
  · rintro ⟨annotations, containers, initContainers, volumes, _⟩
    rw [spec] at containers initContainers volumes
    obtain ⟨env, mounts⟩ := restoredContainers_iff.mp containers
    exact
      { annotations := (annotated_iff unannotated).mp annotations
        initContainers := restoredInitContainers_iff.mp initContainers
        volumes := restoredVolumes_iff.mp volumes
        env
        mounts }
  · intro right
    constructor
    · exact (annotated_iff unannotated).mpr right.annotations
    · rw [spec]
      exact restoredContainers_iff.mpr ⟨right.env, right.mounts⟩
    · rw [spec]
      exact restoredInitContainers_iff.mpr right.initContainers
    · rw [spec]
      exact restoredVolumes_iff.mpr right.volumes
    · rw [spec]
      exact restoredShare
    · rw [spec]
      exact restoredAutomount
    · rfl
    · rfl
    · rw [spec]
      rfl

/-- A review gives the pod that is meant exactly for the pods that it is right
for. -/
theorem review_intended_iff :
    review e pod = some (intended e pod) ↔
      if e.isTrue "REMOVE_INJECTED_DATA" then RemovesCleanly e pod
      else InjectsCleanly e pod := by
  split
  · rename_i on
    exact removal_intended_iff on
  · rename_i off
    exact injection_intended_iff (by simpa using off)

/-- The variables of the port and of the number of workers are configured. -/
def removingPorts : Environment :=
  { unset with
    getenv := fun name =>
      if name = "REMOVE_INJECTED_DATA" then some "true"
      else if name = "CONFIG_PORT" then some "8080"
      else if name = "CONCURRENCY_NUMBER" then some "2"
      else none }

/-- A proxy with the two variables in the other order, and one of its own. -/
def portsPod : Pod :=
  { proxyPod with
    spec := { proxyPod.spec with
      containers := some
        [{ name := "istio-proxy", image := some "proxyv2"
           env := some [envVar "CONCURRENCY_NUMBER" "2",
             envVar "CONFIG_PORT" "8080", envVar "HOME" "/root"]
           volumeMounts := some [], rest := [] }] } }

/-- A pod without annotations gets a patch that does not apply, and a removal
takes out a variable of the proxy's own. -/
theorem review_not_intended :
    let names := fun pod : Pod => (pod.spec.containers.getD []).map
      fun container => (container.env.getD []).map EnvVar.name
    (review unset { proxyPod with annotations := none }).isNone = true ∧
      (review removingPorts portsPod).map names = some [["CONFIG_PORT"]] ∧
      names (intended removingPorts portsPod) = [["HOME"]] := by
  decide +kernel

end OpenAppsec.Webhook
