import OpenAppsec.Configuration.ArchiveLookups
import OpenAppsec.Configuration.HttpConfiguration

/-!
# What a configuration file says

Loading a document gives each setting what its name stands for among the
members of the document, as long as the sources are a list of strings.  A
failure inside of that list leaves the archive there, and all settings behind
it are looked up in the wrong node.
-/

namespace OpenAppsec

open Cereal Cereal.JSONInputArchive

/-- A reading that depends on the members of the last node only, and comes back
to it. -/
def Finds {α : Type} (load : Reading α)
    (value : List (String × JsonValue) → Option α) : Prop :=
  ∀ archive : JSONInputArchive, archive.iteratorStack ≠ [] →
    (load archive).1 = value archive.scope ∧
      (load archive).2.nodes = archive.nodes

theorem iteratorStack_ne_nil {before after : JSONInputArchive}
    (same : after.nodes = before.nodes) (stack : before.iteratorStack ≠ []) :
    after.iteratorStack ≠ [] := by
  intro empty
  rw [nodes, empty, nodes] at same
  exact stack (List.map_eq_nil_iff.mp same.symm)

namespace Finds

variable {α β : Type} {load : Reading α}
variable {value : List (String × JsonValue) → Option α}

theorem pure (result : α) :
    Finds (fun archive => (some result, archive)) (fun _ => some result) :=
  fun _ _ => ⟨rfl, rfl⟩

theorem ofReadsOne {take : JsonValue → Option α} (reads : ReadsOne load take)
    (name : String) :
    Finds (loadNvp name load) (fun members => (lookup name members).bind take) :=
  fun _ stack => reads.named name stack

theorem andThen (finds : Finds load value) {next : α → Reading β}
    {nextValue : α → List (String × JsonValue) → Option β}
    (nextFinds : ∀ result, Finds (next result) (nextValue result)) :
    Finds (load.andThen next)
      (fun members => (value members).bind fun result =>
        nextValue result members) := by
  intro archive stack
  obtain ⟨found, same⟩ := finds archive stack
  dsimp only
  rw [← found, Reading.andThen]
  rcases loaded : load archive with ⟨_ | result, after⟩
  · rw [loaded] at same
    exact ⟨rfl, same⟩
  · rw [loaded] at same
    obtain ⟨nextFound, nextSame⟩ :=
      nextFinds result after (iteratorStack_ne_nil same stack)
    rw [scope_congr same] at nextFound
    exact ⟨nextFound, nextSame.trans same⟩

end Finds

theorem finds_string (name : String) :
    Finds (loadNvp name loadString)
      (fun members => (lookup name members).bind JsonValue.asString) :=
  .ofReadsOne loadString_readsOne name

theorem finds_uint (name : String) :
    Finds (loadNvp name loadUint)
      (fun members => (lookup name members).bind JsonValue.asUint) :=
  .ofReadsOne loadUint_readsOne name

/-- The values of a debug context, if all of them are there. -/
def DebugConfig.read (members : List (String × JsonValue)) :
    Option DebugConfig := do
  let client ← (lookup "clientIp" members).bind JsonValue.asString
  let server ← (lookup "listeningIp" members).bind JsonValue.asString
  let uri ← (lookup "uriPrefix" members).bind JsonValue.asString
  let host ← (lookup "hostName" members).bind JsonValue.asString
  let method ← (lookup "httpMethod" members).bind JsonValue.asString
  let port ← (lookup "listeningPort" members).bind JsonValue.asUint
  some { client, server, port, method, host, uri }

theorem DebugConfig.loadValues_finds :
    Finds DebugConfig.loadValues DebugConfig.read :=
  (finds_string _).andThen fun _ => (finds_string _).andThen fun _ =>
    (finds_string _).andThen fun _ => (finds_string _).andThen fun _ =>
      (finds_string _).andThen fun _ => (finds_uint _).andThen fun _ =>
        .pure _

namespace DebugConfig

theorem load_eq {archive : JSONInputArchive}
    (stack : archive.iteratorStack ≠ []) :
    (load archive).1 = (read archive.scope).getD default ∧
      (load archive).2.nodes = archive.nodes := by
  obtain ⟨found, same⟩ := loadValues_finds archive stack
  exact ⟨congrArg (Option.getD · default) found, same⟩

theorem loadNode_entered {entered : JSONInputArchive} {node : Iterator}
    {rest : List Iterator} (stack : entered.iteratorStack = node :: rest) :
    (load entered).1 = (read node.members).getD default ∧
      (load entered).2.finishNode.nodes = rest.map Iterator.rewind := by
  obtain ⟨found, same⟩ :=
    @load_eq entered (by rw [stack]; exact List.cons_ne_nil _ _)
  rw [scope_eq stack] at found
  refine ⟨found, ?_⟩
  rw [nodes_finishNode, same, nodes, stack, List.map_cons, List.tail_cons]

theorem loadNode_finds (name : String) :
    Finds (loadNvp name loadNode)
      (fun members => ((lookup name members).bind JsonValue.nodeMembers).map
        fun values => (read values).getD default) := by
  intro archive stack
  obtain ⟨back, rest, stackEq⟩ := List.exists_cons_of_ne_nil stack
  obtain ⟨here, sameNode, started⟩ := startNode_named name stackEq
  have nodes : (here :: rest).map Iterator.rewind = archive.nodes := by
    rw [JSONInputArchive.nodes, stackEq, List.map_cons, sameNode,
      List.map_cons]
  rw [← nodes]
  simp only [loadNode, loadNvp_startNode, Reading.andThen]
  split at started
  · rename_i values looked
    rw [started.2, looked]
    obtain ⟨found, same⟩ := @loadNode_entered
      ⟨archive.document, none, .value values 0 :: here :: rest⟩ _ _ rfl
    exact ⟨congrArg some found, same⟩
  · rename_i members looked
    rw [started.2, looked]
    obtain ⟨found, same⟩ := @loadNode_entered
      ⟨archive.document, none, .member members 0 :: here :: rest⟩ _ _ rfl
    exact ⟨congrArg some found, same⟩
  · rename_i noArray noObject
    obtain ⟨nextName, started⟩ := started
    rw [started]
    cases looked : lookup name archive.scope with
    | none => exact ⟨rfl, rfl⟩
    | some found =>
        cases found with
        | array values => exact absurd looked (noArray values)
        | object members => exact absurd looked (noObject members)
        | null => exact ⟨rfl, rfl⟩
        | bool value => exact ⟨rfl, rfl⟩
        | uint number => exact ⟨rfl, rfl⟩
        | otherNumber => exact ⟨rfl, rfl⟩
        | string text => exact ⟨rfl, rfl⟩

/-- The debug context of a document. -/
def readNode (root : List (String × JsonValue)) : DebugConfig :=
  (((lookup "context_values" root).bind JsonValue.nodeMembers).bind read).getD
    default

theorem getD_loaded (root : List (String × JsonValue)) :
    (((lookup "context_values" root).bind JsonValue.nodeMembers).map
        fun values => (read values).getD default).getD default =
      readNode root := by
  rw [readNode]
  cases (lookup "context_values" root).bind JsonValue.nodeMembers with
  | none => rfl
  | some values => rfl

end DebugConfig

namespace HttpAttachmentConfiguration

/-- The members that the settings are looked up in: those of the document,
unless the sources are an array of other values than strings, or no array. -/
def settings (root : List (String × JsonValue)) : List (String × JsonValue) :=
  match lookup "ip_ranges" root with
  | some (.array values) =>
      if (values.mapM JsonValue.asString).isSome then root else []
  | some (.object members) => members
  | _ => root

/-- Where the archive is when the sources were read. -/
theorem scope_vectorNodes {archive : JSONInputArchive} {root : Iterator}
    (left : archive.nodes =
      vectorNodes (lookup "ip_ranges" root.members) [root.rewind]) :
    archive.iteratorStack ≠ [] ∧ archive.scope = settings root.members := by
  suffices entered : ∃ node rest, archive.nodes = node :: rest ∧
      node.members = settings root.members by
    obtain ⟨node, rest, nodes, members⟩ := entered
    constructor
    · intro empty
      rw [JSONInputArchive.nodes, empty] at nodes
      exact List.cons_ne_nil _ _ nodes.symm
    · rw [scope, nodes, ← members]
      rfl
  rw [left, settings]
  have same := root.members_rewind
  cases lookup "ip_ranges" root.members with
  | none => exact ⟨_, _, rfl, same⟩
  | some found =>
      cases found with
      | array values =>
          rw [vectorNodes]
          dsimp only
          split
          · exact ⟨_, _, rfl, same⟩
          · exact ⟨_, _, rfl, rfl⟩
      | object members => exact ⟨_, _, rfl, rfl⟩
      | null => exact ⟨_, _, rfl, same⟩
      | bool value => exact ⟨_, _, rfl, same⟩
      | uint number => exact ⟨_, _, rfl, same⟩
      | otherNumber => exact ⟨_, _, rfl, same⟩
      | string text => exact ⟨_, _, rfl, same⟩

/-- The keys that are strings. -/
def stringKeys : List String :=
  ["static_resources_path", "sessions_per_minute_limit_verdict"]

theorem mem_stringKeys {key : String} :
    key ∈ stringKeys ↔
      key = "static_resources_path" ∨
        key = "sessions_per_minute_limit_verdict" := by
  rw [stringKeys, List.mem_cons, List.mem_singleton]

/-- What the members of a document make of a configuration. -/
def read (cpAsyncMode : Option String) (root : List (String × JsonValue))
    (config : HttpAttachmentConfiguration) : HttpAttachmentConfiguration where
  dbg := .readNode root
  numericalValues key :=
    match (numericalDefaults cpAsyncMode).lookup key with
    | some value =>
        some (((lookup key (settings root)).bind JsonValue.asUint).getD value)
    | none => config.numericalValues key
  stringValues key :=
    if key ∈ stringKeys then
      (lookup key (settings root)).bind JsonValue.asString
    else config.stringValues key
  excludeSources := ((lookup "ip_ranges" root).bind JsonValue.asStrings).getD []

/-- The numbers that are loaded one after the other, each of them once. -/
theorem foldl_loadNumericalValue (defaults : List (String × BitVec 32))
    (distinct : (defaults.map Prod.fst).Nodup)
    (config : HttpAttachmentConfiguration) (archive : JSONInputArchive)
    (stack : archive.iteratorStack ≠ []) :
    (defaults.foldl loadNumericalValue (config, archive)).1 =
      { config with
        numericalValues := fun key =>
          match defaults.lookup key with
          | some value => some
              (((lookup key archive.scope).bind JsonValue.asUint).getD value)
          | none => config.numericalValues key } := by
  induction defaults generalizing config archive with
  | nil => rfl
  | cons setting defaults induction =>
      obtain ⟨name, value⟩ := setting
      rw [List.map_cons, List.nodup_cons] at distinct
      obtain ⟨found, same⟩ := finds_uint name archive stack
      rw [List.foldl_cons, loadNumericalValue,
        induction distinct.2 _ _ (iteratorStack_ne_nil same stack),
        scope_congr same, found]
      congr 1
      funext key
      by_cases here : key = name
      · subst here
        have absent : defaults.lookup key = none := by
          rw [List.lookup_eq_none_iff]
          intro setting member
          rw [bne_iff_ne]
          intro same
          exact distinct.1 (List.mem_map.mpr ⟨setting, member, same.symm⟩)
        rw [absent, List.lookup_cons_self]
        exact Function.update_self _ _ _
      · rw [List.lookup_cons, beq_false_of_ne here]
        cases defaults.lookup key with
        | some other => rfl
        | none => exact Function.update_of_ne here _ _

theorem numericalDefaults_nodup (cpAsyncMode : Option String) :
    ((numericalDefaults cpAsyncMode).map Prod.fst).Nodup := by
  simp only [numericalDefaults, List.map_cons, List.map_nil]
  decide

theorem loadStringValue_eq (name : String)
    (state : HttpAttachmentConfiguration × JSONInputArchive)
    (stack : state.2.iteratorStack ≠ []) :
    (loadStringValue name state).1 =
        { state.1 with
          stringValues := Function.update state.1.stringValues name
            ((lookup name state.2.scope).bind JsonValue.asString) } ∧
      (loadStringValue name state).2.nodes = state.2.nodes := by
  obtain ⟨found, same⟩ := finds_string name state.2 stack
  rw [loadStringValue, found]
  exact ⟨rfl, same⟩

/-- Both strings, which are looked up in the same members. -/
theorem loadStringValues_eq (config : HttpAttachmentConfiguration)
    (archive : JSONInputArchive) (stack : archive.iteratorStack ≠ []) :
    let texts := loadStringValue "sessions_per_minute_limit_verdict"
      (loadStringValue "static_resources_path" (config, archive))
    texts.1 =
        { config with
          stringValues := fun key =>
            if key ∈ stringKeys then
              (lookup key archive.scope).bind JsonValue.asString
            else config.stringValues key } ∧
      texts.2.nodes = archive.nodes := by
  obtain ⟨path, pathNodes⟩ :=
    loadStringValue_eq "static_resources_path" (config, archive) stack
  obtain ⟨verdict, verdictNodes⟩ :=
    loadStringValue_eq "sessions_per_minute_limit_verdict"
      (loadStringValue "static_resources_path" (config, archive))
      (iteratorStack_ne_nil pathNodes stack)
  refine ⟨?_, verdictNodes.trans pathNodes⟩
  rw [verdict, scope_congr pathNodes, path]
  refine congrArg (fun stringValues => { config with stringValues }) ?_
  funext key
  change Function.update (Function.update config.stringValues _ _) _ _ key = _
  rw [Function.update_apply, Function.update_apply]
  by_cases isVerdict : key = "sessions_per_minute_limit_verdict"
  · rw [if_pos isVerdict, if_pos (mem_stringKeys.mpr (.inr isVerdict)),
      isVerdict]
  · rw [if_neg isVerdict]
    by_cases isPath : key = "static_resources_path"
    · rw [if_pos isPath, if_pos (mem_stringKeys.mpr (.inl isPath)), isPath]
    · rw [if_neg isPath,
        if_neg (mem_stringKeys.not.mpr (not_or.mpr ⟨isPath, isVerdict⟩))]

theorem loadSettings_eq (cpAsyncMode : Option String)
    (config : HttpAttachmentConfiguration) (archive : JSONInputArchive)
    (stack : archive.iteratorStack ≠ []) :
    ((numericalDefaults cpAsyncMode).foldl loadNumericalValue
        (loadStringValue "sessions_per_minute_limit_verdict"
          (loadStringValue "static_resources_path" (config, archive)))).1 =
      { config with
        stringValues := fun key =>
          if key ∈ stringKeys then
            (lookup key archive.scope).bind JsonValue.asString
          else config.stringValues key
        numericalValues := fun key =>
          match (numericalDefaults cpAsyncMode).lookup key with
          | some value => some
              (((lookup key archive.scope).bind JsonValue.asUint).getD value)
          | none => config.numericalValues key } := by
  obtain ⟨texts, textsNodes⟩ := loadStringValues_eq config archive stack
  have numbers := foldl_loadNumericalValue (numericalDefaults cpAsyncMode)
    (numericalDefaults_nodup cpAsyncMode)
    (loadStringValue "sessions_per_minute_limit_verdict"
      (loadStringValue "static_resources_path" (config, archive))).1
    _ (iteratorStack_ne_nil textsNodes stack)
  rw [texts, scope_congr textsNodes] at numbers
  rw [← numbers, ← texts]

theorem load_read (cpAsyncMode : Option String) (archive : JSONInputArchive)
    (config : HttpAttachmentConfiguration) {root : Iterator}
    (stack : archive.iteratorStack = [root]) :
    (config.load cpAsyncMode archive).1 =
      config.read cpAsyncMode root.members := by
  have notEmpty : archive.iteratorStack ≠ [] := by
    rw [stack]
    exact List.cons_ne_nil _ _
  have nodes : archive.nodes = [root.rewind] := by
    rw [JSONInputArchive.nodes, stack, List.map_singleton]
  obtain ⟨dbg, dbgNodes⟩ :=
    DebugConfig.loadNode_finds "context_values" archive notEmpty
  obtain ⟨sources, sourcesNodes⟩ := loadVector_named "ip_ranges"
    (iteratorStack_ne_nil dbgNodes notEmpty)
  rw [scope_congr dbgNodes, scope_eq stack] at sources sourcesNodes
  rw [scope_eq stack] at dbg
  rw [dbgNodes, nodes] at sourcesNodes
  obtain ⟨inside, scope⟩ := scope_vectorNodes sourcesNodes
  simp only [load, Reading.orElse]
  rw [loadSettings_eq _ _ _ inside, scope, sources, dbg, read,
    DebugConfig.getD_loaded]

end HttpAttachmentConfiguration

/-- Reading a configuration file succeeds whenever the document has nodes, and
gives every setting what its only member says if that has the right form, and
its default else; a string without such a member is erased.  The debug context
is all there or the default.  All settings are looked up in the document
itself, unless the sources are an array with another value than strings, or an
object: the settings are then looked up in that node.  Settings that are not
loaded stay as they are. -/
theorem configuration_read (cpAsyncMode : Option String)
    (document : JsonValue) (config : HttpAttachmentConfiguration) :
    config.init cpAsyncMode document =
      match document.nodeMembers with
      | some root => (true, config.read cpAsyncMode root)
      | none => (false, config) := by
  cases document with
  | array values =>
      exact congrArg (Prod.mk true)
        (@HttpAttachmentConfiguration.load_read cpAsyncMode
          ⟨.array values, none, [.value values 0]⟩ config _ rfl)
  | object members =>
      exact congrArg (Prod.mk true)
        (@HttpAttachmentConfiguration.load_read cpAsyncMode
          ⟨.object members, none, [.member members 0]⟩ config _ rfl)
  | null => rfl
  | bool value => rfl
  | uint number => rfl
  | otherNumber => rfl
  | string text => rfl

end OpenAppsec
