import Mathlib.Data.List.Nodup
import Mathlib.Data.List.TakeWhile
import OpenAppsec.Configuration.ConfigurationFiles

/-!
# Configurations that are written and read

What the agent writes is what an attachment reads, up to the ends of the
strings, but for one name that stands for a string and for a number.
-/

namespace OpenAppsec

open Cereal

/-- A member is found if the names differ and have no zero character. -/
theorem lookup_of_mem {members : List (String × JsonValue)}
    {names : List String} (named : members.map Prod.fst = names)
    (plain : ∀ name ∈ names, cString name = name) (distinct : names.Nodup)
    {name : String} {value : JsonValue} (member : (name, value) ∈ members) :
    lookup name members = some value := by
  subst named
  obtain ⟨before, after, rfl⟩ := List.append_of_mem member
  have others : ∀ other ∈ before ++ after, cString other.1 ≠ name := by
    intro other otherMember
    rw [plain other.1 (List.mem_map_of_mem (by grind))]
    rw [List.map_append, List.map_cons, List.nodup_middle,
      ← List.map_append, List.nodup_cons] at distinct
    rintro rfl
    exact distinct.1 (List.mem_map.mpr ⟨other, otherMember, rfl⟩)
  have filtered : (before ++ (name, value) :: after).filter
      (fun member => cString member.1 = name) = [(name, value)] := by
    rw [List.filter_append, List.filter_eq_nil_iff.mpr,
      List.filter_cons_of_pos, List.filter_eq_nil_iff.mpr]
    · rfl
    · intro other otherMember
      simpa using others other (List.mem_append_right before otherMember)
    · simpa using plain name (List.mem_map_of_mem member)
    · intro other otherMember
      simpa using others other (List.mem_append_left after otherMember)
  rw [lookup, filtered]

theorem mapM_saved (texts : List String) :
    (texts.map JsonValue.string).mapM JsonValue.asString =
      some (texts.map cString) := by
  induction texts with
  | nil => rfl
  | cons text texts induction =>
      rw [List.map_cons, List.mapM_cons, induction]
      rfl

namespace DebugConfig

/-- The debug context as it is read. -/
def ended (config : DebugConfig) : DebugConfig where
  client := cString config.client
  server := cString config.server
  port := config.port
  method := cString config.method
  host := cString config.host
  uri := cString config.uri

theorem read_save (config : DebugConfig) :
    config.save.nodeMembers.bind read = some config.ended := by
  have found {name value} := @lookup_of_mem
    [("clientIp", .string config.client),
      ("listeningIp", .string config.server),
      ("uriPrefix", .string config.uri),
      ("hostName", .string config.host),
      ("httpMethod", .string config.method),
      ("listeningPort", .uint config.port)]
    ["clientIp", "listeningIp", "uriPrefix", "hostName", "httpMethod",
      "listeningPort"]
    rfl (by decide) (by decide) name value
  rw [save, JsonValue.nodeMembers, Option.bind_some, read,
    @found "clientIp" (.string config.client) (by simp),
    @found "listeningIp" (.string config.server) (by simp),
    @found "uriPrefix" (.string config.uri) (by simp),
    @found "hostName" (.string config.host) (by simp),
    @found "httpMethod" (.string config.method) (by simp),
    @found "listeningPort" (.uint config.port) (by simp)]
  rfl

end DebugConfig

namespace HttpAttachmentConfiguration

/-- The settings in the order of the file, and whether they are texts. -/
def savedSettings : List (String × Bool) :=
  [("dbg_level", false),
    ("static_resources_path", true),
    ("is_fail_open_mode_enabled", false),
    ("fail_open_timeout", false),
    ("is_fail_open_mode_hold_enabled", false),
    ("fail_open_hold_timeout", false),
    ("sessions_per_minute_limit_verdict", true),
    ("max_sessions_per_minute", false),
    ("res_proccessing_timeout_msec", false),
    ("req_proccessing_timeout_msec", false),
    ("transaction_entry_timeout_minutes", false),
    ("registration_thread_timeout_msec", false),
    ("req_header_thread_timeout_msec", false),
    ("req_body_thread_timeout_msec", false),
    ("res_header_thread_timeout_msec", false),
    ("res_body_thread_timeout_msec", false),
    ("waiting_for_verdict_thread_timeout_msec", false),
    ("nginx_inspection_mode", false),
    ("num_of_nginx_ipc_elements", false),
    ("keep_alive_interval_msec", false),
    ("min_retries_for_verdict", false),
    ("max_retries_for_verdict", false),
    ("hold_verdict_retries", false),
    ("hold_verdict_polling_time", false),
    ("body_size_trigger", false),
    ("remove_server_header", false),
    ("decompression_pool_size", false),
    ("recompression_pool_size", false),
    ("is_paired_affinity_enabled", false),
    ("is_async_mode_enabled", false),
    ("is_brotli_inspection_enabled", false)]

variable (config : HttpAttachmentConfiguration)

def savedSetting (setting : String × Bool) : String × JsonValue :=
  if setting.2 then save.text config setting.1
  else save.number config setting.1

/-- The members of the document. -/
def savedMembers : List (String × JsonValue) :=
  ("context_values", config.dbg.save) ::
    ("ip_ranges", saveVector config.excludeSources) ::
    savedSettings.map (savedSetting config)

theorem save_eq : config.save = .object (savedMembers config) :=
  rfl

variable {config}

theorem lookup_saved {name : String} {value : JsonValue}
    (member : (name, value) ∈ savedMembers config) :
    lookup name (savedMembers config) = some value := by
  have named : (savedMembers config).map Prod.fst =
      "context_values" :: "ip_ranges" :: savedSettings.map Prod.fst :=
    rfl
  exact lookup_of_mem named (by decide) (by decide +kernel) member

theorem lookup_savedSetting {name : String} {isText : Bool}
    (setting : (name, isText) ∈ savedSettings) :
    lookup name (savedMembers config) =
      some (savedSetting config (name, isText)).2 := by
  have member : savedSetting config (name, isText) ∈ savedMembers config :=
    List.mem_cons_of_mem _ (List.mem_cons_of_mem _
      (List.mem_map_of_mem setting))
  cases isText <;> exact lookup_saved member

/-- All members are found where the document begins. -/
theorem settings_saved :
    settings (savedMembers config) = savedMembers config := by
  have found : lookup "ip_ranges" (savedMembers config) =
      some (saveVector config.excludeSources) :=
    lookup_saved (List.mem_cons_of_mem _ List.mem_cons_self)
  rw [settings, found, saveVector]
  dsimp only
  rw [mapM_saved]
  exact if_pos rfl

/-- The keys that are numbers. -/
def numericalKeys : List String :=
  (numericalDefaults none).map Prod.fst

/-- The value that is read for a number that was written: the key that is
written as a string falls back to its default. -/
def writtenNumber (config : HttpAttachmentConfiguration) (key : String) :
    BitVec 32 :=
  if key = "sessions_per_minute_limit_verdict" then 0
  else config.getNumericalValue key

/-- A configuration with the values that were written for another one. -/
def written (config before : HttpAttachmentConfiguration) :
    HttpAttachmentConfiguration where
  dbg := config.dbg.ended
  numericalValues key :=
    if key ∈ numericalKeys then some (config.writtenNumber key)
    else before.numericalValues key
  stringValues key :=
    if key ∈ stringKeys then some (cString (config.getStringValue key))
    else before.stringValues key
  excludeSources := config.excludeSources.map cString

theorem lookup_numericalDefaults (cpAsyncMode : Option String) (key : String) :
    ((numericalDefaults cpAsyncMode).lookup key).isSome ↔
      key ∈ numericalKeys := by
  have sameKeys : numericalKeys = (numericalDefaults cpAsyncMode).map Prod.fst :=
    rfl
  rw [sameKeys, List.lookup_isSome_iff, List.mem_map]
  constructor
  · rintro ⟨setting, member, same⟩
    exact ⟨setting, member, (beq_iff_eq.mp same).symm⟩
  · rintro ⟨setting, member, same⟩
    exact ⟨setting, member, beq_iff_eq.mpr same.symm⟩

/-- Every number but one is written as a number. -/
theorem numericalKeys_saved :
    ∀ key ∈ numericalKeys, key ≠ "sessions_per_minute_limit_verdict" →
      (key, false) ∈ savedSettings := by
  decide

theorem read_number (cpAsyncMode : Option String) {key : String}
    {value : BitVec 32}
    (listed : (numericalDefaults cpAsyncMode).lookup key = some value) :
    ((lookup key (savedMembers config)).bind JsonValue.asUint).getD value =
      config.writtenNumber key := by
  rw [writtenNumber]
  by_cases isVerdict : key = "sessions_per_minute_limit_verdict"
  · subst isVerdict
    rw [if_pos rfl, @lookup_savedSetting config _ true (by decide)]
    exact (Option.some_inj.mp listed).symm
  · have member := (lookup_numericalDefaults cpAsyncMode key).mp
      (by rw [listed]; rfl)
    rw [if_neg isVerdict,
      lookup_savedSetting (numericalKeys_saved key member isVerdict)]
    rfl

theorem stringKeys_saved :
    ∀ key ∈ stringKeys, (key, true) ∈ savedSettings := by
  decide

theorem read_text {key : String} (member : key ∈ stringKeys) :
    (lookup key (savedMembers config)).bind JsonValue.asString =
      some (cString (config.getStringValue key)) := by
  rw [lookup_savedSetting (stringKeys_saved key member)]
  rfl

theorem readNode_saved :
    DebugConfig.readNode (savedMembers config) = config.dbg.ended := by
  rw [DebugConfig.readNode, @lookup_saved config "context_values" config.dbg.save
    List.mem_cons_self, Option.bind_some, DebugConfig.read_save]
  rfl

theorem readSources_saved :
    ((lookup "ip_ranges" (savedMembers config)).bind
        JsonValue.asStrings).getD [] =
      config.excludeSources.map cString := by
  rw [@lookup_saved config "ip_ranges" (saveVector config.excludeSources)
      (List.mem_cons_of_mem _ List.mem_cons_self),
    Option.bind_some, saveVector, JsonValue.asStrings, mapM_saved,
    Option.getD_some]

theorem read_saved (cpAsyncMode : Option String)
    (config before : HttpAttachmentConfiguration) :
    before.read cpAsyncMode (savedMembers config) = config.written before := by
  rw [read, written, settings_saved, readNode_saved, readSources_saved]
  congr 1
  · funext key
    have listed := lookup_numericalDefaults cpAsyncMode key
    cases found : (numericalDefaults cpAsyncMode).lookup key with
    | none =>
        rw [found] at listed
        rw [if_neg (listed.not.mp Bool.false_ne_true)]
    | some value =>
        rw [found] at listed
        rw [if_pos (listed.mp rfl)]
        exact congrArg some (read_number cpAsyncMode found)
  · funext key
    by_cases member : key ∈ stringKeys
    · rw [if_pos member, if_pos member, read_text member]
    · rw [if_neg member, if_neg member]

end HttpAttachmentConfiguration

/-- Reading what was written for a configuration gives its values, whatever
was there before and whatever the environment says: the debug context, the
sources and both strings up to their zero characters, and every number except
the limit verdict, whose name is written with its string and read as zero. -/
theorem configuration_round_trip (cpAsyncMode : Option String)
    (config before : HttpAttachmentConfiguration) :
    before.init cpAsyncMode config.save = (true, config.written before) := by
  rw [configuration_read, HttpAttachmentConfiguration.save_eq]
  exact congrArg (Prod.mk true)
    (HttpAttachmentConfiguration.read_saved cpAsyncMode config before)

theorem cString_eq_iff (text : String) :
    cString text = text ↔ '\x00' ∉ text.toList := by
  rw [cString, ← String.toList_inj, String.toList_ofList,
    List.takeWhile_eq_self_iff]
  constructor
  · intro kept zero
    exact absurd rfl (of_decide_eq_true (kept _ zero))
  · intro absent letter member
    exact decide_eq_true fun zero => absent (zero ▸ member)

namespace HttpAttachmentConfiguration

/-- All strings of a configuration. -/
def texts (config : HttpAttachmentConfiguration) : List String :=
  [config.dbg.client, config.dbg.server, config.dbg.method, config.dbg.host,
    config.dbg.uri] ++ config.excludeSources ++
    stringKeys.map config.getStringValue

theorem ended_eq_iff (dbg : DebugConfig) :
    dbg.ended = dbg ↔
      ∀ text ∈ [dbg.client, dbg.server, dbg.method, dbg.host, dbg.uri],
        cString text = text := by
  simp only [DebugConfig.ext_iff, DebugConfig.ended, List.forall_mem_cons,
    true_and]
  simp

variable (config : HttpAttachmentConfiguration)

theorem getD_eq_iff {α : Type} (found : Option α) (value : α) :
    some (found.getD value) = found ↔ found.isSome := by
  cases found with
  | none => exact ⟨nofun, nofun⟩
  | some other => exact ⟨fun _ => rfl, fun _ => rfl⟩

theorem numbers_eq_iff :
    (config.written config).numericalValues = config.numericalValues ↔
      (∀ key ∈ numericalKeys, (config.numericalValues key).isSome) ∧
        config.getNumericalValue "sessions_per_minute_limit_verdict" = 0 := by
  have verdictKey : "sessions_per_minute_limit_verdict" ∈ numericalKeys := by
    decide
  simp only [written, funext_iff]
  constructor
  · intro same
    have verdict := same "sessions_per_minute_limit_verdict"
    rw [if_pos verdictKey, writtenNumber, if_pos rfl] at verdict
    refine ⟨fun key member => ?_, ?_⟩
    · rw [← same key, if_pos member]
      rfl
    · rw [getNumericalValue, ← verdict]
      rfl
  · rintro ⟨present, verdict⟩ key
    by_cases member : key ∈ numericalKeys
    · rw [if_pos member, writtenNumber]
      split
      · rename_i isVerdict
        subst isVerdict
        rw [← verdict]
        exact (getD_eq_iff _ _).mpr (present _ member)
      · exact (getD_eq_iff _ _).mpr (present _ member)
    · rw [if_neg member]

theorem strings_eq_iff :
    (config.written config).stringValues = config.stringValues ↔
      (∀ key ∈ stringKeys, (config.stringValues key).isSome) ∧
        ∀ text ∈ stringKeys.map config.getStringValue, cString text = text := by
  simp only [written, funext_iff, List.forall_mem_map]
  constructor
  · intro same
    have saved key (member : key ∈ stringKeys) :
        some (cString (config.getStringValue key)) = config.stringValues key := by
      rw [← same key, if_pos member]
    refine ⟨fun key member => ?_, fun key member => ?_⟩
    · rw [← saved key member]
      rfl
    · exact congrArg (Option.getD · "") (saved key member)
  · rintro ⟨present, ended⟩ key
    by_cases member : key ∈ stringKeys
    · rw [if_pos member, ended key member]
      exact (getD_eq_iff _ _).mpr (present key member)
    · rw [if_neg member]

theorem sources_eq_iff (sources : List String) :
    sources.map cString = sources ↔ ∀ text ∈ sources, cString text = text := by
  rw [← List.map_inj_left, List.map_id']

theorem written_eq_iff :
    config.written config = config ↔
      (∀ text ∈ config.texts, '\x00' ∉ text.toList) ∧
        (∀ key ∈ stringKeys, (config.stringValues key).isSome) ∧
        (∀ key ∈ numericalKeys, (config.numericalValues key).isSome) ∧
        config.getNumericalValue "sessions_per_minute_limit_verdict" = 0 := by
  simp only [← cString_eq_iff, texts, List.forall_mem_append]
  rw [HttpAttachmentConfiguration.ext_iff, numbers_eq_iff, strings_eq_iff,
    ← ended_eq_iff, ← sources_eq_iff config.excludeSources]
  constructor
  · rintro ⟨dbg, numbers, strings, sources⟩
    exact ⟨⟨⟨dbg, sources⟩, strings.2⟩, strings.1, numbers⟩
  · rintro ⟨⟨⟨dbg, sources⟩, ended⟩, strings, numbers⟩
    exact ⟨dbg, numbers, ⟨strings, ended⟩, sources⟩

end HttpAttachmentConfiguration

/-- A configuration reads itself from its own file exactly when none of its
strings has a zero character, all keys that are loaded are there, and the limit
verdict is zero as a number. -/
theorem configuration_same_iff (cpAsyncMode : Option String)
    (config : HttpAttachmentConfiguration) :
    config.init cpAsyncMode config.save = (true, config) ↔
      (∀ text ∈ config.texts, '\x00' ∉ text.toList) ∧
        (∀ key ∈ HttpAttachmentConfiguration.stringKeys,
          (config.stringValues key).isSome) ∧
        (∀ key ∈ HttpAttachmentConfiguration.numericalKeys,
          (config.numericalValues key).isSome) ∧
        config.getNumericalValue "sessions_per_minute_limit_verdict" = 0 := by
  rw [configuration_read, HttpAttachmentConfiguration.save_eq]
  dsimp only [JsonValue.nodeMembers]
  rw [HttpAttachmentConfiguration.read_saved, Prod.mk.injEq,
    HttpAttachmentConfiguration.written_eq_iff]
  exact ⟨And.right, And.intro rfl⟩

end OpenAppsec
