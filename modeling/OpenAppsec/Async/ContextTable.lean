import Mathlib.Data.Fintype.Card
import Mathlib.Data.List.FinRange
import OpenAppsec.Async.Processing
import OpenAppsec.Library.IntrusiveList
import OpenAppsec.Library.Trace

/-!
# The table of contexts

Contexts are found by session id in a hash table whose buckets are chained
through the contexts themselves.  The memory of the contexts is kept as one
function for each field that the table reads.
-/

namespace OpenAppsec.Async

open IntrusiveList (Path)

variable {ctx : CtxPtr}

/-- A pointer to a context, other than `NULL`. -/
@[ext] structure CtxPtr where
  address : BitVec 64
  nonNull : address ≠ 0
  deriving DecidableEq

/-- `CP_ASYNC_CTX_BUCKETS`. -/
abbrev cpAsyncCtxBuckets : Nat := 2048

/-- `cp_async_ctx_hash`. -/
def cpAsyncCtxHash (sessionId : BitVec 32) : Fin cpAsyncCtxBuckets :=
  Fin.ofNat cpAsyncCtxBuckets (sessionId * 2654435761#32).toNat

/-- The stages in which a context waits for its body. -/
def Stage.OfBody (stage : Stage) : Prop :=
  stage = .body ∨ stage = .waitBodyVerdict

instance (stage : Stage) : Decidable stage.OfBody :=
  inferInstanceAs (Decidable (_ ∨ _))

/-- The table and the memory of the contexts.  `live` tells whether the events
of a context still refer to it, and `added` counts the calls of `addCtx`: no
loop over a chain takes more rounds. -/
structure ContextTable where
  sessionId : CtxPtr → BitVec 32
  mapNext : CtxPtr → Option CtxPtr
  stage : CtxPtr → Stage
  live : CtxPtr → Bool
  ctxBuckets : Fin cpAsyncCtxBuckets → Option CtxPtr
  contextCount : UInt64
  isInitialized : Bool
  added : Nat

/-- The memory of a process that has just started. -/
def ContextTable.start : ContextTable :=
  { sessionId := fun _ => 0
    mapNext := fun _ => none
    stage := fun _ => .init
    live := fun _ => false
    ctxBuckets := fun _ => none
    contextCount := 0
    isInitialized := false
    added := 0 }

namespace ContextTable

/-- `ngx_cp_async_create_ctx`, given the memory of `ngx_pcalloc` and whether
the handler that destroys the context can be added to the pool. -/
def createCtx (ngxPcalloc : Option CtxPtr) (cleanupAdded : Bool)
    (sessionId : BitVec 32) (table : ContextTable) :
    Option CtxPtr × ContextTable :=
  match ngxPcalloc with
  | none => (none, table)
  | some ctx =>
      (if cleanupAdded then some ctx else none,
        { table with
          sessionId := Function.update table.sessionId ctx sessionId
          mapNext := Function.update table.mapNext ctx none
          stage := Function.update table.stage ctx .init
          live := Function.update table.live ctx cleanupAdded })

/-- `ngx_cp_async_find_ctx`; `none` if the loop does not end. -/
def findCtx (sessionId : BitVec 32) (table : ContextTable) :
    Option (Option CtxPtr) :=
  IntrusiveList.find table.mapNext
    (fun current => table.sessionId current == sessionId) table.added
    (table.ctxBuckets (cpAsyncCtxHash sessionId))

/-- `ngx_cp_async_add_ctx`. -/
def addCtx (ctx : Option CtxPtr) (table : ContextTable) :
    NgxRc × ContextTable :=
  match ctx with
  | none => (.error, table)
  | some ctx =>
      let bucket := cpAsyncCtxHash (table.sessionId ctx)
      (.ok,
        { table with
          mapNext :=
            Function.update table.mapNext ctx (table.ctxBuckets bucket)
          ctxBuckets := Function.update table.ctxBuckets bucket (some ctx)
          contextCount := table.contextCount + 1
          added := table.added + 1 })

/-- The end of the loop of `ngx_cp_async_remove_ctx`. -/
def unlinkCtx (ctx : CtxPtr) (table : ContextTable) :
    IntrusiveList.Place CtxPtr → ContextTable
  | .absent => table
  | .first =>
      { table with
        ctxBuckets :=
          Function.update table.ctxBuckets
            (cpAsyncCtxHash (table.sessionId ctx)) (table.mapNext ctx)
        contextCount := table.contextCount - 1 }
  | .behind previous =>
      { table with
        mapNext :=
          Function.update table.mapNext previous (table.mapNext ctx)
        contextCount := table.contextCount - 1 }

/-- `ngx_cp_async_remove_ctx`; `none` if the loop does not end. -/
def removeCtx (ctx : Option CtxPtr) (table : ContextTable) :
    Option ContextTable :=
  match ctx with
  | none => some table
  | some ctx =>
      (IntrusiveList.locate table.mapNext ctx table.added none
        (table.ctxBuckets (cpAsyncCtxHash (table.sessionId ctx)))).map
          (table.unlinkCtx ctx)

/-- `ngx_cp_async_nullify_ctx_refs`. -/
def nullifyCtxRefs (ctx : CtxPtr) (table : ContextTable) : ContextTable :=
  { table with live := Function.update table.live ctx false }

/-- `ngx_cp_async_destroy_ctx`. -/
def destroyCtx (ctx : Option CtxPtr) (table : ContextTable) :
    Option ContextTable :=
  match ctx with
  | none => some table
  | some ctx => (table.nullifyCtxRefs ctx).removeCtx (some ctx)

/-- Nginx frees requests, and their pools destroy the contexts. -/
def destroyCtxs : List CtxPtr → ContextTable → Option ContextTable
  | [], table => some table
  | ctx :: ctxs, table => (table.destroyCtx (some ctx)).bind (destroyCtxs ctxs)

/-- Another function moves a context to a stage. -/
def setStage (ctx : CtxPtr) (stage : Stage) (table : ContextTable) :
    ContextTable :=
  { table with stage := Function.update table.stage ctx stage }

section Cleanup

variable (failOpen : Bool) (released : CtxPtr → List CtxPtr)

/-- What the event handler does with a context that
`ngx_cp_async_cleanup_impl` has prepared.  It ignores a context that is
destroyed, and it leaves a body that goes on to its resume event.  Nginx may
free the requests of the contexts `released ctx` before it returns. -/
def eventHandler (ctx : CtxPtr) (table : ContextTable) :
    Option ContextTable :=
  if table.live ctx = false then some table
  else
    let handled :=
      if failOpen = true ∧ table.stage ctx = .body then some table
      else table.destroyCtx (some ctx)
    handled.bind (destroyCtxs (released ctx))

/-- The body of the inner loop of `ngx_cp_async_cleanup_impl`.  A context is
valid unless its session id is zero. -/
def cleanupCtx (ctx : CtxPtr) (table : ContextTable) :
    Option ContextTable :=
  if table.sessionId ctx = 0 then table.destroyCtx (some ctx)
  else
    let stage := if (table.stage ctx).OfBody then .body else .complete
    (table.setStage ctx stage).eventHandler failOpen released ctx

/-- The inner loop of `ngx_cp_async_cleanup_impl`. -/
def cleanupChain : Nat → Option CtxPtr → ContextTable → Option ContextTable
  | _, none, table => some table
  | 0, some _, _ => none
  | rounds + 1, some ctx, table =>
      -- the next context is read before the handler runs
      let next := table.mapNext ctx
      (table.cleanupCtx failOpen released ctx).bind (cleanupChain rounds next)

def cleanupBuckets :
    List (Fin cpAsyncCtxBuckets) → ContextTable → Option ContextTable
  | [], table => some table
  | bucket :: buckets, table =>
      (table.cleanupChain failOpen released table.added
        (table.ctxBuckets bucket)).bind (cleanupBuckets buckets)

/-- `ngx_cp_async_cleanup_impl`. -/
def cleanupImpl (table : ContextTable) : Option ContextTable :=
  (table.cleanupBuckets failOpen released
    (List.finRange cpAsyncCtxBuckets)).map fun table =>
      { table with contextCount := 0, isInitialized := false }

end Cleanup

/-- `ngx_cp_async_init`. -/
def init (table : ContextTable) : ContextTable :=
  if table.isInitialized then table
  else
    { table with
      isInitialized := true
      ctxBuckets := fun _ => none
      contextCount := 0 }

end ContextTable

/-- The table, and the contexts that are registered: those that were added and
neither removed nor destroyed since. -/
structure Registry where
  table : ContextTable
  registered : List CtxPtr

def Registry.start : Registry :=
  { table := .start
    registered := [] }

inductive TableOp where
  | createCtx (ngxPcalloc : Option CtxPtr) (cleanupAdded : Bool)
      (sessionId : BitVec 32)
  | addCtx (ctx : Option CtxPtr)
  | removeCtx (ctx : Option CtxPtr)
  | destroyCtx (ctx : Option CtxPtr)
  | setStage (ctx : CtxPtr) (stage : Stage)
  | cleanupImpl (failOpen : Bool) (released : CtxPtr → List CtxPtr)
  | init

/-- One operation; `none` if one of its loops does not end. -/
def tableStep (registry : Registry) : TableOp → Option Registry
  | .createCtx ngxPcalloc cleanupAdded sessionId =>
      some { registry with
        table :=
          (registry.table.createCtx ngxPcalloc cleanupAdded sessionId).2 }
  | .addCtx ctx =>
      some
        { table := (registry.table.addCtx ctx).2
          registered := ctx.toList ++ registry.registered }
  | .removeCtx ctx =>
      (registry.table.removeCtx ctx).map fun table =>
        { table
          registered := registry.registered.diff ctx.toList }
  | .destroyCtx ctx =>
      (registry.table.destroyCtx ctx).map fun table =>
        { table
          registered := registry.registered.diff ctx.toList }
  | .setStage ctx stage =>
      some { registry with table := registry.table.setStage ctx stage }
  | .cleanupImpl failOpen released =>
      (registry.table.cleanupImpl failOpen released).map fun table =>
        { table
          registered := registry.registered.filter table.live }
  | .init => some { registry with table := registry.table.init }

/-- Contexts that are not destroyed have memory and session ids of their own,
and a context is added once, to a table that is initialised. -/
def TableOp.Valid (registry : Registry) : TableOp → Prop
  | .createCtx ngxPcalloc _ sessionId =>
      (∀ ctx ∈ ngxPcalloc, registry.table.live ctx = false) ∧
        ∀ ctx, registry.table.live ctx = true →
          registry.table.sessionId ctx ≠ sessionId
  | .addCtx ctx =>
      registry.table.isInitialized = true ∧
        ∀ added ∈ ctx,
          registry.table.live added = true ∧ added ∉ registry.registered
  | _ => True

/-- A cleanup that does not leave the body of a context to the fail mode. -/
def TableOp.ClearsTable (registry : Registry) : TableOp → Prop
  | .cleanupImpl failOpen _ =>
      failOpen = false ∨
        ∀ ctx ∈ registry.registered, ¬(registry.table.stage ctx).OfBody
  | _ => True

/-- The chains hold only live contexts of their bucket and none twice, the
count is the number of contexts in them, and a search finds precisely what is
registered. -/
structure Registry.Consistent (registry : Registry) : Prop where
  chained : ∃ chains : Fin cpAsyncCtxBuckets → List CtxPtr,
    (∀ bucket, Path registry.table.mapNext
      (registry.table.ctxBuckets bucket) (chains bucket)) ∧
    (∀ bucket, ∀ ctx ∈ chains bucket,
      registry.table.live ctx = true ∧
        cpAsyncCtxHash (registry.table.sessionId ctx) = bucket) ∧
    ((List.finRange cpAsyncCtxBuckets).flatMap chains).Nodup ∧
    registry.table.contextCount.toNat =
      ((List.finRange cpAsyncCtxBuckets).flatMap chains).length
  found : ∀ sessionId, ∃ result,
    registry.table.findCtx sessionId = some result ∧
      ∀ ctx, result = some ctx ↔
        ctx ∈ registry.registered ∧ registry.table.sessionId ctx = sessionId

theorem CtxPtr.length_lt {ctxs : List CtxPtr} (distinct : ctxs.Nodup) :
    ctxs.length < 2 ^ 64 := by
  let addresses := ctxs.map fun ctx => ctx.address.toFin
  have distinctAddresses : addresses.Nodup := by
    apply distinct.map
    intro first second same
    exact CtxPtr.ext (BitVec.eq_of_toFin_eq same)
  have nonNull : (0 : Fin (2 ^ 64)) ∉ addresses := by
    intro member
    obtain ⟨ctx, -, isNull⟩ := List.mem_map.mp member
    exact ctx.nonNull (BitVec.eq_of_toFin_eq isNull)
  have fits :=
    (List.nodup_cons.mpr ⟨nonNull, distinctAddresses⟩).length_le_card
  rw [Fintype.card_fin, List.length_cons, List.length_map] at fits
  exact fits

variable {after : ContextTable}

namespace ContextTable

/-- The chains together hold the registered contexts. -/
structure Chained (table : ContextTable) (registered : List CtxPtr) :
    Prop where
  nodup : registered.Nodup
  chained : ∀ bucket, ∃ chain,
    Path table.mapNext (table.ctxBuckets bucket) chain ∧
      ∀ ctx, ctx ∈ chain ↔ ctx ∈ registered ∧
        cpAsyncCtxHash (table.sessionId ctx) = bucket
  bounded : registered.length ≤ table.added

/-- The registered contexts are live, and live contexts have session ids of
their own. -/
structure Represents (table : ContextTable) (registered : List CtxPtr) :
    Prop extends table.Chained registered where
  live : ∀ ctx ∈ registered, table.live ctx = true
  distinct : ∀ first second, table.live first = true →
    table.live second = true →
    table.sessionId first = table.sessionId second → first = second

theorem start_represents : start.Represents [] where
  nodup := List.nodup_nil
  live := nofun
  distinct := nofun
  chained _ := ⟨[], .nil, by simp⟩
  bounded := Nat.le_refl _

variable {table : ContextTable} {registered : List CtxPtr}

theorem Chained.chain_short (chained : table.Chained registered)
    {start : Option CtxPtr} {chain : List CtxPtr}
    (path : Path table.mapNext start chain)
    (members : ∀ ctx ∈ chain, ctx ∈ registered) :
    chain.length ≤ table.added := by
  have fits := (path.nodup.subperm members).length_le
  exact Nat.le_trans fits chained.bounded

namespace Represents

theorem findCtx (represents : table.Represents registered)
    (sessionId : BitVec 32) :
    ∃ result, table.findCtx sessionId = some result ∧
      ∀ ctx, result = some ctx ↔
        ctx ∈ registered ∧ table.sessionId ctx = sessionId := by
  obtain ⟨chain, path, members⟩ :=
    represents.chained (cpAsyncCtxHash sessionId)
  have short :=
    represents.chain_short path fun ctx member => ((members ctx).mp member).1
  refine ⟨_, path.find_eq _ short, ?_⟩
  intro ctx
  constructor
  · intro found
    have test := List.find?_some found
    have member := List.mem_of_find?_eq_some found
    exact ⟨((members ctx).mp member).1, by simpa using test⟩
  · rintro ⟨isRegistered, same⟩
    have member : ctx ∈ chain :=
      (members ctx).mpr ⟨isRegistered, by rw [same]⟩
    cases found : chain.find? fun current =>
        table.sessionId current == sessionId with
    | none =>
        have missed := List.find?_eq_none.mp found ctx member
        exact absurd same (by simpa using missed)
    | some other =>
        have test := List.find?_some found
        have otherMember := List.mem_of_find?_eq_some found
        have alike : table.sessionId other = table.sessionId ctx := by
          rw [same]
          simpa using test
        have isCtx := represents.distinct other ctx
          (represents.live other ((members other).mp otherMember).1)
          (represents.live ctx isRegistered) alike
        rw [isCtx]

theorem length_lt (represents : table.Represents registered) :
    registered.length < 2 ^ 64 :=
  CtxPtr.length_lt represents.nodup

end Represents

/-- What a walk still meets after contexts have left the table. -/
def WalksOn (before after : ContextTable) (gone : CtxPtr → Prop) : Prop :=
  ∀ start nodes, Path before.mapNext start nodes →
    ∃ left, Path after.mapNext start left ∧ left.Sublist nodes ∧
      ∀ ctx ∈ nodes, ¬gone ctx → ctx ∈ left

/-- A context is taken out of its chain, if it is in the table. -/
structure Removed (before after : ContextTable) (registered : List CtxPtr)
    (ctx : CtxPtr) : Prop where
  sessionId : after.sessionId = before.sessionId
  stage : after.stage = before.stage
  live : after.live = before.live
  added : after.added = before.added
  isInitialized : after.isInitialized = before.isInitialized
  contextCount : after.contextCount =
    if ctx ∈ registered then before.contextCount - 1 else before.contextCount
  walksOn : before.WalksOn after (· = ctx)
  chained : ∀ bucket chain,
    Path before.mapNext (before.ctxBuckets bucket) chain →
    (ctx ∈ chain → bucket = cpAsyncCtxHash (before.sessionId ctx)) →
      Path after.mapNext (after.ctxBuckets bucket) (chain.erase ctx)

theorem Removed.chains (chained : table.Chained registered)
    (removed : Removed table after registered ctx) :
    after.Chained (registered.erase ctx) where
  nodup := chained.nodup.erase ctx
  chained bucket := by
    obtain ⟨chain, path, members⟩ := chained.chained bucket
    refine ⟨chain.erase ctx, removed.chained bucket chain path ?_, ?_⟩
    · intro member
      exact ((members ctx).mp member).2.symm
    · intro other
      rw [path.nodup.mem_erase_iff, chained.nodup.mem_erase_iff,
        members, removed.sessionId, and_assoc]
  bounded := by
    rw [removed.added]
    have shorter : (registered.erase ctx).Sublist registered :=
      List.erase_sublist
    exact Nat.le_trans shorter.length_le chained.bounded

theorem Removed.represents (represents : table.Represents registered)
    (removed : Removed table after registered ctx) :
    after.Represents (registered.erase ctx) where
  toChained := removed.chains represents.toChained
  live other member := by
    rw [removed.live]
    exact represents.live other (List.mem_of_mem_erase member)
  distinct := by
    rw [removed.live, removed.sessionId]
    exact represents.distinct

theorem removeCtx_removed (chained : table.Chained registered)
    (ctx : CtxPtr) :
    ∃ after, table.removeCtx (some ctx) = some after ∧
      Removed table after registered ctx := by
  obtain ⟨chain, path, members⟩ :=
    chained.chained (cpAsyncCtxHash (table.sessionId ctx))
  have short :=
    chained.chain_short path fun ctx member => ((members ctx).mp member).1
  have isMember : ctx ∈ chain ↔ ctx ∈ registered := by simp [members]
  obtain ⟨place, located, fits⟩ := path.locate_fits ctx short
  refine ⟨table.unlinkCtx ctx place, by rw [removeCtx, located]; rfl, ?_⟩
  cases place with
  | absent =>
      have missing : ctx ∉ registered := mt isMember.mpr fits
      refine ⟨rfl, rfl, rfl, rfl, rfl, (if_neg missing).symm, ?_, ?_⟩
      · intro start nodes walk
        exact ⟨nodes, walk, List.Sublist.refl _, fun _ member _ => member⟩
      · intro bucket other walk hashed
        have outside : ctx ∉ other := by
          intro member
          cases hashed member
          cases walk.unique path
          exact fits member
        rwa [List.erase_of_not_mem outside]
  | first =>
      have head : table.ctxBuckets (cpAsyncCtxHash (table.sessionId ctx)) =
          some ctx := fits
      have isFirst : ∃ rest, chain = ctx :: rest ∧
          Path table.mapNext (table.mapNext ctx) rest := by
        rw [head] at path
        cases path with
        | cons rest => exact ⟨_, rfl, rest⟩
      obtain ⟨rest, split, behind⟩ := isFirst
      have present : ctx ∈ registered :=
        isMember.mp (split ▸ List.mem_cons_self)
      refine ⟨rfl, rfl, rfl, rfl, rfl, (if_pos present).symm, ?_, ?_⟩
      · intro start nodes walk
        exact ⟨nodes, walk, List.Sublist.refl _, fun _ member _ => member⟩
      · intro bucket other walk hashed
        dsimp only [unlinkCtx]
        by_cases same : bucket = cpAsyncCtxHash (table.sessionId ctx)
        · cases same
          rw [Function.update_self, walk.unique path, split,
            List.erase_cons_head]
          exact behind
        · rw [Function.update_of_ne same,
            List.erase_of_not_mem (mt hashed same)]
          exact walk
  | behind previous =>
      obtain ⟨inside, linked⟩ := fits
      have present : ctx ∈ registered := by
        obtain ⟨before, after, split, behind⟩ := path.split inside
        rw [linked] at behind
        cases behind
        exact isMember.mp (split ▸ by simp)
      refine ⟨rfl, rfl, rfl, rfl, rfl, (if_pos present).symm, ?_, ?_⟩
      · intro start nodes walk
        refine ⟨_, walk.unlink linked, ?_, ?_⟩
        · split
          · exact List.erase_sublist
          · exact List.Sublist.refl _
        · intro other member kept
          split
          · exact walk.nodup.mem_erase_iff.mpr ⟨kept, member⟩
          · exact member
      · intro bucket other walk hashed
        have unlinked := walk.unlink linked
        by_cases met : previous ∈ other
        · rwa [if_pos met] at unlinked
        · have outside : ctx ∉ other := by
            intro member
            cases hashed member
            cases walk.unique path
            exact met inside
          rw [if_neg met] at unlinked
          rwa [List.erase_of_not_mem outside]

/-- Some contexts have been destroyed, and other contexts may have moved to
stages outside the body. -/
structure Shrunk (before after : ContextTable) (registered : List CtxPtr) :
    Prop where
  represents : after.Represents (registered.filter after.live)
  sessionId : after.sessionId = before.sessionId
  live : ∀ ctx, after.live ctx = true → before.live ctx = true
  stage : ∀ ctx, ¬(before.stage ctx).OfBody → ¬(after.stage ctx).OfBody
  added : after.added = before.added
  walksOn : before.WalksOn after fun ctx => after.live ctx = false

theorem Shrunk.refl
    (represents : table.Represents (registered.filter table.live)) :
    Shrunk table table registered where
  represents := represents
  sessionId := rfl
  live _ isLive := isLive
  stage _ outside := outside
  added := rfl
  walksOn _ nodes walk :=
    ⟨nodes, walk, List.Sublist.refl _, fun _ member _ => member⟩

theorem Shrunk.dead (shrunk : Shrunk table after registered)
    (dead : table.live ctx = false) : after.live ctx = false := by
  apply Bool.eq_false_of_not_eq_true
  intro isLive
  exact nomatch dead.symm.trans (shrunk.live ctx isLive)

theorem Shrunk.trans {middle : ContextTable}
    (earlier : Shrunk table middle registered)
    (later : Shrunk middle after registered) :
    Shrunk table after registered where
  represents := later.represents
  sessionId := later.sessionId.trans earlier.sessionId
  live ctx isLive := earlier.live ctx (later.live ctx isLive)
  stage ctx outside := later.stage ctx (earlier.stage ctx outside)
  added := later.added.trans earlier.added
  walksOn start nodes walk := by
    obtain ⟨left, walk, sub, meets⟩ := earlier.walksOn start nodes walk
    obtain ⟨rest, walk, subRest, meetsRest⟩ := later.walksOn start left walk
    refine ⟨rest, walk, subRest.trans sub, ?_⟩
    intro ctx member isLive
    have wasLive : ¬middle.live ctx = false := by
      rw [Bool.not_eq_false] at isLive ⊢
      exact later.live ctx isLive
    exact meetsRest ctx (meets ctx member wasLive) isLive

theorem filter_update_false (nodup : (registered.filter table.live).Nodup)
    (ctx : CtxPtr) :
    registered.filter (Function.update table.live ctx false) =
      (registered.filter table.live).erase ctx := by
  rw [nodup.erase_eq_filter, List.filter_filter]
  apply List.filter_congr
  intro other _
  by_cases same : other = ctx
  · simp [same]
  · simp [same]

theorem live_of_update {other : CtxPtr}
    (isLive : Function.update table.live ctx false other = true) :
    other ≠ ctx ∧ table.live other = true := by
  by_cases same : other = ctx
  · cases same
    rw [Function.update_self] at isLive
    cases isLive
  · exact ⟨same, by rwa [Function.update_of_ne same] at isLive⟩

theorem destroyCtx_removed (represents : table.Represents registered)
    (ctx : CtxPtr) :
    ∃ after, table.destroyCtx (some ctx) = some after ∧
      Removed (table.nullifyCtxRefs ctx) after registered ctx ∧
      after.Represents (registered.erase ctx) := by
  have chained : (table.nullifyCtxRefs ctx).Chained registered :=
    { nodup := represents.nodup
      chained := represents.chained
      bounded := represents.bounded }
  obtain ⟨after, returned, removed⟩ := removeCtx_removed chained ctx
  have isDead : after.live = Function.update table.live ctx false :=
    removed.live
  refine ⟨after, returned, removed, removed.chains chained, ?_, ?_⟩
  · intro other member
    obtain ⟨apart, isRegistered⟩ := represents.nodup.mem_erase_iff.mp member
    rw [isDead, Function.update_of_ne apart]
    exact represents.live other isRegistered
  · intro first second firstLive secondLive same
    rw [isDead] at firstLive secondLive
    rw [removed.sessionId] at same
    exact represents.distinct first second (live_of_update firstLive).2
      (live_of_update secondLive).2 same

theorem destroyCtx_shrunk
    (represents : table.Represents (registered.filter table.live))
    (ctx : CtxPtr) :
    ∃ after, table.destroyCtx (some ctx) = some after ∧
      Shrunk table after registered ∧ after.live ctx = false := by
  obtain ⟨after, returned, removed, left⟩ := destroyCtx_removed represents ctx
  have isDead : after.live = Function.update table.live ctx false :=
    removed.live
  have gone : after.live ctx = false := by rw [isDead, Function.update_self]
  refine ⟨after, returned, ?_, gone⟩
  exact
    { represents := by
        rwa [isDead, filter_update_false represents.nodup]
      sessionId := removed.sessionId
      live := fun other isLive => (live_of_update (isDead ▸ isLive)).2
      stage := fun other outside => removed.stage ▸ outside
      added := removed.added
      walksOn := by
        intro start nodes walk
        obtain ⟨left, walk, sub, meets⟩ := removed.walksOn start nodes walk
        refine ⟨left, walk, sub, ?_⟩
        intro other member isLive
        apply meets other member
        rintro rfl
        exact isLive gone }

theorem destroyCtxs_shrunk
    (represents : table.Represents (registered.filter table.live))
    (ctxs : List CtxPtr) :
    ∃ after, destroyCtxs ctxs table = some after ∧
      Shrunk table after registered := by
  induction ctxs generalizing table with
  | nil => exact ⟨table, rfl, .refl represents⟩
  | cons ctx ctxs induction =>
      obtain ⟨middle, destroyed, earlier, -⟩ :=
        destroyCtx_shrunk represents ctx
      obtain ⟨after, returned, later⟩ := induction earlier.represents
      refine ⟨after, ?_, earlier.trans later⟩
      rw [destroyCtxs, destroyed]
      exact returned

theorem setStage_shrunk
    (represents : table.Represents (registered.filter table.live))
    (ctx : CtxPtr) (stage : Stage)
    (outside : ¬(table.stage ctx).OfBody → ¬stage.OfBody) :
    Shrunk table (table.setStage ctx stage) registered where
  represents :=
    { nodup := represents.nodup
      chained := represents.chained
      bounded := represents.bounded
      live := represents.live
      distinct := represents.distinct }
  sessionId := rfl
  live _ isLive := isLive
  stage other := by
    by_cases same : other = ctx
    · cases same
      simpa [setStage] using outside
    · simp [setStage, Function.update_of_ne same]
  added := rfl
  walksOn _ nodes walk :=
    ⟨nodes, walk, List.Sublist.refl _, fun _ member _ => member⟩

section Cleanup

variable (failOpen : Bool) (released : CtxPtr → List CtxPtr)

variable (represents : table.Represents (registered.filter table.live))

include represents

theorem eventHandler_shrunk (ctx : CtxPtr) :
    ∃ after, table.eventHandler failOpen released ctx = some after ∧
      Shrunk table after registered ∧
      (failOpen = false ∨ table.stage ctx ≠ .body →
        after.live ctx = false) := by
  rw [eventHandler]
  by_cases dead : table.live ctx = false
  · rw [if_pos dead]
    exact ⟨table, rfl, .refl represents, fun _ => dead⟩
  · rw [if_neg dead]
    by_cases passes : failOpen = true ∧ table.stage ctx = .body
    · obtain ⟨after, returned, shrunk⟩ :=
        destroyCtxs_shrunk represents (released ctx)
      refine ⟨after, by rw [if_pos passes]; exact returned, shrunk, ?_⟩
      rintro (isClosed | outside)
      · exact nomatch isClosed.symm.trans passes.1
      · exact absurd passes.2 outside
    · obtain ⟨middle, destroyed, earlier, gone⟩ :=
        destroyCtx_shrunk represents ctx
      obtain ⟨after, returned, later⟩ :=
        destroyCtxs_shrunk earlier.represents (released ctx)
      refine ⟨after, ?_, earlier.trans later, fun _ => ?_⟩
      · rw [if_neg passes, destroyed]
        exact returned
      · exact later.dead gone

theorem cleanupCtx_shrunk (ctx : CtxPtr) :
    ∃ after, table.cleanupCtx failOpen released ctx = some after ∧
      Shrunk table after registered ∧
      (failOpen = false ∨ ¬(table.stage ctx).OfBody →
        after.live ctx = false) := by
  rw [cleanupCtx]
  by_cases invalid : table.sessionId ctx = 0
  · rw [if_pos invalid]
    obtain ⟨after, destroyed, shrunk, gone⟩ :=
      destroyCtx_shrunk represents ctx
    exact ⟨after, destroyed, shrunk, fun _ => gone⟩
  · rw [if_neg invalid]
    have prepared := setStage_shrunk represents ctx
      (if (table.stage ctx).OfBody then .body else .complete) (by
        intro outside
        rw [if_neg outside]
        decide)
    obtain ⟨after, returned, shrunk, gone⟩ := eventHandler_shrunk
      failOpen released prepared.represents ctx
    refine ⟨after, returned, prepared.trans shrunk, ?_⟩
    rintro (isClosed | outside)
    · exact gone (.inl isClosed)
    · apply gone
      rw [if_neg outside]
      simp [setStage]

/-- The walk ends, although contexts leave the chain, and every context on its
way is destroyed unless its body goes on. -/
theorem cleanupChain_shrunk {rounds : Nat} {current : Option CtxPtr}
    {pending : List CtxPtr} (path : Path table.mapNext current pending)
    (enough : pending.length ≤ rounds) :
    ∃ after, cleanupChain failOpen released rounds current table =
        some after ∧
      Shrunk table after registered ∧
      ∀ ctx ∈ pending,
        failOpen = false ∨ ¬(table.stage ctx).OfBody →
          after.live ctx = false := by
  induction rounds generalizing current pending table with
  | zero =>
      cases path with
      | nil => exact ⟨table, rfl, .refl represents, nofun⟩
      | cons rest => exact absurd enough (Nat.not_succ_le_zero _)
  | succ rounds induction =>
      cases path with
      | nil => exact ⟨table, rfl, .refl represents, nofun⟩
      | @cons ctx rest path =>
          obtain ⟨middle, cleaned, earlier, gone⟩ := cleanupCtx_shrunk
            failOpen released represents ctx
          obtain ⟨left, walk, sub, meets⟩ := earlier.walksOn _ _ path
          have fits := Nat.le_trans sub.length_le
            (Nat.le_of_succ_le_succ enough)
          obtain ⟨after, returned, later, goneLater⟩ :=
            induction earlier.represents walk fits
          refine ⟨after, ?_, earlier.trans later, ?_⟩
          · rw [cleanupChain, cleaned]
            exact returned
          · intro other member spared
            rcases List.mem_cons.mp member with rfl | inRest
            · exact later.dead (gone spared)
            · by_cases dead : middle.live other = false
              · exact later.dead dead
              · exact goneLater other (meets other inRest dead)
                  (spared.imp_right (earlier.stage other))

theorem cleanupBuckets_shrunk (buckets : List (Fin cpAsyncCtxBuckets)) :
    ∃ after, cleanupBuckets failOpen released buckets table = some after ∧
      Shrunk table after registered ∧
      ∀ ctx ∈ registered,
        cpAsyncCtxHash (table.sessionId ctx) ∈ buckets →
        failOpen = false ∨ ¬(table.stage ctx).OfBody →
          after.live ctx = false := by
  induction buckets generalizing table with
  | nil => exact ⟨table, rfl, .refl represents, nofun⟩
  | cons bucket buckets induction =>
      obtain ⟨chain, path, members⟩ := represents.chained bucket
      have short := represents.chain_short path fun ctx member =>
        ((members ctx).mp member).1
      obtain ⟨middle, cleaned, earlier, gone⟩ := cleanupChain_shrunk
        failOpen released represents path short
      obtain ⟨after, returned, later, goneLater⟩ :=
        induction earlier.represents
      refine ⟨after, ?_, earlier.trans later, ?_⟩
      · rw [cleanupBuckets, cleaned]
        exact returned
      · intro ctx isRegistered hashed spared
        rcases List.mem_cons.mp hashed with here | elsewhere
        · apply later.dead
          by_cases dead : table.live ctx = false
          · exact earlier.dead dead
          · rw [Bool.not_eq_false] at dead
            have isMember : ctx ∈ chain :=
              (members ctx).mpr ⟨List.mem_filter.mpr ⟨isRegistered, dead⟩, here⟩
            exact gone ctx isMember spared
        · rw [← earlier.sessionId] at elsewhere
          exact goneLater ctx isRegistered elsewhere
            (spared.imp_right (earlier.stage ctx))

/-- The cleanup keeps the chains sound whatever it leaves in them. -/
theorem cleanupImpl_represents :
    ∃ after, table.cleanupImpl failOpen released = some after ∧
      after.Represents (registered.filter after.live) ∧
      after.contextCount = 0 ∧ after.isInitialized = false ∧
      ((failOpen = false ∨
        ∀ ctx ∈ registered, ¬(table.stage ctx).OfBody) →
          registered.filter after.live = []) := by
  obtain ⟨walked, returned, shrunk, gone⟩ := cleanupBuckets_shrunk
    failOpen released represents (List.finRange cpAsyncCtxBuckets)
  refine ⟨_, by rw [cleanupImpl, returned]; rfl, ?_, rfl, rfl, ?_⟩
  · have kept := shrunk.represents
    exact
      { nodup := kept.nodup
        chained := kept.chained
        bounded := kept.bounded
        live := kept.live
        distinct := kept.distinct }
  · intro clears
    apply List.filter_eq_nil_iff.mpr
    intro ctx isRegistered
    have dead := gone ctx isRegistered (List.mem_finRange _)
      (clears.imp_right fun outside => outside ctx isRegistered)
    exact Bool.not_eq_true _ ▸ dead

end Cleanup

theorem createCtx_represents (represents : table.Represents registered)
    {ngxPcalloc : Option CtxPtr} {sessionId : BitVec 32}
    (free : ∀ ctx ∈ ngxPcalloc, table.live ctx = false)
    (fresh : ∀ ctx, table.live ctx = true → table.sessionId ctx ≠ sessionId)
    (cleanupAdded : Bool) :
    (table.createCtx ngxPcalloc cleanupAdded sessionId).2.Represents
      registered := by
  cases ngxPcalloc with
  | none => exact represents
  | some ctx =>
      have isFree := free ctx rfl
      have other : ∀ member ∈ registered, member ≠ ctx := by
        rintro member isRegistered rfl
        exact nomatch isFree.symm.trans (represents.live _ isRegistered)
      exact
        { nodup := represents.nodup
          chained := by
            intro bucket
            obtain ⟨chain, path, members⟩ := represents.chained bucket
            refine ⟨chain, path.congr ?_, ?_⟩
            · intro member inside
              apply Function.update_of_ne
              exact other member ((members member).mp inside).1
            · intro member
              rw [members]
              apply and_congr_right
              intro isRegistered
              simp [createCtx, other member isRegistered]
          bounded := represents.bounded
          live := by
            intro member isRegistered
            simpa [createCtx, other member isRegistered] using
              represents.live member isRegistered
          distinct := by
            intro first second firstLive secondLive same
            simp only [createCtx] at firstLive secondLive same
            by_cases isFirst : first = ctx <;> by_cases isSecond : second = ctx
            · rw [isFirst, isSecond]
            · cases isFirst
              rw [Function.update_of_ne isSecond] at secondLive same
              rw [Function.update_self] at same
              exact absurd same.symm (fresh second secondLive)
            · cases isSecond
              rw [Function.update_of_ne isFirst] at firstLive same
              rw [Function.update_self] at same
              exact absurd same (fresh first firstLive)
            · rw [Function.update_of_ne isFirst] at firstLive same
              rw [Function.update_of_ne isSecond] at secondLive same
              exact represents.distinct first second firstLive secondLive
                same }

theorem addCtx_represents (represents : table.Represents registered)
    (isLive : table.live ctx = true) (absent : ctx ∉ registered) :
    (table.addCtx (some ctx)).2.Represents (ctx :: registered) where
  nodup := List.nodup_cons.mpr ⟨absent, represents.nodup⟩
  chained bucket := by
    obtain ⟨chain, path, members⟩ := represents.chained bucket
    have outside : ctx ∉ chain := fun member =>
      absent ((members ctx).mp member).1
    by_cases here : cpAsyncCtxHash (table.sessionId ctx) = bucket
    · cases here
      refine ⟨ctx :: chain, ?_, ?_⟩
      · simp only [addCtx, Function.update_self]
        exact path.push outside
      · intro other
        rw [List.mem_cons, List.mem_cons, members]
        constructor
        · rintro (rfl | ⟨isRegistered, hashed⟩)
          · exact ⟨.inl rfl, rfl⟩
          · exact ⟨.inr isRegistered, hashed⟩
        · rintro ⟨rfl | isRegistered, hashed⟩
          · exact .inl rfl
          · exact .inr ⟨isRegistered, hashed⟩
    · refine ⟨chain, ?_, ?_⟩
      · simp only [addCtx, Function.update_of_ne (Ne.symm here)]
        apply path.congr
        intro other member
        exact Function.update_of_ne (ne_of_mem_of_not_mem member outside) _ _
      · intro other
        rw [List.mem_cons, members]
        constructor
        · rintro ⟨isRegistered, hashed⟩
          exact ⟨.inr isRegistered, hashed⟩
        · rintro ⟨rfl | isRegistered, hashed⟩
          · exact absurd hashed here
          · exact ⟨isRegistered, hashed⟩
  bounded := Nat.succ_le_succ represents.bounded
  live other member := by
    rcases List.mem_cons.mp member with rfl | isRegistered
    · exact isLive
    · exact represents.live other isRegistered
  distinct := represents.distinct

end ContextTable

/-- The chains hold the registered contexts, the count is their number, and an
uninitialised table is empty. -/
structure Registry.Sound (registry : Registry) : Prop where
  represents : registry.table.Represents registry.registered
  counted : registry.table.contextCount.toNat = registry.registered.length
  cleared : registry.table.isInitialized = false → registry.registered = []

variable {registry : Registry}

theorem Registry.Sound.consistent (sound : registry.Sound) :
    registry.Consistent where
  chained := by
    choose chains paths members using sound.represents.chained
    have distinct :
        ((List.finRange cpAsyncCtxBuckets).flatMap chains).Nodup := by
      rw [List.nodup_flatMap]
      refine ⟨fun bucket _ => (paths bucket).nodup, ?_⟩
      apply (List.nodup_finRange _).imp
      intro first second apart ctx inFirst inSecond
      apply apart
      rw [← ((members first ctx).mp inFirst).2,
        ← ((members second ctx).mp inSecond).2]
    have same : registry.registered.Perm
        ((List.finRange cpAsyncCtxBuckets).flatMap chains) := by
      apply (List.perm_ext_iff_of_nodup sound.represents.nodup distinct).mpr
      intro ctx
      simp [members]
    refine ⟨chains, paths, ?_, distinct, sound.counted.trans same.length_eq⟩
    intro bucket ctx member
    obtain ⟨isRegistered, hashed⟩ := (members bucket ctx).mp member
    exact ⟨sound.represents.live ctx isRegistered, hashed⟩
  found := sound.represents.findCtx

theorem Registry.start_sound : Registry.start.Sound where
  represents := ContextTable.start_represents
  counted := rfl
  cleared _ := rfl

/-- The count goes down with a registered context. -/
theorem Registry.Sound.removed (sound : registry.Sound) {before : ContextTable}
    (removed : before.Removed after registry.registered ctx)
    (sameCount : before.contextCount = registry.table.contextCount) :
    after.contextCount.toNat = (registry.registered.erase ctx).length := by
  have counted := sound.counted
  rw [removed.contextCount, sameCount]
  by_cases present : ctx ∈ registry.registered
  · rw [if_pos present, List.length_erase_of_mem present,
      UInt64.toNat_sub_of_le]
    · rw [counted]
      rfl
    · have some := List.length_pos_of_mem present
      rw [UInt64.le_iff_toNat_le, counted]
      exact some
  · rw [if_neg present, List.erase_of_not_mem present]
    exact counted

theorem tableStep_sound (sound : registry.Sound) {op : TableOp}
    (valid : op.Valid registry) (clears : op.ClearsTable registry) :
    ∃ next, tableStep registry op = some next ∧ next.Sound := by
  have represents := sound.represents
  have allLive : registry.registered.filter registry.table.live =
      registry.registered :=
    List.filter_eq_self.mpr represents.live
  cases op with
  | createCtx ngxPcalloc cleanupAdded sessionId =>
      refine ⟨_, rfl, ?_, ?_, ?_⟩
      · exact ContextTable.createCtx_represents represents valid.1 valid.2
          cleanupAdded
      · cases ngxPcalloc <;> exact sound.counted
      · cases ngxPcalloc <;> exact sound.cleared
  | addCtx ctx =>
      refine ⟨_, rfl, ?_⟩
      obtain ⟨isInitialized, fresh⟩ := valid
      cases ctx with
      | none => exact sound
      | some ctx =>
          obtain ⟨isLive, absent⟩ := fresh ctx rfl
          have added :=
            ContextTable.addCtx_represents represents isLive absent
          refine ⟨added, ?_, ?_⟩
          · have fits : registry.registered.length + 1 < 2 ^ 64 :=
              added.length_lt
            have counted := sound.counted
            simp only [ContextTable.addCtx, Option.toList_some,
              List.cons_append, List.nil_append, List.length_cons,
              UInt64.toNat_add, counted]
            exact Nat.mod_eq_of_lt fits
          · intro uninitialized
            exact nomatch isInitialized.symm.trans uninitialized
  | removeCtx ctx =>
      cases ctx with
      | none => exact ⟨registry, rfl, sound⟩
      | some ctx =>
          obtain ⟨after, returned, removed⟩ :=
            ContextTable.removeCtx_removed represents.toChained ctx
          refine ⟨⟨after, registry.registered.erase ctx⟩, ?_, ?_⟩
          · simp [tableStep, returned]
          · refine ⟨removed.represents represents, ?_, ?_⟩
            · exact sound.removed removed rfl
            · intro uninitialized
              rw [removed.isInitialized] at uninitialized
              simp [sound.cleared uninitialized]
  | destroyCtx ctx =>
      cases ctx with
      | none => exact ⟨registry, rfl, sound⟩
      | some ctx =>
          obtain ⟨after, returned, removed, left⟩ :=
            ContextTable.destroyCtx_removed represents ctx
          refine ⟨⟨after, registry.registered.erase ctx⟩, ?_, left, ?_, ?_⟩
          · simp [tableStep, returned]
          · exact sound.removed removed rfl
          · intro uninitialized
            rw [removed.isInitialized] at uninitialized
            simp [sound.cleared uninitialized]
  | setStage ctx stage =>
      refine ⟨_, rfl, ?_, sound.counted, sound.cleared⟩
      exact
        { nodup := represents.nodup
          chained := represents.chained
          bounded := represents.bounded
          live := represents.live
          distinct := represents.distinct }
  | cleanupImpl failOpen released =>
      obtain ⟨after, returned, kept, noCount, _, empties⟩ :=
        ContextTable.cleanupImpl_represents failOpen released
          (allLive.symm ▸ represents)
      have empty := empties clears
      refine ⟨_, by rw [tableStep, returned]; rfl, kept, ?_, fun _ => empty⟩
      simp [noCount, empty]
  | init =>
      refine ⟨_, rfl, ?_⟩
      rw [ContextTable.init]
      by_cases isInitialized : registry.table.isInitialized = true
      · rw [if_pos isInitialized]
        exact sound
      · rw [if_neg isInitialized]
        have empty := sound.cleared (Bool.eq_false_of_not_eq_true isInitialized)
        rw [empty]
        exact
          { represents :=
              { nodup := List.nodup_nil
                chained := fun _ => ⟨[], .nil, by simp⟩
                bounded := Nat.zero_le _
                live := nofun
                distinct := represents.distinct }
            counted := rfl
            cleared := fun _ => rfl }

/-- In every run in which each cleanup rejects or finds no body under
inspection, the loops end and the table is consistent in every state. -/
theorem context_table_consistent {ops : List TableOp}
    (valid : Trace.Every tableStep TableOp.Valid .start ops)
    (clears : Trace.Every tableStep TableOp.ClearsTable .start ops) :
    Registry.start.Consistent ∧
      Trace.Every tableStep
        (fun registry op => ∃ next,
          tableStep registry op = some next ∧ next.Consistent)
        .start ops := by
  refine ⟨Registry.start_sound.consistent, ?_⟩
  apply Trace.every_of_invariant Registry.Sound ?_ Registry.start_sound
    (valid.and clears)
  rintro registry op sound ⟨isValid, isClear⟩
  obtain ⟨next, stepped, nextSound⟩ := tableStep_sound sound isValid isClear
  refine ⟨⟨next, stepped, nextSound.consistent⟩, ?_⟩
  intro other same
  cases stepped.symm.trans same
  exact nextSound

section Handler

variable (settings : Settings) (env : Environment) (request : Request)

/-- A context that `ngx_cp_async_cleanup_impl` has prepared is destroyed unless
its body goes on. -/
theorem eventHandler_released {flow : Flow}
    (registered : flow.ctx.registered = true)
    (verdict : flow.session.verdict = failVerdict settings.failModeVerdict)
    (prepared : (flow.ctx.stage = .body ∧ flow.ctx.reqSeq = 0) ∨
      (flow.ctx.stage = .complete ∧ flow.ctx.flowError = true)) :
    (eventHandler settings env request flow).ctx.registered = true ↔
      settings.failModeVerdict = .ok ∧ flow.ctx.stage = .body := by
  by_cases isOpen : settings.failModeVerdict = .ok
  · have accepts : flow.session.verdict = .accept := by
      rw [verdict, failVerdict, if_pos isOpen]
    rw [eventHandler, eventHandlerWith, if_neg (by simp [registered]),
      continueProcessing, continueWith]
    rcases prepared with ⟨body, emptied⟩ | ⟨complete, flowError⟩
    · apply iff_of_true _ ⟨isOpen, body⟩
      by_cases flowError : flow.ctx.flowError = true
      · rw [if_pos flowError, if_pos isOpen]
        simp [isOpen, Flow.fail, failVerdict, Flow.setVerdict, body,
          Flow.updateSession, isVerdictDropOrCustom]
        split <;> exact registered
      · rw [if_neg flowError, body]
        simp [processBodyStage, accepts, isVerdictDropOrCustom, emptied]
        split <;> exact registered
    · rw [if_pos flowError, if_pos isOpen]
      apply iff_of_false _ (by simp [complete])
      simp [isOpen, Flow.fail, failVerdict, Flow.setVerdict, complete,
        Flow.updateSession, isVerdictDropOrCustom]
      split <;> simp [Flow.destroyCtx, Flow.updateCtx, Flow.runPhases]
  · have blocking : isVerdictDropOrCustom flow.session.verdict := by
      rw [verdict, failVerdict, if_neg isOpen]
      exact .inl rfl
    apply iff_of_false _ (isOpen ∘ And.left)
    rw [Bool.not_eq_true]
    by_cases flowError : flow.ctx.flowError = true
    · have continued : continueProcessing settings env request flow =
          (settings.failModeVerdict,
            (flow.fail settings.failModeVerdict).forbid) := by
        rw [continueProcessing, continueWith, if_pos flowError, if_neg isOpen]
      have rejects : isVerdictDropOrCustom
          (failVerdict settings.failModeVerdict) :=
        verdict ▸ blocking
      apply eventHandlerWith_of_blocking continued _ rejects
      cases isMode : settings.failOpenMode <;>
        simp [Settings.failModeVerdict, isMode]
    · obtain body : flow.ctx.stage = .body := by
        rcases prepared with ⟨body, -⟩ | ⟨-, isError⟩
        · exact body
        · exact absurd isError flowError
      have completes : isVerdictDropOrCustom
          (flow.transition .complete).session.verdict := blocking
      obtain ⟨next, completed, stays⟩ :=
        processCompleteStage_of_blocking settings env request completes
      have continued : continueProcessing settings env request flow =
          (.httpForbidden, next) := by
        rw [continueProcessing, continueWith, if_neg flowError, body]
        dsimp only
        rw [processBodyStage, if_pos blocking, completed]
      exact eventHandlerWith_of_blocking continued (by decide) stays

/-- The cleanup leaves a session in the table as the table's own loop does. -/
theorem cleanupImpl_registered (flow : Flow) :
    (cleanupImpl settings env request flow).ctx.registered = true ↔
      flow.ctx.registered = true ∧ settings.failModeVerdict = .ok ∧
        flow.ctx.stage.OfBody := by
  rw [cleanupImpl]
  by_cases unregistered : flow.ctx.registered = false
  · simp [unregistered]
  · have registered : flow.ctx.registered = true := by simpa using unregistered
    rw [if_neg unregistered]
    dsimp only
    generalize isReady : (clearReqSeq (endInspection
      (flow.fail settings.failModeVerdict))).cancelTimers = ready
    have stage : ready.ctx.stage = flow.ctx.stage := by rw [← isReady]; rfl
    have emptied : ready.ctx.reqSeq = 0 := by rw [← isReady]; rfl
    have verdict : ready.session.verdict =
        failVerdict settings.failModeVerdict := by
      rw [← isReady]
      rfl
    have still : ready.ctx.registered = true := by
      rw [← isReady]
      exact registered
    have handled (prepared : Flow) (kept : prepared.ctx.registered = true)
        (sameVerdict : prepared.session.verdict = ready.session.verdict)
        (stages : (prepared.ctx.stage = .body ∧ prepared.ctx.reqSeq = 0) ∨
          (prepared.ctx.stage = .complete ∧
            prepared.ctx.flowError = true)) :
        (eventHandler settings env request prepared).setFlowError.ctx.registered
            = true ↔
          settings.failModeVerdict = .ok ∧ prepared.ctx.stage = .body :=
      eventHandler_released settings env request kept
        (sameVerdict.trans verdict) stages
    rw [stage]
    by_cases waits : flow.ctx.stage = .waitBodyVerdict
    · rw [if_pos waits, if_neg (by simp [Flow.transition, Flow.updateCtx])]
      apply (handled (ready.transition .body) still rfl
        (.inl ⟨rfl, emptied⟩)).trans
      simp [registered, Stage.OfBody, waits, Flow.transition, Flow.updateCtx]
    · rw [if_neg waits]
      by_cases body : flow.ctx.stage = .body
      · rw [if_neg (by simp [stage, body])]
        apply (handled ready still rfl
          (.inl ⟨stage.trans body, emptied⟩)).trans
        simp [registered, Stage.OfBody, stage, body]
      · rw [if_pos (by simp [stage, body])]
        apply (handled (ready.setFlowError.transition .complete) still rfl
          (.inr ⟨rfl, rfl⟩)).trans
        simp [Stage.OfBody, waits, body, Flow.transition, Flow.updateCtx]

end Handler

/-- A context is inspected up to its body when the connection to the service
ends. -/
def reconnect (ctx : CtxPtr) (failOpen : Bool) (last : TableOp) :
    List TableOp :=
  [.init, .createCtx (some ctx) true 5, .addCtx (some ctx),
    .setStage ctx .body, .cleanupImpl failOpen fun _ => [], last]

theorem reconnect_valid (ctx : CtxPtr) (failOpen : Bool) {last : TableOp}
    (valid : ∀ registry, last.Valid registry) :
    Trace.Every tableStep TableOp.Valid .start
      (reconnect ctx failOpen last) := by
  refine ⟨trivial, ?_⟩
  rintro _ ⟨⟩
  refine ⟨⟨fun _ _ => rfl, nofun⟩, ?_⟩
  rintro _ ⟨⟩
  refine ⟨⟨rfl, ?_⟩, ?_⟩
  · rintro _ ⟨⟩
    have isLive : Function.update (fun _ => false) ctx true ctx = true :=
      Function.update_self _ _ _
    exact ⟨isLive, nofun⟩
  · exact fun _ _ => ⟨trivial, fun _ _ => ⟨trivial, fun registry _ =>
      ⟨valid registry, fun _ _ => trivial⟩⟩⟩

theorem context_table_consistent_on_reconnect :
    let ops := reconnect ⟨16, by decide⟩ false .init
    Registry.start.Consistent ∧
      Trace.Every tableStep
        (fun registry op => ∃ next,
          tableStep registry op = some next ∧ next.Consistent)
        .start ops := by
  apply context_table_consistent
  · exact reconnect_valid _ _ fun _ => trivial
  · exact ⟨trivial, fun _ _ => ⟨trivial, fun _ _ => ⟨trivial, fun _ _ =>
      ⟨trivial, fun _ _ => ⟨.inl rfl, fun _ _ =>
        ⟨trivial, fun _ _ => trivial⟩⟩⟩⟩⟩⟩

/-- A cleanup that passes traffic leaves a context under inspection in its
chain but not in the count, which wraps when the context is destroyed. -/
theorem cleanup_forgets_context :
    let ctx : CtxPtr := ⟨16, by decide⟩
    let ops := reconnect ctx true (.destroyCtx (some ctx))
    Trace.Every tableStep TableOp.Valid .start ops ∧
      ∃ final, Trace.runPartial tableStep .start ops = some final ∧
        final.table.contextCount = -1 ∧ ¬final.Consistent := by
  intro ctx ops
  refine ⟨reconnect_valid _ _ fun _ => trivial, ?_⟩
  have wraps : ∃ final ∈ Trace.runPartial tableStep .start ops,
      final.table.contextCount = -1 ∧ final.table.live ctx = false := by
    decide +kernel
  obtain ⟨final, ran, wrapped, dead⟩ := wraps
  refine ⟨final, ran, wrapped, ?_⟩
  intro consistent
  obtain ⟨chains, -, live, distinct, counted⟩ := consistent.chained
  -- A wrapped count asks for every pointer, but this one is not live.
  have absent : ctx ∉ (List.finRange cpAsyncCtxBuckets).flatMap chains := by
    intro member
    obtain ⟨bucket, -, inChain⟩ := List.mem_flatMap.mp member
    exact nomatch dead.symm.trans (live bucket ctx inChain).1
  have fits := CtxPtr.length_lt (List.nodup_cons.mpr ⟨absent, distinct⟩)
  rw [List.length_cons, ← counted, wrapped] at fits
  exact absurd fits (by decide)

end OpenAppsec.Async
