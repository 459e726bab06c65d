import OpenAppsec.Attachment.NanoReceiver
import OpenAppsec.Attachment.NginxReceiver
import OpenAppsec.Library.BlockLedger

/-!
# The blocks of modification lists

A node of a modification list is a block, and its modification buffer is
another.  The two receivers allocate and release these blocks while they read
replies; here a ledger of the blocks goes along with each of them.
-/

namespace OpenAppsec

open BlockLedger FueledLoop

/-- The block of a node and the block of its modification buffer. -/
structure NodeBlocks where
  node : Nat
  buffer : Nat
  deriving DecidableEq

namespace NodeBlocks

def blocks (node : NodeBlocks) : List Nat :=
  [node.buffer, node.node]

/-- `modification.data` is behind the pointer `next` and the fields of the
modification. -/
def dataOffset : Nat := 24

/-- What is released of a node when another node cannot be created. -/
def bufferAndNode (node : NodeBlocks) : List Pointer :=
  [.start node.buffer, .start node.node]

/-- What is released of a node when a reply blocks: `modification.data` is an
array inside of the node. -/
def dataAndNode (node : NodeBlocks) : List Pointer :=
  [.inside node.node dataOffset, .start node.node]

end NodeBlocks

/-- The nodes of a list, the ledger, and the number of replies that have been
handled. -/
structure ModificationBlocks where
  nodes : List NodeBlocks
  ledger : Ledger
  handled : Nat

namespace ModificationBlocks

/-- The loop that takes a list down. -/
def free (pointers : NodeBlocks → List Pointer)
    (blocks : ModificationBlocks) : ModificationBlocks :=
  { blocks with
    nodes := []
    ledger := blocks.ledger.releaseAll (blocks.nodes.flatMap pointers) }

end ModificationBlocks

/-- `create_modification_node`: both allocations succeed, or that of the node
fails, or that of the buffer, which releases the node. -/
def createNodeBlocks (allocated nodeFails : Bool) (ledger : Ledger) :
    Option NodeBlocks × Ledger :=
  if allocated then
    (some { node := ledger.fresh, buffer := ledger.alloc.fresh },
      ledger.alloc.alloc)
  else if nodeFails then (none, ledger)
  else (none, ledger.alloc.release (.start ledger.fresh))

/-- How the nano attachment links a node: behind a list that is not empty, it
leaves the head of the list null. -/
def Nano.linkNode : List NodeBlocks → NodeBlocks → List NodeBlocks
  | [], node => [node]
  | _ :: _, _ => []

def Nginx.linkNode (nodes : List NodeBlocks) (node : NodeBlocks) :
    List NodeBlocks :=
  nodes ++ [node]

section Handling

variable (link : List NodeBlocks → NodeBlocks → List NodeBlocks)

/-- The loop over the records of an inject reply, from a record on, with so
many left. -/
def injectBlocks (allocated nodeFails : Nat → Bool) :
    Nat → Nat → ModificationBlocks → ModificationBlocks
  | _, 0, blocks => blocks
  | index, count + 1, blocks =>
      match createNodeBlocks (allocated index) (nodeFails index)
          blocks.ledger with
      | (none, ledger) =>
          { blocks with ledger }.free NodeBlocks.bufferAndNode
      | (some node, ledger) =>
          injectBlocks allocated nodeFails (index + 1) count
            { blocks with nodes := link blocks.nodes node, ledger }

/-- What handling a reply does to the blocks.  `nodeFails` tells which of the
two allocations fails, where one does. -/
def handleBlocks (allocated : Delivery → Nat → Bool)
    (nodeFails : Nat → Nat → Bool) (delivery : Delivery)
    (blocks : ModificationBlocks) : ModificationBlocks :=
  let after :=
    match delivery.reply.verdict with
    | .inject =>
        injectBlocks link (allocated delivery) (nodeFails blocks.handled) 0
          delivery.reply.injectData.length blocks
    | .drop | .customResponse => blocks.free NodeBlocks.dataAndNode
    | _ => blocks
  { after with handled := blocks.handled + 1 }

end Handling

/-- The blocks after a pass that handles this reply, if any. -/
def blocksAfter {σ : Type*} (handledReply : σ → Option Delivery)
    (handle : Delivery → ModificationBlocks → ModificationBlocks)
    (state : σ × ModificationBlocks) : ModificationBlocks :=
  (handledReply state.1).elim state.2 (handle · state.2)

/-- A pass of a receiver together with what the reply that it handles does to
the blocks. -/
def withBlocks {σ ρ : Type*} (body : σ → σ ⊕ ρ)
    (handledReply : σ → Option Delivery)
    (handle : Delivery → ModificationBlocks → ModificationBlocks)
    (state : σ × ModificationBlocks) :
    (σ × ModificationBlocks) ⊕ (ρ × ModificationBlocks) :=
  let blocks := blocksAfter handledReply handle state
  match body state.1 with
  | .inl next => .inl (next, blocks)
  | .inr result => .inr (result, blocks)

theorem withBlocks_eq_inl {σ ρ : Type*} {body : σ → σ ⊕ ρ}
    {handledReply : σ → Option Delivery}
    {handle : Delivery → ModificationBlocks → ModificationBlocks}
    {state next : σ × ModificationBlocks}
    (pass : withBlocks body handledReply handle state = .inl next) :
    body state.1 = .inl next.1 ∧
      next.2 = blocksAfter handledReply handle state := by
  rw [withBlocks] at pass
  cases step : body state.1 with
  | inl after =>
      rw [step] at pass
      cases pass
      exact ⟨rfl, rfl⟩
  | inr result =>
      rw [step] at pass
      cases pass

theorem withBlocks_eq_inr {σ ρ : Type*} {body : σ → σ ⊕ ρ}
    {handledReply : σ → Option Delivery}
    {handle : Delivery → ModificationBlocks → ModificationBlocks}
    {state : σ × ModificationBlocks} {result : ρ × ModificationBlocks}
    (pass : withBlocks body handledReply handle state = .inr result) :
    body state.1 = .inr result.1 ∧
      result.2 = blocksAfter handledReply handle state := by
  rw [withBlocks] at pass
  cases step : body state.1 with
  | inl after =>
      rw [step] at pass
      cases pass
  | inr left =>
      rw [step] at pass
      cases pass
      exact ⟨rfl, rfl⟩

theorem runLoop_withBlocks {σ ρ : Type*} {body : σ → σ ⊕ ρ}
    {handledReply : σ → Option Delivery}
    {handle : Delivery → ModificationBlocks → ModificationBlocks}
    (fuel : Nat) (state : σ × ModificationBlocks) :
    (runLoop (withBlocks body handledReply handle) fuel state).map Prod.fst =
      runLoop body fuel state.1 := by
  induction fuel generalizing state with
  | zero => rfl
  | succ fuel induction =>
      cases pass : body state.1 with
      | inl next =>
          rw [runLoop_goesOn fuel pass,
            runLoop_goesOn fuel (by rw [withBlocks, pass]), induction]
      | inr result =>
          rw [runLoop_leaves fuel pass,
            runLoop_leaves fuel (by rw [withBlocks, pass])]
          rfl

namespace Nano

variable {ω : Type*}

/-- The reply whose verdict a pass handles, if any. -/
def handledReply (usageMode : SignalUsageMode) (state : ReceiverState ω) :
    Option Delivery :=
  if state.sessionData.remainingMessagesToReply = 0 then none
  else
    (receiveDataFromService state.attachment usageMode).filter fun delivery =>
      delivery.reply.verdict = .reconf ∨
        delivery.reply.sessionId = state.sessionData.sessionId

/-- A pass of `service_reply_receiver` with the ledger. -/
def receiveReplyBlocks (handlers : ResponseHandlers ω)
    (usageMode : SignalUsageMode) (nodeFails : Nat → Nat → Bool) :
    ReceiverState ω × ModificationBlocks →
      (ReceiverState ω × ModificationBlocks) ⊕
        (Return ω × ModificationBlocks) :=
  withBlocks (receiveReply handlers usageMode) (handledReply usageMode)
    (handleBlocks linkNode Delivery.malloc nodeFails)

/-- `service_reply_receiver` with the ledger. -/
def serviceReplyReceiverBlocks (handlers : ResponseHandlers ω)
    (usageMode : SignalUsageMode) (nodeFails : Nat → Nat → Bool)
    (state : ReceiverState ω × ModificationBlocks) :
    Option (Return ω × ModificationBlocks) :=
  if state.1.sessionData.remainingMessagesToReply = 0 then
    some (.returned .ok (state.1.setVerdict .inspect), state.2)
  else
    runLoop (receiveReplyBlocks handlers usageMode nodeFails)
      (passes state.1.attachment) state

theorem serviceReplyReceiverBlocks_fst (handlers : ResponseHandlers ω)
    (usageMode : SignalUsageMode) (nodeFails : Nat → Nat → Bool)
    (state : ReceiverState ω × ModificationBlocks) :
    (serviceReplyReceiverBlocks handlers usageMode nodeFails state).map
        Prod.fst = serviceReplyReceiver handlers usageMode state.1 := by
  rw [serviceReplyReceiverBlocks, serviceReplyReceiver]
  split
  · rfl
  · exact runLoop_withBlocks _ state

end Nano

namespace Nginx

variable {ω : Type*}

/-- The reply whose verdict a pass handles, if any. -/
def handledReply (curSessionId : BitVec 32) (state : ReceiverState ω) :
    Option Delivery :=
  if state.expectedReplies = 0 then none
  else
    state.queue.head?.filter fun delivery =>
      delivery.reply.verdict = .reconf ∨
        delivery.reply.verdict = .limitResponseHeaders ∨
          delivery.reply.sessionId = curSessionId

/-- A pass of `ngx_http_cp_reply_receiver` with the ledger. -/
def receiveReplyBlocks (handlers : ResponseHandlers ω)
    (curSessionId : BitVec 32) (nodeFails : Nat → Nat → Bool) :
    ReceiverState ω × ModificationBlocks →
      (ReceiverState ω × ModificationBlocks) ⊕
        ((NgxResult × ReceiverState ω) × ModificationBlocks) :=
  withBlocks (receiveReply handlers curSessionId) (handledReply curSessionId)
    (handleBlocks linkNode Delivery.ngxPcalloc nodeFails)

/-- `ngx_http_cp_reply_receiver` with the ledger. -/
def ngxHttpCpReplyReceiverBlocks (handlers : ResponseHandlers ω)
    (curSessionId : BitVec 32) (nodeFails : Nat → Nat → Bool)
    (state : ReceiverState ω × ModificationBlocks) :
    Option ((NgxResult × ReceiverState ω) × ModificationBlocks) :=
  if state.1.expectedReplies = 0 then
    some ((.ok, { state.1 with verdict := .inspect }), state.2)
  else
    runLoop (receiveReplyBlocks handlers curSessionId nodeFails)
      (state.1.queue.length + 2) state

theorem ngxHttpCpReplyReceiverBlocks_fst (handlers : ResponseHandlers ω)
    (curSessionId : BitVec 32) (nodeFails : Nat → Nat → Bool)
    (state : ReceiverState ω × ModificationBlocks) :
    (ngxHttpCpReplyReceiverBlocks handlers curSessionId nodeFails state).map
        Prod.fst = ngxHttpCpReplyReceiver handlers curSessionId state.1 := by
  rw [ngxHttpCpReplyReceiverBlocks, ngxHttpCpReplyReceiver]
  split
  · rfl
  · exact runLoop_withBlocks _ state

end Nginx

/-- As many nodes as the list of the receiver has. -/
def ModificationBlocks.Agrees (blocks : ModificationBlocks)
    (modificationList : List ModificationNode) : Prop :=
  blocks.nodes.length = modificationList.length

theorem createNodeBlocks_isSome (allocated nodeFails : Bool)
    (ledger : Ledger) :
    (createNodeBlocks allocated nodeFails ledger).1.isSome = allocated := by
  cases allocated with
  | true => rfl
  | false =>
      cases nodeFails with
      | true => rfl
      | false => rfl

theorem Nano.injectBlocks_agrees {malloc nodeFails : Nat → Bool}
    {index : Nat} {blocks : ModificationBlocks}
    {modificationList : List ModificationNode}
    (modifications : List HttpInjectData)
    (agrees : blocks.Agrees modificationList) :
    (injectBlocks linkNode malloc nodeFails index modifications.length
      blocks).Agrees
        (handleInjectResponse malloc index modificationList modifications)
    := by
  induction modifications generalizing index blocks modificationList with
  | nil => exact agrees
  | cons modification modifications induction =>
      have created := createNodeBlocks_isSome (malloc index) (nodeFails index)
        blocks.ledger
      rw [List.length_cons, injectBlocks, handleInjectResponse,
        createModificationNode]
      rcases result : createNodeBlocks (malloc index) (nodeFails index)
        blocks.ledger with ⟨_ | node, after⟩
      · rw [result] at created
        have failed : malloc index = false := created.symm
        simp [failed, ModificationBlocks.Agrees, ModificationBlocks.free]
      · rw [result] at created
        have allocated : malloc index = true := created.symm
        simp only [allocated, if_true]
        apply induction
        rw [ModificationBlocks.Agrees] at agrees
        cases nodes : blocks.nodes with
        | nil =>
            rw [nodes, List.length_nil] at agrees
            have empty := List.eq_nil_of_length_eq_zero agrees.symm
            simp [ModificationBlocks.Agrees, linkNode, empty]
        | cons head tail =>
            have some_node : modificationList ≠ [] := by
              intro empty
              simp [nodes, empty] at agrees
            simp [ModificationBlocks.Agrees, linkNode, some_node]

theorem Nginx.injectBlocks_agrees {ngxPcalloc nodeFails : Nat → Bool}
    {index : Nat} {blocks : ModificationBlocks}
    {modificationList : List ModificationNode}
    (modifications : List HttpInjectData)
    (agrees : blocks.Agrees modificationList) :
    (injectBlocks linkNode ngxPcalloc nodeFails index modifications.length
      blocks).Agrees
        ((appendModifications ngxPcalloc index modificationList
          modifications).getD []) := by
  induction modifications generalizing index blocks modificationList with
  | nil => exact agrees
  | cons modification modifications induction =>
      have created := createNodeBlocks_isSome (ngxPcalloc index)
        (nodeFails index) blocks.ledger
      rw [List.length_cons, injectBlocks, appendModifications,
        createModificationNode]
      rcases result : createNodeBlocks (ngxPcalloc index) (nodeFails index)
        blocks.ledger with ⟨_ | node, after⟩
      · rw [result] at created
        have failed : ngxPcalloc index = false := created.symm
        simp [failed, ModificationBlocks.Agrees, ModificationBlocks.free]
      · rw [result] at created
        have allocated : ngxPcalloc index = true := created.symm
        simp only [allocated, if_true]
        apply induction
        rw [ModificationBlocks.Agrees] at agrees
        simp [ModificationBlocks.Agrees, linkNode, agrees]

/-- After a pass the blocks are those of the list, unless the nano attachment
released what is no block. -/
def Nano.AgreesAfter {ω : Type*} (blocks : ModificationBlocks) :
    ReceiverState ω ⊕ Return ω → Prop
  | .inl next => blocks.Agrees next.modificationList
  | .inr (.returned _ last) => blocks.Agrees last.modificationList
  | .inr .invalidFree => True

theorem Nano.handleVerdict_agrees {ω : Type*} (handlers : ResponseHandlers ω)
    (usageMode : SignalUsageMode) (nodeFails : Nat → Nat → Bool)
    (delivery : Delivery) {state : ReceiverState ω}
    {blocks : ModificationBlocks}
    (agrees : blocks.Agrees state.modificationList) :
    AgreesAfter (handleBlocks linkNode Delivery.malloc nodeFails delivery
      blocks) (handleVerdict handlers usageMode delivery state) := by
  rw [handleBlocks, handleVerdict]
  cases verdict : delivery.reply.verdict with
  | inject => exact injectBlocks_agrees delivery.reply.injectData agrees
  | drop =>
      cases list : state.modificationList with
      | nil =>
          simp [ReceiverState.setRemaining, freeModificationData]
          rfl
      | cons head tail =>
          simp [ReceiverState.setRemaining, freeModificationData, AgreesAfter]
  | customResponse =>
      cases list : state.modificationList with
      | nil =>
          simp [ReceiverState.setRemaining, freeModificationData]
          rfl
      | cons head tail =>
          simp [ReceiverState.setRemaining, freeModificationData, AgreesAfter]
  | inspect => exact agrees
  | accept => exact agrees
  | irrelevant => exact agrees
  | reconf => exact agrees
  | delayed => exact agrees
  | limitResponseHeaders => exact agrees
  | other code => exact agrees

theorem Nano.receiveReply_agrees {ω : Type*} (handlers : ResponseHandlers ω)
    (usageMode : SignalUsageMode) (nodeFails : Nat → Nat → Bool)
    {state : ReceiverState ω × ModificationBlocks}
    (agrees : state.2.Agrees state.1.modificationList) :
    AgreesAfter
      (blocksAfter (handledReply usageMode)
        (handleBlocks linkNode Delivery.malloc nodeFails) state)
      (receiveReply handlers usageMode state.1) := by
  rw [blocksAfter, handledReply, receiveReply]
  by_cases none : state.1.sessionData.remainingMessagesToReply = 0
  · simpa [none, AgreesAfter] using agrees
  simp only [if_neg none]
  cases found : receiveDataFromService state.1.attachment usageMode with
  | none => exact agrees
  | some delivery =>
      by_cases reconf : delivery.reply.verdict = .reconf
      · simp only [Option.filter_some, reconf, true_or, decide_true, if_true,
          Option.elim_some, ne_eq, not_true_eq_false, if_false]
        exact handleVerdict_agrees handlers usageMode nodeFails delivery agrees
      · by_cases own :
            delivery.reply.sessionId = state.1.sessionData.sessionId
        · simp only [Option.filter_some, own, or_true, decide_true, if_true,
            Option.elim_some, ne_eq, reconf, not_false_eq_true,
            not_true_eq_false, if_false]
          exact handleVerdict_agrees handlers usageMode nodeFails delivery
            agrees
        · have ignored : AgreesAfter state.2 (.inl (state.1.pop usageMode)) :=
            agrees
          simpa [Option.filter_some, own, reconf] using ignored

theorem Nano.serviceReplyReceiverBlocks_agrees {ω : Type*}
    {handlers : ResponseHandlers ω} {usageMode : SignalUsageMode}
    {nodeFails : Nat → Nat → Bool}
    {state : ReceiverState ω × ModificationBlocks}
    {result : NanoCommunicationResult} {last : ReceiverState ω}
    {blocks : ModificationBlocks}
    (agrees : state.2.Agrees state.1.modificationList)
    (returned : serviceReplyReceiverBlocks handlers usageMode nodeFails state =
      some (.returned result last, blocks)) :
    blocks.Agrees last.modificationList := by
  have kept : AgreesAfter blocks (.inr (.returned result last)) := by
    rw [serviceReplyReceiverBlocks] at returned
    split at returned
    · cases returned
      exact agrees
    · refine runLoop_invariant
        (fun state => state.2.Agrees state.1.modificationList)
        (fun final : Return ω × ModificationBlocks =>
          AgreesAfter final.2 (.inr final.1)) ?_ ?_ agrees returned
      · intro current next agrees pass
        obtain ⟨step, after⟩ := withBlocks_eq_inl pass
        have kept := receiveReply_agrees handlers usageMode nodeFails agrees
        rw [step] at kept
        rw [after]
        exact kept
      · intro current final agrees pass
        obtain ⟨step, after⟩ := withBlocks_eq_inr pass
        have kept := receiveReply_agrees handlers usageMode nodeFails agrees
        rw [step] at kept
        rw [after]
        exact kept
  exact kept

theorem Nginx.handleVerdict_agrees {ω : Type*} (handlers : ResponseHandlers ω)
    (nodeFails : Nat → Nat → Bool) (delivery : Delivery)
    {state : ReceiverState ω} {blocks : ModificationBlocks}
    (agrees : blocks.Agrees state.modificationList) :
    (handleBlocks linkNode Delivery.ngxPcalloc nodeFails delivery
      blocks).Agrees
        ((handleVerdict handlers delivery state).elim
          ReceiverState.modificationList fun result =>
            result.2.modificationList) := by
  rw [handleBlocks, handleVerdict]
  cases verdict : delivery.reply.verdict with
  | inject =>
      have injected : (injectBlocks linkNode delivery.ngxPcalloc
          (nodeFails blocks.handled) 0 delivery.reply.injectData.length
          blocks).Agrees _ :=
        injectBlocks_agrees delivery.reply.injectData agrees
      cases appended : appendModifications delivery.ngxPcalloc 0
          state.modificationList delivery.reply.injectData with
      | none =>
          rw [appended] at injected
          exact injected
      | some modificationList =>
          rw [appended] at injected
          exact injected
  | drop => rfl
  | customResponse => rfl
  | inspect => exact agrees
  | accept => exact agrees
  | irrelevant => exact agrees
  | reconf => exact agrees
  | delayed => exact agrees
  | limitResponseHeaders => exact agrees
  | other code => exact agrees

theorem Nginx.receiveReply_agrees {ω : Type*} (handlers : ResponseHandlers ω)
    (curSessionId : BitVec 32) (nodeFails : Nat → Nat → Bool)
    {state : ReceiverState ω × ModificationBlocks}
    (agrees : state.2.Agrees state.1.modificationList) :
    (blocksAfter (handledReply curSessionId)
      (handleBlocks linkNode Delivery.ngxPcalloc nodeFails) state).Agrees
        ((receiveReply handlers curSessionId state.1).elim
          ReceiverState.modificationList fun result =>
            result.2.modificationList) := by
  rw [blocksAfter, handledReply, receiveReply]
  by_cases none : state.1.expectedReplies = 0
  · simpa [none] using agrees
  simp only [if_neg none]
  cases found : state.1.queue.head? with
  | none => exact agrees
  | some delivery =>
      by_cases reconf : delivery.reply.verdict = .reconf
      · simp only [Option.filter_some, reconf, true_or, decide_true, if_true,
          Option.elim_some, ne_eq, not_true_eq_false, false_and, if_false]
        exact handleVerdict_agrees handlers nodeFails delivery agrees
      by_cases limit : delivery.reply.verdict = .limitResponseHeaders
      · simp only [Option.filter_some, limit, true_or, or_true, decide_true,
          if_true, Option.elim_some, ne_eq, not_true_eq_false, and_false,
          if_false]
        exact handleVerdict_agrees handlers nodeFails delivery agrees
      · by_cases own : delivery.reply.sessionId = curSessionId
        · simp only [Option.filter_some, own, or_true, decide_true, if_true,
            Option.elim_some, ne_eq, reconf, limit, not_false_eq_true,
            not_true_eq_false, and_self, if_false]
          exact handleVerdict_agrees handlers nodeFails delivery agrees
        · have ignored : state.2.Agrees
              (freeDataFromService state.1).modificationList :=
            agrees
          simpa [Option.filter_some, own, reconf, limit] using ignored

theorem Nginx.ngxHttpCpReplyReceiverBlocks_agrees {ω : Type*}
    {handlers : ResponseHandlers ω} {curSessionId : BitVec 32}
    {nodeFails : Nat → Nat → Bool}
    {state : ReceiverState ω × ModificationBlocks}
    {final : (NgxResult × ReceiverState ω) × ModificationBlocks}
    (agrees : state.2.Agrees state.1.modificationList)
    (returned : ngxHttpCpReplyReceiverBlocks handlers curSessionId nodeFails
      state = some final) :
    final.2.Agrees final.1.2.modificationList := by
  rw [ngxHttpCpReplyReceiverBlocks] at returned
  split at returned
  · cases returned
    exact agrees
  · refine runLoop_invariant
      (fun state => state.2.Agrees state.1.modificationList)
      (fun final => final.2.Agrees final.1.2.modificationList) ?_ ?_ agrees
      returned
    · intro current next agrees pass
      obtain ⟨step, after⟩ := withBlocks_eq_inl pass
      have kept := receiveReply_agrees handlers curSessionId nodeFails agrees
      rw [step] at kept
      rw [after]
      exact kept
    · intro current final agrees pass
      obtain ⟨step, after⟩ := withBlocks_eq_inr pass
      have kept := receiveReply_agrees handlers curSessionId nodeFails agrees
      rw [step] at kept
      rw [after]
      exact kept

namespace ModificationBlocks

/-- The live blocks are those of the nodes in the list. -/
def Balanced (blocks : ModificationBlocks) : Prop :=
  blocks.ledger.Balanced (blocks.nodes.flatMap NodeBlocks.blocks)

/-- Every release was in order, and an empty list has left no block. -/
structure ReleasedExactly (blocks : ModificationBlocks) : Prop where
  inOrder : blocks.ledger.faults = []
  emptied : blocks.nodes = [] → blocks.ledger.live = []

instance (blocks : ModificationBlocks) : Decidable blocks.ReleasedExactly :=
  decidable_of_iff
    (blocks.ledger.faults = [] ∧ (blocks.nodes = [] → blocks.ledger.live = []))
    ⟨fun released => ⟨released.1, released.2⟩,
      fun released => ⟨released.inOrder, released.emptied⟩⟩

theorem Balanced.releasedExactly {blocks : ModificationBlocks}
    (balanced : blocks.Balanced) : blocks.ReleasedExactly where
  inOrder := balanced.noFault
  emptied := by
    intro empty
    rw [Balanced, empty] at balanced
    exact balanced.live_eq_nil

theorem Balanced.free {blocks : ModificationBlocks}
    (balanced : blocks.Balanced) :
    (blocks.free NodeBlocks.bufferAndNode).Balanced := by
  have pointers : blocks.nodes.flatMap NodeBlocks.bufferAndNode =
      (blocks.nodes.flatMap NodeBlocks.blocks).map Pointer.start := by
    rw [List.map_flatMap]
    rfl
  rw [Balanced, ModificationBlocks.free, pointers]
  apply Ledger.Balanced.releaseAll
  rw [List.flatMap_nil, List.append_nil]
  exact balanced

theorem free_dataAndNode_releasedExactly_iff {blocks : ModificationBlocks}
    (balanced : blocks.Balanced) :
    (blocks.free NodeBlocks.dataAndNode).ReleasedExactly ↔
      blocks.nodes = [] := by
  cases nodes : blocks.nodes with
  | nil =>
      rw [Balanced, nodes] at balanced
      simp only [iff_true]
      constructor
      · simpa [ModificationBlocks.free, nodes, Ledger.releaseAll]
          using balanced.noFault
      · intro _
        simpa [ModificationBlocks.free, nodes, Ledger.releaseAll]
          using balanced.live_eq_nil
  | cons node rest =>
      apply iff_of_false
      · intro released
        have fault : (blocks.ledger.releaseAll
            (blocks.nodes.flatMap NodeBlocks.dataAndNode)).faults ≠ [] := by
          rw [nodes]
          exact Ledger.faults_releaseAll_inside
        exact fault released.inOrder
      · exact List.cons_ne_nil node rest

end ModificationBlocks

theorem createNodeBlocks_none {allocated nodeFails : Bool}
    {ledger after : Ledger} {owned : List Nat}
    (balanced : ledger.Balanced owned)
    (failed : createNodeBlocks allocated nodeFails ledger = (none, after)) :
    after.Balanced owned := by
  unfold createNodeBlocks at failed
  split_ifs at failed with enough fails
  · simp at failed
  · cases failed
    exact balanced
  · cases failed
    exact balanced.alloc.release

theorem createNodeBlocks_some {allocated nodeFails : Bool}
    {ledger after : Ledger} {owned : List Nat} {node : NodeBlocks}
    (balanced : ledger.Balanced owned)
    (created : createNodeBlocks allocated nodeFails ledger =
      (some node, after)) :
    after.Balanced (node.blocks ++ owned) := by
  unfold createNodeBlocks at created
  split_ifs at created
  · cases created
    exact balanced.alloc.alloc
  · simp at created
  · simp at created

/-- The records, from this one on, whose nodes are created before one
fails. -/
def createdNodes (allocated : Nat → Bool) : Nat → Nat → Nat
  | _, 0 => 0
  | index, count + 1 =>
      if allocated index then createdNodes allocated (index + 1) count + 1
      else 0

/-- An inject reply of the nano attachment keeps the balance when it creates no
node, or one for an empty list. -/
theorem Nano.injectBlocks_balanced {allocated nodeFails : Nat → Bool}
    {index count : Nat} {blocks : ModificationBlocks}
    (balanced : blocks.Balanced)
    (few : createdNodes allocated index count = 0 ∨
      blocks.nodes = [] ∧ createdNodes allocated index count ≤ 1) :
    (injectBlocks Nano.linkNode allocated nodeFails index count
      blocks).Balanced := by
  induction count generalizing index blocks with
  | zero => exact balanced
  | succ count induction =>
      rw [injectBlocks]
      rcases result : createNodeBlocks (allocated index) (nodeFails index)
        blocks.ledger with ⟨_ | node, after⟩
      · have kept : ModificationBlocks.Balanced
            { blocks with ledger := after } :=
          createNodeBlocks_none balanced result
        exact kept.free
      · have enough := createNodeBlocks_isSome (allocated index)
          (nodeFails index) blocks.ledger
        rw [result, Option.isSome_some] at enough
        have enough := enough.symm
        rw [createdNodes, if_pos enough] at few
        obtain ⟨empty, atMost⟩ := few.resolve_left (by omega)
        have kept := createNodeBlocks_some balanced result
        apply induction _ (Or.inl (by omega))
        rw [empty] at kept ⊢
        simpa [ModificationBlocks.Balanced, Nano.linkNode] using kept

theorem Nginx.injectBlocks_balanced {allocated nodeFails : Nat → Bool}
    {index count : Nat} {blocks : ModificationBlocks}
    (balanced : blocks.Balanced) :
    (injectBlocks Nginx.linkNode allocated nodeFails index count
      blocks).Balanced := by
  induction count generalizing index blocks with
  | zero => exact balanced
  | succ count induction =>
      rw [injectBlocks]
      rcases result : createNodeBlocks (allocated index) (nodeFails index)
        blocks.ledger with ⟨_ | node, after⟩
      · have kept : ModificationBlocks.Balanced
            { blocks with ledger := after } :=
          createNodeBlocks_none balanced result
        exact kept.free
      · have kept := createNodeBlocks_some balanced result
        apply induction
        rw [ModificationBlocks.Balanced, Nginx.linkNode, List.flatMap_append,
          List.flatMap_singleton]
        exact kept.perm List.perm_append_comm

/-- A reply that blocks finds no node to take down. -/
def BlocksEmptyList (delivery : Delivery) (blocks : ModificationBlocks) :
    Prop :=
  delivery.reply.verdict = .drop ∨ delivery.reply.verdict = .customResponse →
    blocks.nodes = []

instance (delivery : Delivery) (blocks : ModificationBlocks) :
    Decidable (BlocksEmptyList delivery blocks) :=
  inferInstanceAs (Decidable (_ → _))

/-- An inject reply creates no node, or one for an empty list. -/
def Nano.InjectsOne (delivery : Delivery) (blocks : ModificationBlocks) :
    Prop :=
  let created := createdNodes delivery.malloc 0
    delivery.reply.injectData.length
  delivery.reply.verdict = .inject →
    created = 0 ∨ blocks.nodes = [] ∧ created ≤ 1

instance (delivery : Delivery) (blocks : ModificationBlocks) :
    Decidable (Nano.InjectsOne delivery blocks) :=
  inferInstanceAs (Decidable (_ → _))

/-- The reply that a pass handles meets this condition. -/
def HandledReplyMeets {σ : Type*} (handledReply : σ → Option Delivery)
    (condition : Delivery → ModificationBlocks → Prop)
    (state : σ × ModificationBlocks) : Prop :=
  ∀ delivery, handledReply state.1 = some delivery →
    condition delivery state.2

instance {σ : Type*} (handledReply : σ → Option Delivery)
    (condition : Delivery → ModificationBlocks → Prop)
    [∀ delivery blocks, Decidable (condition delivery blocks)] :
    DecidablePred (HandledReplyMeets handledReply condition) :=
  fun state => inferInstanceAs
    (Decidable (∀ delivery ∈ handledReply state.1,
      condition delivery state.2))

theorem ModificationBlocks.free_of_nil {blocks : ModificationBlocks}
    (empty : blocks.nodes = []) (pointers : NodeBlocks → List Pointer) :
    blocks.free pointers = blocks := by
  cases blocks with
  | mk nodes ledger handled =>
      cases empty
      rfl

section Blocks

variable {link : List NodeBlocks → NodeBlocks → List NodeBlocks}
  {allocated : Delivery → Nat → Bool} {nodeFails : Nat → Nat → Bool}
  {delivery : Delivery} {blocks : ModificationBlocks}

/-- A reply that neither injects nor blocks leaves the blocks alone, and a
blocking one finds none. -/
theorem handleBlocks_balanced (balanced : blocks.Balanced)
    (injects : delivery.reply.verdict = .inject →
      (injectBlocks link (allocated delivery) (nodeFails blocks.handled) 0
        delivery.reply.injectData.length blocks).Balanced)
    (emptyList : BlocksEmptyList delivery blocks) :
    (handleBlocks link allocated nodeFails delivery blocks).Balanced := by
  rw [handleBlocks]
  rw [BlocksEmptyList] at emptyList
  cases verdict : delivery.reply.verdict with
  | inject => exact injects verdict
  | drop =>
      have empty := emptyList (Or.inl verdict)
      simp only [ModificationBlocks.free_of_nil empty]
      exact balanced
  | customResponse =>
      have empty := emptyList (Or.inr verdict)
      simp only [ModificationBlocks.free_of_nil empty]
      exact balanced
  | inspect => exact balanced
  | accept => exact balanced
  | irrelevant => exact balanced
  | reconf => exact balanced
  | delayed => exact balanced
  | limitResponseHeaders => exact balanced
  | other code => exact balanced

theorem handleBlocks_of_blocks
    (blocking : delivery.reply.verdict = .drop ∨
      delivery.reply.verdict = .customResponse) :
    handleBlocks link allocated nodeFails delivery blocks =
      { blocks.free NodeBlocks.dataAndNode with
        handled := blocks.handled + 1 } := by
  rcases blocking with drop | custom
  · simp [handleBlocks, drop]
  · simp [handleBlocks, custom]

end Blocks

theorem blocksAfter_balanced {σ : Type*}
    {handledReply : σ → Option Delivery}
    {handle : Delivery → ModificationBlocks → ModificationBlocks}
    {condition : Delivery → ModificationBlocks → Prop}
    {state : σ × ModificationBlocks} (balanced : state.2.Balanced)
    (meets : HandledReplyMeets handledReply condition state)
    (keeps : ∀ delivery, condition delivery state.2 →
      (handle delivery state.2).Balanced) :
    (blocksAfter handledReply handle state).Balanced := by
  rw [blocksAfter]
  cases handled : handledReply state.1 with
  | none => exact balanced
  | some delivery => exact keeps delivery (meets delivery handled)

/-- The nano receiver releases exactly in a run whose inject replies create at
most one node, for an empty list, and whose blocking replies find the list
empty. -/
theorem Nano.serviceReplyReceiverBlocks_releasedExactly {ω : Type*}
    {handlers : ResponseHandlers ω} {usageMode : SignalUsageMode}
    {nodeFails : Nat → Nat → Bool}
    {state : ReceiverState ω × ModificationBlocks}
    {final : Return ω × ModificationBlocks} (balanced : state.2.Balanced)
    (meets : Along (receiveReplyBlocks handlers usageMode nodeFails)
      (HandledReplyMeets (handledReply usageMode) fun delivery blocks =>
        InjectsOne delivery blocks ∧ BlocksEmptyList delivery blocks)
      (passes state.1.attachment) state)
    (returned : serviceReplyReceiverBlocks handlers usageMode nodeFails state =
      some final) :
    final.2.ReleasedExactly := by
  have passKeeps : ∀ state : ReceiverState ω × ModificationBlocks,
      state.2.Balanced →
      HandledReplyMeets (handledReply usageMode) (fun delivery blocks =>
        InjectsOne delivery blocks ∧ BlocksEmptyList delivery blocks) state →
      (blocksAfter (handledReply usageMode)
        (handleBlocks linkNode Delivery.malloc nodeFails) state).Balanced := by
    intro state balanced meets
    apply blocksAfter_balanced balanced meets
    rintro delivery ⟨one, emptyList⟩
    apply handleBlocks_balanced balanced _ emptyList
    intro inject
    exact injectBlocks_balanced balanced (one inject)
  rw [serviceReplyReceiverBlocks] at returned
  split at returned
  · cases returned
    exact balanced.releasedExactly
  · apply runLoop_of_along (fun state => state.2.Balanced)
      (fun result => result.2.ReleasedExactly) _ _ meets balanced returned
    · intro state next balanced meets pass
      rw [(withBlocks_eq_inl pass).2]
      exact passKeeps state balanced meets
    · intro state result balanced meets pass
      rw [(withBlocks_eq_inr pass).2]
      exact (passKeeps state balanced meets).releasedExactly

theorem Nginx.receiveReply_of_blocks {ω : Type*}
    (handlers : ResponseHandlers ω) {curSessionId : BitVec 32}
    {state : ReceiverState ω} {delivery : Delivery}
    (handled : handledReply curSessionId state = some delivery)
    (blocking : delivery.reply.verdict = .drop ∨
      delivery.reply.verdict = .customResponse) :
    ∃ result, receiveReply handlers curSessionId state = .inr result := by
  unfold handledReply at handled
  split at handled
  · cases handled
  · rename_i expected
    obtain ⟨found, current⟩ := Option.filter_eq_some_iff.mp handled
    rcases blocking with drop | custom
    · have own : delivery.reply.sessionId = curSessionId := by
        simpa [drop] using current
      simp [receiveReply, expected, found, drop, own, handleVerdict]
    · have own : delivery.reply.sessionId = curSessionId := by
        simpa [custom] using current
      simp [receiveReply, expected, found, custom, own, handleVerdict]

/-- The nginx receiver releases exactly just when every blocking reply of the
run finds the list empty. -/
theorem Nginx.ngxHttpCpReplyReceiverBlocks_releasedExactly_iff {ω : Type*}
    {handlers : ResponseHandlers ω} {curSessionId : BitVec 32}
    {nodeFails : Nat → Nat → Bool}
    {state : ReceiverState ω × ModificationBlocks}
    {final : (NgxResult × ReceiverState ω) × ModificationBlocks}
    (balanced : state.2.Balanced)
    (returned : ngxHttpCpReplyReceiverBlocks handlers curSessionId nodeFails
      state = some final) :
    final.2.ReleasedExactly ↔
      Along (receiveReplyBlocks handlers curSessionId nodeFails)
        (HandledReplyMeets (handledReply curSessionId) BlocksEmptyList)
        (state.1.queue.length + 2) state := by
  have keeps : ∀ state : ReceiverState ω × ModificationBlocks,
      state.2.Balanced → ∀ delivery, BlocksEmptyList delivery state.2 →
        (handleBlocks linkNode Delivery.ngxPcalloc nodeFails delivery
          state.2).Balanced := by
    intro state balanced delivery emptyList
    apply handleBlocks_balanced balanced _ emptyList
    intro _
    exact injectBlocks_balanced balanced
  have loop : ∀ {final}, runLoop
      (receiveReplyBlocks handlers curSessionId nodeFails)
      (state.1.queue.length + 2) state = some final →
      (final.2.ReleasedExactly ↔
        Along (receiveReplyBlocks handlers curSessionId nodeFails)
          (HandledReplyMeets (handledReply curSessionId) BlocksEmptyList)
          (state.1.queue.length + 2) state) := by
    intro final returned
    apply runLoop_iff_along (fun state => state.2.Balanced)
      (fun result => result.2.ReleasedExactly) _ _ balanced returned
    · intro state next balanced pass
      obtain ⟨step, after⟩ := withBlocks_eq_inl pass
      have meets : HandledReplyMeets (handledReply curSessionId)
          BlocksEmptyList state := by
        intro delivery handled blocking
        obtain ⟨result, leaves⟩ :=
          receiveReply_of_blocks handlers handled blocking
        rw [step] at leaves
        cases leaves
      rw [after]
      exact ⟨meets, blocksAfter_balanced balanced meets (keeps state balanced)⟩
    · intro state result balanced pass
      rw [(withBlocks_eq_inr pass).2]
      cases handled : handledReply curSessionId state.1 with
      | none =>
          simp only [blocksAfter, handled, Option.elim_none]
          apply iff_of_true balanced.releasedExactly
          intro delivery other
          rw [handled] at other
          cases other
      | some delivery =>
          have meetsIff : HandledReplyMeets (handledReply curSessionId)
              BlocksEmptyList state ↔ BlocksEmptyList delivery state.2 := by
            simp [HandledReplyMeets, handled]
          rw [meetsIff]
          simp only [blocksAfter, handled, Option.elim_some]
          by_cases blocking : delivery.reply.verdict = .drop ∨
              delivery.reply.verdict = .customResponse
          · rw [handleBlocks_of_blocks blocking]
            have taken :=
              ModificationBlocks.free_dataAndNode_releasedExactly_iff balanced
            constructor
            · intro released _
              exact taken.mp ⟨released.inOrder, released.emptied⟩
            · intro emptyList
              have released := taken.mpr (emptyList blocking)
              exact ⟨released.inOrder, released.emptied⟩
          · have emptyList : BlocksEmptyList delivery state.2 :=
              fun blocks => absurd blocks blocking
            have kept := keeps state balanced delivery emptyList
            exact iff_of_true kept.releasedExactly emptyList
  rw [ngxHttpCpReplyReceiverBlocks] at returned
  split at returned
  · rename_i none
    cases returned
    apply iff_of_true balanced.releasedExactly
    constructor
    · intro delivery handled
      simp [handledReply, none] at handled
    · simp [receiveReplyBlocks, withBlocks, receiveReply, none]
  · exact loop returned

/-- Both receivers release the blocks of their lists exactly where no blocking
reply finds a node; the nano attachment also has to inject one node at a time
into empty lists. -/
theorem modification_lists_released_exactly {ω : Type} :
    (∀ (handlers : ResponseHandlers ω) (usageMode : Nano.SignalUsageMode)
      (nodeFails : Nat → Nat → Bool)
      (state : Nano.ReceiverState ω × ModificationBlocks)
      (final : Nano.Return ω × ModificationBlocks), state.2.Balanced →
      Along (Nano.receiveReplyBlocks handlers usageMode nodeFails)
        (HandledReplyMeets (Nano.handledReply usageMode)
          fun delivery blocks =>
            Nano.InjectsOne delivery blocks ∧ BlocksEmptyList delivery blocks)
        (Nano.passes state.1.attachment) state →
      Nano.serviceReplyReceiverBlocks handlers usageMode nodeFails state =
        some final →
      final.2.ReleasedExactly) ∧
    (∀ (handlers : ResponseHandlers ω) (curSessionId : BitVec 32)
      (nodeFails : Nat → Nat → Bool)
      (state : Nginx.ReceiverState ω × ModificationBlocks)
      (final : (Nginx.NgxResult × Nginx.ReceiverState ω) ×
        ModificationBlocks), state.2.Balanced →
      Nginx.ngxHttpCpReplyReceiverBlocks handlers curSessionId nodeFails
        state = some final →
      (final.2.ReleasedExactly ↔
        Along (Nginx.receiveReplyBlocks handlers curSessionId nodeFails)
          (HandledReplyMeets (Nginx.handledReply curSessionId)
            BlocksEmptyList)
          (state.1.queue.length + 2) state)) := by
  constructor
  · intro handlers usageMode nodeFails state final balanced meets returned
    exact Nano.serviceReplyReceiverBlocks_releasedExactly balanced meets
      returned
  · intro handlers curSessionId nodeFails state final balanced returned
    exact Nginx.ngxHttpCpReplyReceiverBlocks_releasedExactly_iff balanced
      returned

/-- A reply for session 1, for which all allocations succeed. -/
def replyOf (verdict : ServiceVerdict) (injectData : List HttpInjectData) :
    Delivery where
  reply := { verdict, sessionId := 1, injectData, responseData := [] }
  malloc := fun _ => true
  ngxPcalloc := fun _ => true
  loadedAsyncMode := none

/-- An insertion into the first body buffer. -/
def bodyInsertion : HttpInjectData where
  injectionPos := 0
  modType := .inject
  isHeader := 0
  origBuffIndex := 0
  data := [65]

def ignoringHandlers : ResponseHandlers Unit where
  handleDropResponse := fun _ _ => ()
  handleCustomResponse := fun _ _ => ()

/-- No list, and nothing allocated. -/
def noBlocks : ModificationBlocks where
  nodes := []
  ledger := { fresh := 0, live := [], faults := [] }
  handled := 0

theorem noBlocks_balanced : noBlocks.Balanced where
  live_perm := List.Perm.refl []
  nodup := List.nodup_nil
  old := by simp [noBlocks]
  noFault := rfl

/-- The nano attachment waits for as many replies as there are. -/
def nanoWaiting (replies : List Delivery) :
    Nano.ReceiverState Unit × ModificationBlocks :=
  ({ attachment :=
      { isAsyncModeEnabled := false, currentConfigVersion := 0
        queue := fun _ => replies }
     sessionData :=
      { sessionId := 1, verdict := .inspect
        remainingMessagesToReply := replies.length }
     webResponseData := ()
     modificationList := [] }, noBlocks)

/-- The nginx module waits for as many replies as there are. -/
def nginxWaiting (replies : List Delivery) :
    Nginx.ReceiverState Unit × ModificationBlocks :=
  ({ queue := replies, expectedReplies := replies.length, verdict := .inspect
     inspectAllResponseHeaders := 1, modificationList := []
     webResponse := (), currentConfigVersion := 0 }, noBlocks)

/-- An inject reply whose second node gets no buffer. -/
def halfAllocated : Delivery :=
  { replyOf .inject [bodyInsertion, bodyInsertion] with
    malloc := fun index => index = 0
    ngxPcalloc := fun index => index = 0 }

theorem modification_lists_released_onFailure :
    (∃ final, Nano.serviceReplyReceiverBlocks ignoringHandlers .sync
        (fun _ _ => false)
        (nanoWaiting [halfAllocated, replyOf .drop []]) = some final ∧
      final.2.ledger.fresh = 3 ∧ final.2.ReleasedExactly) ∧
    (∃ final, Nginx.ngxHttpCpReplyReceiverBlocks ignoringHandlers 1
        (fun _ _ => false)
        (nginxWaiting [replyOf .inject [bodyInsertion], halfAllocated]) =
          some final ∧
      final.2.ledger.fresh = 5 ∧ final.2.ReleasedExactly) := by
  constructor
  · obtain ⟨final, returned, allocated⟩ := Option.map_eq_some_iff.mp
      (by decide : (Nano.serviceReplyReceiverBlocks ignoringHandlers .sync
        (fun _ _ => false)
        (nanoWaiting [halfAllocated, replyOf .drop []])).map
          (fun final => final.2.ledger.fresh) = some 3)
    have released := modification_lists_released_exactly.1 ignoringHandlers
      .sync (fun _ _ => false) _ final noBlocks_balanced (by decide) returned
    exact ⟨final, returned, allocated, released⟩
  · obtain ⟨final, returned, allocated⟩ := Option.map_eq_some_iff.mp
      (by decide : (Nginx.ngxHttpCpReplyReceiverBlocks ignoringHandlers 1
        (fun _ _ => false)
        (nginxWaiting [replyOf .inject [bodyInsertion],
          halfAllocated])).map
          (fun final => final.2.ledger.fresh) = some 5)
    have released := (modification_lists_released_exactly.2 ignoringHandlers
      1 (fun _ _ => false) _ final noBlocks_balanced returned).mpr
        (by decide)
    exact ⟨final, returned, allocated, released⟩

/-- A blocking reply after an insertion releases the inside of a node, in both
attachments.  Two insertions in one reply leave the nano attachment with an
empty list and four live blocks. -/
theorem modification_lists_misreleased :
    (Nano.serviceReplyReceiverBlocks ignoringHandlers .sync
        (fun _ _ => false)
        (nanoWaiting [replyOf .inject [bodyInsertion], replyOf .drop []])).map
          (fun final =>
            (final.2.ledger.faults, decide final.2.ReleasedExactly)) =
        some ([.inside 0 24], false) ∧
    (Nano.serviceReplyReceiverBlocks ignoringHandlers .sync
        (fun _ _ => false)
        (nanoWaiting [replyOf .inject [bodyInsertion, bodyInsertion]])).map
          (fun final => (final.2.nodes, final.2.ledger.live,
            decide final.2.ReleasedExactly)) =
        some ([], [3, 2, 1, 0], false) ∧
    (Nginx.ngxHttpCpReplyReceiverBlocks ignoringHandlers 1
        (fun _ _ => false)
        (nginxWaiting [replyOf .inject [bodyInsertion],
          replyOf .customResponse []])).map
          (fun final =>
            (final.2.ledger.faults, decide final.2.ReleasedExactly)) =
        some ([.inside 0 24], false) := by
  decide

end OpenAppsec
