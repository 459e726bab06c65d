import OpenAppsec.Library.CountedReader

/-!
# Replies from the service

The replies that the service leaves in a queue, and what both attachments take
from them.  What happens while an attachment handles a reply, its allocations
and the reload of its configuration, is recorded with the reply.
-/

namespace OpenAppsec

/-- `verdict` of a reply has sixteen bits; the switches have no case for the
other codes. -/
inductive ServiceVerdict where
  | inspect
  | accept
  | drop
  | inject
  | irrelevant
  | reconf
  | delayed
  | limitResponseHeaders
  | customResponse
  | other (code : Nat)
  deriving DecidableEq

inductive HttpModificationType where
  | append
  | inject
  | replace
  deriving DecidableEq

/-- The `injection_size` is the length of the data. -/
structure HttpInjectData where
  injectionPos : Int
  modType : HttpModificationType
  isHeader : UInt8
  origBuffIndex : UInt8
  data : List UInt8
  deriving DecidableEq

/-- The parts of `modify_data` that the verdicts read: the modifications, and
the bytes of a web response or of a custom response. -/
structure HttpReplyFromService where
  verdict : ServiceVerdict
  sessionId : BitVec 32
  injectData : List HttpInjectData
  responseData : List UInt8

/-- A reply, with what its handling meets: which allocations succeed in each
attachment, and the async mode in the configuration that it makes the nano
attachment load, if the load succeeds. -/
structure Delivery where
  reply : HttpReplyFromService
  malloc : Nat → Bool
  ngxPcalloc : Nat → Bool
  loadedAsyncMode : Option Bool

/-- The node of a modification list. -/
structure ModificationNode where
  injectionPos : Int
  modType : HttpModificationType
  injectionSize : Nat
  isHeader : UInt8
  origBuffIndex : UInt8
  modificationBuffer : List UInt8
  deriving DecidableEq

/-- `snprintf` copies up to the first zero byte. -/
def HttpInjectData.modificationNode (modification : HttpInjectData) :
    ModificationNode :=
  { injectionPos := modification.injectionPos
    modType := modification.modType
    injectionSize := modification.data.length
    isHeader := modification.isHeader
    origBuffIndex := modification.origBuffIndex
    modificationBuffer := modification.data.takeWhile (· ≠ 0) }

/-- `allocated` tells whether both allocations of the node succeed. -/
def createModificationNode (allocated : Bool) (modification : HttpInjectData) :
    Option ModificationNode :=
  if allocated then some modification.modificationNode else none

/-- What the web response and custom response handlers write; the receivers
never read it. -/
structure ResponseHandlers (ω : Type*) where
  handleDropResponse : Delivery → ω → ω
  handleCustomResponse : Delivery → ω → ω

/-- A reply that is not a reconfiguration and belongs to the session. -/
def Delivery.IsCurrent (session : BitVec 32) (delivery : Delivery) : Prop :=
  delivery.reply.verdict ≠ .reconf ∧ delivery.reply.sessionId = session

instance (session : BitVec 32) (delivery : Delivery) :
    Decidable (delivery.IsCurrent session) :=
  inferInstanceAs (Decidable (_ ∧ _))

/-- The verdicts after which the service sends no more replies. -/
def ServiceVerdict.IsFinal (verdict : ServiceVerdict) : Prop :=
  verdict = .accept ∨ verdict = .drop ∨ verdict = .customResponse

instance (verdict : ServiceVerdict) : Decidable verdict.IsFinal :=
  inferInstanceAs (Decidable (_ ∨ _))

/-- A reply that modifies or limits lets the session go on. -/
def ServiceVerdict.asInspect : ServiceVerdict → ServiceVerdict
  | .inject => .inspect
  | .limitResponseHeaders => .inspect
  | verdict => verdict

end OpenAppsec
