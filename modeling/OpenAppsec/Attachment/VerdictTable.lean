import Mathlib.Data.Nat.ModEq
import Mathlib.Tactic.NormNum
import OpenAppsec.Attachment.Senders
import OpenAppsec.Library.DirectMapped

/-!
# The asynchronous verdict table

Verdicts that arrive for asynchronous sessions wait in a table of 2048 slots
until they are asked for.  The slot of a session is a hash of its identifier,
and neither lookup nor removal looks at the identifier in the slot.
-/

namespace OpenAppsec.Nano

abbrev SessionID := BitVec 32

/-- A pointer to data that the table only passes on; zero is `NULL`. -/
abbrev Pointer := Nat

inductive AttachmentVerdict where
  | inspect
  | accept
  | drop
  | inject
  | delayed
  deriving DecidableEq, Inhabited

structure AttachmentVerdictResponse where
  verdict : AttachmentVerdict
  sessionId : SessionID
  webResponseData : Pointer
  modifications : Pointer
  deriving DecidableEq

/-- `CP_ASYNC_CTX_BUCKETS`. -/
def cpAsyncCtxBuckets : Nat := 2048

/-- Knuth's multiplicative hash, reduced to a bucket. -/
def nanoAttachmentAsyncCtxHash (sessionId : SessionID) : Nat :=
  (sessionId * 2654435761#32).toNat % cpAsyncCtxBuckets

/-- `async_buckets`. -/
abbrev AsyncBuckets := Nat → AttachmentVerdictResponse

/-- A bucket as `memset` leaves it. -/
def clearedResponse : AttachmentVerdictResponse :=
  { verdict := .inspect
    sessionId := 0
    webResponseData := 0
    modifications := 0 }

def nanoAsyncFindResponse (buckets : AsyncBuckets) (sessionId : SessionID) :
    AttachmentVerdictResponse :=
  buckets (nanoAttachmentAsyncCtxHash sessionId)

def generateFailedVerdict (failModeVerdict : NanoCommunicationResult)
    (sessionId : SessionID) : AttachmentVerdictResponse :=
  { verdict := if failModeVerdict = .ok then .accept else .drop
    sessionId
    webResponseData := 0
    modifications := 0 }

/-- `NanoAsyncAddResponse` for a response that is not `NULL`. -/
def nanoAsyncAddResponse (buckets : AsyncBuckets) (sessionId : SessionID)
    (response : AttachmentVerdictResponse) :
    NanoCommunicationResult × AsyncBuckets :=
  (.ok, Function.update buckets (nanoAttachmentAsyncCtxHash sessionId)
    response)

def nanoAsyncRemoveResponse (buckets : AsyncBuckets)
    (sessionId : SessionID) : AsyncBuckets :=
  Function.update buckets (nanoAttachmentAsyncCtxHash sessionId)
    clearedResponse

/-- `PopFromNanoQueue`, given the response that it takes from the queue. -/
def popFromNanoQueue (buckets : AsyncBuckets)
    (response : AttachmentVerdictResponse) : SessionID × AsyncBuckets :=
  if response.sessionId = 0 then (0, buckets)
  else
    let (res, buckets) :=
      nanoAsyncAddResponse buckets response.sessionId response
    if res ≠ .ok then (0, buckets) else (response.sessionId, buckets)

def getAttachmentVerdictResponse (failModeVerdict : NanoCommunicationResult)
    (buckets : AsyncBuckets) (sessionId : SessionID) :
    AttachmentVerdictResponse × AsyncBuckets :=
  let response := nanoAsyncFindResponse buckets sessionId
  let buckets := nanoAsyncRemoveResponse buckets sessionId
  if response.sessionId = 0 then
    (generateFailedVerdict failModeVerdict sessionId, buckets)
  else
    (response, buckets)

/-- A session identifier in use. -/
abbrev LiveSession := { sessionId : SessionID // sessionId ≠ 0 }

/-- The part of a response that does not name its session. -/
structure Verdict where
  verdict : AttachmentVerdict
  webResponseData : Pointer
  modifications : Pointer
  deriving Inhabited

def Verdict.response (verdict : Verdict) (session : LiveSession) :
    AttachmentVerdictResponse :=
  { verdict := verdict.verdict
    sessionId := session.val
    webResponseData := verdict.webResponseData
    modifications := verdict.modifications }

/-- A verdict arrives for a session, or the session asks for its verdict. -/
abbrev TableCall := DirectMapped.Call LiveSession Verdict

/-- What a call on the table returns. -/
inductive TableAnswer where
  | added (sessionId : SessionID)
  | found (response : AttachmentVerdictResponse)
  deriving DecidableEq

def tableStep (failModeVerdict : NanoCommunicationResult)
    (buckets : AsyncBuckets) (call : TableCall) :
    TableAnswer × AsyncBuckets :=
  match call with
  | .put session verdict =>
      let (sessionId, buckets) :=
        popFromNanoQueue buckets (verdict.response session)
      (.added sessionId, buckets)
  | .take session =>
      let (response, buckets) :=
        getAttachmentVerdictResponse failModeVerdict buckets session.val
      (.found response, buckets)

/-- The answer that goes with the entry a call finds: the response of its
session, or the failed verdict. -/
def answer (failModeVerdict : NanoCommunicationResult) (call : TableCall)
    (entry : Option (LiveSession × Verdict)) : TableAnswer :=
  match call with
  | .put session _ => .added session.val
  | .take session =>
      .found
        (match entry with
        | none => generateFailedVerdict failModeVerdict session.val
        | some (owner, verdict) => verdict.response owner)

/-- The table that keeps the last verdict of each session until the session
asks for it. -/
def pendingStep (failModeVerdict : NanoCommunicationResult) :
    DirectMapped.Slots LiveSession LiveSession Verdict → TableCall →
      TableAnswer × DirectMapped.Slots LiveSession LiveSession Verdict :=
  DirectMapped.step id (answer failModeVerdict)

def liveHash (session : LiveSession) : Nat :=
  nanoAttachmentAsyncCtxHash session.val

/-- The bucket holds the entry of a slot, or no session. -/
def HoldsEntry (response : AttachmentVerdictResponse) :
    Option (LiveSession × Verdict) → Prop
  | none => response.sessionId = 0
  | some (session, verdict) => response = verdict.response session

theorem update_holdsEntry {buckets : AsyncBuckets}
    {slots : DirectMapped.Slots Nat LiveSession Verdict}
    (holds : ∀ bucket, HoldsEntry (buckets bucket) (slots bucket))
    (bucket : Nat) {response : AttachmentVerdictResponse}
    {entry : Option (LiveSession × Verdict)}
    (stored : HoldsEntry response entry) (other : Nat) :
    HoldsEntry (Function.update buckets bucket response other)
      (Function.update slots bucket entry other) := by
  by_cases same : other = bucket
  · subst same
    rw [Function.update_self, Function.update_self]
    exact stored
  · rw [Function.update_of_ne same, Function.update_of_ne same]
    exact holds other

theorem tableStep_directMapped (failModeVerdict : NanoCommunicationResult)
    {buckets : AsyncBuckets}
    {slots : DirectMapped.Slots Nat LiveSession Verdict}
    (holds : ∀ bucket, HoldsEntry (buckets bucket) (slots bucket))
    (call : TableCall) :
    let mapped := DirectMapped.step liveHash (answer failModeVerdict) slots
      call
    (tableStep failModeVerdict buckets call).1 = mapped.1 ∧
      ∀ bucket, HoldsEntry ((tableStep failModeVerdict buckets call).2 bucket)
        (mapped.2 bucket) := by
  cases call with
  | put session verdict =>
      have live : (verdict.response session).sessionId ≠ 0 := session.property
      simp only [tableStep, popFromNanoQueue, if_neg live,
        nanoAsyncAddResponse, ne_eq, not_true_eq_false, if_false]
      exact ⟨rfl, update_holdsEntry holds _ rfl⟩
  | take session =>
      have found := holds (liveHash session)
      simp only [tableStep, getAttachmentVerdictResponse, DirectMapped.step,
        answer]
      cases entry : slots (liveHash session) with
      | none =>
          rw [entry] at found
          have absent : (nanoAsyncFindResponse buckets
              session.val).sessionId = 0 := found
          rw [if_pos absent]
          exact ⟨rfl, update_holdsEntry holds _ rfl⟩
      | some pair =>
          obtain ⟨owner, verdict⟩ := pair
          rw [entry] at found
          have same : nanoAsyncFindResponse buckets session.val =
              verdict.response owner := found
          have live : (nanoAsyncFindResponse buckets
              session.val).sessionId ≠ 0 := by
            rw [same]
            exact owner.property
          rw [if_neg live, same]
          exact ⟨rfl, update_holdsEntry holds _ rfl⟩

theorem liveHash_eq (session : LiveSession) :
    liveHash session =
      session.val.toNat * 2654435761 % cpAsyncCtxBuckets := by
  have divides : cpAsyncCtxBuckets ∣ 2 ^ 32 :=
    ⟨2 ^ 21, by norm_num [cpAsyncCtxBuckets]⟩
  have low := Nat.mod_mod_of_dvd (session.val.toNat * 2654435761) divides
  unfold liveHash nanoAttachmentAsyncCtxHash
  rw [BitVec.toNat_mul]
  exact low

theorem liveHash_eq_iff (first second : LiveSession) :
    liveHash first = liveHash second ↔
      first.val.toNat % cpAsyncCtxBuckets =
        second.val.toNat % cpAsyncCtxBuckets := by
  have odd : Nat.Coprime 2 2654435761 := by decide
  have coprime : Nat.gcd cpAsyncCtxBuckets 2654435761 = 1 :=
    odd.pow_left 11
  rw [liveHash_eq, liveHash_eq]
  constructor
  · intro same
    exact Nat.ModEq.cancel_right_of_coprime coprime same
  · intro same
    exact Nat.ModEq.mul_right _ same

/-- The table separates a set of live sessions exactly when no two of them
agree in their low eleven bits. -/
theorem verdict_table_separates_iff
    (failModeVerdict : NanoCommunicationResult) (live : Set LiveSession) :
    (∀ calls : List TableCall, (∀ call ∈ calls, call.key ∈ live) →
      (Trace.run (tableStep failModeVerdict) (fun _ => clearedResponse)
          calls).1 =
        (Trace.run (pendingStep failModeVerdict) DirectMapped.empty
          calls).1) ↔
      ∀ first ∈ live, ∀ second ∈ live,
        first.val.toNat % cpAsyncCtxBuckets =
          second.val.toNat % cpAsyncCtxBuckets →
        first = second := by
  have refines : ∀ calls,
      (Trace.run (tableStep failModeVerdict) (fun _ => clearedResponse)
          calls).1 =
        (Trace.run (DirectMapped.step liveHash (answer failModeVerdict))
          DirectMapped.empty calls).1 := by
    intro calls
    have cleared : ∀ bucket : Nat, HoldsEntry clearedResponse
        (DirectMapped.empty bucket) := fun _ => rfl
    refine (Trace.run_lockstep (fun _ _ => True)
      (fun (buckets : AsyncBuckets)
          (slots : DirectMapped.Slots Nat LiveSession Verdict) =>
        ∀ bucket, HoldsEntry (buckets bucket) (slots bucket))
      ?_ cleared
      (Trace.along_of_forall _ (fun _ _ => trivial) _ _)).1
    intro buckets slots call holds _
    exact tableStep_directMapped failModeVerdict holds call
  have separates_iff : (∀ calls : List TableCall,
      (∀ call ∈ calls, call.key ∈ live) →
      (Trace.run (tableStep failModeVerdict) (fun _ => clearedResponse)
          calls).1 =
        (Trace.run (pendingStep failModeVerdict) DirectMapped.empty
          calls).1) ↔
      DirectMapped.Separates liveHash (answer failModeVerdict) live := by
    simp only [refines]
    rfl
  rw [separates_iff]
  constructor
  · intro separates first member second memberSecond collide
    apply DirectMapped.injOn_of_separates _ separates member memberSecond
    · exact (liveHash_eq_iff first second).mpr collide
    · intro session owner verdict different same
      apply different
      have owned := congrArg AttachmentVerdictResponse.sessionId
        (TableAnswer.found.inj same)
      exact Subtype.ext owned.symm
  · intro apart
    apply DirectMapped.separates_of_injOn
    intro first member second memberSecond collide
    exact apart first member second memberSecond
      ((liveHash_eq_iff first second).mp collide)

/-- The verdict of session 1 is handed to session 2049. -/
theorem verdict_table_mixes_sessions :
    let calls : List TableCall :=
      [.put ⟨1, by decide⟩ ⟨.drop, 0, 0⟩, .take ⟨2049, by decide⟩,
        .take ⟨1, by decide⟩]
    (Trace.run (tableStep .ok) (fun _ => clearedResponse) calls).1 ≠
      (Trace.run (pendingStep .ok) DirectMapped.empty calls).1 := by
  decide +kernel

end OpenAppsec.Nano
