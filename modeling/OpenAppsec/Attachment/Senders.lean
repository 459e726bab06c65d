import OpenAppsec.Library.RetryLoop

/-!
# Sending a chunk to the service

Both attachments offer a chunk to the ring queue up to five times and signal
the service in between.  The poll and read outcomes of the signal step and
the result of each push are inputs.
-/

namespace OpenAppsec

/-- `CORRUPTED_SESSION_ID`. -/
def corruptedSessionId : Nat := 0

namespace Nano

inductive NanoCommunicationResult where
  | ok
  | error
  | abort
  | again
  | httpForbidden
  | declined
  | timeout
  deriving DecidableEq

inductive SignalUsageMode where
  | sync
  | async
  deriving DecidableEq

/-- One round of `poll` and `read` on the communication socket. -/
inductive PollEvent where
  | pollFailed
  | pollTimeout
  | readFailed
  | read (replyFromService : Nat)

/-- What one signal step meets: the result of `notify_signal_to_service` and
the rounds after it. -/
structure SignalEvents where
  notified : NanoCommunicationResult
  polls : Nat → PollEvent

/-- The acknowledgement loop with `retries` rounds left. -/
def awaitAck (curSessionId : Nat) (polls : Nat → PollEvent) :
    Nat → Nat → NanoCommunicationResult
  | 0, _ => .timeout
  | retries + 1, round =>
      match polls round with
      | .pollFailed => .error
      | .pollTimeout => awaitAck curSessionId polls retries (round + 1)
      | .readFailed => .error
      | .read replyFromService =>
          if replyFromService = curSessionId then .ok
          else if replyFromService = corruptedSessionId then .error
          else .again

def signalForSessionData (curSessionId : Nat) (usageMode : SignalUsageMode)
    (events : SignalEvents) : NanoCommunicationResult :=
  if events.notified ≠ .ok then events.notified
  else if usageMode = .async then .ok
  else awaitAck curSessionId events.polls 3 0

/-- One attempt: what `sendChunkedData` returns, what the signal step after it
meets, and what a restart of the communication returns. -/
structure Attempt where
  errCode : Int
  signal : SignalEvents
  restarted : NanoCommunicationResult

/-- The result of a sender, with the results of its pushes. -/
structure SendOutcome where
  result : NanoCommunicationResult
  errCodes : List Int

def sendAttempts (curSessionId : Nat) (usageMode : SignalUsageMode) :
    NanoCommunicationResult → List Attempt → SendOutcome
  | _, [] => { result := .error, errCodes := [] }
  | res, attempt :: attempts =>
      if res = .ok ∧ attempt.errCode = 0 then
        { result := .ok, errCodes := [attempt.errCode] }
      else
        let signalled :=
          signalForSessionData curSessionId usageMode attempt.signal
        let res := if signalled = .error then attempt.restarted else signalled
        if signalled = .error ∧ res = .error then
          { result := .error, errCodes := [attempt.errCode] }
        else
          let rest := sendAttempts curSessionId usageMode res attempts
          { rest with errCodes := attempt.errCode :: rest.errCodes }

def sendSessionDataToService (curSessionId : Nat)
    (usageMode : SignalUsageMode) (attempts : Fin 5 → Attempt) :
    SendOutcome :=
  sendAttempts curSessionId usageMode .ok (List.ofFn attempts)

end Nano

namespace Nginx

/-- The result codes of the module functions. -/
inductive NgxResult where
  | ok
  | error
  | again
  | httpForbidden
  | httpRequestTimeOut
  deriving DecidableEq

/-- `read` into the bytes of the reply that are still missing. -/
inductive ReadEvent where
  | failed
  | incomplete
  | complete (replyFromService : Nat)

/-- One round of `poll` and `read` on the communication socket. -/
inductive PollEvent where
  | pollFailed
  | pollTimeout
  | ready (hangup : Bool) (read : ReadEvent)

/-- The settings that decide how long a wait goes on. -/
structure WaitMode where
  nonBlockingThread : Bool
  toutRetries : Int
  asyncFilter : Bool

/-- The loop of `ngx_http_cp_wait_for_service`; `none` while it goes on. -/
def awaitReply (mode : WaitMode) (curSessionId : Nat) :
    Int → List PollEvent → Option NgxResult
  | retry, [] =>
      if retry < mode.toutRetries then none else some .httpRequestTimeOut
  | retry, event :: events =>
      if retry < mode.toutRetries then
        -- without fail open, the retries are not counted
        let retry := if mode.nonBlockingThread then retry + 1 else retry
        match event with
        | .pollFailed => some .error
        | .pollTimeout => awaitReply mode curSessionId retry events
        | .ready hangup read =>
            if mode.asyncFilter && hangup then some .error
            else
              match read with
              | .failed => some .error
              | .incomplete => awaitReply mode curSessionId retry events
              | .complete replyFromService =>
                  if replyFromService = curSessionId then some .ok
                  else if replyFromService = corruptedSessionId then
                    some .error
                  else
                    some .again
      else
        some .httpRequestTimeOut

/-- `none` while the wait goes on after a successful signal. -/
def ngxHttpCpWaitForService (mode : WaitMode) (curSessionId : Nat)
    (signalled : NgxResult) (events : List PollEvent) : Option NgxResult :=
  if signalled ≠ .ok then some signalled
  else awaitReply mode curSessionId 0 events

/-- A wait that has returned. -/
structure Wait (mode : WaitMode) (curSessionId : Nat) where
  signalled : NgxResult
  events : List PollEvent
  result : NgxResult
  returns : ngxHttpCpWaitForService mode curSessionId signalled events =
    some result

/-- One attempt: what `sendChunkedData` returns, and the wait after it. -/
structure Attempt (mode : WaitMode) (curSessionId : Nat) where
  errCode : Int
  wait : Wait mode curSessionId

/-- The result of a sender, with the results of its pushes and whether it set
`was_waiting`. -/
structure SendOutcome where
  result : NgxResult
  errCodes : List Int
  wasWaiting : Bool

def sendAttempts {mode : WaitMode} {curSessionId : Nat} :
    NgxResult → List (Attempt mode curSessionId) → SendOutcome
  | _, [] => { result := .error, errCodes := [], wasWaiting := false }
  | res, attempt :: attempts =>
      if res = .ok ∧ attempt.errCode = 0 then
        { result := .ok, errCodes := [attempt.errCode], wasWaiting := false }
      else
        let res := attempt.wait.result
        if res ≠ .ok ∧ res ≠ .again then
          { result := res, errCodes := [attempt.errCode], wasWaiting := true }
        else
          let rest := sendAttempts res attempts
          { rest with
            errCodes := attempt.errCode :: rest.errCodes
            wasWaiting := true }

def ngxHttpCpSendDataToService {mode : WaitMode} {curSessionId : Nat}
    (attempts : Fin 5 → Attempt mode curSessionId) : SendOutcome :=
  sendAttempts .ok (List.ofFn attempts)

end Nginx

/-- The copies of the message that the ring queue accepted. -/
def copies (errCodes : List Int) : Nat :=
  errCodes.count 0

@[simp] theorem copies_nil : copies [] = 0 :=
  rfl

@[simp] theorem copies_cons (errCode : Int) (errCodes : List Int) :
    copies (errCode :: errCodes) =
      copies errCodes + (decide (errCode = 0)).toNat := by
  unfold copies
  rw [List.count_cons]
  by_cases accepted : errCode = 0
  · simp [accepted]
  · simp [accepted]

namespace Nano

/-- The outcome as an observer of the ring queue sees it. -/
def SendOutcome.observed (outcome : SendOutcome) : RetryLoop.Outcome :=
  { success := decide (outcome.result = .ok)
    copies := copies outcome.errCodes }

/-- An attempt, with an answer unless a restart fails; the answer is good when
the service acknowledges or the communication is restarted. -/
def Attempt.offered (curSessionId : Nat) (usageMode : SignalUsageMode)
    (attempt : Attempt) : RetryLoop.Attempt :=
  let signalled := signalForSessionData curSessionId usageMode attempt.signal
  { accepted := decide (attempt.errCode = 0)
    answered :=
      if signalled = .error then
        if attempt.restarted = .error then none
        else some (decide (attempt.restarted = .ok))
      else
        some (decide (signalled = .ok)) }

theorem sendAttempts_observed (curSessionId : Nat)
    (usageMode : SignalUsageMode) (res : NanoCommunicationResult)
    (attempts : List Attempt) :
    (sendAttempts curSessionId usageMode res attempts).observed =
      RetryLoop.offer (decide (res = .ok))
        (attempts.map (Attempt.offered curSessionId usageMode)) := by
  induction attempts generalizing res with
  | nil => rfl
  | cons attempt attempts induction =>
      simp only [sendAttempts, List.map_cons, RetryLoop.offer,
        Attempt.offered, ← Bool.decide_and, decide_eq_true_eq]
      by_cases sent : res = .ok ∧ attempt.errCode = 0
      · rw [if_pos sent, if_pos sent]
        simp [SendOutcome.observed, sent.2]
      rw [if_neg sent, if_neg sent]
      by_cases failed :
          signalForSessionData curSessionId usageMode attempt.signal = .error
      · by_cases gaveUp : attempt.restarted = .error
        · simp only [failed, gaveUp, and_self, if_true]
          simp [SendOutcome.observed]
        · simp only [failed, gaveUp, and_false, if_true, if_false]
          have rest := induction attempt.restarted
          simp only [SendOutcome.observed] at rest ⊢
          rw [copies_cons, ← rest]
      · simp only [failed, false_and, if_false]
        have rest := induction
          (signalForSessionData curSessionId usageMode attempt.signal)
        simp only [SendOutcome.observed] at rest ⊢
        rw [copies_cons, ← rest]

end Nano

namespace Nginx

/-- The outcome as an observer of the ring queue sees it. -/
def SendOutcome.observed (outcome : SendOutcome) : RetryLoop.Outcome :=
  { success := decide (outcome.result = .ok)
    copies := copies outcome.errCodes }

/-- An attempt, with an answer unless the wait fails or times out. -/
def Attempt.offered {mode : WaitMode} {curSessionId : Nat}
    (attempt : Attempt mode curSessionId) : RetryLoop.Attempt :=
  { accepted := decide (attempt.errCode = 0)
    answered :=
      if attempt.wait.result = .ok then some true
      else if attempt.wait.result = .again then some false
      else none }

theorem sendAttempts_observed {mode : WaitMode} {curSessionId : Nat}
    (res : NgxResult) (attempts : List (Attempt mode curSessionId)) :
    (sendAttempts res attempts).observed =
      RetryLoop.offer (decide (res = .ok)) (attempts.map Attempt.offered) := by
  induction attempts generalizing res with
  | nil => rfl
  | cons attempt attempts induction =>
      simp only [sendAttempts, List.map_cons, RetryLoop.offer,
        Attempt.offered, ← Bool.decide_and, decide_eq_true_eq]
      by_cases sent : res = .ok ∧ attempt.errCode = 0
      · rw [if_pos sent, if_pos sent]
        simp [SendOutcome.observed, sent.2]
      rw [if_neg sent, if_neg sent]
      have rest := induction attempt.wait.result
      simp only [SendOutcome.observed] at rest ⊢
      cases answer : attempt.wait.result with
      | ok =>
          rw [answer] at rest
          change _ = RetryLoop.offer true _ at rest
          simp [← rest]
      | again =>
          rw [answer] at rest
          change _ = RetryLoop.offer false _ at rest
          simp [← rest]
      | error => simp
      | httpForbidden => simp
      | httpRequestTimeOut => simp

end Nginx

/-- A chunk is enqueued exactly once precisely when the first push that the
ring queue accepts is not preceded by an unanswered signal: in the nano
attachment by a signal answered for another session or not in time, in the
nginx attachment by a signal answered for another session. -/
theorem senders_exactly_once_iff (curSessionId : Nat)
    (usageMode : Nano.SignalUsageMode) (nano : Fin 5 → Nano.Attempt)
    (mode : Nginx.WaitMode)
    (nginx : Fin 5 → Nginx.Attempt mode curSessionId) :
    ((Nano.sendSessionDataToService curSessionId usageMode
          nano).observed.ExactlyOnce ↔
        RetryLoop.FirstCopyAnswered true
          ((List.ofFn nano).map
            (Nano.Attempt.offered curSessionId usageMode))) ∧
      ((Nginx.ngxHttpCpSendDataToService nginx).observed.ExactlyOnce ↔
        RetryLoop.FirstCopyAnswered true
          ((List.ofFn nginx).map Nginx.Attempt.offered)) := by
  constructor
  · unfold Nano.sendSessionDataToService
    rw [Nano.sendAttempts_observed]
    exact RetryLoop.offer_exactlyOnce_iff _ _
  · unfold Nginx.ngxHttpCpSendDataToService
    rw [Nginx.sendAttempts_observed]
    exact RetryLoop.offer_exactlyOnce_iff _ _

/-- The first push finds the queue full, and the service answers for another
session; the second push is accepted but repeated after the answer. -/
theorem senders_enqueue_twice :
    let answering (reply : Nat) : Nano.SignalEvents :=
      { notified := .ok
        polls := fun _ => .read reply }
    let nano (attempt : Fin 5) : Nano.Attempt :=
      { errCode := if attempt = 0 then -3 else 0
        signal := answering (if attempt = 0 then 8 else 7)
        restarted := .ok }
    let waiting (reply : Nat) (result : Nginx.NgxResult)
        (returns : Nginx.ngxHttpCpWaitForService ⟨true, 3, false⟩ 7 .ok
          [.ready false (.complete reply)] = some result) :
        Nginx.Wait ⟨true, 3, false⟩ 7 :=
      { signalled := .ok
        events := [.ready false (.complete reply)]
        result
        returns }
    let nginx (attempt : Fin 5) : Nginx.Attempt ⟨true, 3, false⟩ 7 :=
      if attempt = 0 then
        { errCode := -3, wait := waiting 8 .again (by decide) }
      else
        { errCode := 0, wait := waiting 7 .ok (by decide) }
    ¬(Nano.sendSessionDataToService 7 .sync nano).observed.ExactlyOnce ∧
      ¬(Nginx.ngxHttpCpSendDataToService nginx).observed.ExactlyOnce := by
  constructor
  · intro once
    exact absurd once.atMostOne (by decide)
  · intro once
    exact absurd once.atMostOne (by decide)

end OpenAppsec
