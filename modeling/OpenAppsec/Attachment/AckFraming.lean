import OpenAppsec.Attachment.Senders
import OpenAppsec.Library.LengthPrefixed
import OpenAppsec.Library.WordStream

/-!
# Acknowledgements on the signal sockets

The service writes the identifier of a session as four bytes.  A call takes
these bytes as the socket delivers them and forgets, when it returns, how far
into an identifier it came.
-/

namespace OpenAppsec

open LengthPrefixed WordStream

variable {curSessionId : BitVec 32}

/-- An identifier on a socket. -/
def ackCode : Code (BitVec 32) where
  width := 4
  encode := fun sessionId => littleEndian 4 sessionId.toNat
  positive := by decide
  length_encode := fun sessionId => length_littleEndian 4 sessionId.toNat

/-- The bytes of a `uint32_t` as a number. -/
def uint32Of (bytes : List UInt8) : BitVec 32 :=
  BitVec.ofNat 32 (Nat.ofDigits 256 (bytes.map UInt8.toNat))

@[simp] theorem uint32Of_encode (sessionId : BitVec 32) :
    uint32Of (ackCode.encode sessionId) = sessionId := by
  have small : sessionId.toNat < 256 ^ 4 := sessionId.isLt
  simp [uint32Of, ackCode, ofDigits_littleEndian small]

/-- What a round of `poll` and `read` meets.  A ready socket delivers at most
so many bytes, and none when it is closed or fails. -/
inductive SocketEvent where
  | pollFailed
  | pollTimeout
  | ready (hangup : Bool) (bytes : Nat)

/-- One to three bytes of an identifier. -/
def SocketEvent.IsPart : SocketEvent → Prop
  | .ready _ bytes => 0 < bytes ∧ bytes < 4
  | _ => False

/-- The result of a call that saw no identifier. -/
def unseen {ρ : Type} (curSessionId : BitVec 32) (taken : List UInt8)
    (result : ρ) : Reading (BitVec 32) ρ :=
  { expected := curSessionId, taken := taken, word := none, result := result }

namespace Nano

/-- A call of `signal_for_session_data`: the result of
`notify_signal_to_service`, what the rounds after it meet, and what
`reply_from_service` holds before it is read. -/
structure SignalCall where
  curSessionId : BitVec 32
  usageMode : SignalUsageMode
  notified : NanoCommunicationResult
  rounds : Nat → SocketEvent
  uninitialized : Fin 4 → UInt8

namespace SignalCall

/-- `reply_from_service` after a read at its start. -/
def replyFromService (call : SignalCall) (taken : List UInt8) : BitVec 32 :=
  uint32Of (taken ++ (List.ofFn call.uninitialized).drop taken.length)

/-- The loop with so many retries left. -/
def awaitAck (call : SignalCall) (stream : ByteMemory) (start : Nat) :
    Nat → Nat → Reading (BitVec 32) NanoCommunicationResult
  | 0, _ => unseen call.curSessionId [] .timeout
  | retries + 1, round =>
      match call.rounds round with
      | .pollFailed => unseen call.curSessionId [] .error
      | .pollTimeout => call.awaitAck stream start retries (round + 1)
      | .ready _ bytes =>
          let taken := stream.read start (min bytes 4)
          if taken = [] then unseen call.curSessionId [] .error
          else
            let replyFromService := call.replyFromService taken
            { expected := call.curSessionId
              taken := taken
              word := some replyFromService
              result :=
                if replyFromService = call.curSessionId then .ok
                else if replyFromService.toNat = corruptedSessionId then .error
                else .again }

def signalForSessionData (call : SignalCall) (stream : ByteMemory)
    (start : Nat) : Reading (BitVec 32) NanoCommunicationResult :=
  if call.notified ≠ .ok then unseen call.curSessionId [] call.notified
  else if call.usageMode = .async then unseen call.curSessionId [] .ok
  else call.awaitAck stream start 3 0

/-- A call as a reader of the socket of its usage mode. -/
def reader (call : SignalCall) :
    Reader SignalUsageMode (BitVec 32) NanoCommunicationResult where
  source := call.usageMode
  read := call.signalForSessionData

/-- The round that reads, of the three after a signal, gets one to three
bytes. -/
def ReadsPart (call : SignalCall) : Prop :=
  call.notified = .ok ∧ call.usageMode = .sync ∧
    ∃ round < 3, (∀ earlier < round, call.rounds earlier = .pollTimeout) ∧
      (call.rounds round).IsPart

end SignalCall

end Nano

namespace Nginx

/-- The retries after one more round; without fail open, they are not
counted. -/
def WaitMode.counted (mode : WaitMode) (retry : Int) : Int :=
  if mode.nonBlockingThread then retry + 1 else retry

/-- The loop of `ngx_http_cp_wait_for_service`, with what
`reply_from_service` holds so far; `none` while it goes on. -/
def awaitReplyBytes (mode : WaitMode) (curSessionId : BitVec 32)
    (stream : ByteMemory) (start : Nat) :
    Int → List UInt8 → List SocketEvent →
      Option (Reading (BitVec 32) NgxResult)
  | retry, reply, [] =>
      if retry < mode.toutRetries then none
      else some (unseen curSessionId reply .httpRequestTimeOut)
  | retry, reply, event :: events =>
      if retry < mode.toutRetries then
        let retry := mode.counted retry
        match event with
        | .pollFailed => some (unseen curSessionId reply .error)
        | .pollTimeout =>
            awaitReplyBytes mode curSessionId stream start retry reply events
        | .ready hangup bytes =>
            if mode.asyncFilter && hangup then
              some (unseen curSessionId reply .error)
            else
              let taken := stream.read (start + reply.length)
                (min bytes (4 - reply.length))
              if taken = [] then some (unseen curSessionId reply .error)
              else
                let reply := reply ++ taken
                if reply.length ≠ 4 then
                  awaitReplyBytes mode curSessionId stream start retry reply
                    events
                else
                  some
                    { expected := curSessionId
                      taken := reply
                      word := some (uint32Of reply)
                      result :=
                        if uint32Of reply = curSessionId then .ok
                        else if (uint32Of reply).toNat = corruptedSessionId then
                          .error
                        else .again }
      else
        some (unseen curSessionId reply .httpRequestTimeOut)

/-- A call of `ngx_http_cp_wait_for_service` that has returned. -/
structure WaitCall where
  mode : WaitMode
  curSessionId : BitVec 32
  signalled : NgxResult
  events : List SocketEvent
  returns : ∀ stream start,
    (awaitReplyBytes mode curSessionId stream start 0 [] events).isSome

namespace WaitCall

def ngxHttpCpWaitForService (call : WaitCall) (stream : ByteMemory)
    (start : Nat) : Reading (BitVec 32) NgxResult :=
  if call.signalled ≠ .ok then unseen call.curSessionId [] call.signalled
  else
    (awaitReplyBytes call.mode call.curSessionId stream start 0 []
      call.events).get (call.returns stream start)

/-- A call as a reader of the socket of its filter mode. -/
def reader (call : WaitCall) : Reader Bool (BitVec 32) NgxResult where
  source := call.mode.asyncFilter
  read := call.ngxHttpCpWaitForService

end WaitCall

/-- The round ends a wait without another byte. -/
def WaitMode.Fails (mode : WaitMode) : SocketEvent → Prop
  | .pollFailed => True
  | .pollTimeout => False
  | .ready hangup bytes => mode.asyncFilter ∧ hangup ∨ bytes = 0

/-- The loop ends, with some bytes of an identifier read but not all: its
retries are used up, or a round fails. -/
inductive CutShort (mode : WaitMode) :
    Int → Nat → List SocketEvent → Prop where
  | retriesOut {retry : Int} {bytesRead : Nat} {events : List SocketEvent} :
      ¬retry < mode.toutRetries → 0 < bytesRead →
      CutShort mode retry bytesRead events
  | failed {retry : Int} {bytesRead : Nat} {event : SocketEvent}
      {events : List SocketEvent} :
      mode.Fails event → 0 < bytesRead →
      CutShort mode retry bytesRead (event :: events)
  | pollTimeout {retry : Int} {bytesRead : Nat} {events : List SocketEvent} :
      retry < mode.toutRetries →
      CutShort mode (mode.counted retry) bytesRead events →
      CutShort mode retry bytesRead (.pollTimeout :: events)
  | part {retry : Int} {bytesRead bytes : Nat} {hangup : Bool}
      {events : List SocketEvent} :
      retry < mode.toutRetries → ¬mode.Fails (.ready hangup bytes) →
      bytesRead + bytes < 4 →
      CutShort mode (mode.counted retry) (bytesRead + bytes) events →
      CutShort mode retry bytesRead (.ready hangup bytes :: events)

end Nginx

namespace Nano

namespace SignalCall

/-- A round, as far as the comparison with the session goes. -/
def observed (call : SignalCall) (stream : ByteMemory) (start : Nat) :
    SocketEvent → PollEvent
  | .pollFailed => .pollFailed
  | .pollTimeout => .pollTimeout
  | .ready _ bytes =>
      let taken := stream.read start (min bytes 4)
      if taken = [] then .readFailed
      else .read (call.replyFromService taken).toNat

theorem awaitAck_result (call : SignalCall) (stream : ByteMemory)
    (start retries round : Nat) :
    (call.awaitAck stream start retries round).result =
      Nano.awaitAck call.curSessionId.toNat
        (fun round => call.observed stream start (call.rounds round)) retries
        round := by
  induction retries generalizing round with
  | zero => rfl
  | succ retries induction =>
      rw [awaitAck, Nano.awaitAck]
      cases event : call.rounds round with
      | pollFailed => rfl
      | pollTimeout => simpa [observed] using induction (round + 1)
      | ready hangup bytes =>
          by_cases nothing : stream.read start (min bytes 4) = []
          · simp [observed, nothing, unseen]
          · simp [observed, nothing, BitVec.toNat_inj]

theorem signalForSessionData_result (call : SignalCall)
    (stream : ByteMemory) (start : Nat) :
    (call.signalForSessionData stream start).result =
      Nano.signalForSessionData call.curSessionId.toNat call.usageMode
        { notified := call.notified
          polls := fun round =>
            call.observed stream start (call.rounds round) } := by
  rw [signalForSessionData, Nano.signalForSessionData]
  split
  · rfl
  · split
    · rfl
    · exact awaitAck_result call stream start 3 0

end SignalCall

end Nano

namespace Nginx

/-- The rounds, as far as the comparison with the session goes. -/
def observed (stream : ByteMemory) (start : Nat) :
    List UInt8 → List SocketEvent → List PollEvent
  | _, [] => []
  | reply, .pollFailed :: events =>
      .pollFailed :: observed stream start reply events
  | reply, .pollTimeout :: events =>
      .pollTimeout :: observed stream start reply events
  | reply, .ready hangup bytes :: events =>
      let taken := stream.read (start + reply.length)
        (min bytes (4 - reply.length))
      let read : ReadEvent :=
        if taken = [] then .failed
        else if (reply ++ taken).length ≠ 4 then .incomplete
        else .complete (uint32Of (reply ++ taken)).toNat
      .ready hangup read :: observed stream start (reply ++ taken) events

theorem awaitReplyBytes_result (mode : WaitMode) (curSessionId : BitVec 32)
    (stream : ByteMemory) (start : Nat) (retry : Int) (reply : List UInt8)
    (events : List SocketEvent) :
    (awaitReplyBytes mode curSessionId stream start retry reply events).map
        Reading.result =
      awaitReply mode curSessionId.toNat retry
        (observed stream start reply events) := by
  induction events generalizing retry reply with
  | nil =>
      by_cases more : retry < mode.toutRetries
      · simp [awaitReplyBytes, observed, awaitReply, more]
      · simp [awaitReplyBytes, observed, awaitReply, more, unseen]
  | cons event events induction =>
      by_cases more : retry < mode.toutRetries
      swap
      · cases event with
        | pollFailed => simp [awaitReplyBytes, observed, awaitReply, more,
            unseen]
        | pollTimeout => simp [awaitReplyBytes, observed, awaitReply, more,
            unseen]
        | ready hangup bytes => simp [awaitReplyBytes, observed, awaitReply,
            more, unseen]
      cases event with
      | pollFailed => simp [awaitReplyBytes, observed, awaitReply, more,
          unseen]
      | pollTimeout =>
          simpa [awaitReplyBytes, observed, awaitReply, more,
            WaitMode.counted] using induction (mode.counted retry) reply
      | ready hangup bytes =>
          simp only [awaitReplyBytes, observed, awaitReply, if_pos more]
          by_cases closed : (mode.asyncFilter && hangup) = true
          · simp only [if_pos closed]
            rfl
          simp only [if_neg closed]
          generalize stream.read (start + reply.length)
            (min bytes (4 - reply.length)) = taken
          by_cases nothing : taken = []
          · simp [nothing, unseen]
          by_cases part : (reply ++ taken).length ≠ 4
          · simp only [if_neg nothing, if_pos part]
            exact induction (mode.counted retry) (reply ++ taken)
          · simp only [if_neg nothing, if_neg part]
            simp [BitVec.toNat_inj, apply_ite some]

end Nginx

@[simp] theorem unseen_takesWhole_iff {ρ : Type} {next : BitVec 32}
    {taken : List UInt8} {result : ρ} :
    (unseen curSessionId taken result).TakesWhole ackCode next ↔
      taken = [] := by
  simp [unseen, Reading.TakesWhole]

namespace Nano

namespace SignalCall

/-- Of the rounds up to the first that does not time out, none reads a part
of an identifier. -/
theorem awaitAck_takesWhole_iff (call : SignalCall) (acks : Nat → BitVec 32)
    (index retries round : Nat) :
    (call.awaitAck (ackCode.stream acks) (ackCode.width * index) retries
        round).TakesWhole ackCode (acks index) ↔
      ¬∃ step < retries,
        (∀ earlier < step,
          call.rounds (round + earlier) = .pollTimeout) ∧
        (call.rounds (round + step)).IsPart := by
  induction retries generalizing round with
  | zero => simp [awaitAck]
  | succ retries induction =>
      rw [Nat.exists_lt_succ_left, awaitAck]
      simp only [Nat.forall_lt_succ_left]
      cases event : call.rounds round with
      | pollFailed => simp [SocketEvent.IsPart]
      | pollTimeout =>
          simp only [induction (round + 1)]
          simp [SocketEvent.IsPart, Nat.add_assoc, Nat.add_comm 1]
      | ready hangup bytes =>
          have four : (ackCode.encode (acks index)).length = 4 :=
            ackCode.length_encode _
          by_cases whole : 4 ≤ bytes
          · have taken : (ackCode.stream acks).read (ackCode.width * index)
                (min bytes 4) = ackCode.encode (acks index) := by
              rw [Nat.min_eq_right whole]
              exact ackCode.read_stream acks index
            have some_bytes : ackCode.encode (acks index) ≠ [] := by
              intro empty
              simp [empty] at four
            have noPart : ¬(SocketEvent.ready hangup bytes).IsPart := by
              intro part
              exact Nat.not_le_of_lt part.2 whole
            simp only [taken, if_neg some_bytes]
            simp [Reading.TakesWhole, replyFromService, four, noPart]
          by_cases nothing : bytes = 0
          · simp [nothing, SocketEvent.IsPart]
          · have part : (SocketEvent.ready hangup bytes).IsPart :=
              ⟨Nat.pos_of_ne_zero nothing, Nat.lt_of_not_le whole⟩
            have some_bytes : (ackCode.stream acks).read
                (ackCode.width * index) (min bytes 4) ≠ [] := by
              simp [nothing]
            simp only [if_neg some_bytes]
            apply iff_of_false
            · apply not_takesWhole_of_part some_bytes
              simp only [ByteMemory.length_read, ackCode]
              omega
            · simp [part]

theorem signalForSessionData_takesWhole_iff (call : SignalCall)
    (acks : Nat → BitVec 32) (index : Nat) :
    (call.signalForSessionData (ackCode.stream acks)
        (ackCode.width * index)).TakesWhole ackCode (acks index) ↔
      ¬call.ReadsPart := by
  rw [signalForSessionData, ReadsPart]
  by_cases notified : call.notified = .ok
  · cases mode : call.usageMode with
    | async => simp [notified]
    | sync =>
        have waited := call.awaitAck_takesWhole_iff acks index 3 0
        simpa [notified] using waited
  · simp [notified]

theorem awaitAck_ok_iff (call : SignalCall) (stream : ByteMemory)
    (start retries round : Nat) :
    let reading := call.awaitAck stream start retries round
    reading.result = .ok ↔ reading.word = some reading.expected := by
  induction retries generalizing round with
  | zero => simp [awaitAck, unseen]
  | succ retries induction =>
      rw [awaitAck]
      cases event : call.rounds round with
      | pollFailed => simp [unseen]
      | pollTimeout => exact induction (round + 1)
      | ready hangup bytes =>
          by_cases nothing : stream.read start (min bytes 4) = []
          · simp [nothing, unseen]
          · simp only [if_neg nothing, Option.some.injEq]
            split_ifs with own corrupted
            · simp [own]
            · simp [own]
            · simp [own]

theorem signalForSessionData_ok_iff (call : SignalCall)
    (sync : call.usageMode = .sync) (stream : ByteMemory) (start : Nat) :
    let reading := call.signalForSessionData stream start
    reading.result = .ok ↔ reading.word = some reading.expected := by
  rw [signalForSessionData]
  by_cases notified : call.notified = .ok
  · simpa [notified, sync] using call.awaitAck_ok_iff stream start 3 0
  · simp [notified, unseen]

end SignalCall

end Nano

namespace Nginx

variable {mode : WaitMode} {retry : Int} {events : List SocketEvent}
variable {bytesRead : Nat} {reply : List UInt8}

theorem cutShort_iff_of_ends
    (ends : ¬retry < mode.toutRetries ∨
      ∃ event rest, events = event :: rest ∧ mode.Fails event) :
    CutShort mode retry bytesRead events ↔ 0 < bytesRead := by
  constructor
  · intro cut
    cases cut with
    | retriesOut _ some_read => exact some_read
    | failed _ some_read => exact some_read
    | pollTimeout less _ =>
        rcases ends with out | ⟨event, rest, found, fails⟩
        · exact absurd less out
        · cases found
          exact fails.elim
    | part less goesOn _ _ =>
        rcases ends with out | ⟨event, rest, found, fails⟩
        · exact absurd less out
        · cases found
          exact absurd fails goesOn
  · intro some_read
    rcases ends with out | ⟨event, rest, rfl, fails⟩
    · exact .retriesOut out some_read
    · exact .failed fails some_read

theorem cutShort_pollTimeout_iff (more : retry < mode.toutRetries) :
    CutShort mode retry bytesRead (.pollTimeout :: events) ↔
      CutShort mode (mode.counted retry) bytesRead events := by
  constructor
  · intro cut
    cases cut with
    | retriesOut less _ => exact absurd more less
    | failed fails _ => exact fails.elim
    | pollTimeout _ rest => exact rest
  · exact .pollTimeout more

theorem cutShort_ready_iff {bytes : Nat} {hangup : Bool}
    (more : retry < mode.toutRetries)
    (goesOn : ¬mode.Fails (.ready hangup bytes)) :
    CutShort mode retry bytesRead (.ready hangup bytes :: events) ↔
      bytesRead + bytes < 4 ∧
        CutShort mode (mode.counted retry) (bytesRead + bytes) events := by
  constructor
  · intro cut
    cases cut with
    | retriesOut less _ => exact absurd more less
    | failed fails _ => exact absurd fails goesOn
    | part _ _ short rest => exact ⟨short, rest⟩
  · rintro ⟨short, rest⟩
    exact .part more goesOn short rest

theorem unseen_takesWhole_iff_of_ends {next : BitVec 32} {result : NgxResult}
    (ends : ¬retry < mode.toutRetries ∨
      ∃ event rest, events = event :: rest ∧ mode.Fails event) :
    (unseen curSessionId reply result).TakesWhole ackCode next ↔
      ¬CutShort mode retry reply.length events := by
  rw [unseen_takesWhole_iff, cutShort_iff_of_ends ends, List.length_pos_iff,
    not_not]

/-- A wait that is not cut short takes nothing or a whole identifier. -/
theorem awaitReplyBytes_takesWhole_iff {acks : Nat → BitVec 32} {index : Nat}
    {reading : Reading (BitVec 32) NgxResult}
    (front : (ackCode.stream acks).read (ackCode.width * index)
      reply.length = reply) (part : reply.length < 4)
    (returns : awaitReplyBytes mode curSessionId (ackCode.stream acks)
      (ackCode.width * index) retry reply events = some reading) :
    reading.TakesWhole ackCode (acks index) ↔
      ¬CutShort mode retry reply.length events := by
  induction events generalizing retry reply with
  | nil =>
      by_cases more : retry < mode.toutRetries
      · simp [awaitReplyBytes, more] at returns
      simp only [awaitReplyBytes, if_neg more, Option.some.injEq] at returns
      rw [← returns]
      exact unseen_takesWhole_iff_of_ends (Or.inl more)
  | cons event events induction =>
      by_cases more : retry < mode.toutRetries
      swap
      · simp only [awaitReplyBytes, if_neg more, Option.some.injEq] at returns
        rw [← returns]
        exact unseen_takesWhole_iff_of_ends (Or.inl more)
      by_cases fails : mode.Fails event
      · have ending : ∃ result,
            unseen curSessionId reply result = reading := by
          cases event with
          | pollFailed =>
              simp only [awaitReplyBytes, if_pos more, Option.some.injEq]
                at returns
              exact ⟨_, returns⟩
          | pollTimeout => exact fails.elim
          | ready hangup bytes =>
              rcases fails with ⟨async, rfl⟩ | rfl
              · simp [awaitReplyBytes, more, async] at returns
                exact ⟨_, returns⟩
              · simp [awaitReplyBytes, more] at returns
                exact ⟨_, returns⟩
        obtain ⟨result, rfl⟩ := ending
        exact unseen_takesWhole_iff_of_ends
          (Or.inr ⟨event, events, rfl, fails⟩)
      cases event with
      | pollFailed => exact absurd trivial fails
      | pollTimeout =>
          simp only [awaitReplyBytes, if_pos more] at returns
          rw [cutShort_pollTimeout_iff more]
          exact induction front part returns
      | ready hangup bytes =>
          rw [cutShort_ready_iff more fails]
          simp only [WaitMode.Fails, not_or] at fails
          have opened : ¬(mode.asyncFilter && hangup) = true := by
            simpa using fails.1
          have some_bytes : min bytes (4 - reply.length) ≠ 0 := by omega
          have joined : reply ++ (ackCode.stream acks).read
              (ackCode.width * index + reply.length)
              (min bytes (4 - reply.length)) =
              (ackCode.stream acks).read (ackCode.width * index)
                (reply.length + min bytes (4 - reply.length)) := by
            rw [ByteMemory.read_add, front]
          simp only [awaitReplyBytes, if_pos more, if_neg opened,
            ByteMemory.read_eq_nil_iff, if_neg some_bytes, joined,
            ByteMemory.length_read] at returns
          by_cases short : reply.length + bytes < 4
          · have all : min bytes (4 - reply.length) = bytes := by omega
            rw [all, if_pos (Nat.ne_of_lt short)] at returns
            have rest := induction (by simp) (by simpa using short) returns
            rw [ByteMemory.length_read] at rest
            simpa [short] using rest
          · have full : reply.length + min bytes (4 - reply.length) = 4 := by
              omega
            have word : (ackCode.stream acks).read (ackCode.width * index) 4 =
                ackCode.encode (acks index) :=
              ackCode.read_stream acks index
            simp only [full, word, ne_eq, not_true_eq_false, if_false,
              Option.some.injEq, uint32Of_encode] at returns
            apply iff_of_true
            · right
              simp [← returns]
            · simp [short]

theorem awaitReplyBytes_ok_iff {stream : ByteMemory} {start : Nat}
    {reading : Reading (BitVec 32) NgxResult}
    (returns : awaitReplyBytes mode curSessionId stream start retry reply
      events = some reading) :
    reading.result = .ok ↔ reading.word = some reading.expected := by
  induction events generalizing retry reply with
  | nil =>
      by_cases more : retry < mode.toutRetries
      · simp [awaitReplyBytes, more] at returns
      · simp only [awaitReplyBytes, if_neg more, Option.some.injEq] at returns
        simp [← returns, unseen]
  | cons event events induction =>
      by_cases more : retry < mode.toutRetries
      swap
      · simp only [awaitReplyBytes, if_neg more, Option.some.injEq] at returns
        simp [← returns, unseen]
      cases event with
      | pollFailed =>
          simp only [awaitReplyBytes, if_pos more, Option.some.injEq]
            at returns
          simp [← returns, unseen]
      | pollTimeout =>
          simp only [awaitReplyBytes, if_pos more] at returns
          exact induction returns
      | ready hangup bytes =>
          simp only [awaitReplyBytes, if_pos more] at returns
          split_ifs at returns with closed nothing short own corrupted
          · cases returns
            simp [unseen]
          · cases returns
            simp [unseen]
          · exact induction returns
          · cases returns
            simp [own]
          · cases returns
            simp [own]
          · cases returns
            simp [own]

namespace WaitCall

/-- A successful signal, and then a wait cut short. -/
def CutsAck (call : WaitCall) : Prop :=
  call.signalled = .ok ∧ CutShort call.mode 0 0 call.events

theorem ngxHttpCpWaitForService_takesWhole_iff (call : WaitCall)
    (acks : Nat → BitVec 32) (index : Nat) :
    (call.ngxHttpCpWaitForService (ackCode.stream acks)
        (ackCode.width * index)).TakesWhole ackCode (acks index) ↔
      ¬call.CutsAck := by
  rw [ngxHttpCpWaitForService, CutsAck]
  by_cases signalled : call.signalled = .ok
  · have returned := Option.some_get (call.returns (ackCode.stream acks)
      (ackCode.width * index)) |>.symm
    have whole := awaitReplyBytes_takesWhole_iff (by simp) (by simp) returned
    simpa [signalled] using whole
  · simp [signalled]

theorem ngxHttpCpWaitForService_ok_iff (call : WaitCall)
    (stream : ByteMemory) (start : Nat) :
    let reading := call.ngxHttpCpWaitForService stream start
    reading.result = .ok ↔ reading.word = some reading.expected := by
  rw [ngxHttpCpWaitForService]
  by_cases signalled : call.signalled = .ok
  · have returned := (Option.some_get (call.returns stream start)).symm
    simpa [signalled] using awaitReplyBytes_ok_iff returned
  · simp [signalled, unseen]

end WaitCall

end Nginx

/-- The calls read the acknowledgements in order, none of them in parts, and
a call that waits for one returns `ok` just when it read its own. -/
structure AcksFramed {σ ρ : Type} [DecidableEq σ] (awaits : σ → Prop)
    (ok : ρ) (acks : σ → Nat → BitVec 32)
    (readings : List (σ × Reading (BitVec 32) ρ)) : Prop where
  inOrder : ∀ socket, InOrder ackCode (acks socket) 0
    (readingsOf socket readings)
  own : ∀ reading ∈ readings, awaits reading.1 →
    (reading.2.result = ok ↔ reading.2.word = some reading.2.expected)

/-- The readings of calls after each other, with the acknowledgements that the
service writes to each socket. -/
def readings {σ ρ : Type} [DecidableEq σ] (acks : σ → Nat → BitVec 32)
    (readers : List (Reader σ (BitVec 32) ρ)) :
    List (σ × Reading (BitVec 32) ρ) :=
  (Trace.run (step fun socket => ackCode.stream (acks socket)) (fun _ => 0)
    readers).1

theorem acksFramed_iff {κ σ ρ : Type} [DecidableEq σ] {awaits : σ → Prop}
    {ok : ρ} (acks : σ → Nat → BitVec 32)
    {reader : κ → Reader σ (BitVec 32) ρ} {good : κ → Prop} (calls : List κ)
    (exact_whole : ∀ call index,
      ((reader call).read (ackCode.stream (acks (reader call).source))
        (ackCode.width * index)).TakesWhole ackCode
          (acks (reader call).source index) ↔ good call)
    (exact_ok : ∀ call, awaits (reader call).source → ∀ stream start,
      let reading := (reader call).read stream start
      reading.result = ok ↔ reading.word = some reading.expected) :
    AcksFramed awaits ok acks (readings acks (calls.map reader)) ↔
      ∀ call ∈ calls, good call := by
  have ordered := inOrder_iff acks calls (fun _ => 0)
    fun call _ => exact_whole call
  constructor
  · intro framed
    exact ordered.mp framed.inOrder
  · intro allGood
    refine ⟨ordered.mpr allGood, ?_⟩
    apply forall_mem_run
    intro found member position waits
    obtain ⟨call, _, rfl⟩ := List.mem_map.mp member
    exact exact_ok call waits _ position

/-- The frames of both attachments are kept just when no nano call reads a part
of an identifier and no wait of the nginx module is cut short. -/
theorem acknowledgements_framed_iff
    (nanoAcks : Nano.SignalUsageMode → Nat → BitVec 32)
    (nanoCalls : List Nano.SignalCall) (nginxAcks : Bool → Nat → BitVec 32)
    (nginxCalls : List Nginx.WaitCall) :
    (AcksFramed (· = .sync) .ok nanoAcks
        (readings nanoAcks (nanoCalls.map Nano.SignalCall.reader)) ↔
      ∀ call ∈ nanoCalls, ¬call.ReadsPart) ∧
    (AcksFramed (fun _ => True) .ok nginxAcks
        (readings nginxAcks (nginxCalls.map Nginx.WaitCall.reader)) ↔
      ∀ call ∈ nginxCalls, ¬call.CutsAck) := by
  constructor
  · apply acksFramed_iff nanoAcks nanoCalls
    · intro call index
      exact call.signalForSessionData_takesWhole_iff _ index
    · intro call sync stream start
      exact call.signalForSessionData_ok_iff sync stream start
  · apply acksFramed_iff nginxAcks nginxCalls
    · intro call index
      exact call.ngxHttpCpWaitForService_takesWhole_iff _ index
    · intro call _ stream start
      exact call.ngxHttpCpWaitForService_ok_iff stream start

/-- A socket that delivers two bytes at a time. -/
def halfAckCall (sessionId : BitVec 32) : Nano.SignalCall where
  curSessionId := sessionId
  usageMode := .sync
  notified := .ok
  rounds := fun _ => .ready false 2
  uninitialized := fun _ => 0

/-- A wait with one retry, in which the socket delivers so many bytes. -/
def oneRetryCall (sessionId : BitVec 32) (bytes : Nat) : Nginx.WaitCall where
  mode :=
    { nonBlockingThread := true, toutRetries := 1, asyncFilter := false }
  curSessionId := sessionId
  signalled := .ok
  events := [.ready false bytes]
  returns := by
    intro stream start
    simp only [Nginx.awaitReplyBytes, Nginx.WaitMode.counted]
    split_ifs <;> simp_all

/-- The service acknowledges the sessions 1, 2 and so on. -/
def countedAcks {σ : Type} (_ : σ) (index : Nat) : BitVec 32 :=
  BitVec.ofNat 32 (index + 1)

/-- Two bytes are enough for a nano call to return `ok`, and the next session
then reads the rest of them.  A wait of the nginx module that times out after
two bytes leaves the other two to the next session. -/
theorem acknowledgements_framed_counterexample :
    (readings countedAcks ([halfAckCall 1, halfAckCall 2].map
        Nano.SignalCall.reader)).map
          (fun reading => (reading.2.taken, reading.2.result)) =
        [([1, 0], .ok), ([0, 0], .error)] ∧
      ¬AcksFramed (· = .sync) .ok countedAcks
        (readings countedAcks ([halfAckCall 1, halfAckCall 2].map
          Nano.SignalCall.reader)) ∧
    (readings countedAcks ([oneRetryCall 1 2, oneRetryCall 2 4].map
        Nginx.WaitCall.reader)).map
          (fun reading => (reading.2.taken, reading.2.result)) =
        [([1, 0], .httpRequestTimeOut), ([0, 0, 2, 0], .again)] ∧
      ¬AcksFramed (fun _ => True) .ok countedAcks
        (readings countedAcks ([oneRetryCall 1 2, oneRetryCall 2 4].map
          Nginx.WaitCall.reader)) := by
  refine ⟨by decide, ?_, by decide, ?_⟩
  · intro framed
    have ordered := framed.inOrder .sync
    exact absurd ordered.1 (by unfold Reading.TakesWhole; decide)
  · intro framed
    have ordered := framed.inOrder false
    exact absurd ordered.1 (by unfold Reading.TakesWhole; decide)

end OpenAppsec
