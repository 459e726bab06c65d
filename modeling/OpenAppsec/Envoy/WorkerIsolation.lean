import OpenAppsec.Envoy.Filter
import OpenAppsec.Library.Trace

/-!
# Streams that share a worker

Each callback writes what it sends before it sends it, but for two fields of
the metadata.  So a stream sends the same messages whatever other streams the
worker serves in between, and what those fields hold tells only whether the
worker has ever destroyed a stream.
-/

namespace OpenAppsec.Envoy

open FrontEndHeaders FrontEndHeaders.Envoy Collections
open Nano (filterSendBodyChunks injectBodyChunk)

variable {worker : Worker} {header : HeaderMap}

/-- The metadata of a request, with what the unused fields hold; `none` if an
address has no port. -/
def StreamInfo.metaData (streamInfo : StreamInfo) (header : HeaderMap)
    (unused : Field String) : Option (HttpMetaData String) := do
  let listening := splitColon streamInfo.downstreamLocalAddress
  let listeningPort ← listening[1]?
  let client := splitColon streamInfo.downstreamRemoteAddress
  let clientPort ← client[1]?
  some
    { httpProtocol := .written streamInfo.protocol
      methodName := .written (header.get ":method")
      host := .written ((splitColon (header.get ":authority")).headD "")
      listeningIp := .written (listening.headD "")
      listeningPort := .written (cUint 16 (atoi listeningPort))
      uri := .written (header.get ":path")
      clientIp := .written (client.headD "")
      clientPort := .written (cUint 16 (atoi clientPort))
      parsedHost := unused
      parsedUri := unused }

/-- The headers that a header map leaves in the array. -/
def HeaderMap.sent (header : HeaderMap) : SentHeaders :=
  .written ((header.filterMap listed).map some)

/-- The report of a callback whose last answer is this one. -/
def Answer.report (answer : Answer) (messages : List Message)
    (buffer : List UInt8) : Report where
  status := (finalizeRequest answer).1
  messages
  reply := (finalizeRequest answer).2
  buffer

/-- One message, and another without content if the session goes on and the
part of the stream ends. -/
def Filter.exchange (filter : Filter) (chunkType : ChunkType)
    (payload : Payload) (answer : Answer) (buffer : List UInt8)
    (last : Option ChunkType) (lastAnswer : Answer) : Report × Filter :=
  let sessionId := cUint 32 filter.sessionId
  let first : Message := { sessionId, chunkType, payload }
  match last with
  | some lastType =>
      if answer.verdict = .inspect then
        let ending : Message :=
          { sessionId, chunkType := lastType, payload := .nothing }
        (lastAnswer.report [first, ending] buffer,
          { filter with finalized := lastAnswer.finalized })
      else
        (answer.report [first] buffer,
          { filter with finalized := answer.finalized })
  | none =>
      (answer.report [first] buffer,
        { filter with finalized := answer.finalized })

/-- Nothing is sent, and Envoy goes on. -/
def passed (buffer : List UInt8) : Report where
  status := .goOn
  messages := []
  reply := none
  buffer

/-- A part of a body, or only its end. -/
def Filter.exchangeBody (filter : Filter) (chunkType lastType : ChunkType)
    (data buffer : List UInt8) (endStream : Bool)
    (answer lastAnswer : Answer) : Report × Filter :=
  if data ≠ [] then
    filter.exchange chunkType
      (.body ((filterSendBodyChunks data).map some)) answer buffer
      (if endStream then some lastType else none) lastAnswer
  else if endStream then
    filter.exchange lastType .nothing lastAnswer data none lastAnswer
  else (passed data, filter)

/-- What a callback does for its stream, by its arguments and what the unused
fields of the metadata hold. -/
def Filter.serve (unused : Field String) (filter : Filter)
    (callback : Callback) : Report × Filter :=
  if filter.finalized then (passed callback.buffer, filter)
  else
    match callback with
    | .decodeHeaders streamInfo header endStream answer =>
        match streamInfo.metaData header unused with
        | none => ({ passed [] with status := .zero }, filter)
        | some metaData =>
            filter.exchange .httpRequestFilter
              (.start (.written !endStream) metaData header.sent) answer []
              none answer
    | .decodeData buffer endStream answer lastAnswer =>
        filter.exchangeBody .httpRequestBody .httpRequestEnd buffer buffer
          endStream answer lastAnswer
    | .encodeHeaders header endStream answer lastAnswer =>
        let contentLength := cUint 64 (atoi (header.get "content-length"))
        let statusCode := cUint 16 (atoi (header.get ":status"))
        filter.exchange .httpResponseHeader
          (.response (.written (contentLength, statusCode)) header.sent)
          answer [] (if endStream then some .httpResponseEnd else none)
          lastAnswer
    | .encodeData buffer endStream answer lastAnswer =>
        let chunk := filter.bodyBufferChunk
        let counted :=
          if buffer = [] then filter
          else { filter with bodyBufferChunk := chunk + 1 }
        counted.exchangeBody .httpResponseBody .httpResponseEnd buffer
          (injectBodyChunk answer.modifications chunk buffer) endStream
          answer lastAnswer

/-- A stream without a worker. -/
def serveStream (sessionId : Nat) (filter : Option Filter) :
    StreamCall → Option Report × Option Filter
  | .create => (none, some (newFilter sessionId))
  | .callback callback =>
      match filter with
      | some filter =>
          let (report, filter) := filter.serve .zeroed callback
          (some report, some filter)
      | none => (none, none)
  | .onDestroy => (none, none)

/-- The header array has room for the headers of a call. -/
def StreamCall.Fits : StreamCall → Prop
  | .callback (.decodeHeaders _ header _ _) =>
      (header.filterMap listed).length ≤ capacity
  | .callback (.encodeHeaders header _ _ _) =>
      (header.filterMap listed).length ≤ capacity
  | _ => True

/-- A message without the unused fields. -/
def Payload.withoutUnused : Payload → Payload
  | start containsBody metaData headers =>
      .start containsBody
        { metaData with parsedHost := .zeroed, parsedUri := .zeroed } headers
  | payload => payload

def Message.withoutUnused (message : Message) : Message :=
  { message with payload := message.payload.withoutUnused }

def Report.withoutUnused (report : Report) : Report :=
  { report with messages := report.messages.map Message.withoutUnused }

/-- A stream that is there is destroyed. -/
def destroys (worker : Worker) (input : Nat × StreamCall) : Bool :=
  match input.2 with
  | .onDestroy => (worker.filters input.1).isSome
  | _ => false

/-- A stream is destroyed in the course of the calls. -/
def destroysStream : Worker → List (Nat × StreamCall) → Bool
  | _, [] => false
  | worker, input :: inputs =>
      destroys worker input || destroysStream (worker.step input).2 inputs

/-- The arrays agree where they are read. -/
def SameBelow (headers others : HttpHeaders) : Prop :=
  headers.count = others.count ∧
    ∀ place, place < headers.count →
      headers.places place = others.places place

theorem SameBelow.handleHeader {headers others : HttpHeaders}
    (same : SameBelow headers others) (header : String × String) :
    SameBelow (handleHeader headers header)
      (Envoy.handleHeader others header) := by
  obtain ⟨count, places⟩ := same
  obtain ⟨key, value⟩ := header
  simp only [FrontEndHeaders.Envoy.handleHeader, ← count]
  by_cases full : 10000 < headers.count
  · rw [if_pos full, if_pos full]
    exact ⟨count, places⟩
  · rw [if_neg full, if_neg full]
    by_cases excludes : excluded key = true
    · rw [if_pos excludes, if_pos excludes]
      exact ⟨count, places⟩
    · rw [if_neg excludes, if_neg excludes]
      refine ⟨rfl, ?_⟩
      intro place below
      simp only [setHeaderElement]
      by_cases here : place = headers.count
      · rw [if_pos here, if_pos here]
      · rw [if_neg here, if_neg here]
        exact places place (by simp only at below; omega)

theorem sameBelow_foldl (header : HeaderMap) {headers others : HttpHeaders}
    (same : SameBelow headers others) :
    SameBelow (header.foldl handleHeader headers)
      (header.foldl handleHeader others) := by
  induction header generalizing headers others with
  | nil => exact same
  | cons first rest induction => exact induction (same.handleHeader first)

/-- What is read of the array does not depend on what it held. -/
theorem readHeaders_handleHeaders (header : HeaderMap)
    (structs : RequestStructs) :
    (structs.handleHeaders header).readHeaders =
      .written ((List.range (handleHeaders header).count).map
        (handleHeaders header).places) := by
  have same : SameBelow
      (header.foldl handleHeader
        { places := structs.httpHeadersData, count := 0 })
      (handleHeaders header) :=
    sameBelow_foldl header ⟨rfl, fun _ below => absurd below (by simp)⟩
  simp only [RequestStructs.handleHeaders, RequestStructs.readHeaders,
    Field.map, ← same.1]
  congr 1
  apply List.map_congr_left
  intro place member
  exact same.2 place (List.mem_range.mp member)

/-- Headers that fit are read as they are. -/
theorem handleHeaders_sent (fits : (header.filterMap listed).length ≤ capacity)
    (structs : RequestStructs) :
    (structs.handleHeaders header).readHeaders = header.sent := by
  rw [readHeaders_handleHeaders, HeaderMap.sent]
  have holds := (holds_handleHeaders_iff header).mpr fits
  have count : (handleHeaders header).count =
      (header.filterMap listed).length := by
    rw [handleHeaders_eq_collect, count_collect]
    simp only [capacity] at fits
    omega
  congr 1
  apply List.ext_getElem
  · simp [count]
  · intro place inside _
    have below : place < (header.filterMap listed).length := by
      simpa [count] using inside
    simp only [List.getElem_map, List.getElem_range]
    rw [holds.listed place (Nat.lt_of_lt_of_le below fits)]
    exact List.getElem?_eq_getElem below

theorem read_setBody (chunks : List (List UInt8)) (structs : RequestStructs) :
    (structs.setBody chunks).read (.body chunks.length) =
      .body (chunks.map some) := by
  simp only [RequestStructs.setBody, RequestStructs.read]
  congr 1
  apply List.ext_getElem
  · simp
  · intro place inside _
    have below : place < chunks.length := by simpa using inside
    simp [below]

namespace Call

variable (call : Call) (buffer : List UInt8) (answer lastAnswer : Answer)

theorem afterSend_eq_exchange {chunkType : ChunkType} {data : DataBuffer}
    (quiet : call.messages = []) (last : Option ChunkType) :
    let sent := (call.sendData data chunkType answer).afterSend buffer answer
      last lastAnswer
    (sent.1, sent.2.2) = call.filter.exchange chunkType
      (call.memory.structs.read data) answer buffer last lastAnswer := by
  simp only [afterSend, Filter.exchange, Answer.report]
  by_cases inspects : answer.verdict = .inspect
  · rw [if_neg (not_not.mpr inspects)]
    cases last with
    | none =>
        simp [back, sendData, quiet, finalizeRequest, inspects]
    | some lastType =>
        simp only [if_pos inspects, endInspectionPart]
        by_cases still : lastAnswer.verdict = .inspect
        · simp [back, sendData, quiet, finalizeRequest, still,
            RequestStructs.read]
        · simp [back, sendData, quiet, still, RequestStructs.read]
  · rw [if_pos inspects]
    cases last with
    | none => simp [back, sendData, quiet]
    | some lastType => simp [back, sendData, quiet, inspects]

theorem endInspectionPart_eq_exchange (quiet : call.messages = [])
    (chunkType : ChunkType) :
    let ended := call.endInspectionPart buffer chunkType lastAnswer
    (ended.1, ended.2.2) = call.filter.exchange chunkType .nothing lastAnswer
      buffer none lastAnswer := by
  simp only [endInspectionPart, Filter.exchange, Answer.report]
  by_cases still : lastAnswer.verdict = .inspect
  · simp [back, sendData, quiet, finalizeRequest, still, RequestStructs.read]
  · simp [back, sendData, quiet, still, RequestStructs.read]

/-- The filter counts its buffers between its message and what follows. -/
theorem sendBody_count (data : List UInt8) (chunkType : ChunkType)
    (chunk : Nat) :
    { call.sendBody data chunkType answer with
      filter :=
        { (call.sendBody data chunkType answer).filter with
          bodyBufferChunk := chunk } } =
      ({ call with
        filter := { call.filter with bodyBufferChunk := chunk } } :
          Call).sendBody data chunkType answer :=
  rfl

theorem afterSendBody_eq_exchange {chunkType : ChunkType}
    (quiet : call.messages = []) (data : List UInt8)
    (last : Option ChunkType) :
    let sent := (call.sendBody data chunkType answer).afterSend buffer answer
      last lastAnswer
    (sent.1, sent.2.2) = call.filter.exchange chunkType
      (.body ((filterSendBodyChunks data).map some)) answer buffer last
      lastAnswer := by
  refine (afterSend_eq_exchange
    (call.write (·.setBody (filterSendBodyChunks data))) buffer answer
    lastAnswer ?_ last).trans ?_
  · exact quiet
  · congr 1
    exact read_setBody _ _

/-- The fields that nothing is written to. -/
structure Unused (unused : Field String) (memory : Memory) : Prop where
  parsedHost : memory.structs.httpMetaData.texts.parsedHost = unused
  parsedUri : memory.structs.httpMetaData.texts.parsedUri = unused

theorem handleStartTransaction_metaData {unused : Field String}
    (fields : Unused unused call.memory) (streamInfo : StreamInfo)
    (header : HeaderMap) :
    (call.handleStartTransaction streamInfo header).map (fun started =>
        (started.filter, started.messages,
          started.memory.structs.httpMetaData.texts)) =
      (streamInfo.metaData header unused).map fun metaData =>
        (call.filter, call.messages, metaData) := by
  simp only [handleStartTransaction, StreamInfo.metaData]
  cases listening : (splitColon streamInfo.downstreamLocalAddress)[1]? with
  | none => rfl
  | some listeningPort =>
      cases client : (splitColon streamInfo.downstreamRemoteAddress)[1]? with
      | none => rfl
      | some clientPort =>
          have parsedHost := fields.parsedHost
          have parsedUri := fields.parsedUri
          simp only [HttpMetaData.texts] at parsedHost parsedUri
          simp [createNanoStr, HttpMetaData.texts, parsedHost, parsedUri]

theorem decodeHeaders_eq_serve {unused : Field String}
    (fields : Unused unused call.memory) (quiet : call.messages = [])
    (unfinished : call.filter.finalized = false) (streamInfo : StreamInfo)
    (fits : (header.filterMap listed).length ≤ capacity) (endStream : Bool) :
    let done := call.decodeHeaders streamInfo header endStream answer
    (done.1, done.2.2) = call.filter.serve unused
      (.decodeHeaders streamInfo header endStream answer) := by
  have same := call.handleStartTransaction_metaData fields streamInfo header
  simp only [decodeHeaders, Filter.serve, unfinished, Bool.false_eq_true, if_false]
  cases metaData : streamInfo.metaData header unused with
  | none =>
      rw [metaData, Option.map_none, Option.map_eq_none_iff] at same
      simp [same, back, passed, quiet]
  | some metaData =>
      rw [metaData, Option.map_some, Option.map_eq_some_iff] at same
      obtain ⟨started, begins, same⟩ := same
      simp only [Prod.mk.injEq] at same
      obtain ⟨sameFilter, sameMessages, sameTexts⟩ := same
      simp only [begins]
      refine (afterSend_eq_exchange _ [] answer answer ?_ none).trans ?_
      · exact sameMessages.trans quiet
      have headers := handleHeaders_sent fits started.memory.structs
      simp only [write, RequestStructs.read, RequestStructs.readHeaders,
        RequestStructs.handleHeaders] at headers ⊢
      rw [headers, sameFilter, sameTexts]

theorem encodeHeaders_eq_serve (unused : Field String)
    (quiet : call.messages = []) (unfinished : call.filter.finalized = false)
    (fits : (header.filterMap listed).length ≤ capacity) (endStream : Bool) :
    let done := call.encodeHeaders header endStream answer lastAnswer
    (done.1, done.2.2) = call.filter.serve unused
      (.encodeHeaders header endStream answer lastAnswer) := by
  simp only [encodeHeaders, Filter.serve, unfinished, Bool.false_eq_true, if_false]
  refine (afterSend_eq_exchange _ [] answer lastAnswer ?_ _).trans ?_
  · exact quiet
  have headers := handleHeaders_sent fits call.memory.structs
  simp only [write, RequestStructs.read, RequestStructs.readHeaders,
    RequestStructs.handleHeaders] at headers ⊢
  rw [headers]

theorem decodeData_eq_serve (unused : Field String)
    (quiet : call.messages = []) (unfinished : call.filter.finalized = false)
    (endStream : Bool) :
    let done := call.decodeData buffer endStream answer lastAnswer
    (done.1, done.2.2) = call.filter.serve unused
      (.decodeData buffer endStream answer lastAnswer) := by
  simp only [decodeData, Filter.serve, Filter.exchangeBody, unfinished,
    Bool.false_eq_true, if_false]
  by_cases empty : buffer = []
  · cases endStream with
    | true =>
        simp only [empty, and_self, if_true, ne_eq, not_true_eq_false,
          if_false]
        exact endInspectionPart_eq_exchange call [] lastAnswer quiet _
    | false => simp [empty, back, passed, quiet]
  · simp only [empty, and_false, if_false, ne_eq, not_false_eq_true, if_true]
    exact afterSendBody_eq_exchange call buffer answer lastAnswer quiet
      buffer _

theorem encodeData_eq_serve (unused : Field String)
    (quiet : call.messages = []) (unfinished : call.filter.finalized = false)
    (endStream : Bool) :
    let done := call.encodeData buffer endStream answer lastAnswer
    (done.1, done.2.2) = call.filter.serve unused
      (.encodeData buffer endStream answer lastAnswer) := by
  simp only [encodeData, Filter.serve, Filter.exchangeBody, unfinished,
    Bool.false_eq_true, if_false]
  by_cases empty : buffer = []
  · cases endStream with
    | true =>
        simp only [empty, and_self, if_true, ne_eq, not_true_eq_false,
          if_false]
        exact endInspectionPart_eq_exchange call [] lastAnswer quiet _
    | false => simp [empty, back, passed, quiet]
  · simp only [empty, and_false, if_false, ne_eq, not_false_eq_true, if_true]
    rw [sendBody_count, ← unfinished]
    exact afterSendBody_eq_exchange
      { call with
        filter :=
          { call.filter with
            bodyBufferChunk := call.filter.bodyBufferChunk + 1 } }
      _ answer lastAnswer quiet buffer _

/-- A callback does what it would do in memory of its own. -/
theorem callback_eq_serve {unused : Field String}
    (fields : Unused unused call.memory) (quiet : call.messages = [])
    {callback : Callback} (fits : (StreamCall.callback callback).Fits) :
    let done := call.callback callback
    (done.1, done.2.2) = call.filter.serve unused callback := by
  cases finalized : call.filter.finalized with
  | true => simp [Call.callback, Filter.serve, finalized, back, passed, quiet]
  | false =>
      simp only [Call.callback, finalized, Bool.false_eq_true, if_false]
      cases callback with
      | decodeHeaders streamInfo header endStream answer =>
          exact call.decodeHeaders_eq_serve answer fields quiet finalized
            streamInfo fits endStream
      | decodeData buffer endStream answer lastAnswer =>
          exact call.decodeData_eq_serve buffer answer lastAnswer unused
            quiet finalized endStream
      | encodeHeaders header endStream answer lastAnswer =>
          exact call.encodeHeaders_eq_serve answer lastAnswer unused quiet
            finalized fits endStream
      | encodeData buffer endStream answer lastAnswer =>
          exact call.encodeData_eq_serve buffer answer lastAnswer unused
            quiet finalized endStream

theorem metaData_unused {streamInfo : StreamInfo} {unused : Field String}
    {metaData : HttpMetaData String}
    (found : streamInfo.metaData header unused = some metaData) :
    metaData.parsedHost = unused ∧ metaData.parsedUri = unused := by
  simp only [StreamInfo.metaData, Option.bind_eq_bind,
    Option.bind_eq_some_iff] at found
  obtain ⟨_, _, _, _, found⟩ := found
  rw [← Option.some.inj found]
  exact ⟨rfl, rfl⟩

theorem afterSend_memory (last : Option ChunkType) :
    (call.afterSend buffer answer last lastAnswer).2.1 = call.memory := by
  simp only [afterSend]
  split
  · rfl
  · split
    · simp only [endInspectionPart]
      split <;> rfl
    · rfl

theorem endInspectionPart_memory (chunkType : ChunkType) :
    (call.endInspectionPart buffer chunkType lastAnswer).2.1 =
      call.memory := by
  simp only [endInspectionPart]
  split <;> rfl

variable {unused : Field String}

theorem callback_unused (fields : Unused unused call.memory)
    (callback : Callback) :
    Unused unused (call.callback callback).2.1 := by
  simp only [Call.callback]
  split
  · exact fields
  · cases callback with
    | decodeHeaders streamInfo header endStream answer =>
        have same :=
          call.handleStartTransaction_metaData fields streamInfo header
        simp only [decodeHeaders]
        cases begins : call.handleStartTransaction streamInfo header with
        | none => exact fields
        | some started =>
            dsimp only
            rw [afterSend_memory]
            rw [begins, Option.map_some, eq_comm,
              Option.map_eq_some_iff] at same
            obtain ⟨metaData, found, same⟩ := same
            obtain ⟨parsedHost, parsedUri⟩ := metaData_unused found
            have texts := congrArg (·.2.2) same
            dsimp only at texts
            rw [texts] at parsedHost parsedUri
            exact ⟨parsedHost, parsedUri⟩
    | decodeData buffer endStream answer lastAnswer =>
        simp only [decodeData]
        split
        · rw [endInspectionPart_memory]
          exact fields
        · split
          · exact fields
          · rw [afterSend_memory]
            exact ⟨fields.parsedHost, fields.parsedUri⟩
    | encodeHeaders header endStream answer lastAnswer =>
        simp only [encodeHeaders]
        rw [afterSend_memory]
        exact ⟨fields.parsedHost, fields.parsedUri⟩
    | encodeData buffer endStream answer lastAnswer =>
        simp only [encodeData]
        split
        · rw [endInspectionPart_memory]
          exact fields
        · split
          · exact fields
          · rw [afterSend_memory]
            exact ⟨fields.parsedHost, fields.parsedUri⟩

end Call

/-- What the unused fields hold after some calls. -/
def unusedAfter (worker : Worker) (steps : List (Nat × StreamCall))
    (unused : Field String) : Field String :=
  if destroysStream worker steps then .zeroed else unused

theorem Worker.step_unused {unused : Field String}
    (fields : Call.Unused unused worker.memory) (input : Nat × StreamCall) :
    Call.Unused (unusedAfter worker [input] unused)
      (worker.step input).2.memory := by
  obtain ⟨session, call⟩ := input
  simp only [unusedAfter, destroysStream, destroys, Worker.step,
    Bool.or_false]
  cases found : worker.filters session with
  | none => cases call <;> exact fields
  | some filter =>
      cases call with
      | create => exact fields
      | callback callback => exact Call.callback_unused _ fields callback
      | onDestroy => exact ⟨rfl, rfl⟩

theorem unusedAfter_cons (worker : Worker) (input : Nat × StreamCall)
    (steps : List (Nat × StreamCall)) (unused : Field String) :
    unusedAfter worker (input :: steps) unused =
      unusedAfter (worker.step input).2 steps
        (unusedAfter worker [input] unused) := by
  simp only [unusedAfter, destroysStream, Bool.or_false]
  by_cases later : destroysStream (worker.step input).2 steps = true
  · simp [later]
  · simp [later]

theorem run_unused {unused : Field String}
    (fields : Call.Unused unused worker.memory)
    (steps : List (Nat × StreamCall)) :
    Call.Unused (unusedAfter worker steps unused)
      (Trace.run Worker.step worker steps).2.memory := by
  induction steps generalizing worker unused with
  | nil => exact fields
  | cons input steps induction =>
      rw [unusedAfter_cons]
      exact induction (worker.step_unused fields input)

theorem exchange_withoutUnused (filter : Filter) (chunkType : ChunkType)
    (payload : Payload) (answer : Answer) (buffer : List UInt8)
    (last : Option ChunkType) (lastAnswer : Answer) :
    let served := filter.exchange chunkType payload answer buffer last
      lastAnswer
    (served.1.withoutUnused, served.2) =
      filter.exchange chunkType payload.withoutUnused answer buffer last
        lastAnswer := by
  simp only [Filter.exchange]
  cases last with
  | none => rfl
  | some lastType =>
      dsimp only
      split <;> rfl

theorem exchangeBody_withoutUnused (filter : Filter)
    (chunkType lastType : ChunkType) (data buffer : List UInt8)
    (endStream : Bool) (answer lastAnswer : Answer) :
    let served := filter.exchangeBody chunkType lastType data buffer
      endStream answer lastAnswer
    served.1.withoutUnused = served.1 := by
  simp only [Filter.exchangeBody]
  split
  · exact congrArg Prod.fst (exchange_withoutUnused filter chunkType
      (.body _) answer buffer _ lastAnswer)
  · split
    · exact congrArg Prod.fst (exchange_withoutUnused filter lastType
        .nothing lastAnswer data none lastAnswer)
    · rfl

/-- What the unused fields hold makes no other difference. -/
theorem serve_withoutUnused (unused : Field String) (filter : Filter)
    (callback : Callback) :
    ((filter.serve unused callback).1.withoutUnused,
        (filter.serve unused callback).2) =
      filter.serve .zeroed callback := by
  simp only [Filter.serve]
  split
  · rfl
  · cases callback with
    | decodeHeaders streamInfo header endStream answer =>
        simp only [StreamInfo.metaData, Option.bind_eq_bind]
        cases (splitColon streamInfo.downstreamLocalAddress)[1]? with
        | none => rfl
        | some listeningPort =>
            cases (splitColon streamInfo.downstreamRemoteAddress)[1]? with
            | none => rfl
            | some clientPort => exact exchange_withoutUnused ..
    | decodeData buffer endStream answer lastAnswer =>
        exact Prod.ext (exchangeBody_withoutUnused ..) rfl
    | encodeHeaders header endStream answer lastAnswer =>
        exact exchange_withoutUnused ..
    | encodeData buffer endStream answer lastAnswer =>
        exact Prod.ext (exchangeBody_withoutUnused ..) rfl

theorem Worker.step_callback {unused : Field String}
    (fields : Call.Unused unused worker.memory) {session : Nat}
    {filter : Filter} (found : worker.filters session = some filter)
    {callback : Callback} (fits : (StreamCall.callback callback).Fits) :
    let stepped := worker.step (session, .callback callback)
    stepped.1 = some (filter.serve unused callback).1 ∧
      stepped.2.filters session = some (filter.serve unused callback).2 := by
  have served := Call.callback_eq_serve
    { memory := worker.memory, filter, messages := [] } fields rfl fits
  simp only [Worker.step, found, ← served]
  simp

theorem Worker.step_filters_of_ne (worker : Worker)
    (input : Nat × StreamCall) {session : Nat} (other : session ≠ input.1) :
    (worker.step input).2.filters session = worker.filters session := by
  obtain ⟨stepped, call⟩ := input
  simp only [Worker.step]
  cases call with
  | create => exact Function.update_of_ne other _ _
  | callback callback =>
      cases worker.filters stepped with
      | none => rfl
      | some filter => exact Function.update_of_ne other _ _
  | onDestroy =>
      cases worker.filters stepped with
      | none => rfl
      | some filter => exact Function.update_of_ne other _ _

/-- What is kept between a worker and a stream by itself. -/
structure Serves (own : Nat) (worker : Worker) (filter : Option Filter) :
    Prop where
  same : worker.filters own = filter
  fields : ∃ unused, Call.Unused unused worker.memory

theorem Serves.ownStep {own : Nat} {filter : Option Filter}
    (serves : Serves own worker filter) {call : StreamCall} (fits : call.Fits) :
    let stepped := worker.step (own, call)
    stepped.1.map Report.withoutUnused = (serveStream own filter call).1 ∧
      Serves own stepped.2 (serveStream own filter call).2 := by
  obtain ⟨same, unused, fields⟩ := serves
  have kept := worker.step_unused fields (own, call)
  refine ⟨?_, ?_, _, kept⟩
  · cases call with
    | create => rfl
    | callback callback =>
        cases filter with
        | none => simp [Worker.step, same, serveStream]
        | some filter =>
            rw [(worker.step_callback fields same fits).1, Option.map_some,
              serveStream, ← serve_withoutUnused unused]
    | onDestroy =>
        cases filter <;> simp [Worker.step, same, serveStream]
  · cases call with
    | create => simp [Worker.step, serveStream]
    | callback callback =>
        cases filter with
        | none => simp [Worker.step, same, serveStream]
        | some filter =>
            rw [(worker.step_callback fields same fits).2, serveStream,
              ← serve_withoutUnused unused]
    | onDestroy =>
        cases filter <;> simp [Worker.step, same, serveStream]

theorem Serves.foreignStep {own : Nat} {filter : Option Filter}
    (serves : Serves own worker filter) {input : Nat × StreamCall}
    (foreign : own ≠ input.1) :
    Serves own (worker.step input).2 filter := by
  obtain ⟨unused, fields⟩ := serves.fields
  exact
    { same := (worker.step_filters_of_ne input foreign).trans serves.same
      fields := ⟨_, worker.step_unused fields input⟩ }

/-- However the calls of the streams of a worker interleave, a stream sends
and replies what it would by itself, except that two fields of its metadata
are uninitialised memory until the worker has destroyed a stream. -/
theorem worker_isolation (own : Nat) (steps : List (Nat × StreamCall))
    (fits : ∀ input ∈ steps, input.2.Fits) :
    let reached := Trace.run Worker.step .start steps
    (Trace.ownOutputs (·.1 = own) steps reached.1).map
          (Option.map Report.withoutUnused) =
        (Trace.run (serveStream own) none
          ((steps.filter (·.1 = own)).map Prod.snd)).1 ∧
      ∀ filter callback, reached.2.filters own = some filter →
        (StreamCall.callback callback).Fits →
        (reached.2.step (own, .callback callback)).1 =
          some (filter.serve
            (if destroysStream .start steps then .zeroed else .uninitialised)
            callback).1 := by
  intro reached
  have untouched : Call.Unused .uninitialised Worker.start.memory := ⟨rfl, rfl⟩
  have guarded : Trace.Along Worker.step (fun _ input => input.2.Fits ∧ True)
      .start steps :=
    (Trace.along_of_forall _ (fun _ _ => trivial) _ steps).and_of_mem fits
  constructor
  · refine (Trace.run_projection (fun input => decide (input.1 = own))
      Prod.snd (Option.map Report.withoutUnused) _ (Serves own) ?_ ?_
      ⟨rfl, _, untouched⟩ guarded).1
    · intro worker filter input serves mine guard
      obtain ⟨session, call⟩ := input
      have same : session = own := of_decide_eq_true mine
      subst same
      exact serves.ownStep guard.1
    · intro worker filter input serves foreign guard
      have differ : input.1 ≠ own := of_decide_eq_false foreign
      exact serves.foreignStep differ.symm
  · intro filter callback found callbackFits
    exact (Worker.step_callback (run_unused untouched steps) found
      callbackFits).1

/-- Two streams whose request headers come before either is destroyed. -/
def overlappingStreams : List (Nat × StreamCall) :=
  let answer : Answer :=
    { verdict := .inspect
      webResponseData := none
      modifications := []
      finalized := false }
  let streamInfo : StreamInfo :=
    { downstreamLocalAddress := "10.0.0.1:80"
      downstreamRemoteAddress := "10.0.0.2:4000"
      protocol := "HTTP/1.1" }
  let headers (path : String) : StreamCall :=
    .callback (.decodeHeaders streamInfo [(":path", path), ("accept", "a")]
      true answer)
  [(1, .create), (2, .create), (1, headers "/first"), (2, headers "/second"),
    (1, .onDestroy), (2, .onDestroy)]

theorem worker_isolation_overlapping :
    (Trace.ownOutputs (·.1 = 1) overlappingStreams
        (Trace.run Worker.step .start overlappingStreams).1).map
          (Option.map Report.withoutUnused) =
      (Trace.run (serveStream 1) none
        ((overlappingStreams.filter (·.1 = 1)).map Prod.snd)).1 := by
  have fits : ∀ input ∈ overlappingStreams, input.2.Fits := by
    refine List.forall_mem_cons.mpr ⟨trivial, ?_⟩
    refine List.forall_mem_cons.mpr ⟨trivial, ?_⟩
    refine List.forall_mem_cons.mpr
      ⟨Nat.le_trans (List.length_filterMap_le _ _) (by decide), ?_⟩
    refine List.forall_mem_cons.mpr
      ⟨Nat.le_trans (List.length_filterMap_le _ _) (by decide), ?_⟩
    refine List.forall_mem_cons.mpr ⟨trivial, ?_⟩
    exact List.forall_mem_cons.mpr ⟨trivial, List.forall_mem_nil _⟩
  have isolated := worker_isolation 1 overlappingStreams fits
  exact isolated.1

end OpenAppsec.Envoy
