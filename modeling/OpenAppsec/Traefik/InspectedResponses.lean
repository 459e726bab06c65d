import OpenAppsec.Library.Trace
import OpenAppsec.Traefik.SessionOwnership

/-!
# Responses that the plugin inspects

The client of an inspected response receives the status and the header of the
next handler and its chunks as the daemon has modified them; nothing follows a
drop, and in fail-close mode nothing goes before the call that inspects it.
-/

namespace OpenAppsec.Traefik

open Trace

/-- The final status that a call sets, with the header map at that time. -/
def HandlerCall.finalStatus (header : Header) :
    HandlerCall → Option (Int × Header)
  | .writeHeader statusCode =>
      if 200 ≤ statusCode ∧ statusCode ≤ 999 then some (statusCode, header)
      else none
  | .write _ | .flush => some (200, header)
  | .setHeader _ | .hijack => none

def HandlerCall.headerAfter (header : Header) : HandlerCall → Header
  | .setHeader header => header
  | _ => header

/-- The first final status of a handler, or 200 when it sets none. -/
def upstreamResponse : Header → List HandlerCall → Int × Header
  | header, [] => (200, header)
  | header, call :: calls =>
      (call.finalStatus header).getD
        (upstreamResponse (call.headerAfter header) calls)

/-- The reply to the call about a chunk. -/
def chunkReply (data : List UInt8) (asked : DaemonCalls) :
    Option VerdictReply :=
  asked.findSome? fun entry =>
    if entry.1 = .sendResponseBody data then entry.2 else none

/-- The chunk of a call, as the daemon has modified it. -/
def HandlerCall.delivered (asked : DaemonCalls) : HandlerCall → List UInt8
  | .write data => replacement (chunkReply data asked) data
  | _ => []

/-- The client can receive the body with that status and header. -/
def Fits (response : Int × Header) (body : List UInt8) : Prop :=
  body = [] ∨ (bodyAllowedForStatus response.1 = true ∧
    ∀ length, response.2.declaredLength = some length → body.length ≤ length)

theorem Fits.of_append {response : Int × Header} {first second : List UInt8}
    (fits : Fits response (first ++ second)) : Fits response first := by
  obtain empty | ⟨allowed, short⟩ := fits
  · exact .inl (List.append_eq_nil_iff.mp empty).1
  · refine .inr ⟨allowed, fun length declared => ?_⟩
    have bound := short length declared
    rw [List.length_append] at bound
    omega

section Daemon

variable (m : Middleware) (daemon : Nat → Option VerdictReply)

variable {before after : ResponseInspector}

/-- The chunks of a handler, as the daemon has modified them. -/
def deliveredBody : ResponseInspector → List HandlerCall → List UInt8
  | _, [] => []
  | i, call :: calls =>
      let next := (i.call m daemon call).2
      call.delivered (next.calls.drop i.calls.length) ++
        deliveredBody next calls

/-- The handler does not take the connection, sends no informational status
before its header, and flushes no header that must still be inspected. -/
def ResponseInspector.Orderly (i : ResponseInspector) : HandlerCall → Prop
  | .writeHeader statusCode =>
      i.wroteHeader = false → i.dropped = false →
        ¬(100 ≤ statusCode ∧ statusCode ≤ 199)
  | .flush =>
      i.rw.response = none → i.dropped = false ∧
        (i.passthrough = true ∨ m.failClose = false)
  | .hijack => False
  | .setHeader _ | .write _ => True

instance (i : ResponseInspector) :
    ∀ call, Decidable (i.Orderly m call)
  | .writeHeader _ => inferInstanceAs (Decidable (_ → _ → _))
  | .flush => inferInstanceAs (Decidable (_ → _ ∧ (_ ∨ _)))
  | .hijack => inferInstanceAs (Decidable False)
  | .setHeader _ | .write _ => inferInstanceAs (Decidable True)

/-- What the client has received is the same. -/
structure ResponseWriter.SameResponse (before after : ResponseWriter) :
    Prop where
  response : after.response = before.response
  body : after.body = before.body
  informational : after.informational = before.informational

/-- The daemon has let the rest of the exchange go. -/
def Released (calls : DaemonCalls) : Prop :=
  ∃ call reply, (call, some reply) ∈ calls ∧
    (reply.verdict = .accept ∨ reply.verdict = .noop)

/-- Only a block page is written. -/
def ResponseWriter.BlockedBy (before after : ResponseWriter) : Prop :=
  ∃ block, after = (writeBlock block before).2

/-- The daemon has answered about this status and header. -/
def InspectedHeader (code : Int) (header : Header) (calls : DaemonCalls) :
    Prop :=
  ∃ contentLength reply,
    (DaemonCall.sendResponseHeaders code contentLength header, some reply) ∈
      calls

theorem Released.append {calls : DaemonCalls}
    (released : Released calls) (more : DaemonCalls) :
    Released (calls ++ more) := by
  obtain ⟨call, reply, member, verdict⟩ := released
  exact ⟨call, reply, List.mem_append_left _ member, verdict⟩

theorem InspectedHeader.append {code : Int} {header : Header}
    {calls : DaemonCalls} (inspected : InspectedHeader code header calls)
    (more : DaemonCalls) : InspectedHeader code header (calls ++ more) := by
  obtain ⟨contentLength, reply, member⟩ := inspected
  exact ⟨contentLength, reply, List.mem_append_left _ member⟩

/-- What the client receives between two states is a block page, or the daemon
has let it go, or has answered about it first. -/
structure ResponseInspector.Justified (released : DaemonCalls → Prop)
    (chunk : Option (List UInt8)) (before after : ResponseInspector) :
    Prop where
  status : ∀ code header, before.rw.response = none →
    after.rw.response = some (code, header) →
      before.rw.BlockedBy after.rw ∨ released after.calls ∨
        InspectedHeader code header after.calls
  informational : after.rw.informational ≠ before.rw.informational →
    before.rw.BlockedBy after.rw
  body : after.rw.body ≠ before.rw.body →
    before.rw.BlockedBy after.rw ∨ released after.calls ∨
      ∃ data reply, chunk = some data ∧
        (.sendResponseBody data, some reply) ∈
          after.calls.drop before.calls.length

theorem ResponseInspector.Justified.of_same {released : DaemonCalls → Prop}
    {chunk : Option (List UInt8)} (same : before.rw.SameResponse after.rw) :
    Justified released chunk before after where
  status _ _ unsent sent :=
    nomatch (same.response.trans unsent).symm.trans sent
  informational changed := (changed same.informational).elim
  body changed := (changed same.body).elim

theorem ResponseInspector.Justified.of_blocked {released : DaemonCalls → Prop}
    {chunk : Option (List UInt8)} (blocked : before.rw.BlockedBy after.rw) :
    Justified released chunk before after where
  status _ _ _ _ := .inl blocked
  informational _ := blocked
  body _ := .inl blocked

def HandlerCall.chunk : HandlerCall → Option (List UInt8)
  | .write data => some data
  | _ => none

/-- At the end the client receives a block page, or the header that was left,
once the daemon has let it go or has answered about it. -/
structure ResponseInspector.JustifiedEnd (released : DaemonCalls → Prop)
    (before after : ResponseInspector) : Prop where
  written : before.rw.SameResponse after.rw ∨ before.rw.BlockedBy after.rw
  status : after.dropped = false → before.rw.response = none →
    released after.calls ∨ InspectedHeader 200 before.rw.header after.calls

/-- The client has received that status so far, and that body if it can. -/
structure ResponseInspector.Forwards (able : Prop)
    (sent : Option (Int × Header)) (body : List UInt8)
    (i : ResponseInspector) : Prop where
  response : i.rw.response = sent
  body : able → i.rw.body = body
  counted : able → i.rw.written = i.rw.body.length
  kept : i.rw.hijacked = false
  wroteHeader : i.wroteHeader = true → sent ≠ none

namespace ResponseInspector

variable {i : ResponseInspector} {body data : List UInt8}
variable {sent : Option (Int × Header)} {statusCode : Int} {able : Prop}

theorem Forwards.forwardHeader (forwards : i.Forwards able sent body)
    (final : ¬(100 ≤ statusCode ∧ statusCode ≤ 199)) :
    (i.forwardHeader statusCode).2.Forwards able
        (sent <|> HandlerCall.finalStatus i.rw.header (.writeHeader statusCode))
        body ∧
      (i.forwardHeader statusCode).2.rw.header = i.rw.header ∧
      (200 ≤ statusCode ∧ statusCode ≤ 999 →
        (i.forwardHeader statusCode).1 = false) := by
  rw [ResponseInspector.forwardHeader]
  cases sent with
  | some response =>
      have sent : i.rw.response ≠ none := by simp [forwards.response]
      rw [i.rw.writeHeader_of_sent sent]
      exact ⟨{ forwards with wroteHeader := fun _ => by simp }, rfl, fun _ => rfl⟩
  | none =>
      rw [i.rw.writeHeader_of_unsent forwards.response forwards.kept final]
      by_cases valid : 200 ≤ statusCode ∧ statusCode ≤ 999
      · rw [if_pos valid]
        refine ⟨?_, rfl, fun _ => rfl⟩
        simp only [HandlerCall.finalStatus, if_pos valid]
        exact { forwards with
          response := rfl
          wroteHeader := fun _ => by simp }
      · rw [if_neg valid]
        refine ⟨?_, rfl, fun known => (valid known).elim⟩
        simp only [HandlerCall.finalStatus, if_neg valid]
        exact { forwards with }

theorem block_dropped {response : Option BlockResponse} :
    (i.block response).2.dropped = true :=
  (block_same response i).2.2

theorem block_blocks (response : Option BlockResponse)
    (i : ResponseInspector) : i.rw.BlockedBy (i.block response).2.rw := by
  refine ⟨response, ?_⟩
  rw [block]
  generalize writeBlock response i.rw = result
  obtain ⟨_ | _, rw⟩ := result <;> rfl

/-- An inspected header goes to the client unless the response is dropped. -/
theorem Forwards.writeHeader (forwards : i.Forwards able sent body)
    (unwritten : i.wroteHeader = false)
    (final : ¬(100 ≤ statusCode ∧ statusCode ≤ 199))
    (stays : (i.writeHeader m daemon statusCode).2.dropped = false)
    (undropped : i.dropped = false) :
    (i.writeHeader m daemon statusCode).2.Forwards able
        (sent <|> HandlerCall.finalStatus i.rw.header (.writeHeader statusCode))
        body ∧
      (i.writeHeader m daemon statusCode).2.rw.header = i.rw.header ∧
      (200 ≤ statusCode ∧ statusCode ≤ 999 →
        (i.writeHeader m daemon statusCode).1 = false) := by
  have writes : ¬(i.wroteHeader = true ∨ i.dropped = true) := by
    simp [unwritten, undropped]
  rw [ResponseInspector.writeHeader, if_neg writes] at stays ⊢
  split at stays
  · rename_i passes
    rw [if_pos passes]
    exact forwards.forwardHeader final
  · rename_i inspects
    rw [if_neg inspects]
    have outcome := i.inspectHeaders_outcome m daemon statusCode true
    generalize i.inspectHeaders m daemon statusCode true = result
      at outcome stays ⊢
    cases outcome with
    | fails _ => cases block_dropped.symm.trans stays
    | drops _ _ => cases block_dropped.symm.trans stays
    | goesOn reply passthrough sessionDone _ =>
        have same : ResponseInspector.Forwards able sent body
            { i.asked (i.headersCall statusCode) reply with
              passthrough, sessionDone } := { forwards with }
        exact same.forwardHeader final

/-- An inspected chunk goes to the client unless the response is dropped. -/
theorem Forwards.inspectBody {response : Int × Header}
    (forwards : i.Forwards able (some response) body)
    (stays : (i.inspectBody m daemon data).2.dropped = false) :
    ∃ asked, (i.inspectBody m daemon data).2.calls = i.calls ++ asked ∧
      ((able → Fits response
          (body ++ replacement (chunkReply data asked) data)) →
        (i.inspectBody m daemon data).2.Forwards able (some response)
            (body ++ replacement (chunkReply data asked) data) ∧
          (i.inspectBody m daemon data).2.rw.header = i.rw.header) := by
  have grows (chunk : List UInt8) (isAble : able)
      (fits : Fits response (body ++ chunk)) :
      i.rw.write chunk =
        { i.rw with
          body := i.rw.body ++ chunk
          written := i.rw.written + chunk.length } := by
    apply i.rw.write_of_sent forwards.response forwards.kept
      (forwards.counted isAble)
    · obtain empty | ⟨allowed, _⟩ := fits
      · exact .inl (List.append_eq_nil_iff.mp empty).2
      · exact .inr allowed
    · intro length declared
      obtain empty | ⟨_, short⟩ := fits
      · exact .inl (List.append_eq_nil_iff.mp empty).2
      · right
        rw [forwards.body isAble]
        simpa using short length declared
  have written (chunk : List UInt8) {next : ResponseInspector}
      (fits : able → Fits response (body ++ chunk))
      (written : next.rw = i.rw.write chunk) :
      next.Forwards able (some response) (body ++ chunk) ∧
        next.rw.header = i.rw.header := by
    have sent : i.rw.response ≠ none := by simp [forwards.response]
    obtain ⟨same, _, kept, header⟩ := ResponseWriter.write_keeps sent chunk
    rw [← written] at same kept header
    refine ⟨⟨same.trans forwards.response, fun isAble => ?_, fun isAble => ?_,
      kept.trans forwards.kept, fun _ => nofun⟩, header⟩
    · rw [written, grows chunk isAble (fits isAble), forwards.body isAble]
    · rw [written, grows chunk isAble (fits isAble)]
      simp [forwards.counted isAble]
  have outcome := i.inspectBody_outcome m daemon data
  generalize i.inspectBody m daemon data = result at outcome stays ⊢
  cases outcome with
  | passes _ =>
      exact ⟨[], (List.append_nil _).symm, fun fits =>
        written (replacement (chunkReply data []) data) fits rfl⟩
  | nothing _ empty =>
      refine ⟨[], (List.append_nil _).symm, fun _ => ?_⟩
      simpa [empty, chunkReply, replacement] using forwards
  | fails _ _ => exact nomatch stays
  | drops _ _ _ => exact nomatch stays
  | goesOn _ reply _ _ _ _ =>
      have own : chunkReply data [(.sendResponseBody data, reply)] = reply := by
        cases reply <;> simp [chunkReply]
      refine ⟨[(.sendResponseBody data, reply)], rfl, fun fits => ?_⟩
      rw [own] at fits ⊢
      exact written _ fits rfl

theorem writeHeader_calls (statusCode : Int) (i : ResponseInspector) :
    ∃ asked, (i.writeHeader m daemon statusCode).2.calls = i.calls ++ asked ∧
      ∀ entry ∈ asked, entry.1 = i.headersCall statusCode := by
  have nothing : ∃ asked, i.calls = i.calls ++ asked ∧
      ∀ entry ∈ asked, entry.1 = i.headersCall statusCode :=
    ⟨[], (List.append_nil _).symm, nofun⟩
  have one {reply : Option VerdictReply} {after : ResponseInspector}
      (calls : after.calls = i.calls ++ [(i.headersCall statusCode, reply)]) :
      ∃ asked, after.calls = i.calls ++ asked ∧
        ∀ entry ∈ asked, entry.1 = i.headersCall statusCode := by
    refine ⟨_, calls, fun entry member => ?_⟩
    cases List.mem_singleton.mp member
    rfl
  rw [writeHeader]
  split
  · exact nothing
  · split
    · rw [(forwardHeader_same statusCode i).1]
      exact nothing
    · have outcome := i.inspectHeaders_outcome m daemon statusCode true
      generalize i.inspectHeaders m daemon statusCode true = result
        at outcome ⊢
      cases outcome with
      | fails _ => exact one (block_same _ _).1
      | drops _ _ => exact one (block_same _ _).1
      | goesOn _ _ _ _ => exact one (forwardHeader_same _ _).1

theorem chunkReply_append {first second : DaemonCalls}
    (other : ∀ entry ∈ first, entry.1 ≠ .sendResponseBody data) :
    chunkReply data (first ++ second) = chunkReply data second := by
  have none : chunkReply data first = none := by
    rw [chunkReply, List.findSome?_eq_none_iff]
    exact fun entry member => if_neg (other entry member)
  rw [chunkReply, List.findSome?_append]
  rw [chunkReply] at none
  rw [none]
  rfl

theorem Forwards.write (forwards : i.Forwards able sent body)
    (undropped : i.dropped = false)
    (stays : (i.write m daemon data).2.dropped = false) :
    ∃ asked, (i.write m daemon data).2.calls = i.calls ++ asked ∧
      ((able → Fits (sent.getD (200, i.rw.header))
          (body ++ replacement (chunkReply data asked) data)) →
        (i.write m daemon data).2.Forwards able
            (some (sent.getD (200, i.rw.header)))
            (body ++ replacement (chunkReply data asked) data) ∧
          (i.write m daemon data).2.rw.header = i.rw.header) := by
  rw [ResponseInspector.write, if_neg (by simp [undropped])] at stays ⊢
  cases wrote : i.wroteHeader with
  | true =>
      rw [if_pos rfl]
      rw [wrote, if_pos rfl] at stays
      obtain ⟨response, rfl⟩ :=
        Option.ne_none_iff_exists'.mp (forwards.wroteHeader wrote)
      exact forwards.inspectBody m daemon stays
  | false =>
      rw [if_neg (by simp)]
      rw [wrote, if_neg (by simp)] at stays
      obtain ⟨first, askedFirst, ofHeader⟩ := i.writeHeader_calls m daemon 200
      have goesOn : (i.writeHeader m daemon 200).2.dropped = false := by
        generalize i.writeHeader m daemon 200 = result at stays ⊢
        obtain ⟨_ | _, next⟩ := result
        · dsimp only at stays ⊢
          split at stays
          · exact stays
          · rename_i goesOn
            simpa using goesOn
        · exact stays
      obtain ⟨headed, header, returns⟩ :=
        forwards.writeHeader m daemon wrote (by decide) goesOn undropped
      have returns := returns (by decide)
      have status : (sent <|> HandlerCall.finalStatus i.rw.header
          (.writeHeader 200)) = some (sent.getD (200, i.rw.header)) := by
        cases sent <;> rfl
      rw [status] at headed
      generalize i.writeHeader m daemon 200 = result
        at stays askedFirst goesOn headed header returns ⊢
      obtain ⟨panics, next⟩ := result
      cases returns
      dsimp only at stays askedFirst goesOn headed header ⊢
      rw [if_neg (by simp [goesOn])] at stays ⊢
      obtain ⟨second, askedSecond, delivered⟩ :=
        headed.inspectBody m daemon stays
      refine ⟨first ++ second, ?_, ?_⟩
      · rw [askedSecond, askedFirst, List.append_assoc]
      · rw [chunkReply_append fun entry member => by
          rw [ofHeader entry member]
          exact (by rintro ⟨⟩)]
        intro fits
        obtain ⟨chunk, same⟩ := delivered fits
        exact ⟨chunk, same.trans header⟩

theorem Forwards.call (forwards : i.Forwards able sent body)
    (undropped : i.dropped = false) {call : HandlerCall}
    (orderly : i.Orderly m call)
    (stays : (i.call m daemon call).2.dropped = false)
    (fits : ∀ response,
      (sent <|> call.finalStatus i.rw.header) = some response → able →
        Fits response (body ++ call.delivered
          ((i.call m daemon call).2.calls.drop i.calls.length))) :
    (i.call m daemon call).2.Forwards able
        (sent <|> call.finalStatus i.rw.header)
        (body ++ call.delivered
          ((i.call m daemon call).2.calls.drop i.calls.length)) ∧
      (i.call m daemon call).2.rw.header =
        call.headerAfter i.rw.header := by
  cases call with
  | setHeader header =>
      have same : (sent <|> HandlerCall.finalStatus i.rw.header
          (.setHeader header)) = sent := by
        cases sent <;> rfl
      rw [same]
      simp only [HandlerCall.delivered, List.append_nil]
      exact ⟨{ forwards with }, rfl⟩
  | writeHeader statusCode =>
      simp only [HandlerCall.delivered, List.append_nil]
      cases wrote : i.wroteHeader with
      | true =>
          have same : i.call m daemon (.writeHeader statusCode) =
              (false, i) := by
            rw [ResponseInspector.call, ResponseInspector.writeHeader,
              if_pos (.inl wrote)]
          obtain ⟨response, rfl⟩ :=
            Option.ne_none_iff_exists'.mp (forwards.wroteHeader wrote)
          rw [same]
          exact ⟨forwards, rfl⟩
      | false =>
          obtain ⟨headed, header, _⟩ := forwards.writeHeader m daemon wrote
            (orderly wrote undropped) stays undropped
          exact ⟨headed, header⟩
  | write data =>
      have status : (sent <|> HandlerCall.finalStatus i.rw.header
          (.write data)) = some (sent.getD (200, i.rw.header)) := by
        cases sent <;> rfl
      obtain ⟨asked, calls, delivered⟩ :=
        forwards.write m daemon undropped stays
      have fits := fits _ status
      rw [status]
      rw [ResponseInspector.call, calls, List.drop_left] at fits ⊢
      exact delivered fits
  | flush =>
      have status : (sent <|> HandlerCall.finalStatus i.rw.header .flush) =
          some (i.rw.response.getD (200, i.rw.header)) := by
        rw [forwards.response]
        cases sent <;> rfl
      rw [status]
      simp only [HandlerCall.delivered, List.append_nil]
      rw [ResponseInspector.call, ResponseInspector.flush,
        ResponseWriter.flush, ResponseWriter.writeDefaultHeader_eq
          forwards.kept]
      exact ⟨{ forwards with
        response := rfl
        wroteHeader := fun _ => by simp }, rfl⟩
  | hijack => exact orderly.elim

theorem run_dropped (calls : List HandlerCall) (dropped : i.dropped = true) :
    (run (ResponseInspector.call m daemon) i calls).2.dropped = true := by
  induction calls generalizing i with
  | nil => exact dropped
  | cons call calls induction =>
      exact induction ((i.call_asks m daemon call).dropped dropped)

/-- A handler whose response is not dropped sends its first final status and
its chunks as the daemon has modified them. -/
theorem Forwards.run {calls : List HandlerCall}
    (forwards : i.Forwards able sent body) (undropped : i.dropped = false)
    (orderly : Along (ResponseInspector.call m daemon)
      (ResponseInspector.Orderly m) i calls)
    (stays :
      (run (ResponseInspector.call m daemon) i calls).2.dropped = false)
    (fits : able → Fits (sent.getD (upstreamResponse i.rw.header calls))
      (body ++ deliveredBody m daemon i calls)) :
    ∃ response,
      (run (ResponseInspector.call m daemon) i calls).2.Forwards able response
          (body ++ deliveredBody m daemon i calls) ∧
        response.getD (200,
            (run (ResponseInspector.call m daemon) i calls).2.rw.header) =
          sent.getD (upstreamResponse i.rw.header calls) := by
  induction calls generalizing i sent body with
  | nil =>
      refine ⟨sent, ?_, rfl⟩
      simpa [deliveredBody] using forwards
  | cons call calls induction =>
      have undroppedNext : (i.call m daemon call).2.dropped = false := by
        by_contra dropped
        have dropped : (i.call m daemon call).2.dropped = true := by
          simpa using dropped
        have dropped := run_dropped m daemon calls dropped
        exact nomatch stays.symm.trans dropped
      have status : (sent <|> call.finalStatus i.rw.header).getD
          (upstreamResponse (call.headerAfter i.rw.header) calls) =
            sent.getD (upstreamResponse i.rw.header (call :: calls)) := by
        cases sent <;> rfl
      rw [deliveredBody, ← List.append_assoc, ← status] at fits
      obtain ⟨here, header⟩ := forwards.call m daemon undropped orderly.1
        undroppedNext fun response sent isAble => by
          rw [sent] at fits
          exact (fits isAble).of_append
      rw [← header] at fits status
      obtain ⟨response, all, same⟩ :=
        induction here undroppedNext orderly.2 stays fits
      refine ⟨response, ?_, same.trans status⟩
      rw [deliveredBody, ← List.append_assoc]
      exact all

theorem endResponse_writes (i : ResponseInspector) :
    (i.endResponse daemon).2.rw = i.rw ∨
      (i.endResponse daemon).2.dropped = true ∧
        i.rw.BlockedBy (i.endResponse daemon).2.rw := by
  rw [endResponse, ask_eq]
  generalize daemon i.calls.length = reply
  rcases reply with _ | reply
  · exact .inl rfl
  · dsimp only
    split
    · split
      · exact .inl rfl
      · exact .inr ⟨block_dropped, block_blocks _ _⟩
    · exact .inl rfl

theorem inspectLateHeaders_writes (i : ResponseInspector) :
    (i.inspectHeaders m daemon 200 false).2.dropped = true ∧
        i.rw.BlockedBy (i.inspectHeaders m daemon 200 false).2.rw ∨
      (i.inspectHeaders m daemon 200 false).1 = false ∧
        (i.inspectHeaders m daemon 200 false).2.rw = i.rw := by
  have outcome := i.inspectHeaders_outcome m daemon 200 false
  generalize i.inspectHeaders m daemon 200 false = result at outcome ⊢
  cases outcome with
  | fails _ => exact .inl ⟨block_dropped, block_blocks _ _⟩
  | drops _ _ => exact .inl ⟨block_dropped, block_blocks _ _⟩
  | goesOn reply passthrough sessionDone _ => exact .inr ⟨rfl, rfl⟩

theorem finish_writes (i : ResponseInspector) :
    (i.finish m daemon).2.rw = i.rw ∨
      (i.finish m daemon).2.dropped = true ∧
        i.rw.BlockedBy (i.finish m daemon).2.rw := by
  rw [finish]
  split
  · exact .inl rfl
  · split
    · exact endResponse_writes daemon i
    · have headed := i.inspectLateHeaders_writes m daemon
      generalize i.inspectHeaders m daemon 200 false = result at headed ⊢
      obtain ⟨panics, next⟩ := result
      obtain ⟨dropped, blocked⟩ | ⟨returns, same⟩ := headed
      · cases panics with
        | true => exact .inr ⟨dropped, blocked⟩
        | false =>
            dsimp only at dropped blocked ⊢
            rw [if_pos (.inl dropped)]
            exact .inr ⟨dropped, blocked⟩
      · cases returns
        dsimp only at same ⊢
        split
        · exact .inl same
        · rw [← same]
          exact endResponse_writes daemon next

theorem finish_of_dropped (dropped : i.dropped = true) :
    i.finish m daemon = (false, i) := by
  rw [finish, if_pos (.inl dropped)]

theorem Forwards.finish {calls : List HandlerCall}
    (start : i.Forwards (Fits (upstreamResponse i.rw.header calls)
      (deliveredBody m daemon i calls)) none [])
    (undropped : i.dropped = false)
    (orderly : Along (ResponseInspector.call m daemon)
      (ResponseInspector.Orderly m) i calls)
    (stays : ((Trace.run (ResponseInspector.call m daemon) i calls).2.finish
      m daemon).2.dropped = false) :
    let rw := ((Trace.run (ResponseInspector.call m daemon) i calls).2.finish
      m daemon).2.rw
    rw.finishRequest.response = some (upstreamResponse i.rw.header calls) ∧
      (Fits (upstreamResponse i.rw.header calls)
          (deliveredBody m daemon i calls) →
        rw.body = deliveredBody m daemon i calls) := by
  have same : ((Trace.run (ResponseInspector.call m daemon) i calls).2.finish
      m daemon).2.rw =
        (Trace.run (ResponseInspector.call m daemon) i calls).2.rw := by
    obtain same | ⟨dropped, _⟩ := finish_writes m daemon
      (Trace.run (ResponseInspector.call m daemon) i calls).2
    · exact same
    · exact nomatch stays.symm.trans dropped
  have staysHere :
      (Trace.run (ResponseInspector.call m daemon) i calls).2.dropped =
        false := by
    by_contra dropped
    rw [finish_of_dropped m daemon (by simpa using dropped)] at stays
    exact dropped stays
  obtain ⟨response, forwards, status⟩ :=
    start.run m daemon undropped orderly staysHere id
  dsimp only
  rw [same]
  constructor
  · rw [ResponseWriter.finishRequest,
      ResponseWriter.writeDefaultHeader_eq forwards.kept, forwards.response,
      status]
    rfl
  · simpa using forwards.body

theorem call_after_drop {call : HandlerCall} (dropped : i.dropped = true)
    (orderly : i.Orderly m call) :
    i.rw.SameResponse (i.call m daemon call).2.rw := by
  cases call with
  | setHeader header => exact ⟨rfl, rfl, rfl⟩
  | writeHeader statusCode =>
      rw [ResponseInspector.call, ResponseInspector.writeHeader,
        if_pos (.inr dropped)]
      exact ⟨rfl, rfl, rfl⟩
  | write data =>
      rw [ResponseInspector.call, ResponseInspector.write, if_pos dropped]
      exact ⟨rfl, rfl, rfl⟩
  | flush =>
      have sent : i.rw.response ≠ none := by
        intro unsent
        cases dropped.symm.trans (orderly unsent).1
      rw [ResponseInspector.call, flush, ResponseWriter.flush,
        ResponseWriter.writeDefaultHeader,
        ResponseWriter.writeHeader_of_sent sent]
      exact ⟨rfl, rfl, rfl⟩
  | hijack => exact orderly.elim

/-- Without a drop, a header that counts as written has gone, and what passes
has been let go by the daemon. -/
structure Guarded (i : ResponseInspector) : Prop where
  released : i.passthrough = true → Released i.calls
  kept : i.dropped = false → i.rw.hijacked = false
  wrote : i.dropped = false → i.wroteHeader = true → i.rw.response ≠ none

/-- A header that goes to the client has been let go or answered about. -/
structure HeaderShown (before after : ResponseInspector) : Prop where
  status : ∀ code header, before.rw.response = none →
    after.rw.response = some (code, header) →
      Released after.calls ∨ InspectedHeader code header after.calls
  informational : after.rw.informational = before.rw.informational
  body : after.rw.body = before.rw.body

theorem HeaderShown.justified {chunk : Option (List UInt8)}
    (shown : before.HeaderShown after) :
    Justified Released chunk before after where
  status code header unsent sent :=
    .inr (shown.status code header unsent sent)
  informational changed := (changed shown.informational).elim
  body changed := (changed shown.body).elim

theorem Guarded.forwardHeader (guarded : i.Guarded)
    (undropped : i.dropped = false)
    (final : ¬(100 ≤ statusCode ∧ statusCode ≤ 199)) :
    (i.forwardHeader statusCode).2.Guarded ∧
      ((i.forwardHeader statusCode).1 = false →
        (i.forwardHeader statusCode).2.rw.response ≠ none) ∧
      (∀ code header, i.rw.response = none →
        (i.forwardHeader statusCode).2.rw.response = some (code, header) →
          code = statusCode ∧ header = i.rw.header) ∧
      (i.forwardHeader statusCode).2.rw.informational = i.rw.informational ∧
      (i.forwardHeader statusCode).2.rw.body = i.rw.body := by
  have kept := guarded.kept undropped
  rw [ResponseInspector.forwardHeader]
  by_cases sent : i.rw.response = none
  · rw [i.rw.writeHeader_of_unsent sent kept final]
    by_cases valid : 200 ≤ statusCode ∧ statusCode ≤ 999
    · rw [if_pos valid]
      refine ⟨⟨guarded.released, fun _ => kept, fun _ _ => by simp⟩,
        fun _ => by simp, ?_, rfl, rfl⟩
      intro code header _ same
      cases same
      exact ⟨rfl, rfl⟩
    · rw [if_neg valid]
      refine ⟨⟨guarded.released, fun _ => kept, guarded.wrote⟩, by simp, ?_, rfl,
        rfl⟩
      intro code header _ same
      cases sent.symm.trans same
  · rw [i.rw.writeHeader_of_sent sent]
    refine ⟨⟨guarded.released, fun _ => kept, fun _ _ => sent⟩,
      fun _ => sent, ?_, rfl, rfl⟩
    intro code header unsent
    exact (sent unsent).elim

theorem Guarded.block (guarded : i.Guarded) (call : DaemonCall)
    (reply : Option VerdictReply) (sessionDone : Bool)
    (response : Option BlockResponse) :
    ({ i.asked call reply with sessionDone }.block response).2.Guarded := by
  have dropped : ({ i.asked call reply with sessionDone }.block
      response).2.dropped = true := block_dropped
  have passthrough : ({ i.asked call reply with sessionDone }.block
      response).2.passthrough = i.passthrough := by
    rw [ResponseInspector.block]
    generalize writeBlock response _ = result
    obtain ⟨_ | _, rw⟩ := result <;> rfl
  have stays {property : Prop}
      (undropped : ({ i.asked call reply with sessionDone }.block
        response).2.dropped = false) : property :=
    (Bool.eq_false_iff.mp undropped dropped).elim
  refine ⟨?_, stays, stays⟩
  rw [passthrough, (block_same _ _).1]
  intro passes
  exact (guarded.released passes).append _

theorem Guarded.goesOn (guarded : i.Guarded) (failClose : m.failClose = true)
    (call : DaemonCall) {reply : Option VerdictReply}
    {passthrough sessionDone : Bool}
    (flags : i.Flags m reply passthrough sessionDone) (bodyWritten : Bool) :
    { i.asked call reply with
      passthrough, bodyWritten, sessionDone }.Guarded ∧
      ∃ answer, reply = some answer := by
  obtain ⟨answer, rfl⟩ : ∃ answer, reply = some answer := by
    cases reply with
    | none => exact nomatch failClose.symm.trans flags.goesOn
    | some answer => exact ⟨answer, rfl⟩
  refine ⟨⟨?_, guarded.kept, guarded.wrote⟩, answer, rfl⟩
  intro passes
  obtain before | verdict := flags.releases passes
  · exact (guarded.released before).append _
  · exact ⟨call, answer, List.mem_append_right _ (List.mem_singleton_self _),
      verdict⟩

/-- A header is shown once the daemon has let it go or answered about it, or a
block page is shown in its place. -/
theorem Guarded.writeHeader (guarded : i.Guarded)
    (failClose : m.failClose = true)
    (orderly : i.Orderly m (.writeHeader statusCode)) :
    (i.writeHeader m daemon statusCode).2.Guarded ∧
      ((i.writeHeader m daemon statusCode).1 = false →
        (i.writeHeader m daemon statusCode).2.dropped = false →
          (i.writeHeader m daemon statusCode).2.rw.response ≠ none) ∧
      (i.HeaderShown (i.writeHeader m daemon statusCode).2 ∨
        (i.writeHeader m daemon statusCode).2.dropped = true ∧
          i.rw.BlockedBy (i.writeHeader m daemon statusCode).2.rw) := by
  rw [ResponseInspector.writeHeader]
  split
  · rename_i ignored
    refine ⟨guarded, fun _ undropped => ?_, .inl ⟨?_, rfl, rfl⟩⟩
    · have undropped : i.dropped = false := undropped
      have wrote := ignored.resolve_right (by simp [undropped])
      exact guarded.wrote undropped wrote
    · intro code header unsent sent
      cases unsent.symm.trans sent
  · rename_i writes
    have unwritten : i.wroteHeader = false := by
      simpa using (not_or.mp writes).1
    have undropped : i.dropped = false := by simpa using (not_or.mp writes).2
    have final := orderly unwritten undropped
    split
    · rename_i passes
      obtain ⟨next, sends, _, informational, body⟩ :=
        guarded.forwardHeader undropped final
      refine ⟨next, fun returns _ => sends returns,
        .inl ⟨fun _ _ _ _ => .inl ?_, informational, body⟩⟩
      rw [(forwardHeader_same _ _).1]
      exact guarded.released passes
    · have notBlocked {result : Bool × ResponseInspector}
          (dropped : result.2.dropped = true) (_ : result.1 = false)
          (undropped : result.2.dropped = false) :
          result.2.rw.response ≠ none :=
        (Bool.eq_false_iff.mp undropped dropped).elim
      have outcome := i.inspectHeaders_outcome m daemon statusCode true
      generalize i.inspectHeaders m daemon statusCode true = result
        at outcome ⊢
      cases outcome with
      | fails _ =>
          exact ⟨guarded.block _ _ _ _, notBlocked block_dropped,
            .inr ⟨block_dropped, block_blocks _ _⟩⟩
      | drops _ _ =>
          exact ⟨guarded.block _ _ _ _, notBlocked block_dropped,
            .inr ⟨block_dropped, block_blocks _ _⟩⟩
      | goesOn reply passthrough sessionDone flags =>
          rw [if_pos rfl]
          obtain ⟨answered, answer, rfl⟩ := guarded.goesOn m failClose
            (i.headersCall statusCode) flags i.bodyWritten
          obtain ⟨next, sends, status, informational, body⟩ :=
            answered.forwardHeader undropped final
          refine ⟨next, fun returns _ => sends returns, .inl ⟨?_, informational, body⟩⟩
          intro code header unsent sent
          obtain ⟨rfl, rfl⟩ := status code header unsent sent
          right
          rw [(forwardHeader_same _ _).1]
          exact ⟨_, answer, List.mem_append_right _
            (List.mem_singleton_self _)⟩

theorem Guarded.inspectBody (guarded : i.Guarded)
    (failClose : m.failClose = true) (undropped : i.dropped = false)
    (sent : i.rw.response ≠ none) (data : List UInt8) :
    (i.inspectBody m daemon data).2.Guarded ∧
      (i.inspectBody m daemon data).2.rw.response = i.rw.response ∧
      (i.inspectBody m daemon data).2.rw.informational =
        i.rw.informational ∧
      ((i.inspectBody m daemon data).2.rw.body ≠ i.rw.body →
        Released (i.inspectBody m daemon data).2.calls ∨
          ∃ reply, (i.inspectBody m daemon data).2.calls =
            i.calls ++ [(.sendResponseBody data, some reply)]) := by
  have kept := guarded.kept undropped
  have outcome := i.inspectBody_outcome m daemon data
  generalize i.inspectBody m daemon data = result at outcome ⊢
  have written {next : ResponseInspector} {chunk : List UInt8}
      (guarded : next.Guarded) (same : next.rw = i.rw) :
      (next.forwardBody chunk).Guarded ∧
        (next.forwardBody chunk).rw.response = i.rw.response ∧
        (next.forwardBody chunk).rw.informational = i.rw.informational := by
    have sent' : next.rw.response ≠ none := same ▸ sent
    have kept' : next.rw.hijacked = false := same ▸ kept
    obtain ⟨response, informational, hijacked, _⟩ :=
      ResponseWriter.write_keeps sent' chunk
    refine ⟨⟨guarded.released, fun _ => ?_, fun _ _ => ?_⟩, ?_, ?_⟩
    · exact hijacked.trans kept'
    · rw [forwardBody, response]
      exact sent'
    · rw [forwardBody, response, same]
    · rw [forwardBody, informational, same]
  cases outcome with
  | passes passthrough =>
      obtain ⟨next, response, informational⟩ := written guarded rfl
      exact ⟨next, response, informational, fun _ => .inl (guarded.released passthrough)⟩
  | nothing _ _ => exact ⟨guarded, rfl, rfl, fun changed => (changed rfl).elim⟩
  | fails inspects _ =>
      refine ⟨⟨?_, nofun, nofun⟩, rfl, rfl, fun changed => (changed rfl).elim⟩
      exact fun passes => nomatch inspects.symm.trans passes
  | drops inspects _ _ =>
      refine ⟨⟨?_, nofun, nofun⟩, rfl, rfl, fun changed => (changed rfl).elim⟩
      exact fun passes => nomatch inspects.symm.trans passes
  | goesOn _ reply passthrough bodyWritten sessionDone flags =>
      obtain ⟨answered, answer, rfl⟩ := guarded.goesOn m failClose
        (.sendResponseBody data) flags bodyWritten
      obtain ⟨next, response, informational⟩ := written answered rfl
      exact ⟨next, response, informational, fun _ => .inr ⟨answer, rfl⟩⟩

/-- A write shows its header and its chunk, or a block page. -/
theorem Guarded.write (guarded : i.Guarded) (failClose : m.failClose = true)
    (data : List UInt8) :
    (i.write m daemon data).2.Guarded ∧
      Justified Released (some data) i (i.write m daemon data).2 := by
  have unchanged : Justified Released (some data) i i :=
    .of_same ⟨rfl, rfl, rfl⟩
  rw [ResponseInspector.write]
  split
  · exact ⟨guarded, unchanged⟩
  · rename_i undropped
    have undropped : i.dropped = false := by simpa using undropped
    split
    · rename_i wrote
      have sent := guarded.wrote undropped wrote
      obtain ⟨next, _, informational, body⟩ :=
        guarded.inspectBody m daemon failClose undropped sent data
      refine ⟨next, ⟨fun _ _ unsent => (sent unsent).elim,
        fun changed => (changed informational).elim, ?_⟩⟩
      intro changed
      obtain released | ⟨reply, calls⟩ := body changed
      · exact .inr (.inl released)
      · refine .inr (.inr ⟨data, reply, rfl, ?_⟩)
        rw [calls, List.drop_left]
        exact List.mem_singleton_self _
    · obtain ⟨first, asked, _⟩ := i.writeHeader_calls m daemon 200
      have final : i.Orderly m (.writeHeader 200) := fun _ _ => by decide
      obtain ⟨headed, sends, shown⟩ :=
        guarded.writeHeader m daemon failClose final
      generalize i.writeHeader m daemon 200 = result
        at asked headed sends shown ⊢
      have justified : Justified Released (some data) i result.2 := by
        obtain shown | ⟨_, blocked⟩ := shown
        · exact shown.justified
        · exact .of_blocked blocked
      obtain ⟨_ | _, next⟩ := result
      · dsimp only at asked headed sends shown justified ⊢
        split
        · exact ⟨headed, justified⟩
        · rename_i goesOn
          have goesOn : next.dropped = false := by simpa using goesOn
          have shown := shown.resolve_right fun blocked =>
            by cases goesOn.symm.trans blocked.1
          obtain ⟨after, response, informational, body⟩ :=
            headed.inspectBody m daemon failClose goesOn (sends rfl goesOn) data
          have asks : next.Asks m (next.inspectBody m daemon data).2 :=
            inspectBody_asks m daemon goesOn
          obtain ⟨second, askedSecond, _⟩ := asks.asked
          refine ⟨after, ?_, ?_, ?_⟩
          · intro code header unsent sent
            right
            rw [askedSecond]
            exact (shown.status code header unsent (response ▸ sent)).imp
              (fun released => released.append second)
              (fun inspected => inspected.append second)
          · intro changed
            exact (changed (informational.trans shown.informational)).elim
          · intro changed
            rw [← shown.body] at changed
            obtain released | ⟨reply, calls⟩ := body changed
            · exact .inr (.inl released)
            · refine .inr (.inr ⟨data, reply, rfl, ?_⟩)
              rw [calls, asked, List.append_assoc, List.drop_left]
              exact List.mem_append_right _ (List.mem_singleton_self _)
      · exact ⟨headed, justified⟩

theorem Guarded.call (guarded : i.Guarded) (failClose : m.failClose = true)
    {call : HandlerCall} (orderly : i.Orderly m call) :
    Justified Released call.chunk i (i.call m daemon call).2 ∧
      (i.call m daemon call).2.Guarded := by
  cases call with
  | setHeader header =>
      exact ⟨.of_same ⟨rfl, rfl, rfl⟩,
        guarded.released, guarded.kept, guarded.wrote⟩
  | writeHeader statusCode =>
      obtain ⟨next, _, shown⟩ :=
        guarded.writeHeader m daemon failClose orderly
      refine ⟨?_, next⟩
      obtain shown | ⟨_, blocked⟩ := shown
      · exact shown.justified
      · exact .of_blocked blocked
  | write data => exact (guarded.write m daemon failClose data).symm
  | flush =>
      by_cases sent : i.rw.response = none
      · obtain ⟨undropped, open'⟩ := orderly sent
        have passes := open'.resolve_right (by simp [failClose])
        have released := guarded.released passes
        have kept := guarded.kept undropped
        rw [ResponseInspector.call, flush, ResponseWriter.flush,
          ResponseWriter.writeDefaultHeader_eq kept]
        refine ⟨⟨fun _ _ _ _ => .inr (.inl released), ?_, ?_⟩,
          guarded.released, fun _ => kept, fun _ _ => by simp⟩
        · exact fun changed => (changed rfl).elim
        · exact fun changed => (changed rfl).elim
      · rw [ResponseInspector.call, flush, ResponseWriter.flush,
          ResponseWriter.writeDefaultHeader,
          ResponseWriter.writeHeader_of_sent sent]
        exact ⟨.of_same ⟨rfl, rfl, rfl⟩, guarded⟩
  | hijack => exact orderly.elim

/-- The end of a response shows a header only once it has been let go or
answered about. -/
theorem Guarded.finish (guarded : i.Guarded) (failClose : m.failClose = true) :
    JustifiedEnd Released i (i.finish m daemon).2 where
  written := by
    obtain same | ⟨_, blocked⟩ := finish_writes m daemon i
    · left
      rw [same]
      exact ⟨rfl, rfl, rfl⟩
    · exact .inr blocked
  status stays unsent := by
    rw [ResponseInspector.finish] at stays ⊢
    split
    · rename_i ended
      rw [if_pos ended] at stays
      have stays : i.dropped = false := stays
      exact .inl (guarded.released (ended.resolve_left (by simp [stays])))
    · rename_i goesOn
      rw [if_neg goesOn] at stays
      have undropped : i.dropped = false := by simpa using (not_or.mp goesOn).1
      split
      · rename_i wrote
        exact (guarded.wrote undropped wrote unsent).elim
      · rename_i unwritten
        rw [if_neg unwritten] at stays
        have outcome := i.inspectHeaders_outcome m daemon 200 false
        generalize i.inspectHeaders m daemon 200 false = result
          at outcome stays ⊢
        have inspected : result.2.dropped = false →
            InspectedHeader 200 i.rw.header result.2.calls := by
          intro stays
          cases outcome with
          | fails _ => cases block_dropped.symm.trans stays
          | drops _ _ => cases block_dropped.symm.trans stays
          | goesOn reply _ _ flags =>
              obtain ⟨_, answer, rfl⟩ := guarded.goesOn m failClose
                (i.headersCall 200) flags i.bodyWritten
              exact ⟨_, answer, List.mem_append_right _
                (List.mem_singleton_self _)⟩
        right
        obtain ⟨_ | _, next⟩ := result
        · dsimp only at inspected stays ⊢
          split
          · rename_i ended
            rw [if_pos ended] at stays
            exact inspected stays
          · rename_i still
            obtain ⟨reply, calls, _⟩ := endResponse_asks daemon next
            rw [calls]
            exact (inspected (by simpa using (not_or.mp still).1)).append _
        · exact inspected stays

end ResponseInspector

/-- The inspector of a new response. -/
def ResponseInspector.start (header : Header) (isHijacker : Bool)
    (calls : DaemonCalls) : ResponseInspector :=
  newResponseInspector { rw := .start header isHijacker, calls }

theorem inspected_response (header : Header) (isHijacker : Bool)
    (asked : DaemonCalls) (calls : List HandlerCall)
    (orderly : Along (ResponseInspector.call m daemon)
      (ResponseInspector.Orderly m) (.start header isHijacker asked) calls) :
    let start := ResponseInspector.start header isHijacker asked
    let last := (run (ResponseInspector.call m daemon) start calls).2
    let done := (last.finish m daemon).2
    (done.dropped = false →
      done.rw.finishRequest.response = some (upstreamResponse header calls) ∧
        (Fits (upstreamResponse header calls)
            (deliveredBody m daemon start calls) →
          done.rw.body = deliveredBody m daemon start calls)) ∧
      (Along (ResponseInspector.call m daemon)
          (fun i call => i.dropped = true →
            i.rw.SameResponse (i.call m daemon call).2.rw) start calls ∧
        (last.dropped = true → last.rw.SameResponse done.rw)) ∧
      (m.failClose = true →
        Along (ResponseInspector.call m daemon)
            (fun i call => ResponseInspector.Justified Released call.chunk i
              (i.call m daemon call).2) start calls ∧
          ResponseInspector.JustifiedEnd Released last done) := by
  intro start last done
  refine ⟨?_, ⟨?_, ?_⟩, ?_⟩
  · intro stays
    exact ResponseInspector.Forwards.finish m daemon
      { response := rfl
        body := fun _ => rfl
        counted := fun _ => rfl
        kept := rfl
        wroteHeader := nofun } rfl orderly stays
  · apply orderly.mono
    intro i call here dropped
    exact i.call_after_drop m daemon dropped here
  · intro dropped
    rw [show done = last from
      congrArg Prod.snd (last.finish_of_dropped m daemon dropped)]
    exact ⟨rfl, rfl, rfl⟩
  · intro failClose
    have guarded : start.Guarded := ⟨nofun, fun _ => rfl, nofun⟩
    constructor
    · apply along_of_invariant ResponseInspector.Guarded _ guarded orderly
      intro i call guarded here
      exact guarded.call m daemon failClose here
    · have reached : last.Guarded := by
        apply run_invariant (ResponseInspector.Orderly m)
          ResponseInspector.Guarded _ guarded orderly
        intro i call guarded here
        exact (guarded.call m daemon failClose here).2
      exact reached.finish m daemon failClose

end Daemon

/-- The daemon replaces every chunk by one byte. -/
def replacing : VerdictReply :=
  { verdict := .inspect
    response := none
    body := [7]
    bodyModified := true }

def strict : Middleware :=
  { responseInspection := true
    maxRequestBodySize := 4
    failClose := true }

def twoChunks : List HandlerCall :=
  [.setHeader [("Vary", "Origin")], .writeHeader 404, .write [1, 2], .flush,
    .write [3], .writeHeader 200]

theorem inspected_response_twoChunks :
    let last := (run (ResponseInspector.call strict fun _ => some replacing)
      (.start [] false []) twoChunks).2
    let done := (last.finish strict fun _ => some replacing).2
    done.rw.finishRequest.response = some (404, [("Vary", "Origin")]) ∧
      done.rw.body = [7, 7] ∧ ResponseInspector.JustifiedEnd Released last done := by
  obtain ⟨delivers, _, justified⟩ := inspected_response strict
    (fun _ => some replacing) [] false [] twoChunks (by decide +kernel)
  obtain ⟨response, body⟩ := delivers (by decide +kernel)
  exact ⟨response, body (.inr ⟨by decide +kernel, by decide +kernel⟩),
    (justified rfl).2⟩

/-- The daemon lets everything be inspected, unchanged. -/
def inspecting : VerdictReply :=
  { verdict := .inspect
    response := none
    body := []
    bodyModified := false }

/-- An informational status takes the place of the final one. -/
theorem informational_status_hides_final :
    let last := (run (ResponseInspector.call strict fun _ => some inspecting)
      (.start [] false []) [.writeHeader 103, .writeHeader 404]).2
    let done := (last.finish strict fun _ => some inspecting).2
    done.dropped = false ∧
      upstreamResponse [] [.writeHeader 103, .writeHeader 404] = (404, []) ∧
      done.rw.finishRequest.response = some (200, []) := by
  decide +kernel

end OpenAppsec.Traefik
