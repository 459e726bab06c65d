import OpenAppsec.Library.Readers
import OpenAppsec.Traefik.ResponseInspector

/-!
# The body of a request behind the plugin for traefik

The middleware reads the body up to its limit, sends what it read to the daemon
and puts it back in front of the rest before it calls the next handler.
-/

namespace OpenAppsec.Traefik.RequestBodies

open Readers

/-- What a function of the middleware returns, and the request it leaves: its
body is `none` for no body. -/
structure Served (α : Type) where
  answer : α
  body : Option Reader
  exchange : Exchange

section Daemon

/- The settings, the replies of the daemon, and the sizes that reading the body
asks for. -/
variable (m : Middleware) (daemon : Nat → Option VerdictReply)
  (reads : List Nat)

/-- The part of `Middleware.inspectRequestBody` after the body was read. -/
def inspectBuffered (buffered : List UInt8) (exchange : Exchange) :
    Option VerdictReply × Exchange :=
  if buffered = [] then exchange.ask daemon .endRequest
  else
    match exchange.ask daemon (.sendRequestBody buffered) with
    | (none, exchange) => (none, exchange)
    | (some reply, exchange) =>
        if reply.verdict ≠ .inspect then (some reply, exchange)
        else exchange.ask daemon .endRequest

/-- `Middleware.inspectRequestBody`; `none` while the body is still read. -/
def inspectRequestBody (body : Option Reader) (exchange : Exchange) :
    Option (Served (Option VerdictReply)) :=
  match body with
  | none =>
      let (reply, exchange) := exchange.ask daemon .endRequest
      some { answer := reply, body := none, exchange }
  | some reader =>
      let buffered := reader.readAllLimited m.maxRequestBodySize reads
      let restored := Reader.multi buffered.bytes buffered.after
      match buffered.stop with
      | none => none
      | some (.failed _) =>
          some { answer := none, body := some restored, exchange }
      | some .eof =>
          let (reply, exchange) :=
            inspectBuffered daemon buffered.bytes exchange
          some { answer := reply, body := some restored, exchange }

/-- How `Middleware.ServeHTTP` goes on after the reply about the body. -/
def afterBody : Option VerdictReply → Admission
  | none => handleUninspected m
  | some reply =>
      match reply.verdict with
      | .drop => .block reply.response
      | .accept | .noop => .forward
      | .inspect | .unknown =>
          if m.responseInspection = false then .forward else .inspectResponse

/-- The part of `Middleware.ServeHTTP` before the response. -/
def serveRequest (inBackoff : Bool) (body : Option Reader)
    (exchange : Exchange) : Option (Served Admission) :=
  if inBackoff then some { answer := handleUninspected m, body, exchange }
  else
    match exchange.ask daemon .startTransaction with
    | (none, exchange) =>
        some { answer := handleUninspected m, body, exchange }
    | (some start, exchange) =>
        match start.verdict with
        | .drop => some { answer := .block start.response, body, exchange }
        | .accept | .noop => some { answer := .forward, body, exchange }
        | .inspect | .unknown =>
            (inspectRequestBody m daemon reads body exchange).map fun served =>
              { served with answer := afterBody m served.answer }

end Daemon

/-- The bytes of the body that a call gives the daemon. -/
def DaemonCall.bodyBytes : DaemonCall → List UInt8
  | .sendRequestBody chunk => chunk
  | _ => []

/-- What the daemon was sent of the body. -/
def received (calls : List (DaemonCall × Option VerdictReply)) : List UInt8 :=
  calls.flatMap fun call => DaemonCall.bodyBytes call.1

/-- Reading the body of a request gives these bytes and ends so. -/
def BodyDelivers (body : Option Reader) (bytes : List UInt8) (stop : Stop) :
    Prop :=
  match body with
  | none => bytes = [] ∧ stop = .eof
  | some reader => Delivers reader bytes stop

/-- A body that is read again after its end ends so again. -/
def BodyRepeats (body : Option Reader) (stop : Stop) : Prop :=
  ∀ reader, body = some reader → Repeats reader stop

/-- Reading the body up to the limit ends without an error. -/
def ReadsToLimit (m : Middleware) (reads : List Nat) (body : Option Reader) :
    Prop :=
  ∀ reader, body = some reader →
    (reader.readAllLimited m.maxRequestBodySize reads).stop = some .eof

/-- The daemon wants to go on with the request after its start. -/
def StartInspects (daemon : Nat → Option VerdictReply) (inBackoff : Bool)
    (exchange : Exchange) : Prop :=
  inBackoff = false ∧
    ∃ start, daemon exchange.calls.length = some start ∧
      (start.verdict = .inspect ∨ start.verdict = .unknown)

section Received

variable {m : Middleware} {daemon : Nat → Option VerdictReply}
  {reads : List Nat} {exchange : Exchange}

theorem received_ask (call : DaemonCall) :
    received (exchange.ask daemon call).2.calls =
      received exchange.calls ++ DaemonCall.bodyBytes call := by
  simp [received, Exchange.ask]

theorem received_start (daemon : Nat → Option VerdictReply)
    (exchange : Exchange) :
    received (exchange.ask daemon .startTransaction).2.calls =
      received exchange.calls := by
  simp [received_ask, DaemonCall.bodyBytes]

theorem received_inspectBuffered (buffered : List UInt8) :
    received (inspectBuffered daemon buffered exchange).2.calls =
      received exchange.calls ++ buffered := by
  have sent := @received_ask daemon exchange (.sendRequestBody buffered)
  unfold inspectBuffered
  by_cases empty : buffered = []
  · rw [if_pos empty, received_ask, empty]
    rfl
  rw [if_neg empty]
  split
  · rename_i asked
    rw [asked] at sent
    exact sent
  · rename_i reply after asked
    rw [asked] at sent
    by_cases stops : reply.verdict ≠ .inspect
    · rw [if_pos stops]
      exact sent
    · rw [if_neg stops, received_ask, sent]
      simp [DaemonCall.bodyBytes]

variable {body : Option Reader} {bytes : List UInt8} {stop : Stop}

theorem inspectRequestBody_restores (positive : Positive reads)
    (delivers : BodyDelivers body bytes stop) (repeats : BodyRepeats body stop)
    {served : Served (Option VerdictReply)}
    (returns : inspectRequestBody m daemon reads body exchange = some served) :
    BodyDelivers served.body bytes stop ∧
      (ReadsToLimit m reads body →
        received served.exchange.calls =
          received exchange.calls ++ bytes.take m.maxRequestBodySize) ∧
      (¬ReadsToLimit m reads body →
        received served.exchange.calls = received exchange.calls) := by
  cases body with
  | none =>
      obtain rfl := Option.some.inj returns
      have sent := @received_ask daemon exchange .endRequest
      have readsAll : ReadsToLimit m reads none := nofun
      refine ⟨delivers, fun _ => ?_, fun fails => absurd readsAll fails⟩
      rw [delivers.1, List.take_nil]
      exact sent
  | some reader =>
      have delivers : Delivers reader bytes stop := delivers
      have limited : ReadsToLimit m reads (some reader) ↔
          (reader.readAllLimited m.maxRequestBodySize reads).stop =
            some .eof := by
        simp [ReadsToLimit]
      rw [limited]
      cases ends :
          (reader.readAllLimited m.maxRequestBodySize reads).stop with
      | none => simp [inspectRequestBody, ends] at returns
      | some last =>
          have returned :
              (reader.readAllLimited m.maxRequestBodySize reads).stop ≠
                none := by
            simp [ends]
          obtain ⟨taken, restored⟩ :=
            delivers.restored (repeats reader rfl) positive returned
          cases last with
          | failed code =>
              simp only [inspectRequestBody, ends, Option.some.injEq]
                at returns
              subst returns
              exact ⟨restored, fun reads => absurd reads (by simp),
                fun _ => rfl⟩
          | eof =>
              simp only [inspectRequestBody, ends, Option.some.injEq]
                at returns
              subst returns
              refine ⟨restored, fun _ => ?_, fun fails => absurd rfl fails⟩
              rw [← taken]
              exact received_inspectBuffered _

theorem inspectRequestBody_summary {reader : Reader}
    (positive : Positive reads) (delivers : Delivers reader bytes stop)
    (repeats : Repeats reader stop)
    (atLimit : bytes.length = m.maxRequestBodySize → stop = .eof)
    {served : Served (Option VerdictReply)}
    (returns : inspectRequestBody m daemon reads (some reader) exchange =
      some served) :
    (served.answer, served.exchange) =
      Traefik.inspectRequestBody m daemon
        (some { content := bytes, fails := stop ≠ .eof }) exchange := by
  cases ends :
      (reader.readAllLimited m.maxRequestBodySize reads).stop with
  | none => simp [inspectRequestBody, ends] at returns
  | some last =>
      have returned :
          (reader.readAllLimited m.maxRequestBodySize reads).stop ≠
            none := by
        simp [ends]
      have taken := (delivers.restored repeats positive returned).1
      have stops := delivers.readAllLimited_stop positive returned
      rw [ends] at stops
      cases last with
      | failed code =>
          simp only [inspectRequestBody, ends, Option.some.injEq] at returns
          subst returns
          have failed : bytes.length < m.maxRequestBodySize ∧
              stop ≠ .eof := by
            rcases stops with ⟨own, within⟩ | ⟨own, -⟩
            · have own := Option.some.inj own
              have fails : stop ≠ .eof := by
                simp [← own]
              have short : bytes.length ≠ m.maxRequestBodySize :=
                fun full => fails (atLimit full)
              exact ⟨by omega, fails⟩
            · exact absurd own (by simp)
          simp [Traefik.inspectRequestBody, failed.1, failed.2]
      | eof =>
          simp only [inspectRequestBody, ends, Option.some.injEq] at returns
          subst returns
          have reads : ¬(bytes.length < m.maxRequestBodySize ∧
              stop ≠ .eof) := by
            rintro ⟨short, fails⟩
            rcases stops with ⟨own, -⟩ | ⟨-, long⟩
            · exact fails (Option.some.inj own).symm
            · omega
          simp only [Traefik.inspectRequestBody, decide_eq_true_eq,
            if_neg reads, taken]
          rfl

theorem inspectRequestBody_returns (delivers : BodyDelivers body bytes stop) :
    ∃ bound, ∀ reads, Positive reads → bound ≤ reads.length →
      ∃ served,
        inspectRequestBody m daemon reads body exchange = some served := by
  cases body with
  | none => exact ⟨0, fun _ _ _ => ⟨_, rfl⟩⟩
  | some reader =>
      have delivers : Delivers reader bytes stop := delivers
      obtain ⟨bound, returned⟩ :=
        delivers.readAllLimited_returns m.maxRequestBodySize
      refine ⟨bound, ?_⟩
      intro reads positive enough
      obtain ⟨last, ends⟩ :=
        Option.ne_none_iff_exists'.mp (returned reads positive enough)
      cases last with
      | failed code => simp [inspectRequestBody, ends]
      | eof => simp [inspectRequestBody, ends]

theorem serveRequest_cases (inBackoff : Bool) :
    (StartInspects daemon inBackoff exchange ∧
        serveRequest m daemon reads inBackoff body exchange =
          (inspectRequestBody m daemon reads body
            (exchange.ask daemon .startTransaction).2).map (fun served =>
              { served with answer := afterBody m served.answer })) ∨
      ¬StartInspects daemon inBackoff exchange ∧
        ∃ served, serveRequest m daemon reads inBackoff body exchange =
            some served ∧
          served.body = body ∧
          received served.exchange.calls = received exchange.calls := by
  have sent := received_start daemon exchange
  have made : exchange.ask daemon .startTransaction =
      (daemon exchange.calls.length,
        (exchange.ask daemon .startTransaction).2) := rfl
  cases inBackoff with
  | true =>
      right
      exact ⟨fun inspects => absurd inspects.1 (by simp), _, rfl, rfl, rfl⟩
  | false =>
      simp only [StartInspects, serveRequest, Bool.false_eq_true, if_false,
        true_and]
      rw [made]
      cases answer : daemon exchange.calls.length with
      | none =>
          right
          exact ⟨by simp, _, rfl, rfl, sent⟩
      | some start =>
          cases verdict : start.verdict with
          | drop =>
              right
              exact ⟨by simp [verdict], _, by simp only [verdict]; rfl, rfl, sent⟩
          | accept =>
              right
              exact ⟨by simp [verdict], _, by simp only [verdict]; rfl, rfl, sent⟩
          | noop =>
              right
              exact ⟨by simp [verdict], _, by simp only [verdict]; rfl, rfl, sent⟩
          | inspect => simp [verdict]
          | unknown => simp [verdict]

end Received

/-- A body whose reader repeats its end: however the request goes on, all of the
body is there to be read, and the daemon was sent what is within the limit if
it asked for the request and reading up to the limit did not fail, and nothing
otherwise. -/
theorem request_body_forwarded (m : Middleware)
    (daemon : Nat → Option VerdictReply) (inBackoff : Bool)
    (exchange : Exchange) {body : Option Reader} {bytes : List UInt8}
    {stop : Stop} (delivers : BodyDelivers body bytes stop)
    (repeats : BodyRepeats body stop) :
    (∃ bound, ∀ reads, Positive reads → bound ≤ reads.length →
      ∃ served, serveRequest m daemon reads inBackoff body exchange =
        some served) ∧
    ∀ reads served, Positive reads →
      serveRequest m daemon reads inBackoff body exchange = some served →
      BodyDelivers served.body bytes stop ∧
        (StartInspects daemon inBackoff exchange ∧
            ReadsToLimit m reads body →
          received served.exchange.calls =
            received exchange.calls ++ bytes.take m.maxRequestBodySize) ∧
        (¬(StartInspects daemon inBackoff exchange ∧
            ReadsToLimit m reads body) →
          received served.exchange.calls = received exchange.calls) := by
  constructor
  · obtain ⟨bound, returned⟩ := @inspectRequestBody_returns m daemon
      (exchange.ask daemon .startTransaction).2 body bytes stop delivers
    refine ⟨bound, ?_⟩
    intro reads positive enough
    rcases @serveRequest_cases m daemon reads exchange body inBackoff with
      ⟨-, serves⟩ | ⟨-, served, serves, -⟩
    · obtain ⟨served, reply⟩ := returned reads positive enough
      rw [serves, reply]
      exact ⟨_, rfl⟩
    · exact ⟨served, serves⟩
  · intro reads served positive serves
    rcases @serveRequest_cases m daemon reads exchange body inBackoff with
      ⟨inspects, unfolded⟩ | ⟨passes, quiet, unfolded, same, sent⟩
    · rw [unfolded] at serves
      obtain ⟨reply, returns, rfl⟩ := Option.map_eq_some_iff.mp serves
      obtain ⟨forwarded, reached, failed⟩ :=
        inspectRequestBody_restores positive delivers repeats returns
      rw [received_start] at reached failed
      exact ⟨forwarded, fun both => reached both.2,
        fun fails => failed fun limit => fails ⟨inspects, limit⟩⟩
    · rw [unfolded] at serves
      obtain rfl := Option.some.inj serves
      rw [same]
      exact ⟨delivers, fun both => absurd both.1 passes, fun _ => sent⟩

/-- The settings with a limit of two bytes, and failures let pass. -/
def twoBytes : Middleware :=
  { responseInspection := false
    maxRequestBodySize := 2
    failClose := false }

/-- A daemon that gives every call this verdict. -/
def always (verdict : Verdict) (_ : Nat) : Option VerdictReply :=
  some { verdict, response := none, body := [], bodyModified := false }

def opened : Exchange :=
  { rw :=
      { header := []
        informational := []
        response := none
        body := []
        written := 0
        isHijacker := false
        hijacked := false }
    calls := [] }

theorem request_body_pastLimit :
    ∃ served, serveRequest twoBytes (always .inspect) [5, 5] false
        (some (.ofBytes [1, 2, 3] .eof)) opened = some served ∧
      BodyDelivers served.body [1, 2, 3] .eof ∧
      received served.exchange.calls = [1, 2] := by
  have repeats : BodyRepeats (some (.ofBytes [1, 2, 3] .eof)) .eof := by
    rintro reader ⟨⟩
    exact repeats_ofBytes _ _
  have limit :
      ReadsToLimit twoBytes [5, 5] (some (.ofBytes [1, 2, 3] .eof)) := by
    rintro reader ⟨⟩
    rfl
  have positive : Positive [5, 5] := by
    simp [Positive]
  have delivers :
      BodyDelivers (some (.ofBytes [1, 2, 3] .eof)) [1, 2, 3] .eof :=
    delivers_ofBytes [1, 2, 3] .eof
  obtain ⟨forwarded, sent, -⟩ :=
    (request_body_forwarded twoBytes (always .inspect) false opened
      delivers repeats).2 [5, 5] _ positive rfl
  exact ⟨_, rfl, forwarded, sent ⟨⟨rfl, _, rfl, .inl rfl⟩, limit⟩⟩

/-- A reader that gives a byte with an error, and is at its end when it is
asked again. -/
def forgetful : Reader where
  State := Bool
  read := fun failed size =>
    if failed then ({ bytes := [], stop := some .eof }, true)
    else ({ bytes := [1].take size, stop := some (.failed 5) }, true)
  bounded := by
    intro failed size
    cases failed with
    | true => exact Nat.zero_le _
    | false => exact List.length_take_le _ _
  state := false

theorem delivers_forgetful : Delivers forgetful [1] (.failed 5) := by
  have stopped (size : Nat) (sizes : List Nat) (here : 0 < size) :
      (forgetful.drain (size :: sizes)).bytes = [1] ∧
        (forgetful.drain (size :: sizes)).stop = some (.failed 5) := by
    have taken : [(1 : UInt8)].take size = [1] :=
      List.take_of_length_le here
    exact ⟨taken, rfl⟩
  refine ⟨?_, ?_, 1, ?_⟩
  · intro sizes positive
    cases sizes with
    | nil => exact List.nil_prefix
    | cons size sizes =>
        simp [(stopped size sizes (positive size List.mem_cons_self)).1]
  · intro sizes last positive stops
    cases sizes with
    | nil => exact absurd stops (by simp [Reader.drain])
    | cons size sizes =>
        obtain ⟨bytes, stop⟩ :=
          stopped size sizes (positive size List.mem_cons_self)
        rw [stop] at stops
        exact ⟨(Option.some.inj stops).symm, bytes⟩
  · intro sizes positive enough
    cases sizes with
    | nil => exact absurd enough (by simp)
    | cons size sizes =>
        rw [(stopped size sizes (positive size List.mem_cons_self)).2]
        simp

/-- A body of an accepted request is not sent, nor one with an error before the
limit; an error that the reader forgets does not reach the next handler. -/
theorem request_body_not_sent :
    (∃ served, serveRequest twoBytes (always .accept) [5] false
        (some (.ofBytes [1] .eof)) opened = some served ∧
      served.answer = .forward ∧ received served.exchange.calls = [] ∧
      Delivers (.ofBytes [1] .eof) [1] .eof) ∧
    ∃ served, serveRequest twoBytes (always .inspect) [5] false
        (some forgetful) opened = some served ∧
      served.answer = .forward ∧ received served.exchange.calls = [] ∧
      Delivers forgetful [1] (.failed 5) ∧
      ¬BodyDelivers served.body [1] (.failed 5) := by
  refine ⟨⟨_, rfl, rfl, rfl, delivers_ofBytes _ _⟩,
    ⟨_, rfl, rfl, rfl, delivers_forgetful, ?_⟩⟩
  intro delivers
  have ended := delivers.atEnd [1, 1] .eof (by simp [Positive]) rfl
  exact absurd ended.1 (by simp)

end OpenAppsec.Traefik.RequestBodies
