import OpenAppsec.Traefik.InspectedResponses

/-!
# Fail-close mode

With `failClose` the next handler is called, and its response forwarded, once
the agent has answered.  The daemon reports an agent that cannot answer by a
verdict of its own, which the plugin forwards on.
-/

namespace OpenAppsec.Traefik

open Trace

variable {calls first second : DaemonCalls} {call : DaemonCall}
variable {reply : VerdictReply}

/-- The next handler is called. -/
def Admission.CallsNext : Admission → Prop
  | .block _ => False
  | .forward | .inspectResponse => True

/-- The agent has answered every part that was sent, and dropped none. -/
def Answered (calls : DaemonCalls) : Prop :=
  ∀ entry ∈ calls, ∃ reply, entry.2 = some reply ∧
    (reply.verdict = .inspect ∨ reply.verdict = .accept)

/-- The daemon has had an agent to ask. -/
def Available (calls : DaemonCalls) : Prop :=
  ∀ call reply, (call, some reply) ∈ calls → reply.verdict ≠ .noop

instance (calls : DaemonCalls) : Decidable (Available calls) :=
  decidable_of_iff
    (∀ entry ∈ calls, ∀ reply ∈ entry.2, reply.verdict ≠ .noop)
    ⟨fun all call reply member => all (call, some reply) member reply rfl,
      fun available entry member reply same =>
        available entry.1 reply (same ▸ member)⟩

/-- The agent has accepted the rest of the exchange. -/
def Accepted (calls : DaemonCalls) : Prop :=
  ∃ call reply, (call, some reply) ∈ calls ∧ reply.verdict = .accept

/-- Every part has been answered, and inspection goes on. -/
def Inspecting (calls : DaemonCalls) : Prop :=
  ∀ entry ∈ calls, ∃ reply, entry.2 = some reply ∧ reply.verdict = .inspect

theorem inspecting_nil : Inspecting [] := by
  simp [Inspecting]

theorem inspecting_append :
    Inspecting (first ++ second) ↔ Inspecting first ∧ Inspecting second := by
  simp only [Inspecting, List.mem_append, or_imp, forall_and]

theorem answered_append :
    Answered (first ++ second) ↔ Answered first ∧ Answered second := by
  simp only [Answered, List.mem_append, or_imp, forall_and]

theorem available_append :
    Available (first ++ second) ↔ Available first ∧ Available second := by
  simp only [Available, List.mem_append, or_imp, forall_and]

theorem answered_singleton :
    Answered [(call, some reply)] ↔
      reply.verdict = .inspect ∨ reply.verdict = .accept := by
  simp [Answered]

theorem available_singleton :
    Available [(call, some reply)] ↔ reply.verdict ≠ .noop := by
  constructor
  · intro available
    exact available call reply (List.mem_singleton_self _)
  · intro verdict other answer member
    cases List.mem_singleton.mp member
    exact verdict

theorem Inspecting.answered (inspecting : Inspecting calls) :
    Answered calls := by
  intro entry member
  obtain ⟨reply, same, verdict⟩ := inspecting entry member
  exact ⟨reply, same, .inl verdict⟩

theorem Inspecting.available (inspecting : Inspecting calls) :
    Available calls := by
  intro call reply member
  obtain ⟨answer, same, verdict⟩ := inspecting _ member
  cases same
  simp [verdict]

theorem Answered.available (answered : Answered calls) :
    Available calls := by
  intro call reply member
  obtain ⟨answer, same, verdict⟩ := answered _ member
  cases same
  obtain verdict | verdict := verdict <;> simp [verdict]

theorem Released.accepted (released : Released calls)
    (available : Available calls) : Accepted calls := by
  obtain ⟨call, reply, member, verdict⟩ := released
  exact ⟨call, reply, member,
    verdict.resolve_right (available call reply member)⟩

section Daemon

variable (m : Middleware) (daemon : Nat → Option VerdictReply)

/-- The last reply of a request follows replies that let inspection go on. -/
structure RequestReply (exchange : Exchange) (reply : VerdictReply)
    (next : Exchange) : Prop where
  asked : ∃ (earlier : DaemonCalls) (call : DaemonCall),
    next = { exchange with
      calls := exchange.calls ++ (earlier ++ [(call, some reply)]) } ∧
      Inspecting earlier
  known : ∃ index, daemon index = some reply

/-- A request that fails has asked for nothing but inspection. -/
structure RequestFailure (exchange next : Exchange) : Prop where
  asked : ∃ calls : DaemonCalls,
    next = { exchange with calls := exchange.calls ++ calls } ∧
      Available calls

/-- What a request has asked by a reply or a failure. -/
def RequestOutcome (exchange : Exchange)
    (result : Option VerdictReply × Exchange) : Prop :=
  match result.1 with
  | some reply => RequestReply daemon exchange reply result.2
  | none => RequestFailure exchange result.2

theorem request_ask {exchange start : Exchange} {earlier : DaemonCalls}
    (before : exchange = { start with calls := start.calls ++ earlier })
    (inspecting : Inspecting earlier) (call : DaemonCall) :
    RequestOutcome daemon start (exchange.ask daemon call) := by
  rw [Exchange.ask, RequestOutcome]
  have same (reply : Option VerdictReply) :
      { exchange with calls := exchange.calls ++ [(call, reply)] } =
        { start with
          calls := start.calls ++ (earlier ++ [(call, reply)]) } := by
    rw [before, List.append_assoc]
  cases replied : daemon exchange.calls.length with
  | some reply =>
      exact
        { asked := ⟨earlier, call, same _, inspecting⟩
          known := ⟨_, replied⟩ }
  | none =>
      refine ⟨_, same none, available_append.mpr ⟨inspecting.available, ?_⟩⟩
      intro other answer member
      cases List.mem_singleton.mp member

theorem inspectRequestBody_cases (body : Option RequestBody)
    (exchange : Exchange) :
    RequestOutcome daemon exchange
      (inspectRequestBody m daemon body exchange) := by
  have nothing : exchange = { exchange with
      calls := exchange.calls ++ [] } := by
    simp
  cases body with
  | none => exact request_ask daemon nothing inspecting_nil .endRequest
  | some body =>
      rw [inspectRequestBody]
      split
      · exact ⟨[], nothing, inspecting_nil.available⟩
      · split
        · exact request_ask daemon nothing inspecting_nil .endRequest
        · have first := request_ask daemon nothing inspecting_nil (.sendRequestBody
            (body.content.take m.maxRequestBodySize))
          generalize exchange.ask daemon (.sendRequestBody
            (body.content.take m.maxRequestBodySize)) = result at first ⊢
          obtain ⟨_ | reply, next⟩ := result
          · exact first
          · dsimp only at first ⊢
            split
            · exact first
            · rename_i inspects
              have verdict : reply.verdict = .inspect := by
                simpa using inspects
              obtain ⟨earlier, call, same, inspecting⟩ := first.asked
              apply request_ask daemon same
              refine inspecting_append.mpr ⟨inspecting, ?_⟩
              intro entry member
              cases List.mem_singleton.mp member
              exact ⟨reply, rfl, verdict⟩

/-- What holds of an admission in fail-close mode. -/
structure StrictAdmission (rw : ResponseWriter)
    (result : Admission × Bool × Exchange) : Prop where
  writer : result.2.2.rw = rw
  answered : result.1.CallsNext → Available result.2.2.calls →
    Answered result.2.2.calls
  available : ¬result.1.CallsNext → Available result.2.2.calls
  accepted : result.1 = .forward → m.responseInspection = true →
    Available result.2.2.calls → Accepted result.2.2.calls

/-- A block page is the answer to a failure or to a drop. -/
theorem StrictAdmission.of_block {rw : ResponseWriter}
    {response : Option BlockResponse} {active : Bool}
    (available : Available calls) :
    StrictAdmission m rw (.block response, active, { rw, calls }) where
  writer := rfl
  answered := False.elim
  available _ := available
  accepted := nofun

/-- What the last reply of a request decides. -/
def Decides (reply : VerdictReply) (admission : Admission) : Prop :=
  match reply.verdict with
  | .drop => ∃ response, admission = .block response
  | .accept | .noop => admission = .forward
  | .inspect => admission = .forward ∧ m.responseInspection = false ∨
      admission = .inspectResponse
  | .unknown => False

theorem StrictAdmission.of_reply {rw : ResponseWriter} {active : Bool}
    {earlier : DaemonCalls} (inspecting : Inspecting earlier)
    {admission : Admission} (decides : Decides m reply admission) :
    StrictAdmission m rw
      (admission, active, { rw, calls := earlier ++ [(call, some reply)] }) where
  writer := rfl
  answered calls available := by
    refine answered_append.mpr ⟨inspecting.answered, ?_⟩
    have available := available_singleton.mp (available_append.mp available).2
    rw [answered_singleton]
    cases verdict : reply.verdict with
    | inspect => exact .inl rfl
    | accept => exact .inr rfl
    | noop => exact (available verdict).elim
    | drop =>
        rw [Decides, verdict] at decides
        obtain ⟨response, rfl⟩ := decides
        exact calls.elim
    | unknown =>
        rw [Decides, verdict] at decides
        exact decides.elim
  available blocks := by
    refine available_append.mpr ⟨inspecting.available, ?_⟩
    rw [available_singleton]
    intro verdict
    rw [Decides, verdict] at decides
    cases decides
    exact blocks trivial
  accepted forward enabled available := by
    have available := available_singleton.mp (available_append.mp available).2
    refine ⟨call, reply,
      List.mem_append_right _ (List.mem_singleton_self _), ?_⟩
    cases verdict : reply.verdict with
    | accept => rfl
    | noop => exact (available verdict).elim
    | inspect =>
        rw [Decides, verdict] at decides
        obtain ⟨_, disabled⟩ | inspects := decides
        · exact nomatch enabled.symm.trans disabled
        · exact nomatch forward.symm.trans inspects
    | drop =>
        rw [Decides, verdict] at decides
        obtain ⟨_, blocks⟩ := decides
        exact nomatch forward.symm.trans blocks
    | unknown =>
        rw [Decides, verdict] at decides
        exact decides.elim

theorem serveBody_strict (failClose : m.failClose = true)
    (known : ∀ index reply, daemon index = some reply →
      reply.verdict ≠ .unknown) (body : Option RequestBody)
    (rw : ResponseWriter) (opened : Inspecting calls) :
    StrictAdmission m rw (serveBody m daemon body { rw, calls }) := by
  have outcome := inspectRequestBody_cases m daemon body { rw, calls }
  rw [serveBody]
  generalize inspectRequestBody m daemon body { rw, calls } = result
    at outcome ⊢
  obtain ⟨_ | reply, next⟩ := result
  · obtain ⟨more, rfl, available⟩ := outcome.asked
    dsimp only
    rw [handleUninspected, if_pos failClose]
    exact .of_block m (available_append.mpr ⟨opened.available, available⟩)
  · obtain ⟨⟨earlier, call, rfl, inspecting⟩, index, replied⟩ := outcome
    have inspecting := inspecting_append.mpr ⟨opened, inspecting⟩
    have decided {admission : Admission} {active : Bool}
        (decides : Decides m reply admission) :
        StrictAdmission m rw (admission, active,
          { rw, calls := calls ++ (earlier ++ [(call, some reply)]) }) := by
      rw [← List.append_assoc]
      exact .of_reply m inspecting decides
    dsimp only
    cases verdict : reply.verdict with
    | drop =>
        apply decided
        rw [Decides, verdict]
        exact ⟨_, rfl⟩
    | accept =>
        apply decided
        rw [Decides, verdict]
    | noop =>
        apply decided
        rw [Decides, verdict]
    | unknown => exact (known index reply replied verdict).elim
    | inspect =>
        dsimp only
        split
        · rename_i disabled
          apply decided
          rw [Decides, verdict]
          exact .inl ⟨rfl, disabled⟩
        · apply decided
          rw [Decides, verdict]
          exact .inr rfl

theorem serveRequest_strict (failClose : m.failClose = true)
    (known : ∀ index reply, daemon index = some reply →
      reply.verdict ≠ .unknown)
    (inBackoff : Bool) (body : Option RequestBody) (rw : ResponseWriter) :
    StrictAdmission m rw (serveRequest m daemon inBackoff body { rw, calls := [] }) := by
  have uninspected : handleUninspected m = .block none := by
    rw [handleUninspected, if_pos failClose]
  rw [serveRequest]
  split
  · rw [uninspected]
    exact .of_block m inspecting_nil.available
  · cases started : daemon 0 with
    | none =>
        have failed : Exchange.ask daemon .startTransaction { rw, calls := [] } =
            (none, { rw, calls := [(.startTransaction, none)] }) := by
          simp [Exchange.ask, started]
        rw [failed]
        dsimp only
        rw [uninspected]
        apply StrictAdmission.of_block
        intro call reply member
        cases List.mem_singleton.mp member
    | some start =>
        have replied : Exchange.ask daemon .startTransaction
            { rw, calls := [] } =
              (some start, { rw, calls := [(.startTransaction, some start)] }) := by
          simp [Exchange.ask, started]
        have first {admission : Admission}
            (decides : Decides m start admission) :
            StrictAdmission m rw (admission, false,
              { rw, calls := [(.startTransaction, some start)] }) :=
          .of_reply m inspecting_nil decides
        rw [replied]
        dsimp only
        cases verdict : start.verdict with
        | drop =>
            apply first
            rw [Decides, verdict]
            exact ⟨_, rfl⟩
        | accept =>
            apply first
            rw [Decides, verdict]
        | noop =>
            apply first
            rw [Decides, verdict]
        | unknown => exact (known 0 start started verdict).elim
        | inspect =>
            have opened : Inspecting
                [(DaemonCall.startTransaction, some start)] := by
              intro entry member
              cases List.mem_singleton.mp member
              exact ⟨start, rfl, verdict⟩
            exact serveBody_strict m daemon failClose known body rw opened

theorem ResponseInspector.call_available {i : ResponseInspector}
    {call : HandlerCall} (available : Available (i.call m daemon call).2.calls) :
    Available i.calls := by
  obtain ⟨asked, calls, _⟩ := (i.call_asks m daemon call).asked
  rw [calls] at available
  exact (available_append.mp available).1

theorem ResponseInspector.finish_available {i : ResponseInspector}
    (available : Available (i.finish m daemon).2.calls) :
    Available i.calls := by
  obtain ⟨asked, ends⟩ := i.finish_ends m daemon
  rw [ends.asked] at available
  exact (available_append.mp available).1

theorem ResponseInspector.Justified.accepted {chunk : Option (List UInt8)}
    {before after : ResponseInspector}
    (justified : Justified Released chunk before after)
    (available : Available after.calls) :
    Justified Accepted chunk before after where
  status code header unsent sent :=
    (justified.status code header unsent sent).imp_right
      (Or.imp_left fun released => released.accepted available)
  informational := justified.informational
  body changed :=
    (justified.body changed).imp_right
      (Or.imp_left fun released => released.accepted available)

theorem ResponseInspector.JustifiedEnd.accepted
    {before after : ResponseInspector}
    (justified : JustifiedEnd Released before after)
    (available : Available after.calls) :
    JustifiedEnd Accepted before after where
  written := justified.written
  status stays unsent :=
    (justified.status stays unsent).imp_left
      fun released => released.accepted available

/-- In fail-close mode the request goes on only as answered precisely when the
daemon has had an agent to ask; and so does the response of an orderly
handler. -/
theorem strict_forwarding (failClose : m.failClose = true)
    (known : ∀ index reply, daemon index = some reply →
      reply.verdict ≠ .unknown)
    (inBackoff : Bool) (body : Option RequestBody) (header : Header)
    (isHijacker : Bool) (calls : List HandlerCall) :
    let admitted := serveRequest m daemon inBackoff body
      { rw := .start header isHijacker, calls := [] }
    let start := newResponseInspector admitted.2.2
    let last := (run (ResponseInspector.call m daemon) start calls).2
    let done := (last.finish m daemon).2
    ((admitted.1.CallsNext → Answered admitted.2.2.calls) ↔
        Available admitted.2.2.calls) ∧
      (admitted.1 = .forward → m.responseInspection = true →
        Available admitted.2.2.calls → Accepted admitted.2.2.calls) ∧
      (Along (ResponseInspector.call m daemon)
          (ResponseInspector.Orderly m) start calls →
        Available done.calls →
          Along (ResponseInspector.call m daemon)
              (fun i call => ResponseInspector.Justified Accepted call.chunk i
                (i.call m daemon call).2) start calls ∧
            ResponseInspector.JustifiedEnd Accepted last done) := by
  intro admitted start last done
  have strict := serveRequest_strict m daemon failClose known inBackoff body
    (.start header isHijacker)
  refine ⟨⟨fun answered => ?_, fun available next => ?_⟩, strict.accepted, ?_⟩
  · by_cases next : admitted.1.CallsNext
    · exact (answered next).available
    · exact strict.available next
  · exact strict.answered next available
  · intro orderly available
    have kept : start.rw.hijacked = false := by
      rw [show start.rw = .start header isHijacker from strict.writer]
      rfl
    have guarded : start.Guarded := ⟨nofun, fun _ => kept, nofun⟩
    have reached : last.Guarded := by
      apply run_invariant (ResponseInspector.Orderly m)
        ResponseInspector.Guarded _ guarded orderly
      intro i call guarded here
      exact (guarded.call m daemon failClose here).2
    constructor
    · have justified : Along (ResponseInspector.call m daemon)
          (fun i call => ResponseInspector.Justified Released call.chunk i
            (i.call m daemon call).2) start calls := by
        apply along_of_invariant ResponseInspector.Guarded _ guarded orderly
        intro i call guarded here
        exact guarded.call m daemon failClose here
      have along : Along (ResponseInspector.call m daemon)
          (fun i call => Available (i.call m daemon call).2.calls) start
          calls :=
        along_of_end (fun i : ResponseInspector => Available i.calls)
          (fun i _ => i.call_available m daemon)
          (last.finish_available m daemon available)
      apply (justified.and along).mono
      rintro i call ⟨justified, available⟩
      exact justified.accepted available
    · exact (reached.finish m daemon failClose).accepted available

end Daemon

theorem strict_forwarding_twoChunks :
    let admitted := serveRequest strict (fun _ => some inspecting) false none
      { rw := .start [] false, calls := [] }
    let start := newResponseInspector admitted.2.2
    let last := (run (ResponseInspector.call strict fun _ => some inspecting)
      start twoChunks).2
    admitted.1 = .inspectResponse ∧ Answered admitted.2.2.calls ∧
      ResponseInspector.JustifiedEnd Accepted last
        (last.finish strict fun _ => some inspecting).2 := by
  have known : ∀ index reply,
      (fun _ : Nat => some inspecting) index = some reply →
        reply.verdict ≠ .unknown := by
    intro index reply same
    cases same
    exact nofun
  obtain ⟨request, _, response⟩ := strict_forwarding strict
    (fun _ => some inspecting) rfl known false none [] false twoChunks
  refine ⟨rfl, request.mpr ?_ trivial, (response ?_ ?_).2⟩
  · decide +kernel
  · decide +kernel
  · decide +kernel

/-- The reply of a daemon without a free attachment. -/
def unavailable : VerdictReply :=
  { verdict := .noop
    response := none
    body := []
    bodyModified := false }

/-- In fail-close mode a request that nobody could inspect goes through. -/
theorem unavailable_forwards :
    let served := serveHTTP strict (fun _ => some unavailable)
      { calls := [(.writeHeader 201, false)], returns := true } false none
      { rw := .start [] false, calls := [] }
    strict.failClose = true ∧
      served.2.calls = [(.startTransaction, some unavailable)] ∧
      served.2.rw.response = some (201, []) := by
  decide +kernel

end OpenAppsec.Traefik
