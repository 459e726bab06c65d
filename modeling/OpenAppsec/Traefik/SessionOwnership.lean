import OpenAppsec.Traefik.ResponseInspector

/-!
# Sessions that the plugin opens

A session belongs to the middleware until the daemon finalises it; what the
middleware still owns when it returns or unwinds, it closes.
-/

namespace OpenAppsec.Traefik

abbrev DaemonCalls := List (DaemonCall × Option VerdictReply)

/-- The daemon has finalised the session: it has answered something else than
inspect, or the end of the response. -/
def Finalised (calls : DaemonCalls) : Prop :=
  ∃ call reply, (call, some reply) ∈ calls ∧ call ≠ .finiSession ∧
    (reply.verdict ≠ .inspect ∨ call = .endResponse)

/-- The session is finalised, or the middleware has closed it. -/
def Closed (calls : DaemonCalls) : Prop :=
  Finalised calls ∨ ∃ reply, (DaemonCall.finiSession, reply) ∈ calls

/-- The daemon could not be asked about a response header. -/
def FailsHeader (calls : DaemonCalls) : Prop :=
  ∃ code contentLength headers,
    (DaemonCall.sendResponseHeaders code contentLength headers, none) ∈ calls

/-- Every reply is the verdict inspect. -/
def AllInspect (calls : DaemonCalls) : Prop :=
  ∀ call reply, (call, some reply) ∈ calls → reply.verdict = .inspect

theorem Finalised.append_left {first : DaemonCalls}
    (finalised : Finalised first) (second : DaemonCalls) :
    Finalised (first ++ second) := by
  obtain ⟨call, reply, member, rest⟩ := finalised
  exact ⟨call, reply, List.mem_append_left _ member, rest⟩

theorem Finalised.append_right {second : DaemonCalls}
    (finalised : Finalised second) (first : DaemonCalls) :
    Finalised (first ++ second) := by
  obtain ⟨call, reply, member, rest⟩ := finalised
  exact ⟨call, reply, List.mem_append_right _ member, rest⟩

theorem failsHeader_append {first second : DaemonCalls} :
    FailsHeader (first ++ second) ↔ FailsHeader first ∨ FailsHeader second := by
  simp only [FailsHeader, List.mem_append, exists_or]

/-- The calls about a response. -/
def DaemonCall.OfResponse : DaemonCall → Prop
  | .sendResponseHeaders _ _ _ | .sendResponseBody _ => True
  | _ => False

section Daemon

variable (m : Middleware) (daemon : Nat → Option VerdictReply)

/-- What the inspector asks about a part of the response, and what it then
takes for finalised. -/
structure ResponseInspector.Asks (before after : ResponseInspector) : Prop where
  asked : ∃ calls : DaemonCalls, after.calls = before.calls ++ calls ∧
    (∀ entry ∈ calls, entry.1.OfResponse) ∧
    (before.dropped = true → calls = []) ∧
    (after.sessionDone = true → before.sessionDone = true ∨
      Finalised calls ∨ (m.failClose = true ∧ FailsHeader calls)) ∧
    (m.failClose = true → FailsHeader calls →
      after.sessionDone = true ∧ after.dropped = true)
  dropped : before.dropped = true → after.dropped = true
  sessionDone : before.sessionDone = true → after.sessionDone = true

namespace ResponseInspector

variable {i : ResponseInspector} {reply : Option VerdictReply}

theorem Asks.of_same {before after : ResponseInspector}
    (calls : after.calls = before.calls)
    (dropped : after.dropped = before.dropped)
    (sessionDone : after.sessionDone = before.sessionDone) :
    before.Asks m after where
  asked := ⟨[], by simp [calls], nofun, fun _ => rfl,
    fun done => .inl (sessionDone ▸ done), fun _ fails => by
      obtain ⟨_, _, _, member⟩ := fails
      exact nomatch member⟩
  dropped holds := dropped.trans holds
  sessionDone holds := sessionDone.trans holds

theorem Asks.trans {first second third : ResponseInspector}
    (earlier : first.Asks m second) (later : second.Asks m third) :
    first.Asks m third := by
  obtain ⟨before, sameBefore, ofBefore, droppedBefore, doneBefore,
    failsBefore⟩ := earlier.asked
  obtain ⟨after, sameAfter, ofAfter, droppedAfter, doneAfter,
    failsAfter⟩ := later.asked
  refine
    { asked := ⟨before ++ after, ?_, ?_, ?_, ?_, ?_⟩
      dropped := later.dropped ∘ earlier.dropped
      sessionDone := later.sessionDone ∘ earlier.sessionDone }
  · rw [sameAfter, sameBefore, List.append_assoc]
  · intro entry member
    exact (List.mem_append.mp member).elim (ofBefore entry) (ofAfter entry)
  · intro dropped
    rw [droppedBefore dropped, droppedAfter (earlier.dropped dropped)]
    rfl
  · intro done
    obtain done | finalised | ⟨failClose, fails⟩ := doneAfter done
    · obtain done | finalised | ⟨failClose, fails⟩ := doneBefore done
      · exact .inl done
      · exact .inr (.inl (finalised.append_left _))
      · exact .inr (.inr ⟨failClose, failsHeader_append.mpr (.inl fails)⟩)
    · exact .inr (.inl (finalised.append_right _))
    · exact .inr (.inr ⟨failClose, failsHeader_append.mpr (.inr fails)⟩)
  · intro failClose fails
    obtain fails | fails := failsHeader_append.mp fails
    · obtain ⟨done, dropped⟩ := failsBefore failClose fails
      exact ⟨later.sessionDone done, later.dropped dropped⟩
    · exact failsAfter failClose fails

theorem block_same (response : Option BlockResponse) (i : ResponseInspector) :
    (i.block response).2.calls = i.calls ∧
      (i.block response).2.sessionDone = i.sessionDone ∧
      (i.block response).2.dropped = true := by
  rw [block]
  split
  split <;> exact ⟨rfl, rfl, rfl⟩

theorem forwardHeader_same (statusCode : Int) (i : ResponseInspector) :
    (i.forwardHeader statusCode).2.calls = i.calls ∧
      (i.forwardHeader statusCode).2.sessionDone = i.sessionDone ∧
      (i.forwardHeader statusCode).2.dropped = i.dropped := by
  rw [forwardHeader]
  split
  split <;> exact ⟨rfl, rfl, rfl⟩

/-- One more call that the flags follow. -/
theorem Asks.of_reply {before after : ResponseInspector} {call : DaemonCall}
    (undropped : before.dropped = false)
    (calls : after.calls = before.calls ++ [(call, reply)])
    (ofResponse : call.OfResponse)
    (keepsDone : before.sessionDone = true → after.sessionDone = true)
    (sessionDone : after.sessionDone = true → before.sessionDone = true ∨
      (∃ answer, reply = some answer ∧ answer.verdict ≠ .inspect) ∨
      (m.failClose = true ∧ FailsHeader [(call, reply)]))
    (fails : m.failClose = true → FailsHeader [(call, reply)] →
      after.sessionDone = true ∧ after.dropped = true) :
    before.Asks m after where
  asked := by
    refine ⟨[(call, reply)], calls, ?_, ?_, ?_, fails⟩
    · intro entry member
      cases List.mem_singleton.mp member
      exact ofResponse
    · exact fun dropped => nomatch undropped.symm.trans dropped
    · intro done
      obtain before | ⟨answer, same, verdict⟩ | failed := sessionDone done
      · exact .inl before
      · refine .inr (.inl ⟨call, answer, ?_, ?_, .inl verdict⟩)
        · rw [same]
          exact List.mem_singleton_self _
        · rintro rfl
          exact ofResponse
      · exact .inr (.inr failed)
  dropped := fun dropped => nomatch undropped.symm.trans dropped
  sessionDone := keepsDone

theorem failsHeader_singleton {call : DaemonCall}
    (fails : FailsHeader [(call, reply)]) :
    reply = none ∧
      ∃ code contentLength headers,
        call = .sendResponseHeaders code contentLength headers := by
  obtain ⟨code, contentLength, headers, member⟩ := fails
  cases List.mem_singleton.mp member
  exact ⟨rfl, code, contentLength, headers, rfl⟩

theorem inspectHeaders_asks (statusCode : Int) (forward : Bool)
    (undropped : i.dropped = false) :
    i.Asks m (i.inspectHeaders m daemon statusCode forward).2 := by
  have outcome := i.inspectHeaders_outcome m daemon statusCode forward
  generalize i.inspectHeaders m daemon statusCode forward = result
    at outcome ⊢
  cases outcome with
  | fails failClose =>
      obtain ⟨calls, done, dropped⟩ := block_same none
        { i.asked (i.headersCall statusCode) none with sessionDone := true }
      apply Asks.of_reply m undropped calls trivial (fun _ => done)
      · exact fun _ => .inr (.inr ⟨failClose, _, _, _,
          List.mem_singleton_self _⟩)
      · exact fun _ _ => ⟨done, dropped⟩
  | drops reply verdict =>
      obtain ⟨calls, done, dropped⟩ := block_same reply.response
        { i.asked (i.headersCall statusCode) (some reply) with
          sessionDone := true }
      apply Asks.of_reply m undropped calls trivial (fun _ => done)
      · exact fun _ => .inr (.inl ⟨reply, rfl, by simp [verdict]⟩)
      · exact fun _ fails => nomatch (failsHeader_singleton fails).1
  | goesOn reply passthrough sessionDone flags =>
      have next : ∀ after : ResponseInspector,
          after.calls = i.calls ++ [(i.headersCall statusCode, reply)] →
          after.sessionDone = sessionDone → i.Asks m after := by
        intro after calls done
        apply Asks.of_reply m undropped calls trivial
        · rw [done]
          exact flags.keepsDone
        · rw [done]
          intro holds
          obtain before | ⟨answer, same, verdict⟩ := flags.finishes holds
          · exact .inl before
          · exact .inr (.inl ⟨answer, same, by simp [verdict]⟩)
        · intro failClose fails
          have goesOn := flags.goesOn
          rw [(failsHeader_singleton fails).1] at goesOn
          exact nomatch failClose.symm.trans goesOn
      split
      · obtain ⟨calls, done, _⟩ := forwardHeader_same statusCode
          { i.asked (i.headersCall statusCode) reply with
            passthrough, sessionDone }
        exact next _ calls done
      · exact next _ rfl rfl

theorem writeHeader_asks (statusCode : Int) (i : ResponseInspector) :
    i.Asks m (i.writeHeader m daemon statusCode).2 := by
  rw [writeHeader]
  split
  · exact .of_same m rfl rfl rfl
  · rename_i writes
    have undropped : i.dropped = false := by
      simpa using (not_or.mp writes).2
    split
    · obtain ⟨calls, done, dropped⟩ := i.forwardHeader_same statusCode
      exact .of_same m calls dropped done
    · exact inspectHeaders_asks m daemon statusCode true undropped

theorem inspectBody_asks {data : List UInt8} (undropped : i.dropped = false) :
    i.Asks m (i.inspectBody m daemon data).2 := by
  have outcome := i.inspectBody_outcome m daemon data
  have asked : (DaemonCall.sendResponseBody data).OfResponse := trivial
  have noHeader {reply : Option VerdictReply} :
      ¬FailsHeader [(.sendResponseBody data, reply)] := by
    intro fails
    obtain ⟨_, _, _, _, same⟩ := failsHeader_singleton fails
    exact nomatch same
  generalize i.inspectBody m daemon data = result at outcome ⊢
  cases outcome with
  | passes _ => exact .of_same m rfl rfl rfl
  | nothing _ _ => exact .of_same m rfl rfl rfl
  | fails _ _ =>
      exact Asks.of_reply m undropped rfl asked id .inl
        fun _ fails => (noHeader fails).elim
  | drops _ reply verdict =>
      apply Asks.of_reply m undropped rfl asked fun _ => rfl
      · exact fun _ => .inr (.inl ⟨reply, rfl, by simp [verdict]⟩)
      · exact fun _ fails => (noHeader fails).elim
  | goesOn _ reply passthrough bodyWritten sessionDone flags =>
      apply Asks.of_reply m undropped rfl asked flags.keepsDone
      · intro holds
        obtain before | ⟨answer, same, verdict⟩ := flags.finishes holds
        · exact .inl before
        · exact .inr (.inl ⟨answer, same, by simp [verdict]⟩)
      · exact fun _ fails => (noHeader fails).elim

theorem write_asks (data : List UInt8) (i : ResponseInspector) :
    i.Asks m (i.write m daemon data).2 := by
  rw [write]
  split
  · exact .of_same m rfl rfl rfl
  · rename_i undropped
    have undropped : i.dropped = false := by simpa using undropped
    split
    · exact inspectBody_asks m daemon undropped
    · have asks := writeHeader_asks m daemon 200 i
      generalize i.writeHeader m daemon 200 = result at asks ⊢
      obtain ⟨_ | _, next⟩ := result
      · dsimp only at asks ⊢
        split
        · exact asks
        · rename_i goesOn
          exact asks.trans m (inspectBody_asks m daemon (by simpa using goesOn))
      · exact asks

theorem call_asks (i : ResponseInspector) (call : HandlerCall) :
    i.Asks m (i.call m daemon call).2 := by
  cases call with
  | setHeader header => exact .of_same m rfl rfl rfl
  | writeHeader statusCode => exact writeHeader_asks m daemon statusCode i
  | write data => exact write_asks m daemon data i
  | flush => exact .of_same m rfl rfl rfl
  | hijack =>
      rw [ResponseInspector.call, hijack]
      split <;> exact .of_same m rfl rfl rfl

theorem serveCalls_asks (calls : List (HandlerCall × Bool))
    (i : ResponseInspector) :
    i.Asks m (serveCalls (ResponseInspector.call m daemon) calls i).2 := by
  induction calls generalizing i with
  | nil => exact .of_same m rfl rfl rfl
  | cons entry calls induction =>
      obtain ⟨call, recovers⟩ := entry
      have asks := call_asks m daemon i call
      rw [serveCalls]
      generalize i.call m daemon call = result at asks ⊢
      obtain ⟨panics, next⟩ := result
      dsimp only at asks ⊢
      split
      · exact asks
      · exact asks.trans m (induction next)

theorem writeBlock_none_returns (rw : ResponseWriter) :
    (writeBlock none rw).1 = false := by
  have returns (rw : ResponseWriter) : (rw.writeHeader 403).1 = false := by
    rw [ResponseWriter.writeHeader]
    split
    · rfl
    · rfl
  rw [writeBlock]
  simp only [returns, Bool.false_eq_true, if_false]
  split <;> rfl

theorem block_none_returns (i : ResponseInspector) :
    (i.block none).1 = false := by
  have returns := writeBlock_none_returns i.rw
  rw [block]
  generalize writeBlock none i.rw = result at returns ⊢
  obtain ⟨panics, rw⟩ := result
  cases returns
  rfl

variable {calls : DaemonCalls}

/-- In fail-close mode a header call that fails is no panic. -/
theorem inspectHeaders_returns {statusCode : Int} {forward : Bool}
    (failClose : m.failClose = true)
    (asked : (i.inspectHeaders m daemon statusCode forward).2.calls =
      i.calls ++ calls) (fails : FailsHeader calls) :
    (i.inspectHeaders m daemon statusCode forward).1 = false ∧
      ∀ entry ∈ calls, entry.1.OfResponse := by
  have outcome := i.inspectHeaders_outcome m daemon statusCode forward
  have same {reply : Option VerdictReply} {next : ResponseInspector}
      (calls' : next.calls = i.calls ++ [(i.headersCall statusCode, reply)])
      (asked : next.calls = i.calls ++ calls) :
      calls = [(i.headersCall statusCode, reply)] :=
    List.append_cancel_left (asked.symm.trans calls')
  have answered {reply : Option VerdictReply} (some : reply ≠ none)
      (calls' : calls = [(i.headersCall statusCode, reply)]) : False := by
    rw [calls'] at fails
    exact some (failsHeader_singleton fails).1
  generalize i.inspectHeaders m daemon statusCode forward = result
    at outcome asked ⊢
  cases outcome with
  | fails _ =>
      refine ⟨block_none_returns _, ?_⟩
      rw [same (block_same _ _).1 asked]
      intro entry member
      cases List.mem_singleton.mp member
      exact trivial
  | drops reply _ =>
      have replied : some reply ≠ none := nofun
      exact (answered replied (same (block_same _ _).1 asked)).elim
  | goesOn reply _ _ flags =>
      have replied : reply ≠ none := by
        rintro rfl
        exact nomatch failClose.symm.trans flags.goesOn
      refine (answered replied ?_).elim
      split at asked
      · exact same (forwardHeader_same _ _).1 asked
      · exact same rfl asked

theorem writeHeader_returns {statusCode : Int} (failClose : m.failClose = true)
    (asked : (i.writeHeader m daemon statusCode).2.calls = i.calls ++ calls)
    (fails : FailsHeader calls) :
    (i.writeHeader m daemon statusCode).1 = false := by
  rw [writeHeader] at asked ⊢
  split at asked
  · rename_i ignored
    rw [if_pos ignored]
  · rename_i writes
    rw [if_neg writes]
    split at asked
    · rw [(forwardHeader_same _ _).1] at asked
      have none : calls = [] := by simpa using asked
      rw [none] at fails
      obtain ⟨_, _, _, member⟩ := fails
      exact nomatch member
    · rename_i inspects
      rw [if_neg inspects]
      exact (inspectHeaders_returns m daemon failClose asked fails).1

theorem inspectBody_noHeader {data : List UInt8}
    (asked : (i.inspectBody m daemon data).2.calls = i.calls ++ calls) :
    ¬FailsHeader calls := by
  have outcome := i.inspectBody_outcome m daemon data
  have none (same : i.calls = i.calls ++ calls) : ¬FailsHeader calls := by
    have none : calls = [] := by simpa using same
    rw [none]
    rintro ⟨_, _, _, member⟩
    exact nomatch member
  have one {reply : Option VerdictReply}
      (same : i.calls ++ [(.sendResponseBody data, reply)] = i.calls ++ calls) :
      ¬FailsHeader calls := by
    rw [← List.append_cancel_left same]
    intro fails
    obtain ⟨_, _, _, _, same⟩ := failsHeader_singleton fails
    exact nomatch same
  generalize i.inspectBody m daemon data = result at outcome asked
  cases outcome with
  | passes _ => exact none asked
  | nothing _ _ => exact none asked
  | fails _ _ => exact one asked
  | drops _ _ _ => exact one asked
  | goesOn _ _ _ _ _ _ => exact one asked

theorem call_returns {call : HandlerCall} (failClose : m.failClose = true)
    (asked : (i.call m daemon call).2.calls = i.calls ++ calls)
    (fails : FailsHeader calls) : (i.call m daemon call).1 = false := by
  cases call with
  | setHeader header => rfl
  | writeHeader statusCode =>
      exact writeHeader_returns m daemon failClose asked fails
  | flush => rfl
  | hijack => rfl
  | write data =>
      rw [ResponseInspector.call, write] at asked ⊢
      split at asked
      · rename_i dropped
        rw [if_pos dropped]
      · rename_i undropped
        rw [if_neg undropped]
        split at asked
        · exact (inspectBody_noHeader m daemon asked fails).elim
        · rename_i unwritten
          rw [if_neg unwritten]
          obtain ⟨first, asksFirst, _, _, _, failsFirst⟩ :=
            (writeHeader_asks m daemon 200 i).asked
          have returns : FailsHeader first →
              (i.writeHeader m daemon 200).1 = false :=
            writeHeader_returns m daemon failClose asksFirst
          generalize i.writeHeader m daemon 200 = result
            at asked asksFirst failsFirst returns ⊢
          obtain ⟨_ | _, next⟩ := result
          · dsimp only at asked asksFirst failsFirst ⊢
            split at asked
            · rename_i dropped
              rw [if_pos dropped]
            · rename_i goesOn
              obtain ⟨second, asksSecond, _⟩ :=
                (inspectBody_asks m daemon (by simpa using goesOn)).asked
              have same : calls = first ++ second := by
                rw [asksSecond, asksFirst, List.append_assoc] at asked
                exact (List.append_cancel_left asked).symm
              rw [same, failsHeader_append] at fails
              obtain fails | fails := fails
              · exact (goesOn (failsFirst failClose fails).2).elim
              · exact (inspectBody_noHeader m daemon asksSecond fails).elim
          · have same : calls = first :=
              List.append_cancel_left (asked.symm.trans asksFirst)
            exact returns (same ▸ fails)

theorem call_of_dropped (dropped : i.dropped = true) (call : HandlerCall) :
    (i.call m daemon call).1 = false := by
  cases call with
  | setHeader header => rfl
  | writeHeader statusCode =>
      rw [ResponseInspector.call, writeHeader, if_pos (.inr dropped)]
  | write data => rw [ResponseInspector.call, write, if_pos dropped]
  | flush => rfl
  | hijack => rfl

theorem serveCalls_of_dropped (calls : List (HandlerCall × Bool))
    (dropped : i.dropped = true) :
    (serveCalls (ResponseInspector.call m daemon) calls i).1 = false := by
  induction calls generalizing i with
  | nil => rfl
  | cons entry calls induction =>
      obtain ⟨call, recovers⟩ := entry
      have returns := call_of_dropped m daemon dropped call
      have still := (call_asks m daemon i call).dropped dropped
      rw [serveCalls]
      generalize i.call m daemon call = result at returns still ⊢
      obtain ⟨panics, next⟩ := result
      cases returns
      exact induction still

/-- In fail-close mode a handler whose header call has failed meets no panic. -/
theorem serveCalls_returns (handlerCalls : List (HandlerCall × Bool))
    (failClose : m.failClose = true)
    (asked : (serveCalls (ResponseInspector.call m daemon) handlerCalls
      i).2.calls = i.calls ++ calls) (fails : FailsHeader calls) :
    (serveCalls (ResponseInspector.call m daemon) handlerCalls i).1 =
      false := by
  induction handlerCalls generalizing i calls with
  | nil => rfl
  | cons entry handlerCalls induction =>
      obtain ⟨call, recovers⟩ := entry
      obtain ⟨first, asksFirst, _, _, _, failsFirst⟩ :=
        (call_asks m daemon i call).asked
      have returns : FailsHeader first → (i.call m daemon call).1 = false :=
        call_returns m daemon failClose asksFirst
      rw [serveCalls] at asked ⊢
      generalize i.call m daemon call = result
        at asked asksFirst failsFirst returns ⊢
      obtain ⟨panics, next⟩ := result
      dsimp only at asked asksFirst failsFirst returns ⊢
      by_cases failed : FailsHeader first
      · cases returns failed
        exact serveCalls_of_dropped m daemon handlerCalls
          (failsFirst failClose failed).2
      · split at asked
        · have same : calls = first :=
            List.append_cancel_left (asked.symm.trans asksFirst)
          exact (failed (same ▸ fails)).elim
        · rename_i goesOn
          rw [if_neg goesOn]
          obtain ⟨second, asksSecond, _⟩ :=
            (serveCalls_asks m daemon handlerCalls next).asked
          have same : calls = first ++ second := by
            rw [asksSecond, asksFirst, List.append_assoc] at asked
            exact (List.append_cancel_left asked).symm
          rw [same, failsHeader_append] at fails
          exact induction asksSecond (fails.resolve_left failed)

theorem endResponse_asks (i : ResponseInspector) :
    ∃ reply, (i.endResponse daemon).2.calls =
        i.calls ++ [(.endResponse, reply)] ∧
      ((i.endResponse daemon).2.sessionDone = true →
        i.sessionDone = true ∨ reply ≠ none) ∧
      (i.sessionDone = true → (i.endResponse daemon).2.sessionDone = true) := by
  rw [endResponse, ask_eq]
  rcases daemon i.calls.length with _ | reply
  · exact ⟨none, rfl, .inl, id⟩
  · refine ⟨some reply, ?_⟩
    dsimp only
    split
    · split
      · exact ⟨rfl, fun _ => .inr nofun, fun _ => rfl⟩
      · obtain ⟨calls, done, _⟩ := block_same reply.response
          { i.asked .endResponse (some reply) with sessionDone := true }
        exact ⟨calls, fun _ => .inr nofun, fun _ => done⟩
    · exact ⟨rfl, fun _ => .inr nofun, fun _ => rfl⟩

theorem not_failsHeader_endResponse :
    ¬FailsHeader [(.endResponse, reply)] := by
  intro fails
  obtain ⟨_, _, _, _, same⟩ := failsHeader_singleton fails
  exact nomatch same

/-- What the inspector asks at the end. -/
structure Ends (before : ResponseInspector) (result : Bool × ResponseInspector)
    (calls : DaemonCalls) : Prop where
  asked : result.2.calls = before.calls ++ calls
  noFini : ∀ entry ∈ calls, entry.1 ≠ .finiSession
  done : result.2.sessionDone = true → before.sessionDone = true ∨
    Finalised calls ∨ (m.failClose = true ∧ FailsHeader calls)
  fails : m.failClose = true → FailsHeader calls →
    result.1 = false ∧ result.2.sessionDone = true ∧
      ∀ entry ∈ calls, entry.1.OfResponse
  keepsDone : before.sessionDone = true → result.2.sessionDone = true

theorem endResponse_ends (i : ResponseInspector) :
    ∃ calls, i.Ends m (i.endResponse daemon) calls ∧ ¬FailsHeader calls := by
  obtain ⟨reply, asked, done, keepsDone⟩ := i.endResponse_asks daemon
  refine ⟨[(.endResponse, reply)],
    { asked
      noFini := ?_
      done := ?_
      fails := fun _ fails => (not_failsHeader_endResponse fails).elim
      keepsDone }, not_failsHeader_endResponse⟩
  · intro entry member
    cases List.mem_singleton.mp member
    exact nofun
  · intro holds
    obtain before | answered := done holds
    · exact .inl before
    · obtain ⟨answer, rfl⟩ := Option.ne_none_iff_exists'.mp answered
      exact .inr (.inl ⟨.endResponse, answer, List.mem_singleton_self _, nofun,
        .inr rfl⟩)

theorem finish_ends (i : ResponseInspector) :
    ∃ calls, i.Ends m (i.finish m daemon) calls := by
  have nothing : i.Ends m (false, i) [] :=
    { asked := (List.append_nil _).symm
      noFini := nofun
      done := .inl
      fails := fun _ fails => by
        obtain ⟨_, _, _, member⟩ := fails
        exact nomatch member
      keepsDone := id }
  rw [finish]
  split
  · exact ⟨[], nothing⟩
  · rename_i goesOn
    have undropped : i.dropped = false := by simpa using (not_or.mp goesOn).1
    split
    · obtain ⟨calls, ends, _⟩ := i.endResponse_ends m daemon
      exact ⟨calls, ends⟩
    · have asks := inspectHeaders_asks m daemon 200 false undropped
      obtain ⟨first, asked, ofResponse, _, done, failed⟩ := asks.asked
      have keepsDone := asks.sessionDone
      have returns : m.failClose = true → FailsHeader first →
          (i.inspectHeaders m daemon 200 false).1 = false :=
        fun failClose fails =>
          (inspectHeaders_returns m daemon failClose asked fails).1
      have noFini : ∀ entry ∈ first, entry.1 ≠ .finiSession := by
        intro entry member same
        have ofResponse := ofResponse entry member
        rw [same] at ofResponse
        exact ofResponse
      generalize i.inspectHeaders m daemon 200 false = result
        at asked done failed keepsDone returns ⊢
      have ended : i.Ends m result first :=
        { asked
          noFini
          done
          fails := fun failClose fails => ⟨returns failClose fails,
            (failed failClose fails).1, ofResponse⟩
          keepsDone }
      obtain ⟨_ | _, next⟩ := result
      · dsimp only at asked done failed keepsDone returns ⊢
        split
        · exact ⟨first, ended⟩
        · rename_i inspects
          obtain ⟨second, ends, noHeader⟩ := next.endResponse_ends m daemon
          refine ⟨first ++ second, ?_, ?_, ?_, ?_, ?_⟩
          · rw [ends.asked, asked, List.append_assoc]
          · intro entry member
            exact (List.mem_append.mp member).elim (noFini entry)
              (ends.noFini entry)
          · intro holds
            obtain before | finalised | ⟨_, fails⟩ := ends.done holds
            · obtain before | finalised | ⟨failClose, fails⟩ := done before
              · exact .inl before
              · exact .inr (.inl (finalised.append_left _))
              · exact .inr (.inr ⟨failClose, failsHeader_append.mpr
                  (.inl fails)⟩)
            · exact .inr (.inl (finalised.append_right _))
            · exact (noHeader fails).elim
          · intro failClose fails
            have fails := (failsHeader_append.mp fails).resolve_right noHeader
            exact (inspects (.inl (failed failClose fails).2)).elim
          · exact fun before => ends.keepsDone (keepsDone before)
      · exact ⟨first, ended⟩

end ResponseInspector

/-- The calls about a request. -/
def DaemonCall.OfRequest : DaemonCall → Prop
  | .sendRequestBody _ | .endRequest => True
  | _ => False

theorem inspectRequestBody_asks (body : Option RequestBody)
    (exchange : Exchange) :
    ∃ calls : DaemonCalls,
      (inspectRequestBody m daemon body exchange).2.calls =
          exchange.calls ++ calls ∧
        (∀ entry ∈ calls, entry.1.OfRequest) ∧
        ∀ reply, (inspectRequestBody m daemon body exchange).1 = some reply →
          ∃ call, (call, some reply) ∈ calls := by
  have one (call : DaemonCall) (ofRequest : call.OfRequest)
      (exchange : Exchange) :
      ∃ calls : DaemonCalls,
        (exchange.ask daemon call).2.calls = exchange.calls ++ calls ∧
          (∀ entry ∈ calls, entry.1.OfRequest) ∧
          ∀ reply, (exchange.ask daemon call).1 = some reply →
            ∃ call, (call, some reply) ∈ calls := by
    refine ⟨[(call, daemon exchange.calls.length)], rfl, ?_, ?_⟩
    · intro entry member
      cases List.mem_singleton.mp member
      exact ofRequest
    · intro reply same
      refine ⟨call, ?_⟩
      rw [← same]
      exact List.mem_singleton_self _
  cases body with
  | none => exact one .endRequest trivial exchange
  | some body =>
    rw [inspectRequestBody]
    split
    · exact ⟨[], (List.append_nil _).symm, nofun, nofun⟩
    · split
      · exact one .endRequest trivial exchange
      · obtain ⟨first, asked, ofRequest, replied⟩ := one (.sendRequestBody
          (body.content.take m.maxRequestBodySize)) trivial exchange
        generalize exchange.ask daemon (.sendRequestBody
          (body.content.take m.maxRequestBodySize)) = result
          at asked replied ⊢
        obtain ⟨_ | reply, next⟩ := result
        · exact ⟨first, asked, ofRequest, nofun⟩
        · dsimp only at asked replied ⊢
          split
          · exact ⟨first, asked, ofRequest, replied⟩
          · obtain ⟨second, askedNext, ofRequestNext, repliedNext⟩ :=
              one .endRequest trivial next
            refine ⟨first ++ second, ?_, ?_, ?_⟩
            · rw [askedNext, asked, List.append_assoc]
            · intro entry member
              exact (List.mem_append.mp member).elim (ofRequest entry)
                (ofRequestNext entry)
            · intro reply same
              obtain ⟨call, member⟩ := repliedNext reply same
              exact ⟨call, List.mem_append_right _ member⟩

/-- The calls before the response, for a session that the daemon has opened. -/
structure Admitted (start : VerdictReply) (exchange : Exchange)
    (result : Admission × Bool × Exchange) (calls : DaemonCalls) : Prop where
  asked : result.2.2.calls =
    exchange.calls ++ (DaemonCall.startTransaction, some start) :: calls
  ofRequest : ∀ entry ∈ calls, entry.1.OfRequest
  owned : result.2.1 = false → Finalised calls
  inspects : result.1 = .inspectResponse → result.2.1 = true

theorem serveRequest_opened {body : Option RequestBody} {exchange : Exchange}
    {start : VerdictReply}
    (answered : daemon exchange.calls.length = some start)
    (opened : start.verdict = .inspect) :
    ∃ calls, Admitted start exchange (serveRequest m daemon false body exchange)
      calls := by
  have started : exchange.ask daemon .startTransaction =
      (some start, { exchange with
        calls := exchange.calls ++ [(.startTransaction, some start)] }) := by
    rw [Exchange.ask, answered]
  rw [serveRequest, if_neg nofun, started]
  dsimp only
  rw [opened]
  dsimp only
  rw [serveBody]
  obtain ⟨calls, asked, ofRequest, replied⟩ := inspectRequestBody_asks m daemon
    body { exchange with
      calls := exchange.calls ++ [(.startTransaction, some start)] }
  generalize inspectRequestBody m daemon body { exchange with
    calls := exchange.calls ++ [(.startTransaction, some start)] } = result
    at asked replied ⊢
  obtain ⟨reply, next⟩ := result
  have extended : next.calls =
      exchange.calls ++ (.startTransaction, some start) :: calls := by
    simpa using asked
  refine ⟨calls, ?_⟩
  rcases reply with _ | reply
  · exact
      { asked := extended
        ofRequest
        owned := nofun
        inspects := fun _ => rfl }
  · have finalised (verdict : reply.verdict ≠ .inspect) : Finalised calls := by
      obtain ⟨call, member⟩ := replied reply rfl
      refine ⟨call, reply, member, ?_, .inl verdict⟩
      rintro rfl
      exact ofRequest _ member
    dsimp only
    cases verdict : reply.verdict with
    | drop =>
        exact
          { asked := extended
            ofRequest
            owned := fun _ => finalised (by simp [verdict])
            inspects := nofun }
    | accept =>
        exact
          { asked := extended
            ofRequest
            owned := fun _ => finalised (by simp [verdict])
            inspects := nofun }
    | noop =>
        exact
          { asked := extended
            ofRequest
            owned := fun _ => finalised (by simp [verdict])
            inspects := nofun }
    | inspect =>
        dsimp only
        split
        all_goals exact
          { asked := extended
            ofRequest
            owned := nofun
            inspects := fun _ => rfl }
    | unknown =>
        dsimp only
        split
        all_goals exact
          { asked := extended
            ofRequest
            owned := nofun
            inspects := fun _ => rfl }

/-- The calls of a response, and who owns the session after them. -/
structure Responds (next : Handler) (sessionActive : Bool) (exchange : Exchange)
    (result : Bool × Bool × Exchange) (calls : DaemonCalls) : Prop where
  asked : result.2.2.calls = exchange.calls ++ calls
  noFini : ∀ entry ∈ calls, entry.1 ≠ .finiSession
  owned : result.2.1 = false → sessionActive = false ∨ Finalised calls ∨
    (m.failClose = true ∧ next.returns = true ∧ FailsHeader calls)
  abandons : m.failClose = true → next.returns = true → FailsHeader calls →
    result.2.1 = false ∧ ∀ entry ∈ calls, entry.1.OfResponse

theorem Responds.of_same {next : Handler} {sessionActive : Bool}
    {exchange : Exchange} {result : Bool × Bool × Exchange}
    (calls : result.2.2.calls = exchange.calls)
    (active : result.2.1 = sessionActive) :
    Responds m next sessionActive exchange result [] where
  asked := calls.trans (List.append_nil _).symm
  noFini := nofun
  owned inactive := .inl (active.symm.trans inactive)
  abandons _ _ fails := by
    obtain ⟨_, _, _, member⟩ := fails
    exact nomatch member

theorem inspectResponse_responds (next : Handler) (exchange : Exchange) :
    ∃ calls, Responds m next true exchange
      (respond m daemon next true exchange .inspectResponse) calls := by
  obtain ⟨first, asked, ofResponse, _, done, failed⟩ :=
    (ResponseInspector.serveCalls_asks m daemon next.calls
      (newResponseInspector exchange)).asked
  have returns : m.failClose = true → FailsHeader first →
      (serveCalls (ResponseInspector.call m daemon) next.calls
        (newResponseInspector exchange)).1 = false := fun failClose fails =>
    ResponseInspector.serveCalls_returns m daemon next.calls failClose asked
      fails
  have noFini : ∀ entry ∈ first, entry.1 ≠ .finiSession := by
    intro entry member same
    have ofResponse := ofResponse entry member
    rw [same] at ofResponse
    exact ofResponse
  rw [respond, Handler.serveHTTP]
  generalize serveCalls (ResponseInspector.call m daemon) next.calls
    (newResponseInspector exchange) = result at asked done failed returns ⊢
  obtain ⟨panics, i⟩ := result
  have done : i.sessionDone = true →
      Finalised first ∨ (m.failClose = true ∧ FailsHeader first) := by
    intro holds
    exact (done holds).resolve_left nofun
  dsimp only at asked failed returns ⊢
  rcases unwinds : (panics || !next.returns) with _ | _
  · have handlerReturns : next.returns = true := by
      simpa using (Bool.or_eq_false_iff.mp unwinds).2
    obtain ⟨second, ends⟩ := i.finish_ends m daemon
    have finished : i.dropped = true → i.finish m daemon = (false, i) := by
      intro dropped
      rw [ResponseInspector.finish, if_pos (.inl dropped)]
    have extended : (i.finish m daemon).2.calls =
        exchange.calls ++ (first ++ second) := by
      rw [ends.asked, asked, List.append_assoc]
      rfl
    have noFiniAll : ∀ entry ∈ first ++ second, entry.1 ≠ .finiSession := by
      intro entry member
      exact (List.mem_append.mp member).elim (noFini entry)
        (ends.noFini entry)
    have abandons (failClose : m.failClose = true)
        (fails : FailsHeader (first ++ second)) :
        (i.finish m daemon).1 = false ∧
          (i.finish m daemon).2.sessionDone = true ∧
          ∀ entry ∈ first ++ second, entry.1.OfResponse := by
      obtain fails | fails := failsHeader_append.mp fails
      · obtain ⟨holds, dropped⟩ := failed failClose fails
        have none : second = [] := by
          have asked := ends.asked
          rw [finished dropped] at asked
          simpa using asked
        rw [finished dropped, none, List.append_nil]
        exact ⟨rfl, holds, ofResponse⟩
      · obtain ⟨returns, holds, ofResponseEnd⟩ := ends.fails failClose fails
        refine ⟨returns, holds, fun entry member => ?_⟩
        exact (List.mem_append.mp member).elim (ofResponse entry)
          (ofResponseEnd entry)
    have owned (holds : (i.finish m daemon).2.sessionDone = true) :
        Finalised (first ++ second) ∨
          (m.failClose = true ∧ FailsHeader (first ++ second)) := by
      obtain before | finalised | ⟨failClose, fails⟩ := ends.done holds
      · obtain finalised | ⟨failClose, fails⟩ := done before
        · exact .inl (finalised.append_left _)
        · exact .inr ⟨failClose, failsHeader_append.mpr (.inl fails)⟩
      · exact .inl (finalised.append_right _)
      · exact .inr ⟨failClose, failsHeader_append.mpr (.inr fails)⟩
    refine ⟨first ++ second, ?_⟩
    dsimp only
    generalize i.finish m daemon = result at extended abandons owned ⊢
    obtain ⟨_ | _, final⟩ := result
    · refine
        { asked := extended
          noFini := noFiniAll
          owned := fun inactive => ?_
          abandons := fun failClose _ fails => ?_ }
      · have holds : final.sessionDone = true := by simpa using inactive
        obtain finalised | ⟨failClose, fails⟩ := owned holds
        · exact .inr (.inl finalised)
        · exact .inr (.inr ⟨failClose, handlerReturns, fails⟩)
      · obtain ⟨_, holds, ofResponse⟩ := abandons failClose fails
        have holds : final.sessionDone = true := holds
        exact ⟨by simp [holds], ofResponse⟩
    · exact
        { asked := extended
          noFini := noFiniAll
          owned := nofun
          abandons := fun failClose _ fails =>
            nomatch (abandons failClose fails).1 }
  · refine ⟨first,
      { asked
        noFini
        owned := nofun
        abandons := fun failClose handlerReturns fails => ?_ }⟩
    have quiet : panics = false := returns failClose fails
    simp [quiet, handlerReturns] at unwinds

theorem respond_responds (next : Handler) (sessionActive : Bool)
    (exchange : Exchange) {admission : Admission}
    (inspects : admission = .inspectResponse → sessionActive = true) :
    ∃ calls, Responds m next sessionActive exchange
      (respond m daemon next sessionActive exchange admission) calls := by
  cases admission with
  | block response => exact ⟨[], .of_same m rfl rfl⟩
  | forward => exact ⟨[], .of_same m rfl rfl⟩
  | inspectResponse =>
      cases inspects rfl
      exact inspectResponse_responds m daemon next exchange

/-- A session that the daemon has opened is closed, unless in fail-close mode a
header call fails, the handler returns and the daemon has answered everything
else with inspect. -/
theorem session_closed_iff {next : Handler} {body : Option RequestBody}
    {rw : ResponseWriter} {start : VerdictReply}
    (answered : daemon 0 = some start) (opened : start.verdict = .inspect) :
    let calls :=
      (serveHTTP m daemon next false body { rw, calls := [] }).2.calls
    Closed calls ↔
      ¬(m.failClose = true ∧ next.returns = true ∧ FailsHeader calls ∧
        AllInspect calls) := by
  intro calls
  obtain ⟨before, admitted⟩ : ∃ calls, Admitted start { rw, calls := [] }
      (serveRequest m daemon false body { rw, calls := [] }) calls :=
    serveRequest_opened m daemon answered opened
  have served : calls =
      (serveHTTP m daemon next false body { rw, calls := [] }).2.calls := rfl
  rw [serveHTTP] at served
  generalize serveRequest m daemon false body { rw, calls := [] } = result
    at admitted served
  obtain ⟨admission, active, exchange⟩ := result
  obtain ⟨after, responds⟩ := respond_responds m daemon next active exchange
    admitted.inspects
  dsimp only at served
  generalize respond m daemon next active exchange admission = result
    at responds served
  obtain ⟨panics, owns, last⟩ := result
  dsimp only at served
  have spoken : last.calls =
      (.startTransaction, some start) :: (before ++ after) := by
    rw [responds.asked, admitted.asked]
    simp
  have isLast : ∀ entry ∈ (.startTransaction, some start) :: (before ++ after),
      entry.1 = .startTransaction ∨ entry.1.OfRequest ∨ entry ∈ after := by
    intro entry member
    obtain rfl | member := List.mem_cons.mp member
    · exact .inl rfl
    · obtain member | member := List.mem_append.mp member
      · exact .inr (.inl (admitted.ofRequest entry member))
      · exact .inr (.inr member)
  constructor
  · rintro closed ⟨failClose, returns, fails, inspects⟩
    have failsAfter : FailsHeader after := by
      obtain ⟨code, contentLength, headers, member⟩ := fails
      have member : (DaemonCall.sendResponseHeaders code contentLength headers,
          none) ∈ (.startTransaction, some start) :: (before ++ after) := by
        rw [served] at member
        split at member
        · simpa [Exchange.ask, spoken] using member
        · simpa [spoken] using member
      obtain other | other | member := isLast _ member
      · exact nomatch other
      · exact other.elim
      · exact ⟨code, contentLength, headers, member⟩
    obtain ⟨disowned, ofResponse⟩ :=
      responds.abandons failClose returns failsAfter
    cases disowned
    rw [if_neg nofun, spoken] at served
    rw [served] at closed inspects
    obtain ⟨call, reply, member, _, other | ended⟩ | ⟨reply, member⟩ := closed
    · exact other (inspects call reply member)
    · obtain same | ofRequest | member := isLast _ member
      · exact nomatch ended.symm.trans same
      · rw [ended] at ofRequest
        exact ofRequest
      · have ofResponse := ofResponse _ member
        rw [ended] at ofResponse
        exact ofResponse
    · obtain same | ofRequest | member := isLast _ member
      · exact nomatch same
      · exact ofRequest
      · exact responds.noFini _ member rfl
  · intro kept
    cases owns with
    | true =>
        rw [served, if_pos rfl]
        exact .inr ⟨_, List.mem_append_right _ (List.mem_singleton_self _)⟩
    | false =>
        rw [if_neg nofun, spoken] at served
        obtain disowned | finalised | ⟨failClose, returns, fails⟩ :=
          responds.owned rfl
        · have finalised := admitted.owned disowned
          rw [served]
          exact .inl ((finalised.append_left after).append_right [_])
        · rw [served]
          exact .inl ((finalised.append_right before).append_right [_])
        · by_contra open'
          refine kept ⟨failClose, returns, ?_, ?_⟩
          · rw [served]
            obtain ⟨code, contentLength, headers, member⟩ := fails
            exact ⟨code, contentLength, headers,
              List.mem_cons_of_mem _ (List.mem_append_right _ member)⟩
          · intro call reply member
            by_contra other
            refine open' (.inl ⟨call, reply, member, ?_, .inl other⟩)
            rintro rfl
            rw [served] at member
            obtain same | ofRequest | member := isLast _ member
            · exact nomatch same
            · exact ofRequest
            · exact responds.noFini _ member rfl

end Daemon

/-- The daemon lets a part of the exchange go on. -/
def inspectReply : VerdictReply :=
  { verdict := .inspect
    response := none
    body := []
    bodyModified := false }

/-- A handler that answers with an empty response. -/
def emptyResponse : Handler :=
  { calls := [(.writeHeader 204, false)], returns := true }

def plainMiddleware (failClose : Bool) : Middleware :=
  { responseInspection := true
    maxRequestBodySize := 4
    failClose }

/-- The daemon that fails after some calls. -/
def failsAfter (count : Nat) (call : Nat) : Option VerdictReply :=
  if call < count then some inspectReply else none

theorem session_closed_after_failure :
    Closed (serveHTTP (plainMiddleware false) (failsAfter 2) emptyResponse
      false none { rw := .start [] true, calls := [] }).2.calls := by
  apply (session_closed_iff (plainMiddleware false) (failsAfter 2) rfl rfl).mpr
  rintro ⟨failClose, _⟩
  exact nomatch failClose

/-- In fail-close mode the failed header call leaves the session to nobody. -/
theorem session_left_open :
    let calls := (serveHTTP (plainMiddleware true) (failsAfter 2) emptyResponse
      false none { rw := .start [] true, calls := [] }).2.calls
    calls =
        [(.startTransaction, some inspectReply),
          (.endRequest, some inspectReply),
          (.sendResponseHeaders 204 0 [], none)] ∧
      ¬Closed calls := by
  have asked : (serveHTTP (plainMiddleware true) (failsAfter 2) emptyResponse
      false none { rw := .start [] true, calls := [] }).2.calls =
        [(.startTransaction, some inspectReply),
          (.endRequest, some inspectReply),
          (.sendResponseHeaders 204 0 [], none)] := by
    decide +kernel
  refine ⟨asked, ?_⟩
  rw [asked]
  rintro (⟨call, reply, member, _, final⟩ | ⟨reply, member⟩)
  · simp only [List.mem_cons, Prod.mk.injEq, List.not_mem_nil, or_false,
      reduceCtorEq, and_false] at member
    obtain ⟨rfl, same⟩ | ⟨rfl, same⟩ := member
    all_goals
      cases same
      exact final.elim (fun other => other rfl) nofun
  · simp at member

end OpenAppsec.Traefik
