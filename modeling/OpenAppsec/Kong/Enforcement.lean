import OpenAppsec.Kong.Access

/-!
# Enforced verdicts

Which questions oblige the plugin to block a request, which of them it answers
with a local reply, and which it overlooks.
-/

namespace OpenAppsec.Kong

open Nano (AttachmentVerdict NanoCommunicationResult)

variable {question : Question} {result : Outcome × State} {exchange : Exchange}
variable {waited : State}

/-- The verdict that a delayed one is resolved to, if it is. -/
def Delayed.resolve : Delayed → Option AttachmentVerdict
  | .late | .silent => none
  | .answered verdict next =>
      if verdict = .delayed then next.resolve else some verdict

def resolveVerdict (verdict : AttachmentVerdict) (later : Delayed) :
    Option AttachmentVerdict :=
  if verdict = .delayed then later.resolve else some verdict

/-- The verdict in the end; none if the send fails, the wait ends without a
post or a delayed verdict is not resolved in time. -/
def Exchange.resolved (exchange : Exchange) : Option AttachmentVerdict :=
  if exchange.sent = .ok ∧ exchange.posted = true then
    resolveVerdict exchange.verdict exchange.later
  else none

def Question.resolved : Question → Option AttachmentVerdict
  | headers _ exchange => exchange.resolved
  | body exchange => exchange.resolved
  | bodyVariable answer => resolveVerdict answer.verdict answer.later
  | ending raised exchange => if raised then none else exchange.resolved

/-- The answer asks for a local reply. -/
def Question.Obliges (failModeVerdict : Int) (question : Question) : Prop :=
  question.resolved = some .drop ∨
    question.resolved = none ∧ failModeVerdict ≠ 0

/-- The phase ends in a local reply at this question. -/
def Question.Replies (failModeVerdict : Int) : Question → Prop
  | headers finalized exchange =>
      exchange.sent = .ok ∧ exchange.posted = true ∧ finalized = false ∧
        exchange.verdict = .drop
  | body exchange => exchange.resolved = some .drop
  | bodyVariable answer => answer.verdict = .drop
  | ending raised exchange =>
      raised = false ∧
        (exchange.resolved = some .drop ∨
          exchange.sent = .ok ∧ exchange.posted = false ∧
            failModeVerdict ≠ 0)

/-- The phase does not reply although the answer asks for it: the headers
are answered for a finalized session or with a delay, a body in a variable is
answered with a delay, or there is no verdict and the question is not that of
a wait at the end. -/
def Question.Overlooked (failModeVerdict : Int) : Question → Prop
  | headers finalized exchange =>
      exchange.resolved = some .drop ∧
          (finalized = true ∨ exchange.verdict = .delayed) ∨
        exchange.resolved = none ∧ failModeVerdict ≠ 0
  | body exchange => exchange.resolved = none ∧ failModeVerdict ≠ 0
  | bodyVariable answer =>
      answer.verdict = .delayed ∧
        (answer.later.resolve = some .drop ∨
          answer.later.resolve = none ∧ failModeVerdict ≠ 0)
  | ending raised exchange =>
      failModeVerdict ≠ 0 ∧
        (raised = true ∨ exchange.sent ≠ .ok ∨
          exchange.posted = true ∧ exchange.resolved = none)

theorem Question.overlooked_iff (failModeVerdict : Int)
    (question : Question) :
    question.Overlooked failModeVerdict ↔
      question.Obliges failModeVerdict ∧
        ¬question.Replies failModeVerdict := by
  cases question with
  | headers finalized exchange =>
      simp only [Obliges, resolved, Exchange.resolved, resolveVerdict,
        Overlooked, Replies]
      grind
  | body exchange =>
      simp only [Obliges, resolved, Overlooked, Replies]
      grind
  | bodyVariable answer =>
      simp only [Obliges, resolved, resolveVerdict, Overlooked, Replies]
      grind
  | ending raised exchange =>
      simp only [Obliges, resolved, Exchange.resolved, Overlooked, Replies]
      grind

/-- The phase goes on behind the question. -/
def Question.goesOn : Question → Bool
  | headers finalized exchange =>
      exchange.sent = .ok ∧ exchange.posted = true ∧ finalized = false ∧
        exchange.verdict ≠ .drop
  | body exchange =>
      exchange.resolved ≠ none ∧ exchange.resolved ≠ some .drop
  | bodyVariable answer => answer.verdict ≠ .drop
  | ending raised exchange =>
      raised = false ∧ exchange.resolved ≠ none ∧
        exchange.resolved ≠ some .drop

/-- The questions about the chunks of a file, and whether the phase goes on
behind them. -/
def chunkQuestions (late : Bool) : List FileChunk → List Question × Bool
  | [] => ([], !late)
  | chunk :: chunks =>
      if chunk.late then ([], false)
      else if chunk.exchange.sent = .ok ∧ chunk.exchange.posted = true ∧
          chunk.exchange.verdict = .inspect then
        let rest := chunkQuestions late chunks
        (.body chunk.exchange :: rest.1, rest.2)
      else
        ([.body chunk.exchange], (Question.body chunk.exchange).goesOn)

def RequestBody.questions : RequestBody → List Question × Bool
  | raw exchange => ([.body exchange], (Question.body exchange).goesOn)
  | inVariable answer =>
      ([.bodyVariable answer], (Question.bodyVariable answer).goesOn)
  | inFile opened chunks late =>
      if opened then chunkQuestions late chunks else ([], false)
  | missing => ([], true)

/-- The questions of a request, as long as the phase goes on. -/
def Request.questions (request : Request) : List Question :=
  let headers := .headers request.sessionFinalized request.headers
  let ending := .ending request.endRaised request.ending
  let body := (request.body.map RequestBody.questions).getD ([], true)
  headers ::
    if headers.goesOn then
      body.1 ++ if body.2 then [ending] else []
    else []

/-- No question is overlooked, unless a later one is replied to. -/
def Request.Enforced (failModeVerdict : Int) (request : Request) : Prop :=
  (∀ question ∈ request.questions, ¬question.Overlooked failModeVerdict) ∨
    ∃ question ∈ request.questions, question.Replies failModeVerdict

/-- The questions in a log. -/
def asked (log : List Event) : List Question :=
  log.filterMap fun
    | .asked question => some question
    | _ => none

@[simp] theorem asked_nil : asked [] = [] :=
  rfl

@[simp] theorem asked_cons_asked (question : Question) (log : List Event) :
    asked (.asked question :: log) = question :: asked log :=
  rfl

@[simp] theorem asked_cons_created (token : Token) (log : List Event) :
    asked (.created token :: log) = asked log :=
  rfl

@[simp] theorem asked_cons_used (token : Token) (log : List Event) :
    asked (.used token :: log) = asked log :=
  rfl

@[simp] theorem asked_cons_freed (token : Token) (log : List Event) :
    asked (.freed token :: log) = asked log :=
  rfl

@[simp] theorem asked_append (first second : List Event) :
    asked (first ++ second) = asked first ++ asked second :=
  List.filterMap_append

@[simp] theorem asked_note (state : State) (events : List Event) :
    asked (state.note events).log = asked state.log ++ asked events :=
  asked_append _ _

@[simp] theorem asked_use (state : State) (tokens : List Token) :
    asked (state.use tokens).log = asked state.log := by
  have quiet : asked (tokens.map .used) = [] := by
    induction tokens with
    | nil => rfl
    | cons token tokens induction => simpa using induction
  rw [State.use, asked_note, quiet, List.append_nil]

@[simp] theorem asked_free (state : State) (token : Option Token) :
    asked (state.free token).log = asked state.log := by
  cases token <;> simp [State.free]

@[simp] theorem asked_createResponse (state : State) :
    asked state.createResponse.2.log = asked state.log := by
  simp [State.createResponse]

@[simp] theorem asked_freeVerdictResponse (state : State)
    (response : Option Token) :
    asked (state.freeVerdictResponse response).log = asked state.log := by
  cases response <;> simp [State.freeVerdictResponse]

@[simp] theorem asked_finiSession (state : State) :
    asked state.finiSession.log = asked state.log :=
  asked_free _ _

@[simp] theorem asked_cleanup (state : State) :
    asked state.cleanup.log = asked state.log := by
  simp [State.cleanup]

/-- A stage asks these questions, goes on or not, and replies if one of its
questions asks for it. -/
structure Passes (failModeVerdict : Int) (questions : List Question)
    (goesOn : Bool) (state : State) (result : Outcome × State) : Prop where
  asks : asked result.2.log = asked state.log ++ questions
  goesOn : result.1 = .goesOn ↔ goesOn = true
  replied : (∃ code, result.1 = .replied code) ↔
    ∃ question ∈ questions, question.Replies failModeVerdict

variable {failModeVerdict : Int} {webResponse : WebResponse} {state : State}

theorem Passes.andThen {first second : List Question}
    {firstGoesOn secondGoesOn : Bool} {next : State → Outcome × State}
    (passes : Passes failModeVerdict first firstGoesOn state result)
    (later : Passes failModeVerdict second secondGoesOn result.2
      (next result.2)) :
    Passes failModeVerdict (first ++ if firstGoesOn then second else [])
      (firstGoesOn && secondGoesOn) state (State.andThen result next) := by
  obtain ⟨outcome, middle⟩ := result
  by_cases goes : outcome = .goesOn
  · have goesOn := passes.goesOn.mp goes
    subst goes goesOn
    have silent : ¬∃ question ∈ first,
        question.Replies failModeVerdict := by
      rw [← passes.replied]
      simp
    constructor
    · simp [State.andThen, later.asks, passes.asks]
    · simpa [State.andThen] using later.goesOn
    · simp only [State.andThen, later.replied]
      simp only [if_true, List.mem_append, or_and_right, exists_or]
      exact (or_iff_right silent).symm
  · have stops : firstGoesOn = false := by
      rw [← Bool.not_eq_true, ← passes.goesOn]
      exact goes
    subst stops
    have same : State.andThen (outcome, middle) next = (outcome, middle) := by
      cases outcome <;> first | exact absurd rfl goes | rfl
    rw [same]
    constructor
    · simpa using passes.asks
    · simpa using passes.goesOn
    · simpa using passes.replied

theorem waitForVerdictAsync_posted (failModeVerdict : Int) (state : State)
    (posted : exchange.posted = true) :
    ∃ token waited,
      waitForVerdictAsync failModeVerdict exchange state =
        ((some exchange.verdict, some (.response token)), waited) ∧
      asked waited.log = asked state.log := by
  simp only [waitForVerdictAsync, if_pos posted]
  exact ⟨_, _, rfl, asked_createResponse state⟩

theorem waitForVerdictAsync_silent (failModeVerdict : Int) (state : State)
    (silent : exchange.posted = false) :
    ∃ waited,
      waitForVerdictAsync failModeVerdict exchange state =
        ((none, some (if failModeVerdict ≠ 0 then .blocked else .timeout)),
          waited) ∧
      asked waited.log = asked state.log := by
  rw [waitForVerdictAsync, if_neg (by simp [silent])]
  split
  · exact ⟨_, rfl, rfl⟩
  · exact ⟨_, rfl, rfl⟩

theorem followDelayed_resolves (later : Delayed) (response : Option Token)
    (state : State) :
    let followed := followDelayed response later state
    followed.1.1 = later.resolve ∧
      (later.resolve.isSome = true →
        ∃ token, followed.1.2 = some (.response token)) ∧
      asked followed.2.log = asked state.log := by
  induction later generalizing response state with
  | late => simp [followDelayed, Delayed.resolve]
  | silent => simp [followDelayed, Delayed.resolve]
  | answered verdict next induction =>
      by_cases again : verdict = .delayed
      · simp only [followDelayed, Delayed.resolve, if_pos again]
        obtain ⟨resolved, token, same⟩ := induction
          (some state.createResponse.1)
          ((state.createResponse.2.freeVerdictResponse response).use
            [.session])
        exact ⟨resolved, token, by simpa using same⟩
      · simp [followDelayed, Delayed.resolve, again]

theorem handleDelayedVerdict_resolves (later : Delayed)
    (verdict : AttachmentVerdict) (token : Token) (state : State) :
    let handled := handleDelayedVerdict later verdict
      (some (.response token)) state
    handled.1.1 = resolveVerdict verdict later ∧
      ((resolveVerdict verdict later).isSome = true →
        ∃ token, handled.1.2 = some (.response token)) ∧
      asked handled.2.log = asked state.log := by
  by_cases delayed : verdict = .delayed
  · simp only [handleDelayedVerdict, resolveVerdict, if_pos delayed,
      if_neg (not_not_intro delayed)]
    obtain ⟨resolved, answered, same⟩ := followDelayed_resolves later none
      ((state.freeVerdictResponse (some token)).use [.session])
    exact ⟨resolved, answered, same.trans (by simp)⟩
  · simp [handleDelayedVerdict, resolveVerdict, delayed]

theorem blockRequest_outcome (response : Option Token) :
    let blocked := blockRequest webResponse response state
    blocked.1 = (if response.isSome then .replied (replyCode webResponse)
      else .raised) ∧
      asked blocked.2.log = asked state.log := by
  cases response with
  | none => exact ⟨rfl, rfl⟩
  | some token =>
      refine ⟨rfl, ?_⟩
      simp [blockRequest, handleDropVerdict, handleCustomResponse,
        State.andThen, State.setBlocked]

theorem enforceVerdict_outcome (verdict : AttachmentVerdict)
    (response : Option Token)
    (answered : verdict = .drop → response.isSome = true) :
    let enforced := enforceVerdict webResponse verdict response state
    enforced.1 = (if verdict = .drop then .replied (replyCode webResponse)
      else .goesOn) ∧
      asked enforced.2.log = asked state.log := by
  by_cases drop : verdict = .drop
  · simp only [enforceVerdict, if_pos drop]
    obtain ⟨outcome, same⟩ := blockRequest_outcome response
    rw [if_pos (answered drop)] at outcome
    exact ⟨outcome, same⟩
  · simp only [enforceVerdict, if_neg drop]
    split <;> simp [State.setFinal]

/-- The outcome when there is a verdict, which may be delayed. -/
def resolvedOutcome (webResponse : WebResponse) :
    Option AttachmentVerdict → Outcome
  | none => .cleanup
  | some .drop => .replied (replyCode webResponse)
  | some _ => .goesOn

theorem followAndEnforce_outcome (later : Delayed)
    (verdict : AttachmentVerdict) (token : Token) :
    let followed := followAndEnforce webResponse later verdict
      (some (.response token)) state
    followed.1 = resolvedOutcome webResponse (resolveVerdict verdict later) ∧
      asked followed.2.log = asked state.log := by
  obtain ⟨resolved, answered, same⟩ :=
    handleDelayedVerdict_resolves later verdict token state
  rcases found : handleDelayedVerdict later verdict (some (.response token))
    state with ⟨⟨_ | final, reply⟩, handled⟩
  · rw [found] at resolved same
    simp only [followAndEnforce, found, ← resolved]
    exact ⟨rfl, by simpa [State.setFailOpen] using same⟩
  · rw [found] at resolved answered same
    obtain ⟨token, rfl⟩ := answered (by rw [← resolved]; rfl)
    simp only [followAndEnforce, found, ← resolved]
    obtain ⟨outcome, kept⟩ := enforceVerdict_outcome final (some token)
      (fun _ => rfl)
    refine ⟨?_, kept.trans same⟩
    refine outcome.trans ?_
    cases final <;> rfl

theorem Passes.single
    (asks : asked result.2.log = asked state.log ++ [question])
    (goesOn : result.1 = .goesOn ↔ question.goesOn = true)
    (replied : (∃ code, result.1 = .replied code) ↔
      question.Replies failModeVerdict) :
    Passes failModeVerdict [question] question.goesOn state result where
  asks := asks
  goesOn := goesOn
  replied := by simpa using replied

/-- A question that is not asked to the end fails open. -/
theorem Passes.failOpen {noted : State}
    (asks : asked noted.log = asked state.log ++ [question])
    (stops : question.goesOn = false)
    (silent : ¬question.Replies failModeVerdict) :
    Passes failModeVerdict [question] question.goesOn state
      (.cleanup, noted.setFailOpen) := by
  apply Passes.single
  · simp [State.setFailOpen, asks]
  · simp [stops]
  · simp [silent]

/-- A question without an answer fails open, or raises an error in the attempt
to block. -/
theorem Passes.failMode
    (asks : asked waited.log = asked state.log ++ [question])
    (stops : question.goesOn = false)
    (silent : ¬question.Replies failModeVerdict) (reply : Option Reply) :
    Passes failModeVerdict [question] question.goesOn state
      (if reply = some .blocked then
        blockRequest webResponse none waited.setFailOpen.setFinal
      else (.cleanup, waited.setFailOpen)) := by
  split
  · obtain ⟨outcome, same⟩ := blockRequest_outcome
      none
    apply Passes.single
    · refine same.trans ?_
      simp [State.setFinal, State.setFailOpen, asks]
    · simp [outcome, stops]
    · simp [outcome, silent]
  · exact Passes.failOpen asks stops silent

/-- A question without a reply, in front of others. -/
theorem Passes.before {questions : List Question} {goesOn : Bool}
    (passes : Passes failModeVerdict questions goesOn waited result)
    (asks : asked waited.log = asked state.log ++ [question])
    (silent : ¬question.Replies failModeVerdict) :
    Passes failModeVerdict (question :: questions) goesOn state result where
  asks := by simp [passes.asks, asks]
  goesOn := passes.goesOn
  replied := by simp [passes.replied, silent]

theorem inspectHeaders_passes (request : Request) :
    let question :=
      Question.headers request.sessionFinalized request.headers
    Passes failModeVerdict [question] question.goesOn state
      (inspectHeaders failModeVerdict request state) := by
  intro question
  simp only [inspectHeaders]
  generalize noting : state.note _ = noted
  have noted_asked : asked noted.log = asked state.log ++ [question] := by
    simp [← noting, question]
  by_cases failed : request.headers.sent ≠ .ok
  · rw [if_pos failed]
    apply Passes.failOpen noted_asked
    · simp [question, Question.goesOn, failed]
    · simp [question, Question.Replies, failed]
  have sent : request.headers.sent = .ok := not_not.mp failed
  rw [if_neg failed]
  cases posted : request.headers.posted with
  | false =>
      obtain ⟨waited, silent, same⟩ :=
        waitForVerdictAsync_silent failModeVerdict noted posted
      simp only [silent]
      apply Passes.failMode (same.trans noted_asked)
      · simp [question, Question.goesOn, posted]
      · simp [question, Question.Replies, posted]
  | true =>
      obtain ⟨token, waited, answered, same⟩ :=
        waitForVerdictAsync_posted failModeVerdict noted posted
      simp only [answered]
      cases finalized : request.sessionFinalized with
      | true =>
          apply Passes.single
          · simp [same, noted_asked]
          · simp [question, Question.goesOn, finalized]
          · simp [question, Question.Replies, finalized]
      | false =>
          obtain ⟨outcome, kept⟩ := enforceVerdict_outcome
            request.headers.verdict (some token) (fun _ => rfl)
          apply Passes.single
          · exact kept.trans (by simp [same, noted_asked])
          · simp only [Bool.false_eq_true, if_false]
            rw [Option.bind_some, Reply.token, outcome]
            split <;>
              simp_all [question, Question.goesOn]
          · simp only [Bool.false_eq_true, if_false]
            rw [Option.bind_some, Reply.token, outcome]
            split <;>
              simp_all [question, Question.Replies]

/-- Behind the wait, a verdict is followed and enforced. -/
theorem followAndEnforce_passes {token : Token} (sent : exchange.sent = .ok)
    (posted : exchange.posted = true)
    (asks : asked waited.log = asked state.log ++ [question])
    (goesOn : question.goesOn =
      decide (exchange.resolved ≠ none ∧ exchange.resolved ≠ some .drop))
    (replies : question.Replies failModeVerdict ↔
      exchange.resolved = some .drop) :
    Passes failModeVerdict [question] question.goesOn state
      (followAndEnforce webResponse exchange.later exchange.verdict
        (some (.response token)) waited) := by
  obtain ⟨outcome, same⟩ := followAndEnforce_outcome exchange.later
    exchange.verdict token
  have resolved : exchange.resolved =
      resolveVerdict exchange.verdict exchange.later := by
    rw [Exchange.resolved, if_pos ⟨sent, posted⟩]
  apply Passes.single
  · exact same.trans asks
  · rw [outcome, goesOn, resolved]
    rcases resolveVerdict exchange.verdict exchange.later with
      _ | _ | _ | _ | _ | _ <;> simp [resolvedOutcome]
  · rw [outcome, replies, resolved]
    rcases resolveVerdict exchange.verdict exchange.later with
      _ | _ | _ | _ | _ | _ <;> simp [resolvedOutcome]

theorem inspectRawBody_passes (exchange : Exchange) :
    let question := Question.body exchange
    Passes failModeVerdict [question] question.goesOn state
      (inspectRawBody failModeVerdict webResponse exchange state) := by
  intro question
  simp only [inspectRawBody]
  generalize noting : state.note _ = noted
  have noted_asked : asked noted.log = asked state.log ++ [question] := by
    simp [← noting, question]
  by_cases failed : exchange.sent ≠ .ok
  · rw [if_pos failed]
    apply Passes.failOpen noted_asked
    · simp [question, Question.goesOn, Exchange.resolved, failed]
    · simp [question, Question.Replies, Exchange.resolved, failed]
  rw [if_neg failed]
  cases posted : exchange.posted with
  | false =>
      obtain ⟨waited, silent, same⟩ :=
        waitForVerdictAsync_silent failModeVerdict noted posted
      simp only [silent]
      apply Passes.failMode (same.trans noted_asked)
      · simp [question, Question.goesOn, Exchange.resolved, posted]
      · simp [question, Question.Replies, Exchange.resolved, posted]
  | true =>
      obtain ⟨token, waited, answered, same⟩ :=
        waitForVerdictAsync_posted failModeVerdict noted posted
      simp only [answered]
      exact followAndEnforce_passes (not_not.mp failed) posted
        (same.trans noted_asked) rfl Iff.rfl

theorem inspectBodyVariable_passes (answer : DirectAnswer) :
    let question := Question.bodyVariable answer
    Passes failModeVerdict [question] question.goesOn state
      (inspectBodyVariable webResponse answer state) := by
  intro question
  simp only [inspectBodyVariable]
  generalize noting : state.note _ = noted
  have noted_asked : asked noted.log = asked state.log ++ [question] := by
    simp [← noting, question]
  have created := asked_createResponse noted
  generalize noted.createResponse = made at created ⊢
  obtain ⟨response, answered⟩ := made
  obtain ⟨outcome, kept⟩ := enforceVerdict_outcome answer.verdict
    (some response) (fun _ => rfl)
  apply Passes.single
  · exact kept.trans (created.trans noted_asked)
  · rw [outcome]
    split <;> simp_all [question, Question.goesOn]
  · rw [outcome]
    split <;> simp_all [question, Question.Replies]

theorem inspectBodyFile_passes (opened : Bool) (chunks : List FileChunk)
    (late : Bool) :
    let questions := (RequestBody.inFile opened chunks late).questions
    Passes failModeVerdict questions.1 questions.2 state
      (inspectBodyFile failModeVerdict webResponse opened chunks late
        state) := by
  intro questions
  cases opened with
  | false =>
      constructor
      · simp [inspectBodyFile, readAndSendBodyFileChunked, questions,
          RequestBody.questions, State.setFailOpen]
      · simp [inspectBodyFile, readAndSendBodyFileChunked, questions,
          RequestBody.questions]
      · simp [inspectBodyFile, readAndSendBodyFileChunked, questions,
          RequestBody.questions]
  | true =>
      simp only [questions, RequestBody.questions, inspectBodyFile,
        readAndSendBodyFileChunked, if_true]
      induction chunks generalizing state with
      | nil =>
          cases late with
          | false =>
              constructor
              · simp [readAndSendChunks, chunkQuestions, followAndEnforce,
                  handleDelayedVerdict, enforceVerdict]
              · simp [readAndSendChunks, chunkQuestions, followAndEnforce,
                  handleDelayedVerdict, enforceVerdict]
              · simp [readAndSendChunks, chunkQuestions, followAndEnforce,
                  handleDelayedVerdict, enforceVerdict]
          | true =>
              constructor
              · simp [readAndSendChunks, chunkQuestions, State.setFailOpen]
              · simp [readAndSendChunks, chunkQuestions]
              · simp [readAndSendChunks, chunkQuestions]
      | cons chunk chunks induction =>
          by_cases tooLate : chunk.late = true
          · simp only [readAndSendChunks, chunkQuestions, if_pos tooLate]
            constructor
            · simp [State.setFailOpen]
            · simp
            · simp
          simp only [readAndSendChunks, chunkQuestions, if_neg tooLate]
          generalize noting : state.note _ = noted
          have noted_asked : asked noted.log =
              asked state.log ++ [.body chunk.exchange] := by
            simp [← noting]
          by_cases failed : chunk.exchange.sent ≠ .ok
          · rw [if_pos failed, if_neg (by simp [failed])]
            apply Passes.failOpen noted_asked
            · simp [Question.goesOn, Exchange.resolved, failed]
            · simp [Question.Replies, Exchange.resolved, failed]
          have sent : chunk.exchange.sent = .ok := not_not.mp failed
          rw [if_neg failed]
          cases posted : chunk.exchange.posted with
          | false =>
              obtain ⟨waited, silent, same⟩ :=
                waitForVerdictAsync_silent failModeVerdict noted posted
              simp only [silent]
              rw [if_neg (by simp), if_pos (by simp)]
              apply Passes.failOpen (same.trans noted_asked)
              · simp [Question.goesOn, Exchange.resolved, posted]
              · simp [Question.Replies, Exchange.resolved, posted]
          | true =>
              obtain ⟨token, waited, answered, same⟩ :=
                waitForVerdictAsync_posted failModeVerdict noted posted
              simp only [answered]
              have asks := same.trans noted_asked
              by_cases inspects : chunk.exchange.verdict = .inspect
              · rw [if_pos ⟨sent, trivial, inspects⟩, if_neg (by simp [inspects])]
                apply induction.before asks
                simp [Question.Replies, Exchange.resolved, resolveVerdict,
                  inspects]
              · rw [if_neg (by simp [inspects]), if_pos (by simp [inspects])]
                exact followAndEnforce_passes sent posted asks rfl Iff.rfl

theorem endInspection_passes (caught raised : Bool) (exchange : Exchange) :
    let question := Question.ending raised exchange
    Passes failModeVerdict [question] question.goesOn state
      (endInspection failModeVerdict webResponse caught raised exchange
        state) := by
  intro question
  simp only [endInspection]
  generalize noting : state.note _ = noted
  have noted_asked : asked noted.log = asked state.log ++ [question] := by
    simp [← noting, question]
  cases error : raised with
  | true =>
      apply Passes.single
      · cases caught <;> simp [State.setFailOpen, noted_asked]
      · cases caught <;> simp [question, Question.goesOn, error]
      · cases caught <;> simp [question, Question.Replies, error]
  | false =>
  simp only [Bool.false_eq_true, if_false]
  by_cases failed : exchange.sent ≠ .ok
  · rw [if_pos failed]
    apply Passes.failOpen noted_asked
    · simp [question, Question.goesOn, Exchange.resolved, failed]
    · simp [question, Question.Replies, Exchange.resolved, failed]
  have sent : exchange.sent = .ok := not_not.mp failed
  rw [if_neg failed]
  cases posted : exchange.posted with
  | false =>
      obtain ⟨waited, silent, same⟩ :=
        waitForVerdictAsync_silent failModeVerdict noted posted
      simp only [silent]
      apply Passes.single
      · split <;> simp [State.setFinal, State.setFailOpen, same, noted_asked]
      · split <;> simp [question, Question.goesOn, Exchange.resolved, posted]
      · split <;> simp_all [question, Question.Replies, Exchange.resolved]
  | true =>
      obtain ⟨token, waited, answered, same⟩ :=
        waitForVerdictAsync_posted failModeVerdict noted posted
      simp only [answered]
      apply followAndEnforce_passes sent posted (same.trans noted_asked)
      · simp [question, Question.goesOn, error]
      · simp [question, Question.Replies, error, posted]

theorem inspectBody_passes (body : RequestBody) :
    Passes failModeVerdict body.questions.1 body.questions.2 state
      (inspectBody failModeVerdict webResponse body state) := by
  cases body with
  | raw exchange => exact inspectRawBody_passes exchange
  | inVariable answer => exact inspectBodyVariable_passes answer
  | inFile opened chunks late =>
      exact inspectBodyFile_passes opened chunks late
  | missing =>
      constructor
      · simp [inspectBody, RequestBody.questions]
      · simp [inspectBody, RequestBody.questions]
      · simp [inspectBody, RequestBody.questions]

theorem inspectRest_passes (request : Request) :
    let body := (request.body.map RequestBody.questions).getD ([], true)
    let ending := Question.ending request.endRaised request.ending
    Passes failModeVerdict (body.1 ++ if body.2 then [ending] else [])
      (body.2 && ending.goesOn) state
      (inspectRest failModeVerdict request state) := by
  intro body ending
  cases announced : request.body with
  | none =>
      simp only [inspectRest, body, announced]
      exact endInspection_passes false request.endRaised request.ending
  | some found =>
      simp only [inspectRest, body, announced]
      exact (inspectBody_passes found).andThen
        (endInspection_passes true request.endRaised request.ending)

/-- The whole phase asks the questions of the request, and replies if one of
them asks for it. -/
theorem handleAccessAsync_replies (failModeVerdict : Int) (request : Request)
    (state : State) :
    let result := handleAccessAsync failModeVerdict request state
    asked result.2.log = asked state.log ++ request.questions ∧
      ((∃ code, result.1 = .replied code) ↔
        ∃ question ∈ request.questions,
          question.Replies failModeVerdict) := by
  simp only [handleAccessAsync]
  generalize opening : { state with
    finalResponse := none
    pending := true
    ctx := { state.ctx with
      failOpenMode := false, isFinalVerdict := false } } = opened
  have same : asked opened.log = asked state.log := by simp [← opening]
  have headers : Passes failModeVerdict _ _ opened
      (inspectHeaders failModeVerdict request opened) :=
    inspectHeaders_passes request
  have passes := headers.andThen (inspectRest_passes request)
  generalize State.andThen _ _ = stages at passes ⊢
  obtain ⟨outcome, after⟩ := stages
  have asks : asked after.log = asked state.log ++ request.questions :=
    passes.asks.trans (congrArg (· ++ request.questions) same)
  have replied : (∃ code, outcome = .replied code) ↔
      ∃ question ∈ request.questions, question.Replies failModeVerdict :=
    passes.replied
  cases outcome with
  | goesOn => exact ⟨by simpa using asks, by simpa using replied⟩
  | cleanup => exact ⟨by simpa using asks, by simpa using replied⟩
  | returned => exact ⟨asks, replied⟩
  | replied code => exact ⟨asks, replied⟩
  | raised => exact ⟨asks, replied⟩

/-- A phase that has asked a question whose answer obliges it has replied. -/
def Enforces (failModeVerdict : Int) (result : Outcome × State) : Prop :=
  (∃ question ∈ asked result.2.log, question.Obliges failModeVerdict) →
    ∃ code, result.1 = .replied code

/-- A request at the beginning of its access phase. -/
def State.start (ctx : Ctx) : State :=
  { ctx
    pending := false
    metaData := some .metadata
    reqHeaders := some .requestHeaders
    finalResponse := none
    responses := 0
    log := [.created .session, .created .metadata,
      .created .requestHeaders] }

/-- The phase enforces the verdicts and the fail mode just when no question is
overlooked, or a later one is replied to. -/
theorem access_enforces_iff (failModeVerdict : Int) (request : Request)
    (ctx : Ctx) :
    Enforces failModeVerdict (handleAccessAsync failModeVerdict request
        (.start ctx)) ↔
      request.Enforced failModeVerdict := by
  obtain ⟨asks, replied⟩ := handleAccessAsync_replies failModeVerdict request
    (.start ctx)
  rw [Enforces, asks, replied]
  simp only [State.start, asked_cons_created, asked_nil, List.nil_append,
    Request.Enforced, Question.overlooked_iff]
  constructor
  · intro enforced
    by_cases due : ∃ question ∈ request.questions,
        question.Obliges failModeVerdict
    · exact .inr (enforced due)
    · left
      rintro question member ⟨obliges, -⟩
      exact due ⟨question, member, obliges⟩
  · rintro (attended | replies) ⟨question, member, obliges⟩
    · by_contra silent
      exact attended question member
        ⟨obliges, fun replies => silent ⟨question, member, replies⟩⟩
    · exact replies

/-- A question that is answered in time with this verdict. -/
def answeredWith (verdict : AttachmentVerdict) (later : Delayed) : Exchange :=
  { sent := .ok
    posted := true
    verdict
    later }

/-- A request whose headers are answered with a delay that ends in a drop, and
whose end is accepted. -/
def delayedHeaders : Request :=
  { webResponse := ⟨.responseCodeOnly, 403⟩
    headers := answeredWith .delayed (.answered .drop .late)
    sessionFinalized := false
    body := none
    endRaised := false
    ending := answeredWith .accept .late }

/-- A request with a body in a file; the wait for the verdict on its only chunk
times out. -/
def silentChunk : Request :=
  { delayedHeaders with
    headers := answeredWith .inspect .late
    body := some (.inFile true
      [{ late := false
         exchange := { answeredWith .inspect .late with posted := false } }]
      false) }

/-- The context before the access phase. -/
def Ctx.unset : Ctx :=
  { failOpenMode := false
    isFinalVerdict := false
    blocked := false
    sessionFinalized := false
    cleanupNeeded := false }

/-- Both are forwarded although the fail mode is to block. -/
theorem access_forwards_unenforced :
    let ctx := Ctx.unset
    let delayed := handleAccessAsync 1 delayedHeaders (.start ctx)
    let silent := handleAccessAsync 1 silentChunk (.start ctx)
    delayed.1 = .returned ∧ ¬Enforces 1 delayed ∧
      silent.1 = .returned ∧ ¬Enforces 1 silent := by
  intro ctx
  refine ⟨rfl, ?_, rfl, ?_⟩
  · intro enforces
    obtain ⟨code, replied⟩ := enforces
      ⟨.headers false delayedHeaders.headers, List.mem_cons_self, .inl rfl⟩
    cases replied
  · intro enforces
    obtain ⟨code, replied⟩ := enforces
      ⟨.body { answeredWith .inspect .late with posted := false },
        List.mem_cons_of_mem _ List.mem_cons_self, .inr ⟨rfl, by simp⟩⟩
    cases replied

end OpenAppsec.Kong
