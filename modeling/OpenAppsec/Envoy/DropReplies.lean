import OpenAppsec.Envoy.WorkerIsolation

/-!
# Replies to dropped requests

A verdict to drop becomes a local reply, unless making it panics: when the
verdict comes without data for the reply, and when the block page ends with an
empty part, behind which `copyToSlice` has no address to copy to.
-/

namespace OpenAppsec.Envoy

theorem foldlM_copyToSlice (before : List UInt8)
    (parts : List (List UInt8)) :
    parts.foldlM
        (fun (state : List UInt8 × Nat) part =>
          copyToSlice state.1 part state.2)
        (before ++ List.replicate (parts.map List.length).sum 0,
          before.length) =
      if parts.getLast? = some [] then none
      else some (before ++ parts.flatten, (before ++ parts.flatten).length) := by
  induction parts generalizing before with
  | nil => simp
  | cons part parts induction =>
      set rest := (parts.map List.length).sum with restEq
      have total : ((part :: parts).map List.length).sum =
          part.length + rest := by
        rw [List.map_cons, List.sum_cons]
      have length : (before ++ List.replicate (part.length + rest)
          (0 : UInt8)).length = before.length + (part.length + rest) := by
        rw [List.length_append, List.length_replicate]
      rw [total, List.foldlM_cons]
      dsimp only
      by_cases empty : part.length + rest = 0
      · -- there is nothing to copy, and no address to copy it to
        have outside : ¬before.length < (before ++ List.replicate
            (part.length + rest) (0 : UInt8)).length := by
          omega
        have last : (part :: parts).getLast? = some [] := by
          obtain ⟨final, found⟩ := Option.isSome_iff_exists.mp
            (List.getLast?_isSome.mpr (List.cons_ne_nil part parts))
          have member := List.mem_of_getLast? found
          have short := List.single_le_sum (by simp) _
            (List.mem_map_of_mem (f := List.length) member)
          rw [total, empty] at short
          rw [found, List.eq_nil_of_length_eq_zero (Nat.le_zero.mp short)]
        rw [copyToSlice, if_neg outside, if_pos last]
        rfl
      · have inside : before.length < (before ++ List.replicate
            (part.length + rest) (0 : UInt8)).length := by
          omega
        have copied : copyToSlice (before ++ List.replicate
            (part.length + rest) 0) part before.length =
              some (before ++ part ++ List.replicate rest 0,
                (before ++ part).length) := by
          rw [copyToSlice, if_pos inside, List.take_left, List.drop_append,
            List.drop_eq_nil_of_le (Nat.le_add_right _ _), List.nil_append,
            Nat.add_sub_cancel_left, List.drop_replicate,
            List.length_append, Nat.add_sub_cancel_left]
        have sameLast : (part :: parts).getLast? = some [] ↔
            parts.getLast? = some [] := by
          cases parts with
          | nil =>
              have notEmpty : part ≠ [] := by
                rintro rfl
                exact empty (by simp [rest])
              simp [notEmpty]
          | cons next parts => rw [List.getLast?_cons_cons]
        rw [copied, Option.bind_eq_bind, Option.bind_some,
          induction (before ++ part)]
        simp only [sameLast, List.flatten_cons, List.append_assoc]

theorem convertBlockPageToString_eq (page : BlockPageData) :
    convertBlockPageToString page =
      if page.uuidSuffix = [] then none else some page.parts.flatten := by
  have copied := foldlM_copyToSlice [] page.parts
  rw [List.nil_append] at copied
  rw [convertBlockPageToString]
  refine (congrArg (Option.map Prod.fst) copied).trans ?_
  have last : page.parts.getLast? = some page.uuidSuffix := rfl
  simp only [last, Option.some.injEq]
  split <;> rfl

/-- The last answer that a callback reads. -/
def Filter.decides (filter : Filter) (callback : Callback) : Option Answer :=
  let after (last : Bool) (answer lastAnswer : Answer) : Answer :=
    if answer.verdict = .inspect ∧ last then lastAnswer else answer
  let body (buffer : List UInt8) (endStream : Bool)
      (answer lastAnswer : Answer) : Option Answer :=
    if buffer ≠ [] then some (after endStream answer lastAnswer)
    else if endStream then some lastAnswer
    else none
  if filter.finalized then none
  else
    match callback with
    | .decodeHeaders streamInfo header _ answer =>
        (streamInfo.metaData header .zeroed).map fun _ => answer
    | .decodeData buffer endStream answer lastAnswer =>
        body buffer endStream answer lastAnswer
    | .encodeHeaders _ endStream answer lastAnswer =>
        some (after endStream answer lastAnswer)
    | .encodeData buffer endStream answer lastAnswer =>
        body buffer endStream answer lastAnswer

/-- There is data for a reply, and the page, if it is one, has an end. -/
def Answer.HasReply (answer : Answer) : Prop :=
  match answer.webResponseData with
  | none => False
  | some (.customWebResponse page) => page.uuidSuffix ≠ []
  | some _ => True

theorem dropReply_isSome_iff (answer : Answer) :
    (dropReply answer).isSome ↔ answer.HasReply := by
  rw [dropReply, Answer.HasReply]
  cases answer.webResponseData with
  | none => simp
  | some response =>
      cases response with
      | customWebResponse page =>
          simp only [convertBlockPageToString_eq]
          split
          · rename_i empty
            simp [empty]
          · rename_i notEmpty
            simp [notEmpty]
      | responseCodeOnly responseCode => simp
      | customResponseWithHeaders response => simp
      | other redirectLocation => simp

/-- A report says what the answer says. -/
def Report.Ends (report : Report) (answer : Answer) : Prop :=
  (report.status, report.reply) = finalizeRequest answer

/-- A report of a callback that has read no answer. -/
structure Report.Silent (report : Report) : Prop where
  status : report.status ≠ .localReply
  reply : report.reply = none

/-- How a report follows from the answer that decides. -/
def Report.Follows (report : Report) : Option Answer → Prop
  | none => report.Silent
  | some answer => report.Ends answer

namespace Call

variable (call : Call) (buffer : List UInt8) (answer lastAnswer : Answer)

theorem endInspectionPart_ends (chunkType : ChunkType) :
    (call.endInspectionPart buffer chunkType lastAnswer).1.Ends
      lastAnswer := by
  simp only [endInspectionPart]
  split
  · rfl
  · rename_i inspects
    rw [not_not] at inspects
    simp [Report.Ends, back, finalizeRequest, inspects]

theorem afterSend_ends (endStream : Bool) (lastType : ChunkType) :
    (call.afterSend buffer answer (if endStream then some lastType else none)
        lastAnswer).1.Ends
      (if answer.verdict = .inspect ∧ endStream then lastAnswer
        else answer) := by
  simp only [afterSend]
  by_cases inspects : answer.verdict = .inspect
  · rw [if_neg (not_not.mpr inspects)]
    cases endStream with
    | true =>
        have both : answer.verdict = .inspect ∧ true = true :=
          ⟨inspects, rfl⟩
        rw [if_pos both]
        exact endInspectionPart_ends ..
    | false => simp [Report.Ends, back, finalizeRequest, inspects]
  · rw [if_pos inspects, if_neg fun both => inspects both.1]
    rfl

theorem decodeHeaders_follows (streamInfo : StreamInfo) (header : HeaderMap)
    (endStream : Bool) :
    (call.decodeHeaders streamInfo header endStream answer).1.Follows
      ((streamInfo.metaData header .zeroed).map fun _ => answer) := by
  simp only [decodeHeaders, handleStartTransaction, StreamInfo.metaData,
    Option.bind_eq_bind]
  cases (splitColon streamInfo.downstreamLocalAddress)[1]? with
  | none => exact ⟨fun same => (by cases same), rfl⟩
  | some listeningPort =>
      cases (splitColon streamInfo.downstreamRemoteAddress)[1]? with
      | none => exact ⟨fun same => (by cases same), rfl⟩
      | some clientPort =>
          have ends := fun call : Call =>
            call.afterSend_ends [] answer answer false .httpRequestEnd
          simp only [Bool.false_eq_true, and_false, if_false] at ends
          exact ends _

theorem body_follows {done : Report} {endStream : Bool}
    {data : List UInt8}
    (ending : endStream = true → data = [] → done.Ends lastAnswer)
    (passing : endStream = false → data = [] → done.Silent)
    (sending : data ≠ [] → done.Ends
      (if answer.verdict = .inspect ∧ endStream then lastAnswer
        else answer)) :
    done.Follows
      (if data ≠ [] then
        some (if answer.verdict = .inspect ∧ endStream then lastAnswer
          else answer)
      else if endStream then some lastAnswer
      else none) := by
  by_cases empty : data = []
  · rw [if_neg (not_not.mpr empty)]
    cases endStream with
    | true => exact ending rfl empty
    | false => exact passing rfl empty
  · rw [if_pos empty]
    exact sending empty

theorem decodeData_follows (endStream : Bool) :
    (call.decodeData buffer endStream answer lastAnswer).1.Follows
      (if buffer ≠ [] then
        some (if answer.verdict = .inspect ∧ endStream then lastAnswer
          else answer)
      else if endStream then some lastAnswer
      else none) := by
  refine body_follows answer lastAnswer ?_ ?_ ?_
  · rintro rfl rfl
    exact endInspectionPart_ends ..
  · rintro rfl rfl
    exact ⟨fun same => (by cases same), rfl⟩
  · intro sends
    simp only [decodeData]
    rw [if_neg fun both => sends both.2, if_neg sends]
    exact afterSend_ends ..

theorem encodeData_follows (endStream : Bool) :
    (call.encodeData buffer endStream answer lastAnswer).1.Follows
      (if buffer ≠ [] then
        some (if answer.verdict = .inspect ∧ endStream then lastAnswer
          else answer)
      else if endStream then some lastAnswer
      else none) := by
  refine body_follows answer lastAnswer ?_ ?_ ?_
  · rintro rfl rfl
    exact endInspectionPart_ends ..
  · rintro rfl rfl
    exact ⟨fun same => (by cases same), rfl⟩
  · intro sends
    simp only [encodeData]
    rw [if_neg fun both => sends both.2, if_neg sends]
    exact afterSend_ends ..

theorem callback_follows (callback : Callback) :
    (call.callback callback).1.Follows (call.filter.decides callback) := by
  simp only [Call.callback, Filter.decides]
  by_cases finalized : call.filter.finalized
  · rw [if_pos finalized, if_pos finalized]
    exact ⟨fun same => (by cases same), rfl⟩
  · rw [if_neg finalized, if_neg finalized]
    cases callback with
    | decodeHeaders streamInfo header endStream answer =>
        exact decodeHeaders_follows ..
    | decodeData buffer endStream answer lastAnswer =>
        exact decodeData_follows ..
    | encodeHeaders header endStream answer lastAnswer =>
        exact afterSend_ends ..
    | encodeData buffer endStream answer lastAnswer =>
        exact encodeData_follows ..

end Call

/-- In every run of a worker's streams, a callback replies to the client just
when the last answer it reads is to drop the request and has what a reply
needs, and it lets Envoy go on just when that answer is not to drop it. -/
theorem drop_replies (steps : List (Nat × StreamCall)) (session : Nat)
    (filter : Filter) (callback : Callback)
    (found : (Trace.run Worker.step .start steps).2.filters session =
      some filter) :
    ∃ report,
      ((Trace.run Worker.step .start steps).2.step
          (session, .callback callback)).1 = some report ∧
        (report.status = .localReply ↔
          ∃ answer, filter.decides callback = some answer ∧
            answer.verdict = .drop ∧ answer.HasReply) ∧
        (report.reply.isSome ↔ report.status = .localReply) ∧
        (∀ answer, filter.decides callback = some answer →
          (report.status = .goOn ↔ answer.verdict ≠ .drop)) := by
  set reached := (Trace.run Worker.step .start steps).2
  have follows := Call.callback_follows
    { memory := reached.memory, filter, messages := [] } callback
  have stepped : (reached.step (session, .callback callback)).1 =
      some (({ memory := reached.memory, filter, messages := [] } :
        Call).callback callback).1 := by
    simp only [Worker.step, found]
  refine ⟨_, stepped, ?_⟩
  cases decides : filter.decides callback with
  | none =>
      rw [decides] at follows
      simp [follows.status, follows.reply]
  | some answer =>
      rw [decides] at follows
      simp only [Report.Follows, Report.Ends, finalizeRequest,
        Prod.ext_iff] at follows
      simp only [Option.some.injEq, exists_eq_left', forall_eq']
      rw [← dropReply_isSome_iff, follows.1, follows.2]
      by_cases drops : answer.verdict = .drop
      · rw [if_pos drops]
        cases dropReply answer with
        | none => simp [drops]
        | some reply => simp [drops]
      · rw [if_neg drops]
        simp [drops]

/-- A request is dropped for its body. -/
theorem drop_replies_body :
    let answer : Answer :=
      { verdict := .drop
        webResponseData := some (.responseCodeOnly 403)
        modifications := []
        finalized := true }
    let worker := (Trace.run Worker.step .start [(7, .create)]).2
    ∃ report,
      (worker.step (7, .callback (.decodeData [1] true answer answer))).1 =
          some report ∧
        report.status = .localReply := by
  intro answer worker
  obtain ⟨report, stepped, replies, -⟩ := drop_replies [(7, .create)] 7
    (newFilter 7) (.decodeData [1] true answer answer) rfl
  exact ⟨report, stepped, replies.mpr ⟨answer, rfl, rfl, trivial⟩⟩

end OpenAppsec.Envoy
