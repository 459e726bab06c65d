import OpenAppsec.Attachment.NginxSenders
import OpenAppsec.Attachment.Transmissions

/-!
# Header lists in both attachments

Both senders cut a list of headers into bulks and mark the last one.  The
nginx sender goes by the parts of its list and by a counter of eight bits, so
it agrees with the nano sender on some lists only.
-/

namespace OpenAppsec

open Bulks

variable {headers bulk : List HttpHeaderData}
variable {parts : List (List HttpHeaderData)}

/-- Four fragments for each header. -/
def headersOf : List (List UInt8) → List HttpHeaderData
  | _ :: key :: _ :: value :: fragments => { key, value } :: headersOf fragments
  | _ => []

/-- The flag of a header message, and its headers. -/
def Message.headerPart (message : Message) : Bool × List HttpHeaderData :=
  (message.fragments[2]? = some [1], headersOf (message.fragments.drop 4))

/-- The sizes of a header fit in sixteen bits. -/
structure HttpHeaderData.Fits (header : HttpHeaderData) : Prop where
  key : List.length header.key < 65536
  value : List.length header.value < 65536

theorem headersOf_flatMap_fragments (fits : ∀ header ∈ bulk, header.Fits) :
    headersOf (bulk.flatMap HttpHeaderData.fragments) = bulk := by
  induction bulk with
  | nil => rfl
  | cons header bulk induction =>
      obtain ⟨first, rest⟩ := List.forall_mem_cons.mp fits
      have key : header.key.fragment = header.key := by
        rw [NanoStr.fragment, Nat.mod_eq_of_lt first.key, List.take_length]
      have value : header.value.fragment = header.value := by
        rw [NanoStr.fragment, Nat.mod_eq_of_lt first.value, List.take_length]
      rw [List.flatMap_cons, HttpHeaderData.fragments, key, value]
      exact congrArg (header :: ·) (induction rest)

theorem headerPart_headerBulkMessage (fits : ∀ header ∈ bulk, header.Fits)
    (headerType : AttachmentDataType) (isLast : Bool) (bulkPartIndex : UInt8)
    (curRequestId : BitVec 32) :
    (headerBulkMessage headerType bulk (if isLast then 1 else 0)
        bulkPartIndex curRequestId).headerPart = (isLast, bulk) := by
  apply Prod.ext _ (headersOf_flatMap_fragments fits)
  cases isLast with
  | true => rfl
  | false => rfl

/-- Header messages carry a list: its headers in order, at most ten in each
message, and only the last message is marked. -/
structure CarriesHeaders (headers : List HttpHeaderData)
    (messages : List Message) : Prop where
  whole : messages.flatMap (fun message => message.headerPart.2) = headers
  bounded : ∀ message ∈ messages, message.headerPart.2.length ≤ 10
  lastMarked : ∃ before last, messages = before ++ [last] ∧
    last.headerPart.1 = true ∧
    ∀ message ∈ before, message.headerPart.1 = false

/-- The last of the bulks is marked. -/
def marked {α : Type*} : List α → List (Bool × α)
  | [] => []
  | bulk :: bulks => (bulks.isEmpty, bulk) :: marked bulks

section Marked

variable {α : Type*}

theorem marked_append (first : List α) {second : List α}
    (filled : second ≠ []) :
    marked (first ++ second) = first.map (false, ·) ++ marked second := by
  induction first with
  | nil => rfl
  | cons bulk first induction =>
      rw [List.cons_append, marked, induction, List.map_cons,
        List.cons_append]
      congr 2
      rw [List.isEmpty_eq_false_iff]
      exact List.append_ne_nil_of_right_ne_nil _ filled

theorem map_snd_marked (bulks : List α) :
    (marked bulks).map Prod.snd = bulks := by
  induction bulks with
  | nil => rfl
  | cons bulk bulks induction =>
      rw [marked, List.map_cons, induction]

theorem marked_concat (before : List α) (last : α) :
    marked (before ++ [last]) = before.map (false, ·) ++ [(true, last)] := by
  rw [marked_append _ (List.cons_ne_nil _ _)]
  rfl

end Marked

theorem carriesHeaders_of_marked (filled : headers ≠ [])
    {messages : List Message}
    (parts : messages.map Message.headerPart = marked (bulks 10 headers)) :
    CarriesHeaders headers messages := by
  have contents : messages.map (fun message => message.headerPart.2) =
      bulks 10 headers := by
    rw [← map_snd_marked (bulks 10 headers), ← parts, List.map_map]
    rfl
  constructor
  · rw [List.flatMap_def, contents, flatten_bulks]
  · intro message member
    have bulk : message.headerPart.2 ∈ bulks 10 headers := by
      rw [← contents]
      exact List.mem_map_of_mem member
    exact (bulks_bounds (by decide) bulk).2
  · have some : bulks 10 headers ≠ [] := mt bulks_eq_nil_iff.mp filled
    rw [← List.dropLast_concat_getLast some, marked_concat] at parts
    obtain ⟨before, rest, split, unmarked, final⟩ :=
      List.map_eq_append_iff.mp parts
    obtain ⟨last, single, isLast⟩ := List.map_eq_singleton_iff.mp final
    rw [single] at split
    refine ⟨before, last, split, congrArg Prod.fst isLast, ?_⟩
    intro message member
    have part : message.headerPart ∈
        (bulks 10 headers).dropLast.map (false, ·) := by
      rw [← unmarked]
      exact List.mem_map_of_mem member
    obtain ⟨_, _, same⟩ := List.mem_map.mp part
    rw [← same]

namespace Nano

theorem headerPart_bulkMessages {bulks : List (List HttpHeaderData)}
    (fits : ∀ bulk ∈ bulks, ∀ header ∈ bulk, header.Fits)
    (headerType : AttachmentDataType) (sessionId : BitVec 32)
    (bulkIndex : Nat) :
    (bulkMessages headerType sessionId bulkIndex bulks).map
      Message.headerPart = marked bulks := by
  induction bulks generalizing bulkIndex with
  | nil => rfl
  | cons bulk bulks induction =>
      obtain ⟨first, rest⟩ := List.forall_mem_cons.mp fits
      have flag : (if bulks = [] then 1 else 0 : UInt8) =
          if bulks.isEmpty then 1 else 0 := by
        cases bulks with
        | nil => rfl
        | cons _ _ => rfl
      rw [bulkMessages, List.map_cons, marked, induction rest, flag,
        headerPart_headerBulkMessage first]

theorem headerPart_headerMessages (fits : ∀ header ∈ headers, header.Fits)
    (headerType : AttachmentDataType) (sessionId : BitVec 32) :
    (headerMessages headers headerType sessionId).map Message.headerPart =
      marked (bulks maxHeaderBulkSize headers) := by
  apply headerPart_bulkMessages
  intro bulk inside header member
  apply fits
  rw [← flatten_bulks maxHeaderBulkSize headers]
  exact List.mem_flatten_of_mem inside member

theorem messages_sentEvents {ω : Type*} {outcome : Nat → SendOutcome}
    {index : Nat} {messages : List Message}
    (accepted : AllAccepted outcome index messages.length) :
    (sentEvents outcome index messages : List (Event ω)).filterMap
      Event.message? = messages := by
  induction messages generalizing index with
  | nil => rfl
  | cons message messages induction =>
      obtain ⟨first, rest⟩ := allAccepted_succ_iff.mp accepted
      rw [sentEvents, if_pos first]
      exact congrArg (message :: ·) (induction rest)

/-- The messages that a sender hands over from one state to another. -/
def SenderState.messagesSince {ω : Type*} (before after : SenderState ω) :
    List Message :=
  (before.eventsSince after).filterMap Event.message?

theorem transmitHeaders_messages {ω : Type*} {env : Environment ω}
    {headerType : AttachmentDataType} {usageMode : SignalUsageMode}
    {state after : SenderState ω}
    (succeeded :
      transmitHeaders env headers headerType usageMode state =
        (true, after)) :
    state.messagesSince after =
      headerMessages headers headerType state.sessionData.sessionId := by
  rw [transmitHeaders_eq] at succeeded
  have events := deliver_events env usageMode
    (headerMessages headers headerType state.sessionData.sessionId) state
  have accepted := deliver_accepted_iff.mp (congrArg Prod.fst succeeded)
  rw [succeeded] at events
  rw [SenderState.messagesSince, eventsSince_eq events,
    messages_sentEvents accepted]

end Nano

namespace Nginx

/-- The messages so far. -/
def HeaderLoop.messages (state : HeaderLoop) : List Message :=
  state.sent.map Sending.message

/-- The messages of bulks, each with the number of headers before it. -/
def numberedMessages (headerType : AttachmentDataType)
    (curRequestId : BitVec 32) :
    UInt8 → List (Bool × List HttpHeaderData) → List Message
  | _, [] => []
  | index, (isLast, bulk) :: bulks =>
      headerBulkMessage headerType bulk (if isLast then 1 else 0) index
          curRequestId ::
        numberedMessages headerType curRequestId
          (index + UInt8.ofNat bulk.length) bulks

/-- The bulk that is being filled has the number of headers before it. -/
def HeaderLoop.Indexed (state : HeaderLoop) : Prop :=
  state.partCount = state.bulkPartIdx + UInt8.ofNat state.bulk.length

section Loops

variable {transport : Nat → SendOutcome} {headerType : AttachmentDataType}
  {curRequestId : BitVec 32}

variable {after state : HeaderLoop} {header : HttpHeaderData}

theorem numberedMessages_append (index : UInt8)
    (first second : List (Bool × List HttpHeaderData)) :
    numberedMessages headerType curRequestId index (first ++ second) =
      numberedMessages headerType curRequestId index first ++
        numberedMessages headerType curRequestId
          (index + UInt8.ofNat (first.flatMap Prod.snd).length) second := by
  induction first generalizing index with
  | nil => exact congrArg (numberedMessages _ _ · _) (UInt8.add_zero _).symm
  | cons part first induction =>
      obtain ⟨isLast, bulk⟩ := part
      rw [List.cons_append, numberedMessages, induction, List.flatMap_cons,
        List.length_append, UInt8.ofNat_add, UInt8.add_assoc]
      rfl

theorem headerPart_numberedMessages
    {bulks : List (Bool × List HttpHeaderData)}
    (fits : ∀ part ∈ bulks, ∀ header ∈ part.2, header.Fits) (index : UInt8) :
    (numberedMessages headerType curRequestId index bulks).map
      Message.headerPart = bulks := by
  induction bulks generalizing index with
  | nil => rfl
  | cons part bulks induction =>
      obtain ⟨first, rest⟩ := List.forall_mem_cons.mp fits
      rw [numberedMessages, List.map_cons, induction rest,
        headerPart_headerBulkMessage first]

theorem sendHeaderBulk_ok {isLast : Bool} {bulkPartIndex : UInt8}
    (returned : sendHeaderBulk transport headerType bulk
      (if isLast then 1 else 0) bulkPartIndex curRequestId state =
        (.ok, after)) :
    after.messages = state.messages ++
        [headerBulkMessage headerType bulk (if isLast then 1 else 0)
          bulkPartIndex curRequestId] ∧
      after.partCount = state.partCount := by
  rw [sendHeaderBulk] at returned
  dsimp only at returned
  split at returned
  · cases returned
  · cases returned
    refine ⟨?_, rfl⟩
    rw [HeaderLoop.messages, HeaderLoop.messages, List.map_append]
    rfl

/-- What a part adds to the messages and to the counter. -/
structure PartSent (headerType : AttachmentDataType)
    (curRequestId : BitVec 32) (bulks : List (Bool × List HttpHeaderData))
    (items : List HttpHeaderData) (before after : HeaderLoop) : Prop where
  messages : after.messages = before.messages ++
    numberedMessages headerType curRequestId before.bulkPartIdx bulks
  partCount :
    after.partCount = before.partCount + UInt8.ofNat items.length

theorem ofNat_length_cons (header : HttpHeaderData)
    (headers : List HttpHeaderData) (partCount : UInt8) :
    partCount + 1 + UInt8.ofNat headers.length =
      partCount + UInt8.ofNat (header :: headers).length := by
  rw [List.length_cons, UInt8.ofNat_add, UInt8.add_assoc,
    UInt8.add_comm 1]
  rfl

/-- A header that only goes into the bulk. -/
theorem PartSent.add {rest : List (Bool × List HttpHeaderData)}
    {before between : HeaderLoop}
    (later : PartSent headerType curRequestId rest headers between after)
    (sent : between.sent = before.sent)
    (index : between.bulkPartIdx = before.bulkPartIdx)
    (counted : between.partCount = before.partCount + 1) :
    PartSent headerType curRequestId rest (header :: headers) before
      after := by
  constructor
  · rw [later.messages, index, HeaderLoop.messages, HeaderLoop.messages, sent]
  · rw [later.partCount, counted, ofNat_length_cons header]

/-- A header whose bulk is sent. -/
theorem PartSent.cons {isLast : Bool} {rest : List (Bool × List HttpHeaderData)}
    {before between : HeaderLoop}
    (later : PartSent headerType curRequestId rest headers between after)
    (sent : between.messages = before.messages ++
      [headerBulkMessage headerType bulk (if isLast then 1 else 0)
        before.bulkPartIdx curRequestId])
    (index : between.bulkPartIdx =
      before.bulkPartIdx + UInt8.ofNat bulk.length)
    (counted : between.partCount = before.partCount + 1) :
    PartSent headerType curRequestId ((isLast, bulk) :: rest)
      (header :: headers) before after := by
  constructor
  · rw [later.messages, sent, index, List.append_assoc]
    rfl
  · rw [later.partCount, counted, ofNat_length_cons header]

/-- One more header in the bulk. -/
theorem HeaderLoop.Indexed.add (indexed : state.Indexed)
    (header : HttpHeaderData) :
    HeaderLoop.Indexed
      { state with
        bulk := state.bulk ++ [header]
        partCount := state.partCount + 1 } := by
  rw [HeaderLoop.Indexed] at indexed ⊢
  rw [indexed, List.length_append, UInt8.ofNat_add, UInt8.add_assoc]
  rfl

theorem sendPart_followed (indexed : state.Indexed)
    (returned : sendPart transport headerType curRequestId false headers
      state = (.ok, after)) :
    PartSent headerType curRequestId
        ((fullBulksFrom maxBulkSize state.bulk headers).map (false, ·))
        headers state after ∧
      after.bulk = remainderFrom maxBulkSize state.bulk headers ∧
      after.Indexed ∧
      after.bulkPartIdx = state.bulkPartIdx + UInt8.ofNat
        (fullBulksFrom maxBulkSize state.bulk headers).flatten.length := by
  induction headers generalizing state with
  | nil =>
      cases returned
      refine ⟨⟨(List.append_nil _).symm, ?_⟩, rfl, indexed, ?_⟩
      · exact (UInt8.add_zero _).symm
      · exact (UInt8.add_zero _).symm
  | cons header headers induction =>
      rw [sendPart] at returned
      dsimp only at returned
      rw [fullBulksFrom, remainderFrom]
      by_cases below : (state.bulk ++ [header]).length < maxBulkSize
      · rw [if_pos ⟨below, rfl⟩] at returned
        obtain ⟨sent, rest⟩ := induction (indexed.add header) returned
        rw [if_pos below, if_pos below]
        exact ⟨sent.add rfl rfl rfl, rest⟩
      · rw [if_neg (fun both => below both.1)] at returned
        rw [if_neg below, if_neg below]
        rcases result : sendHeaderBulk transport headerType
            (state.bulk ++ [header])
            (if (false && headers.isEmpty) = true then 1 else 0)
            state.bulkPartIdx curRequestId
            { state with
              bulk := state.bulk ++ [header]
              partCount := state.partCount + 1 } with ⟨res, next⟩
        rw [result] at returned
        dsimp only at returned
        split at returned
        · cases returned
        · rename_i succeeded
          rw [not_not.mp succeeded] at result
          obtain ⟨messages, count⟩ := sendHeaderBulk_ok result
          have more : ¬(false && headers.isEmpty) = true :=
            Bool.false_ne_true
          rw [if_neg more] at returned
          have reset : HeaderLoop.Indexed
              { next with bulk := [], bulkPartIdx := next.partCount } :=
            (UInt8.add_zero _).symm
          obtain ⟨sent, bulk, indexedLater, index⟩ :=
            @induction _ reset returned
          have here : next.partCount = state.bulkPartIdx +
              UInt8.ofNat (state.bulk ++ [header]).length :=
            count.trans (indexed.add header)
          refine ⟨sent.cons messages here count, bulk, indexedLater, ?_⟩
          rw [index, List.flatten_cons, List.length_append, UInt8.ofNat_add,
            ← UInt8.add_assoc, ← here]

theorem sendPart_last (filled : headers ≠ []) (indexed : state.Indexed)
    (returned : sendPart transport headerType curRequestId true headers
      state = (.ok, after)) :
    PartSent headerType curRequestId
      (marked (bulksFrom maxBulkSize state.bulk headers)) headers state
      after := by
  induction headers generalizing state with
  | nil => exact absurd rfl filled
  | cons header headers induction =>
      rw [sendPart] at returned
      dsimp only at returned
      by_cases below : (state.bulk ++ [header]).length < maxBulkSize ∧
          (true && headers.isEmpty) = false
      · rw [if_pos below] at returned
        have more := List.isEmpty_eq_false_iff.mp below.2
        rw [bulksFrom_below below.1]
        exact (induction more (indexed.add header) returned).add rfl rfl rfl
      · rw [if_neg below] at returned
        rcases result : sendHeaderBulk transport headerType
            (state.bulk ++ [header])
            (if (true && headers.isEmpty) = true then 1 else 0)
            state.bulkPartIdx curRequestId
            { state with
              bulk := state.bulk ++ [header]
              partCount := state.partCount + 1 } with ⟨res, next⟩
        rw [result] at returned
        dsimp only at returned
        split at returned
        · cases returned
        · rename_i succeeded
          rw [not_not.mp succeeded] at result
          obtain ⟨messages, count⟩ := sendHeaderBulk_ok result
          cases headers with
          | nil =>
              cases returned
              have only : bulksFrom maxBulkSize state.bulk [header] =
                  [state.bulk ++ [header]] := by
                rw [bulksFrom, bulksFrom, bulksFrom, if_pos rfl, if_neg
                  (List.append_ne_nil_of_right_ne_nil _
                    (List.cons_ne_nil _ _)), ite_self]
              rw [only]
              exact ⟨messages, count⟩
          | cons second headers =>
              have full : ¬(state.bulk ++ [header]).length < maxBulkSize :=
                fun small => below ⟨small, rfl⟩
              have reset : HeaderLoop.Indexed
                  { next with bulk := [], bulkPartIdx := next.partCount } :=
                (UInt8.add_zero _).symm
              have later := induction (List.cons_ne_nil _ _) reset returned
              have here : next.partCount = state.bulkPartIdx +
                  UInt8.ofNat (state.bulk ++ [header]).length :=
                count.trans (indexed.add header)
              have some : bulksFrom maxBulkSize [] (second :: headers) ≠ [] :=
                mt bulks_eq_nil_iff.mp (List.cons_ne_nil _ _)
              rw [bulksFrom_full full, marked,
                List.isEmpty_eq_false_iff.mpr some]
              exact later.cons messages here count

/-- The last part of a list has elements. -/
def LastPartFilled (parts : List (List HttpHeaderData)) : Prop :=
  parts.getLast?.getD [] ≠ []

instance (parts : List (List HttpHeaderData)) :
    Decidable (LastPartFilled parts) :=
  inferInstanceAs (Decidable (¬_))

theorem lastPartFilled_cons {part : List HttpHeaderData} (more : parts ≠ []) :
    LastPartFilled (part :: parts) ↔ LastPartFilled parts := by
  obtain ⟨second, rest, rfl⟩ := List.exists_cons_of_ne_nil more
  rw [LastPartFilled, LastPartFilled, List.getLast?_cons_cons]

theorem LastPartFilled.flatten_ne_nil (filled : LastPartFilled parts) :
    parts.flatten ≠ [] := by
  intro empty
  apply filled
  cases last : parts.getLast? with
  | none => rfl
  | some part =>
      exact List.flatten_eq_nil_iff.mp empty part
        (List.mem_of_getLast? last)

/-- The bulks of the parts; without a last element nothing is marked, and an
incomplete bulk is not sent. -/
def partBulks (bulk : List HttpHeaderData)
    (parts : List (List HttpHeaderData)) :
    List (Bool × List HttpHeaderData) :=
  if LastPartFilled parts then
    marked (bulksFrom maxBulkSize bulk parts.flatten)
  else (fullBulksFrom maxBulkSize bulk parts.flatten).map (false, ·)

theorem partBulks_cons (bulk part : List HttpHeaderData) (more : parts ≠ []) :
    partBulks bulk (part :: parts) =
      (fullBulksFrom maxBulkSize bulk part).map (false, ·) ++
        partBulks (remainderFrom maxBulkSize bulk part) parts := by
  rw [partBulks, partBulks, List.flatten_cons]
  by_cases filled : LastPartFilled parts
  · have some : bulksFrom maxBulkSize (remainderFrom maxBulkSize bulk part)
        parts.flatten ≠ [] := by
      intro none
      have items := flatten_bulksFrom maxBulkSize
        (remainderFrom maxBulkSize bulk part) parts.flatten
      rw [none] at items
      exact filled.flatten_ne_nil (List.append_eq_nil_iff.mp items.symm).2
    rw [if_pos ((lastPartFilled_cons more).mpr filled), if_pos filled,
      bulksFrom_append, marked_append _ some]
  · rw [if_neg (mt (lastPartFilled_cons more).mp filled), if_neg filled,
      fullBulksFrom_append, List.map_append]

theorem sendParts_ok (indexed : state.Indexed)
    (returned : sendParts transport headerType curRequestId parts state =
      (.ok, after)) :
    PartSent headerType curRequestId (partBulks state.bulk parts)
      parts.flatten state after := by
  induction parts generalizing state with
  | nil =>
      cases returned
      exact ⟨(List.append_nil _).symm, (UInt8.add_zero _).symm⟩
  | cons part parts induction =>
      rw [sendParts] at returned
      rcases result : sendPart transport headerType curRequestId
          parts.isEmpty part state with ⟨res, next⟩
      rw [result] at returned
      dsimp only at returned
      split at returned
      · cases returned
      rename_i succeeded
      rw [not_not.mp succeeded] at result
      cases parts with
      | nil =>
          cases returned
          rw [List.flatten_singleton]
          by_cases filled : part = []
          · subst filled
            cases result
            exact ⟨(List.append_nil _).symm, (UInt8.add_zero _).symm⟩
          · have sent := sendPart_last filled indexed result
            have last : LastPartFilled [part] := filled
            rw [partBulks, if_pos last, List.flatten_singleton]
            exact sent
      | cons second parts =>
          obtain ⟨sent, bulk, indexedNext, index⟩ :=
            sendPart_followed indexed result
          have rest := induction indexedNext returned
          rw [bulk] at rest
          constructor
          · rw [partBulks_cons _ _ (List.cons_ne_nil _ _), rest.messages,
              sent.messages, List.append_assoc, numberedMessages_append,
              index, List.flatMap_map, List.flatMap_id']
          · have total : (part :: second :: parts).flatten.length =
                part.length + (second :: parts).flatten.length := by
              rw [List.flatten_cons, List.length_append]
            rw [rest.partCount, sent.partCount, total, UInt8.ofNat_add,
              UInt8.add_assoc]

theorem mem_of_mem_partBulks {part : Bool × List HttpHeaderData}
    (inside : part ∈ partBulks [] parts) (member : header ∈ part.2) :
    header ∈ parts.flatten := by
  rw [partBulks] at inside
  split at inside
  · have bulk : part.2 ∈ bulks maxBulkSize parts.flatten := by
      rw [bulks, ← map_snd_marked (bulksFrom maxBulkSize [] parts.flatten)]
      exact List.mem_map_of_mem inside
    rw [← flatten_bulks maxBulkSize parts.flatten]
    exact List.mem_flatten_of_mem bulk member
  · obtain ⟨bulk, full, rfl⟩ := List.mem_map.mp inside
    have whole : (fullBulksFrom maxBulkSize [] parts.flatten).flatten ++
        remainderFrom maxBulkSize [] parts.flatten = parts.flatten :=
      flatten_fullBulksFrom [] parts.flatten
    rw [← whole]
    exact List.mem_append_left _ (List.mem_flatten_of_mem full member)

/-- A successful sender has handed over the bulks of the parts, and the empty
header once more where its counter is back at zero. -/
theorem ngxHttpCpHeaderSender_ok (fits : ∀ header ∈ parts.flatten, header.Fits)
    (returned : ngxHttpCpHeaderSender transport parts headerType
      curRequestId = (.ok, after)) :
    after.messages.map Message.headerPart = partBulks [] parts ++
      if 256 ∣ parts.flatten.length ∧ headerType = .responseHeader then
        [(true, [{ key := [], value := [] }])]
      else [] := by
  rw [ngxHttpCpHeaderSender] at returned
  rcases result : sendParts transport headerType curRequestId parts .start
    with ⟨res, sent⟩
  rw [result] at returned
  dsimp only at returned
  split at returned
  · cases returned
  rename_i succeeded
  rw [not_not.mp succeeded] at result
  have started : HeaderLoop.start.Indexed := rfl
  have bulksSent := sendParts_ok started result
  have counted : sent.partCount = 0 ↔ 256 ∣ parts.flatten.length := by
    rw [bulksSent.partCount, HeaderLoop.start, UInt8.zero_add,
      ← UInt8.toNat_inj, UInt8.toNat_ofNat']
    exact (Nat.dvd_iff_mod_eq_zero).symm
  simp only [counted] at returned
  have bulks : sent.messages.map Message.headerPart = partBulks [] parts := by
    rw [bulksSent.messages, List.map_append]
    exact headerPart_numberedMessages
      (fun part inside header member =>
        fits header (mem_of_mem_partBulks inside member)) _
  split at returned
  · rename_i emptyList
    rw [if_pos emptyList]
    rcases last : sendEmptyHeaderList transport headerType curRequestId sent
      with ⟨res, final⟩
    rw [last] at returned
    dsimp only at returned
    split at returned
    · cases returned
    rename_i delivered
    cases returned
    rw [not_not.mp delivered] at last
    have handedOver : sendHeaderBulk transport headerType _
        (if true then 1 else 0) 0 curRequestId sent = (.ok, after) := last
    have emptyFits : ∀ header ∈ [({ key := [], value := [] } :
        HttpHeaderData)], header.Fits := by
      intro header member
      rw [List.mem_singleton.mp member]
      constructor <;> decide
    rw [(sendHeaderBulk_ok handedOver).1, List.map_append, bulks,
      List.map_singleton, headerPart_headerBulkMessage emptyFits]
  · rename_i filledList
    cases returned
    rw [if_neg filledList, List.append_nil, bulks]

end Loops

end Nginx

theorem CarriesHeaders.flatMap_parts {messages : List Message}
    (carries : CarriesHeaders headers messages) :
    (messages.map Message.headerPart).flatMap Prod.snd = headers := by
  rw [List.flatMap_map]
  exact carries.whole

theorem CarriesHeaders.exists_marked {messages : List Message}
    (carries : CarriesHeaders headers messages) :
    ∃ part ∈ messages.map Message.headerPart, part.1 = true := by
  obtain ⟨before, last, split, isLast, _⟩ := carries.lastMarked
  refine ⟨last.headerPart, List.mem_map_of_mem ?_, isLast⟩
  rw [split]
  exact List.mem_concat_self

namespace Nginx

theorem flatMap_partBulks_of_filled (filled : LastPartFilled parts) :
    (partBulks [] parts).flatMap Prod.snd = parts.flatten := by
  rw [partBulks, if_pos filled, List.flatMap_def, map_snd_marked]
  apply flatten_bulks

theorem partBulks_of_unfilled (unfilled : ¬LastPartFilled parts) :
    partBulks [] parts =
      (fullBulksFrom maxBulkSize [] parts.flatten).map (false, ·) :=
  if_neg unfilled

/-- The last part has elements, and the counter of eight bits does not take
response headers for an empty list. -/
def CountsHeaders (parts : List (List HttpHeaderData))
    (headerType : AttachmentDataType) : Prop :=
  LastPartFilled parts ∧
    ¬(256 ∣ parts.flatten.length ∧ headerType = .responseHeader)

/-- The messages of the nginx sender carry the list precisely when it counts
the headers correctly. -/
theorem carriesHeaders_iff {headerType : AttachmentDataType}
    {messages : List Message}
    (contents : messages.map Message.headerPart = partBulks [] parts ++
      if 256 ∣ parts.flatten.length ∧ headerType = .responseHeader then
        [(true, [{ key := [], value := [] }])]
      else []) :
    CarriesHeaders parts.flatten messages ↔ CountsHeaders parts headerType := by
  constructor
  · intro carries
    have total := congrArg List.length carries.flatMap_parts
    have someMarked := carries.exists_marked
    rw [contents] at total someMarked
    by_cases emptyList :
        256 ∣ parts.flatten.length ∧ headerType = .responseHeader
    · -- the empty header makes the messages longer than the list
      exfalso
      rw [if_pos emptyList, List.flatMap_append, List.length_append] at total
      change _ + 1 = _ at total
      by_cases filled : LastPartFilled parts
      · rw [flatMap_partBulks_of_filled filled] at total
        omega
      · have room : ([] : List HttpHeaderData).length < maxBulkSize := by
          decide
        have tens := length_flatten_fullBulksFrom room parts.flatten
        rw [partBulks_of_unfilled filled, List.flatMap_map,
          List.flatMap_id'] at total
        obtain ⟨blocks, isBlocks⟩ := emptyList.1
        rw [tens, isBlocks, maxBulkSize] at total
        omega
    · refine ⟨?_, emptyList⟩
      -- full bulks are not marked
      by_contra unfilled
      rw [if_neg emptyList, List.append_nil,
        partBulks_of_unfilled unfilled] at someMarked
      obtain ⟨part, member, isMarked⟩ := someMarked
      obtain ⟨bulk, _, rfl⟩ := List.mem_map.mp member
      cases isMarked
  · rintro ⟨filled, counted⟩
    rw [if_neg counted, List.append_nil, partBulks, if_pos filled] at contents
    exact carriesHeaders_of_marked filled.flatten_ne_nil contents

end Nginx

section Agreement

variable {ω : Type*} {env : Nano.Environment ω}
  {transport : Nat → Nginx.SendOutcome}

/-- The messages of both senders carry the list, and their contents agree. -/
structure HeaderListsAgree (headers : List HttpHeaderData)
    (nginx nano : List Message) : Prop where
  nginxCarries : CarriesHeaders headers nginx
  nanoCarries : CarriesHeaders headers nano
  same : nginx.map Message.headerPart = nano.map Message.headerPart

/-- Senders that succeed carry a list and agree on it precisely when its last
part has elements and, for response headers, their number is no multiple of
256. -/
theorem header_lists_agree_iff {parts : List (List HttpHeaderData)}
    (fits : ∀ header ∈ parts.flatten, header.Fits)
    {headerType : AttachmentDataType} {curRequestId : BitVec 32}
    {sent : Nginx.HeaderLoop}
    (nginxSucceeded :
      Nginx.ngxHttpCpHeaderSender transport parts headerType curRequestId =
        (.ok, sent))
    {usageMode : Nano.SignalUsageMode} {state after : Nano.SenderState ω}
    (nanoSucceeded :
      Nano.transmitHeaders env parts.flatten headerType usageMode state =
        (true, after)) :
    HeaderListsAgree parts.flatten (sent.sent.map Nginx.Sending.message)
        (state.messagesSince after) ↔
      Nginx.CountsHeaders parts headerType := by
  have nanoContents := Nano.headerPart_headerMessages fits headerType
    state.sessionData.sessionId
  rw [← Nano.transmitHeaders_messages nanoSucceeded] at nanoContents
  have contents : (sent.sent.map Nginx.Sending.message).map
      Message.headerPart = _ :=
    Nginx.ngxHttpCpHeaderSender_ok fits nginxSucceeded
  constructor
  · intro agree
    exact (Nginx.carriesHeaders_iff contents).mp agree.nginxCarries
  · intro counts
    have carries := (Nginx.carriesHeaders_iff contents).mpr counts
    obtain ⟨filled, counted⟩ := counts
    rw [if_neg counted, List.append_nil, Nginx.partBulks, if_pos filled]
      at contents
    exact ⟨carries,
      carriesHeaders_of_marked filled.flatten_ne_nil nanoContents,
      contents.trans nanoContents.symm⟩

end Agreement

/-- Every message is accepted at once. -/
def Nginx.SendOutcome.accepted : SendOutcome :=
  { result := .ok, errCodes := [0], wasWaiting := false }

/-- For an empty list of response headers the nginx sender hands over an empty
header, and the nano sender nothing. -/
theorem empty_header_lists_disagree :
    let env : Nano.Environment Unit :=
      .accepting (fun _ => true) (fun _ => .ofVerdict .inspect)
    let state : Nano.SenderState Unit := .start ⟨7, .inspect, 0⟩
    ∃ sent after,
      Nginx.ngxHttpCpHeaderSender (fun _ => .accepted) [[]] .responseHeader
          7 = (.ok, sent) ∧
        Nano.transmitHeaders env [] .responseHeader .sync state =
          (true, after) ∧
        ¬HeaderListsAgree [] (sent.sent.map Nginx.Sending.message)
          (state.messagesSince after) := by
  refine ⟨_, _, rfl, rfl, ?_⟩
  intro agree
  have differ := agree.same
  cases differ

theorem header_lists_agree_iff_on_header :
    let env : Nano.Environment Unit :=
      .accepting (fun _ => true) (fun _ => .ofVerdict .inspect)
    let state : Nano.SenderState Unit := .start ⟨7, .inspect, 0⟩
    let parts : List (List HttpHeaderData) :=
      [[], [{ key := [104], value := [49] }]]
    ∃ sent after,
      Nginx.ngxHttpCpHeaderSender (fun _ => .accepted) parts .requestHeader
          7 = (.ok, sent) ∧
        Nano.transmitHeaders env parts.flatten .requestHeader .sync state =
          (true, after) ∧
        (HeaderListsAgree parts.flatten
            (sent.sent.map Nginx.Sending.message)
            (state.messagesSince after) ↔
          Nginx.CountsHeaders parts .requestHeader) := by
  intro env state parts
  have fits : ∀ header ∈ parts.flatten, header.Fits := by
    intro header member
    rw [List.mem_singleton.mp member]
    constructor <;> decide
  have nginxSucceeded : Nginx.ngxHttpCpHeaderSender (fun _ => .accepted)
      parts .requestHeader 7 = (.ok, _) := rfl
  have nanoSucceeded : Nano.transmitHeaders env parts.flatten
      .requestHeader .sync state = (true, _) := rfl
  exact ⟨_, _, nginxSucceeded, nanoSucceeded,
    header_lists_agree_iff fits nginxSucceeded nanoSucceeded⟩

end OpenAppsec
