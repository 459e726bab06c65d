import OpenAppsec.Library.ByteMemory
import OpenAppsec.Library.FixedBuffers

/-!
# Block pages and redirects from the service

A verdict to drop a request comes with a block page or a redirect, in fields
that are packed one after the other.  Each attachment copies them to buffers
of fixed sizes.
-/

namespace OpenAppsec.WebResponses

/-- The packed message. -/
structure HttpWebResponseData where
  bytes : ByteMemory

namespace HttpWebResponseData

def webResponseType (message : HttpWebResponseData) : Nat :=
  (message.bytes 0).toNat

def uuidSize (message : HttpWebResponseData) : Nat :=
  (message.bytes 1).toNat

def responseCode (message : HttpWebResponseData) : Nat :=
  message.bytes.readWord 2

def titleSize (message : HttpWebResponseData) : Nat :=
  (message.bytes 4).toNat

def bodySize (message : HttpWebResponseData) : Nat :=
  (message.bytes 5).toNat

/-- The address of the bytes after the sizes. -/
def data : Nat := 6

def addEventId (message : HttpWebResponseData) : Nat :=
  (message.bytes 3).toNat

def redirectLocationSize (message : HttpWebResponseData) : Nat :=
  message.bytes.readWord 4

/-- The address of the location. -/
def redirectLocation : Nat := 6

def title (message : HttpWebResponseData) : List UInt8 :=
  message.bytes.read data message.titleSize

def body (message : HttpWebResponseData) : List UInt8 :=
  message.bytes.read (data + message.titleSize) message.bodySize

def pageUuid (message : HttpWebResponseData) : List UInt8 :=
  message.bytes.read (data + message.titleSize + message.bodySize)
    message.uuidSize

def location (message : HttpWebResponseData) : List UInt8 :=
  message.bytes.read redirectLocation message.redirectLocationSize

def redirectUuid (message : HttpWebResponseData) : List UInt8 :=
  message.bytes.read (redirectLocation + message.redirectLocationSize)
    message.uuidSize

variable (message : HttpWebResponseData)

@[simp] theorem length_title : message.title.length = message.titleSize :=
  ByteMemory.length_read _ _ _

@[simp] theorem length_body : message.body.length = message.bodySize :=
  ByteMemory.length_read _ _ _

@[simp] theorem length_pageUuid :
    message.pageUuid.length = message.uuidSize :=
  ByteMemory.length_read _ _ _

@[simp] theorem length_location :
    message.location.length = message.redirectLocationSize :=
  ByteMemory.length_read _ _ _

@[simp] theorem length_redirectUuid :
    message.redirectUuid.length = message.uuidSize :=
  ByteMemory.length_read _ _ _

theorem bodySize_le : message.bodySize ≤ 255 :=
  Nat.le_of_lt_succ (UInt8.toNat_lt _)

end HttpWebResponseData

inductive WebResponseType where
  | customWebResponse
  | customWebBlockPageResponse
  | responseCodeOnly
  | redirectWebResponse
  | customResponseWithHeaders
  | noWebResponse
  deriving DecidableEq

/-- The number of a redirect in a message. -/
def redirectWebResponse : Nat := 3

namespace Nano

def uuidCapacity : Nat := 64
def customResponseTitleSize : Nat := 64
def customResponseBodySize : Nat := 128
def redirectResponseLocationSize : Nat := 512

structure CustomResponseData where
  responseCode : Nat
  title : FixedBuffer customResponseTitleSize
  body : FixedBuffer customResponseBodySize

structure RedirectData where
  redirectLocation : FixedBuffer redirectResponseLocationSize

inductive DataBuffer where
  | customResponse (data : CustomResponseData)
  | redirect (data : RedirectData)

structure WebResponseData where
  webResponseType : WebResponseType
  uuid : FixedBuffer uuidCapacity
  data : DataBuffer

/-- `"Incident Id: "` -/
def incidentPrefix : List UInt8 :=
  [73, 110, 99, 105, 100, 101, 110, 116, 32, 73, 100, 58, 32]

/-- What comes of the message: nothing if a copy leaves its buffer, or else
the response that the context is given, if it is given one.  The two
allocations return memory with any bytes, or none. -/
abbrev Handled := Option (Option WebResponseData)

def handleCustomWebResponse (newResponse : Option WebResponseData)
    (newData : Option CustomResponseData) (message : HttpWebResponseData) :
    Handled :=
  if uuidCapacity ≤ message.uuidSize then
    some none
  else if customResponseTitleSize ≤ message.titleSize then
    some none
  else if customResponseBodySize ≤ message.bodySize then
    some none
  else
    match newResponse with
    | none => some none
    | some response =>
      match newData with
      | none => some none
      | some data =>
        if message.titleSize = 0 ∨ message.bodySize = 0 then
          some (some
            { response with
              webResponseType := .responseCodeOnly
              data := .customResponse
                { data with responseCode := message.responseCode } })
        else do
          let title ← data.title.copyAll 0 [message.title, [0]]
          let body ← data.body.copyAll 0 [message.body, [0]]
          let uuid ← response.uuid.copyAll 0
            [incidentPrefix, message.pageUuid, [0]]
          return some
            { webResponseType := .customWebResponse
              uuid := uuid
              data := .customResponse
                { responseCode := message.responseCode
                  title := title
                  body := body } }

def handleRedirectResponse (newResponse : Option WebResponseData)
    (newData : Option RedirectData) (message : HttpWebResponseData) :
    Handled :=
  if uuidCapacity ≤ message.uuidSize then
    some none
  else if redirectResponseLocationSize ≤ message.redirectLocationSize then
    some none
  else
    match newResponse with
    | none => some none
    | some response =>
      match newData with
      | none => some none
      | some data => do
        let location ← data.redirectLocation.copyAll 0
          [message.location, [0]]
        let uuid ← response.uuid.copyAll 0 [message.redirectUuid, [0]]
        return some
          { webResponseType := .redirectWebResponse
            uuid := uuid
            data := .redirect { redirectLocation := location } }

end Nano

namespace Nginx

/-- A string whose address is not always set. -/
structure NgxStr where
  len : Nat
  data : Option Nat

/-- The bytes that a copy of the string reads. -/
def NgxStr.text (message : HttpWebResponseData) (str : NgxStr) :
    Option (List UInt8) :=
  if str.len = 0 then
    some []
  else
    str.data.map fun address => message.bytes.read address str.len

/-- The static data of the responses. -/
structure Responses where
  webTriggersResponseCode : Nat
  webResponseTitleSize : Nat
  webResponseTitle : FixedBuffer 64
  webResponseBodySize : Nat
  webResponseBody : FixedBuffer 256
  webResponseUuidSize : Nat
  webResponseUuid : FixedBuffer 64
  addEventId : Nat
  redirectLocationSize : Nat
  redirectLocation : FixedBuffer 512

/-- A size of the uuid that leaves room for the terminator. -/
def clampUuidSize (size : Nat) : Nat :=
  if 64 ≤ size then 63 else size

def setCustomResponseBlockPage (message : HttpWebResponseData)
    (title body uuid : NgxStr) (responseCode : Nat) (responses : Responses) :
    Option Responses := do
  let uuidText ← uuid.text message
  let uuidBuffer ← responses.webResponseUuid.copyAll 0 [uuidText, [0]]
  let sized : Responses :=
    { responses with
      webTriggersResponseCode := responseCode
      webResponseTitleSize := title.len
      webResponseBodySize := body.len
      webResponseUuidSize := uuid.len
      webResponseUuid := uuidBuffer }
  if title.len = 0 ∨ body.len = 0 then
    return sized
  else
    let titleText ← title.text message
    let titleBuffer ← sized.webResponseTitle.copy 0 titleText
    let bodyText ← body.text message
    let bodyBuffer ← sized.webResponseBody.copy 0 bodyText
    return { sized with
      webResponseTitle := titleBuffer
      webResponseBody := bodyBuffer
      webResponseUuidSize := clampUuidSize sized.webResponseUuidSize }

def setRedirectResponse (message : HttpWebResponseData)
    (location uuid : NgxStr) (addEventIdToHeader : Nat)
    (responses : Responses) : Option Responses := do
  let locationText ← location.text message
  let locationBuffer ← responses.redirectLocation.copy 0 locationText
  let uuidSize := clampUuidSize uuid.len
  let uuidText ← { uuid with len := uuidSize }.text message
  let uuidBuffer ← responses.webResponseUuid.copyAll 0 [uuidText, [0]]
  return { responses with
    webTriggersResponseCode := 307
    addEventId := addEventIdToHeader
    redirectLocationSize := location.len
    redirectLocation := locationBuffer
    webResponseUuidSize := uuidSize
    webResponseUuid := uuidBuffer }

def handleCustomWebResponse (message : HttpWebResponseData)
    (responses : Responses) : Option Responses :=
  if message.webResponseType = redirectWebResponse then
    let location : NgxStr :=
      { len := message.redirectLocationSize
        data :=
          if 0 < message.redirectLocationSize then
            some HttpWebResponseData.redirectLocation
          else
            none }
    let uuid : NgxStr :=
      { len := message.uuidSize
        data := some
          (HttpWebResponseData.redirectLocation + location.len) }
    setRedirectResponse message location uuid message.addEventId responses
  else
    let set := 0 < message.titleSize ∧ 0 < message.bodySize
    let title : NgxStr :=
      { len := message.titleSize
        data := if set then some HttpWebResponseData.data else none }
    let body : NgxStr :=
      { len := message.bodySize
        data :=
          if set then
            some (HttpWebResponseData.data + title.len)
          else
            none }
    let uuid : NgxStr :=
      { len := message.uuidSize
        data := some (HttpWebResponseData.data + title.len + body.len) }
    setCustomResponseBlockPage message title body uuid message.responseCode
      responses

end Nginx

/-- The text is the field, or a prefix of a field that there is no room
for. -/
def Keeps (room : Nat) (field text : List UInt8) : Prop :=
  text = field ∨ room < field.length ∧ text <+: field

/-- The buffer holds the field after some fixed bytes, up to a terminator. -/
def HoldsText {capacity : Nat} (front field : List UInt8)
    (buffer : FixedBuffer capacity) : Prop :=
  ∃ text, buffer.StartsWith (front ++ text ++ [0]) ∧
    Keeps (capacity - 1 - front.length) field text

/-- The buffer holds the field, in as many bytes as the size says. -/
def HoldsSized {capacity : Nat} (room : Nat) (field : List UInt8) (size : Nat)
    (buffer : FixedBuffer capacity) : Prop :=
  ∃ text, buffer.StartsWith text ∧ text.length = size ∧
    Keeps room field text

theorem Keeps.all {room : Nat} {field : List UInt8} : Keeps room field field :=
  .inl rfl

section

variable {capacity : Nat} (buffer : FixedBuffer capacity)

theorem holdsText_of_copyAll {front field : List UInt8}
    {blocks : List (List UInt8)}
    (texts : blocks.flatten = front ++ field ++ [0])
    (fits : front.length + field.length < capacity) :
    ∃ after, buffer.copyAll 0 blocks = some after ∧
      HoldsText front field after := by
  have inside : blocks.flatten.length ≤ capacity := by
    simp only [texts, List.length_append, List.length_cons, List.length_nil]
    omega
  obtain ⟨after, copied, starts⟩ :=
    @FixedBuffer.copyAll_zero capacity buffer _ inside
  rw [texts] at starts
  exact ⟨after, copied, field, starts, .all⟩

theorem holdsText_copy (field : List UInt8) (fits : field.length < capacity) :
    ∃ after, buffer.copyAll 0 [field, [0]] = some after ∧
      HoldsText [] field after :=
  holdsText_of_copyAll buffer (by simp) (by simpa using fits)

end

namespace Nano

/-- No copy leaves its buffer, and a response that is stored is right. -/
def StoresOnly (right : WebResponseData → Prop) (handled : Handled) : Prop :=
  ∃ stored, handled = some stored ∧ ∀ response ∈ stored, right response

/-- If the response is a block page, then it is the message's. -/
def HoldsPage (message : HttpWebResponseData) (response : WebResponseData) :
    Prop :=
  response.webResponseType = .customWebResponse →
    ∃ data, response.data = .customResponse data ∧
      data.responseCode = message.responseCode ∧
      HoldsText [] message.title data.title ∧
      HoldsText [] message.body data.body ∧
      HoldsText incidentPrefix message.pageUuid response.uuid

/-- The response is the message's redirect. -/
def HoldsRedirect (message : HttpWebResponseData)
    (response : WebResponseData) : Prop :=
  response.webResponseType = .redirectWebResponse ∧
    ∃ data, response.data = .redirect data ∧
      HoldsText [] message.location data.redirectLocation ∧
      HoldsText [] message.redirectUuid response.uuid

/-- The sizes of the message let its texts be copied. -/
def CopiesPage (newResponse : Option WebResponseData)
    (newData : Option CustomResponseData) (message : HttpWebResponseData) :
    Prop :=
  newResponse.isSome ∧ newData.isSome ∧ message.uuidSize < uuidCapacity ∧
    0 < message.titleSize ∧ message.titleSize < customResponseTitleSize ∧
    0 < message.bodySize ∧ message.bodySize < customResponseBodySize

variable (newResponse : Option WebResponseData)
variable (newPage : Option CustomResponseData)
variable (newRedirect : Option RedirectData)
variable (message : HttpWebResponseData)

theorem StoresOnly.ignored {right : WebResponseData → Prop} :
    StoresOnly right (some none) :=
  ⟨none, rfl, by simp⟩

theorem StoresOnly.stored {right : WebResponseData → Prop}
    {response : WebResponseData} (holds : right response) :
    StoresOnly right (some (some response)) :=
  ⟨some response, rfl, by simpa using holds⟩

theorem not_storesOnly_none {right : WebResponseData → Prop} :
    ¬StoresOnly right none := by
  simp [StoresOnly]

theorem storesOnly_of_not_copiesPage
    (kept : ¬CopiesPage newResponse newPage message) :
    StoresOnly (HoldsPage message)
      (handleCustomWebResponse newResponse newPage message) := by
  unfold handleCustomWebResponse
  by_cases uuidLong : uuidCapacity ≤ message.uuidSize
  · simp only [if_pos uuidLong, StoresOnly.ignored]
  by_cases titleLong : customResponseTitleSize ≤ message.titleSize
  · simp only [if_neg uuidLong, if_pos titleLong, StoresOnly.ignored]
  by_cases bodyLong : customResponseBodySize ≤ message.bodySize
  · simp only [if_neg uuidLong, if_neg titleLong, if_pos bodyLong,
      StoresOnly.ignored]
  simp only [if_neg uuidLong, if_neg titleLong, if_neg bodyLong]
  rcases newResponse with - | response
  · exact .ignored
  rcases newPage with - | data
  · exact .ignored
  have empty : message.titleSize = 0 ∨ message.bodySize = 0 := by
    by_contra nonempty
    simp only [not_or] at nonempty
    apply kept
    refine ⟨rfl, rfl, ?_⟩
    omega
  simp only [if_pos empty]
  apply StoresOnly.stored
  simp [HoldsPage]

theorem handleCustomWebResponse_of_copiesPage {response : WebResponseData}
    {data : CustomResponseData}
    (copies : CopiesPage (some response) (some data) message) :
    handleCustomWebResponse (some response) (some data) message = (do
      let title ← data.title.copyAll 0 [message.title, [0]]
      let body ← data.body.copyAll 0 [message.body, [0]]
      let uuid ← response.uuid.copyAll 0
        [incidentPrefix, message.pageUuid, [0]]
      return some
        { webResponseType := .customWebResponse
          uuid := uuid
          data := .customResponse
            { responseCode := message.responseCode
              title := title
              body := body } }) := by
  obtain ⟨_, _, uuidFits, titlePositive, titleFits, bodyPositive, bodyFits⟩ :=
    copies
  have nonempty : ¬(message.titleSize = 0 ∨ message.bodySize = 0) := by omega
  simp only [handleCustomWebResponse, if_neg (Nat.not_le_of_lt uuidFits),
    if_neg (Nat.not_le_of_lt titleFits), if_neg (Nat.not_le_of_lt bodyFits),
    if_neg nonempty]

/-- The uuid of a page needs thirteen bytes more than those that are
checked. -/
theorem storesOnly_page_iff :
    StoresOnly (HoldsPage message)
        (handleCustomWebResponse newResponse newPage message) ↔
      (CopiesPage newResponse newPage message → message.uuidSize ≤ 50) := by
  by_cases copies : CopiesPage newResponse newPage message
  swap
  · exact iff_of_true
      (storesOnly_of_not_copiesPage newResponse newPage message copies)
      (fun copied => absurd copied copies)
  obtain ⟨response, rfl⟩ := Option.isSome_iff_exists.mp copies.1
  obtain ⟨data, rfl⟩ := Option.isSome_iff_exists.mp copies.2.1
  have titleFits := copies.2.2.2.2.1
  have bodyFits := copies.2.2.2.2.2.2
  obtain ⟨title, titleCopied, titleHeld⟩ :=
    holdsText_copy data.title message.title (by simpa using titleFits)
  obtain ⟨body, bodyCopied, bodyHeld⟩ :=
    holdsText_copy data.body message.body (by simpa using bodyFits)
  rw [handleCustomWebResponse_of_copiesPage message copies, titleCopied,
    bodyCopied]
  constructor
  · intro stores _
    by_contra long
    have overruns : response.uuid.copyAll 0
        [incidentPrefix, message.pageUuid, [0]] = none := by
      apply FixedBuffer.copyAll_eq_none (Nat.zero_le _)
      simp [incidentPrefix, uuidCapacity]
      omega
    apply @not_storesOnly_none (HoldsPage message)
    simpa [overruns] using stores
  · intro short
    have uuidShort := short copies
    obtain ⟨uuid, uuidCopied, uuidHeld⟩ :=
      @holdsText_of_copyAll _ response.uuid incidentPrefix message.pageUuid
        [incidentPrefix, message.pageUuid, [0]] (by simp)
        (by simp [incidentPrefix, uuidCapacity]; omega)
    simp only [uuidCopied]
    apply StoresOnly.stored
    intro _
    exact ⟨_, rfl, rfl, titleHeld, bodyHeld, uuidHeld⟩

theorem storesOnly_redirect :
    StoresOnly (HoldsRedirect message)
      (handleRedirectResponse newResponse newRedirect message) := by
  unfold handleRedirectResponse
  by_cases uuidLong : uuidCapacity ≤ message.uuidSize
  · simp only [if_pos uuidLong, StoresOnly.ignored]
  by_cases locationLong :
      redirectResponseLocationSize ≤ message.redirectLocationSize
  · simp only [if_neg uuidLong, if_pos locationLong, StoresOnly.ignored]
  simp only [if_neg uuidLong, if_neg locationLong]
  rcases newResponse with - | response
  · exact .ignored
  rcases newRedirect with - | data
  · exact .ignored
  obtain ⟨location, locationCopied, locationHeld⟩ :=
    holdsText_copy data.redirectLocation message.location
      (by simpa using locationLong)
  obtain ⟨uuid, uuidCopied, uuidHeld⟩ :=
    holdsText_copy response.uuid message.redirectUuid (by simpa using uuidLong)
  simp only [locationCopied, uuidCopied]
  apply StoresOnly.stored
  exact ⟨rfl, _, rfl, locationHeld, uuidHeld⟩

end Nano

namespace Nginx

/-- No copy leaves its buffer, and a redirect or a page is the message's. -/
def Stores (message : HttpWebResponseData) (handled : Option Responses) :
    Prop :=
  ∃ after, handled = some after ∧
    if message.webResponseType = redirectWebResponse then
      HoldsSized 512 message.location after.redirectLocationSize
          after.redirectLocation ∧
        HoldsSized 63 message.redirectUuid after.webResponseUuidSize
          after.webResponseUuid
    else
      after.webResponseTitleSize ≠ 0 → after.webResponseBodySize ≠ 0 →
        after.webTriggersResponseCode = message.responseCode ∧
        HoldsSized 64 message.title after.webResponseTitleSize
          after.webResponseTitle ∧
        HoldsSized 256 message.body after.webResponseBodySize
          after.webResponseBody ∧
        HoldsSized 63 message.pageUuid after.webResponseUuidSize
          after.webResponseUuid

/-- The texts that are copied fit into their buffers. -/
def Fits (message : HttpWebResponseData) : Prop :=
  if message.webResponseType = redirectWebResponse then
    message.redirectLocationSize ≤ 512
  else
    message.uuidSize ≤ 63 ∧
      (message.titleSize = 0 ∨ message.bodySize = 0 ∨
        message.titleSize ≤ 64)

variable (message : HttpWebResponseData) (responses : Responses)

theorem NgxStr.text_eq {str : NgxStr} {address : Nat}
    (given : 0 < str.len → str.data = some address) :
    str.text message = some (message.bytes.read address str.len) := by
  by_cases empty : str.len = 0
  · simp [NgxStr.text, empty, ByteMemory.read]
  · simp [NgxStr.text, empty, given (Nat.pos_of_ne_zero empty)]

theorem clampUuidSize_le (size : Nat) : clampUuidSize size ≤ 63 := by
  rw [clampUuidSize]
  split_ifs <;> omega

theorem keeps_clamped (address size : Nat) :
    Keeps 63 (message.bytes.read address size)
      (message.bytes.read address (clampUuidSize size)) := by
  by_cases long : 64 ≤ size
  · right
    have split : size = 63 + (size - 63) := by omega
    rw [clampUuidSize, if_pos long, ByteMemory.length_read]
    refine ⟨by omega, ?_⟩
    rw [split, ByteMemory.read_add]
    exact List.prefix_append _ _
  · simp [clampUuidSize, if_neg long, Keeps.all]

theorem clampUuidSize_of_lt {size : Nat} (fits : size ≤ 63) :
    clampUuidSize size = size := by
  have short : ¬64 ≤ size := by omega
  rw [clampUuidSize, if_neg short]

/-- A redirect is stored just when its location fits. -/
theorem stores_redirect_iff
    (redirects : message.webResponseType = redirectWebResponse) :
    Stores message (handleCustomWebResponse message responses) ↔
      message.redirectLocationSize ≤ 512 := by
  set size := message.redirectLocationSize with sizeEq
  have locationText := @NgxStr.text_eq message
    { len := size
      data := if 0 < size then
        some HttpWebResponseData.redirectLocation else none }
    HttpWebResponseData.redirectLocation (fun positive => if_pos positive)
  have uuidText := @NgxStr.text_eq message
    { len := clampUuidSize message.uuidSize
      data := some (HttpWebResponseData.redirectLocation + size) }
    _ (fun _ => rfl)
  simp only [handleCustomWebResponse, if_pos redirects, setRedirectResponse,
    ← sizeEq, locationText, uuidText, Option.bind_eq_bind, Option.bind_some]
  by_cases fits : size ≤ 512
  · refine iff_of_true ?_ fits
    obtain ⟨location, locationCopied, locationStarts⟩ :=
      @FixedBuffer.copy_zero _ responses.redirectLocation
        (message.bytes.read HttpWebResponseData.redirectLocation size)
        (by simpa using fits)
    have clamped := clampUuidSize_le message.uuidSize
    obtain ⟨uuid, uuidCopied, uuidStarts⟩ :=
      @FixedBuffer.copyAll_zero _ responses.webResponseUuid
        [message.bytes.read
          (HttpWebResponseData.redirectLocation + size)
          (clampUuidSize message.uuidSize), [0]]
        (by simp; omega)
    simp only [locationCopied, uuidCopied, Option.bind_some]
    refine ⟨_, rfl, ?_⟩
    rw [if_pos redirects]
    constructor
    · exact ⟨_, locationStarts, by simp, .all⟩
    · refine ⟨_, uuidStarts.of_append, by simp, ?_⟩
      exact keeps_clamped message _ _
  · refine iff_of_false ?_ fits
    have overruns : responses.redirectLocation.copy 0
        (message.bytes.read HttpWebResponseData.redirectLocation size) =
          none := by
      rw [FixedBuffer.copy_eq_none_iff]
      simp
      omega
    simp [overruns, Stores]

theorem handleCustomWebResponse_page
    (page : message.webResponseType ≠ redirectWebResponse) :
    handleCustomWebResponse message responses = (do
      let uuid ← responses.webResponseUuid.copyAll 0 [message.pageUuid, [0]]
      let sized : Responses :=
        { responses with
          webTriggersResponseCode := message.responseCode
          webResponseTitleSize := message.titleSize
          webResponseBodySize := message.bodySize
          webResponseUuidSize := message.uuidSize
          webResponseUuid := uuid }
      if message.titleSize = 0 ∨ message.bodySize = 0 then
        return sized
      else
        let title ← sized.webResponseTitle.copy 0 message.title
        let body ← sized.webResponseBody.copy 0 message.body
        return { sized with
          webResponseTitle := title
          webResponseBody := body
          webResponseUuidSize := clampUuidSize message.uuidSize }) := by
  have uuidText := @NgxStr.text_eq message
    { len := message.uuidSize
      data := some (HttpWebResponseData.data + message.titleSize +
        message.bodySize) }
    _ (fun _ => rfl)
  simp only [handleCustomWebResponse, if_neg page, setCustomResponseBlockPage,
    uuidText, Option.bind_eq_bind, Option.bind_some]
  by_cases empty : message.titleSize = 0 ∨ message.bodySize = 0
  · simp only [if_pos empty]
    rfl
  · have set : 0 < message.titleSize ∧ 0 < message.bodySize := by omega
    have titleText := @NgxStr.text_eq message
      { len := message.titleSize, data := some HttpWebResponseData.data }
      _ (fun _ => rfl)
    have bodyText := @NgxStr.text_eq message
      { len := message.bodySize
        data := some (HttpWebResponseData.data + message.titleSize) }
      _ (fun _ => rfl)
    simp only [if_neg empty, if_pos set, titleText, bodyText, Option.bind_some]
    rfl

/-- A page is stored just when its uuid fits with the terminator and its
title, if it is copied, fits too. -/
theorem stores_page_iff
    (page : message.webResponseType ≠ redirectWebResponse) :
    Stores message (handleCustomWebResponse message responses) ↔
      message.uuidSize ≤ 63 ∧
        (message.titleSize = 0 ∨ message.bodySize = 0 ∨
          message.titleSize ≤ 64) := by
  rw [handleCustomWebResponse_page message responses page]
  by_cases uuidFits : message.uuidSize ≤ 63
  swap
  · have overruns : responses.webResponseUuid.copyAll 0
        [message.pageUuid, [0]] = none := by
      apply FixedBuffer.copyAll_eq_none (Nat.zero_le _)
      simp
      omega
    refine iff_of_false ?_ (fun fits => uuidFits fits.1)
    simp [overruns, Stores]
  obtain ⟨uuid, uuidCopied, uuidStarts⟩ :=
    @FixedBuffer.copyAll_zero _ responses.webResponseUuid
      [message.pageUuid, [0]] (by simp; omega)
  simp only [uuidCopied, Option.bind_eq_bind, Option.bind_some]
  by_cases empty : message.titleSize = 0 ∨ message.bodySize = 0
  · refine iff_of_true ?_ ⟨uuidFits, by omega⟩
    rw [if_pos empty]
    refine ⟨_, rfl, ?_⟩
    rw [if_neg page]
    intro titleNonempty bodyNonempty
    exact absurd empty (not_or.mpr ⟨titleNonempty, bodyNonempty⟩)
  rw [if_neg empty]
  by_cases titleFits : message.titleSize ≤ 64
  swap
  · have overruns : responses.webResponseTitle.copy 0 message.title = none := by
      rw [FixedBuffer.copy_eq_none_iff]
      simp
      omega
    refine iff_of_false ?_ (by omega)
    simp [overruns, Stores]
  refine iff_of_true ?_ ⟨uuidFits, by omega⟩
  obtain ⟨title, titleCopied, titleStarts⟩ :=
    @FixedBuffer.copy_zero _ responses.webResponseTitle
      message.title (by simpa using titleFits)
  have bodyFits := message.bodySize_le
  obtain ⟨body, bodyCopied, bodyStarts⟩ :=
    @FixedBuffer.copy_zero _ responses.webResponseBody
      message.body (by simp; omega)
  simp only [titleCopied, bodyCopied, Option.bind_some]
  refine ⟨_, rfl, ?_⟩
  rw [if_neg page]
  intro _ _
  refine ⟨rfl, ?_, ?_, ?_⟩
  · exact ⟨_, titleStarts, by simp, .all⟩
  · exact ⟨_, bodyStarts, by simp, .all⟩
  · refine ⟨_, uuidStarts.of_append, ?_, .all⟩
    simp [clampUuidSize_of_lt uuidFits]

theorem stores_iff :
    Stores message (handleCustomWebResponse message responses) ↔
      Fits message := by
  by_cases redirects : message.webResponseType = redirectWebResponse
  · rw [Fits, if_pos redirects]
    exact stores_redirect_iff message responses redirects
  · rw [Fits, if_neg redirects]
    exact stores_page_iff message responses redirects

end Nginx

/-- Each attachment keeps a message within its buffers just when the texts
that it copies fit: the nano attachment checks a page's uuid without its
prefix, and the nginx module checks neither a page's uuid nor its title, nor
the location of a redirect. -/
theorem web_responses_stored_iff (newResponse : Option Nano.WebResponseData)
    (newPage : Option Nano.CustomResponseData)
    (newRedirect : Option Nano.RedirectData) (responses : Nginx.Responses)
    (message : HttpWebResponseData) :
    (Nano.StoresOnly (Nano.HoldsPage message)
        (Nano.handleCustomWebResponse newResponse newPage message) ↔
      (Nano.CopiesPage newResponse newPage message →
        message.uuidSize ≤ 50)) ∧
    Nano.StoresOnly (Nano.HoldsRedirect message)
        (Nano.handleRedirectResponse newResponse newRedirect message) ∧
    (Nginx.Stores message
        (Nginx.handleCustomWebResponse message responses) ↔
      Nginx.Fits message) :=
  ⟨Nano.storesOnly_page_iff newResponse newPage message,
    Nano.storesOnly_redirect newResponse newRedirect message,
    Nginx.stores_iff message responses⟩

/-- A page with a uuid of sixty bytes, and a title and a body of one byte. -/
def longUuidPage : HttpWebResponseData where
  bytes := fun address =>
    if address = 1 then 60 else if address = 4 ∨ address = 5 then 1 else 0

/-- A page with a title of sixty-five bytes, and a uuid and a body of one. -/
def longTitlePage : HttpWebResponseData where
  bytes := fun address =>
    if address = 4 then 65 else if address = 1 ∨ address = 5 then 1 else 0

/-- New memory of zeros. -/
def newZeros : Nano.CustomResponseData where
  responseCode := 0
  title := .zeroed _
  body := .zeroed _

/-- The static data at the start of the worker. -/
def initialResponses : Nginx.Responses where
  webTriggersResponseCode := 403
  webResponseTitleSize := 0
  webResponseTitle := .zeroed _
  webResponseBodySize := 0
  webResponseBody := .zeroed _
  webResponseUuidSize := 0
  webResponseUuid := .zeroed _
  addEventId := 0
  redirectLocationSize := 0
  redirectLocation := .zeroed _

/-- The nano attachment writes past the uuid's buffer, and the nginx module
past the title's. -/
theorem web_response_overruns :
    ¬Nano.StoresOnly (Nano.HoldsPage longUuidPage)
        (Nano.handleCustomWebResponse
          (some
            { webResponseType := .customWebResponse
              uuid := .zeroed _
              data := .customResponse newZeros })
          (some newZeros) longUuidPage) ∧
      ¬Nginx.Stores longTitlePage
        (Nginx.handleCustomWebResponse longTitlePage initialResponses) := by
  rw [Nano.storesOnly_page_iff, Nginx.stores_iff]
  have sizes : longUuidPage.uuidSize = 60 ∧ longUuidPage.titleSize = 1 ∧
      longUuidPage.bodySize = 1 := by
    decide
  obtain ⟨uuidSize, titleSize, bodySize⟩ := sizes
  constructor
  · intro short
    have uuidShort := short (by
      simp [Nano.CopiesPage, uuidSize, titleSize, bodySize, Nano.uuidCapacity,
        Nano.customResponseTitleSize, Nano.customResponseBodySize])
    omega
  · simp [Nginx.Fits, longTitlePage, redirectWebResponse,
      HttpWebResponseData.webResponseType, HttpWebResponseData.uuidSize,
      HttpWebResponseData.titleSize, HttpWebResponseData.bodySize]

end OpenAppsec.WebResponses
