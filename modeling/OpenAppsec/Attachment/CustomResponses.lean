import OpenAppsec.Attachment.Senders
import OpenAppsec.Library.ByteMemory
import OpenAppsec.Library.LengthPrefixed

/-!
# Custom responses with headers

A custom response is packed: a code, sizes, the headers one behind the other,
and the body.  The nano attachment decodes it into memory of its own, and the
nginx module into static data that still holds the response before it.
-/

namespace OpenAppsec.CustomResponses

open LengthPrefixed

/-- A header whose sizes fit in sixteen bits. -/
structure Header where
  key : List UInt8
  value : List UInt8
  keyFits : key.length < 65536
  valueFits : value.length < 65536

structure Response where
  responseCode : BitVec 16
  headers : List Header
  body : List UInt8
  headersFit : headers.length < 256
  bodyFits : body.length < 65536

/-- `HttpHeaderPackedData` -/
def Header.packed (header : Header) : List UInt8 :=
  littleEndian 2 header.key.length ++
    (littleEndian 2 header.value.length ++ (header.key ++ header.value))

/-- `HttpCustomResponseData` -/
def Response.packed (response : Response) : List UInt8 :=
  littleEndian 2 response.responseCode.toNat ++
    (littleEndian 2 response.body.length ++
      ([UInt8.ofNat response.headers.length] ++
        (response.headers.flatMap Header.packed ++ response.body)))

/-- `sizeof(HttpHeaderPackedData)` -/
def headerDataSize : Nat := 4

section Fields

variable (memory : ByteMemory) (customResponseData : Nat)

def responseCode : Nat := memory.readWord customResponseData
def bodySize : Nat := memory.readWord (customResponseData + 2)
def headersCount : Nat := (memory (customResponseData + 4)).toNat

/-- The address of the headers. -/
def data : Nat := customResponseData + 5

end Fields

section HeaderFields

variable (memory : ByteMemory) (headerData : Nat)

def keySize : Nat := memory.readWord headerData
def valueSize : Nat := memory.readWord (headerData + 2)

end HeaderFields

/-- A header with the sizes that are stored for it. -/
structure DecodedHeader where
  keySize : Nat
  key : List UInt8
  valueSize : Nat
  value : List UInt8
  deriving DecidableEq

structure Decoded where
  responseCode : Nat
  headers : List DecodedHeader
  bodySize : Nat
  body : List UInt8
  deriving DecidableEq

def Header.decoded (header : Header) : DecodedHeader where
  keySize := header.key.length
  key := header.key
  valueSize := header.value.length
  value := header.value

def Response.decoded (response : Response) : Decoded where
  responseCode := response.responseCode.toNat
  headers := response.headers.map Header.decoded
  bodySize := response.body.length
  body := response.body

/-- The allocations of a call that succeed, by their order. -/
abbrev Allocations := Nat → Bool

namespace Nano

/-- A header with the blocks of its texts. -/
structure CustomResponseHeaderData where
  keySize : Nat
  valueSize : Nat
  key : List UInt8
  value : List UInt8

/-- The headers and the body are blocks too, or null. -/
structure CustomResponseWithHeaders where
  responseCode : Nat
  bodySize : Nat
  headersCount : Nat
  headers : Option (List CustomResponseHeaderData)
  body : Option (List UInt8)

variable (malloc : Allocations) (memory : ByteMemory)

/-- The rest of the headers, from one with an index and an address, and the
address after them, unless an allocation fails. -/
def parseHeaders (i dataPtr : Nat) :
    Nat → Option (List CustomResponseHeaderData × Nat)
  | 0 => some ([], dataPtr)
  | left + 1 =>
      let keySize := keySize memory dataPtr
      let valueSize := valueSize memory dataPtr
      if malloc (3 + 2 * i) = false then
        none
      else
        let keyPtr := dataPtr + headerDataSize
        let valuePtr := keyPtr + keySize
        if malloc (4 + 2 * i) = false then
          none
        else do
          let header : CustomResponseHeaderData :=
            { keySize := keySize
              valueSize := valueSize
              key := memory.read keyPtr keySize ++ [0]
              value := memory.read valuePtr valueSize ++ [0] }
          let (headers, afterHeaders) ←
            parseHeaders (i + 1) (valuePtr + valueSize) left
          return (header :: headers, afterHeaders)

/-- The response that the context is given, unless an allocation fails. -/
def handleCustomResponseWithHeaders (customResponseData : Nat) :
    Option CustomResponseWithHeaders :=
  let dataPtr := data customResponseData
  let bodySize := bodySize memory customResponseData
  let headersCount := headersCount memory customResponseData
  if malloc 0 = false then
    none
  else if malloc 1 = false then
    none
  else do
    let (headers, bodyPtr) ←
      if 0 < headersCount then
        if malloc 2 = false then
          none
        else
          (parseHeaders malloc memory 0 dataPtr headersCount).map
            fun (headers, bodyPtr) => (some headers, bodyPtr)
      else
        some (none, dataPtr)
    let body ←
      if 0 < bodySize then
        if malloc (3 + 2 * headersCount) = false then
          none
        else
          some (some (memory.read bodyPtr bodySize ++ [0]))
      else
        some none
    return {
      responseCode := responseCode memory customResponseData
      bodySize := bodySize
      headersCount := headersCount
      headers := headers
      body := body }

def CustomResponseHeaderData.decoded (header : CustomResponseHeaderData) :
    DecodedHeader where
  keySize := header.keySize
  key := header.key.take header.keySize
  valueSize := header.valueSize
  value := header.value.take header.valueSize

def CustomResponseWithHeaders.decoded (response : CustomResponseWithHeaders) :
    Decoded where
  responseCode := response.responseCode
  headers := ((response.headers.getD []).take response.headersCount).map
    CustomResponseHeaderData.decoded
  bodySize := response.bodySize
  body := (response.body.getD []).take response.bodySize

end Nano

namespace Nginx

/-- A string with its block, or with none. -/
structure NgxStr where
  len : Nat
  data : Option (List UInt8)
  deriving DecidableEq

/-- A node of the list of headers. -/
structure CustomResponseHeader where
  key : NgxStr
  value : NgxStr
  deriving DecidableEq

/-- The static data of the response. -/
structure Stored where
  customResponseCode : Nat
  customResponseHeaders : List CustomResponseHeader
  customResponseBody : NgxStr
  deriving DecidableEq

def freeCustomResponseHeaders (stored : Stored) : Stored :=
  { stored with customResponseHeaders := [] }

/-- Store a response in the memory pool, if there is one. -/
def setCustomResponse (memoryPool : Bool) (allocated : Bool)
    (body : List UInt8) (responseCode : Nat)
    (headers : List CustomResponseHeader) (stored : Stored) : Stored :=
  let stored := { stored with customResponseCode := responseCode }
  let stored := freeCustomResponseHeaders stored
  let stored := { stored with customResponseHeaders := headers }
  let stored :=
    if stored.customResponseBody.data.isSome ∧ memoryPool = true then
      { stored with customResponseBody := { len := 0, data := none } }
    else
      stored
  if memoryPool = true ∧ 0 < body.length then
    { stored with
      customResponseBody :=
        { len := body.length
          data := if allocated then some (body ++ [0]) else none } }
  else
    stored

variable (pcalloc : Allocations) (memory : ByteMemory)

/-- The rest of the headers, linked behind those before them, and the address
after them, unless an allocation fails. -/
def parseHeaders (headersList : List CustomResponseHeader) (i dataPtr : Nat) :
    Nat → Option (List CustomResponseHeader × Nat)
  | 0 => some (headersList, dataPtr)
  | left + 1 =>
      let keySize := keySize memory dataPtr
      let valueSize := valueSize memory dataPtr
      if pcalloc (3 * i) = false then
        none
      else if pcalloc (3 * i + 1) = false then
        none
      else if pcalloc (3 * i + 2) = false then
        none
      else
        let dataStart := dataPtr + headerDataSize
        let currentHeader : CustomResponseHeader :=
          { key :=
              { len := keySize
                data := some (memory.read dataStart keySize ++ [0]) }
            value :=
              { len := valueSize
                data := some
                  (memory.read (dataStart + keySize) valueSize ++ [0]) } }
        parseHeaders (headersList ++ [currentHeader]) (i + 1)
          (dataPtr + (headerDataSize + keySize + valueSize)) left

def handleCustomResponse (memoryPool : Bool) (customResponseData : Nat)
    (stored : Stored) : OpenAppsec.Nginx.NgxResult × Stored :=
  if memoryPool = false then
    (.error, stored)
  else
    let headersCount := headersCount memory customResponseData
    match parseHeaders pcalloc memory [] 0 (data customResponseData)
        headersCount with
    | none => (.error, freeCustomResponseHeaders stored)
    | some (headersList, bodyPtr) =>
        let body :=
          memory.read bodyPtr (bodySize memory customResponseData)
        (.ok, setCustomResponse memoryPool (pcalloc (3 * headersCount)) body
          (responseCode memory customResponseData) headersList stored)

def CustomResponseHeader.decoded (header : CustomResponseHeader) :
    DecodedHeader where
  keySize := header.key.len
  key := (header.key.data.getD []).take header.key.len
  valueSize := header.value.len
  value := (header.value.data.getD []).take header.value.len

def Stored.decoded (stored : Stored) : Decoded where
  responseCode := stored.customResponseCode
  headers := stored.customResponseHeaders.map CustomResponseHeader.decoded
  bodySize := stored.customResponseBody.len
  body := (stored.customResponseBody.data.getD []).take
    stored.customResponseBody.len

end Nginx

theorem readWord_of_holds {memory : ByteMemory} {address value : Nat}
    (small : value < 65536)
    (held : memory.Holds address (littleEndian 2 value)) :
    memory.readWord address = value := by
  have bytes : memory.read address 2 = littleEndian 2 value := by
    simpa [ByteMemory.Holds] using held
  simp only [ByteMemory.read, littleEndian, List.range_succ, List.range_zero,
    List.nil_append, List.cons_append, List.map_cons, List.map_nil,
    List.cons.injEq, Nat.add_zero] at bytes
  rw [ByteMemory.readWord, bytes.1, bytes.2.1, UInt8.toNat_ofNat',
    UInt8.toNat_ofNat']
  omega

/-- The fields of a packed header at an address. -/
structure Header.At (header : Header) (memory : ByteMemory)
    (headerData : Nat) : Prop where
  keySize : CustomResponses.keySize memory headerData = header.key.length
  valueSize : CustomResponses.valueSize memory headerData = header.value.length
  key : memory.read (headerData + headerDataSize) header.key.length =
    header.key
  value : memory.read (headerData + headerDataSize + header.key.length)
    header.value.length = header.value

theorem Header.at_of_holds {header : Header} {memory : ByteMemory}
    {headerData : Nat} (held : memory.Holds headerData header.packed) :
    header.At memory headerData := by
  obtain ⟨keySize, rest⟩ := ByteMemory.holds_append_iff.mp held
  obtain ⟨valueSize, rest⟩ := ByteMemory.holds_append_iff.mp rest
  obtain ⟨key, value⟩ := ByteMemory.holds_append_iff.mp rest
  simp only [length_littleEndian, Nat.add_assoc] at valueSize key value
  refine ⟨readWord_of_holds header.keyFits keySize,
    readWord_of_holds header.valueFits valueSize, key, ?_⟩
  rw [Nat.add_assoc, headerDataSize]
  simpa [ByteMemory.Holds, ← Nat.add_assoc] using value

theorem Header.length_packed (header : Header) :
    header.packed.length =
      headerDataSize + header.key.length + header.value.length := by
  simp only [Header.packed, List.length_append, length_littleEndian,
    headerDataSize]
  omega

/-- The fields of a packed response at an address. -/
structure Response.At (response : Response) (memory : ByteMemory)
    (customResponseData : Nat) : Prop where
  responseCode : CustomResponses.responseCode memory customResponseData =
    response.responseCode.toNat
  bodySize : CustomResponses.bodySize memory customResponseData =
    response.body.length
  headersCount : CustomResponses.headersCount memory customResponseData =
    response.headers.length
  headers : memory.Holds (data customResponseData)
    (response.headers.flatMap Header.packed)
  body : memory.read (data customResponseData +
    (response.headers.flatMap Header.packed).length) response.body.length =
      response.body

theorem Response.at_of_holds {response : Response} {memory : ByteMemory}
    {customResponseData : Nat}
    (held : memory.Holds customResponseData response.packed) :
    response.At memory customResponseData := by
  obtain ⟨code, rest⟩ := ByteMemory.holds_append_iff.mp held
  obtain ⟨bodySize, rest⟩ := ByteMemory.holds_append_iff.mp rest
  obtain ⟨count, rest⟩ := ByteMemory.holds_append_iff.mp rest
  obtain ⟨headers, body⟩ := ByteMemory.holds_append_iff.mp rest
  simp only [length_littleEndian, List.length_singleton, Nat.add_assoc]
    at bodySize count headers body
  refine ⟨readWord_of_holds response.responseCode.isLt code,
    readWord_of_holds response.bodyFits bodySize, ?_, headers, ?_⟩
  · have counted := count.apply_zero
    rw [CustomResponses.headersCount, show customResponseData + 4 =
      customResponseData + (2 + 2) from rfl, counted, UInt8.toNat_ofNat']
    exact Nat.mod_eq_of_lt response.headersFit
  · rw [ByteMemory.Holds] at body
    rw [data, Nat.add_assoc]
    rw [← Nat.add_assoc 2 1, ← Nat.add_assoc 2 3] at body
    exact body

/-- All allocations of a call. -/
def allSucceed : Allocations := fun _ => true

namespace Nano

/-- What is decoded of a header. -/
def headerOf (header : Header) : CustomResponseHeaderData where
  keySize := header.key.length
  valueSize := header.value.length
  key := header.key ++ [0]
  value := header.value ++ [0]

theorem decoded_headerOf (header : Header) :
    (headerOf header).decoded = header.decoded := by
  simp [headerOf, CustomResponseHeaderData.decoded, Header.decoded]

theorem parseHeaders_of_holds {memory : ByteMemory} {dataPtr i : Nat}
    {headers : List Header}
    (held : memory.Holds dataPtr (headers.flatMap Header.packed)) :
    parseHeaders allSucceed memory i dataPtr headers.length =
      some (headers.map headerOf,
        dataPtr + (headers.flatMap Header.packed).length) := by
  induction headers generalizing dataPtr i with
  | nil => rfl
  | cons header headers induction =>
      rw [List.flatMap_cons] at held
      obtain ⟨first, rest⟩ := ByteMemory.holds_append_iff.mp held
      have fields := Header.at_of_holds first
      rw [header.length_packed, ← Nat.add_assoc, ← Nat.add_assoc] at rest
      have later := induction (i := i + 1) rest
      rw [List.length_cons, parseHeaders]
      simp only [fields.keySize, fields.valueSize, fields.key, fields.value,
        allSucceed, later]
      simp [headerOf, header.length_packed, Nat.add_assoc]

theorem decoded_of_at {response : Response} {memory : ByteMemory}
    {customResponseData : Nat}
    (fields : response.At memory customResponseData) :
    ∃ decoded, handleCustomResponseWithHeaders allSucceed memory
        customResponseData = some decoded ∧
      decoded.decoded = response.decoded := by
  have parsed := parseHeaders_of_holds (i := 0) fields.headers
  have block : memory.read (data customResponseData +
      (response.headers.map fun header => header.packed.length).sum)
        response.body.length = response.body := by
    rw [← List.length_flatMap]
    exact fields.body
  refine ⟨
    { responseCode := response.responseCode.toNat
      bodySize := response.body.length
      headersCount := response.headers.length
      headers :=
        if 0 < response.headers.length then
          some (response.headers.map headerOf)
        else
          none
      body :=
        if 0 < response.body.length then some (response.body ++ [0])
        else none }, ?_, ?_⟩
  · simp only [handleCustomResponseWithHeaders, fields.responseCode,
      fields.bodySize, fields.headersCount, allSucceed, parsed]
    by_cases someHeaders : 0 < response.headers.length
    · by_cases someBody : 0 < response.body.length
      · simp [someHeaders, someBody, block]
      · simp [someHeaders, someBody]
    · have noHeaders : response.headers = [] := by
        simpa using someHeaders
      rw [noHeaders] at block
      by_cases someBody : 0 < response.body.length
      · simp [noHeaders, someBody]
        simpa using block
      · simp [noHeaders, someBody]
  · have headers : ((if 0 < response.headers.length then
        some (response.headers.map headerOf) else none).getD []) =
          response.headers.map headerOf := by
      split_ifs with someHeaders
      · rfl
      · have noHeaders : response.headers = [] := by
          simpa using someHeaders
        simp [noHeaders]
    have body : ((if 0 < response.body.length then
        some (response.body ++ [0]) else none).getD []).take
          response.body.length = response.body := by
      split_ifs with someBody
      · simp
      · have noBody : response.body = [] := by
          simpa using someBody
        simp [noBody]
    simp only [CustomResponseWithHeaders.decoded, Response.decoded, headers,
      body]
    rw [List.take_of_length_le (by simp), List.map_map]
    simp [Function.comp_def, decoded_headerOf]

end Nano

namespace Nginx

/-- What is decoded of a header. -/
def headerOf (header : Header) : CustomResponseHeader where
  key :=
    { len := header.key.length
      data := some (header.key ++ [0]) }
  value :=
    { len := header.value.length
      data := some (header.value ++ [0]) }

theorem decoded_headerOf (header : Header) :
    (headerOf header).decoded = header.decoded := by
  simp [headerOf, CustomResponseHeader.decoded, Header.decoded]

theorem parseHeaders_of_holds {memory : ByteMemory} {dataPtr i : Nat}
    {headersList : List CustomResponseHeader} {headers : List Header}
    (held : memory.Holds dataPtr (headers.flatMap Header.packed)) :
    parseHeaders allSucceed memory headersList i dataPtr headers.length =
      some (headersList ++ headers.map headerOf,
        dataPtr + (headers.flatMap Header.packed).length) := by
  induction headers generalizing dataPtr i headersList with
  | nil => simp [parseHeaders]
  | cons header headers induction =>
      rw [List.flatMap_cons] at held
      obtain ⟨first, rest⟩ := ByteMemory.holds_append_iff.mp held
      have fields := Header.at_of_holds first
      rw [header.length_packed] at rest
      have later :=
        @induction _ (i + 1) (headersList ++ [headerOf header]) rest
      rw [List.length_cons, parseHeaders]
      simp only [fields.keySize, fields.valueSize, fields.key, fields.value,
        allSucceed]
      refine Eq.trans ?_ (later.trans ?_)
      · simp [headerOf]
      · simp [header.length_packed, Nat.add_assoc]

theorem handleCustomResponse_of_at {response : Response}
    {memory : ByteMemory} {customResponseData : Nat}
    (fields : response.At memory customResponseData) (stored : Stored) :
    handleCustomResponse allSucceed memory true customResponseData stored =
      (.ok,
        { customResponseCode := response.responseCode.toNat
          customResponseHeaders := response.headers.map headerOf
          customResponseBody :=
            if 0 < response.body.length then
              { len := response.body.length
                data := some (response.body ++ [0]) }
            else if stored.customResponseBody.data.isSome then
              { len := 0, data := none }
            else
              stored.customResponseBody }) := by
  have parsed := @parseHeaders_of_holds _ _ 0 [] _ fields.headers
  simp only [handleCustomResponse, fields.responseCode, fields.bodySize,
    fields.headersCount, parsed, fields.body, List.nil_append]
  by_cases someBody : 0 < response.body.length
  · by_cases someStored : stored.customResponseBody.data.isSome = true
    · simp [setCustomResponse, freeCustomResponseHeaders, someBody,
        someStored, allSucceed]
    · simp [setCustomResponse, freeCustomResponseHeaders, someBody,
        someStored, allSucceed]
  · by_cases someStored : stored.customResponseBody.data.isSome = true
    · simp [setCustomResponse, freeCustomResponseHeaders, someBody,
        someStored]
    · simp [setCustomResponse, freeCustomResponseHeaders, someBody,
        someStored]

/-- A body without bytes has no length. -/
def Stored.Settled (stored : Stored) : Prop :=
  stored.customResponseBody.data.isSome = true ∨
    stored.customResponseBody.len = 0

/-- The packed response is stored just when its body replaces the body before
it. -/
theorem decoded_of_at_iff {response : Response} {memory : ByteMemory}
    {customResponseData : Nat}
    (fields : response.At memory customResponseData) (stored : Stored) :
    (handleCustomResponse allSucceed memory true customResponseData
        stored).2.decoded = response.decoded ↔
      response.body ≠ [] ∨ stored.Settled := by
  rw [handleCustomResponse_of_at fields]
  have headers : (response.headers.map headerOf).map
      CustomResponseHeader.decoded = response.headers.map Header.decoded := by
    rw [List.map_map]
    apply List.map_congr_left
    intro header _
    exact decoded_headerOf header
  simp only [Stored.decoded, Response.decoded, headers, Decoded.mk.injEq,
    true_and]
  by_cases someBody : 0 < response.body.length
  · refine iff_of_true ?_ (.inl (List.length_pos_iff.mp someBody))
    simp [someBody]
  · have noBody : response.body = [] := by
      simpa using someBody
    by_cases someStored : stored.customResponseBody.data.isSome = true
    · refine iff_of_true ?_ (.inr (.inl someStored))
      simp [noBody, someStored]
    · have unset : stored.customResponseBody.data = none := by
        simpa using someStored
      simp [noBody, unset, Stored.Settled]

end Nginx

/-- Both attachments decode the response that is packed at an address, while
the nginx module still stores another one. -/
structure DecodesExactly (response : Response) (memory : ByteMemory)
    (customResponseData : Nat) (stored : Nginx.Stored) : Prop where
  nano : (Nano.handleCustomResponseWithHeaders allSucceed memory
    customResponseData).map Nano.CustomResponseWithHeaders.decoded =
      some response.decoded
  nginxResult : (Nginx.handleCustomResponse allSucceed memory true
    customResponseData stored).1 = .ok
  nginx : (Nginx.handleCustomResponse allSucceed memory true
    customResponseData stored).2.decoded = response.decoded

/-- Decoding undoes the packing, apart from an empty body after one whose
copy failed. -/
theorem custom_response_decoded_iff (response : Response)
    (memory : ByteMemory) (customResponseData : Nat)
    (stored : Nginx.Stored) :
    DecodesExactly response
        (memory.write customResponseData response.packed) customResponseData
        stored ↔
      response.body ≠ [] ∨ stored.Settled := by
  have fields : response.At
      (memory.write customResponseData response.packed) customResponseData :=
    Response.at_of_holds (ByteMemory.read_write_same _ _ _)
  constructor
  · intro exact
    exact (Nginx.decoded_of_at_iff fields stored).mp exact.nginx
  · intro replaces
    refine ⟨?_, ?_, (Nginx.decoded_of_at_iff fields stored).mpr replaces⟩
    · obtain ⟨decoded, parsed, same⟩ := Nano.decoded_of_at fields
      rw [parsed, Option.map_some, same]
    · rw [Nginx.handleCustomResponse_of_at fields]

/-- A response with a body of one byte, and one with an empty body. -/
def shortResponse : Response where
  responseCode := 403
  headers := []
  body := [88]
  headersFit := by decide
  bodyFits := by decide

def emptyResponse : Response where
  responseCode := 403
  headers := []
  body := []
  headersFit := by decide
  bodyFits := by decide

/-- What the module stores of a first response when the copy of its body
fails. -/
def storedAfterFailure : Nginx.Stored :=
  (Nginx.handleCustomResponse (fun _ => false)
    (ByteMemory.write (fun _ => 0) 0 shortResponse.packed) true 0
    { customResponseCode := 0
      customResponseHeaders := []
      customResponseBody := { len := 0, data := none } }).2

/-- The length of the body whose copy failed stays. -/
theorem custom_response_keeps_length :
    ¬DecodesExactly emptyResponse
      (ByteMemory.write (fun _ => 0) 0 emptyResponse.packed) 0
      storedAfterFailure := by
  rw [custom_response_decoded_iff]
  rintro (nonempty | settled)
  · exact nonempty rfl
  · rcases settled with some | zero
    · exact absurd some (by decide)
    · exact absurd zero (by decide)

end OpenAppsec.CustomResponses
