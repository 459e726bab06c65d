import OpenAppsec.Attachment.Transmissions

/-!
# The encoding of the request metadata

The fragments stand at fixed positions, but a position that is not set adds
no bytes to the message.
-/

namespace OpenAppsec

open LengthPrefixed

/-- Every text of the metadata has a length of at most sixteen bits. -/
structure HttpMetaData.LengthsFit (metadata : HttpMetaData) : Prop where
  httpProtocol : metadata.httpProtocol.length ≤ 65535
  methodName : metadata.methodName.length ≤ 65535
  host : metadata.host.length ≤ 65535
  listeningIp : metadata.listeningIp.length ≤ 65535
  uri : metadata.uri.length ≤ 65535
  clientIp : metadata.clientIp.length ≤ 65535
  parsedHost : metadata.parsedHost.length ≤ 65535
  parsedUri : metadata.parsedUri.length ≤ 65535

namespace Nano

/-- The first has only a parsed host, the second has the same text as its
parsed URI, and they agree on everything else. -/
def HostTakenForUri (first second : HttpMetaData) : Prop :=
  first.parsedHost ≠ [] ∧ first.parsedUri = [] ∧
    second = { first with parsedHost := [], parsedUri := first.parsedHost }

instance (first second : HttpMetaData) :
    Decidable (HostTakenForUri first second) :=
  inferInstanceAs (Decidable (_ ∧ _))

/-- The fields that every metadata message holds. -/
def requiredFields (metadata : HttpMetaData) (rest : List UInt8) :
    List UInt8 :=
  field 2 metadata.httpProtocol ++ (field 2 metadata.methodName ++
    (field 2 metadata.host ++ (field 2 metadata.listeningIp ++
      (littleEndian 2 metadata.listeningPort.toNat ++
        (field 2 metadata.uri ++ (field 2 metadata.clientIp ++
          (littleEndian 2 metadata.clientPort.toNat ++ rest)))))))

theorem size_append_fragment {str : NanoStr} (fits : str.length ≤ 65535)
    (rest : List UInt8) :
    str.size ++ (str.fragment ++ rest) = field 2 str ++ rest := by
  rw [NanoStr.size, NanoStr.fragment, field,
    Nat.mod_eq_of_lt (Nat.lt_succ_of_le fits), List.take_length,
    List.append_assoc]

theorem optionalSlots_append {str : NanoStr} (fits : str.length ≤ 65535)
    (rest : List UInt8) :
    (if str.length > 0 then str.size else []) ++
        ((if str.length > 0 then str.fragment else []) ++ rest) =
      optionalField 2 str ++ rest := by
  by_cases given : str.length > 0
  · rw [if_pos given, if_pos given, size_append_fragment fits,
      optionalField_of_ne (List.length_pos_iff.mp given)]
  · have none : str = [] :=
      List.length_eq_zero_iff.mp (Nat.eq_zero_of_not_pos given)
    rw [if_neg given, if_neg given, none, optionalField_nil]
    rfl

theorem metadataMessage_allSlots (metadata : HttpMetaData)
    (sessionId : BitVec 32) :
    (metadataMessage metadata sessionId).bytes =
      (setFragmentsIdentifiers .requestStart sessionId).flatten ++
        (HttpMetaDataType.all.map (metadataFragment metadata)).flatten := by
  have identifiers :
      (setFragmentsIdentifiers .requestStart sessionId).length = 2 := rfl
  rw [Message.bytes, metadataMessage, List.take_append, identifiers,
    Nat.add_sub_cancel, List.take_of_length_le (by omega),
    List.flatten_append]
  congr 1
  by_cases host : metadata.parsedHost.length > 0
  · by_cases uri : metadata.parsedUri.length > 0
    · simp [metaDataCount, HttpMetaDataType.all, metadataFragment, host, uri]
    · simp [metaDataCount, HttpMetaDataType.all, metadataFragment, host, uri]
  · by_cases uri : metadata.parsedUri.length > 0
    · simp [metaDataCount, HttpMetaDataType.all, metadataFragment, host, uri]
    · simp [metaDataCount, HttpMetaDataType.all, metadataFragment, host, uri]

theorem metadataMessage_bytes {metadata : HttpMetaData}
    (fits : metadata.LengthsFit) (sessionId : BitVec 32) :
    (metadataMessage metadata sessionId).bytes =
      (setFragmentsIdentifiers .requestStart sessionId).flatten ++
        requiredFields metadata
          (optionalField 2 metadata.parsedHost ++
            optionalField 2 metadata.parsedUri) := by
  have uri := optionalSlots_append fits.parsedUri []
  rw [List.append_nil, List.append_nil] at uri
  rw [metadataMessage_allSlots, requiredFields, ← uri,
    ← optionalSlots_append fits.parsedHost,
    ← size_append_fragment fits.httpProtocol,
    ← size_append_fragment fits.methodName,
    ← size_append_fragment fits.host,
    ← size_append_fragment fits.listeningIp,
    ← size_append_fragment fits.uri, ← size_append_fragment fits.clientIp]
  simp only [HttpMetaDataType.all, metadataFragment, List.map_cons,
    List.map_nil, List.flatten_cons, List.flatten_nil, List.append_nil]

theorem requiredFields_inj {left right : HttpMetaData}
    (leftFits : left.LengthsFit) (rightFits : right.LengthsFit)
    {leftRest rightRest : List UInt8}
    (same : requiredFields left leftRest = requiredFields right rightRest) :
    (∀ parsedHost parsedUri,
        { left with parsedHost, parsedUri } =
          { right with parsedHost, parsedUri }) ∧
      leftRest = rightRest := by
  obtain ⟨protocol, same⟩ := field_append_inj
    (Nat.lt_succ_of_le leftFits.httpProtocol)
    (Nat.lt_succ_of_le rightFits.httpProtocol) same
  obtain ⟨method, same⟩ := field_append_inj
    (Nat.lt_succ_of_le leftFits.methodName)
    (Nat.lt_succ_of_le rightFits.methodName) same
  obtain ⟨host, same⟩ := field_append_inj
    (Nat.lt_succ_of_le leftFits.host) (Nat.lt_succ_of_le rightFits.host) same
  obtain ⟨listening, same⟩ := field_append_inj
    (Nat.lt_succ_of_le leftFits.listeningIp)
    (Nat.lt_succ_of_le rightFits.listeningIp) same
  obtain ⟨listeningPort, same⟩ := littleEndian_append_inj
    left.listeningPort.isLt right.listeningPort.isLt same
  obtain ⟨uri, same⟩ := field_append_inj
    (Nat.lt_succ_of_le leftFits.uri) (Nat.lt_succ_of_le rightFits.uri) same
  obtain ⟨client, same⟩ := field_append_inj
    (Nat.lt_succ_of_le leftFits.clientIp)
    (Nat.lt_succ_of_le rightFits.clientIp) same
  obtain ⟨clientPort, same⟩ := littleEndian_append_inj
    left.clientPort.isLt right.clientPort.isLt same
  refine ⟨?_, same⟩
  intro parsedHost parsedUri
  exact HttpMetaData.ext protocol method host listening
    (BitVec.eq_of_toNat_eq listeningPort) uri client
    (BitVec.eq_of_toNat_eq clientPort) rfl rfl

theorem HostTakenForUri.metadataMessage_bytes_eq
    {first second : HttpMetaData} (taken : HostTakenForUri first second)
    (sessionId : BitVec 32) :
    (metadataMessage first sessionId).bytes =
      (metadataMessage second sessionId).bytes := by
  obtain ⟨given, none, rfl⟩ := taken
  have filled := List.length_pos_iff.mpr given
  simp [metadataMessage_allSlots, HttpMetaDataType.all, metadataFragment,
    none, filled]

theorem metadataMessage_bytes_eq_iff {left right : HttpMetaData}
    (leftFits : left.LengthsFit) (rightFits : right.LengthsFit)
    (sessionId : BitVec 32) :
    (metadataMessage left sessionId).bytes =
        (metadataMessage right sessionId).bytes ↔
      left = right ∨ HostTakenForUri left right ∨
        HostTakenForUri right left := by
  constructor
  · intro same
    rw [metadataMessage_bytes leftFits, metadataMessage_bytes rightFits,
      List.append_cancel_left_eq] at same
    obtain ⟨required, optional⟩ :=
      requiredFields_inj leftFits rightFits same
    rcases (optionalFields_eq_iff (by decide)
        (Nat.lt_succ_of_le leftFits.parsedHost)
        (Nat.lt_succ_of_le leftFits.parsedUri)
        (Nat.lt_succ_of_le rightFits.parsedHost)
        (Nat.lt_succ_of_le rightFits.parsedUri)).mp optional
      with ⟨host, uri⟩ | ⟨given, none, none', moved⟩ |
        ⟨given, none, none', moved⟩
    · have agree := required left.parsedHost left.parsedUri
      rw [host, uri] at agree
      refine .inl (Eq.trans ?_ agree)
      rw [← host, ← uri]
    · refine .inr (.inl ⟨given, none, ?_⟩)
      rw [required, ← none', ← moved]
    · refine .inr (.inr ⟨given, none, ?_⟩)
      rw [← required, ← none', ← moved]
  · rintro (rfl | taken | taken)
    · rfl
    · exact taken.metadataMessage_bytes_eq sessionId
    · exact (taken.metadataMessage_bytes_eq sessionId).symm

theorem HostTakenForUri.ne {first second : HttpMetaData}
    (taken : HostTakenForUri first second) : first ≠ second := by
  obtain ⟨given, none, moved⟩ := taken
  intro same
  have uri := congrArg HttpMetaData.parsedUri (same.trans moved)
  exact given (uri.symm.trans none)

variable {ω : Type*}

/-- The bytes of the messages that `nano_metadata_sender` hands over. -/
def metadataBytes (env : Environment ω) (isVerdictRequested : Bool)
    (usageMode : SignalUsageMode) (state : SenderState ω)
    (metadata : HttpMetaData) : List (List UInt8) :=
  ((nanoMetadataSender env metadata isVerdictRequested usageMode
    state).messages.drop state.messages.length).map Message.bytes

theorem metadataBytes_eq (env : Environment ω) (isVerdictRequested : Bool)
    (usageMode : SignalUsageMode) (state : SenderState ω)
    {metadata : HttpMetaData}
    (inspected :
      isInspectionRequiredForSource env metadata.clientIp ≠ 0) :
    metadataBytes env isVerdictRequested usageMode state metadata =
      [(metadataMessage metadata state.sessionData.sessionId).bytes] := by
  have handedOver : (nanoMetadataSender env metadata isVerdictRequested
      usageMode state).messages =
      state.messages ++
        [metadataMessage metadata state.sessionData.sessionId] := by
    rw [nanoMetadataSender, transmitMetadata_eq inspected,
      messages_afterwards, SenderState.messages, deliver_events,
      sentEvents_singleton, List.filterMap_append]
    rfl
  rw [metadataBytes, handedOver, List.drop_left]
  rfl

/-- Equal bytes mean equal metadata, except where a parsed host of one of them
is the parsed URI of the other. -/
theorem metadata_encoding_unambiguous_iff
    {env env' : Environment ω} {left right : HttpMetaData}
    (inspected : isInspectionRequiredForSource env left.clientIp ≠ 0)
    (inspected' : isInspectionRequiredForSource env' right.clientIp ≠ 0)
    (leftFits : left.LengthsFit) (rightFits : right.LengthsFit)
    {state state' : SenderState ω}
    (sameSession :
      state.sessionData.sessionId = state'.sessionData.sessionId)
    (isVerdictRequested isVerdictRequested' : Bool)
    (usageMode usageMode' : SignalUsageMode) :
    (metadataBytes env isVerdictRequested usageMode state left =
        metadataBytes env' isVerdictRequested' usageMode' state' right →
      left = right) ↔
      ¬HostTakenForUri left right ∧ ¬HostTakenForUri right left := by
  rw [metadataBytes_eq _ _ _ _ inspected, metadataBytes_eq _ _ _ _ inspected',
    ← sameSession, List.singleton_inj,
    metadataMessage_bytes_eq_iff leftFits rightFits]
  constructor
  · intro unambiguous
    constructor
    · intro taken
      have same := unambiguous (.inr (.inl taken))
      exact taken.ne same
    · intro taken
      have same := unambiguous (.inr (.inr taken))
      exact taken.ne same.symm
  · rintro ⟨notTaken, notTaken'⟩ (same | taken | taken)
    · exact same
    · exact absurd taken notTaken
    · exact absurd taken notTaken'

/-- A request to a host, with its address as the parsed host or as the parsed
URI. -/
theorem metadata_encoding_ambiguous :
    let env : Environment Unit :=
      .accepting (fun _ => true) (fun _ => .ofVerdict .inspect)
    let state : SenderState Unit := .start ⟨7, .inspect, 0⟩
    let left : HttpMetaData :=
      { httpProtocol := [72], methodName := [71], host := [104]
        listeningIp := [49], listeningPort := 80, uri := [47]
        clientIp := [50], clientPort := 4000
        parsedHost := [104], parsedUri := [] }
    let right : HttpMetaData :=
      { left with parsedHost := [], parsedUri := [104] }
    metadataBytes env false .sync state left =
        metadataBytes env false .sync state right ∧
      metadataBytes env false .sync state left ≠ [] ∧ left ≠ right := by
  decide

/-- Two requests that differ in their URI only. -/
theorem metadata_encoding_unambiguous_iff_on_uris :
    let env : Environment Unit :=
      .accepting (fun _ => true) (fun _ => .ofVerdict .inspect)
    let state : SenderState Unit := .start ⟨7, .inspect, 0⟩
    let left : HttpMetaData :=
      { httpProtocol := [72], methodName := [71], host := [104]
        listeningIp := [49], listeningPort := 80, uri := [47]
        clientIp := [50], clientPort := 4000
        parsedHost := [104], parsedUri := [47] }
    let right : HttpMetaData := { left with uri := [48] }
    (metadataBytes env false .sync state left =
        metadataBytes env false .sync state right → left = right) ↔
      ¬HostTakenForUri left right ∧ ¬HostTakenForUri right left := by
  apply metadata_encoding_unambiguous_iff
  · decide
  · decide
  · constructor <;> decide
  · constructor <;> decide
  · rfl

end Nano

end OpenAppsec
