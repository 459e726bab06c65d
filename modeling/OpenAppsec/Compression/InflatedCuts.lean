import OpenAppsec.Compression.CompressionStream

/-!
# Cuts of a gzip or zlib stream

The chunks that a body arrives in have nothing to do with its content.  A
stream that goes to `inflate` is decompressed to its content however it is cut:
a pass of the loop that goes on consumes or writes something, the content that
is pending when a chunk ends is written for the next one, and the check value
at the end of the stream is not read before all content is written.
-/

namespace OpenAppsec.Compression

open FueledLoop StreamDecoders CompressionStream

variable {ζ δ : Type}

/-- What `inflate` says about a call along a valid stream. -/
structure InflateReturns (input after later : List UInt8) (space : Nat)
    (step : Step ζ UInt8 Int) : Prop where
  result : step.result = zOk ∨ step.result = zStreamEnd
  /-- The end of the compressed data has been reached and all of the content
  has been written. -/
  streamEnd : step.result = zStreamEnd ↔
    input.drop step.consumed ++ after = [] ∧ later = []
  /-- It stops when the input is empty or the output is full. -/
  stops : step.consumed = input.length ∨ step.output.length = space ∨
    step.result = zStreamEnd
  /-- The check value at the end of the stream is read after the content has
  been written. -/
  checked : input.drop step.consumed ++ after = [] → later = []

/-- A gzip or zlib stream with its content; `at'` relates a `z_stream` to the
rest of the stream and to what is left of the content. -/
structure Zlib.Inflates (zlib : Zlib ζ)
    (at' : ζ → List UInt8 → List UInt8 → Prop) (stream content : List UInt8) :
    Prop where
  nonempty : stream ≠ []
  init : (zlib.inflateInit2 zlib.zeroed (defaultNumWindowBits + 32)).1 = zOk
  start : at' (zlib.inflateInit2 zlib.zeroed (defaultNumWindowBits + 32)).2
    stream content
  call : ∀ z input after left space, at' z (input ++ after) left →
    input ≠ [] → 0 < space → ∃ later,
      Proceeds at' input after left space (zlib.inflate z input space) later ∧
        InflateReturns input after later space (zlib.inflate z input space)

variable {zlib : Zlib ζ} {brotli : Brotli δ}
  {at' : ζ → List UInt8 → List UInt8 → Prop} {stream content : List UInt8}

/-- Where a stream stands that is being decompressed, or has been. -/
structure ReadyToInflate (at' : ζ → List UInt8 → List UInt8 → Prop)
    (stream content : List UInt8) (s : CompressionStream ζ δ)
    (rest left : List UInt8) : Prop where
  restShort : rest.length ≤ stream.length
  leftShort : left.length ≤ content.length
  place : (rest = [] ∧ left = []) ∨
    (s.state = .decompress ∧ rest ≠ [] ∧ at' s.stream rest left)

/-- The loop keeps the place in the stream. -/
structure InflatesAlong (at' : ζ → List UInt8 → List UInt8 → Prop)
    (after left : List UInt8) (work : Inflating ζ δ) : Prop where
  state : work.owner.state = .decompress
  unfinished : work.input ++ after ≠ []
  place : ∃ later, left = work.res ++ later ∧
    at' work.owner.stream (work.input ++ after) later
  /-- A pass without output takes all of the input. -/
  retries : work.retries = 0 ∨ work.input = []

/-- What a call for a chunk returns. -/
def InflatesChunk (at' : ζ → List UInt8 → List UInt8 → Prop)
    (after left : List UInt8)
    (returned : Result × CompressionStream ζ δ) : Prop :=
  ∃ part later, returned.1 = .ok (part, after.isEmpty) ∧ left = part ++ later ∧
    ((after = [] ∧ later = []) ∨
      (returned.2.state = .decompress ∧ after ≠ [] ∧
        at' returned.2.stream after later))

section Inflate

variable {after left : List UInt8} {work : Inflating ζ δ}

/-- The remaining input and what is left of the content. -/
def inflateMeasure (left : List UInt8) (work : Inflating ζ δ) : Nat :=
  (left.length - work.res.length) + work.input.length

theorem inflatePass_of_nil (along : InflatesAlong at' after left work)
    (consumed : work.input = []) :
    ∃ returned, inflatePass zlib work = .inr returned ∧
      InflatesChunk at' after left returned := by
  obtain ⟨later, content, place⟩ := along.place
  have unfinished := along.unfinished
  rw [consumed, List.nil_append] at place unfinished
  refine ⟨(.ok (work.res, false), work.owner), ?_, work.res, later, ?_, content,
    .inr ⟨along.state, unfinished, place⟩⟩
  · rw [inflatePass, if_pos consumed]
  · rw [List.isEmpty_eq_false_iff.mpr unfinished]

theorem inflatePass_along (contract : zlib.Inflates at' stream content)
    (along : InflatesAlong at' after left work) :
    (∃ next, inflatePass zlib work = .inl next ∧
      InflatesAlong at' after left next ∧
        inflateMeasure left next < inflateMeasure left work) ∨
    ∃ returned, inflatePass zlib work = .inr returned ∧
      InflatesChunk at' after left returned := by
  by_cases consumed : work.input = []
  · exact .inr (inflatePass_of_nil along consumed)
  obtain ⟨left', content, place⟩ := along.place
  obtain ⟨later, proceeds, returns⟩ :=
    contract.call work.owner.stream work.input after left' workSpaceCapacity
      place consumed (by decide)
  have retries : work.retries = 0 := along.retries.resolve_right consumed
  have valid : ¬((zlib.inflate work.owner.stream work.input
        workSpaceCapacity).result ≠ zOk ∧
      (zlib.inflate work.owner.stream work.input
        workSpaceCapacity).result ≠ zStreamEnd) := by
    rintro ⟨notOk, notEnd⟩
    exact returns.result.elim notOk notEnd
  have inTime : ¬((zlib.inflate work.owner.stream work.input
      workSpaceCapacity).output = [] ∧ maxRetries < work.retries + 1) := by
    rw [retries]
    rintro ⟨-, tooMany⟩
    exact absurd tooMany (by decide)
  rw [inflatePass, if_neg consumed]
  simp only [if_neg valid, if_neg inTime]
  generalize zlib.inflate work.owner.stream work.input workSpaceCapacity = step
    at proceeds returns
  by_cases ended : step.result = zStreamEnd
  · rw [if_pos ended]
    obtain ⟨finished, noneLeft⟩ := returns.streamEnd.mp ended
    have noneAfter := (List.append_eq_nil_iff.mp finished).2
    refine .inr ⟨_, rfl, work.res ++ step.output, [], ?_, ?_,
      .inl ⟨noneAfter, rfl⟩⟩
    · rw [noneAfter]
      rfl
    · rw [content, proceeds.written, noneLeft, List.append_assoc]
  · rw [if_neg ended]
    refine .inl ⟨_, rfl, ?_, ?_⟩
    · constructor
      · exact along.state
      · intro finished
        exact ended (returns.streamEnd.mpr ⟨finished, returns.checked finished⟩)
      · refine ⟨later, ?_, proceeds.next⟩
        rw [content, proceeds.written, List.append_assoc]
      · by_cases silent : step.output = []
        · have noSpace : step.output.length ≠ workSpaceCapacity := by
            rw [silent]
            decide
          have all := returns.stops.resolve_right
            (fun stopped => stopped.elim noSpace ended)
          exact .inr (List.drop_eq_nil_of_le (Nat.le_of_eq all.symm))
        · left
          rw [if_neg silent, retries]
    · have some : 0 < work.input.length := List.length_pos_iff.mpr consumed
      have moved : 0 < step.consumed ∨ 0 < step.output.length := by
        rcases returns.stops with all | full | atEnd
        · exact .inl (all ▸ some)
        · exact .inr (full ▸ (by decide))
        · exact absurd atEnd ended
      have lengths := congrArg List.length (proceeds.written ▸ content)
      simp only [List.length_append] at lengths
      simp only [inflateMeasure, List.length_append, List.length_drop]
      have bounded := proceeds.consumed
      omega

theorem decompressInflate_chunk (contract : zlib.Inflates at' stream content)
    {s : CompressionStream ζ δ} {chunk : List UInt8}
    (state : s.state = .decompress) (nonempty : chunk ≠ [])
    (place : at' s.stream (chunk ++ after) left) {fuel : Nat}
    (enough : left.length + chunk.length < fuel) :
    ∃ returned, s.decompressInflate zlib fuel chunk = some returned ∧
      InflatesChunk at' after left returned := by
  have initialized : s.initInflate zlib = (.ok (), s) := by
    rw [initInflate, if_pos (by rw [state]; decide)]
  have along : InflatesAlong at' after left
      { input := chunk, res := [], retries := 0, owner := s } :=
    { state := state
      unfinished := List.append_ne_nil_of_left_ne_nil nonempty after
      place := ⟨left, rfl, place⟩
      retries := .inl rfl }
  simp only [decompressInflate, initialized, if_neg (not_not.mpr state)]
  exact runLoop_establishes (InflatesAlong at' after left)
    (InflatesChunk at' after left) (inflateMeasure left)
    (fun _ along => inflatePass_along contract along) along enough

end Inflate

/-- A new stream that `initInflate` has initialized. -/
def startedStream (zlib : Zlib ζ) (type : CompressionType) :
    CompressionStream ζ δ :=
  { newStream zlib type with
    stream := (zlib.inflateInit2 zlib.zeroed (defaultNumWindowBits + 32)).2
    state := .decompress }

theorem decompress_of_decompress {s : CompressionStream ζ δ}
    (state : s.state = .decompress) (fuel : Nat) (chunk : List UInt8) :
    s.decompress zlib brotli fuel chunk =
      s.decompressInflate zlib fuel chunk := by
  rw [decompress, if_neg (by rw [state]; decide),
    if_neg (by rw [state]; exact fun new => by cases new.1)]

/-- The first chunk goes to `inflate` unless the type is that of brotli or, in
want of a type, the chunk is taken for brotli. -/
theorem decompress_new (contract : zlib.Inflates at' stream content)
    {type : CompressionType} {chunk : List UInt8} (nonempty : chunk ≠ [])
    (notBrotli : type ≠ .brotli)
    (notTaken : type = .noCompression → probe brotli chunk = false)
    (fuel : Nat) :
    (newStream zlib type).decompress zlib brotli fuel chunk =
      (startedStream zlib type).decompress zlib brotli fuel chunk := by
  have some : 0 < chunk.length := List.length_pos_iff.mpr nonempty
  have started : (newStream zlib type : CompressionStream ζ δ).decompressInflate
      zlib fuel chunk =
        (startedStream zlib type).decompressInflate zlib fuel chunk := by
    simp only [decompressInflate, initInflate, newStream, startedStream,
      contract.init]
    rfl
  rw [decompress_of_decompress (s := startedStream zlib type) rfl, ← started]
  rw [decompress, if_neg (fun new => by cases new), if_pos ⟨rfl, some⟩]
  cases type with
  | noCompression => simp [newStream, isBrotli, notTaken rfl]
  | gzip => rfl
  | zlib => rfl
  | brotli => exact absurd rfl notBrotli

/-- However a gzip or zlib stream is cut, the calls deliver its content. -/
theorem inflate_delivers (contract : zlib.Inflates at' stream content)
    {type : CompressionType} {chunks : List (List UInt8)}
    (cut : chunks.flatten = stream) (nonempty : ∀ chunk ∈ chunks, chunk ≠ [])
    (notBrotli : type ≠ .brotli)
    (notTaken : type = .noCompression →
      ∀ first ∈ chunks.head?, probe brotli first = false)
    {fuel : Nat} (enough : stream.length + content.length < fuel) :
    Delivers (decompress zlib brotli fuel) (newStream zlib type) chunks
      content := by
  have started : Delivers (decompress zlib brotli fuel)
      (startedStream zlib type) chunks content := by
    have isReady : ReadyToInflate at' stream content
        (startedStream zlib type : CompressionStream ζ δ) chunks.flatten
        content := by
      rw [cut]
      exact ⟨Nat.le_refl _, Nat.le_refl _,
        .inr ⟨rfl, contract.nonempty, contract.start⟩⟩
    refine delivers_of_passes (ReadyToInflate at' stream content) ?_ ?_ nonempty
      isReady
    · rintro s chunk after left chunkNonempty ⟨restShort, leftShort, place⟩
      have unfinished := List.append_ne_nil_of_left_ne_nil chunkNonempty after
      obtain ⟨finished, -⟩ | ⟨state, -, place⟩ := place
      · exact absurd finished unfinished
      rw [List.length_append] at restShort
      obtain ⟨⟨result, next⟩, returned, part, later, rfl, rfl, placeNext⟩ :=
        decompressInflate_chunk contract state chunkNonempty place
          (show left.length + chunk.length < fuel by omega)
      rw [List.length_append] at leftShort
      refine ⟨part, later, next, ?_, rfl, by omega, by omega, placeNext⟩
      rw [decompress_of_decompress state, returned]
    · rintro s left ⟨-, -, ⟨-, noneLeft⟩ | ⟨-, unfinished, -⟩⟩
      · exact noneLeft
      · exact absurd rfl unfinished
  cases chunks with
  | nil => exact absurd cut.symm contract.nonempty
  | cons first chunks =>
      have firstNonempty := nonempty first List.mem_cons_self
      refine (delivers_congr ?_ chunks content).mpr started
      exact decompress_new contract firstNonempty notBrotli
        (fun unknown => notTaken unknown first rfl) fuel

end OpenAppsec.Compression
