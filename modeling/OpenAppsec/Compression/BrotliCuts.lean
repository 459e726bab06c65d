import Mathlib.Tactic.Common
import OpenAppsec.Compression.CompressionStream

/-!
# Cuts of a brotli stream

The loop for a chunk gives the decoder a buffer that doubles each time that it
is full, up to a limit; the call fails where the buffer of that size is full
too.  So what a call may write is limited, by the size of its chunk.  Within
this limit a brotli stream is decompressed to its content however it is cut.
-/

namespace OpenAppsec.Compression

open FueledLoop StreamDecoders CompressionStream

variable {ζ δ : Type}

/-- What the decoder says about a call along a valid stream; `blocked` is the
part of the content that is not decoded before more of the rest of the stream
is there. -/
structure BrotliReturns (brotli : Brotli δ)
    (blocked : List UInt8 → List UInt8) (input after later : List UInt8)
    (space : Nat) (step : Step δ UInt8 BrotliDecoderResult) : Prop where
  valid : step.result ≠ .error
  /-- Decoding is finished, no more input is consumed and no more output is
  produced. -/
  success : step.result = .success →
    (input.drop step.consumed ++ after = [] ∧ later = []) ∧
      brotli.isFinished step.next = true
  /-- It is blocked until more input is provided; output may be pending. -/
  needsMoreInput : step.result = .needsMoreInput →
    step.consumed = input.length ∧ after ≠ []
  /-- It is blocked until more space is provided. -/
  needsMoreOutput : step.result = .needsMoreOutput →
    step.output.length = space ∧ (blocked after).length < later.length

/-- A brotli stream with its content; `at'` relates a decoder to the rest of
the stream and to what is left of the content. -/
structure Brotli.Decodes (brotli : Brotli δ)
    (at' : δ → List UInt8 → List UInt8 → Prop)
    (blocked : List UInt8 → List UInt8) (stream content : List UInt8) :
    Prop where
  nonempty : stream ≠ []
  create : ∃ decoder, brotli.createInstance = some decoder ∧
    at' (brotli.setLargeWindow decoder) stream content
  call : ∀ decoder input after left space, at' decoder (input ++ after) left →
    0 < space → ∃ later,
      Proceeds at' input after left space
          (brotli.decompressStream decoder input space) later ∧
        BrotliReturns brotli blocked input after later space
          (brotli.decompressStream decoder input space)

/-- What the buffers of a call hold, from one of the given size on. -/
def brotliRoom (size : Nat) : Nat :=
  if maxBufferSize ≤ size ∨ size = 0 then
    size
  else
    size + brotliRoom (min (size * 2) maxBufferSize)
termination_by maxBufferSize - size

/-- What a call for a chunk has room for. -/
def chunkRoom (chunk : List UInt8) : Nat :=
  brotliRoom (brotliBufferSize chunk.length)

theorem brotliRoom_of_le {size : Nat} (large : maxBufferSize ≤ size) :
    brotliRoom size = size := by
  rw [brotliRoom, if_pos (.inl large)]

theorem brotliRoom_of_lt {size : Nat} (small : size < maxBufferSize)
    (pos : 0 < size) :
    brotliRoom size = size + brotliRoom (min (size * 2) maxBufferSize) := by
  rw [brotliRoom, if_neg (by omega)]

theorem le_brotliRoom (size : Nat) : size ≤ brotliRoom size := by
  rw [brotliRoom]
  split <;> omega

theorem maxBufferSize_le_brotliRoom {size : Nat} (pos : 0 < size) :
    maxBufferSize ≤ brotliRoom size := by
  induction size using brotliRoom.induct with
  | case1 size leaves =>
      have large := leaves.resolve_right (Nat.ne_of_gt pos)
      rw [brotliRoom_of_le large]
      exact large
  | case2 size goesOn induction =>
      obtain ⟨small, -⟩ := not_or.mp goesOn
      rw [brotliRoom_of_lt (Nat.lt_of_not_le small) pos]
      have nextPos : 0 < min (size * 2) maxBufferSize :=
        Nat.lt_min.mpr ⟨by omega, by decide⟩
      exact Nat.le_add_left_of_le (induction nextPos)

theorem brotliBufferSize_pos (size : Nat) : 0 < brotliBufferSize size :=
  Nat.lt_of_lt_of_le (by decide) (Nat.le_max_right _ _)

theorem maxBufferSize_le_chunkRoom (chunk : List UInt8) :
    maxBufferSize ≤ chunkRoom chunk :=
  maxBufferSize_le_brotliRoom (brotliBufferSize_pos chunk.length)

variable {zlib : Zlib ζ} {brotli : Brotli δ}
  {at' : δ → List UInt8 → List UInt8 → Prop}
  {blocked : List UInt8 → List UInt8} {stream content : List UInt8}

/-- Why a call fails: what can be decoded with its chunk, and has not been
written before, is more than it has room for. -/
def ExceedsRoom (blocked : List UInt8 → List UInt8)
    (chunk after left : List UInt8) (error : String) : Prop :=
  error = "Brotli decompression buffer size limit exceeded - " ++
      "possibly corrupted data" ∧
    chunkRoom chunk + (blocked after).length < left.length

/-- Where a stream stands that is being decompressed, or has been. -/
structure ReadyToDecode (at' : δ → List UInt8 → List UInt8 → Prop)
    (content : List UInt8) (s : CompressionStream ζ δ)
    (rest left : List UInt8) : Prop where
  leftShort : left.length ≤ content.length
  place : (rest = [] ∧ left = []) ∨
    (s.state = .decompressBrotli ∧ rest ≠ [] ∧
      ∃ decoder, s.brDecoderState = some decoder ∧ at' decoder rest left)

/-- The loop keeps the place in the stream, and has written as much as its
former buffers held. -/
structure DecodesAlong (at' : δ → List UInt8 → List UInt8 → Prop) (room : Nat)
    (after left : List UInt8) (work : Decoding ζ δ) : Prop where
  state : work.owner.state = .decompressBrotli
  size : 0 < work.bufferSize
  place : ∃ later, left = work.output ++ later ∧
    at' work.decoder (work.input ++ after) later
  written : work.output.length + brotliRoom work.bufferSize = room

/-- What a call for a chunk returns. -/
def DecodesChunk (at' : δ → List UInt8 → List UInt8 → Prop)
    (blocked : List UInt8 → List UInt8) (chunk after left : List UInt8)
    (returned : Result × CompressionStream ζ δ) : Prop :=
  (∃ part later, returned.1 = .ok (part, after.isEmpty) ∧
    left = part ++ later ∧ part.length ≤ chunkRoom chunk ∧
      ((after = [] ∧ later = []) ∨
        (returned.2.state = .decompressBrotli ∧ after ≠ [] ∧
          ∃ decoder, returned.2.brDecoderState = some decoder ∧
            at' decoder after later))) ∨
  ∃ error, returned.1 = .error error ∧
    ExceedsRoom blocked chunk after left error

section Decode

variable {chunk after left : List UInt8} {work : Decoding ζ δ}

/-- A pass that goes on has filled its buffer. -/
theorem brotliPass_along (contract : brotli.Decodes at' blocked stream content)
    (along : DecodesAlong at' (chunkRoom chunk) after left work) :
    (∃ next, brotliPass zlib brotli work = .inl next ∧
      DecodesAlong at' (chunkRoom chunk) after left next ∧
        left.length - next.output.length < left.length - work.output.length) ∨
    ∃ returned, brotliPass zlib brotli work = .inr returned ∧
      DecodesChunk at' blocked chunk after left returned := by
  obtain ⟨left', contentLeft, place⟩ := along.place
  obtain ⟨later, proceeds, returns⟩ :=
    contract.call work.decoder work.input after left' work.bufferSize place
      along.size
  have written := along.written
  have size := along.size
  have roomOfSize := le_brotliRoom work.bufferSize
  have fits := proceeds.fits
  rw [brotliPass]
  generalize brotli.decompressStream work.decoder work.input work.bufferSize =
    step at proceeds returns fits
  have contentLater : left = (work.output ++ step.output) ++ later := by
    rw [contentLeft, proceeds.written, List.append_assoc]
  have lengths := congrArg List.length contentLater
  simp only [List.length_append] at lengths
  have partFits : (work.output ++ step.output).length ≤ chunkRoom chunk := by
    rw [List.length_append]
    omega
  cases result : step.result with
  | error => exact absurd result returns.valid
  | success =>
      obtain ⟨⟨finished, noneLeft⟩, isFinished⟩ := returns.success result
      have noneAfter := (List.append_eq_nil_iff.mp finished).2
      simp only [isFinished, if_true]
      refine .inr ⟨_, rfl, .inl ⟨_, later, ?_, contentLater, partFits,
        .inl ⟨noneAfter, noneLeft⟩⟩⟩
      rw [noneAfter]
      rfl
  | needsMoreInput =>
      obtain ⟨all, unfinished⟩ := returns.needsMoreInput result
      have consumed : work.input.drop step.consumed = [] :=
        List.drop_eq_nil_of_le (Nat.le_of_eq all.symm)
      have placeNext := proceeds.next
      rw [consumed, List.nil_append] at placeNext
      simp only [consumed, if_true]
      refine .inr ⟨_, rfl, .inl ⟨_, later, ?_, contentLater, partFits,
        .inr ⟨along.state, unfinished, step.next, rfl, placeNext⟩⟩⟩
      rw [List.isEmpty_eq_false_iff.mpr unfinished]
  | needsMoreOutput =>
      obtain ⟨full, pending⟩ := returns.needsMoreOutput result
      by_cases large : maxBufferSize ≤ work.bufferSize
      · simp only [if_pos large]
        refine .inr ⟨_, rfl, .inr ⟨_, rfl, rfl, ?_⟩⟩
        rw [brotliRoom_of_le large] at written
        omega
      · simp only [if_neg large]
        have small := Nat.lt_of_not_le large
        refine .inl ⟨_, rfl, ?_, ?_⟩
        · constructor
          · exact along.state
          · exact Nat.lt_min.mpr ⟨by omega, by decide⟩
          · exact ⟨later, contentLater, proceeds.next⟩
          · rw [brotliRoom_of_lt small size] at written
            simp only [List.length_append]
            omega
        · simp only [List.length_append]
          omega

/-- A call for a chunk writes a part of the content, and leaves the rest of the
stream and of the content to the next call, or it exceeds its room. -/
theorem decompressBrotli_chunk
    (contract : brotli.Decodes at' blocked stream content)
    {s : CompressionStream ζ δ} {decoder : δ}
    (state : s.state = .decompressBrotli)
    (owned : s.brDecoderState = some decoder)
    (place : at' decoder (chunk ++ after) left) {fuel : Nat}
    (enough : left.length < fuel) :
    ∃ returned, s.decompressBrotli zlib brotli fuel chunk = some returned ∧
      DecodesChunk at' blocked chunk after left returned := by
  have along : DecodesAlong at' (chunkRoom chunk) after left
      { input := chunk
        output := []
        bufferSize := brotliBufferSize chunk.length
        decoder := decoder
        owner := s } :=
    { state := state
      size := brotliBufferSize_pos chunk.length
      place := ⟨left, rfl, place⟩
      written := Nat.zero_add _ }
  rw [decompressBrotli, if_pos state, owned, Option.bind_some]
  exact runLoop_establishes (DecodesAlong at' (chunkRoom chunk) after left)
    (DecodesChunk at' blocked chunk after left)
    (fun work => left.length - work.output.length)
    (fun _ along => brotliPass_along contract along) along enough

end Decode

/-- A new stream that has created its decoder. -/
def decodingStream (zlib : Zlib ζ) (decoder : δ) : CompressionStream ζ δ :=
  { (newStream zlib .brotli : CompressionStream ζ δ) with
    state := .decompressBrotli
    brDecoderState := some decoder }

theorem decompress_of_decompressBrotli {s : CompressionStream ζ δ}
    (state : s.state = .decompressBrotli) (fuel : Nat) (chunk : List UInt8) :
    s.decompress zlib brotli fuel chunk =
      s.decompressBrotli zlib brotli fuel chunk := by
  rw [decompress, if_pos state]

theorem decompress_new_brotli (zlib : Zlib ζ) {decoder : δ}
    (created : brotli.createInstance = some decoder) {chunk : List UInt8}
    (nonempty : chunk ≠ []) (fuel : Nat) :
    (newStream zlib .brotli).decompress zlib brotli fuel chunk =
      (decodingStream zlib (brotli.setLargeWindow decoder)).decompress zlib
        brotli fuel chunk := by
  have some : 0 < chunk.length := List.length_pos_iff.mpr nonempty
  rw [decompress_of_decompressBrotli
    (s := decodingStream zlib (brotli.setLargeWindow decoder)) rfl]
  rw [decompress, if_neg (fun new => by cases new), if_pos ⟨rfl, some⟩]
  simp only [newStream, decodingStream, decompressBrotli, created, if_true,
    Option.bind_some]
  rfl

section Chunks

variable (zlib : Zlib ζ) {s : CompressionStream ζ δ} {fuel : Nat}

theorem readyToDecode_done {left : List UInt8}
    (ready : ReadyToDecode at' content s [] left) : left = [] := by
  obtain ⟨-, ⟨-, noneLeft⟩ | ⟨-, unfinished, -⟩⟩ := ready
  · exact noneLeft
  · exact absurd rfl unfinished

theorem decompress_passes
    (contract : brotli.Decodes at' blocked stream content)
    (enough : content.length < fuel) {chunk after left : List UInt8}
    (nonempty : chunk ≠ [])
    (ready : ReadyToDecode at' content s (chunk ++ after) left) :
    (∃ part later next, s.decompress zlib brotli fuel chunk =
        some (.ok (part, after.isEmpty), next) ∧ left = part ++ later ∧
          ReadyToDecode at' content next after later ∧
            part.length ≤ chunkRoom chunk) ∨
      ∃ error next, s.decompress zlib brotli fuel chunk =
        some (.error error, next) ∧
          ExceedsRoom blocked chunk after left error := by
  obtain ⟨leftShort, ⟨finished, -⟩ | ⟨state, -, decoder, owned, place⟩⟩ := ready
  · exact absurd finished (List.append_ne_nil_of_left_ne_nil nonempty after)
  obtain ⟨⟨result, next⟩, returned, outcome⟩ :=
    decompressBrotli_chunk contract state owned place
      (Nat.lt_of_le_of_lt leftShort enough)
  rw [← decompress_of_decompressBrotli state] at returned
  obtain ⟨part, later, rfl, rfl, fits, placeNext⟩ | ⟨error, rfl, exceeds⟩ :=
    outcome
  · rw [List.length_append] at leftShort
    exact .inl ⟨part, later, next, returned, rfl,
      ⟨by omega, placeNext⟩, fits⟩
  · exact .inr ⟨error, next, returned, exceeds⟩

end Chunks

section Cuts

variable (zlib : Zlib ζ) {chunks : List (List UInt8)} {fuel : Nat}

variable (contract : brotli.Decodes at' blocked stream content)

include contract

theorem readyToDecode_start {decoder : δ}
    (place : at' (brotli.setLargeWindow decoder) stream content) :
    ReadyToDecode at' content
      (decodingStream zlib (brotli.setLargeWindow decoder)) stream content :=
  ⟨Nat.le_refl _, .inr ⟨rfl, contract.nonempty, _, rfl, place⟩⟩

/-- However a brotli stream is cut, the calls deliver its content, or one of
them exceeds its room. -/
theorem brotli_delivers_or_breaks (cut : chunks.flatten = stream)
    (nonempty : ∀ chunk ∈ chunks, chunk ≠ []) (enough : content.length < fuel) :
    Delivers (decompress zlib brotli fuel) (newStream zlib .brotli) chunks
        content ∨
      Breaks (decompress zlib brotli fuel) (ExceedsRoom blocked)
        (newStream zlib .brotli) chunks content := by
  obtain ⟨decoder, created, place⟩ := contract.create
  have isReady := readyToDecode_start zlib contract place
  rw [← cut] at isReady
  have started : Delivers (decompress zlib brotli fuel)
        (decodingStream zlib (brotli.setLargeWindow decoder)) chunks content ∨
      Breaks (decompress zlib brotli fuel) (ExceedsRoom blocked)
        (decodingStream zlib (brotli.setLargeWindow decoder)) chunks
        content := by
    refine delivers_or_breaks (ReadyToDecode at' content) ?_
      (fun _ _ => readyToDecode_done) nonempty isReady
    intro s chunk after left chunkNonempty ready
    obtain ⟨part, later, next, returned, same, readyNext, -⟩ | fails :=
      decompress_passes zlib contract enough chunkNonempty ready
    · exact .inl ⟨part, later, next, returned, same, readyNext⟩
    · exact .inr fails
  cases chunks with
  | nil => exact absurd cut.symm contract.nonempty
  | cons first chunks =>
      have same := decompress_new_brotli zlib created
        (nonempty first List.mem_cons_self) fuel
      obtain delivers | breaks := started
      · exact .inl ((delivers_congr same chunks content).mpr delivers)
      · exact .inr (breaks.congr same.symm)

theorem length_le_of_brotli_delivers (cut : chunks.flatten = stream)
    (nonempty : ∀ chunk ∈ chunks, chunk ≠ []) (enough : content.length < fuel)
    (delivers : Delivers (decompress zlib brotli fuel) (newStream zlib .brotli)
      chunks content) :
    content.length ≤ (chunks.map chunkRoom).sum := by
  obtain ⟨decoder, created, place⟩ := contract.create
  have isReady := readyToDecode_start zlib contract place
  rw [← cut] at isReady
  cases chunks with
  | nil => exact absurd cut.symm contract.nonempty
  | cons first chunks =>
      have same := decompress_new_brotli zlib created
        (nonempty first List.mem_cons_self) fuel
      refine length_le_of_delivers (ReadyToDecode at' content) ?_
        (fun _ _ => readyToDecode_done) nonempty isReady
        ((delivers_congr same chunks content).mp delivers)
      intro s chunk after left chunkNonempty ready
      obtain passes | ⟨error, next, failed, -⟩ :=
        decompress_passes zlib contract enough chunkNonempty ready
      · exact .inl passes
      · exact .inr ⟨error, next, failed⟩

theorem brotli_delivers_of_le (cut : chunks.flatten = stream)
    (nonempty : ∀ chunk ∈ chunks, chunk ≠ []) (enough : content.length < fuel)
    (short : content.length ≤ maxBufferSize) :
    Delivers (decompress zlib brotli fuel) (newStream zlib .brotli) chunks
      content := by
  obtain delivers | breaks :=
    brotli_delivers_or_breaks zlib contract cut nonempty enough
  · exact delivers
  · obtain ⟨chunk, after, left, error, suffix, -, exceeds⟩ :=
      breaks.exists_reason
    have room := maxBufferSize_le_chunkRoom chunk
    have leftShort := suffix.length_le
    omega

end Cuts

end OpenAppsec.Compression
