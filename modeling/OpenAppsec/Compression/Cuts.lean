import OpenAppsec.Compression.BrotliCuts
import OpenAppsec.Compression.InflatedCuts

/-!
# Cuts of a compressed stream

`decompress` gives the content of a stream however the stream is cut.  There
are two limits.  A brotli stream may have chunks with more content than a call
has room for.  And a stream of unknown type is guessed from its first chunk:
the zlib streams that begin otherwise than the three that `isBrotli` knows can
pass for brotli.
-/

namespace OpenAppsec.Compression

open StreamDecoders CompressionStream

variable {ζ δ : Type}

/-- A gzip or zlib stream is delivered, unless it is taken for brotli.  A brotli
stream is delivered precisely unless a call exceeds its room; a content that
the largest buffer holds is always delivered, one that all calls together have
no room for is not. -/
theorem decompress_delivers (zlib : Zlib ζ) (brotli : Brotli δ)
    {chunks : List (List UInt8)} {content : List UInt8}
    (nonempty : ∀ chunk ∈ chunks, chunk ≠ []) {fuel : Nat}
    (enough : chunks.flatten.length + content.length < fuel) :
    (∀ (at' : ζ → List UInt8 → List UInt8 → Prop) (type : CompressionType),
      zlib.Inflates at' chunks.flatten content → type ≠ .brotli →
        (type = .noCompression →
          ∀ first ∈ chunks.head?, probe brotli first = false) →
        Delivers (decompress zlib brotli fuel) (newStream zlib type) chunks
          content) ∧
    ∀ (at' : δ → List UInt8 → List UInt8 → Prop)
      (blocked : List UInt8 → List UInt8),
      brotli.Decodes at' blocked chunks.flatten content →
        (¬Delivers (decompress zlib brotli fuel) (newStream zlib .brotli) chunks
            content ↔
          Breaks (decompress zlib brotli fuel) (ExceedsRoom blocked)
            (newStream zlib .brotli) chunks content) ∧
        (content.length ≤ maxBufferSize →
          Delivers (decompress zlib brotli fuel) (newStream zlib .brotli) chunks
            content) ∧
        (Delivers (decompress zlib brotli fuel) (newStream zlib .brotli) chunks
            content →
          content.length ≤ (chunks.map chunkRoom).sum) := by
  constructor
  · intro at' type contract notBrotli notTaken
    exact inflate_delivers contract rfl nonempty notBrotli notTaken enough
  · intro at' blocked contract
    have enoughContent : content.length < fuel := by omega
    refine ⟨⟨?_, Breaks.not_delivers⟩, ?_, ?_⟩
    · exact Or.resolve_left
        (brotli_delivers_or_breaks zlib contract rfl nonempty enoughContent)
    · exact brotli_delivers_of_le zlib contract rfl nonempty enoughContent
    · exact length_le_of_brotli_delivers zlib contract rfl nonempty
        enoughContent

/-- An `inflate` for one stream, that writes the content when at most the last
byte of the stream is missing; it does not take that byte before the content
fits. -/
def heldInflate (stream content : List UInt8) :
    Zlib (List UInt8 × List UInt8) where
  zeroed := ([], [])
  inflateInit2 _ _ := (zOk, (stream, content))
  inflate z input space :=
    let consumed :=
      if z.2.length ≤ space then
        input.length
      else
        min input.length (z.1.length - 1)
    let rest := z.1.drop consumed
    let output := if rest.length ≤ 1 then z.2.take space else []
    let left := z.2.drop output.length
    { consumed := consumed
      output := output
      result := if rest = [] ∧ left = [] then zStreamEnd else zOk
      next := (rest, left) }
  inflateEnd := id
  deflateEnd := id

theorem heldInflate_inflates {stream content : List UInt8}
    (nonempty : stream ≠ []) :
    (heldInflate stream content).Inflates
      (fun z rest left => z = (rest, left)) stream content := by
  refine ⟨nonempty, rfl, rfl, ?_⟩
  rintro - input after left space rfl inputNonempty pos
  have some : 0 < input.length := List.length_pos_iff.mpr inputNonempty
  simp only [heldInflate]
  generalize consumedEq : (if left.length ≤ space then input.length else
    min input.length ((input ++ after).length - 1)) = consumed
  have bounded : consumed ≤ input.length := by
    rw [← consumedEq]
    split
    · exact Nat.le_refl _
    · exact Nat.min_le_left _ _
  have rest : (input ++ after).drop consumed = input.drop consumed ++ after :=
    List.drop_append_of_le_length bounded
  have restLength : (input.drop consumed ++ after).length =
      input.length - consumed + after.length := by
    rw [List.length_append, List.length_drop]
  rw [List.length_append] at consumedEq
  rw [rest]
  generalize outputEq : (if (input.drop consumed ++ after).length ≤ 1 then
    left.take space else []) = output
  have fits : output.length ≤ space := by
    rw [← outputEq]
    split
    · exact List.length_take_le _ _
    · exact Nat.zero_le _
  have written : left = output ++ left.drop output.length := by
    rw [← outputEq]
    split
    · exact (List.prefix_iff_eq_append.mp (List.take_prefix space left)).symm
    · rfl
  refine ⟨left.drop output.length, ⟨bounded, fits, written, rfl⟩, ?_⟩
  have ended : (if input.drop consumed ++ after = [] ∧
      left.drop output.length = [] then zStreamEnd else zOk) = zStreamEnd ↔
        input.drop consumed ++ after = [] ∧ left.drop output.length = [] := by
    split
    · rename_i atEnd
      exact iff_of_true rfl atEnd
    · rename_i notAtEnd
      exact iff_of_false (by decide) notAtEnd
  constructor
  · simp only
    split
    · exact .inr rfl
    · exact .inl rfl
  · exact ended
  · by_cases short : left.length ≤ space
    · rw [if_pos short] at consumedEq
      exact .inl consumedEq.symm
    · rw [if_neg short] at consumedEq
      by_cases all : consumed = input.length
      · exact .inl all
      · right; left
        rw [← outputEq, if_pos (by omega), List.length_take]
        omega
  · intro finished
    have lengths := congrArg List.length finished
    rw [restLength, List.length_nil] at lengths
    by_cases short : left.length ≤ space
    · rw [if_pos (by omega), List.take_of_length_le short] at outputEq
      rw [← outputEq, List.drop_length]
    · rw [if_neg short] at consumedEq
      omega

/-- A decoder for one stream, that writes the content when the whole stream is
there. -/
def heldBrotli (stream content : List UInt8) :
    Brotli (List UInt8 × List UInt8) where
  createInstance := some (stream, content)
  setLargeWindow := id
  decompressStream decoder input space :=
    let rest := decoder.1.drop input.length
    let output := if rest = [] then decoder.2.take space else []
    let left := decoder.2.drop output.length
    { consumed := input.length
      output := output
      result :=
        if rest ≠ [] then
          .needsMoreInput
        else if left = [] then
          .success
        else
          .needsMoreOutput
      next := (rest, left) }
  isFinished decoder := decoder = ([], [])
  errorString _ := "NO_ERROR"

theorem heldBrotli_decodes {stream content : List UInt8}
    (nonempty : stream ≠ []) :
    (heldBrotli stream content).Decodes (fun decoder rest left =>
      decoder = (rest, left)) (fun rest => if rest = [] then [] else content)
        stream content := by
  refine ⟨nonempty, ⟨_, rfl, rfl⟩, ?_⟩
  rintro - input after left space rfl pos
  simp only [heldBrotli, List.drop_left]
  have all : input.drop input.length ++ after = after := by
    rw [List.drop_length, List.nil_append]
  by_cases unfinished : after ≠ []
  · simp only [if_neg unfinished, if_pos unfinished]
    refine ⟨left, ⟨Nat.le_refl _, Nat.zero_le _, rfl, by rw [all]; rfl⟩, ?_⟩
    constructor
    · exact fun result => by cases result
    · exact fun result => by cases result
    · exact fun _ => ⟨rfl, unfinished⟩
    · exact fun result => by cases result
  · rw [not_not] at unfinished
    subst unfinished
    simp only [ne_eq, not_true_eq_false, if_true, if_false]
    have written := List.prefix_iff_eq_append.mp (List.take_prefix space left)
    refine ⟨left.drop (left.take space).length, ⟨Nat.le_refl _,
      List.length_take_le _ _, written.symm, by rw [all]⟩, ?_⟩
    by_cases noneLeft : left.drop (left.take space).length = []
    · simp only [noneLeft, if_true]
      constructor
      · exact fun result => by cases result
      · exact fun _ => ⟨⟨all, rfl⟩, rfl⟩
      · exact fun result => by cases result
      · exact fun result => by cases result
    · simp only [if_neg noneLeft]
      constructor
      · exact fun result => by cases result
      · exact fun result => by cases result
      · exact fun result => by cases result
      · intro _
        have pending := List.length_pos_iff.mpr noneLeft
        refine ⟨?_, pending⟩
        rw [List.length_drop, List.length_take] at pending
        rw [List.length_take]
        omega

/-- The content 1, 16. -/
def zlibStream : List UInt8 :=
  [0x78, 0x5e, 0x63, 0x14, 0x00, 0x00, 0x00, 0x14, 0x00, 0x12]

/-- What the decoder of brotli makes of `zlibStream`: four bytes begin a block
that is not compressed, and much longer. -/
def misledBrotli : Brotli Unit where
  createInstance := some ()
  setLargeWindow := id
  decompressStream _ input _ :=
    { consumed := input.length
      output := input.drop 4
      result := .needsMoreInput
      next := () }
  isFinished _ := false
  errorString _ := "NO_ERROR"

/-- The content 97. -/
def brotliStream : List UInt8 := [0x0b, 0x00, 0x80, 0x61, 0x03]

/-- A first chunk that is too short for the test, and the rest. -/
theorem zlibStream_delivers :
    Delivers
        (decompress (heldInflate zlibStream [1, 16]) misledBrotli 100)
        (newStream (heldInflate zlibStream [1, 16]) .noCompression)
        [zlibStream.take 3, zlibStream.drop 3] [1, 16] ∧
      Delivers
        (decompress (heldInflate zlibStream [1, 16])
          (heldBrotli brotliStream [97]) 100)
        (newStream (heldInflate zlibStream [1, 16]) .brotli)
        [brotliStream.take 2, brotliStream.drop 2] [97] := by
  constructor
  · exact (decompress_delivers (heldInflate zlibStream [1, 16]) misledBrotli
      (by decide) (by decide)).1 _ _ (heldInflate_inflates (by decide))
        (by decide) (fun _ => by decide)
  · exact ((decompress_delivers (heldInflate zlibStream [1, 16])
      (heldBrotli brotliStream [97]) (by decide) (by decide)).2 _ _
        (heldBrotli_decodes (by decide))).2.1 (by decide)

/-- 2 ^ 24 bytes of 0, in a block of a brotli stream. -/
def zerosBlock : List UInt8 :=
  [252, 255, 255, 7, 0, 2, 32, 30, 11, 40, 247, 254, 159, 1]

/-- 2 ^ 29 bytes of 0. -/
def zerosStream : List UInt8 :=
  0x0c :: (List.replicate 32 zerosBlock).flatten ++ [0x03]

theorem chunkRoom_zerosStream : chunkRoom zerosStream = 2 ^ 29 - 2 ^ 14 := by
  have length : zerosStream.length = 450 := by
    rw [zerosStream, List.length_append, List.length_cons, List.length_flatten,
      List.map_replicate, List.sum_replicate_nat]
    rfl
  have size : brotliBufferSize 450 = 16384 := by decide
  rw [chunkRoom, length, size]
  simp [brotliRoom, maxBufferSize]

/-- In one chunk, `zerosStream` exceeds the room, and `zlibStream` is taken for
brotli. -/
theorem one_chunk_not_delivers :
    ((heldBrotli zerosStream (List.replicate (2 ^ 29) 0)).Decodes
        (fun decoder rest left => decoder = (rest, left))
        (fun rest => if rest = [] then [] else List.replicate (2 ^ 29) 0)
        zerosStream (List.replicate (2 ^ 29) 0) ∧
      ¬Delivers
        (decompress (heldInflate zlibStream [1, 16])
          (heldBrotli zerosStream (List.replicate (2 ^ 29) 0)) (2 ^ 30))
        (newStream (heldInflate zlibStream [1, 16]) .brotli)
        [zerosStream] (List.replicate (2 ^ 29) 0)) ∧
    (heldInflate zlibStream [1, 16]).Inflates
        (fun z rest left => z = (rest, left)) zlibStream [1, 16] ∧
      ¬Delivers
        (decompress (heldInflate zlibStream [1, 16]) misledBrotli 100)
        (newStream (heldInflate zlibStream [1, 16]) .noCompression)
        [zlibStream] [1, 16] := by
  have contract := @heldBrotli_decodes zerosStream (List.replicate (2 ^ 29) 0)
    (by decide)
  refine ⟨⟨contract, ?_⟩, heldInflate_inflates (by decide), ?_⟩
  · intro delivers
    have fits := length_le_of_brotli_delivers _ contract
      List.flatten_singleton (by decide)
      (by rw [List.length_replicate]; decide) delivers
    rw [List.length_replicate, List.map_singleton, List.sum_singleton,
      chunkRoom_zerosStream] at fits
    exact absurd fits (by decide)
  · have misled : runCalls
        (decompress (heldInflate zlibStream [1, 16]) misledBrotli 100)
        (newStream (heldInflate zlibStream [1, 16]) .noCompression)
        [zlibStream] = some [.ok ([0, 0, 0, 20, 0, 18], false)] := by
      rfl
    rintro ⟨parts, ran, -⟩
    rw [misled] at ran
    cases parts with
    | nil => cases ran
    | cons part parts =>
        cases parts <;> simp [flagged] at ran

end OpenAppsec.Compression
