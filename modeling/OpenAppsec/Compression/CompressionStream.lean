import Mathlib.Algebra.Ring.Nat
import Mathlib.Order.Nat
import OpenAppsec.Library.FueledLoop
import OpenAppsec.Library.StreamDecoders

/-!
# Decompression

A compression stream gives the chunks of a compressed body to `inflate` or to
the decoder of brotli.  What is compressed how is told by a type, or guessed
from the first chunk.  The two libraries are parameters.
-/

namespace OpenAppsec.Compression

open FueledLoop StreamDecoders

/-- `CompressionType`; `UNKNOWN_COMPRESSION` is `NO_COMPRESSION`. -/
inductive CompressionType where
  | noCompression
  | gzip
  | zlib
  | brotli
  deriving DecidableEq

/-- `CompressionStream::TYPE`. -/
inductive StreamState where
  | uninitialized
  | compress
  | decompress
  | compressBrotli
  | decompressBrotli
  deriving DecidableEq

def zOk : Int := 0

def zStreamEnd : Int := 1

def zStreamError : Int := -2

def zDataError : Int := -3

def zMemError : Int := -4

def zBufError : Int := -5

def zVersionError : Int := -6

structure Zlib (ζ : Type) where
  /-- A `z_stream` of zero bytes. -/
  zeroed : ζ
  inflateInit2 : ζ → Int → Int × ζ
  inflate : ζ → List UInt8 → Nat → Step ζ UInt8 Int
  inflateEnd : ζ → ζ
  deflateEnd : ζ → ζ

inductive BrotliDecoderResult where
  | error
  | success
  | needsMoreInput
  | needsMoreOutput
  deriving DecidableEq

structure Brotli (δ : Type) where
  createInstance : Option δ
  /-- `BrotliDecoderSetParameter` with `BROTLI_DECODER_PARAM_LARGE_WINDOW`. -/
  setLargeWindow : δ → δ
  decompressStream : δ → List UInt8 → Nat → Step δ UInt8 BrotliDecoderResult
  isFinished : δ → Bool
  errorString : δ → String

def maxRetries : Nat := 3

def defaultBrotliBufferSize : Nat := 16384

def brotliDecompressionProbeSize : Nat := 64

def defaultNumWindowBits : Int := 15

/-- The capacity of `work_space`. -/
def workSpaceCapacity : Nat := 4096

/-- `max_buffer_size`. -/
def maxBufferSize : Nat := 256 * 1024 * 1024

def getZlibError (zlibErrorCode : Int) : String :=
  if zlibErrorCode = zBufError then
    "No progress was possible (possibly no more input data or not enough " ++
      "output buffer space)"
  else if zlibErrorCode = zStreamError then
    "Inconsistent compression stream state"
  else if zlibErrorCode = zDataError then
    "Invalid or corrupted stream data"
  else if zlibErrorCode = zMemError then
    "Out of memory"
  else if zlibErrorCode = zVersionError then
    "zlib version mismatch"
  else
    "zlib error occurred. Error code: " ++ toString zlibErrorCode

structure CompressionStream (ζ δ : Type) where
  compressionType : CompressionType
  stream : ζ
  state : StreamState
  brDecoderState : Option δ

/-- What a call returns or throws. -/
abbrev Result := Except String (List UInt8 × Bool)

variable {ζ δ : Type} (zlib : Zlib ζ) (brotli : Brotli δ)

/-- `initCompressionStream` and `setCompressionType`. -/
def newStream (type : CompressionType) : CompressionStream ζ δ where
  compressionType := type
  stream := zlib.zeroed
  state := .uninitialized
  brDecoderState := none

namespace CompressionStream

def fini (s : CompressionStream ζ δ) : CompressionStream ζ δ :=
  { s with
    stream := match s.state with
      | .decompress => zlib.inflateEnd s.stream
      | .compress => zlib.deflateEnd s.stream
      | _ => s.stream
    state := .uninitialized
    brDecoderState := none }

def initInflate (s : CompressionStream ζ δ) :
    Except String Unit × CompressionStream ζ δ :=
  if s.state ≠ .uninitialized then
    (.ok (), s)
  else
    let (initStatus, stream) :=
      zlib.inflateInit2 s.stream (defaultNumWindowBits + 32)
    if initStatus ≠ zOk then
      (.error ("Failed to initialize decompression stream. Error: " ++
        getZlibError initStatus), { s with stream := stream })
    else
      (.ok (), { s with stream := stream, state := .decompress })

/-- The variables of the loop that inflates a chunk. -/
structure Inflating (ζ δ : Type) where
  input : List UInt8
  res : List UInt8
  retries : Nat
  owner : CompressionStream ζ δ

def inflatePass (work : Inflating ζ δ) :
    Inflating ζ δ ⊕ (Result × CompressionStream ζ δ) :=
  if work.input = [] then
    .inr (.ok (work.res, false), work.owner)
  else
    let step := zlib.inflate work.owner.stream work.input workSpaceCapacity
    let owner := { work.owner with stream := step.next }
    if step.result ≠ zOk ∧ step.result ≠ zStreamEnd then
      .inr (.error ("error in 'inflate': " ++ getZlibError step.result),
        owner.fini zlib)
    else if step.output = [] ∧ maxRetries < work.retries + 1 then
      .inr (.error "No results from inflate more than three times",
        owner.fini zlib)
    else if step.result = zStreamEnd then
      .inr (.ok (work.res ++ step.output, true), owner.fini zlib)
    else
      .inl
        { input := work.input.drop step.consumed
          res := work.res ++ step.output
          retries :=
            if step.output = [] then work.retries + 1 else work.retries
          owner := owner }

/-- `decompress` with `inflate`. -/
def decompressInflate (fuel : Nat) (data : List UInt8)
    (s : CompressionStream ζ δ) : Option (Result × CompressionStream ζ δ) :=
  match s.initInflate zlib with
  | (.error message, s) => some (.error message, s)
  | (.ok (), s) =>
      if s.state ≠ .decompress then
        some (.error "Could not start decompression", s)
      else
        runLoop (inflatePass zlib) fuel
          { input := data, res := [], retries := 0, owner := s }

/-- The variables of the loop that gives a chunk to the decoder of brotli. -/
structure Decoding (ζ δ : Type) where
  input : List UInt8
  output : List UInt8
  bufferSize : Nat
  decoder : δ
  owner : CompressionStream ζ δ

def brotliPass (work : Decoding ζ δ) :
    Decoding ζ δ ⊕ (Result × CompressionStream ζ δ) :=
  let step := brotli.decompressStream work.decoder work.input work.bufferSize
  let owner := { work.owner with brDecoderState := some step.next }
  let output := work.output ++ step.output
  let input := work.input.drop step.consumed
  match step.result with
  | .error =>
      .inr (.error ("Brotli decompression error: " ++
        brotli.errorString step.next), owner.fini zlib)
  | .success =>
      if brotli.isFinished step.next then
        .inr (.ok (output, true), owner.fini zlib)
      else
        .inr (.ok (output, false), owner)
  | .needsMoreOutput =>
      if maxBufferSize ≤ work.bufferSize then
        .inr (.error ("Brotli decompression buffer size limit exceeded - " ++
          "possibly corrupted data"), owner.fini zlib)
      else
        .inl
          { input := input
            output := output
            bufferSize := min (work.bufferSize * 2) maxBufferSize
            decoder := step.next
            owner := owner }
  | .needsMoreInput =>
      if input = [] then
        .inr (.ok (output, false), owner)
      else
        .inl
          { input := input
            output := output
            bufferSize := work.bufferSize
            decoder := step.next
            owner := owner }

/-- The size of the first buffer; `size * 4` has 32 bits. -/
def brotliBufferSize (size : Nat) : Nat :=
  max (size * 4 % 2 ^ 32) defaultBrotliBufferSize

/-- The result is missing too where the code would use a decoder that it has
not. -/
def decompressBrotli (fuel : Nat) (data : List UInt8)
    (s : CompressionStream ζ δ) : Option (Result × CompressionStream ζ δ) :=
  if s.state = .decompressBrotli then
    s.brDecoderState.bind fun decoder =>
      runLoop (brotliPass zlib brotli) fuel
        { input := data
          output := []
          bufferSize := brotliBufferSize data.length
          decoder := decoder
          owner := s }
  else
    match brotli.createInstance with
    | none =>
        some (.error "Failed to create Brotli decoder state",
          { s with brDecoderState := none })
    | some decoder =>
        runLoop (brotliPass zlib brotli) fuel
          { input := data
            output := []
            bufferSize := brotliBufferSize data.length
            decoder := brotli.setLargeWindow decoder
            owner :=
              { s with
                state := .decompressBrotli
                brDecoderState := some (brotli.setLargeWindow decoder) } }

/-- The test of `isBrotli`: the beginning of the data is not that of a gzip or
a zlib stream, and a decoder gets along with it. -/
def probe (data : List UInt8) : Bool :=
  if data.length < 4 then
    false
  else if data.take 2 = [0x1f, 0x8b] then
    false
  else if data.take 2 = [0x78, 0x01] ∨ data.take 2 = [0x78, 0x9c] ∨
      data.take 2 = [0x78, 0xda] then
    false
  else
    match brotli.createInstance with
    | none => false
    | some testDecoder =>
        let step := brotli.decompressStream testDecoder
          (data.take brotliDecompressionProbeSize) brotliDecompressionProbeSize
        step.result ≠ .error && (step.output ≠ [] || 0 < step.consumed)

def isBrotli (data : List UInt8) (s : CompressionStream ζ δ) :
    Bool × CompressionStream ζ δ :=
  if probe brotli data then
    (true,
      { s with
        state := .decompressBrotli
        brDecoderState := brotli.createInstance.map brotli.setLargeWindow })
  else
    (false, s)

def decompress (fuel : Nat) (s : CompressionStream ζ δ) (data : List UInt8) :
    Option (Result × CompressionStream ζ δ) :=
  if s.state = .decompressBrotli then
    s.decompressBrotli zlib brotli fuel data
  else if s.state = .uninitialized ∧ 0 < data.length then
    match s.compressionType with
    | .brotli => s.decompressBrotli zlib brotli fuel data
    | .gzip | .zlib => s.decompressInflate zlib fuel data
    | .noCompression =>
        match s.isBrotli brotli data with
        | (true, s) => s.decompressBrotli zlib brotli fuel data
        | (false, s) => s.decompressInflate zlib fuel data
  else
    s.decompressInflate zlib fuel data

end CompressionStream

end OpenAppsec.Compression
