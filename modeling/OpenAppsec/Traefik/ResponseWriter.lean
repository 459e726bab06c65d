import Mathlib.Algebra.Group.Nat.Defs
import Mathlib.Tactic.Common

/-!
# The response writer of a request

The part of `net/http` that the plugin writes its responses to: a header map,
at most one final status with a copy of that map, and the body bytes that the
status and the declared length allow.
-/

namespace OpenAppsec.Traefik

/-- `http.Header`, with its keys in canonical form. -/
abbrev Header := List (String × String)

def Header.get (key : String) (header : Header) : String :=
  ((header.find? fun field => field.1 = key).map Prod.snd).getD ""

def Header.set (key value : String) (header : Header) : Header :=
  (header.filter fun field => field.1 ≠ key) ++ [(key, value)]

/-- `strconv.ParseUint` for decimal digits and 64 bits, with whether the text
is valid. -/
def parseUint (text : String) : Nat × Bool :=
  let digits := text.toList
  if digits = [] ∨ ¬digits.all Char.isDigit then (0, false)
  else
    let value := digits.foldl
      (fun value digit => 10 * value + (digit.toNat - '0'.toNat)) 0
    if value < 2 ^ 64 then (value, true) else (2 ^ 64 - 1, false)

/-- The length that a header declares: a value that does not parse is removed
from the response. -/
def Header.declaredLength (header : Header) : Option Nat :=
  let (value, isValid) := parseUint (header.get "Content-Length")
  if isValid ∧ value < 2 ^ 63 then some value else none

def bodyAllowedForStatus (status : Int) : Bool :=
  ¬(100 ≤ status ∧ status ≤ 199) && status ≠ 204 && status ≠ 304

/-- What has been written for a request.  `header` can still change; the
response has the copy that was sent. -/
structure ResponseWriter where
  header : Header
  informational : List (Int × Header)
  response : Option (Int × Header)
  body : List UInt8
  written : Nat
  isHijacker : Bool
  hijacked : Bool
  deriving DecidableEq

/-- The writer of a new request. -/
def ResponseWriter.start (header : Header) (isHijacker : Bool) :
    ResponseWriter :=
  { header
    informational := []
    response := none
    body := []
    written := 0
    isHijacker
    hijacked := false }

def ResponseWriter.setHeader (key value : String) (rw : ResponseWriter) :
    ResponseWriter :=
  { rw with header := rw.header.set key value }

/-- `ResponseWriter.WriteHeader`, with whether it panics: the second final
status is ignored, and an invalid one is a panic. -/
def ResponseWriter.writeHeader (code : Int) (rw : ResponseWriter) :
    Bool × ResponseWriter :=
  if rw.hijacked ∨ rw.response ≠ none then (false, rw)
  else if code < 100 ∨ 999 < code then (true, rw)
  else if 100 ≤ code ∧ code ≤ 199 ∧ code ≠ 101 then
    (false, { rw with
      informational := rw.informational ++ [(code, rw.header)] })
  else (false, { rw with response := some (code, rw.header) })

/-- Without a status, the first write sends one. -/
def ResponseWriter.writeDefaultHeader (rw : ResponseWriter) : ResponseWriter :=
  (rw.writeHeader 200).2

/-- `ResponseWriter.Write`.  A refused write counts all the same. -/
def ResponseWriter.write (data : List UInt8) (rw : ResponseWriter) :
    ResponseWriter :=
  if rw.hijacked then rw
  else
    let rw := rw.writeDefaultHeader
    if data = [] then rw
    else
      match rw.response with
      | none => rw
      | some (status, header) =>
          if bodyAllowedForStatus status = false then rw
          else
            let rw := { rw with written := rw.written + data.length }
            match header.declaredLength with
            | some length =>
                if rw.written > length then rw
                else { rw with body := rw.body ++ data }
            | none => { rw with body := rw.body ++ data }

/-- `Flusher.Flush` sends a header if there is none. -/
def ResponseWriter.flush (rw : ResponseWriter) : ResponseWriter :=
  rw.writeDefaultHeader

def ResponseWriter.hijack (rw : ResponseWriter) : ResponseWriter :=
  if rw.isHijacker then { rw with hijacked := true } else rw

/-- The end of a request whose handler has returned. -/
def ResponseWriter.finishRequest (rw : ResponseWriter) : ResponseWriter :=
  rw.writeDefaultHeader

theorem ResponseWriter.writeHeader_of_sent {rw : ResponseWriter}
    (sent : rw.response ≠ none) (code : Int) :
    rw.writeHeader code = (false, rw) := by
  rw [writeHeader, if_pos (.inr sent)]

theorem ResponseWriter.writeHeader_of_unsent {rw : ResponseWriter} {code : Int}
    (unsent : rw.response = none) (kept : rw.hijacked = false)
    (final : ¬(100 ≤ code ∧ code ≤ 199)) :
    rw.writeHeader code =
      if 200 ≤ code ∧ code ≤ 999 then
        (false, { rw with response := some (code, rw.header) })
      else (true, rw) := by
  have open' : ¬(rw.hijacked = true ∨ rw.response ≠ none) := by
    simp [unsent, kept]
  rw [writeHeader, if_neg open']
  by_cases valid : 200 ≤ code ∧ code ≤ 999
  · rw [if_pos valid, if_neg (by omega), if_neg (by omega)]
  · rw [if_neg valid, if_pos (by omega)]

theorem ResponseWriter.writeDefaultHeader_eq {rw : ResponseWriter}
    (kept : rw.hijacked = false) :
    rw.writeDefaultHeader =
      { rw with response := some (rw.response.getD (200, rw.header)) } := by
  rw [writeDefaultHeader]
  cases sent : rw.response with
  | none =>
      rw [writeHeader_of_unsent sent kept (by decide)]
      rfl
  | some response =>
      have sent' : rw.response ≠ none := by simp [sent]
      rw [writeHeader_of_sent sent']
      cases rw
      cases sent
      rfl

/-- A chunk that the response allows is received whole. -/
theorem ResponseWriter.write_of_sent {rw : ResponseWriter}
    {response : Int × Header} {data : List UInt8}
    (sent : rw.response = some response) (kept : rw.hijacked = false)
    (counted : rw.written = rw.body.length)
    (allowed : data = [] ∨ bodyAllowedForStatus response.1 = true)
    (short : ∀ length, response.2.declaredLength = some length →
      data = [] ∨ rw.body.length + data.length ≤ length) :
    rw.write data =
      { rw with
        body := rw.body ++ data
        written := rw.written + data.length } := by
  have started : rw.writeDefaultHeader = rw := by
    rw [writeDefaultHeader, writeHeader_of_sent]
    simp [sent]
  rw [write, if_neg (by simp [kept]), started]
  dsimp only
  split
  · rename_i empty
    simp [empty]
  · rename_i filled
    rw [sent]
    dsimp only
    rw [if_neg (by simp [allowed.resolve_left filled])]
    split
    · rename_i length declared
      have bound := (short length declared).resolve_left filled
      rw [if_neg (by omega)]
    · rfl

/-- A write after the header changes the body only. -/
theorem ResponseWriter.write_keeps {rw : ResponseWriter}
    (sent : rw.response ≠ none) (data : List UInt8) :
    (rw.write data).response = rw.response ∧
      (rw.write data).informational = rw.informational ∧
      (rw.write data).hijacked = rw.hijacked ∧
      (rw.write data).header = rw.header := by
  have started : rw.writeDefaultHeader = rw := by
    rw [writeDefaultHeader, writeHeader_of_sent sent]
  rw [write]
  split
  · exact ⟨rfl, rfl, rfl, rfl⟩
  · rw [started]
    dsimp only
    split
    · exact ⟨rfl, rfl, rfl, rfl⟩
    · obtain ⟨⟨status, header⟩, response⟩ :=
        Option.ne_none_iff_exists'.mp sent
      rw [response]
      dsimp only
      split
      · exact ⟨response, rfl, rfl, rfl⟩
      · split
        · split <;> exact ⟨rfl, rfl, rfl, rfl⟩
        · exact ⟨rfl, rfl, rfl, rfl⟩

structure BlockResponse where
  code : Int
  headers : List (String × String)
  body : List UInt8
  deriving DecidableEq

def utf8 (text : String) : List UInt8 :=
  text.toUTF8.toList

/-- `writeBlock`, with whether it panics. -/
def writeBlock (block : Option BlockResponse) (rw : ResponseWriter) :
    Bool × ResponseWriter :=
  let code : Int :=
    match block with
    | some block => if block.code ≠ 0 then block.code else 403
    | none => 403
  let body :=
    match block with
    | some block => block.body
    | none => utf8 "Request blocked by open-appsec"
  let headers := (block.map BlockResponse.headers).getD []
  let rw := headers.foldl (fun rw field => rw.setHeader field.1 field.2) rw
  let rw :=
    if body ≠ [] ∧ rw.header.get "Content-Type" = "" then
      rw.setHeader "Content-Type" "text/html"
    else rw
  let rw := rw.setHeader "Content-Length" (toString body.length)
  let (panics, rw) := rw.writeHeader code
  if panics then (true, rw)
  else if body ≠ [] then (false, rw.write body)
  else (false, rw)

/-- What a handler does with its writer.  It edits the header map, which it
shares with everyone. -/
inductive HandlerCall where
  | setHeader (header : Header)
  | writeHeader (statusCode : Int)
  | write (data : List UInt8)
  | flush
  | hijack
  deriving DecidableEq

/-- A call on the writer itself, with whether it panics. -/
def ResponseWriter.call (rw : ResponseWriter) :
    HandlerCall → Bool × ResponseWriter
  | .setHeader header => (false, { rw with header })
  | .writeHeader statusCode => rw.writeHeader statusCode
  | .write data => (false, rw.write data)
  | .flush => (false, rw.flush)
  | .hijack => (false, rw.hijack)

/-- A handler for one request: the calls it makes, each with whether it
recovers from a panic there, and whether it returns in the end. -/
structure Handler where
  calls : List (HandlerCall × Bool)
  returns : Bool
  deriving DecidableEq

/-- The calls up to the first panic that the handler does not recover from. -/
def serveCalls {σ : Type*} (step : σ → HandlerCall → Bool × σ) :
    List (HandlerCall × Bool) → σ → Bool × σ
  | [], state => (false, state)
  | (call, recovers) :: calls, state =>
      let (panics, state) := step state call
      if panics ∧ ¬recovers then (true, state)
      else serveCalls step calls state

/-- `Handler.ServeHTTP`, with whether it panics. -/
def Handler.serveHTTP {σ : Type*} (step : σ → HandlerCall → Bool × σ)
    (handler : Handler) (state : σ) : Bool × σ :=
  let (panics, state) := serveCalls step handler.calls state
  (panics || !handler.returns, state)

end OpenAppsec.Traefik
