import OpenAppsec.Attachment.BodyModifier
import OpenAppsec.Attachment.ListIterator

/-!
# The header modifier of the nginx attachment

The modifier goes over the list of modifications up to the first one of the
body, makes those of the headers and releases their nodes.  The filter then
gives the same list to the body modifier.
-/

namespace OpenAppsec.HeaderModifier

open BodyModifier Insertions ListIterator

structure Header where
  key : List UInt8
  value : List UInt8
  deriving DecidableEq

/-- A change of the headers of a request. -/
inductive HeaderEdit where
  | append (header : Header)
  | inject (index pos : Nat) (data : List UInt8)
  | replace (index : Nat) (data : List UInt8)
  deriving DecidableEq

/-- The state of the modifier: the headers and their iterator, the place of the
next node, and the changes that were made, each with the place of its node. -/
structure Pass where
  headers : NgxList Header
  iterator : Iterator
  place : Nat
  edits : List (Nat × HeaderEdit)
  released : List Nat

/-- How the modifier ends: in `assert(0)`, which ends the worker, by an access
out of bounds, by `NGX_ERROR` or by `NGX_OK`. -/
inductive Outcome where
  | aborts
  | overruns
  | failed (pass : Pass)
  | finished (pass : Pass)

/-- A copy of the data of a node. -/
inductive Copied where
  | overruns
  | refused
  | copied (data : List UInt8)
  deriving DecidableEq

/-- The parameters for the sizes are `int16_t`. -/
def dataSize (node : ModificationNode) : Int :=
  (BitVec.ofNat 16 node.injectionSize).toInt

/-- A negative size asks for more memory than there is, and the size before
zero for none and a copy without end. -/
def copyData (node : ModificationNode) : Copied :=
  if dataSize node + 1 < 0 then .refused
  else if dataSize node < 0 then .overruns
  else .copied (node.modificationBuffer.takeD (dataSize node).toNat 0)

inductive Pushed where
  | overruns
  | failed (headers : NgxList Header)
  | pushed (header : Header) (headers : NgxList Header)

section Modifier

/- Whether the last part of a list is full, and what a pushed element holds
before it is set. -/
variable (full : NgxList Header → Bool) (unset : Header)

/-- `push_header_to_list`. -/
def pushHeaderToList (key value : ModificationNode)
    (headers : NgxList Header) : Pushed :=
  match copyData key with
  | .overruns => .overruns
  | .refused => .failed (headers.push (full headers) unset)
  | .copied keyData =>
      match copyData value with
      | .overruns => .overruns
      | .refused =>
          .failed (headers.push (full headers) { unset with key := keyData })
      | .copied valueData =>
          let header := { key := keyData, value := valueData }
          .pushed header (headers.push (full headers) header)

/-- `inject_buffer`: none for a position behind the value. -/
def injectBuffer (value : List UInt8) (pos : Nat) (data : List UInt8) :
    Option (List UInt8) :=
  if value.length < pos then none else some (insertAt value { pos, data })

/-- The nodes from here on are released. -/
def Pass.freeModificationsList (pass : Pass)
    (modifications : List ModificationNode) : Pass :=
  { pass with
    released := pass.released ++ List.range' pass.place modifications.length }

/-- The state behind an appended header, whose two nodes are released. -/
def Pass.appended (pass : Pass) (header : Header)
    (headers : NgxList Header) : Pass :=
  { pass with
    headers
    place := pass.place + 2
    edits := pass.edits ++ [(pass.place, .append header)]
    released := pass.released ++ [pass.place + 1, pass.place] }

/-- The state behind an injection into the value of a header. -/
def Pass.injectedAt (pass : Pass) (location : Location) (iterator : Iterator)
    (node : ModificationNode) (value : List UInt8) : Pass :=
  { headers := pass.headers.update location fun header =>
      { header with value }
    iterator
    place := pass.place + 1
    edits := pass.edits ++
      [(pass.place, .inject (pass.headers.position location)
        node.injectionPos.toNat (injected node))]
    released := pass.released ++ [pass.place] }

/-- A replacement only clears the length of the content of a response: for a
request nothing but the node changes. -/
def Pass.passed (pass : Pass) : Pass :=
  { pass with
    place := pass.place + 1
    released := pass.released ++ [pass.place] }

/-- `ngx_http_cp_header_modifier` for a request, from a node on. -/
def ngxHttpCpHeaderModifier : List ModificationNode → Pass → Outcome
  | [], pass => .finished pass
  | node :: rest, pass =>
      if node.isHeader = 0 then .finished pass
      else
        match node.modType with
        | .append =>
            match rest with
            | [] => .failed (pass.freeModificationsList [node])
            | value :: rest =>
                if value.isHeader = 0 then
                  .failed (pass.freeModificationsList (node :: value :: rest))
                else
                  match pushHeaderToList full unset node value
                      pass.headers with
                  | .overruns => .overruns
                  | .failed headers =>
                      .failed ({ pass with headers }.freeModificationsList
                        (node :: value :: rest))
                  | .pushed header headers =>
                      ngxHttpCpHeaderModifier rest
                        (pass.appended header headers)
        | .inject =>
            match getListElement pass.headers node.origBuffIndex.toNat
                pass.iterator with
            -- both messages are of the level that asserts
            | (none, _) => .aborts
            | (some location, iterator) =>
                if node.injectionPos < 0 then .aborts
                else
                  match pass.headers.read location with
                  | none => .overruns
                  | some header =>
                      match injectBuffer header.value node.injectionPos.toNat
                          (injected node) with
                      | none =>
                          .failed (pass.freeModificationsList (node :: rest))
                      | some value =>
                          ngxHttpCpHeaderModifier rest
                            (pass.injectedAt location iterator node value)
        | .replace => ngxHttpCpHeaderModifier rest pass.passed

/-- The request that the filter hands on, with the changes of its headers and
the nodes that the two modifiers released. -/
structure Request where
  headers : NgxList Header
  edits : List (Nat × HeaderEdit)
  chain : List (List UInt8)
  ofHeaders : List Nat
  released : List Nat

/-- The modifications of `ngx_http_cp_req_body_filter_sync`; `none` if the
worker aborts, a released node is read or memory is accessed out of bounds. -/
def modifyRequest (modifications : List ModificationNode)
    (headers : NgxList Header) (chain : List (List UInt8)) : Option Request :=
  match ngxHttpCpHeaderModifier full unset modifications
      { headers
        iterator := initListIterator
        place := 0
        edits := []
        released := [] } with
  | .aborts | .overruns => none
  | .failed pass =>
      some
        { headers := pass.headers
          edits := pass.edits
          chain
          ofHeaders := pass.released
          released := pass.released }
  | .finished pass =>
      (bodyModifier modifications 0 chain 0 pass.released).map fun result =>
        { headers := pass.headers
          edits := pass.edits
          chain := result.1
          ofHeaders := pass.released
          released := result.2 }

end Modifier

def HeaderEdit.apply (headers : List Header) : HeaderEdit → List Header
  | .append header => headers ++ [header]
  | .inject index pos data =>
      headers.modify index fun header =>
        { header with value := insertAt header.value { pos, data } }
  | .replace index data =>
      headers.modify index fun header => { header with value := data }

/-- The header that the two nodes of an appended one describe. -/
def appendedHeader (key value : ModificationNode) : Header :=
  { key := injected key, value := injected value }

/-- An injection into a header that is there, at a position of its value. -/
def wantedInjection (node : ModificationNode) (headers : List Header) :
    Option HeaderEdit :=
  match headers[node.origBuffIndex.toNat]? with
  | none => none
  | some header =>
      if 0 ≤ node.injectionPos ∧ node.injectionPos ≤ header.value.length then
        some (.inject node.origBuffIndex.toNat node.injectionPos.toNat
          (injected node))
      else none

def wantedReplacement (node : ModificationNode) (headers : List Header) :
    Option HeaderEdit :=
  if node.origBuffIndex.toNat < headers.length then
    some (.replace node.origBuffIndex.toNat (injected node))
  else none

/-- The changes that the well-formed header modifications of a list ask for,
each with the place of its first node: the key of an appended header has its
value behind it, and the header that is changed is there. -/
def wantedEdits : Nat → List ModificationNode → List Header →
    List (Nat × HeaderEdit)
  | _, [], _ => []
  | place, node :: rest, headers =>
      if node.isHeader = 0 then wantedEdits (place + 1) rest headers
      else
        match node.modType with
        | .append =>
            match rest with
            | [] => []
            | value :: rest =>
                if value.isHeader = 0 then
                  wantedEdits (place + 1) (value :: rest) headers
                else
                  (place, .append (appendedHeader node value)) ::
                    wantedEdits (place + 2) rest
                      (headers ++ [appendedHeader node value])
        | .inject =>
            match wantedInjection node headers with
            | none => wantedEdits (place + 1) rest headers
            | some edit =>
                (place, edit) ::
                  wantedEdits (place + 1) rest (edit.apply headers)
        | .replace =>
            match wantedReplacement node headers with
            | none => wantedEdits (place + 1) rest headers
            | some edit =>
                (place, edit) ::
                  wantedEdits (place + 1) rest (edit.apply headers)

def bodyNodes (modifications : List ModificationNode) :
    List ModificationNode :=
  modifications.filter fun node => node.isHeader = 0

/-- The places of the body modifications in the list. -/
def bodyPlaces (modifications : List ModificationNode) : List Nat :=
  (modifications.zipIdx.filter fun entry => entry.1.isHeader = 0).map Prod.snd

/-- Each well-formed header modification was made once on the headers, each
body modification once on the body, and nothing else; no node was released
twice. -/
structure Request.Made (modifications : List ModificationNode)
    (headers : List Header) (chain : List (List UInt8)) (request : Request) :
    Prop where
  edits : request.edits = wantedEdits 0 modifications headers
  headers : request.headers.elements =
    ((wantedEdits 0 modifications headers).map Prod.snd).foldl
      HeaderEdit.apply headers
  chain : request.chain = modified (bodyNodes modifications) 0 chain
  ofBody : ∃ applied, request.released = request.ofHeaders ++ applied ∧
    applied.Perm (bodyPlaces modifications)
  once : request.released.Nodup

/-- The modifications of a request are made. -/
def MadeOnce (modifications : List ModificationNode) (headers : List Header)
    (chain : List (List UInt8)) (result : Option Request) : Prop :=
  ∃ request, result = some request ∧
    request.Made modifications headers chain

end OpenAppsec.HeaderModifier
