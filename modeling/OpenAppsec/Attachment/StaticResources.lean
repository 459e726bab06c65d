import OpenAppsec.Library.Trace
import OpenAppsec.Attachment.Replies

/-!
# Static resources

A request for a static resource is served from a path of the module's own.
For that the root of the location and the uri of the request are replaced;
the root is shared with all later requests of the location.
-/

namespace OpenAppsec.StaticResources

/-- A string at an address. -/
structure NgxStr where
  data : Nat
  text : List UInt8
  deriving DecidableEq

/-- The configuration of a location: its root, and the addresses of the parts
of a root with variables. -/
structure CoreLocConf where
  root : NgxStr
  rootLengths : Option Nat
  rootValues : Option Nat
  deriving DecidableEq

def ngxOk : Int := 0
def ngxError : Int := -1
def ngxAgain : Int := -2
def ngxDone : Int := -4
def notAStaticResource : Int := -5
def ngxHttpForbidden : Int := 403

/-- The settings of the worker: the path of the resources, and the table of
their names once it is initialised. -/
structure Settings where
  staticResourcesPath : NgxStr
  staticResourcesHashTable : Option (List (List UInt8))

/-- A request, and whether it is the main one. -/
structure Request (Loc : Type*) where
  location : Loc
  uri : NgxStr
  isMain : Bool

/-- What the functions of the server do in a call: the address of the
allocation, whether the path is mapped, the size of the file that is opened,
the results of the senders, and whether the request lives on after it is
finalized. -/
structure Outcome where
  nullTerminatedUri : Option Nat
  mapped : Bool
  openedSize : Option Nat
  headersSent : Int
  fileSent : Int
  alive : Bool

/-- The last place of a character before a place. -/
def reverseStrnchr (string : List UInt8) (charToFind : UInt8) :
    Nat → Option Nat
  | 0 => none
  | place + 1 =>
      if string[place]? = some charToFind then
        some place
      else
        reverseStrnchr string charToFind place

def slash : UInt8 := 47

/-- What comes after the last separator. -/
def getStaticResourceName (uri : NgxStr) : Option NgxStr :=
  (reverseStrnchr uri.text slash uri.text.length).map fun last =>
    { data := uri.data + last + 1
      text := uri.text.drop (last + 1) }

def isStaticResourceRequest (settings : Settings) (name : NgxStr) : Bool :=
  match settings.staticResourcesHashTable with
  | none => false
  | some names => names.contains name.text

def setLocationConfRoot (rootName : NgxStr)
    (rootLengths rootValues : Option Nat) (conf : CoreLocConf) :
    CoreLocConf :=
  { conf with
    root := rootName
    rootLengths := rootLengths
    rootValues := rootValues }

/-- The configuration, the uri and the result of a call. -/
structure Served where
  conf : CoreLocConf
  uri : NgxStr
  result : Int

def sendStaticContentResponseHeaders (headersSent : Int) : Int :=
  if headersSent ≠ ngxOk then ngxError else ngxOk

def sendStaticResource (settings : Settings) (name : NgxStr) (isMain : Bool)
    (outcome : Outcome) (conf : CoreLocConf) (uri : NgxStr) : Served :=
  let oldRoot := conf.root
  let oldRootLengths := conf.rootLengths
  let oldRootValues := conf.rootValues
  let swapped :=
    setLocationConfRoot settings.staticResourcesPath none none conf
  if outcome.mapped = false then
    { conf := swapped, uri := name, result := ngxError }
  else
    match outcome.openedSize with
    | none => { conf := swapped, uri := name, result := ngxError }
    | some size =>
        let sendHeadersRes :=
          sendStaticContentResponseHeaders outcome.headersSent
        if sendHeadersRes ≠ ngxOk then
          { conf := swapped, uri := name, result := sendHeadersRes }
        else if isMain = false ∧ size = 0 then
          { conf := swapped, uri := name, result := ngxOk }
        else
          { conf :=
              setLocationConfRoot oldRoot oldRootLengths oldRootValues swapped
            uri := uri
            result := outcome.fileSent }

/-- The code that a request is finalized with, if it is. -/
def finalizeRequestResponseCode (result : Int) : Option Int :=
  if result = notAStaticResource then
    none
  else if result = ngxOk ∨ result = ngxDone ∨ result = ngxAgain then
    some result
  else
    some ngxHttpForbidden

/-- What a call returns, and what it leaves of the request. -/
structure Handled where
  result : Int
  verdict : ServiceVerdict
  uri : NgxStr
  /-- The code that the request is finalized with. -/
  finalized : Option Int
  alive : Bool

/-- A call with the request, the verdict so far, and what the server does. -/
structure Call (Loc : Type*) where
  settings : Settings
  request : Request Loc
  verdict : ServiceVerdict
  outcome : Outcome

/-- A request that is not finalized lives on. -/
def Call.livesOn {Loc : Type*} (call : Call Loc) (code : Option Int) : Bool :=
  code.isNone || call.outcome.alive

/-- Return from the handler after the response is finalized. -/
def finalizeStaticResourceResponse {Loc : Type*} (call : Call Loc)
    (handleStaticResourceResult result : Int) (verdict : ServiceVerdict)
    (uri : NgxStr) : Handled :=
  let code := finalizeRequestResponseCode handleStaticResourceResult
  { result := result
    verdict := verdict
    uri := uri
    finalized := code
    alive := call.livesOn code }

def handleStaticResourceRequest {Loc : Type*} [DecidableEq Loc]
    (confs : Loc → CoreLocConf) (call : Call Loc) :
    Handled × (Loc → CoreLocConf) :=
  let request := call.request
  match call.outcome.nullTerminatedUri with
  | none =>
      (finalizeStaticResourceResponse call ngxError ngxError call.verdict
        request.uri, confs)
  | some address =>
      match getStaticResourceName { request.uri with data := address } with
      | none =>
          (finalizeStaticResourceResponse call ngxError ngxError call.verdict
            request.uri, confs)
      | some name =>
          if isStaticResourceRequest call.settings name = false then
            (finalizeStaticResourceResponse call notAStaticResource
              notAStaticResource call.verdict request.uri, confs)
          else
            let served := sendStaticResource call.settings name request.isMain
              call.outcome (confs request.location) request.uri
            (finalizeStaticResourceResponse call served.result ngxDone
                .irrelevant served.uri,
              Function.update confs request.location served.conf)

/-- The call gets past every failure, and past a file that has nothing to
send. -/
def Outcome.ReachesRestore (outcome : Outcome) (isMain : Bool) : Prop :=
  outcome.mapped = true ∧ outcome.headersSent = ngxOk ∧
    ∃ size, outcome.openedSize = some size ∧ (isMain = true ∨ size ≠ 0)

section

variable {settings : Settings} {name uri : NgxStr} {isMain : Bool}
variable {outcome : Outcome} {conf : CoreLocConf}

theorem setLocationConfRoot_restores (root : NgxStr)
    (lengths values : Option Nat) :
    setLocationConfRoot conf.root conf.rootLengths conf.rootValues
      (setLocationConfRoot root lengths values conf) = conf :=
  rfl

theorem sendStaticResource_of_reachesRestore
    (reaches : outcome.ReachesRestore isMain) :
    sendStaticResource settings name isMain outcome conf uri =
      { conf, uri, result := outcome.fileSent } := by
  obtain ⟨mapped, headersSent, size, opened, sends⟩ := reaches
  have nonempty : ¬(isMain = false ∧ size = 0) := by
    rintro ⟨subrequest, empty⟩
    rcases sends with main | positive
    · simp [main] at subrequest
    · exact positive empty
  simp [sendStaticResource, mapped, headersSent, opened, nonempty,
    sendStaticContentResponseHeaders, setLocationConfRoot_restores]

theorem sendStaticResource_of_not_reachesRestore
    (misses : ¬outcome.ReachesRestore isMain) :
    ∃ result, sendStaticResource settings name isMain outcome conf uri =
        { conf :=
            setLocationConfRoot settings.staticResourcesPath none none conf
          uri := name
          result := result } ∧
      finalizeRequestResponseCode result ≠ none := by
  have failed : finalizeRequestResponseCode ngxError ≠ none := by
    decide
  have done : finalizeRequestResponseCode ngxOk ≠ none := by
    decide
  by_cases mapped : outcome.mapped = false
  · exact ⟨ngxError, by simp [sendStaticResource, mapped], failed⟩
  cases opened : outcome.openedSize with
  | none =>
      exact ⟨ngxError, by simp [sendStaticResource, mapped, opened], failed⟩
  | some size =>
      by_cases headersSent : outcome.headersSent = ngxOk
      · have empty : isMain = false ∧ size = 0 := by
          by_contra sends
          apply misses
          refine ⟨by simpa using mapped, headersSent, size, opened, ?_⟩
          simpa [or_iff_not_imp_left] using sends
        refine ⟨ngxOk, ?_, done⟩
        simp [sendStaticResource, mapped, opened, headersSent, empty,
          sendStaticContentResponseHeaders]
      · refine ⟨ngxError, ?_, failed⟩
        have differs : ngxError ≠ ngxOk := by
          decide
        simp [sendStaticResource, mapped, opened, headersSent, differs,
          sendStaticContentResponseHeaders]

end

theorem reverseStrnchr_lt {string : List UInt8} {char : UInt8}
    {start place : Nat}
    (found : reverseStrnchr string char start = some place) :
    place < start := by
  induction start with
  | zero => simp [reverseStrnchr] at found
  | succ start induction =>
      rw [reverseStrnchr] at found
      split_ifs at found with here
      · obtain rfl := Option.some.inj found
        exact Nat.lt_succ_self _
      · exact Nat.lt_succ_of_lt (induction found)

theorem length_getStaticResourceName_lt {uri name : NgxStr}
    (named : getStaticResourceName uri = some name) :
    name.text.length < uri.text.length := by
  obtain ⟨last, found, rfl⟩ := Option.map_eq_some_iff.mp named
  have inside := reverseStrnchr_lt found
  rw [List.length_drop]
  omega

variable {Loc : Type*} [DecidableEq Loc]

/-- The name of the resource that the call serves, if it serves one. -/
def Call.resourceName (call : Call Loc) : Option NgxStr := do
  let address ← call.outcome.nullTerminatedUri
  let name ← getStaticResourceName { call.request.uri with data := address }
  if isStaticResourceRequest call.settings name then some name else none

/-- The call leaves the configurations as they were at first, and the uri of
the request if it lives on. -/
def Untouched (initial confs : Loc → CoreLocConf) (call : Call Loc) : Prop :=
  (handleStaticResourceRequest confs call).2 = initial ∧
    ((handleStaticResourceRequest confs call).1.alive = true →
      (handleStaticResourceRequest confs call).1.uri = call.request.uri)

/-- The call serves no resource, or reaches the restore, or else it is the end
of the request and the location has the path as its root. -/
def Restores (confs : Loc → CoreLocConf) (call : Call Loc) : Prop :=
  call.resourceName = none ∨
    call.outcome.ReachesRestore call.request.isMain ∨
      call.outcome.alive = false ∧
        setLocationConfRoot call.settings.staticResourcesPath none none
          (confs call.request.location) = confs call.request.location

theorem untouched_of_resourceName_eq_none {confs : Loc → CoreLocConf}
    {call : Call Loc} (unserved : call.resourceName = none) :
    Untouched confs confs call := by
  rw [Call.resourceName] at unserved
  cases duplicated : call.outcome.nullTerminatedUri with
  | none =>
      simp [Untouched, handleStaticResourceRequest, duplicated,
        finalizeStaticResourceResponse]
  | some address =>
      cases named : getStaticResourceName
          { call.request.uri with data := address } with
      | none =>
          simp [Untouched, handleStaticResourceRequest, duplicated, named,
            finalizeStaticResourceResponse]
      | some name =>
          have unlisted :
              isStaticResourceRequest call.settings name = false := by
            simpa [duplicated, named] using unserved
          simp [Untouched, handleStaticResourceRequest, duplicated, named,
            unlisted, finalizeStaticResourceResponse]

theorem handleStaticResourceRequest_of_resourceName
    {confs : Loc → CoreLocConf} {call : Call Loc} {name : NgxStr}
    (served : call.resourceName = some name) :
    name.text.length < call.request.uri.text.length ∧
      handleStaticResourceRequest confs call =
        (let sent := sendStaticResource call.settings name
          call.request.isMain call.outcome (confs call.request.location)
          call.request.uri
        (finalizeStaticResourceResponse call sent.result ngxDone .irrelevant
            sent.uri,
          Function.update confs call.request.location sent.conf)) := by
  rw [Call.resourceName] at served
  obtain ⟨address, duplicated, served⟩ := Option.bind_eq_some_iff.mp served
  obtain ⟨found, named, served⟩ := Option.bind_eq_some_iff.mp served
  split_ifs at served with listed
  obtain rfl := Option.some.inj served
  have shorter := length_getStaticResourceName_lt named
  refine ⟨shorter, ?_⟩
  simp [handleStaticResourceRequest, duplicated, named, listed]

theorem untouched_iff (confs : Loc → CoreLocConf) (call : Call Loc) :
    Untouched confs confs call ↔ Restores confs call := by
  cases resource : call.resourceName with
  | none =>
      exact iff_of_true (untouched_of_resourceName_eq_none resource)
        (.inl resource)
  | some name =>
      obtain ⟨shorter, handled⟩ :=
        @handleStaticResourceRequest_of_resourceName _ _ confs _ _ resource
      by_cases reaches : call.outcome.ReachesRestore call.request.isMain
      · refine iff_of_true ?_ (.inr (.inl reaches))
        simp [Untouched, handled,
          sendStaticResource_of_reachesRestore reaches,
          finalizeStaticResourceResponse]
      obtain ⟨result, sent, finalizes⟩ :=
        @sendStaticResource_of_not_reachesRestore call.settings name
          call.request.uri _ _ (confs call.request.location) reaches
      have differs : name ≠ call.request.uri := by
        rintro same
        rw [same] at shorter
        exact Nat.lt_irrefl _ shorter
      obtain ⟨code, finalized⟩ := Option.ne_none_iff_exists'.mp finalizes
      rw [Untouched, handled, sent, Restores]
      simp [resource, reaches, finalizeStaticResourceResponse, finalized,
        Call.livesOn, differs, Function.update_eq_self_iff, and_comm]

/-- Serving static resources leaves the locations untouched in the sequences
whose calls all restore them. -/
theorem static_resources_untouched_iff (confs : Loc → CoreLocConf)
    (calls : List (Call Loc)) :
    Trace.Along handleStaticResourceRequest (Untouched confs) confs calls ↔
      ∀ call ∈ calls, Restores confs call := by
  rw [Trace.along_pinned_iff fun call untouched => untouched.1]
  simp only [untouched_iff]

/-- The request `/a` for the resource `a`, whose path is not mapped. -/
def unmappedCall : Call Unit where
  settings :=
    { staticResourcesPath := { data := 200, text := [47, 112] }
      staticResourcesHashTable := some [[97]] }
  request :=
    { location := ()
      uri := { data := 100, text := [47, 97] }
      isMain := true }
  verdict := .inspect
  outcome :=
    { nullTerminatedUri := some 300
      mapped := false
      openedSize := none
      headersSent := ngxOk
      fileSent := ngxOk
      alive := true }

/-- A path that is not mapped stays the root of the location. -/
theorem static_resource_leaves_root :
    ¬Trace.Along handleStaticResourceRequest
      (Untouched fun _ : Unit => ⟨⟨0, [47]⟩, none, none⟩)
      (fun _ => ⟨⟨0, [47]⟩, none, none⟩) [unmappedCall] := by
  rintro ⟨untouched, -⟩
  have root := congrFun untouched.1 ()
  revert root
  decide

end OpenAppsec.StaticResources
