import Mathlib.Data.List.Basic
import Mathlib.Tactic.Common

/-!
# JSON archives

The archives of cereal over the documents of rapidjson: what is written for a
value, and the stack of iterators with which it is found again.  An exception
leaves the stack as it is then, which matters to whoever catches it.
-/

namespace OpenAppsec.Cereal

/-- A value of a document.  Only the numbers that are unsigned of 32 bits are
told apart. -/
inductive JsonValue where
  | null
  | bool (value : Bool)
  | uint (value : BitVec 32)
  | otherNumber
  | string (value : String)
  | array (values : List JsonValue)
  | object (members : List (String × JsonValue))

/-- A string up to its first zero character, as `GetString` is read. -/
def cString (text : String) : String :=
  .ofList (text.toList.takeWhile (· ≠ '\x00'))

/-- Where an archive is in a node, with members or with values only. -/
inductive Iterator where
  | member (members : List (String × JsonValue)) (index : Nat)
  | value (values : List JsonValue) (index : Nat)

namespace Iterator

/-- `value`; there is none behind the end. -/
def current : Iterator → Option JsonValue
  | .member members index => members[index]?.map Prod.snd
  | .value values index => values[index]?

def advance : Iterator → Iterator
  | .member members index => .member members (index + 1)
  | .value values index => .value values (index + 1)

/-- The loop of `search` over the members from an index on, given whether the
name was found before, and where.  A name that is found again is an error. -/
def searchFrom (name : String) :
    List (String × JsonValue) → Nat → Nat → Bool → Bool × Nat
  | [], _, itsIndex, found => (found, itsIndex)
  | head :: members, index, itsIndex, found =>
      if cString head.1 = name then
        if found then (false, index)
        else searchFrom name members (index + 1) index true
      else searchFrom name members (index + 1) itsIndex found

/-- `search`: whether the name is found. -/
def search (name : String) : Iterator → Bool × Iterator
  | .member members index =>
      let searched := searchFrom name members 0 index false
      (searched.1, .member members searched.2)
  | .value values index => (false, .value values index)

end Iterator

/-- The last iterator of the stack comes first. -/
structure JSONInputArchive where
  document : JsonValue
  nextName : Option String
  iteratorStack : List Iterator

/-- What a call returns, or `none` when it throws an exception, and the archive
that it leaves. -/
abbrev Reading (α : Type) :=
  JSONInputArchive → Option α × JSONInputArchive

namespace Reading

variable {α β : Type}

def andThen (first : Reading α) (next : α → Reading β) : Reading β :=
  fun archive =>
    match first archive with
    | (some value, archive) => next value archive
    | (none, archive) => (none, archive)

/-- A block whose exceptions are caught. -/
def orElse (block : Reading α) (handled : α) (archive : JSONInputArchive) :
    α × JSONInputArchive :=
  ((block archive).1.getD handled, (block archive).2)

end Reading

namespace JSONInputArchive

/-- The constructor, given the document that was parsed, which is `null` if the
text is none.  It throws when the document has no nodes. -/
def ofDocument (document : JsonValue) : Option JSONInputArchive :=
  match document with
  | .array values => some ⟨document, none, [.value values 0]⟩
  | .object members => some ⟨document, none, [.member members 0]⟩
  | _ => none

def search : Reading Unit := fun archive =>
  match archive.nextName, archive.iteratorStack with
  | some name, back :: rest =>
      let searched := back.search name
      if searched.1 then
        (some (),
          { archive with nextName := none, iteratorStack := searched.2 :: rest })
      else (none, { archive with iteratorStack := searched.2 :: rest })
  | _, _ => (some (), { archive with nextName := none })

/-- The value at the last iterator. -/
def current : Reading JsonValue := fun archive =>
  (archive.iteratorStack.head?.bind Iterator.current, archive)

def advance (archive : JSONInputArchive) : JSONInputArchive :=
  { archive with
    iteratorStack := archive.iteratorStack.modifyHead Iterator.advance }

def push (iterator : Iterator) (archive : JSONInputArchive) :
    JSONInputArchive :=
  { archive with iteratorStack := iterator :: archive.iteratorStack }

def startNode : Reading Unit :=
  search.andThen fun _ => current.andThen fun value archive =>
    match value with
    | .array values => (some (), archive.push (.value values 0))
    | .object members => (some (), archive.push (.member members 0))
    | _ => (none, archive)

def finishNode (archive : JSONInputArchive) : JSONInputArchive :=
  { archive with
    iteratorStack := archive.iteratorStack.tail.modifyHead Iterator.advance }

/-- `loadValue` for an unsigned number. -/
def loadUint : Reading (BitVec 32) :=
  search.andThen fun _ => current.andThen fun value archive =>
    match value with
    | .uint number => (some number, archive.advance)
    | _ => (none, archive)

/-- `loadValue` for a string. -/
def loadString : Reading String :=
  search.andThen fun _ => current.andThen fun value archive =>
    match value with
    | .string text => (some (cString text), archive.advance)
    | _ => (none, archive)

/-- `loadSize`, which asks the node above the last iterator. -/
def loadSize : Reading Nat := fun archive =>
  let node :=
    match archive.iteratorStack with
    | _ :: above :: _ => above.current
    | _ => some archive.document
  match node with
  | some (.array values) => (some values.length, archive)
  | _ => (none, archive)

/-- So many strings without a name. -/
def loadStrings : Nat → Reading (List String)
  | 0, archive => (some [], archive)
  | size + 1, archive =>
      (loadString.andThen fun text => (loadStrings size).andThen
        fun texts archive => (some (text :: texts), archive)) archive

/-- A vector of strings, which is a node of its own. -/
def loadVector : Reading (List String) :=
  startNode.andThen fun _ => loadSize.andThen fun size =>
    (loadStrings size).andThen fun texts archive =>
      (some texts, archive.finishNode)

/-- A value with a name, of which a node of members is made. -/
def loadNvp {α : Type} (name : String) (load : Reading α) : Reading α :=
  fun archive => load { archive with nextName := some name }

end JSONInputArchive

/-- A vector of strings, as an output archive writes it. -/
def saveVector (texts : List String) : JsonValue :=
  .array (texts.map .string)

end OpenAppsec.Cereal
