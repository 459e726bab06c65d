import OpenAppsec.Configuration.JsonArchive

/-!
# What an archive finds

A named value is found among the members of the node that the last iterator is
in, whatever was read there before, and reading a single value or a node that
is finished again changes no more than places.
-/

namespace OpenAppsec.Cereal

variable {α β : Type}

/-- The only member of a name. -/
def lookup (name : String) (members : List (String × JsonValue)) :
    Option JsonValue :=
  match members.filter (fun member => cString member.1 = name) with
  | [member] => some member.2
  | _ => none

def JsonValue.asUint : JsonValue → Option (BitVec 32)
  | .uint number => some number
  | _ => none

def JsonValue.asString : JsonValue → Option String
  | .string text => some (cString text)
  | _ => none

def JsonValue.asStrings : JsonValue → Option (List String)
  | .array values => values.mapM JsonValue.asString
  | _ => none

/-- The members of a node; the values of an array have no names. -/
def JsonValue.nodeMembers : JsonValue → Option (List (String × JsonValue))
  | .object members => some members
  | .array _ => some []
  | _ => none

namespace Iterator

theorem searchFrom_found (name : String) (members : List (String × JsonValue))
    (index itsIndex : Nat) :
    searchFrom name members index itsIndex true =
        (true, itsIndex) ∧
        members.filter (fun member => cString member.1 = name) = [] ∨
      (searchFrom name members index itsIndex true).1 = false ∧
        members.filter (fun member => cString member.1 = name) ≠ [] := by
  induction members generalizing index with
  | nil => exact .inl ⟨rfl, rfl⟩
  | cons head members induction =>
      rw [searchFrom]
      by_cases here : cString head.1 = name
      · rw [if_pos here, if_pos rfl, List.filter_cons_of_pos (by simpa using here)]
        exact .inr ⟨rfl, nofun⟩
      · rw [if_neg here, List.filter_cons_of_neg (by simpa using here)]
        exact induction (index + 1)

theorem searchFrom_eq (name : String) (members : List (String × JsonValue))
    (index itsIndex : Nat) :
    match lookup name members with
    | some found => ∃ place,
        searchFrom name members index itsIndex false =
            (true, index + place) ∧
          members[place]?.map Prod.snd = some found
    | none => (searchFrom name members index itsIndex false).1 = false := by
  induction members generalizing index with
  | nil => exact rfl
  | cons head members induction =>
      rw [searchFrom]
      by_cases here : cString head.1 = name
      · rw [if_pos here, if_neg Bool.false_ne_true, lookup,
          List.filter_cons_of_pos (by simpa using here)]
        rcases searchFrom_found name members (index + 1) index with
          ⟨found, none⟩ | ⟨again, some⟩
        · rw [none, found]
          exact ⟨0, rfl, rfl⟩
        · obtain ⟨other, others, filtered⟩ := List.exists_cons_of_ne_nil some
          rw [filtered]
          exact again
      · rw [if_neg here]
        have rest := induction (index + 1)
        have same : lookup name (head :: members) = lookup name members := by
          rw [lookup, lookup, List.filter_cons_of_neg (by simpa using here)]
        rw [same]
        cases found : lookup name members with
        | none =>
            rw [found] at rest
            exact rest
        | some value =>
            rw [found] at rest
            obtain ⟨place, searched, there⟩ := rest
            refine ⟨place + 1, ?_, there⟩
            rw [searched, Nat.add_assoc, Nat.add_comm 1]

/-- The members that a name is searched among. -/
def members : Iterator → List (String × JsonValue)
  | .member list _ => list
  | .value _ _ => []

/-- An iterator at the start of the same node. -/
def rewind : Iterator → Iterator
  | .member list _ => .member list 0
  | .value list _ => .value list 0

theorem members_rewind (iterator : Iterator) :
    iterator.rewind.members = iterator.members := by
  cases iterator <;> rfl

@[simp] theorem rewind_advance (iterator : Iterator) :
    iterator.advance.rewind = iterator.rewind := by
  cases iterator <;> rfl

@[simp] theorem rewind_search (name : String) (iterator : Iterator) :
    (iterator.search name).2.rewind = iterator.rewind := by
  cases iterator <;> rfl

theorem search_eq (name : String) (iterator : Iterator) :
    match lookup name iterator.members with
    | some found => (iterator.search name).1 = true ∧
        (iterator.search name).2.current = some found
    | none => (iterator.search name).1 = false := by
  cases iterator with
  | member list index =>
      have searched := searchFrom_eq name list 0 index
      change match lookup name list with
        | some found => _
        | none => _
      cases looked : lookup name list with
      | none =>
          rw [looked] at searched
          exact searched
      | some found =>
          rw [looked] at searched
          obtain ⟨place, same, there⟩ := searched
          simp only [search, same, Nat.zero_add]
          exact ⟨trivial, there⟩
  | value list index => exact rfl

end Iterator

namespace JSONInputArchive

/-- The nodes that the archive is in, without its places there. -/
def nodes (archive : JSONInputArchive) : List Iterator :=
  archive.iteratorStack.map Iterator.rewind

/-- The members of the last node. -/
def scope (archive : JSONInputArchive) : List (String × JsonValue) :=
  (archive.nodes.head?.map Iterator.members).getD []

theorem scope_congr {before after : JSONInputArchive}
    (same : after.nodes = before.nodes) : after.scope = before.scope := by
  rw [scope, same, scope]

variable {archive : JSONInputArchive} {back : Iterator}
variable {rest : List Iterator}

theorem scope_eq (stack : archive.iteratorStack = back :: rest) :
    archive.scope = back.members := by
  rw [scope, nodes, stack, List.map_cons, List.head?_cons, Option.map_some,
    Option.getD_some, Iterator.members_rewind]

theorem search_eq {name : String} (named : archive.nextName = some name)
    (stack : archive.iteratorStack = back :: rest) :
    ∃ here, here.rewind = back.rewind ∧
      match lookup name back.members with
      | some found => here.current = some found ∧
          search archive =
            (some (),
              { archive with
                nextName := none, iteratorStack := here :: rest })
      | none =>
          search archive =
            (none, { archive with iteratorStack := here :: rest }) := by
  refine ⟨(back.search name).2, Iterator.rewind_search name back, ?_⟩
  have searched := Iterator.search_eq name back
  cases looked : lookup name back.members with
  | none =>
      rw [looked] at searched
      simp only [search, named, stack, searched]
      rfl
  | some found =>
      rw [looked] at searched
      refine ⟨searched.2, ?_⟩
      simp only [search, named, stack, searched.1]
      rfl

/-- A reading of one value, which takes only some values. -/
structure ReadsOne (load : Reading α) (take : JsonValue → Option α) :
    Prop where
  eq_search : load = search.andThen fun _ => current.andThen
    fun found archive =>
      match take found with
      | some value => (some value, archive.advance)
      | none => (none, archive)

theorem loadUint_readsOne : ReadsOne loadUint JsonValue.asUint where
  eq_search := by
    rw [loadUint]
    congr
    funext _
    congr
    funext found archive
    cases found <;> rfl

theorem loadString_readsOne : ReadsOne loadString JsonValue.asString where
  eq_search := by
    rw [loadString]
    congr
    funext _
    congr
    funext found archive
    cases found <;> rfl

/-- A named value is read from the members of the last node. -/
theorem ReadsOne.named {load : Reading α} {take : JsonValue → Option α}
    (reads : ReadsOne load take) (name : String)
    (stack : archive.iteratorStack ≠ []) :
    let read := loadNvp name load archive
    read.1 = (lookup name archive.scope).bind take ∧
      read.2.nodes = archive.nodes := by
  obtain ⟨back, rest, stackEq⟩ := List.exists_cons_of_ne_nil stack
  have stackNamed :
      ({ archive with nextName := some name } :
        JSONInputArchive).iteratorStack = back :: rest := stackEq
  obtain ⟨here, sameNode, searched⟩ := search_eq rfl stackNamed
  have nodes : (here :: rest).map Iterator.rewind = archive.nodes := by
    rw [JSONInputArchive.nodes, stackEq, List.map_cons, sameNode,
      List.map_cons]
  rw [scope_eq stackEq]
  simp only [loadNvp, reads.eq_search, Reading.andThen]
  cases looked : lookup name back.members with
  | none =>
      rw [looked] at searched
      rw [searched]
      exact ⟨rfl, nodes⟩
  | some found =>
      rw [looked] at searched
      obtain ⟨there, searched⟩ := searched
      rw [searched]
      simp only [current, List.head?_cons, Option.bind_some, there]
      cases take found with
      | none => exact ⟨rfl, nodes⟩
      | some value =>
          refine ⟨rfl, ?_⟩
          rw [JSONInputArchive.nodes, advance, List.modifyHead_cons,
            List.map_cons, Iterator.rewind_advance]
          exact nodes

theorem nodes_finishNode (archive : JSONInputArchive) :
    archive.finishNode.nodes = archive.nodes.tail := by
  rw [nodes, finishNode, nodes, ← List.map_tail]
  cases archive.iteratorStack.tail with
  | nil => rfl
  | cons back rest =>
      rw [List.modifyHead_cons, List.map_cons, Iterator.rewind_advance,
        List.map_cons]

/-- A named node is entered if it has values, and else an exception is
thrown. -/
theorem startNode_named (name : String)
    (stack : archive.iteratorStack = back :: rest) :
    ∃ here, here.rewind = back.rewind ∧
      match lookup name archive.scope with
      | some (.array values) =>
          here.current = some (.array values) ∧
            loadNvp name startNode archive =
              (some (),
                ⟨archive.document, none, .value values 0 :: here :: rest⟩)
      | some (.object members) =>
          here.current = some (.object members) ∧
            loadNvp name startNode archive =
              (some (),
                ⟨archive.document, none, .member members 0 :: here :: rest⟩)
      | _ => ∃ nextName, loadNvp name startNode archive =
          (none, ⟨archive.document, nextName, here :: rest⟩) := by
  have stackNamed :
      ({ archive with nextName := some name } :
        JSONInputArchive).iteratorStack = back :: rest := stack
  obtain ⟨here, sameNode, searched⟩ := search_eq rfl stackNamed
  refine ⟨here, sameNode, ?_⟩
  rw [scope_eq stack]
  simp only [loadNvp, startNode, Reading.andThen]
  cases looked : lookup name back.members with
  | none =>
      rw [looked] at searched
      rw [searched]
      exact ⟨_, rfl⟩
  | some found =>
      rw [looked] at searched
      obtain ⟨there, searched⟩ := searched
      rw [searched]
      simp only [current, List.head?_cons, Option.bind_some, there]
      cases found with
      | array values => exact ⟨rfl, rfl⟩
      | object members => exact ⟨rfl, rfl⟩
      | null => exact ⟨_, rfl⟩
      | bool value => exact ⟨_, rfl⟩
      | uint number => exact ⟨_, rfl⟩
      | otherNumber => exact ⟨_, rfl⟩
      | string text => exact ⟨_, rfl⟩

theorem loadNvp_startNode (name : String) (next : Unit → Reading α) :
    loadNvp name (startNode.andThen next) =
      (loadNvp name startNode).andThen next :=
  rfl

/-- The strings behind a place, unless one of the values there is none. -/
theorem loadStrings_eq (document : JsonValue) (values : List JsonValue)
    (size place : Nat) (fits : place + size = values.length) :
    ∃ last, loadStrings size ⟨document, none, .value values place :: rest⟩ =
      ((values.drop place).mapM JsonValue.asString,
        ⟨document, none, .value values last :: rest⟩) := by
  induction size generalizing place with
  | zero =>
      have atEnd : values.length ≤ place := Nat.le_of_eq fits.symm
      rw [List.drop_eq_nil_of_le atEnd]
      exact ⟨place, rfl⟩
  | succ size induction =>
      have inside : place < values.length := by omega
      rw [List.drop_eq_getElem_cons inside, List.mapM_cons]
      simp only [loadStrings, loadString_readsOne.eq_search, Reading.andThen,
        search, current, List.head?_cons, Option.bind_some, Iterator.current,
        List.getElem?_eq_getElem inside]
      cases values[place].asString with
      | none => exact ⟨place, rfl⟩
      | some text =>
          obtain ⟨last, loaded⟩ := induction (place + 1) (by omega)
          refine ⟨last, ?_⟩
          simp only [advance, List.modifyHead_cons, Iterator.advance, loaded]
          cases (values.drop (place + 1)).mapM JsonValue.asString with
          | none => rfl
          | some texts => rfl

/-- What is left of the nodes when a named vector of strings was read: the
node is left unless it is no array of strings. -/
def vectorNodes (found : Option JsonValue) (nodes : List Iterator) :
    List Iterator :=
  match found with
  | some (.array values) =>
      if (values.mapM JsonValue.asString).isSome then nodes
      else .value values 0 :: nodes
  | some (.object members) => .member members 0 :: nodes
  | _ => nodes

theorem loadVector_named (name : String)
    (stack : archive.iteratorStack ≠ []) :
    let read := loadNvp name loadVector archive
    read.1 = (lookup name archive.scope).bind JsonValue.asStrings ∧
      read.2.nodes = vectorNodes (lookup name archive.scope) archive.nodes := by
  obtain ⟨back, rest, stackEq⟩ := List.exists_cons_of_ne_nil stack
  obtain ⟨here, sameNode, started⟩ := startNode_named name stackEq
  have nodes : (here :: rest).map Iterator.rewind = archive.nodes := by
    rw [JSONInputArchive.nodes, stackEq, List.map_cons, sameNode,
      List.map_cons]
  rw [← nodes]
  simp only [loadVector, loadNvp_startNode, Reading.andThen]
  split at started
  · rename_i values looked
    obtain ⟨there, started⟩ := started
    obtain ⟨last, loaded⟩ := @loadStrings_eq (here :: rest)
      archive.document values values.length 0 (Nat.zero_add _)
    simp only [started, looked, loadSize, there, loaded, List.drop_zero,
      Option.bind_some, vectorNodes, JsonValue.asStrings]
    cases values.mapM JsonValue.asString with
    | none => exact ⟨rfl, rfl⟩
    | some texts => exact ⟨rfl, nodes_finishNode _⟩
  · rename_i members looked
    obtain ⟨there, started⟩ := started
    simp only [started, looked, loadSize, there, vectorNodes]
    exact ⟨rfl, rfl⟩
  · rename_i noArray noObject
    obtain ⟨nextName, started⟩ := started
    rw [started]
    cases looked : lookup name archive.scope with
    | none => exact ⟨rfl, rfl⟩
    | some found =>
        cases found with
        | array values => exact absurd looked (noArray values)
        | object members => exact absurd looked (noObject members)
        | null => exact ⟨rfl, rfl⟩
        | bool value => exact ⟨rfl, rfl⟩
        | uint number => exact ⟨rfl, rfl⟩
        | otherNumber => exact ⟨rfl, rfl⟩
        | string text => exact ⟨rfl, rfl⟩

end JSONInputArchive

end OpenAppsec.Cereal
