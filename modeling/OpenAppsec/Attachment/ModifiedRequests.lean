import OpenAppsec.Attachment.HeaderModifier
import OpenAppsec.Attachment.ModifiedBodies

/-!
# The requests that the two modifiers leave

The header modifier releases the nodes that it passes, and the body modifier
starts at the first of them again.  So a list works that is for the headers
only or for the body only.
-/

namespace OpenAppsec.HeaderModifier

open BodyModifier Insertions ListIterator

/-- The sizes that an `int16_t` holds. -/
def Short (node : ModificationNode) : Prop :=
  node.injectionSize < 2 ^ 15

/-- The value that the iterator finds for an injection is too short. -/
def Refused (node : ModificationNode) (headers : NgxList Header)
    (iterator : Iterator) : Prop :=
  ∃ location header,
    (getListElement headers node.origBuffIndex.toNat iterator).1 =
        some location ∧
      headers.read location = some header ∧
      header.value.length < node.injectionPos

/-- The iterator finds the header of an injection. -/
def Finds (node : ModificationNode) (headers : NgxList Header)
    (iterator : Iterator) (location : Location) : Prop :=
  (getListElement headers node.origBuffIndex.toNat iterator).1 =
      some location ∧
    (headers.read location).isSome ∧
    headers.position location = node.origBuffIndex.toNat

/-- The headers with the data of a node in the value of one of them. -/
def injectInto (headers : NgxList Header) (location : Location)
    (node : ModificationNode) : NgxList Header :=
  headers.update location fun header =>
    { header with
      value := insertAt header.value
        { pos := node.injectionPos.toNat, data := injected node } }

/-- What the header modifier needs from a list of header modifications: sizes
that stay positive, an iterator that finds each header, nothing to replace, and
nothing behind a modification that it refuses. -/
def Performs (full : NgxList Header → Bool) (bodyEmpty : Prop) :
    List ModificationNode → NgxList Header → Iterator → Prop
  | [], _, _ => bodyEmpty
  | node :: rest, headers, iterator =>
      match node.modType with
      | .append =>
          match rest with
          | [] => True
          | value :: rest =>
              Short node ∧ Short value ∧
                Performs full bodyEmpty rest
                  (headers.push (full headers) (appendedHeader node value))
                  iterator
      | .inject =>
          match wantedInjection node headers.elements with
          | none =>
              Refused node headers iterator ∧
                wantedEdits 0 rest headers.elements = []
          | some _ =>
              ∃ location, Finds node headers iterator location ∧
                Performs full bodyEmpty rest (injectInto headers location node)
                  (getListElement headers node.origBuffIndex.toNat iterator).2
      | .replace =>
          wantedReplacement node headers.elements = none ∧
            Performs full bodyEmpty rest headers iterator

/-- The first node is one of a header. -/
def HeaderFirst (modifications : List ModificationNode) : Prop :=
  ∃ node ∈ modifications.head?, node.isHeader ≠ 0

/-- The list is for the body only, up to nodes that are left alone. -/
def BodyOnly (modifications : List ModificationNode)
    (chain : List (List UInt8)) : Prop :=
  ∃ nodes last, modifications = nodes ++ last ∧
    (∀ node ∈ nodes, node.isHeader = 0) ∧
    (∀ node ∈ last, node.isHeader ≠ 0) ∧
    AllApplicable nodes 0 chain ∧
    ∀ node ∈ last.head?, Spared nodes 0 chain node

section Copies

variable {node : ModificationNode}

theorem dataSize_eq (size : node.injectionSize < 2 ^ 16) :
    dataSize node =
      if node.injectionSize < 2 ^ 15 then (node.injectionSize : Int)
      else node.injectionSize - 2 ^ 16 := by
  have small : (BitVec.ofNat 16 node.injectionSize).toNat =
      node.injectionSize := by
    rw [BitVec.toNat_ofNat]
    exact Nat.mod_eq_of_lt size
  rw [dataSize, BitVec.toInt_eq_toNat_cond, small]
  split_ifs with first second
  · rfl
  · omega
  · omega
  · simp

theorem copyData_of_short (short : Short node) :
    copyData node = .copied (injected node) := by
  have small : node.injectionSize < 2 ^ 15 := short
  have size : dataSize node = node.injectionSize := by
    rw [dataSize_eq (by omega), if_pos small]
  rw [copyData, size, if_neg (by omega), if_neg (by omega)]
  rfl

theorem copyData_of_long (size : node.injectionSize < 2 ^ 16)
    (long : ¬Short node) (data : List UInt8) :
    copyData node ≠ .copied data := by
  have large : ¬node.injectionSize < 2 ^ 15 := long
  have negative : dataSize node < 0 := by
    rw [dataSize_eq size, if_neg large]
    omega
  rw [copyData, if_pos negative]
  split_ifs <;> simp

end Copies

section Run

variable {full : NgxList Header → Bool} {unset : Header}

variable {outcome : Outcome} {header : Header} {edit : HeaderEdit}
variable {location : Location} {iterator : Iterator}
variable {edits : List (Nat × HeaderEdit)}

/-- The modifier ends in this state. -/
def Ends (outcome : Outcome) (final : Pass) : Prop :=
  outcome = .failed final ∨ outcome = .finished final

/-- Every change is of a node that is still to come. -/
def Ahead (place : Nat) (edits : List (Nat × HeaderEdit)) : Prop :=
  ∀ edit ∈ edits, place ≤ edit.1

theorem Ahead.cons {place : Nat} (ahead : Ahead (place + 1) edits) :
    Ahead place ((place, edit) :: edits) := by
  intro other member
  rcases List.mem_cons.mp member with rfl | member
  · exact Nat.le_refl place
  · exact Nat.le_of_succ_le (ahead other member)

theorem Ahead.mono {first second : Nat} (ahead : Ahead second edits)
    (before : first ≤ second) :
    Ahead first edits :=
  fun edit member => before.trans (ahead edit member)

/-- A change of this node is not among those of later nodes. -/
theorem Ahead.ne {place : Nat} {others : List (Nat × HeaderEdit)}
    (ahead : Ahead (place + 1) edits) :
    edits ≠ (place, edit) :: others := by
  rintro rfl
  have := ahead (place, edit) List.mem_cons_self
  omega

/-- Every change that is made is of a node from the next one on. -/
theorem edits_ahead {nodes : List ModificationNode} {pass final : Pass}
    (ends : Ends (ngxHttpCpHeaderModifier full unset nodes pass) final) :
    ∃ more, final.edits = pass.edits ++ more ∧ Ahead pass.place more := by
  have same {pass final : Pass} (edits : pass.edits = final.edits) :
      ∃ more, final.edits = pass.edits ++ more ∧ Ahead pass.place more :=
    ⟨[], by simp [edits], nofun⟩
  fun_induction ngxHttpCpHeaderModifier full unset nodes pass with
  | case7 node pass header_ append value rest value_ header headers pushed
      induction =>
      obtain ⟨more, edits, ahead⟩ := induction ends
      have later : Ahead (pass.place + 1) more := ahead.mono (Nat.le_succ _)
      refine ⟨(pass.place, .append header) :: more, ?_, later.cons⟩
      rw [edits]
      simp [Pass.appended]
  | case12 node rest pass header_ inject location iterator found inside header
      read value injected_ induction =>
      obtain ⟨more, edits, ahead⟩ := induction ends
      have later : Ahead (pass.place + 1) more := ahead
      refine ⟨(pass.place, .inject (pass.headers.position location)
        node.injectionPos.toNat (injected node)) :: more, ?_, later.cons⟩
      rw [edits]
      simp [Pass.injectedAt]
  | case13 node rest pass header_ replace induction =>
      obtain ⟨more, edits, ahead⟩ := induction ends
      have later : Ahead (pass.place + 1) more := ahead
      exact ⟨more, edits, later.mono (Nat.le_succ _)⟩
  | case5 => simp [Ends] at ends
  | case8 => simp [Ends] at ends
  | case9 => simp [Ends] at ends
  | case10 => simp [Ends] at ends
  | case1 pass =>
      obtain rfl : pass = final := by simpa [Ends] using ends
      exact same rfl
  | case2 node rest pass body =>
      obtain rfl : pass = final := by simpa [Ends] using ends
      exact same rfl
  | case3 node pass =>
      obtain rfl : pass.freeModificationsList _ = final := by
        simpa [Ends] using ends
      exact same rfl
  | case4 node pass header_ append value rest =>
      obtain rfl : pass.freeModificationsList _ = final := by
        simpa [Ends] using ends
      exact same rfl
  | case6 node pass header_ append value rest value_ headers =>
      obtain rfl : Pass.freeModificationsList { pass with headers } _ =
          final := by
        simpa [Ends] using ends
      exact same rfl
  | case11 node rest pass =>
      obtain rfl : pass.freeModificationsList _ = final := by
        simpa [Ends] using ends
      exact same rfl

/-- The nodes that the modifier passes are released once, and the others where
it fails. -/
theorem released_of_ends {nodes : List ModificationNode} {pass final : Pass}
    (released : pass.released.Perm (List.range pass.place))
    (ends : Ends (ngxHttpCpHeaderModifier full unset nodes pass) final) :
    ∃ count, final.released.Perm (List.range (pass.place + count)) ∧
      (HeaderFirst nodes → 0 < count) ∧
      ((∀ node ∈ nodes, node.isHeader ≠ 0) → count = nodes.length) := by
  have freed {pass : Pass} (node : ModificationNode)
      (nodes : List ModificationNode)
      (released : pass.released.Perm (List.range pass.place)) :
      ∃ count, (pass.freeModificationsList (node :: nodes)).released.Perm
          (List.range (pass.place + count)) ∧
        (HeaderFirst (node :: nodes) → 0 < count) ∧
        ((∀ other ∈ node :: nodes, other.isHeader ≠ 0) →
          count = (node :: nodes).length) := by
    refine ⟨(node :: nodes).length, ?_, fun _ => Nat.succ_pos _, fun _ => rfl⟩
    rw [List.range_add, ← List.range'_eq_map_range]
    exact released.append_right _
  have next {released : List Nat} {place : Nat}
      (released_ : released.Perm (List.range place)) :
      (released ++ [place]).Perm (List.range (place + 1)) := by
    rw [List.range_succ]
    exact released_.append_right _
  have passes {node : ModificationNode} {nodes : List ModificationNode}
      {final : Pass} {place : Nat}
      (later : ∃ count, final.released.Perm
          (List.range (place + 1 + count)) ∧
        (HeaderFirst nodes → 0 < count) ∧
        ((∀ node ∈ nodes, node.isHeader ≠ 0) → count = nodes.length)) :
      ∃ count, final.released.Perm (List.range (place + count)) ∧
        (HeaderFirst (node :: nodes) → 0 < count) ∧
        ((∀ other ∈ node :: nodes, other.isHeader ≠ 0) →
          count = (node :: nodes).length) := by
    obtain ⟨count, perm, -, whole⟩ := later
    refine ⟨count + 1, ?_, fun _ => Nat.succ_pos _, ?_⟩
    · rwa [Nat.add_assoc, Nat.add_comm 1] at perm
    · intro headers
      rw [whole fun other member => headers other (by simp [member])]
      rfl
  fun_induction ngxHttpCpHeaderModifier full unset nodes pass with
  | case7 node pass header_ append value rest value_ header headers_ pushed
      induction =>
      have two : (pass.released ++ [pass.place + 1, pass.place]).Perm
          (List.range (pass.place + 2)) := by
        have swapped : (pass.released ++ [pass.place + 1, pass.place]).Perm
            (pass.released ++ [pass.place] ++ [pass.place + 1]) := by
          rw [List.append_assoc]
          exact (List.Perm.swap _ _ []).append_left _
        exact swapped.trans (next (next released))
      exact passes (passes (induction two ends))
  | case12 node rest pass header_ inject location iterator found inside header
      read value injected_ induction =>
      exact passes (induction (next released) ends)
  | case13 node rest pass header_ replace induction =>
      exact passes (induction (next released) ends)
  | case5 => simp [Ends] at ends
  | case8 => simp [Ends] at ends
  | case9 => simp [Ends] at ends
  | case10 => simp [Ends] at ends
  | case1 pass =>
      obtain rfl : pass = final := by simpa [Ends] using ends
      exact ⟨0, released, by simp [HeaderFirst], fun _ => rfl⟩
  | case2 node rest pass body =>
      obtain rfl : pass = final := by simpa [Ends] using ends
      refine ⟨0, released, ?_, ?_⟩
      · simp [HeaderFirst, body]
      · exact fun headers => absurd body (headers node List.mem_cons_self)
  | case3 node pass =>
      obtain rfl : pass.freeModificationsList _ = final := by
        simpa [Ends] using ends
      exact freed node [] released
  | case4 node pass header_ append value rest =>
      obtain rfl : pass.freeModificationsList _ = final := by
        simpa [Ends] using ends
      exact freed node (value :: rest) released
  | case6 node pass header_ append value rest value_ headers_ =>
      obtain rfl : Pass.freeModificationsList { pass with headers := headers_ }
          _ = final := by
        simpa [Ends] using ends
      exact freed node (value :: rest) released
  | case11 node rest pass =>
      obtain rfl : pass.freeModificationsList _ = final := by
        simpa [Ends] using ends
      exact freed node rest released

theorem wantedEdits_ahead (place : Nat) (nodes : List ModificationNode)
    (headers : List Header) : Ahead place (wantedEdits place nodes headers) := by
  fun_induction wantedEdits place nodes headers with
  | case1 => nofun
  | case2 place node rest headers body induction =>
      exact induction.mono (Nat.le_succ place)
  | case3 => nofun
  | case4 place node headers header_ append value rest body induction =>
      exact induction.mono (Nat.le_succ place)
  | case5 place node headers header_ append value rest value_ induction =>
      exact (induction.mono (Nat.le_succ _)).cons
  | case6 place node rest headers header_ inject none_ induction =>
      exact induction.mono (Nat.le_succ place)
  | case7 place node rest headers header_ inject edit wanted induction =>
      exact induction.cons
  | case8 place node rest headers header_ replace none_ induction =>
      exact induction.mono (Nat.le_succ place)
  | case9 place node rest headers header_ replace edit wanted induction =>
      exact induction.cons

section Step

variable {place : Nat} {node value : ModificationNode}
  {rest : List ModificationNode} {headers : List Header}

theorem wantedEdits_body (body : node.isHeader = 0) :
    wantedEdits place (node :: rest) headers =
      wantedEdits (place + 1) rest headers := by
  rw [wantedEdits.eq_def]
  exact if_pos body

theorem wantedEdits_append (header_ : node.isHeader ≠ 0)
    (append : node.modType = .append) (value_ : value.isHeader ≠ 0) :
    wantedEdits place (node :: value :: rest) headers =
      (place, .append (appendedHeader node value)) ::
        wantedEdits (place + 2) rest
          (headers ++ [appendedHeader node value]) := by
  simp [wantedEdits, header_, append, value_]

theorem wantedEdits_inject (header_ : node.isHeader ≠ 0)
    (inject : node.modType = .inject) :
    wantedEdits place (node :: rest) headers =
      match wantedInjection node headers with
      | none => wantedEdits (place + 1) rest headers
      | some edit =>
          (place, edit) ::
            wantedEdits (place + 1) rest (edit.apply headers) := by
  rw [wantedEdits.eq_def]
  apply (if_neg header_).trans
  cases wantedInjection node headers with
  | none => simp [inject]
  | some edit => simp [inject]

theorem wantedEdits_replace (header_ : node.isHeader ≠ 0)
    (replace : node.modType = .replace) :
    wantedEdits place (node :: rest) headers =
      match wantedReplacement node headers with
      | none => wantedEdits (place + 1) rest headers
      | some edit =>
          (place, edit) ::
            wantedEdits (place + 1) rest (edit.apply headers) := by
  rw [wantedEdits.eq_def]
  apply (if_neg header_).trans
  cases wantedReplacement node headers with
  | none => simp [replace]
  | some edit => simp [replace]

end Step

theorem map_snd_wantedEdits (place other : Nat)
    (nodes : List ModificationNode) (headers : List Header) :
    (wantedEdits place nodes headers).map Prod.snd =
      (wantedEdits other nodes headers).map Prod.snd := by
  fun_induction wantedEdits place nodes headers generalizing other with
  | case1 => rfl
  | case2 place node rest headers body induction =>
      rw [wantedEdits_body body, induction (other + 1)]
  | case3 place node headers header_ append =>
      simp [wantedEdits, header_, append]
  | case4 place node headers header_ append value rest body induction =>
      have later := induction (other + 1)
      rw [later]
      conv_rhs => rw [wantedEdits]
      simp [header_, append, body]
  | case5 place node headers header_ append value rest value_ induction =>
      rw [wantedEdits_append header_ append value_, List.map_cons,
        List.map_cons, induction (other + 2)]
  | case6 place node rest headers header_ inject none_ induction =>
      rw [wantedEdits_inject header_ inject, none_, induction (other + 1)]
  | case7 place node rest headers header_ inject edit wanted induction =>
      rw [wantedEdits_inject header_ inject, wanted, List.map_cons,
        List.map_cons, induction (other + 1)]
  | case8 place node rest headers header_ replace none_ induction =>
      rw [wantedEdits_replace header_ replace, none_, induction (other + 1)]
  | case9 place node rest headers header_ replace edit wanted induction =>
      rw [wantedEdits_replace header_ replace, wanted, List.map_cons,
        List.map_cons, induction (other + 1)]

theorem wantedEdits_eq_nil_iff {place other : Nat}
    {nodes : List ModificationNode} {headers : List Header} :
    wantedEdits place nodes headers = [] ↔
      wantedEdits other nodes headers = [] := by
  rw [← List.map_eq_nil_iff, map_snd_wantedEdits place other,
    List.map_eq_nil_iff]

/-- The modifier ends as it should: it makes what is asked for, and goes on
with the body only if this has nothing to modify. -/
def MakesWanted (bodyEmpty : Prop) (nodes : List ModificationNode) (pass : Pass)
    (outcome : Outcome) : Prop :=
  ∃ final, (outcome = .failed final ∨ outcome = .finished final ∧ bodyEmpty) ∧
    final.edits = pass.edits ++
      wantedEdits pass.place nodes pass.headers.elements ∧
    final.headers.elements =
      ((wantedEdits pass.place nodes pass.headers.elements).map
        Prod.snd).foldl HeaderEdit.apply pass.headers.elements

variable {bodyEmpty : Prop} {pass : Pass} {node : ModificationNode}
  {nodes rest : List ModificationNode}

theorem MakesWanted.ends (good : MakesWanted bodyEmpty nodes pass outcome) :
    ∃ final, Ends outcome final ∧ final.edits = pass.edits ++
      wantedEdits pass.place nodes pass.headers.elements := by
  obtain ⟨final, ends, edits, -⟩ := good
  exact ⟨final, ends.imp id And.left, edits⟩

theorem not_makesWanted_aborts :
    ¬MakesWanted bodyEmpty nodes pass .aborts := by
  rintro ⟨final, ends, -⟩
  simp at ends

theorem not_makesWanted_overruns :
    ¬MakesWanted bodyEmpty nodes pass .overruns := by
  rintro ⟨final, ends, -⟩
  simp at ends

theorem makesWanted_failed_iff {freed : List ModificationNode} :
    MakesWanted bodyEmpty nodes pass (.failed (pass.freeModificationsList freed)) ↔
      wantedEdits pass.place nodes pass.headers.elements = [] := by
  constructor
  · rintro ⟨final, ends, edits, -⟩
    obtain rfl : pass.freeModificationsList freed = final := by
      simpa using ends
    exact List.self_eq_append_right.mp edits
  · intro nothing
    refine ⟨_, .inl rfl, ?_, ?_⟩
    · simp [nothing, Pass.freeModificationsList]
    · simp [nothing, Pass.freeModificationsList]

theorem not_makesWanted_of_wanted {others : List (Nat × HeaderEdit)}
    (wanted : wantedEdits pass.place nodes pass.headers.elements =
      (pass.place, edit) :: others)
    (late : ∀ final, Ends outcome final →
      ∃ more, final.edits = pass.edits ++ more ∧
        Ahead (pass.place + 1) more) :
    ¬MakesWanted bodyEmpty nodes pass outcome := by
  intro good
  obtain ⟨final, ends, edits⟩ := good.ends
  obtain ⟨more, made, ahead⟩ := late final ends
  rw [made, wanted] at edits
  exact ahead.ne (List.append_cancel_left edits)

theorem makesWanted_step_iff {next : Pass}
    (wanted : wantedEdits pass.place nodes pass.headers.elements =
      (pass.place, edit) ::
        wantedEdits next.place rest next.headers.elements)
    (edits : next.edits = pass.edits ++ [(pass.place, edit)])
    (headers : next.headers.elements = edit.apply pass.headers.elements) :
    MakesWanted bodyEmpty nodes pass outcome ↔ MakesWanted bodyEmpty rest next outcome := by
  simp only [MakesWanted, wanted, edits, headers, List.append_assoc,
    List.singleton_append, List.map_cons, List.foldl_cons]

theorem push_of_short {key value : ModificationNode} {headers : NgxList Header}
    (keyShort : Short key) (valueShort : Short value) :
    pushHeaderToList full unset key value headers =
      .pushed (appendedHeader key value)
        (headers.push (full headers) (appendedHeader key value)) := by
  rw [pushHeaderToList, copyData_of_short keyShort,
    copyData_of_short valueShort]
  rfl

theorem short_of_pushed {key value : ModificationNode}
    {headers pushed : NgxList Header} (keySize : key.injectionSize < 2 ^ 16)
    (valueSize : value.injectionSize < 2 ^ 16)
    (result : pushHeaderToList full unset key value headers =
      .pushed header pushed) : Short key ∧ Short value := by
  by_contra long
  unfold pushHeaderToList at result
  rcases not_and_or.mp long with keyLong | valueLong
  · cases copied : copyData key with
    | overruns => simp [copied] at result
    | refused => simp [copied] at result
    | copied data => exact copyData_of_long keySize keyLong data copied
  · cases first : copyData key with
    | overruns => simp [first] at result
    | refused => simp [first] at result
    | copied keyData =>
        cases copied : copyData value with
        | overruns => simp [first, copied] at result
        | refused => simp [first, copied] at result
        | copied data => exact copyData_of_long valueSize valueLong data copied

theorem injectBuffer_eq_none_iff {value data : List UInt8} {pos : Nat} :
    injectBuffer value pos data = none ↔ value.length < pos := by
  unfold injectBuffer
  split_ifs with behind
  · simp [behind]
  · simp [behind]

theorem wantedInjection_of_found {headers : List Header}
    (found : headers[node.origBuffIndex.toNat]? = some header) :
    wantedInjection node headers =
      if 0 ≤ node.injectionPos ∧ node.injectionPos ≤ header.value.length then
        some (.inject node.origBuffIndex.toNat node.injectionPos.toNat
          (injected node))
      else none := by
  simp [wantedInjection, found]

theorem performs_inject_iff (inject : node.modType = .inject)
    {headers : NgxList Header} {current : Iterator}
    (found : getListElement headers node.origBuffIndex.toNat current =
      (some location, iterator)) (read : headers.read location = some header) :
    Performs full bodyEmpty (node :: rest) headers current ↔
      match wantedInjection node headers.elements with
      | none =>
          (header.value.length : Int) < node.injectionPos ∧
            wantedEdits 0 rest headers.elements = []
      | some _ =>
          headers.position location = node.origBuffIndex.toNat ∧
            Performs full bodyEmpty rest (injectInto headers location node)
              iterator := by
  rw [Performs.eq_def]
  simp only [inject]
  cases wantedInjection node headers.elements with
  | none =>
      refine and_congr_left fun _ => ?_
      constructor
      · rintro ⟨other, there, same, isRead, behind⟩
        rw [found] at same
        obtain rfl := Option.some.inj same
        rw [read] at isRead
        rwa [Option.some.inj isRead]
      · exact fun behind => ⟨location, header, by rw [found], read, behind⟩
  | some edit =>
      constructor
      · rintro ⟨other, ⟨same, -, position⟩, performs⟩
        rw [found] at same performs
        obtain rfl := Option.some.inj same
        exact ⟨position, performs⟩
      · rintro ⟨position, performs⟩
        refine ⟨location, ⟨by rw [found], by simp [read], position⟩, ?_⟩
        rw [found]
        exact performs

theorem not_performs_inject (inject : node.modType = .inject)
    {headers : NgxList Header} {current : Iterator}
    (unread : ∀ location header,
      (getListElement headers node.origBuffIndex.toNat current).1 =
          some location →
        headers.read location = some header → node.injectionPos < 0) :
    ¬Performs full bodyEmpty (node :: rest) headers current := by
  rw [Performs.eq_def]
  simp only [inject]
  cases wanted : wantedInjection node headers.elements with
  | none =>
      rintro ⟨⟨location, header, found, read, behind⟩, -⟩
      have before := unread location header found read
      omega
  | some edit =>
      rintro ⟨location, ⟨found, there, position⟩, -⟩
      obtain ⟨header, read⟩ := Option.isSome_iff_exists.mp there
      have before := unread location header found read
      have inList := NgxList.getElem?_position read
      rw [position] at inList
      rw [wantedInjection_of_found inList, if_neg (by omega)] at wanted
      cases wanted

theorem makesWanted_refused_iff (header_ : node.isHeader ≠ 0)
    (inject : node.modType = .inject)
    (found : getListElement pass.headers node.origBuffIndex.toNat
      pass.iterator = (some location, iterator))
    (read : pass.headers.read location = some header)
    (behind : (header.value.length : Int) < node.injectionPos) :
    MakesWanted bodyEmpty (node :: rest) pass
        (.failed (pass.freeModificationsList (node :: rest))) ↔
      Performs full bodyEmpty (node :: rest) pass.headers pass.iterator := by
  rw [makesWanted_failed_iff, wantedEdits_inject header_ inject,
    performs_inject_iff inject found read]
  cases wanted : wantedInjection node pass.headers.elements with
  | none =>
      simp only [behind, true_and]
      exact wantedEdits_eq_nil_iff
  | some edit =>
      refine iff_of_false (by simp) ?_
      rintro ⟨position, -⟩
      have there := NgxList.getElem?_position read
      rw [position] at there
      rw [wantedInjection_of_found there, if_neg (by omega)] at wanted
      cases wanted

theorem not_makesWanted_elsewhere (header_ : node.isHeader ≠ 0)
    (inject : node.modType = .inject) {value : List UInt8}
    (elsewhere :
      pass.headers.position location ≠ node.origBuffIndex.toNat)
    (made : ∀ final, Ends outcome final → ∃ more,
      final.edits = (pass.injectedAt location iterator node value).edits ++
        more) :
    ¬MakesWanted bodyEmpty (node :: rest) pass outcome := by
  intro makes
  obtain ⟨final, ends, edits⟩ := makes.ends
  obtain ⟨more, madeEdits⟩ := made final ends
  rw [madeEdits, Pass.injectedAt, List.append_assoc] at edits
  have first := List.append_cancel_left edits
  rw [wantedEdits_inject header_ inject] at first
  cases wanted : wantedInjection node pass.headers.elements with
  | none =>
      rw [wanted] at first
      exact (wantedEdits_ahead _ _ _).ne first.symm
  | some edit =>
      rw [wanted] at first
      have same := (Prod.mk.inj (List.cons.inj first).1).2
      rw [← same] at wanted
      unfold wantedInjection at wanted
      split at wanted
      · cases wanted
      · split_ifs at wanted
        obtain ⟨index, -, -⟩ :=
          HeaderEdit.inject.inj (Option.some.inj wanted)
        exact elsewhere index.symm

theorem makesWanted_injected_iff (header_ : node.isHeader ≠ 0)
    (inject : node.modType = .inject)
    (read : pass.headers.read location = some header)
    (inside : 0 ≤ node.injectionPos ∧
      node.injectionPos ≤ header.value.length)
    (position :
      pass.headers.position location = node.origBuffIndex.toNat) :
    let value := insertAt header.value
      { pos := node.injectionPos.toNat, data := injected node }
    let next := pass.injectedAt location iterator node value
    next.headers = injectInto pass.headers location node ∧
      (MakesWanted bodyEmpty (node :: rest) pass outcome ↔
        MakesWanted bodyEmpty rest next outcome) := by
  intro value next
  have updated : next.headers = injectInto pass.headers location node :=
    NgxList.update_congr read rfl
  have there := NgxList.getElem?_position read
  rw [position] at there
  have wanted := wantedInjection_of_found there
  rw [if_pos inside] at wanted
  have elements : next.headers.elements =
      HeaderEdit.apply pass.headers.elements
        (.inject node.origBuffIndex.toNat node.injectionPos.toNat
          (injected node)) := by
    rw [updated, injectInto, NgxList.elements_update read, position]
    rfl
  have edits := @wantedEdits_inject pass.place node rest
    pass.headers.elements header_ inject
  rw [wanted] at edits
  simp only [← elements] at edits
  have logged : next.edits = pass.edits ++ [(pass.place,
      .inject node.origBuffIndex.toNat node.injectionPos.toNat
        (injected node))] := by
    rw [← position]
    rfl
  exact ⟨updated, makesWanted_step_iff edits logged elements⟩

theorem makesWanted_appended_iff {value : ModificationNode}
    (header_ : node.isHeader ≠ 0) (append : node.modType = .append)
    (value_ : value.isHeader ≠ 0) :
    MakesWanted bodyEmpty (node :: value :: rest) pass outcome ↔
      MakesWanted bodyEmpty rest
        (pass.appended (appendedHeader node value)
          (pass.headers.push (full pass.headers) (appendedHeader node value)))
        outcome := by
  let next := pass.appended (appendedHeader node value)
    (pass.headers.push (full pass.headers) (appendedHeader node value))
  have elements : next.headers.elements =
      pass.headers.elements ++ [appendedHeader node value] :=
    NgxList.elements_push _ _ _
  have wanted : wantedEdits pass.place (node :: value :: rest)
      pass.headers.elements =
        (pass.place, .append (appendedHeader node value)) ::
          wantedEdits next.place rest next.headers.elements := by
    rw [wantedEdits_append header_ append value_, elements]
    rfl
  exact makesWanted_step_iff wanted rfl elements

/-- On a list of header modifications. -/
theorem makesWanted_iff {nodes : List ModificationNode}
    (headers : ∀ node ∈ nodes, node.isHeader ≠ 0)
    (sizes : ∀ node ∈ nodes, node.injectionSize < 2 ^ 16) :
    MakesWanted bodyEmpty nodes pass
        (ngxHttpCpHeaderModifier full unset nodes pass) ↔
      Performs full bodyEmpty nodes pass.headers pass.iterator := by
  fun_induction ngxHttpCpHeaderModifier full unset nodes pass with
  | case1 pass =>
      simp [MakesWanted, Performs, wantedEdits]
  | case2 node rest pass body =>
      exact absurd body (headers node List.mem_cons_self)
  | case3 node pass header_ append =>
      rw [makesWanted_failed_iff]
      simp [wantedEdits, Performs, header_, append]
  | case4 node pass header_ append value rest body =>
      exact absurd body (headers value (by simp))
  | case5 node pass header_ append value rest value_ pushed =>
      refine iff_of_false not_makesWanted_overruns ?_
      simp only [Performs, append]
      rintro ⟨keyShort, valueShort, -⟩
      rw [push_of_short keyShort valueShort] at pushed
      exact absurd pushed (by simp)
  | case6 node pass header_ append value rest value_ headers_ pushed =>
      refine iff_of_false ?_ ?_
      · apply not_makesWanted_of_wanted
          (wantedEdits_append header_ append value_)
        rintro final ends
        obtain rfl : Pass.freeModificationsList
            { pass with headers := headers_ } _ = final := by
          simpa [Ends] using ends
        exact ⟨[], by simp [Pass.freeModificationsList], nofun⟩
      · simp only [Performs, append]
        rintro ⟨keyShort, valueShort, -⟩
        rw [push_of_short keyShort valueShort] at pushed
        exact absurd pushed (by simp)
  | case7 node pass header_ append value rest value_ header headers_ pushed
      induction =>
      have headersRest := List.forall_mem_of_forall_mem_cons
        (List.forall_mem_of_forall_mem_cons headers)
      have sizesRest := List.forall_mem_of_forall_mem_cons
        (List.forall_mem_of_forall_mem_cons sizes)
      obtain ⟨keyShort, valueShort⟩ := short_of_pushed
        (sizes node (by simp)) (sizes value (by simp)) pushed
      rw [push_of_short keyShort valueShort] at pushed
      obtain ⟨rfl, rfl⟩ := Pushed.pushed.inj pushed
      rw [@makesWanted_appended_iff full _ _ pass node rest value header_ append
        value_, induction headersRest sizesRest]
      simp [Performs, append, keyShort, valueShort, Pass.appended]
  | case8 node rest pass header_ inject iterator found =>
      refine iff_of_false not_makesWanted_aborts ?_
      apply not_performs_inject inject
      simp [found]
  | case9 node rest pass header_ inject location iterator found before =>
      refine iff_of_false not_makesWanted_aborts ?_
      exact not_performs_inject inject fun _ _ _ _ => before
  | case10 node rest pass header_ inject location iterator found inside read =>
      refine iff_of_false not_makesWanted_overruns ?_
      apply not_performs_inject inject
      rintro other header same there
      rw [found] at same
      obtain rfl := Option.some.inj same
      rw [read] at there
      cases there
  | case11 node rest pass header_ inject location iterator found inside header
      read behind =>
      have behind := injectBuffer_eq_none_iff.mp behind
      exact makesWanted_refused_iff header_ inject found read (by omega)
  | case12 node rest pass header_ inject location iterator found inside header
      read value written induction =>
      have headersRest := List.forall_mem_of_forall_mem_cons headers
      have sizesRest := List.forall_mem_of_forall_mem_cons sizes
      have within : ¬header.value.length < node.injectionPos.toNat := by
        rw [← @injectBuffer_eq_none_iff _ (injected node), written]
        simp
      rw [injectBuffer, if_neg within] at written
      obtain rfl := Option.some.inj written
      rw [performs_inject_iff inject found read]
      by_cases position :
          pass.headers.position location = node.origBuffIndex.toNat
      · have there := NgxList.getElem?_position read
        rw [position] at there
        rw [wantedInjection_of_found there, if_pos (by omega)]
        obtain ⟨updated, made⟩ := @makesWanted_injected_iff
          (ngxHttpCpHeaderModifier full unset rest _) header location iterator
          bodyEmpty pass node rest header_ inject read (by omega) position
        rw [made, induction headersRest sizesRest, updated]
        exact (and_iff_right position).symm
      · refine iff_of_false ?_ ?_
        · apply not_makesWanted_elsewhere header_ inject position
          intro final ends
          obtain ⟨more, made, -⟩ := edits_ahead ends
          exact ⟨more, made⟩
        · split
          · rintro ⟨behind, -⟩
            omega
          · exact fun performs => position performs.1
  | case13 node rest pass header_ replace induction =>
      have headersRest := List.forall_mem_of_forall_mem_cons headers
      have sizesRest := List.forall_mem_of_forall_mem_cons sizes
      have wanted := @wantedEdits_replace pass.place node rest
        pass.headers.elements header_ replace
      rw [Performs.eq_def]
      simp only [replace]
      cases replaced : wantedReplacement node pass.headers.elements with
      | none =>
          rw [replaced] at wanted
          simp only [true_and]
          refine Iff.trans ?_ (induction headersRest sizesRest)
          simp only [MakesWanted, wanted, Pass.passed]
      | some edit =>
          rw [replaced] at wanted
          refine iff_of_false ?_ (by simp)
          apply not_makesWanted_of_wanted wanted
          exact fun final ends => edits_ahead ends

end Run

section Bodies

variable {modifications : List ModificationNode} {chain : List (List UInt8)}

theorem mem_bodyPlaces {place : Nat} :
    place ∈ bodyPlaces modifications ↔
      ∃ node, modifications[place]? = some node ∧ node.isHeader = 0 := by
  simp only [bodyPlaces, List.mem_map, List.mem_filter, decide_eq_true_eq]
  constructor
  · rintro ⟨⟨node, found⟩, ⟨member, body⟩, rfl⟩
    exact ⟨node, List.mk_mem_zipIdx_iff_getElem?.mp member, body⟩
  · rintro ⟨node, found, body⟩
    exact ⟨(node, place), ⟨List.mk_mem_zipIdx_iff_getElem?.mpr found, body⟩,
      rfl⟩

theorem nodup_bodyPlaces : (bodyPlaces modifications).Nodup := by
  have places : ((modifications.zipIdx).map Prod.snd).Nodup := by
    rw [List.zipIdx_map_snd]
    exact List.nodup_range'
  exact places.sublist ((List.filter_sublist).map Prod.snd)

theorem bodyPlaces_eq_nil_iff :
    bodyPlaces modifications = [] ↔
      ∀ node ∈ modifications, node.isHeader ≠ 0 := by
  rw [List.eq_nil_iff_forall_not_mem]
  simp only [mem_bodyPlaces, not_exists, not_and]
  constructor
  · intro nothing node member
    obtain ⟨place, found⟩ := List.mem_iff_getElem?.mp member
    exact nothing place node found
  · intro headers place node found
    exact headers node (List.mem_of_getElem? found)

/-- The body modifier alone, on a list with other nodes as well. -/
theorem bodyOnly_iff
    (wellFormed : WellFormed chain (bodyNodes modifications)) :
    (∃ released, bodyModifier modifications 0 chain 0 [] =
        some (modified (bodyNodes modifications) 0 chain, released) ∧
      released.Perm (bodyPlaces modifications)) ↔
      BodyOnly modifications chain := by
  -- Where the nodes of the body come first, the others are behind them.
  have split {nodes last : List ModificationNode}
      (whole : modifications = nodes ++ last)
      (bodies : ∀ node ∈ nodes, node.isHeader = 0)
      (headers : ∀ node ∈ last, node.isHeader ≠ 0) :
      bodyNodes modifications = nodes ∧
        (bodyPlaces modifications).Perm (List.range nodes.length) ∧
        (AppliesFirst nodes.length (modified nodes 0 chain)
            (bodyModifier modifications 0 chain 0 []) ↔
          AllApplicable nodes 0 chain ∧
            ∀ node ∈ last.head?, Spared nodes 0 chain node) := by
    have own : bodyNodes modifications = nodes := by
      rw [bodyNodes, whole, List.filter_append,
        List.filter_eq_self.mpr (by simpa using bodies),
        List.filter_eq_nil_iff.mpr (by simpa using headers), List.append_nil]
    refine ⟨own, ?_, ?_⟩
    · rw [List.perm_ext_iff_of_nodup nodup_bodyPlaces List.nodup_range]
      intro place
      rw [mem_bodyPlaces, List.mem_range, whole]
      constructor
      · rintro ⟨node, found, body⟩
        by_contra behind
        rw [List.getElem?_append_right (Nat.le_of_not_lt behind)] at found
        exact headers node (List.mem_of_getElem? found) body
      · intro early
        refine ⟨nodes[place], ?_, bodies _ (List.getElem_mem early)⟩
        rw [List.getElem?_append_left early, List.getElem?_eq_getElem early]
    · rw [own] at wellFormed
      have remaining : Remaining modifications last 0 chain 0 [] nodes :=
        { suffix := whole
          reached := Nat.zero_le _
          released := List.Perm.refl _
          ordered := wellFormed.ordered
          inRange := wellFormed.inRange }
      have exactly := remaining.appliesFirst_iff
      rwa [Nat.zero_add] at exactly
  constructor
  · rintro ⟨released, result, perm⟩
    obtain ⟨count, -, first⟩ := bodyModifier_first (List.Perm.refl _)
      (Nat.le_refl 0) (Nat.zero_le _) result
    have places (place : Nat) :
        place < count ↔
          ∃ node, modifications[place]? = some node ∧ node.isHeader = 0 := by
      rw [← mem_bodyPlaces, ← List.mem_range]
      exact (first.symm.trans perm).mem_iff
    have bodies : ∀ node ∈ modifications.take count, node.isHeader = 0 := by
      intro node member
      obtain ⟨place, found⟩ := List.mem_iff_getElem?.mp member
      rw [List.getElem?_take] at found
      split_ifs at found with early
      obtain ⟨other, there, body⟩ := (places place).mp early
      rw [found] at there
      rwa [Option.some.inj there]
    have headers : ∀ node ∈ modifications.drop count, node.isHeader ≠ 0 := by
      intro node member body
      obtain ⟨place, found⟩ := List.mem_iff_getElem?.mp member
      rw [List.getElem?_drop] at found
      have early := (places (count + place)).mpr ⟨node, found, body⟩
      omega
    have whole := (List.take_append_drop count modifications).symm
    obtain ⟨own, all, exactly⟩ := split whole bodies headers
    rw [own] at result
    refine ⟨_, _, whole, bodies, headers, exactly.mp ?_⟩
    exact ⟨released, result, perm.trans all⟩
  · rintro ⟨nodes, last, whole, bodies, headers, applicable⟩
    obtain ⟨own, all, exactly⟩ := split whole bodies headers
    obtain ⟨released, result, perm⟩ := exactly.mpr applicable
    rw [own]
    exact ⟨released, result, perm.trans all.symm⟩

end Bodies

section Request

variable {full : NgxList Header → Bool} {unset : Header}
  {modifications : List ModificationNode} {headers : NgxList Header}
  {chain : List (List UInt8)}

/-- The state in which the header modifier starts. -/
def start (headers : NgxList Header) : Pass :=
  { headers
    iterator := initListIterator
    place := 0
    edits := []
    released := [] }

section Outcomes

variable {final : Pass}

theorem modifyRequest_of_faults
    (outcome : ngxHttpCpHeaderModifier full unset modifications
        (start headers) = .aborts ∨
      ngxHttpCpHeaderModifier full unset modifications (start headers) =
        .overruns) :
    modifyRequest full unset modifications headers chain = none := by
  rw [start] at outcome
  rcases outcome with aborts | overruns
  · simp [modifyRequest, aborts]
  · simp [modifyRequest, overruns]

theorem modifyRequest_of_failed
    (outcome : ngxHttpCpHeaderModifier full unset modifications
      (start headers) = .failed final) :
    modifyRequest full unset modifications headers chain =
      some
        { headers := final.headers
          edits := final.edits
          chain
          ofHeaders := final.released
          released := final.released } := by
  rw [start] at outcome
  simp [modifyRequest, outcome]

theorem modifyRequest_of_finished
    (outcome : ngxHttpCpHeaderModifier full unset modifications
      (start headers) = .finished final) :
    modifyRequest full unset modifications headers chain =
      (bodyModifier modifications 0 chain 0 final.released).map fun result =>
        { headers := final.headers
          edits := final.edits
          chain := result.1
          ofHeaders := final.released
          released := result.2 } := by
  rw [start] at outcome
  simp [modifyRequest, outcome]

end Outcomes

/-- A list of header modifications: the body modifier reads the first node
unless all buffers are empty. -/
theorem madeOnce_headers_iff (first : HeaderFirst modifications)
    (all : ∀ node ∈ modifications, node.isHeader ≠ 0) :
    MadeOnce modifications headers.elements chain
        (modifyRequest full unset modifications headers chain) ↔
      MakesWanted (∀ buffer ∈ chain, buffer = []) modifications (start headers)
        (ngxHttpCpHeaderModifier full unset modifications (start headers)) := by
  have nodes : bodyNodes modifications = [] :=
    List.filter_eq_nil_iff.mpr (by simpa using all)
  have places : bodyPlaces modifications = [] := bodyPlaces_eq_nil_iff.mpr all
  have made {final : Pass}
      (ends : Ends (ngxHttpCpHeaderModifier full unset modifications
        (start headers)) final) :
      MadeOnce modifications headers.elements chain
          (some
            { headers := final.headers
              edits := final.edits
              chain
              ofHeaders := final.released
              released := final.released }) ↔
        final.edits = wantedEdits 0 modifications headers.elements ∧
          final.headers.elements =
            ((wantedEdits 0 modifications headers.elements).map
              Prod.snd).foldl HeaderEdit.apply headers.elements := by
    obtain ⟨count, perm, -⟩ := released_of_ends (List.Perm.refl _) ends
    constructor
    · rintro ⟨request, same, made⟩
      obtain rfl := Option.some.inj same
      exact ⟨made.edits, made.headers⟩
    · rintro ⟨edits, elements⟩
      refine ⟨_, rfl, edits, elements, ?_, ⟨[], by simp, by rw [places]⟩, ?_⟩
      · rw [nodes, modified_nil]
      · exact perm.nodup_iff.mpr List.nodup_range
  cases outcome : ngxHttpCpHeaderModifier full unset modifications
      (start headers) with
  | aborts =>
      rw [modifyRequest_of_faults (.inl outcome)]
      refine iff_of_false ?_ not_makesWanted_aborts
      rintro ⟨request, same, -⟩
      exact absurd same (by simp)
  | overruns =>
      rw [modifyRequest_of_faults (.inr outcome)]
      refine iff_of_false ?_ not_makesWanted_overruns
      rintro ⟨request, same, -⟩
      exact absurd same (by simp)
  | failed final =>
      rw [modifyRequest_of_failed outcome]
      refine (made (.inl outcome)).trans ?_
      constructor
      · rintro ⟨edits, elements⟩
        exact ⟨final, .inl rfl, edits, elements⟩
      · rintro ⟨other, ends, edits, elements⟩
        obtain rfl : final = other := by simpa using ends
        exact ⟨edits, elements⟩
  | finished final =>
      rw [modifyRequest_of_finished outcome]
      obtain ⟨count, perm, some_, -⟩ :=
        released_of_ends (List.Perm.refl _) (.inr outcome)
      have gone : 0 ∈ final.released :=
        perm.mem_iff.mpr (List.mem_range.mpr (by
          have := some_ first
          omega))
      have inside : 0 < modifications.length := by
        obtain ⟨node, head, -⟩ := first
        exact List.length_pos_of_mem (List.mem_of_mem_head? head)
      obtain ⟨passes, fails⟩ :=
        @bodyModifier_released modifications final.released 0 0 inside gone
          chain
      by_cases empty : ∀ buffer ∈ chain, buffer = []
      · rw [passes empty]
        refine (made (.inr outcome)).trans ?_
        constructor
        · rintro ⟨edits, elements⟩
          exact ⟨final, .inr ⟨rfl, empty⟩, edits, elements⟩
        · rintro ⟨other, ends, edits, elements⟩
          obtain ⟨rfl, -⟩ : final = other ∧ _ := by simpa using ends
          exact ⟨edits, elements⟩
      · rw [fails empty]
        refine iff_of_false ?_ ?_
        · rintro ⟨request, same, -⟩
          exact absurd same (by simp)
        · rintro ⟨other, ends, -⟩
          rcases ends with failed | ⟨-, all⟩
          · exact absurd failed (by simp)
          · exact empty all

/-- Behind a modification of a header none of the body is made. -/
theorem not_madeOnce_of_mixed (first : HeaderFirst modifications)
    (some_ : ¬∀ node ∈ modifications, node.isHeader ≠ 0) :
    ¬MadeOnce modifications headers.elements chain
      (modifyRequest full unset modifications headers chain) := by
  have places : bodyPlaces modifications ≠ [] :=
    fun none_ => some_ (bodyPlaces_eq_nil_iff.mp none_)
  have nothing {request : Request} (same : request.released =
      request.ofHeaders) :
      ¬request.Made modifications headers.elements chain := by
    intro made
    obtain ⟨applied, split, perm⟩ := made.ofBody
    rw [same] at split
    rw [List.self_eq_append_right.mp split] at perm
    exact places perm.symm.eq_nil
  rintro ⟨request, result, made⟩
  cases outcome : ngxHttpCpHeaderModifier full unset modifications
      (start headers) with
  | aborts =>
      rw [modifyRequest_of_faults (.inl outcome)] at result
      exact absurd result (by simp)
  | overruns =>
      rw [modifyRequest_of_faults (.inr outcome)] at result
      exact absurd result (by simp)
  | failed final =>
      rw [modifyRequest_of_failed outcome] at result
      obtain rfl := Option.some.inj result
      exact nothing rfl made
  | finished final =>
      rw [modifyRequest_of_finished outcome] at result
      obtain ⟨count, perm, positive, -⟩ :=
        released_of_ends (List.Perm.refl _) (.inr outcome)
      have gone : 0 ∈ final.released :=
        perm.mem_iff.mpr (List.mem_range.mpr (by
          have := positive first
          omega))
      have inside : 0 < modifications.length := by
        obtain ⟨node, head, -⟩ := first
        exact List.length_pos_of_mem (List.mem_of_mem_head? head)
      obtain ⟨passes, fails⟩ :=
        @bodyModifier_released modifications final.released 0 0 inside gone
          chain
      by_cases empty : ∀ buffer ∈ chain, buffer = []
      · simp only [passes empty, Option.map_some, Option.some.injEq] at result
        subst result
        exact nothing rfl made
      · simp only [fails empty, Option.map_none] at result
        exact absurd result (by simp)

theorem madeOnce_bodies_iff (first : ¬HeaderFirst modifications)
    (wellFormed : WellFormed chain (bodyNodes modifications)) :
    MadeOnce modifications headers.elements chain
        (modifyRequest full unset modifications headers chain) ↔
      wantedEdits 0 modifications headers.elements = [] ∧
        BodyOnly modifications chain := by
  have finished : ngxHttpCpHeaderModifier full unset modifications
      (start headers) = .finished (start headers) := by
    cases modifications with
    | nil => rfl
    | cons node rest =>
        have body : node.isHeader = 0 := by
          by_contra header_
          exact first ⟨node, rfl, header_⟩
        rw [ngxHttpCpHeaderModifier.eq_def]
        exact if_pos body
  have run : modifyRequest full unset modifications headers chain =
      (bodyModifier modifications 0 chain 0 []).map fun result =>
        { headers
          edits := []
          chain := result.1
          ofHeaders := []
          released := result.2 } :=
    modifyRequest_of_finished finished
  rw [run, ← bodyOnly_iff wellFormed]
  constructor
  · rintro ⟨request, result, made⟩
    obtain ⟨⟨buffers, released⟩, body, rfl⟩ :=
      Option.map_eq_some_iff.mp result
    obtain ⟨applied, split, perm⟩ := made.ofBody
    have same : released = applied := split
    have chain_ : buffers = modified (bodyNodes modifications) 0 chain :=
      made.chain
    rw [chain_] at body
    exact ⟨made.edits.symm, released, body, same ▸ perm⟩
  · rintro ⟨nothing, released, body, perm⟩
    refine ⟨_, by rw [body]; rfl, ?_, ?_, rfl, ⟨released, rfl, perm⟩, ?_⟩
    · exact nothing.symm
    · rw [nothing]
      rfl
    · exact perm.nodup_iff.mpr nodup_bodyPlaces

/-- Both modifiers make each modification once and use no released node exactly
if the list is for the headers only, with nothing in the body and header
modifications that the first modifier can make, or is for the body only. -/
theorem request_modified_iff (full : NgxList Header → Bool) (unset : Header)
    (modifications : List ModificationNode) (headers : NgxList Header)
    (chain : List (List UInt8))
    (sizes : ∀ node ∈ modifications, node.injectionSize < 2 ^ 16)
    (wellFormed : WellFormed chain (bodyNodes modifications)) :
    MadeOnce modifications headers.elements chain
        (modifyRequest full unset modifications headers chain) ↔
      (HeaderFirst modifications →
        (∀ node ∈ modifications, node.isHeader ≠ 0) ∧
          Performs full (∀ buffer ∈ chain, buffer = []) modifications headers
            initListIterator) ∧
      (¬HeaderFirst modifications →
        wantedEdits 0 modifications headers.elements = [] ∧
          BodyOnly modifications chain) := by
  by_cases first : HeaderFirst modifications
  · by_cases all : ∀ node ∈ modifications, node.isHeader ≠ 0
    · rw [madeOnce_headers_iff first all, makesWanted_iff all sizes]
      constructor
      · intro performs
        exact ⟨fun _ => ⟨all, performs⟩, fun other => absurd first other⟩
      · intro condition
        exact (condition.1 first).2
    · refine iff_of_false (not_madeOnce_of_mixed first all) ?_
      exact fun condition => all (condition.1 first).1
  · rw [madeOnce_bodies_iff first wellFormed]
    simp [first]

end Request

/-- A node of a header modification. -/
def ofHeader (modType : HttpModificationType) (index : UInt8) (pos : Int)
    (data : List UInt8) : ModificationNode :=
  { inject index pos data with modType, isHeader := 1 }

/-- A list with one header. -/
def oneHeader : NgxList Header :=
  { parts := [[{ key := [1], value := [2, 3] }]]
    nonempty := by simp }

/-- An injection into the header and an appended header. -/
def headersOnly : List ModificationNode :=
  [ofHeader .inject 0 1 [7], ofHeader .append 0 0 [4], ofHeader .append 0 0 [5]]

theorem headersOnly_performed :
    MadeOnce headersOnly oneHeader.elements [[]]
      (modifyRequest (fun _ => true) { key := [], value := [] } headersOnly
        oneHeader [[]]) := by
  have sizes : ∀ node ∈ headersOnly, node.injectionSize < 2 ^ 16 := by
    simp [headersOnly, ofHeader, inject]
  have wellFormed : WellFormed [[]] (bodyNodes headersOnly) :=
    ⟨List.Pairwise.nil, by simp [bodyNodes, headersOnly, ofHeader]⟩
  apply (request_modified_iff _ _ _ _ _ sizes wellFormed).mpr
  refine ⟨fun _ => ⟨by decide, ?_⟩, ?_⟩
  · have short (data : List UInt8) (small : data.length < 2 ^ 15) :
        Short (ofHeader .append 0 0 data) := small
    refine ⟨{ part := 0, element := 0 }, ⟨rfl, rfl, rfl⟩,
      short [4] (by decide), short [5] (by decide), ?_⟩
    simp [Performs]
  · exact fun first => absurd ⟨_, rfl, by decide⟩ first

/-- An appended header and an injection into the body: the body modifier reads
the node that was released first. -/
theorem body_modification_after_header :
    (∀ node ∈ [ofHeader .append 0 0 [4], ofHeader .append 0 0 [5],
        inject 0 1 [9]], node.injectionSize < 2 ^ 16) ∧
      WellFormed [[1, 2]] (bodyNodes [ofHeader .append 0 0 [4],
        ofHeader .append 0 0 [5], inject 0 1 [9]]) ∧
      modifyRequest (fun _ => true) { key := [], value := [] }
        [ofHeader .append 0 0 [4], ofHeader .append 0 0 [5], inject 0 1 [9]]
        oneHeader [[1, 2]] = none ∧
      ¬MadeOnce [ofHeader .append 0 0 [4], ofHeader .append 0 0 [5],
          inject 0 1 [9]] oneHeader.elements [[1, 2]]
        (modifyRequest (fun _ => true) { key := [], value := [] }
          [ofHeader .append 0 0 [4], ofHeader .append 0 0 [5],
            inject 0 1 [9]] oneHeader [[1, 2]]) := by
  have faults : modifyRequest (fun _ => true) { key := [], value := [] }
      [ofHeader .append 0 0 [4], ofHeader .append 0 0 [5], inject 0 1 [9]]
      oneHeader [[1, 2]] = none := by
    rfl
  refine ⟨?_, ⟨by decide, ?_⟩, faults, ?_⟩
  · simp [ofHeader, inject]
  · simp [bodyNodes, ofHeader, inject, InRange]
  · rintro ⟨request, result, -⟩
    rw [faults] at result
    exact absurd result (by simp)

end OpenAppsec.HeaderModifier
