import OpenAppsec.Attachment.Senders
import OpenAppsec.Library.CopyBack

/-!
# Restoring a chain after a failure

The buffers of a body are decompressed in place, and each of them is saved in
a chain before.  The saved chain is kept from call to call and grows with the
bodies.  When a buffer fails, the saved chain is copied back.
-/

namespace OpenAppsec.ChainRestore

open CopyBack

/-- The bytes that a buffer describes, and its flags. -/
structure NgxBuf where
  bytes : List UInt8
  memory : Bool
  lastBuf : Bool
  lastInChain : Bool
  deriving DecidableEq

/-- The buffer of a link of the body, and what is decompressed of it, unless
this fails. -/
structure Input where
  buf : NgxBuf
  data : Option (List UInt8)

/-- The buffer that replaces one: other bytes, which are in memory if there are
any. -/
def NgxBuf.decompressed (buf : NgxBuf) (data : List UInt8) : NgxBuf :=
  { buf with
    bytes := data
    memory := buf.memory || !data.isEmpty }

/-- A link, with the buffer that it points to. -/
abbrev Link := Option NgxBuf

/-- The links that were freed, the last one first, and how many more there is
memory for. -/
structure Pool where
  chain : List Link
  room : Nat

/-- `ngx_alloc_chain_link`: take a link that was freed, or a new one. -/
def Pool.allocChainLink (pool : Pool) : Option Pool :=
  match pool.chain with
  | _ :: chain => some { pool with chain := chain }
  | [] =>
      match pool.room with
      | 0 => none
      | room + 1 => some { pool with room := room }

/-- `ngx_free_chain`: the link leads to the links that were freed before. -/
def Pool.freeChain (pool : Pool) (link : Link) : Pool :=
  { pool with chain := link :: pool.chain }

/-- How many links can be taken. -/
def Pool.available (pool : Pool) : Nat :=
  pool.chain.length + pool.room

/-- The saved chain during a call: the buffers that are saved, and the current
link with those after it, unless it is null. -/
structure Saving where
  before : List NgxBuf
  current : Option (Link × List Link)
  pool : Pool

/-- The saved chain, from its first link on. -/
def Saving.chain (saving : Saving) : List Link :=
  saving.before.map some ++
    match saving.current with
    | none => []
    | some (link, links) => link :: links

/-- Start at the first link of the saved chain, if it has one. -/
def Saving.start (saved : List Link) (pool : Pool) : Saving where
  before := []
  current :=
    match saved with
    | [] => none
    | link :: links => some (link, links)
  pool := pool

/-- Save a buffer, and go on to the next link if there is another buffer. -/
def Saving.save (saving : Saving) (buf : NgxBuf) (isLast : Bool) : Saving :=
  match saving.current with
  | none => saving
  | some (_, links) =>
      let before := saving.before ++ [buf]
      if isLast then
        { saving with before := before, current := none }
      else
        match links with
        | link :: links =>
            { saving with before := before, current := some (link, links) }
        | [] =>
            match saving.pool.allocChainLink with
            | none => { saving with before := before, current := none }
            | some pool =>
                { before := before, current := some (none, []), pool := pool }

/-- The result of a call, the buffers of the body, and what is kept for the
next call. -/
structure Outcome where
  result : Nginx.NgxResult
  body : List NgxBuf
  saved : List Link
  pool : Pool

/-- The exit after a failure: the current link is freed, and the saved chain is
copied back from its first link on. -/
def Saving.fail (saving : Saving) (body : List NgxBuf) : Outcome :=
  match saving.current with
  | none =>
      { result := .error
        body := body
        saved := saving.chain
        pool := saving.pool }
  | some (link, _) =>
      let pool := saving.pool.freeChain link
      let saved := saving.before.map some ++ pool.chain
      { result := .error
        body := copyBack body saved
        saved := saved
        pool := pool }

/-- The links of the body from one on, with the buffers before it as they are
by then. -/
def filterFrom (written : List NgxBuf) (saving : Saving) :
    List Input → Outcome
  | [] =>
      { result := .ok
        body := written
        saved := saving.chain
        pool := saving.pool }
  | input :: inputs =>
      match input.data with
      | none => saving.fail (written ++ (input :: inputs).map Input.buf)
      | some data =>
          filterFrom (written ++ [input.buf.decompressed data])
            (saving.save input.buf inputs.isEmpty) inputs

/-- `compression_chain_filter`, with the saved chain so far. -/
def compressionChainFilter (saved : List Link) (pool : Pool)
    (body : List Input) : Outcome :=
  filterFrom [] (.start saved pool) body

/-- What is written over a buffer, if it does not fail. -/
def Input.written (input : Input) : NgxBuf :=
  match input.data with
  | none => input.buf
  | some data => input.buf.decompressed data

/-- Save buffers that others come after. -/
def Saving.saveAll (saving : Saving) (bufs : List NgxBuf) : Saving :=
  bufs.foldl (fun saving buf => saving.save buf false) saving

theorem Saving.saveAll_cons (saving : Saving) (buf : NgxBuf)
    (bufs : List NgxBuf) :
    saving.saveAll (buf :: bufs) = (saving.save buf false).saveAll bufs :=
  rfl

theorem filterFrom_append {passed rest : List Input} (more : rest ≠ [])
    (decompress : ∀ input ∈ passed, input.data.isSome = true)
    (written : List NgxBuf) (saving : Saving) :
    filterFrom written saving (passed ++ rest) =
      filterFrom (written ++ passed.map Input.written)
        (saving.saveAll (passed.map Input.buf)) rest := by
  induction passed generalizing written saving with
  | nil => simp [Saving.saveAll]
  | cons input passed induction =>
      obtain ⟨first, others⟩ := List.forall_mem_cons.mp decompress
      obtain ⟨data, decompressed⟩ := Option.isSome_iff_exists.mp first
      have notLast : (passed ++ rest).isEmpty = false := by
        simp [more]
      rw [List.cons_append, filterFrom, decompressed]
      simp only [notLast]
      rw [induction others, List.map_cons, List.map_cons,
        Saving.saveAll_cons]
      simp [Input.written, decompressed]

theorem Saving.saveAll_of_lost {saving : Saving}
    (lost : saving.current = none) (bufs : List NgxBuf) :
    saving.saveAll bufs = saving := by
  induction bufs with
  | nil => rfl
  | cons buf bufs induction =>
      have same : saving.save buf false = saving := by
        simp [save, lost]
      rw [saveAll_cons, same, induction]

theorem Pool.allocChainLink_of_available {pool : Pool}
    (positive : 0 < pool.available) :
    ∃ rest, pool.allocChainLink = some rest ∧
      rest.available + 1 = pool.available := by
  obtain ⟨chain, room⟩ := pool
  rcases chain with - | ⟨link, chain⟩
  · rcases room with - | room
    · simp [available] at positive
    · exact ⟨_, rfl, by simp [available]⟩
  · refine ⟨_, rfl, ?_⟩
    simp [available]
    omega

theorem Pool.allocChainLink_of_empty {pool : Pool}
    (empty : pool.available = 0) : pool.allocChainLink = none := by
  obtain ⟨chain, room⟩ := pool
  obtain ⟨noChain, rfl⟩ := Nat.add_eq_zero_iff.mp empty
  obtain rfl := List.length_eq_zero_iff.mp noChain
  rfl

section

variable {before bufs : List NgxBuf} {link : Link} {links : List Link}
variable {pool : Pool}

theorem Saving.saveAll_within (inside : bufs.length ≤ links.length) :
    ∃ next rest, (link :: links).drop bufs.length = next :: rest ∧
      Saving.saveAll ⟨before, some (link, links), pool⟩ bufs =
        ⟨before ++ bufs, some (next, rest), pool⟩ := by
  induction bufs generalizing before link links with
  | nil => exact ⟨link, links, rfl, by simp [saveAll]⟩
  | cons buf bufs induction =>
      obtain ⟨following, links, rfl⟩ :=
        List.exists_cons_of_length_pos (Nat.lt_of_lt_of_le
          (Nat.succ_pos _) inside)
      obtain ⟨next, rest, dropped, saved⟩ :=
        @induction (before ++ [buf]) following _
          (Nat.le_of_succ_le_succ inside)
      refine ⟨next, rest, by simpa using dropped, ?_⟩
      have step : Saving.save ⟨before, some (link, following :: links), pool⟩
          buf false = ⟨before ++ [buf], some (following, links), pool⟩ :=
        rfl
      rw [saveAll_cons, step, saved]
      simp

theorem Saving.saveAll_beyond (past : links.length < bufs.length)
    (enough : bufs.length - links.length ≤ pool.available) :
    ∃ rest, Saving.saveAll ⟨before, some (link, links), pool⟩ bufs =
      ⟨before ++ bufs, some (none, []), rest⟩ := by
  induction bufs generalizing before link links pool with
  | nil => simp at past
  | cons buf bufs induction =>
      rcases links with - | ⟨following, links⟩
      · obtain ⟨rest, taken, left⟩ :=
          @Pool.allocChainLink_of_available pool
            (by simp at enough; omega)
        have step : Saving.save ⟨before, some (link, []), pool⟩ buf false =
            ⟨before ++ [buf], some (none, []), rest⟩ := by
          simp [save, taken]
        rw [saveAll_cons, step]
        rcases bufs with - | ⟨second, bufs⟩
        · exact ⟨rest, rfl⟩
        · obtain ⟨last, saved⟩ :=
            @induction (before ++ [buf]) none [] rest (by simp)
              (by simp at enough ⊢; omega)
          exact ⟨last, by simpa using saved⟩
      · have step : Saving.save ⟨before, some (link, following :: links), pool⟩
            buf false = ⟨before ++ [buf], some (following, links), pool⟩ :=
          rfl
        obtain ⟨last, saved⟩ :=
          @induction (before ++ [buf]) following links pool
            (by simp at past; omega) (by simp at enough; omega)
        rw [saveAll_cons, step]
        exact ⟨last, by simpa using saved⟩

theorem Saving.saveAll_lost (past : links.length < bufs.length)
    (few : pool.available < bufs.length - links.length) :
    (Saving.saveAll ⟨before, some (link, links), pool⟩ bufs).current =
      none := by
  induction bufs generalizing before link links pool with
  | nil => simp at past
  | cons buf bufs induction =>
      rcases links with - | ⟨following, links⟩
      · rcases Nat.eq_zero_or_pos pool.available with empty | positive
        · have taken := Pool.allocChainLink_of_empty empty
          have step : Saving.save ⟨before, some (link, []), pool⟩ buf false =
              ⟨before ++ [buf], none, pool⟩ := by
            simp [save, taken]
          rw [saveAll_cons, step, saveAll_of_lost rfl]
        · obtain ⟨rest, taken, left⟩ :=
            Pool.allocChainLink_of_available positive
          have step : Saving.save ⟨before, some (link, []), pool⟩ buf false =
              ⟨before ++ [buf], some (none, []), rest⟩ := by
            simp [save, taken]
          rw [saveAll_cons, step]
          simp only [List.length_cons, List.length_nil] at few
          exact induction (by simp; omega) (by simp; omega)
      · have step : Saving.save ⟨before, some (link, following :: links), pool⟩
            buf false = ⟨before ++ [buf], some (following, links), pool⟩ :=
          rfl
        rw [saveAll_cons, step]
        exact induction (by simp at past; omega) (by simp at few; omega)

end

/-- At the first buffer that fails the saved chain has no older buffers, or
only the ones of the body; past its end, every further link was there, or
nothing was changed so far. -/
def RestoresAt (saved : List Link) (pool : Pool) (passed : List Input)
    (rest : List Input) : Prop :=
  if passed.length < saved.length then
    Agrees (rest.map Input.buf)
      ((saved.drop passed.length).take 1 ++ pool.chain)
  else
    saved ≠ [] ∧ passed.length + 1 - saved.length ≤ pool.available ∨
      passed.map Input.written = passed.map Input.buf

/-- The first buffer that fails, with those before it. -/
structure FailsAt (body passed : List Input) (failing : Input)
    (rest : List Input) : Prop where
  split : body = passed ++ failing :: rest
  decompress : ∀ input ∈ passed, input.data.isSome = true
  fails : failing.data = none

theorem fail_of_lost {saving : Saving} (lost : saving.current = none)
    (body : List NgxBuf) :
    (saving.fail body).result = .error ∧ (saving.fail body).body = body := by
  simp [Saving.fail, lost]

theorem fail_of_current {before : List NgxBuf} {link : Link}
    {links : List Link} {pool : Pool} {written rest : List NgxBuf}
    (same : before.length = written.length) :
    (Saving.fail ⟨before, some (link, links), pool⟩
        (written ++ rest)).result = .error ∧
      (Saving.fail ⟨before, some (link, links), pool⟩
        (written ++ rest)).body =
          before ++ copyBack rest (link :: pool.chain) := by
  simp [Saving.fail, Pool.freeChain, copyBack_append same]

theorem compressionChainFilter_of_failsAt {saved : List Link} {pool : Pool}
    {body passed rest : List Input} {failing : Input}
    (fails : FailsAt body passed failing rest) :
    compressionChainFilter saved pool body =
      ((Saving.start saved pool).saveAll (passed.map Input.buf)).fail
        (passed.map Input.written ++ (failing :: rest).map Input.buf) := by
  rw [compressionChainFilter, fails.split,
    filterFrom_append (List.cons_ne_nil _ _) fails.decompress]
  simp [filterFrom, fails.fails]

theorem filterFrom_ok {body : List Input}
    (decompress : ∀ input ∈ body, input.data.isSome = true)
    (written : List NgxBuf) (saving : Saving) :
    (filterFrom written saving body).result = .ok := by
  induction body generalizing written saving with
  | nil => rfl
  | cons input body induction =>
      obtain ⟨first, others⟩ := List.forall_mem_cons.mp decompress
      obtain ⟨data, decompressed⟩ := Option.isSome_iff_exists.mp first
      rw [filterFrom, decompressed]
      exact induction others _ _

theorem exists_failsAt {body : List Input}
    (lacks : ∃ input ∈ body, ¬input.data.isSome = true) :
    ∃ passed failing rest, FailsAt body passed failing rest := by
  induction body with
  | nil => simp at lacks
  | cons input body induction =>
      by_cases first : input.data.isSome = true
      · have later : ∃ input ∈ body, ¬input.data.isSome = true := by
          obtain ⟨found, member, absent⟩ := lacks
          rcases List.mem_cons.mp member with rfl | member
          · exact absurd first absent
          · exact ⟨found, member, absent⟩
        obtain ⟨passed, failing, rest, fails⟩ := induction later
        refine ⟨input :: passed, failing, rest, ?_, ?_, fails.fails⟩
        · rw [fails.split, List.cons_append]
        · exact List.forall_mem_cons.mpr ⟨first, fails.decompress⟩
      · refine ⟨[], input, body, rfl, by simp, ?_⟩
        simpa using first

/-- One failure. -/
theorem body_eq_iff_of_failsAt {saved : List Link} {pool : Pool}
    {body passed rest : List Input} {failing : Input}
    (fails : FailsAt body passed failing rest) :
    (compressionChainFilter saved pool body).result = .error ∧
      ((compressionChainFilter saved pool body).body = body.map Input.buf ↔
        RestoresAt saved pool passed (failing :: rest)) := by
  rw [compressionChainFilter_of_failsAt fails, fails.split, List.map_append]
  have lostCase {saving : Saving} (lost : saving.current = none) :
      (saving.fail (passed.map Input.written ++
          (failing :: rest).map Input.buf)).result = .error ∧
        ((saving.fail (passed.map Input.written ++
            (failing :: rest).map Input.buf)).body =
              passed.map Input.buf ++ (failing :: rest).map Input.buf ↔
          passed.map Input.written = passed.map Input.buf) := by
    obtain ⟨result, left⟩ := fail_of_lost lost
      (passed.map Input.written ++ (failing :: rest).map Input.buf)
    rw [left]
    exact ⟨result, List.append_left_inj _⟩
  have same : (passed.map Input.buf).length =
      (passed.map Input.written).length := by
    rw [List.length_map, List.length_map]
  rcases saved with - | ⟨link, links⟩
  · have lost : (Saving.start [] pool).current = none := rfl
    have noLink : ¬passed.length < ([] : List Link).length :=
      Nat.not_lt_zero _
    rw [Saving.saveAll_of_lost lost, RestoresAt, if_neg noLink]
    simpa using lostCase lost
  have start : Saving.start (link :: links) pool =
      ⟨[], some (link, links), pool⟩ := rfl
  rw [start]
  by_cases inside : passed.length ≤ links.length
  · obtain ⟨next, later, dropped, saved⟩ :=
      @Saving.saveAll_within [] (passed.map Input.buf) link links pool
        (by simpa using inside)
    obtain ⟨result, copied⟩ := @fail_of_current _ next later pool _
      ((failing :: rest).map Input.buf) same
    have within : passed.length < (link :: links).length :=
      Nat.lt_succ_of_le inside
    rw [List.length_map] at dropped
    rw [saved, List.nil_append, copied, List.append_right_inj,
      copyBack_eq_self_iff, RestoresAt, if_pos within, dropped]
    exact ⟨result, Iff.rfl⟩
  · have outside : ¬passed.length < (link :: links).length := by
      simp only [List.length_cons]
      omega
    have past : links.length < (passed.map Input.buf).length := by
      rw [List.length_map]
      omega
    rw [RestoresAt, if_neg outside]
    by_cases enough : (passed.map Input.buf).length - links.length ≤
        pool.available
    · obtain ⟨left, saved⟩ :=
        @Saving.saveAll_beyond [] _ link _ _ past enough
      obtain ⟨result, copied⟩ := @fail_of_current _ none [] left _
        ((failing :: rest).map Input.buf) same
      rw [saved, List.nil_append, copied]
      refine ⟨result, iff_of_true rfl (.inl ⟨List.cons_ne_nil _ _, ?_⟩)⟩
      simp only [List.length_map, List.length_cons] at enough ⊢
      omega
    · have lost := @Saving.saveAll_lost [] _ link _ _ past
        (Nat.lt_of_not_le enough)
      obtain ⟨result, unchanged⟩ := lostCase lost
      refine ⟨result, unchanged.trans (or_iff_right ?_).symm⟩
      rintro ⟨-, links⟩
      simp only [List.length_map, List.length_cons] at enough links
      omega

/-- A failed call restores the body just when it restores it at the first
buffer that fails. -/
theorem chain_restored_iff (saved : List Link) (pool : Pool)
    (body : List Input) :
    ((compressionChainFilter saved pool body).result = .error →
        (compressionChainFilter saved pool body).body =
          body.map Input.buf) ↔
      ∀ passed failing rest, FailsAt body passed failing rest →
        RestoresAt saved pool passed (failing :: rest) := by
  constructor
  · intro restores passed failing rest fails
    obtain ⟨result, same⟩ :=
      @body_eq_iff_of_failsAt saved pool _ _ _ _ fails
    exact same.mp (restores result)
  · intro restores failed
    have lacks : ∃ input ∈ body, ¬input.data.isSome = true := by
      by_contra whole
      have decompress : ∀ input ∈ body, input.data.isSome = true := by
        intro input member
        by_contra absent
        exact whole ⟨input, member, absent⟩
      rw [compressionChainFilter, filterFrom_ok decompress] at failed
      exact absurd failed (by decide)
    obtain ⟨passed, failing, rest, fails⟩ := exists_failsAt lacks
    exact (body_eq_iff_of_failsAt fails).2.mpr
      (restores passed failing rest fails)

/-- Two chunks, of one buffer each. -/
def firstChunk : NgxBuf where
  bytes := [1]
  memory := true
  lastBuf := false
  lastInChain := true

def secondChunk : NgxBuf where
  bytes := [2]
  memory := true
  lastBuf := true
  lastInChain := true

/-- What the first chunk leaves in the saved chain when it is decompressed. -/
def afterFirstChunk : Outcome :=
  compressionChainFilter [none] { chain := [], room := 0 }
    [{ buf := firstChunk, data := some [7] }]

/-- When the second chunk fails, the first one takes its place. -/
theorem second_chunk_replaced :
    ¬((compressionChainFilter afterFirstChunk.saved afterFirstChunk.pool
          [{ buf := secondChunk, data := none }]).result = .error →
        (compressionChainFilter afterFirstChunk.saved afterFirstChunk.pool
          [{ buf := secondChunk, data := none }]).body = [secondChunk]) := by
  intro restores
  have body := restores (by decide)
  revert body
  decide

end OpenAppsec.ChainRestore
