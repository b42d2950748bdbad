/-
  The buffer table of the library is the hash table it is implemented with.

  The model of the library has the table as a list, newest entry first.  Here the hash table is
  carried along: each call makes on it the addition or deletion that the source makes (`tableEdit`;
  the entry to be freed is the one `HASH_FIND` finds).  As long as no descriptor is given a second
  entry, what `find_buffer_k`, `find_buffer_v` and `HASH_COUNT` say of the hash table is what the
  model's functions say of the list (`hashedRun_refines`).

  The condition is needed.  With two entries under a descriptor the list finds the newer one, and so
  does the hash table for a while; but an expansion turns the order in a chain around, and then it
  finds the older.  Everything that this development says of a table with distinct keys is said of
  the source's table as well, and what it says of repeated keys is about which call makes them, not
  about which of them is found.

  The relation is `Hashed`: the table is a map in the sense of `TableInv`, and the hash table has
  its entries, oldest first.  `Hashed.edit_cases` says of every call what it does to the hash table,
  from the inversion lemmas of `BufferTable`; the rest is one application of `HasEntries.step`.

  The addresses of the entries are those of the model.  A creation or an import hands out five other
  addresses before that of its entry, which is why `tableEdit` has `p.next + 5`.
-/
import GrallocGbm.TableDeletion
import GrallocGbm.UtHashRuns

namespace GrallocGbm

/-! ## The machine

  The list machine of `BufferTable` with the operations of uthash in place of those of the list. -/

/-- What a call does to the hash table. -/
def tableEdit (cfg : BuildConfig) (env : Env) (p : Proc) (s : UtHash Int) :
    TableOp → Option (HashOp Int)
  | .addBuffer fd _ => some (.add fd p.next)
  | .deleteBuffer buffer => some (.delete buffer.addr)
  | .bufferNew desc => (insertedKey cfg env p (.bufferNew desc)).map fun fd => .add fd (p.next + 5)
  | .bufferImport handle =>
    (insertedKey cfg env p (.bufferImport handle)).map fun fd => .add fd (p.next + 5)
  | .bufferFree handle =>
    if isGrallocGbmReady p then
      match (hashFind hashJen (grallocHandle handle).primeFd s).bind fun a =>
          Keyed.lookup AndroidBuffer.addr a p.table with
      | none => none
      | some buffer => if (p.bos buffer.bo).isSome then some (.delete buffer.addr) else none
    else none
  | .init => none
  | .close _ => none

/-- A call, on the model's table and on the hash table at once. -/
def hashedStep (cfg : BuildConfig) (env : Env) (x : Proc × UtHash Int) (op : TableOp) :
    Proc × UtHash Int :=
  (tableStep cfg env x.1 op,
    match tableEdit cfg env x.1 x.2 op with
    | none => x.2
    | some edit => hashStep hashJen x.2 edit)

instance (cfg : BuildConfig) (env : Env) (p : Proc) (op : TableOp) :
    Decidable (InsertsNew cfg env p op) :=
  inferInstanceAs (Decidable (∀ fd ∈ insertedKey cfg env p op, findBufferK fd p.table = none))

/-- No descriptor is given a second entry, and what is deleted is an entry. -/
def HashedOk (cfg : BuildConfig) (env : Env) (p : Proc) (op : TableOp) : Prop :=
  InsertsNew cfg env p op ∧ ∀ buffer, op = .deleteBuffer buffer → buffer ∈ p.table

/-- The entry that `delete_buffer` is called with. -/
def TableOp.deleted : TableOp → Option AndroidBuffer
  | .deleteBuffer buffer => some buffer
  | _ => none

instance (cfg : BuildConfig) (env : Env) (p : Proc) (op : TableOp) :
    Decidable (HashedOk cfg env p op) :=
  decidable_of_iff (InsertsNew cfg env p op ∧ ∀ buffer ∈ op.deleted, buffer ∈ p.table) <| by
    cases op <;> simp [HashedOk, TableOp.deleted]

/-- `find_buffer_v`: the first of the elements the iteration goes through that has the object. -/
def hashedFindV (v : Nat) (p : Proc) (s : UtHash Int) : Option Nat :=
  if v = 0 then none
  else (hashIter s).find? fun a =>
    decide ((Keyed.lookup AndroidBuffer.addr a p.table).map AndroidBuffer.bo = some v)

/-! ## The relation

  The hashed table holds the entries of the list, under the addresses of the entries. -/

/-- The entries in the order in which they were added. -/
def entriesOf (table : List AndroidBuffer) : List (Nat × Int) :=
  table.reverse.map fun e => (e.addr, e.fd)

/-- The list is a map, and the hash table has its entries. -/
structure Hashed (p : Proc) (s : UtHash Int) : Prop where
  table : TableInv p
  entries : HasEntries hashJen s (entriesOf p.table)

section

variable {p : Proc} {s : UtHash Int} {fd : Int}

/-- The entries as pairs: their addresses, -/
theorem fst_entriesOf (table : List AndroidBuffer) :
    (entriesOf table).map Prod.fst = table.reverse.map AndroidBuffer.addr := by
  rw [entriesOf, List.map_map]
  rfl

/-- and their keys. -/
theorem snd_entriesOf (table : List AndroidBuffer) :
    (entriesOf table).map Prod.snd = table.reverse.map AndroidBuffer.fd := by
  rw [entriesOf, List.map_map]
  rfl

/-- The newest entry of the list is the last one added. -/
theorem entriesOf_cons (e : AndroidBuffer) (table : List AndroidBuffer) :
    entriesOf (e :: table) = entriesOf table ++ [(e.addr, e.fd)] := by
  simp [entriesOf]

/-- Removing by address, on either side. -/
theorem entriesOf_remove (a : Nat) (table : List AndroidBuffer) :
    entriesOf (Keyed.remove AndroidBuffer.addr a table)
      = Keyed.remove Prod.fst a (entriesOf table) := by
  rw [entriesOf, Keyed.reverse_remove, entriesOf, Keyed.remove, Keyed.remove, List.filter_map]
  rfl

/-- `find_buffer_k`. -/
theorem Hashed.findK (h : Hashed p s) (fd : Int) :
    hashFind hashJen fd s = (findBufferK fd p.table).map AndroidBuffer.addr := by
  have hkeys : (p.table.reverse.map AndroidBuffer.fd).Nodup := by
    rw [List.map_reverse]
    exact List.nodup_reverse.mpr h.table.keys
  rw [h.entries.find_eq (by rw [snd_entriesOf]; exact hkeys)]
  cases hfind : findBufferK fd p.table with
  | none =>
    have hnone : Keyed.lookup Prod.snd fd (entriesOf p.table) = none := by
      rw [Keyed.lookup_eq_none]
      intro x hx
      obtain ⟨e, he, rfl⟩ := List.mem_map.mp hx
      exact Keyed.lookup_eq_none.mp hfind e (List.mem_reverse.mp he)
    rw [hnone]
    rfl
  | some e =>
    have hmem : (e.addr, fd) ∈ entriesOf p.table := by
      rw [← Keyed.key_of_lookup hfind]
      exact List.mem_map_of_mem (List.mem_reverse.mpr (Keyed.mem_of_lookup hfind))
    have hsome : Keyed.lookup Prod.snd fd (entriesOf p.table) = some (e.addr, fd) :=
      Keyed.lookup_eq_some_of_mem (by rw [snd_entriesOf]; exact hkeys) hmem
    rw [hsome]
    rfl

/-- An address leads to its entry. -/
theorem Hashed.lookup_addr (h : Hashed p s) {e : AndroidBuffer} (he : e ∈ p.table) :
    Keyed.lookup AndroidBuffer.addr e.addr p.table = some e :=
  Keyed.lookup_eq_some_of_mem h.table.addrs he

/-- `find_buffer_v`. -/
theorem Hashed.findV (h : Hashed p s) (v : Nat) :
    hashedFindV v p s = (findBufferV v p.table).map AndroidBuffer.addr := by
  unfold hashedFindV findBufferV
  split
  · rfl
  · rw [h.entries.iter, fst_entriesOf, List.find?_map, Keyed.lookup]
    refine congrArg _ ?_
    rw [← List.head?_filter, ← List.head?_filter]
    refine congrArg _ (List.filter_congr fun e he => ?_)
    show decide ((Keyed.lookup AndroidBuffer.addr e.addr p.table).map AndroidBuffer.bo = some v) = _
    rw [h.lookup_addr (List.mem_reverse.mp he)]
    simp

/-! ## Runs -/

/-- Both are empty. -/
theorem Hashed.start : Hashed Proc.start androidBufferTableStart :=
  ⟨.start, .unused rfl⟩

/-- An entry at an address that has not been handed out. -/
theorem Hashed.add_ok (h : Hashed p s) {e : AndroidBuffer} (he : p.next ≤ e.addr) :
    HashOpOk (entriesOf p.table) (.add e.fd e.addr) := by
  show e.addr ∉ (entriesOf p.table).map Prod.fst
  rw [fst_entriesOf, List.map_reverse, List.mem_reverse]
  intro hmem
  obtain ⟨e', he', heq⟩ := List.mem_map.mp hmem
  have := h.table.addr_lt e' he'
  omega

/-- An entry can be deleted. -/
theorem Hashed.delete_ok {e : AndroidBuffer} (he : e ∈ p.table) :
    HashOpOk (entriesOf p.table) (.delete e.addr) := by
  show e.addr ∈ (entriesOf p.table).map Prod.fst
  rw [fst_entriesOf]
  exact List.mem_map_of_mem (List.mem_reverse.mpr he)

variable (cfg : BuildConfig) (env : Env)

/-- **What a call does to the hash table** is what it does to the list. -/
theorem Hashed.edit_cases (h : Hashed p s) (op : TableOp) (hok : HashedOk cfg env p op) :
    (tableEdit cfg env p s op = none ∧ (tableStep cfg env p op).table = p.table) ∨
    (∃ e : AndroidBuffer, tableEdit cfg env p s op = some (.add e.fd e.addr) ∧ p.next ≤ e.addr ∧
      (tableStep cfg env p op).table = e :: p.table) ∨
    ∃ e ∈ p.table, tableEdit cfg env p s op = some (.delete e.addr) ∧
      (tableStep cfg env p op).table = Keyed.remove AndroidBuffer.addr e.addr p.table := by
  cases op with
  | init => exact .inl ⟨rfl, (grallocGbmInit_table env p).1⟩
  | close fd => exact .inl ⟨rfl, rfl⟩
  | addBuffer fd bo => exact .inr (.inl ⟨⟨p.next, fd, bo⟩, rfl, le_refl _, rfl⟩)
  | deleteBuffer buffer => exact .inr (.inr ⟨buffer, hok.2 buffer rfl, rfl, rfl⟩)
  | bufferNew desc =>
    have hp' : tableStep cfg env p (.bufferNew desc) = (grallocGbmAndroidBufferNew cfg env desc p).2 :=
      rfl
    have hedit : tableEdit cfg env p s (.bufferNew desc)
      = (insertedKey cfg env p (.bufferNew desc)).map fun fd => .add fd (p.next + 5) := rfl
    rcases grallocGbmAndroidBufferNew_cases cfg env desc p with
      ⟨rc, hready, hr⟩ | ⟨rc, hready, ha, hr⟩ | ⟨rc, hready, ha, hb, hr⟩ |
      ⟨layout, fd, hready, ha, hb, hfd, ⟨rc, ha', hr⟩ | ⟨logFd, ha', -, hr⟩⟩ <;>
      rw [hr] at hp' <;> rw [hp', hedit]
    · exact .inl ⟨by simp [insertedKey, hready], rfl⟩
    · exact .inl ⟨by simp [insertedKey, ha], rfl⟩
    · exact .inl ⟨by simp [insertedKey, hb], rfl⟩
    · exact .inl ⟨by simp [insertedKey, ha'], rfl⟩
    · refine .inr (.inl ⟨⟨p.next + 5, fd.getD (-1), p.next + 1⟩, ?_, Nat.le_add_right _ _, rfl⟩)
      simp [insertedKey, hready, ha, hb, ha', hfd]
  | bufferImport handle =>
    have hp' : tableStep cfg env p (.bufferImport handle)
      = (grallocGbmAndroidBufferImport cfg env handle p).2 := rfl
    have hedit : tableEdit cfg env p s (.bufferImport handle)
      = (insertedKey cfg env p (.bufferImport handle)).map fun fd => .add fd (p.next + 5) := rfl
    rcases grallocGbmAndroidBufferImport_cases cfg env handle p with
      ⟨hready, hr⟩ | ⟨hready, ha, hr⟩ | ⟨hready, ha, hb, hr⟩ | ⟨layout, hready, ha, hb, hr⟩ <;>
      rw [hr] at hp' <;> rw [hp', hedit]
    · exact .inl ⟨by simp [insertedKey, hready], rfl⟩
    · exact .inl ⟨by simp [insertedKey, ha], rfl⟩
    · exact .inl ⟨by simp [insertedKey, hb], rfl⟩
    · refine .inr (.inl ⟨⟨p.next + 5, (grallocHandle handle).primeFd, p.next + 1⟩, ?_,
        Nat.le_add_right _ _, rfl⟩)
      simp [insertedKey, hready, ha, hb]
  | bufferFree handle =>
    have hp' : tableStep cfg env p (.bufferFree handle) = (grallocGbmAndroidBufferFree handle p).2 :=
      rfl
    have hfindK := h.findK (grallocHandle handle).primeFd
    rcases grallocGbmAndroidBufferFree_cases handle p with
      ⟨hready, hr⟩ | ⟨hready, hnone, hr⟩ | ⟨buffer, hready, hfind, hbo, hr⟩ |
      ⟨buffer, b, hready, hfind, hbo, hr⟩ <;> rw [hr] at hp' <;> rw [hp']
    · exact .inl ⟨by simp [tableEdit, hready], rfl⟩
    · rw [hnone] at hfindK
      exact .inl ⟨by simp [tableEdit, hready, hfindK], rfl⟩
    · rw [hfind] at hfindK
      have hentry := h.lookup_addr (Keyed.mem_of_lookup hfind)
      exact .inl ⟨by simp [tableEdit, hready, hfindK, hentry, hbo], rfl⟩
    · rw [hfind] at hfindK
      have hentry := h.lookup_addr (Keyed.mem_of_lookup hfind)
      obtain ⟨heap, hd⟩ := gbmBoDestroy_eq buffer.bo b p
      refine .inr (.inr ⟨buffer, Keyed.mem_of_lookup hfind, ?_, by rw [hd]; rfl⟩)
      simp [tableEdit, hready, hfindK, hentry, hbo]

variable {cfg env}

/-- **The step lemma.** -/
theorem Hashed.step (h : Hashed p s) (op : TableOp) (hok : HashedOk cfg env p op) :
    Hashed (hashedStep cfg env (p, s) op).1 (hashedStep cfg env (p, s) op).2 := by
  have hstep : (TableOk cfg env p op ↔ InsertsNew cfg env p op) ∧
      (TableOk cfg env p op → TableInv (tableStep cfg env p op)) := h.table.step_ok_iff op
  refine ⟨hstep.2 (hstep.1.mpr hok.1), ?_⟩
  unfold hashedStep
  dsimp only
  rcases h.edit_cases cfg env op hok with
    ⟨hedit, htable⟩ | ⟨e, hedit, hfresh, htable⟩ | ⟨e, he, hedit, htable⟩
  · rw [hedit, htable]
    exact h.entries
  · rw [hedit, htable, entriesOf_cons]
    exact h.entries.step _ (h.add_ok hfresh)
  · rw [hedit, htable, entriesOf_remove]
    exact h.entries.step _ (Hashed.delete_ok he)

end

/-- **The library's table is its hash table.**  In every run of the library's calls in which no
    descriptor is given a second entry: the lookup by descriptor, the lookup by object, the
    iteration and the count of the hash table are those of the list, and its integrity check passes.
    The counters are unbounded, and buckets are always to be had. -/
theorem hashedRun_refines (cfg : BuildConfig) (env : Env) (ops : List TableOp)
    (hops : Run.Along (tableStep cfg env) (HashedOk cfg env) Proc.start ops) :
    let p := ops.foldl (tableStep cfg env) Proc.start
    let s := (ops.foldl (hashedStep cfg env) (Proc.start, androidBufferTableStart)).2
    (∀ fd, hashFind hashJen fd s = (findBufferK fd p.table).map AndroidBuffer.addr) ∧
      (∀ v, hashedFindV v p s = (findBufferV v p.table).map AndroidBuffer.addr) ∧
      hashIter s = p.table.reverse.map AndroidBuffer.addr ∧
      hashCount s = p.table.length ∧ hashFsck s := by
  intro p s
  obtain ⟨hp, h⟩ : (ops.foldl (hashedStep cfg env) (Proc.start, androidBufferTableStart)).1 = p ∧
      Hashed (ops.foldl (hashedStep cfg env) (Proc.start, androidBufferTableStart)).1 s := by
    refine Run.foldl_sim (fun p (x : Proc × UtHash Int) => x.1 = p ∧ Hashed x.1 x.2)
      (fun p x op h hok => ?_) ⟨rfl, .start⟩ hops
    exact ⟨congrArg (tableStep cfg env · op) h.1, h.2.step op (h.1 ▸ hok)⟩
  rw [hp] at h
  refine ⟨h.findK, h.findV, ?_, ?_, h.entries.fsck⟩
  · rw [← fst_entriesOf]
    exact h.entries.iter
  · rw [h.entries.count, entriesOf, List.length_map, List.length_reverse]

/-- Eleven handles are imported whose descriptors fall into one bucket of a new table, and one of them
    is freed. -/
def oneBucketOps : List TableOp :=
  .init :: [16, 38, 64, 151, 179, 193, 195, 200, 235, 319, 337].map (fun fd => .bufferImport (rgbaHandle fd))
    ++ [.bufferFree (rgbaHandle 64)]

/-- The last of them makes the table expand, and it still is the list. -/
theorem oneBucket_table_refines :
    let p := oneBucketOps.foldl (tableStep .androidBp .plain) Proc.start
    let s := (oneBucketOps.foldl (hashedStep .androidBp .plain)
      (Proc.start, androidBufferTableStart)).2
    s.tbl.numBuckets = 64 ∧ p.table.length = 10 ∧
      (∀ fd, hashFind hashJen fd s = (findBufferK fd p.table).map AndroidBuffer.addr) ∧
      (∀ v, hashedFindV v p s = (findBufferV v p.table).map AndroidBuffer.addr) ∧
      hashIter s = p.table.reverse.map AndroidBuffer.addr ∧
      hashCount s = p.table.length ∧ hashFsck s :=
  ⟨by decide +kernel, by decide +kernel,
    hashedRun_refines .androidBp .plain oneBucketOps (by decide +kernel)⟩

end GrallocGbm
