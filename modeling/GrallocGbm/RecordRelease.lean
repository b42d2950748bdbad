/-
  The release of a DMA-BUF record: `MapperBackendDmaBuf::freeBuffer`.

  The code releases the record it has found, and then reads the key to erase out of it.  Here the
  function is written once more with the uses it makes of the record, in order; `freeBuffer_value`
  says that it is the function of the model.  So a free that finds a record always reads it after
  its release, and the only free in order is one that finds none (`freeBuffer_ownRecord_iff`).

  What becomes of the table is a question to the heap, which answers with whatever is in the
  released block (`Env.memory`).  `KeyKept` is the answer that does no harm: the block still begins
  with the key.  Three results say that it is exactly the answer that is needed.

  * `freeBuffer_erasesOwn_iff` — one free, in any table that calls of the backend lead to: the right
    record goes exactly if the key is kept;
  * `recordStep_registry_iff`  — one call, as a step of the map from descriptors to buffers that the
    table stands for;
  * `recordRun_registry_iff`   — a run: the table is that map exactly as long as every free keeps
    its key.

  A free that loses its key does two kinds of damage.  The record it was to erase stays, now a
  pointer to a released block; and if the block happens to begin with the key of another buffer,
  that one is erased instead.  From the first on nothing can be said about the record, for its block
  may be given out again and written to by anybody.  So the results about runs of the mapper that
  follow one buffer through frees (`CpuMappings`, `ReceivedMemory`, `DmaRegistry`) are about runs in
  which every free keeps its key (`BufferOp.KeepsKey`).
-/
import GrallocGbm.DmaRecords
import GrallocGbm.Lib.Traced
import GrallocGbm.SyncBracketing

namespace GrallocGbm

/-! ## The uses of a record

  The function once more, with the uses in the order in which they happen. -/

/-- A field of the record at an address is read, or the record is released. -/
inductive RecordUse where
  | read (addr : Nat)
  | release (addr : Nat)
  deriving DecidableEq, Repr

/-- No record is read after its release. -/
def ReleasedLast (uses : List RecordUse) : Prop :=
  uses.Pairwise fun u v => ∀ addr, u = .release addr → v ≠ .read addr

namespace RecordUses

/-- `MapperBackendDmaBuf::freeBuffer`. -/
def freeBuffer (env : Env) (handle : NativeHandle) (p : Proc) : Traced RecordUse (Int × Proc) :=
  match findBufferInfo (grallocHandle handle).primeFd p with
  | none => pure (-eINVAL, p)
  | some bi => do
    Traced.read (fun _ => ()) (.release bi.addr)
    let key ← Traced.read (fun _ => env.memory bi.addr 0) (.read bi.addr)
    pure (0, { p with
      importedBufferTable := Keyed.remove DmaBufferInfo.primeFd key p.importedBufferTable })

/-- It computes what the model does. -/
theorem freeBuffer_value (env : Env) (handle : NativeHandle) (p : Proc) :
    (freeBuffer env handle p).value = MapperBackendDmaBuf.freeBuffer env handle p := by
  unfold freeBuffer MapperBackendDmaBuf.freeBuffer
  cases findBufferInfo (grallocHandle handle).primeFd p with
  | none => rfl
  | some bi => rfl

/-- A record that is found is released and then read. -/
theorem freeBuffer_reads (env : Env) (handle : NativeHandle) (p : Proc) :
    (freeBuffer env handle p).reads = match findBufferInfo (grallocHandle handle).primeFd p with
      | none => []
      | some bi => [.release bi.addr, .read bi.addr] := by
  unfold freeBuffer
  cases findBufferInfo (grallocHandle handle).primeFd p with
  | none => rfl
  | some bi => rfl

end RecordUses

section

variable (env : Env) (handle : NativeHandle) (p : Proc)

/-- The call fails and changes nothing, there being no record; or it takes the handle's record out
    of the table, and no other. -/
def ErasesOwn : Prop :=
  let fd := (grallocHandle handle).primeFd
  let r := MapperBackendDmaBuf.freeBuffer env handle p
  (findBufferInfo fd p = none ∧ r.1 ≠ 0 ∧ r.2 = p) ∨
    ∃ before bi after, p.importedBufferTable = before ++ bi :: after ∧ bi.primeFd = fd ∧
      r.2.importedBufferTable = before ++ after

/-- What a free must do. -/
structure FreesOwnRecord : Prop where
  erases : ErasesOwn env handle p
  released : ReleasedLast (RecordUses.freeBuffer env handle p).reads

/-- **Which free is in order.**  In any state of the process, reachable or not: a free of a handle
    whose descriptor has no record, and no other. -/
theorem freeBuffer_ownRecord_iff :
    FreesOwnRecord env handle p ↔ findBufferInfo (grallocHandle handle).primeFd p = none := by
  have huses := RecordUses.freeBuffer_reads env handle p
  rcases MapperBackendDmaBuf.freeBuffer_cases env handle p with ⟨hnone, hr⟩ | ⟨bi, hfind, -⟩
  · rw [hnone] at huses
    refine iff_of_true ⟨.inl ⟨hnone, ?_, ?_⟩, ?_⟩ hnone
    · rw [hr]
      show -eINVAL ≠ 0
      decide
    · rw [hr]
    · rw [huses]
      exact List.Pairwise.nil
  · rw [hfind] at huses
    refine iff_of_false (fun h => ?_) (by rw [hfind]; simp)
    have hlast := h.released
    rw [huses, ReleasedLast, List.pairwise_pair] at hlast
    exact hlast bi.addr rfl rfl

end

/-- The record of a BLOB that has just been imported is read after its release, and stays in the
    table if the heap has cleared the block. -/
theorem released_record_read :
    let p := (mapperRun .androidBp .plain [.buffer (.importBuffer (some (blobHandle 5)))]).proc
    p.importedBufferTable.map DmaBufferInfo.primeFd = [(grallocHandle blobClone).primeFd] ∧
      (RecordUses.freeBuffer .plain blobClone p).reads = [.release 2, .read 2] ∧
      (MapperBackendDmaBuf.freeBuffer .plain blobClone p).1 = 0 ∧
      (MapperBackendDmaBuf.freeBuffer .plain blobClone p).2.importedBufferTable
        = p.importedBufferTable ∧
      ¬ FreesOwnRecord .plain blobClone p := by
  refine ⟨by decide, by decide, by decide, by decide, ?_⟩
  rintro ⟨-, hlast⟩
  revert hlast
  show ¬ ReleasedLast [.release 2, .read 2]
  rw [ReleasedLast, List.pairwise_pair]
  exact fun h => h 2 rfl rfl

/-! ## Runs of the backend

  The backend alone, whose keys are distinct as long as no descriptor is imported twice. -/

/-- A call of the backend that concerns the table. -/
inductive RecordOp where
  | importBuffer (handle : NativeHandle)
  | freeBuffer (handle : NativeHandle)
  | lock (handle : NativeHandle) (cpuUsage : UInt64)
  | unlock (handle : NativeHandle)

/-- One of these calls. -/
def recordStep (env : Env) (p : Proc) : RecordOp → Proc
  | .importBuffer handle => (MapperBackendDmaBuf.importBuffer handle p).2
  | .freeBuffer handle => (MapperBackendDmaBuf.freeBuffer env handle p).2
  | .lock handle cpuUsage => (MapperBackendDmaBuf.lock env handle cpuUsage p).2.2
  | .unlock handle => (MapperBackendDmaBuf.unlock handle p).2

/-- An import adds the record of its handle, if the key is free. -/
theorem importBuffer_table (handle : NativeHandle) (p : Proc) :
    (MapperBackendDmaBuf.importBuffer handle p).2.importedBufferTable
      = if (findBufferInfo (grallocHandle handle).primeFd p).isSome then p.importedBufferTable
        else bufferInfoCreate p.next handle :: p.importedBufferTable := by
  have hkey : findBufferInfo (bufferInfoCreate p.next handle).primeFd { p with next := p.next + 1 }
      = findBufferInfo (grallocHandle handle).primeFd p := rfl
  simp only [MapperBackendDmaBuf.importBuffer, malloc, hkey]
  cases findBufferInfo (grallocHandle handle).primeFd p with
  | none => rfl
  | some bi => rfl

/-- The table has one record for each key. -/
theorem recordStep_keys (env : Env) {p : Proc} (op : RecordOp)
    (h : (p.importedBufferTable.map DmaBufferInfo.primeFd).Nodup) :
    ((recordStep env p op).importedBufferTable.map DmaBufferInfo.primeFd).Nodup := by
  have hmild : ∀ {q : Proc}, Mild p q → (q.importedBufferTable.map DmaBufferInfo.primeFd).Nodup := by
    intro q hq
    obtain ⟨f, hf⟩ := hq.records
    rw [hf, List.map_map]
    exact h
  cases op with
  | importBuffer handle =>
    simp only [recordStep, importBuffer_table]
    split
    · exact h
    · rename_i hnone
      exact Keyed.nodup_keys_cons.mpr ⟨Option.not_isSome_iff_eq_none.mp hnone, h⟩
  | freeBuffer handle =>
    simp only [recordStep]
    rcases MapperBackendDmaBuf.freeBuffer_cases env handle p with ⟨-, hr⟩ | ⟨bi, -, hr⟩ <;> rw [hr]
    · exact h
    · exact Keyed.map_remove_nodup h
  | lock handle cpuUsage => exact hmild (MapperBackendDmaBuf.lock_mild env handle cpuUsage p)
  | unlock handle => exact hmild (MapperBackendDmaBuf.unlock_mild handle p)

/-- Hence in every table that calls of the backend lead to. -/
theorem recordRun_keys (env : Env) (ops : List RecordOp) :
    ((ops.foldl (recordStep env) Proc.start).importedBufferTable.map
      DmaBufferInfo.primeFd).Nodup :=
  Run.foldl_inv_all (fun p : Proc => (p.importedBufferTable.map DmaBufferInfo.primeFd).Nodup)
    (fun _ op h => recordStep_keys env op h) ops List.nodup_nil

/-! ## What is erased -/

/-- Does the block of a record that is released keep its key? -/
def KeyKept (env : Env) (p : Proc) : RecordOp → Prop
  | .freeBuffer handle =>
    let fd := (grallocHandle handle).primeFd
    ∀ bi, findBufferInfo fd p = some bi → env.memory bi.addr 0 = fd
  | _ => True

/-- **Which free takes out the right record.**  In every table that calls of the backend lead to: one
    that finds none, or whose record still holds the key after its release. -/
theorem freeBuffer_erasesOwn_iff (env : Env) (ops : List RecordOp) (handle : NativeHandle) :
    let p := ops.foldl (recordStep env) Proc.start
    ErasesOwn env handle p ↔ KeyKept env p (.freeBuffer handle) := by
  intro p
  have hkeys := recordRun_keys env ops
  have hiff : KeyKept env p (.freeBuffer handle) ↔
      ∀ bi, findBufferInfo (grallocHandle handle).primeFd p = some bi →
        env.memory bi.addr 0 = (grallocHandle handle).primeFd := Iff.rfl
  rw [hiff]
  rcases MapperBackendDmaBuf.freeBuffer_cases env handle p with ⟨hnone, hr⟩ | ⟨bi, hfind, hr⟩
  · refine iff_of_true (.inl ⟨hnone, ?_, ?_⟩) fun bi hbi => ?_
    · rw [hr]
      show -eINVAL ≠ 0
      decide
    · rw [hr]
    · rw [hnone] at hbi
      cases hbi
  · have hmem := Keyed.mem_of_lookup hfind
    have hkey : bi.primeFd = (grallocHandle handle).primeFd := Keyed.key_of_lookup hfind
    have honly : (∀ bi', findBufferInfo (grallocHandle handle).primeFd p = some bi' →
        env.memory bi'.addr 0 = (grallocHandle handle).primeFd) ↔
        env.memory bi.addr 0 = bi.primeFd := by
      rw [hfind, hkey]
      exact ⟨fun h => h bi rfl, by rintro h _ ⟨⟩; exact h⟩
    rw [honly]
    constructor
    · rintro (⟨hnone, -⟩ | ⟨before, bi', after, htable, hkey', herased⟩)
      · rw [hfind] at hnone
        cases hnone
      · have hkeys' := hkeys
        rw [htable, List.map_append, List.map_cons, List.nodup_middle, List.nodup_cons,
          ← List.map_append] at hkeys'
        have hnot : bi ∉ before ++ after := by
          intro hbi
          exact hkeys'.1 (List.mem_map.mpr ⟨bi, hbi, hkey.trans hkey'.symm⟩)
        -- a record whose key is not the one erased is still there
        by_contra hne
        rw [hr] at herased
        exact hnot (herased ▸ Keyed.mem_remove.mpr ⟨hmem, fun heq => hne heq.symm⟩)
    · intro hkept
      obtain ⟨before, after, htable⟩ := List.append_of_mem hmem
      refine .inr ⟨before, bi, after, htable, hkey, ?_⟩
      rw [hr, hkept]
      dsimp only
      rw [htable]
      exact Keyed.remove_append_cons (htable ▸ hkeys)

/-! ## The table as a map -/

/-- The buffer on record under a descriptor. -/
def registry (p : Proc) (fd : Int) : Option Nat := (findBufferInfo fd p).map DmaBufferInfo.bufferId

/-- What the calls mean for such a map: an import enters a buffer under a key that is free, a free
    strikes the key out. -/
def registryStep (m : Int → Option Nat) : RecordOp → Int → Option Nat
  | .importBuffer handle =>
    let fd := (grallocHandle handle).primeFd
    if (m fd).isSome then m else Function.update m fd (some handle.addr)
  | .freeBuffer handle => Function.update m (grallocHandle handle).primeFd none
  | .lock _ _ => m
  | .unlock _ => m

/-- Mappings and user data are not in the map. -/
theorem Mild.registry {p q : Proc} (h : Mild p q) : registry q = registry p := by
  obtain ⟨f, hf⟩ := h.records
  funext fd
  rw [GrallocGbm.registry, findBufferInfo, hf, Keyed.lookup_map (by intro r; rfl), Option.map_map]
  rfl

/-- **One call**: it does to the map what it means, a free exactly if the key is kept. -/
theorem recordStep_registry_iff (env : Env) (p : Proc) (op : RecordOp) :
    registry (recordStep env p op) = registryStep (registry p) op ↔ KeyKept env p op := by
  cases op with
  | importBuffer handle =>
    refine iff_of_true ?_ trivial
    have htable := importBuffer_table handle p
    cases hfind : findBufferInfo (grallocHandle handle).primeFd p with
    | some bi =>
      have hthere : registry p (grallocHandle handle).primeFd = some bi.bufferId := by
        rw [registry, hfind]
        rfl
      have hsame : registry (recordStep env p (.importBuffer handle)) = registry p := by
        rw [hfind, Option.isSome_some, if_pos rfl] at htable
        funext fd
        rw [registry, findBufferInfo, recordStep, htable]
        rfl
      rw [hsame, registryStep, if_pos (by rw [hthere]; rfl)]
    | none =>
      have hfree : registry p (grallocHandle handle).primeFd = none := by
        rw [registry, hfind]
        rfl
      rw [registryStep, if_neg (by simp [hfree])]
      rw [hfind, Option.isSome_none, if_neg Bool.false_ne_true] at htable
      funext fd
      rw [registry, findBufferInfo, recordStep, htable, Keyed.lookup_cons, Function.update_apply]
      by_cases hfd : fd = (grallocHandle handle).primeFd
      · have hkey : (bufferInfoCreate p.next handle).primeFd = fd := hfd.symm
        rw [if_pos hkey, if_pos hfd]
        rfl
      · have hkey : ¬ (bufferInfoCreate p.next handle).primeFd = fd := fun heq => hfd heq.symm
        rw [if_neg hkey, if_neg hfd]
        rfl
  | freeBuffer handle =>
    rcases MapperBackendDmaBuf.freeBuffer_cases env handle p with ⟨hnone, hr⟩ | ⟨bi, hfind, hr⟩
    · refine iff_of_true ?_ fun bi hbi => ?_
      · simp only [recordStep, registryStep, hr]
        rw [Function.update_eq_self_iff.mpr]
        rw [registry, hnone]
        rfl
      · rw [hnone] at hbi
        cases hbi
    · have hafter : ∀ fd, registry (recordStep env p (.freeBuffer handle)) fd
          = if fd = env.memory bi.addr 0 then none else registry p fd := by
        intro fd
        simp only [recordStep, hr, registry, findBufferInfo, Keyed.lookup_remove_key_eq]
        split <;> rfl
      constructor
      · intro heq bi' hbi'
        rw [hfind] at hbi'
        cases hbi'
        have hfd := congrFun heq (grallocHandle handle).primeFd
        rw [hafter, registryStep, Function.update_self, registry, hfind] at hfd
        by_contra hne
        rw [if_neg (fun h => hne h.symm)] at hfd
        cases hfd
      · intro hkept
        funext fd
        rw [hafter, hkept bi hfind, registryStep, Function.update_apply]
  | lock handle cpuUsage =>
    exact iff_of_true (MapperBackendDmaBuf.lock_mild env handle cpuUsage p).registry trivial
  | unlock handle => exact iff_of_true (MapperBackendDmaBuf.unlock_mild handle p).registry trivial

/-- **Where the table is the map it stands for**: along every run, as long as no released record has
    lost its key. -/
theorem recordRun_registry_iff (env : Env) (ops : List RecordOp) :
    Run.Along (recordStep env)
        (fun p op => registry (recordStep env p op) = registryStep (registry p) op) Proc.start ops ↔
      Run.Along (recordStep env) (KeyKept env) Proc.start ops :=
  Run.along_congr (fun _ => True) (fun _ _ _ _ => trivial)
    (fun p op _ _ => recordStep_registry_iff env p op) trivial Run.along_true

/-! ## Calls of the mapper

  The results about runs of the mapper that have frees of this backend in them are about runs whose
  frees keep their keys.  Past a free that does not, the table holds a pointer to a released record:
  what the source reads through it is up to the heap, and the record that the model still has in its
  table is no account of it. -/

instance (env : Env) (p : Proc) : DecidablePred (KeyKept env p)
  | .freeBuffer handle => inferInstanceAs (Decidable
      (∀ bi ∈ findBufferInfo (grallocHandle handle).primeFd p,
        env.memory bi.addr 0 = (grallocHandle handle).primeFd))
  | .importBuffer _ => isTrue trivial
  | .lock _ _ => isTrue trivial
  | .unlock _ => isTrue trivial

/-- The call is no free that finds a record and then loses its key. -/
def BufferOp.KeepsKey (env : Env) (m : Mapper) : BufferOp → Prop
  | .freeBuffer (some h) =>
    routedTo (grallocHandle h) = .mapperGrallocDmabuf → KeyKept env m.proc (.freeBuffer h)
  | _ => True

/-- Only calls on buffers free anything. -/
def MapperOp.KeepsKey (env : Env) (m : Mapper) : MapperOp → Prop
  | .buffer op => op.KeepsKey env m
  | _ => True

instance (env : Env) (m : Mapper) : (op : BufferOp) → Decidable (op.KeepsKey env m)
  | .freeBuffer (some h) => inferInstanceAs (Decidable
      (routedTo (grallocHandle h) = .mapperGrallocDmabuf → KeyKept env m.proc (.freeBuffer h)))
  | .freeBuffer none => isTrue trivial
  | .importBuffer _ => isTrue trivial
  | .lock _ _ => isTrue trivial
  | .unlock _ => isTrue trivial

instance (env : Env) (m : Mapper) : (op : MapperOp) → Decidable (op.KeepsKey env m)
  | .buffer op => inferInstanceAs (Decidable (op.KeepsKey env m))
  | .getStandardMetadata _ _ => isTrue trivial
  | .setStandardMetadata _ _ _ => isTrue trivial

/-- A free that keeps its key strikes out the key of its handle. -/
theorem Mapper.freeBuffer_strikes {env : Env} {h : NativeHandle} {m : Mapper}
    (hdma : routedTo (grallocHandle h) = .mapperGrallocDmabuf)
    (hkept : (BufferOp.freeBuffer (some h)).KeepsKey env m) :
    (m.freeBuffer env (some h)).2.proc.importedBufferTable
      = Keyed.remove DmaBufferInfo.primeFd (grallocHandle h).primeFd m.proc.importedBufferTable := by
  obtain ⟨da, cs, -, hw⟩ := Mapper.withBackend_dmabuf hdma
  unfold Mapper.freeBuffer
  dsimp only
  rw [hw]
  rcases MapperBackendDmaBuf.freeBuffer_cases env h
      { m.proc with dmaAllocator := da, calls := cs ++ m.proc.calls } with
    ⟨hnone, hr⟩ | ⟨bi, hfind, hr⟩ <;> rw [hr]
  · exact (Keyed.remove_of_forall_ne (Keyed.lookup_eq_none.mp hnone)).symm
  · have hkey := hkept hdma bi hfind
    dsimp only
    rw [hkey]

end GrallocGbm
