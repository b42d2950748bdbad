/-
  The DMA-BUF backend of the mapper (`mapper_stablec/backend/MapperDmaBuf.cpp`).

  It keeps one record per descriptor in `importedBufferTable`, an `unordered_map`: an insertion
  under a key that is there changes nothing (and the new record is lost), a lookup finds the one
  record of the key.  The record's `mapped` address is set by the first lock and never unset, and
  the mapping that it is the address of is never undone.

  `freeBuffer` reads the key to erase out of the record it has just released.  What a released block
  holds is up to the heap (`Env.memory`), so the key may be any: that of the record itself, that of
  another one, or none that is in the table.  In the last two cases the entry that is left holds a
  pointer to the released block.  The model goes on with the record as it was there, while the
  source reads through the pointer whatever the heap has made of the block; past such a free it
  therefore only says what becomes of the keys.  `RecordRelease` is about this step, and the results
  about runs that have frees of this backend in them name the condition that they keep their keys
  (`BufferOp.KeepsKey`).

  A lock does not look at the usage the handle declares.  It maps the buffer if that has not been
  done, and refuses a framebuffer only then; an unlock looks at nothing but the handle.  Metadata
  come from the record alone, and a set is taken and forgotten.

  `freeBuffer_cases` and `lock_cases` list the outcomes.
-/
import GrallocGbm.Metadata

namespace GrallocGbm

/-! ## Readiness

  The allocator's backend has the same two functions and a static pointer of its own; they run in
  another process, so one definition serves both. -/

/-- `MapperBackendDmaBuf::isReady`. -/
def MapperBackendDmaBuf.isReady (env : Env) (p : Proc) : Bool × Proc :=
  if !p.dmaAllocator then (false, p)
  else
    let empty := env.heapListEmpty p.calls.length
    (!empty, { p with calls := .heapList empty :: p.calls })

/-- `MapperBackendDmaBuf::init`. -/
def MapperBackendDmaBuf.init (p : Proc) : Int × Proc := (0, { p with dmaAllocator := true })

/-! ## The record table -/

/-- `buffer_info_create`, with the record's address. -/
def bufferInfoCreate (addr : Nat) (handle : NativeHandle) : DmaBufferInfo :=
  let g := grallocHandle handle
  { addr := addr
    primeFd := g.primeFd
    bufferId := handle.addr
    width := g.width.toInt32
    height := g.height.toInt32
    format := g.format.toInt32
    usage := g.usage
    stride := g.stride
    size := (g.width.toInt32 * g.height.toInt32).toInt64.toUInt64
    mapped := none
    isProtected := g.usage &&& grallocUsageProtected != 0 }

/-- `importedBufferTable.find`. -/
def findBufferInfo (fd : Int) (p : Proc) : Option DmaBufferInfo :=
  Keyed.lookup DmaBufferInfo.primeFd fd p.importedBufferTable

/-- `MapperBackendDmaBuf::importBuffer`. -/
def MapperBackendDmaBuf.importBuffer (handle : NativeHandle) (p : Proc) : Int × Proc :=
  let (a, p) := malloc p
  let bi := bufferInfoCreate a handle
  match findBufferInfo bi.primeFd p with
  | some _ => (0, p)
  | none => (0, { p with importedBufferTable := bi :: p.importedBufferTable })

/-- An import always succeeds, and changes the table only. -/
theorem MapperBackendDmaBuf.importBuffer_spec (handle : NativeHandle) (p : Proc) :
    ∃ t, MapperBackendDmaBuf.importBuffer handle p
      = (0, { p with importedBufferTable := t, next := p.next + 1 }) := by
  unfold importBuffer malloc
  dsimp only
  split
  · exact ⟨_, rfl⟩
  · exact ⟨_, rfl⟩

/-- `MapperBackendDmaBuf::freeBuffer`. -/
def MapperBackendDmaBuf.freeBuffer (env : Env) (handle : NativeHandle) (p : Proc) : Int × Proc :=
  match findBufferInfo (grallocHandle handle).primeFd p with
  | none => (-eINVAL, p)
  | some bi =>
    -- the record is released before its key is read for the erasure
    let key := env.memory bi.addr 0
    (0, { p with
      importedBufferTable := Keyed.remove DmaBufferInfo.primeFd key p.importedBufferTable })

/-- Both outcomes of a free. -/
theorem MapperBackendDmaBuf.freeBuffer_cases (env : Env) (handle : NativeHandle) (p : Proc) :
    let fd := (grallocHandle handle).primeFd
    let r := MapperBackendDmaBuf.freeBuffer env handle p
    (findBufferInfo fd p = none ∧ r = (-eINVAL, p)) ∨
    ∃ bi, findBufferInfo fd p = some bi ∧
      r = (0, { p with
        importedBufferTable :=
          Keyed.remove DmaBufferInfo.primeFd (env.memory bi.addr 0) p.importedBufferTable }) := by
  intro fd r
  have hr : r = MapperBackendDmaBuf.freeBuffer env handle p := rfl
  unfold MapperBackendDmaBuf.freeBuffer at hr
  cases hfind : findBufferInfo fd p with
  | none =>
    rw [hfind] at hr
    exact .inl ⟨rfl, hr⟩
  | some bi =>
    rw [hfind] at hr
    exact .inr ⟨bi, rfl, hr⟩

/-! ## Locking -/

/-- The sync type of a usage; read and write if it names neither. -/
def syncTypeOf (usage : UInt32) : SyncType :=
  let cpuRead := usage &&& grallocUsageSwReadOften != 0 || usage &&& grallocUsageSwReadRarely != 0
  let cpuWrite := usage &&& grallocUsageSwWriteOften != 0 || usage &&& grallocUsageSwWriteRarely != 0
  if cpuRead && cpuWrite then .kSyncReadWrite
  else if cpuRead then .kSyncRead
  else if cpuWrite then .kSyncWrite
  else .kSyncReadWrite

/-- `MapperBackendDmaBuf::lock`, with what it writes to `*outData`.  The bits tested of the 64-bit
    `cpuUsage` are all among the low 32. -/
def MapperBackendDmaBuf.lock (env : Env) (handle : NativeHandle) (cpuUsage : UInt64) (p : Proc) :
    Int × Option Nat × Proc :=
  let g := grallocHandle handle
  let finish (a : Nat) (p : Proc) : Int × Option Nat × Proc :=
    if cpuUsage.toUInt32 &&& grallocUsageHwFb ≠ 0 then (-eINVAL, none, p)
    else (0, some a,
      { p with calls := .cpuSyncStart g.primeFd (syncTypeOf cpuUsage.toUInt32) :: p.calls })
  match findBufferInfo g.primeFd p with
  | none => (-eINVAL, none, p)
  | some bi =>
    match bi.mapped with
    | some a => finish a p
    | none =>
      let addr := env.mmap p.calls.length
      let p := { p with calls := .mmap bi.primeFd addr :: p.calls }
      match addr with
      | none => (-eNOMEM, none, p)
      | some a =>
        finish a { p with
          importedBufferTable := p.importedBufferTable.map
            (fun e => if e.primeFd = bi.primeFd then { e with mapped := some a } else e) }

/-- Every outcome of a lock: no record, no memory, a refusal (after the mapping), or the start of the
    CPU's access.  In the last two `q` is the process with the buffer mapped at `a`. -/
theorem MapperBackendDmaBuf.lock_cases (env : Env) (handle : NativeHandle) (cpuUsage : UInt64)
    (p : Proc) :
    let fd := (grallocHandle handle).primeFd
    let r := MapperBackendDmaBuf.lock env handle cpuUsage p
    (findBufferInfo fd p = none ∧ r = (-eINVAL, none, p)) ∨
    ∃ bi, findBufferInfo fd p = some bi ∧
      (((bi.mapped = none ∧ env.mmap p.calls.length = none) ∧
          r = (-eNOMEM, none, { p with calls := .mmap bi.primeFd none :: p.calls })) ∨
        ∃ a q, ((bi.mapped = some a ∧ q = p) ∨
          ((bi.mapped = none ∧ env.mmap p.calls.length = some a) ∧ q = { p with
            calls := .mmap bi.primeFd (some a) :: p.calls
            importedBufferTable := p.importedBufferTable.map
              (fun e => if e.primeFd = bi.primeFd then { e with mapped := some a } else e) })) ∧
          ((cpuUsage.toUInt32 &&& grallocUsageHwFb ≠ 0 ∧ r = (-eINVAL, none, q)) ∨
            (cpuUsage.toUInt32 &&& grallocUsageHwFb = 0 ∧ r = (0, some a, { q with
              calls := .cpuSyncStart fd (syncTypeOf cpuUsage.toUInt32) :: q.calls })))) := by
  intro fd r
  have hr : r = MapperBackendDmaBuf.lock env handle cpuUsage p := rfl
  unfold MapperBackendDmaBuf.lock at hr
  dsimp only at hr
  cases hfind : findBufferInfo fd p with
  | none =>
    rw [hfind] at hr
    exact .inl ⟨rfl, hr⟩
  | some bi =>
    rw [hfind] at hr
    refine .inr ⟨bi, rfl, ?_⟩
    cases hm : bi.mapped with
    | some a =>
      simp only [hm] at hr
      refine .inr ⟨a, p, .inl ⟨rfl, rfl⟩, ?_⟩
      by_cases hfb : cpuUsage.toUInt32 &&& grallocUsageHwFb ≠ 0
      · exact .inl ⟨hfb, by rw [hr, if_pos hfb]⟩
      · exact .inr ⟨not_not.mp hfb, by rw [hr, if_neg hfb]⟩
    | none =>
      simp only [hm] at hr
      cases ha : env.mmap p.calls.length with
      | none =>
        rw [ha] at hr
        exact .inl ⟨⟨rfl, rfl⟩, hr⟩
      | some a =>
        simp only [ha] at hr
        refine .inr ⟨a, _, .inr ⟨⟨rfl, rfl⟩, rfl⟩, ?_⟩
        by_cases hfb : cpuUsage.toUInt32 &&& grallocUsageHwFb ≠ 0
        · exact .inl ⟨hfb, by rw [hr, if_pos hfb]⟩
        · exact .inr ⟨not_not.mp hfb, by rw [hr, if_neg hfb]⟩

/-- `MapperBackendDmaBuf::unlock`: it looks only at the handle. -/
def MapperBackendDmaBuf.unlock (handle : NativeHandle) (p : Proc) : Int × Proc :=
  let g := grallocHandle handle
  if g.usage &&& grallocUsageHwFb ≠ 0 then (-eINVAL, p)
  else (0, { p with calls := .cpuSyncEnd g.primeFd (syncTypeOf g.usage) :: p.calls })

/-! ## Metadata -/

/-- The dispatch of `queryAndroidBufferMetadata` on the record of the buffer. -/
def dmaBufMetadataValue (info : DmaBufferInfo) : StandardMetadataType → Provided
  | .bufferId => .value (.bufferId info.bufferId)
  | .width => .value (.int32 info.width)
  | .height => .value (.int32 info.height)
  | .layerCount => .value (.int32 1)
  | .pixelFormatRequested => .value (.pixelFormat info.format)
  | .pixelFormatFourcc => .value (.uint32 gbmFormatR8)
  | .usage => .value (.bufferUsage info.usage.toUInt64.toInt64)
  | .allocationSize => .value (.uint64 info.size)
  | .protectedContent => .value (.bool info.isProtected)
  | .compression => .value .compressionNone
  | .interlaced => .value .interlacedNone
  | .chromaSiting => .value .chromaSitingNone
  | .crop => .value (.crop [⟨0, 0, info.width, info.height⟩])
  | .stride => .value (.int32 info.stride.toInt32)
  | _ => .code AIMapperError.unsupported.code

/-- `queryAndroidBufferMetadata`. -/
def queryAndroidBufferMetadata (handle : NativeHandle) (type : StandardMetadataType) (p : Proc) :
    Provided × Proc :=
  match findBufferInfo (grallocHandle handle).primeFd p with
  | none => (.code (-eINVAL), p)
  | some info => (dmaBufMetadataValue info type, p)

/-- `MapperBackendDmaBuf::getStandardMetadata`. -/
def MapperBackendDmaBuf.getStandardMetadata (env : Env) (handle : NativeHandle)
    (type : StandardMetadataType) (p : Proc) : Ret Int × Option MetadataValue × Proc :=
  provideStandardMetadata env type (queryAndroidBufferMetadata handle type) p

end GrallocGbm
