/-
  The other half of the mapper: the buffers of the DMA-BUF backend.

  For a client these are a second partial map from descriptors, much simpler than `Registry`.  A
  buffer has no lock: the first lock that gets so far maps it, every later one hands out the same
  address, however many are outstanding, and unlocks change nothing.  It has no metadata of its own
  either: reads tell what the handle said at the import, and sets are taken and forgotten.

  1. **Specification** — `DmaStep r op answer r'`, with the answers.  A lock for a framebuffer maps
     the buffer and is refused afterwards, which is the order the source has; the mapping stays.

  2. **Refinement** — `mapperRun_dmaStep`: the registry starts empty, and every call of a run does
     to it what `DmaStep` allows, and answers accordingly.

  3. **Runs** — `mapperRun_dma_keeps`: a buffer that is not freed is never changed but for its
     address, which is filled in once; `DmaView.Le` is the order in which it can change.

  Both are about runs whose frees keep their keys (`MapperOp.KeepsKey`).  A free that does not
  leaves a pointer to a released record behind, of which nothing can be said, and may take out
  another buffer than its own; `RecordRelease` is about that.

  A handle that goes to the GBM backend names nothing here.  The two registries never meet: a clone
  is entered into one of them, and a handle is looked up in the one that its own words lead to.
-/
import GrallocGbm.Delivery
import GrallocGbm.MetadataTable
import GrallocGbm.ReceivedMemory
import GrallocGbm.RegistryRuns

namespace GrallocGbm

/-! ## The registry

  What the backend is for: buffers under their descriptors, each with the numbers of its handle
  and an address once it has been mapped.  `DmaStep` is the whole contract, call by
  call. -/

/-- `buffer_info_t` without its own address and its key. -/
structure DmaView where
  id : Nat
  width : Int32
  height : Int32
  format : Int32
  usage : UInt32
  stride : UInt32
  size : UInt64
  mapped : Option Nat
  isProtected : Bool

/-- What a record says. -/
def DmaBufferInfo.view (r : DmaBufferInfo) : DmaView :=
  ⟨r.bufferId, r.width, r.height, r.format, r.usage, r.stride, r.size, r.mapped, r.isProtected⟩

/-- With some address and some key. -/
def DmaView.record (v : DmaView) : DmaBufferInfo :=
  ⟨0, 0, v.id, v.width, v.height, v.format, v.usage, v.stride, v.size, v.mapped, v.isProtected⟩

/-- The buffers of the DMA-BUF backend, by descriptor. -/
abbrev DmaRegistry := Int → Option DmaView

/-- The buffer a handle names: none if it is NULL or routed to the other backend. -/
def DmaRegistry.named (r : DmaRegistry) : Option NativeHandle → Option DmaView
  | none => none
  | some h => if routedTo (grallocHandle h) = .mapperGrallocDmabuf then r (keyOf h) else none

/-- A buffer that has just been imported. -/
def freshDmaView (c : NativeHandle) : DmaView := (bufferInfoCreate 0 c).view

/-- What a read gives; nothing for a type that the interface does not know. -/
def DmaView.read (type : StandardMetadataType) (v : DmaView) : Option MetadataValue :=
  if type.isKnown then (dmaBufMetadataValue v.record type).encoded else none

/-- The usage is refused, if not for being zero: the buffer is to be a framebuffer. -/
def AsksFramebuffer (cpuUsage : UInt64) : Prop := cpuUsage.toUInt32 &&& grallocUsageHwFb ≠ 0

instance (cpuUsage : UInt64) : Decidable (AsksFramebuffer cpuUsage) := inferInstanceAs (Decidable (_ ≠ _))

/-- The buffer can be had at `a`: it is there already, or nowhere yet. -/
def DmaView.MappedAt (v : DmaView) (a : Nat) : Prop := v.mapped = some a ∨ v.mapped = none

/-- What a call may do to the registry, with the answer it gives. -/
inductive DmaStep (r : DmaRegistry) : MapperOp → Answer → DmaRegistry → Prop
  | importRefused (h : Option NativeHandle) (status : AIMapperError) (hs : status ≠ .none) :
    DmaStep r (.buffer (.importBuffer h)) (.imported status none) r
  | importOther (h c : NativeHandle) (hdma : routedTo (grallocHandle h) ≠ .mapperGrallocDmabuf) :
    DmaStep r (.buffer (.importBuffer (some h))) (.imported .none (some c)) r
  | importDma (h c : NativeHandle) (hdma : routedTo (grallocHandle h) = .mapperGrallocDmabuf)
      (hnew : r (keyOf c) = none) :
    DmaStep r (.buffer (.importBuffer (some h))) (.imported .none (some c))
      (Function.update r (keyOf c) (some (freshDmaView c)))
  | freeNothing (h : Option NativeHandle) (status : Option AIMapperError) (hn : r.named h = none) :
    DmaStep r (.buffer (.freeBuffer h)) (.status status) r
  | free (h : NativeHandle) (v : DmaView) (hn : r.named (some h) = some v) :
    DmaStep r (.buffer (.freeBuffer (some h))) (.status (some .none))
      (Function.update r (keyOf h) none)
  | lockNothing (h : Option NativeHandle) (cpuUsage : UInt64) (answer : Answer)
      (hn : r.named h = none) : DmaStep r (.buffer (.lock h cpuUsage)) answer r
  | lockZero (h : NativeHandle) :
    DmaStep r (.buffer (.lock (some h) 0)) (.locked (some .badValue) none) r
  | lockUnmapped (h : NativeHandle) (cpuUsage : UInt64) (v : DmaView)
      (hn : r.named (some h) = some v) (hv : v.mapped = none) :
    DmaStep r (.buffer (.lock (some h) cpuUsage)) (.locked (some .noResources) none) r
  | lockRefused (h : NativeHandle) (cpuUsage : UInt64) (v : DmaView) (a : Nat)
      (hn : r.named (some h) = some v) (ha : v.MappedAt a) (hfb : AsksFramebuffer cpuUsage) :
    DmaStep r (.buffer (.lock (some h) cpuUsage)) (.locked (some .noResources) none)
      (Function.update r (keyOf h) (some { v with mapped := some a }))
  | lock (h : NativeHandle) (cpuUsage : UInt64) (v : DmaView) (a : Nat)
      (hn : r.named (some h) = some v) (ha : v.MappedAt a) (h0 : cpuUsage ≠ 0)
      (hfb : ¬ AsksFramebuffer cpuUsage) :
    DmaStep r (.buffer (.lock (some h) cpuUsage)) (.locked (some .none) (some (some a)))
      (Function.update r (keyOf h) (some { v with mapped := some a }))
  | unlock (h : Option NativeHandle) (status : Option AIMapperError) :
    DmaStep r (.buffer (.unlock h)) (.status status) r
  | readNothing (h : Option NativeHandle) (type : StandardMetadataType) (value : Option MetadataValue)
      (hn : r.named h = none) :
    DmaStep r (.getStandardMetadata h type) (.read value) r
  | read (h : NativeHandle) (type : StandardMetadataType) (v : DmaView)
      (hn : r.named (some h) = some v) :
    DmaStep r (.getStandardMetadata (some h) type) (.read (v.read type)) r
  | set (h : Option NativeHandle) (type : StandardMetadataType) (m : Payload)
      (status : Option AIMapperError) :
    DmaStep r (.setStandardMetadata h type m) (.status status) r

/-! ## The registry of a process

  The records are a map from the C++ library, and the registry is the map with the pointers
  followed. -/

/-- The buffers a process has: the records, by their keys. -/
def dmaRegistryOf (p : Proc) : DmaRegistry := fun fd => (findBufferInfo fd p).map DmaBufferInfo.view

section

variable {p p' : Proc} {h : NativeHandle}

/-- The registry depends on the records only. -/
theorem dmaRegistryOf_congr (hp : p'.importedBufferTable = p.importedBufferTable) :
    dmaRegistryOf p' = dmaRegistryOf p := by
  funext fd
  rw [dmaRegistryOf, findBufferInfo, hp]
  rfl

/-- A handle that goes to this backend names the buffer under its descriptor, -/
theorem DmaRegistry.named_dma {r : DmaRegistry}
    (hdma : routedTo (grallocHandle h) = .mapperGrallocDmabuf) : r.named (some h) = r (keyOf h) :=
  if_pos hdma

/-- and one that does not names none. -/
theorem DmaRegistry.named_gbm {r : DmaRegistry}
    (hgbm : routedTo (grallocHandle h) = .mapperGrallocGbm) : r.named (some h) = none :=
  if_neg (by rw [hgbm]; decide)

/-- A record more: its buffer is entered under its key. -/
theorem dmaRegistryOf_imported {r : DmaBufferInfo}
    (hp : p'.importedBufferTable = r :: p.importedBufferTable) :
    dmaRegistryOf p' = Function.update (dmaRegistryOf p) r.primeFd (some r.view) := by
  funext fd
  rw [dmaRegistryOf, findBufferInfo, hp, Keyed.lookup_cons, Function.update_apply]
  by_cases hfd : r.primeFd = fd
  · rw [if_pos hfd, if_pos hfd.symm]
    rfl
  · rw [if_neg hfd, if_neg (Ne.symm hfd)]
    rfl

/-- The records with a key are gone: nothing is under it. -/
theorem dmaRegistryOf_removed {key : Int}
    (hp : p'.importedBufferTable = Keyed.remove DmaBufferInfo.primeFd key p.importedBufferTable) :
    dmaRegistryOf p' = Function.update (dmaRegistryOf p) key none := by
  funext fd
  rw [dmaRegistryOf, findBufferInfo, hp, Keyed.lookup_remove_key_eq, Function.update_apply]
  by_cases hfd : fd = key
  · rw [if_pos hfd, if_pos hfd]
    rfl
  · rw [if_neg hfd, if_neg hfd]
    rfl

/-- The record under `key` gets an address. -/
theorem dmaRegistryOf_mapped {key : Int} {bi : DmaBufferInfo} {a : Nat}
    (hfind : findBufferInfo key p = some bi)
    (hp : p'.importedBufferTable = p.importedBufferTable.map
      (fun e => if e.primeFd = key then { e with mapped := some a } else e)) :
    dmaRegistryOf p'
      = Function.update (dmaRegistryOf p) key (some { bi.view with mapped := some a }) := by
  funext fd
  have hkeys : ∀ e : DmaBufferInfo,
      (if e.primeFd = key then { e with mapped := some a } else e).primeFd = e.primeFd := by
    intro e
    split <;> rfl
  rw [dmaRegistryOf, findBufferInfo, hp, Keyed.lookup_map hkeys, Function.update_apply]
  by_cases hfd : fd = key
  · subst hfd
    rw [if_pos rfl, show Keyed.lookup DmaBufferInfo.primeFd fd p.importedBufferTable = some bi from hfind]
    simp [Keyed.key_of_lookup hfind, DmaBufferInfo.view]
  · rw [if_neg hfd]
    show Option.map _ (Option.map _ (findBufferInfo fd p)) = Option.map _ (findBufferInfo fd p)
    cases he : findBufferInfo fd p with
    | none => rfl
    | some e =>
      have hne : e.primeFd ≠ key := fun heq => hfd ((Keyed.key_of_lookup he).symm.trans heq)
      simp [hne]

end

/-! ## The refinement

  A free is the one call for which the environment matters: it looks for its key in the block it
  has just released. -/

section

variable {cfg : BuildConfig} {env : Env} {h : NativeHandle} {m : Mapper}

/-- Calls routed to the GBM backend leave the records alone. -/
theorem Mapper.freeBuffer_gbm_records (hgbm : routedTo (grallocHandle h) = .mapperGrallocGbm) :
    (m.freeBuffer env (some h)).2.proc.importedBufferTable = m.proc.importedBufferTable := by
  refine Mapper.withBackend_proc (Q := fun q => q.importedBufferTable = m.proc.importedBufferTable)
    (readied_records env h m.proc) ?_
  rw [hgbm, ← readied_records env h m.proc]
  rcases grallocGbmAndroidBufferFree_cases h (readied env h m.proc) with
    ⟨-, hf⟩ | ⟨-, -, hf⟩ | ⟨e, -, -, -, hf⟩ | ⟨e, b, -, -, -, hf⟩
  · simp only [hf]
  · simp only [hf]
  · simp only [hf]
  · obtain ⟨heap, hd⟩ := gbmBoDestroy_eq e.bo b (readied env h m.proc)
    simp only [hf, hd]
    rfl

/-- So do the locks. -/
theorem Mapper.lock_gbm_records (cpuUsage : UInt64) (hp : ProcInv m.proc)
    (hgbm : routedTo (grallocHandle h) = .mapperGrallocGbm) :
    (m.lock env (some h) cpuUsage).2.proc.importedBufferTable = m.proc.importedBufferTable := by
  by_cases h0 : cpuUsage = 0
  · have hlock : m.lock env (some h) cpuUsage = ((some .badValue, none), m) := if_pos h0
    rw [hlock]
  have hlock : m.lock env (some h) cpuUsage = m.withBackend env h (some .noResources, none) _ :=
    if_neg h0
  rw [hlock]
  refine Mapper.withBackend_proc (Q := fun q => q.importedBufferTable = m.proc.importedBufferTable)
    (readied_records env h m.proc) ?_
  rw [hgbm, ← readied_records env h m.proc]
  rcases grallocGbmAndroidBufferLock_cases env h cpuUsage.toUInt32 (hp.readied env h).user_data with
    ⟨ret, hr, -⟩ | ⟨e, d, -, -, -, -, ⟨-, hr⟩ | ⟨-, -, transfer, hr | ⟨a, hr⟩⟩⟩ <;>
    simp only [hr] <;> rfl

/-- There are two backends. -/
theorem routedTo_gbm (hdma : routedTo (grallocHandle h) ≠ .mapperGrallocDmabuf) :
    routedTo (grallocHandle h) = .mapperGrallocGbm := by
  cases hr : routedTo (grallocHandle h) with
  | mapperGrallocGbm => rfl
  | mapperGrallocDmabuf => exact absurd hr hdma

/-- **Import.**  Refused, or the buffer of the other backend, or one under a descriptor that is new
    here. -/
theorem importBuffer_dmaStep (handle : Option NativeHandle) (hp : ProcInv m.proc)
    (hopen : RecordsOpen m.proc) :
    DmaStep (dmaRegistryOf m.proc) (.buffer (.importBuffer handle))
      (answerOf cfg env m (.buffer (.importBuffer handle)))
      (dmaRegistryOf (m.importBuffer cfg env handle).2.proc) := by
  cases handle with
  | none => exact .importRefused none .badBuffer (by decide)
  | some h =>
    rcases Mapper.importBuffer_cases cfg env h hp with
      ⟨-, hr⟩ | ⟨-, -, hr, n, cs, -, hproc⟩ | ⟨htaken, -, c, hr, hc, -⟩
    · simp only [answerOf, hr]
      exact .importRefused _ .badBuffer (by decide)
    · have hsame : dmaRegistryOf (m.importBuffer cfg env (some h)).2.proc = dmaRegistryOf m.proc := by
        apply dmaRegistryOf_congr
        rw [hproc]
        exact readied_records env h m.proc
      rw [hsame]
      simp only [answerOf, hr]
      exact .importRefused _ .noResources (by decide)
    · simp only [answerOf, hr]
      rcases Mapper.importBuffer_records cfg env h hp htaken.1 hopen with
        ⟨htable, hnone⟩ | ⟨hdma, c', hc', hnew, -, htable⟩
      · rw [dmaRegistryOf_congr htable]
        refine .importOther h c fun hdma => ?_
        have hno := hnone hdma
        rw [hr] at hno
        cases hno
      · rw [hr] at hc'
        cases hc'
        -- no record has the key of the clone, which was not open
        have hfresh : dmaRegistryOf m.proc (keyOf c) = none := by
          have hnone : findBufferInfo (keyOf c) m.proc = none := by
            refine Keyed.lookup_eq_none.mpr fun r hr heq => hnew ?_
            have hmem := hopen r hr
            rw [heq] at hmem
            exact (readied_frame env h m.proc 0).fds_sub hmem
          rw [dmaRegistryOf, hnone]
          rfl
        rw [dmaRegistryOf_imported htable]
        exact .importDma h c hdma hfresh

/-- **Free.**  The key of the handle is struck out: this is where the released block must hold it.
    -/
theorem freeBuffer_dmaStep (buffer : Option NativeHandle)
    (hkept : (BufferOp.freeBuffer buffer).KeepsKey env m) :
    DmaStep (dmaRegistryOf m.proc) (.buffer (.freeBuffer buffer))
      (answerOf cfg env m (.buffer (.freeBuffer buffer)))
      (dmaRegistryOf (m.freeBuffer env buffer).2.proc) := by
  cases buffer with
  | none => exact .freeNothing none _ rfl
  | some h =>
    by_cases hdma : routedTo (grallocHandle h) = .mapperGrallocDmabuf
    swap
    · rw [dmaRegistryOf_congr (Mapper.freeBuffer_gbm_records (routedTo_gbm hdma))]
      exact .freeNothing _ _ (DmaRegistry.named_gbm (routedTo_gbm hdma))
    obtain ⟨da, cs, -, hw⟩ := Mapper.withBackend_dmabuf hdma
    unfold answerOf Mapper.freeBuffer
    dsimp only
    rw [hw]
    rcases MapperBackendDmaBuf.freeBuffer_cases env h
        { m.proc with dmaAllocator := da, calls := cs ++ m.proc.calls } with
      ⟨hfind, hf⟩ | ⟨bi, hfind, hf⟩ <;> simp only [hf]
    · refine .freeNothing _ _ ((DmaRegistry.named_dma hdma).trans ?_)
      exact congrArg (Option.map DmaBufferInfo.view) hfind
    · have hreg : dmaRegistryOf { m.proc with
          dmaAllocator := da
          calls := cs ++ m.proc.calls
          importedBufferTable :=
            Keyed.remove DmaBufferInfo.primeFd (env.memory bi.addr 0) m.proc.importedBufferTable }
          = Function.update (dmaRegistryOf m.proc) (keyOf h) none :=
        dmaRegistryOf_removed (by rw [hkept hdma bi hfind]; rfl)
      rw [hreg]
      refine .free h bi.view ((DmaRegistry.named_dma hdma).trans ?_)
      exact congrArg (Option.map DmaBufferInfo.view) hfind

/-- Mapped, or mapped by this lock: the record with its address, under the key of the handle. -/
theorem lock_dmaStep (buffer : Option NativeHandle) (cpuUsage : UInt64) (hp : ProcInv m.proc) :
    DmaStep (dmaRegistryOf m.proc) (.buffer (.lock buffer cpuUsage))
      (answerOf cfg env m (.buffer (.lock buffer cpuUsage)))
      (dmaRegistryOf (m.lock env buffer cpuUsage).2.proc) := by
  cases buffer with
  | none => exact .lockNothing none cpuUsage _ rfl
  | some h =>
    by_cases hdma : routedTo (grallocHandle h) = .mapperGrallocDmabuf
    swap
    · rw [dmaRegistryOf_congr (Mapper.lock_gbm_records cpuUsage hp (routedTo_gbm hdma))]
      exact .lockNothing _ _ _ (DmaRegistry.named_gbm (routedTo_gbm hdma))
    by_cases h0 : cpuUsage = 0
    · subst h0
      exact .lockZero h
    obtain ⟨da, cs, -, hw⟩ := Mapper.withBackend_dmabuf hdma
    have hlock : m.lock env (some h) cpuUsage = m.withBackend env h (some .noResources, none) _ :=
      if_neg h0
    simp only [answerOf]
    rw [hlock, hw]
    have hnamed : ∀ bi, findBufferInfo (grallocHandle h).primeFd m.proc = some bi →
        (dmaRegistryOf m.proc).named (some h) = some bi.view := by
      intro bi hfind
      exact (DmaRegistry.named_dma hdma).trans (congrArg (Option.map DmaBufferInfo.view) hfind)
    rcases MapperBackendDmaBuf.lock_cases env h cpuUsage
        { m.proc with dmaAllocator := da, calls := cs ++ m.proc.calls } with
      ⟨hfind, hl⟩ | ⟨bi, hfind, ⟨⟨hnone, -⟩, hl⟩ | ⟨a, q, hq, hl⟩⟩
    · simp only [hl]
      refine .lockNothing _ _ _ ((DmaRegistry.named_dma hdma).trans ?_)
      exact congrArg (Option.map DmaBufferInfo.view) hfind
    · simp only [hl]
      exact .lockUnmapped h cpuUsage bi.view (hnamed bi hfind) hnone
    · have hreg : bi.view.MappedAt a ∧ dmaRegistryOf q
          = Function.update (dmaRegistryOf m.proc) (keyOf h) (some { bi.view with mapped := some a }) := by
        have hkey : bi.primeFd = keyOf h := Keyed.key_of_lookup hfind
        rcases hq with ⟨hmapped, rfl⟩ | ⟨⟨hnone, -⟩, rfl⟩
        · refine ⟨.inl hmapped, ?_⟩
          have hview : { bi.view with mapped := some a } = bi.view := by
            rw [← hmapped]
            rfl
          rw [hview, Function.update_eq_self_iff.mpr]
          · rfl
          · exact (congrArg (Option.map DmaBufferInfo.view) hfind).symm
        · refine ⟨.inr hnone, ?_⟩
          rw [← hkey]
          exact dmaRegistryOf_mapped (p := m.proc) (by rw [hkey]; exact hfind) rfl
      obtain ⟨hat, hreg⟩ := hreg
      rcases hl with ⟨hfb, hl⟩ | ⟨hfb, hl⟩
      · simp only [hl]
        rw [hreg]
        exact .lockRefused h cpuUsage bi.view a (hnamed bi hfind) hat hfb
      · simp only [hl]
        have hsame : dmaRegistryOf { q with
            calls := .cpuSyncStart (grallocHandle h).primeFd (syncTypeOf cpuUsage.toUInt32) :: q.calls }
            = dmaRegistryOf q := rfl
        rw [hsame, hreg]
        exact .lock h cpuUsage bi.view a (hnamed bi hfind) hat h0 (not_not.mpr hfb)

/-- **Unlock.**  Nothing. -/
theorem unlock_dmaStep (buffer : Option NativeHandle) :
    DmaStep (dmaRegistryOf m.proc) (.buffer (.unlock buffer))
      (answerOf cfg env m (.buffer (.unlock buffer)))
      (dmaRegistryOf (m.unlock env buffer).2.proc) := by
  cases buffer with
  | none => exact .unlock none _
  | some h =>
    rw [dmaRegistryOf_congr (Mapper.unlock_records env h m)]
    exact .unlock _ _

/-- A read of a type without a name gives nothing. -/
theorem Mapper.getStandardMetadata_dmabuf_unknown {type : StandardMetadataType}
    (hk : type.isKnown = false) (hdma : routedTo (grallocHandle h) = .mapperGrallocDmabuf) :
    (m.getStandardMetadata env (some h) type).1.2 = none := by
  unfold Mapper.getStandardMetadata
  obtain ⟨da, cs, -, hw⟩ := Mapper.withBackend_dmabuf hdma
  dsimp only
  rw [hw]
  have hvalue : ∀ p, (MapperBackendDmaBuf.getStandardMetadata env h type p).2.1 = none := fun p =>
    provideStandardMetadata_unknown hk _ _
  dsimp only
  split <;> exact hvalue _

/-- **Read.**  The values are those of the record, which has them from the handle imported. -/
theorem getStandardMetadata_dmaStep (buffer : Option NativeHandle) (type : StandardMetadataType)
    (hp : ProcInv m.proc) :
    DmaStep (dmaRegistryOf m.proc) (.getStandardMetadata buffer type)
      (answerOf cfg env m (.getStandardMetadata buffer type))
      (dmaRegistryOf (m.getStandardMetadata env buffer type).2.proc) := by
  cases buffer with
  | none => exact .readNothing none type _ rfl
  | some h =>
    rw [dmaRegistryOf_congr (Mapper.getStandardMetadata_quiet env h type hp).records]
    cases hn : (dmaRegistryOf m.proc).named (some h) with
    | none => exact .readNothing _ type _ hn
    | some v =>
      by_cases hdma : routedTo (grallocHandle h) = .mapperGrallocDmabuf
      swap
      · rw [DmaRegistry.named_gbm (routedTo_gbm hdma)] at hn
        cases hn
      have hfound := (DmaRegistry.named_dma hdma).symm.trans hn
      obtain ⟨bi, hfind, rfl⟩ := Option.map_eq_some_iff.mp hfound
      have hvalue : (m.getStandardMetadata env (some h) type).1.2 = bi.view.read type := by
        unfold DmaView.read
        cases hk : type.isKnown with
        | false => exact Mapper.getStandardMetadata_dmabuf_unknown hk hdma
        | true =>
          rw [Mapper.getStandardMetadata_dmabuf hk hdma hfind]
          cases type <;> rfl
      simp only [answerOf, hvalue]
      exact .read h type bi.view hn

/-- **Set.**  Taken or refused, it leaves the records alone. -/
theorem setStandardMetadata_dmaStep (buffer : Option NativeHandle) (type : StandardMetadataType)
    (metadata : Payload) (hp : ProcInv m.proc) :
    DmaStep (dmaRegistryOf m.proc) (.setStandardMetadata buffer type metadata)
      (answerOf cfg env m (.setStandardMetadata buffer type metadata))
      (dmaRegistryOf (m.setStandardMetadata env buffer type metadata).2.proc) := by
  cases buffer with
  | none => exact .set none type metadata _
  | some h =>
    rw [dmaRegistryOf_congr (Mapper.setStandardMetadata_records env h type metadata hp)]
    exact .set _ type metadata _

end

/-- **The step of the refinement**, by the calls. -/
theorem Mapper.dmaStep (cfg : BuildConfig) (env : Env) {m : Mapper} (op : MapperOp)
    (hp : ProcInv m.proc) (hopen : RecordsOpen m.proc) (hkept : op.KeepsKey env m) :
    DmaStep (dmaRegistryOf m.proc) op (answerOf cfg env m op)
      (dmaRegistryOf (mapperStep cfg env m op).proc) := by
  cases op with
  | buffer op =>
    cases op with
    | importBuffer handle => exact importBuffer_dmaStep handle hp hopen
    | freeBuffer buffer => exact freeBuffer_dmaStep buffer hkept
    | lock buffer cpuUsage => exact lock_dmaStep buffer cpuUsage hp
    | unlock buffer => exact unlock_dmaStep buffer
  | getStandardMetadata buffer type => exact getStandardMetadata_dmaStep buffer type hp
  | setStandardMetadata buffer type metadata =>
    exact setStandardMetadata_dmaStep buffer type metadata hp

/-- The call does to the records what the registry allows, and answers accordingly. -/
def DmaStepOk (cfg : BuildConfig) (env : Env) (m : Mapper) (op : MapperOp) : Prop :=
  DmaStep (dmaRegistryOf m.proc) op (answerOf cfg env m op)
    (dmaRegistryOf (mapperStep cfg env m op).proc)

/-- **The mapper is a registry of DMA-BUF buffers as well.**  It starts empty, and in every run with
    any handles and any answers of the outside, whose frees keep their keys, every call does to it
    what this registry allows, and answers accordingly. -/
theorem mapperRun_dmaStep (cfg : BuildConfig) (env : Env) (ops : List MapperOp)
    (hkept : Run.Along (mapperStep cfg env) (fun m op => op.KeepsKey env m) Mapper.start ops) :
    dmaRegistryOf Mapper.start.proc = (fun _ => none) ∧
      Run.Along (mapperStep cfg env) (DmaStepOk cfg env) Mapper.start ops := by
  refine ⟨rfl, Run.along_of_inv (fun m : Mapper => ProcInv m.proc ∧ RecordsOpen m.proc)
    (fun m op h _ => ?_) (fun m op h hop => Mapper.dmaStep cfg env op h.1 h.2 hop)
    ⟨ProcInv.start, fun _ h => absurd h List.not_mem_nil⟩ hkept⟩
  exact ⟨mapperStep_inv cfg env op h.1, mapperStep_recordsOpen cfg env op h.1 h.2⟩

/-! ## One buffer

  What can become of a buffer that is not freed, said about the registry alone: its numbers
  stay, and its address is filled in once. -/

/-- Does `h` name the buffer under `k`? -/
def NamesDma (k : Int) (h : NativeHandle) : Prop :=
  routedTo (grallocHandle h) = .mapperGrallocDmabuf ∧ keyOf h = k

/-- Does the call free the buffer under `k`? -/
def FreesDma (k : Int) : MapperOp → Prop
  | .buffer (.freeBuffer (some h)) => NamesDma k h
  | _ => False

instance (k : Int) : DecidablePred (FreesDma k)
  | .buffer (.freeBuffer (some h)) => inferInstanceAs (Decidable
      (routedTo (grallocHandle h) = .mapperGrallocDmabuf ∧ keyOf h = k))
  | .buffer (.freeBuffer none) => isFalse not_false
  | .buffer (.importBuffer _) => isFalse not_false
  | .buffer (.lock _ _) => isFalse not_false
  | .buffer (.unlock _) => isFalse not_false
  | .getStandardMetadata _ _ => isFalse not_false
  | .setStandardMetadata _ _ _ => isFalse not_false

/-- `v'` says what `v` says, and where the buffer is if `v` does not. -/
def DmaView.Le (v v' : DmaView) : Prop :=
  v' = v ∨ (v.mapped = none ∧ ∃ a, v' = { v with mapped := some a })

/-- What a lock of the buffer at `a` answers. -/
def lockAnswerAt (cpuUsage : UInt64) (a : Nat) : Option AIMapperError × Option (Option Nat) :=
  if cpuUsage = 0 then (some .badValue, none)
  else if AsksFramebuffer cpuUsage then (some .noResources, none)
  else (some .none, some (some a))

namespace DmaView.Le

variable {v v' v'' : DmaView}

/-- Nothing has happened to the buffer. -/
protected theorem refl : v.Le v := .inl rfl

/-- The order of two stretches. -/
protected theorem trans (h : v.Le v') (h' : v'.Le v'') : v.Le v'' := by
  rcases h with rfl | ⟨hnone, a, rfl⟩
  · exact h'
  · rcases h' with rfl | ⟨hno, -⟩
    · exact .inr ⟨hnone, a, rfl⟩
    · cases hno

/-- A lock fills the address in. -/
theorem of_mapped {a : Nat} (ha : v.MappedAt a) : v.Le { v with mapped := some a } := by
  rcases ha with hsome | hnone
  · refine .inl ?_
    rw [← hsome]
  · exact .inr ⟨hnone, a, rfl⟩

/-- A mapped buffer does not change at all. -/
theorem eq_of_mapped (h : v.Le v') {a : Nat} (ha : v.mapped = some a) : v' = v := by
  rcases h with rfl | ⟨hnone, -⟩
  · rfl
  · rw [ha] at hnone
    cases hnone

/-- No read sees the address. -/
theorem read_eq (h : v.Le v') (type : StandardMetadataType) : v'.read type = v.read type := by
  rcases h with rfl | ⟨-, a, rfl⟩
  · rfl
  · cases type <;> rfl

end DmaView.Le

section

variable {r r' : DmaRegistry} {op : MapperOp} {answer : Answer} {k : Int} {v : DmaView}
  {h : NativeHandle}

/-- A handle names the buffer under its own descriptor, if it goes to this backend. -/
theorem DmaRegistry.named_eq_some (hn : r.named (some h) = some v) :
    NamesDma (keyOf h) h ∧ r (keyOf h) = some v := by
  by_cases hdma : routedTo (grallocHandle h) = .mapperGrallocDmabuf
  · exact ⟨⟨hdma, rfl⟩, (DmaRegistry.named_dma hdma).symm.trans hn⟩
  · rw [DmaRegistry.named_gbm (routedTo_gbm hdma)] at hn
    cases hn

/-- All handles of a buffer name the same one. -/
theorem NamesDma.named (hh : NamesDma k h) : r.named (some h) = r k := by
  rw [DmaRegistry.named_dma hh.1, hh.2]

/-- **What can become of a buffer**: if it is not freed, it keeps what it says. -/
theorem DmaStep.at_key (hs : DmaStep r op answer r') (hv : r k = some v) (hfree : ¬ FreesDma k op) :
    ∃ v', r' k = some v' ∧ v.Le v' := by
  have hstays : ∃ v', r k = some v' ∧ v.Le v' := ⟨v, hv, .refl⟩
  -- a lock that maps the buffer of `h`, this one or another
  have hmaps : ∀ {h : NativeHandle} {w : DmaView} {a : Nat}, r.named (some h) = some w →
      w.MappedAt a →
      ∃ v', Function.update r (keyOf h) (some { w with mapped := some a }) k = some v' ∧ v.Le v' := by
    intro h w a hn ha
    by_cases hk : k = keyOf h
    · have hw := (DmaRegistry.named_eq_some hn).2
      rw [← hk, hv] at hw
      cases hw
      exact ⟨_, by rw [hk, Function.update_self], .of_mapped ha⟩
    · exact ⟨v, (Function.update_of_ne hk _ _).trans hv, .refl⟩
  cases hs with
  | importRefused => exact hstays
  | importOther => exact hstays
  | importDma h c hdma hnew =>
    have hne : k ≠ keyOf c := by
      rintro rfl
      rw [hv] at hnew
      cases hnew
    exact ⟨v, (Function.update_of_ne hne _ _).trans hv, .refl⟩
  | freeNothing => exact hstays
  | free h w hn =>
    have hne : k ≠ keyOf h := by
      rintro rfl
      exact hfree (DmaRegistry.named_eq_some hn).1
    exact ⟨v, (Function.update_of_ne hne _ _).trans hv, .refl⟩
  | lockNothing => exact hstays
  | lockZero => exact hstays
  | lockUnmapped => exact hstays
  | lockRefused h cpuUsage w a hn ha hfb => exact hmaps hn ha
  | lock h cpuUsage w a hn ha h0 hfb => exact hmaps hn ha
  | unlock => exact hstays
  | readNothing => exact hstays
  | read => exact hstays
  | set => exact hstays

/-- A mapped buffer can be had where it is, and nowhere else. -/
theorem DmaView.MappedAt.eq {a b : Nat} (hb : v.MappedAt b) (ha : v.mapped = some a) : b = a := by
  rcases hb with hsome | hnone
  · rw [ha] at hsome
    exact (Option.some.inj hsome).symm
  · rw [ha] at hnone
    cases hnone

/-- What a lock of a mapped buffer answers. -/
theorem DmaStep.lock_mapped {cpuUsage : UInt64} {status : Option AIMapperError}
    {out : Option (Option Nat)}
    (hs : DmaStep r (.buffer (.lock (some h) cpuUsage)) (.locked status out) r') (hh : NamesDma k h)
    (hv : r k = some v) {a : Nat} (ha : v.mapped = some a) :
    (status, out) = lockAnswerAt cpuUsage a := by
  have hnamed : r.named (some h) = some v := hh.named.trans hv
  unfold lockAnswerAt
  cases hs with
  | lockNothing _ _ _ hn =>
    rw [hnamed] at hn
    cases hn
  | lockZero => exact (if_pos rfl).symm
  | lockUnmapped _ _ w hn hw =>
    rw [hnamed] at hn
    cases hn
    rw [ha] at hw
    cases hw
  | lockRefused _ _ w b hn hb hfb =>
    have h0 : cpuUsage ≠ 0 := by
      rintro rfl
      exact hfb rfl
    rw [if_neg h0, if_pos hfb]
  | lock _ _ w b hn hb h0 hfb =>
    rw [hnamed] at hn
    cases hn
    obtain rfl := hb.eq ha
    rw [if_neg h0, if_neg hfb]

/-- A read through a handle of a buffer tells what the buffer says. -/
theorem DmaStep.read_named {type : StandardMetadataType} {value : Option MetadataValue}
    (hs : DmaStep r (.getStandardMetadata (some h) type) (.read value) r') (hh : NamesDma k h)
    (hv : r k = some v) : value = v.read type := by
  have hnamed : r.named (some h) = some v := hh.named.trans hv
  cases hs with
  | readNothing _ _ _ hn =>
    rw [hnamed] at hn
    cases hn
  | read _ _ w hn =>
    rw [hnamed] at hn
    cases hn
    rfl

end

/-! ## Runs

  The lemmas about one step, along a run; the registry is not left any more. -/

section

variable (cfg : BuildConfig) (env : Env)

/-- **A DMA-BUF buffer stays what it is.**  However its handles are locked, unlocked, read and set
    meanwhile, and whatever else is imported and freed, as long as the buffer itself is not freed,
    every read through any handle of it says what it said before; and once it is mapped, it stays
    there, and every lock of it is answered with that address, unless for its usage.  As before, the
    frees keep their keys. -/
theorem mapperRun_dma_keeps (ops rest : List MapperOp) (k : Int) (v : DmaView)
    (hkept : Run.Along (mapperStep cfg env) (fun m op => op.KeepsKey env m) Mapper.start (ops ++ rest))
    (hv : dmaRegistryOf (mapperRun cfg env ops).proc k = some v)
    (hrest : ∀ op ∈ rest, ¬ FreesDma k op) :
    let m := mapperRun cfg env (ops ++ rest)
    (∃ v', dmaRegistryOf m.proc k = some v' ∧ v.Le v') ∧ ∀ h, NamesDma k h →
      (∀ type, (m.getStandardMetadata env (some h) type).1.2 = v.read type) ∧
      ∀ cpuUsage a, v.mapped = some a →
        (m.lock env (some h) cpuUsage).1 = lockAnswerAt cpuUsage a := by
  intro m
  have hrun : (ProcInv m.proc ∧ RecordsOpen m.proc) ∧ ∃ v', dmaRegistryOf m.proc k = some v' ∧ v.Le v' := by
    rw [show m = _ from mapperRun_append cfg env ops rest]
    refine Run.foldl_inv (fun m : Mapper => (ProcInv m.proc ∧ RecordsOpen m.proc) ∧
      ∃ v', dmaRegistryOf m.proc k = some v' ∧ v.Le v') (fun q op hq hop => ?_)
      ⟨⟨(mapperRun_mapState cfg env ops).inv, mapperRun_recordsOpen cfg env ops⟩, v, hv, .refl⟩
      (Run.along_and.mpr ⟨(Run.along_append.mp hkept).2, Run.along_const.mpr hrest⟩)
    obtain ⟨⟨hinv, hopen⟩, w, hw, hle⟩ := hq
    refine ⟨⟨mapperStep_inv cfg env op hinv, mapperStep_recordsOpen cfg env op hinv hopen⟩, ?_⟩
    obtain ⟨w', hw', hle'⟩ := (Mapper.dmaStep cfg env op hinv hopen hop.1).at_key hw hop.2
    exact ⟨w', hw', hle.trans hle'⟩
  obtain ⟨⟨hinv, hopen⟩, v', hv', hle⟩ := hrun
  refine ⟨⟨v', hv', hle⟩, fun h hh => ⟨fun type => ?_, fun cpuUsage a ha => ?_⟩⟩
  · have hstep := Mapper.dmaStep cfg env (.getStandardMetadata (some h) type) hinv hopen trivial
    exact (hstep.read_named hh hv').trans (hle.read_eq type)
  · have hstep := Mapper.dmaStep cfg env (.buffer (.lock (some h) cpuUsage)) hinv hopen trivial
    obtain rfl := hle.eq_of_mapped ha
    exact hstep.lock_mapped hh hv' ha

/-! ### A run -/

/-- The heap leaves in every released block what the key of `secondBlob` looks like. -/
def secondKeptEnv : Env := { Env.plain with memory := fun _ _ => 4 }

/-- A buffer is imported and locked. -/
def mappedOps : List MapperOp :=
  [.buffer (.importBuffer (some (blobHandle 5))), .buffer (.lock (some blobClone) 0x3)]

/-- The buffer in the registry after it was imported and locked. -/
def mappedView : DmaView :=
  (dmaRegistryOf (mapperRun .androidBp secondKeptEnv mappedOps).proc (keyOf blobClone)).get (by decide)

/-- The clone of a second one. -/
def secondBlob : NativeHandle :=
  (((mapperRun .androidBp secondKeptEnv mappedOps).importBuffer .androidBp secondKeptEnv
    (some (blobHandle 6))).1.2).get (by decide)

/-- Unlocks too many, a set, and the second buffer comes and goes. -/
def strayOps : List MapperOp :=
  [.buffer (.unlock (some blobClone)), .buffer (.unlock (some blobClone)),
    .setStandardMetadata (some blobClone) .dataspace (.ofInt32 1),
    .buffer (.importBuffer (some (blobHandle 6))), .buffer (.lock (some secondBlob) 0x3),
    .buffer (.freeBuffer (some secondBlob))]

/-- Locks, reads, sets and a second buffer's free, after each of which the registry is as it may be.
    -/
theorem strayOps_dmaSteps :
    Run.Along (mapperStep .androidBp secondKeptEnv) (DmaStepOk .androidBp secondKeptEnv) Mapper.start
      (mappedOps ++ strayOps) :=
  (mapperRun_dmaStep .androidBp secondKeptEnv (mappedOps ++ strayOps) (by decide)).2

/-- They change nothing for the next lock. -/
theorem mapped_locked_again :
    let m := mapperRun .androidBp secondKeptEnv (mappedOps ++ strayOps)
    (m.lock secondKeptEnv (some blobClone) 0x30).1 = lockAnswerAt 0x30 16384 :=
  ((mapperRun_dma_keeps .androidBp secondKeptEnv mappedOps strayOps (keyOf blobClone) mappedView
    (by decide) (Option.some_get _).symm
    (by decide)).2 blobClone
    ⟨by decide, rfl⟩).2 0x30 16384 (by decide)

end

end GrallocGbm
