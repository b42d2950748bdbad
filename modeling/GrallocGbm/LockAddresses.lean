/-
  The address a lock hands out, and what a refused lock leaves behind (`Mapper.cpp`, `lock` of the
  two backends).

  The mapper asks for a usage that is not zero and passes on whatever the backend writes to
  `*outData`.  The DMA-BUF backend maps every buffer it locks, before it looks at the usage; the GBM
  backend maps only for CPU access, and looks at the low half of the usage.  So one hands out an
  address with every lock it grants but keeps a mapping of some it refuses
  (`dmaBufLock_noTrace_iff`), the other grants locks without an address
  (`mapperRun_lockAddress_iff`).

  Every address on record is one of the log: `MapLogged` says so for the records, and with `MapInv`
  it is carried through every run of the mapper.  Together with `ProcInv` they are `MapState`, which
  the registries are built on.

  * `Quiet` — a call that makes no mapping and touches no record: readying a backend, a read;
  * `mapperStep_mapState` — every call keeps `MapState`;
  * `Mapper.lock_dmabuf_address`, `Mapper.lock_gbm_address` — when a granted lock has handed out the
    address of a live mapping of the buffer, for either backend;
  * `GrantedUnmapped` — the locks that are granted without one: the buffer is managed by the GBM
    backend, passes the checks, and neither the usage nor what it is locked for has a CPU bit.

  What is live is judged by the log: the mapping was made for the object or the descriptor, and has
  not been undone.
-/
import GrallocGbm.CpuMappings
import GrallocGbm.LockGrants

namespace GrallocGbm

/-! ## Calls that touch no mapping

  Getting a backend ready, exporting a descriptor, reading metadata: the log may grow, but no
  mapping comes in. -/

/-- `p'` differs from `p` in nothing that has to do with mappings. -/
structure Quiet (p p' : Proc) : Prop where
  bos : p'.bos = p.bos
  next_le : p.next ≤ p'.next
  records : p'.importedBufferTable = p.importedBufferTable
  fds_sub : p.fds ⊆ p'.fds
  log : mapLog p'.calls = mapLog p.calls

namespace Quiet

variable {p p' p'' : Proc}

/-- Two quiet stretches are one. -/
theorem trans (h : Quiet p p') (h' : Quiet p' p'') : Quiet p p'' where
  bos := h'.bos.trans h.bos
  next_le := le_trans h.next_le h'.next_le
  records := h'.records.trans h.records
  fds_sub := h.fds_sub.trans h'.fds_sub
  log := h'.log.trans h.log

end Quiet

/-- Readying a backend is quiet. -/
theorem readied_quiet (env : Env) (h : NativeHandle) (p : Proc) : Quiet p (readied env h p) := by
  have hlog := ensureReady_mapLog env (routedTo (grallocHandle h)) p
  obtain ⟨g, fds, da, n, cs, heq, hn, -⟩ := ensureReady_spec env (routedTo (grallocHandle h)) p
  constructor
  case bos => rw [readied, heq]
  case next_le => rw [readied, heq]; exact hn
  case records => exact readied_records env h p
  case fds_sub => exact (readied_frame env h p 0).fds_sub
  case log => exact hlog

/-- So is exporting a descriptor, -/
theorem gbmBoGetFd_quiet (env : Env) (bo : Nat) (p : Proc) : Quiet p (gbmBoGetFd env bo p).2 :=
  ⟨rfl, le_refl _, rfl, (gbmBoGetFd_frame env bo p 0).fds_sub, rfl⟩

/-- and so a read. -/
theorem Mapper.getStandardMetadata_quiet (env : Env) (h : NativeHandle) (type : StandardMetadataType)
    {m : Mapper} (hp : ProcInv m.proc) :
    Quiet m.proc (m.getStandardMetadata env (some h) type).2.proc := by
  have hready := readied_quiet env h m.proc
  rcases Mapper.getStandardMetadata_leaves env h type hp with hr | ⟨bo, hr⟩ <;> rw [hr]
  · exact hready
  · exact hready.trans (gbmBoGetFd_quiet env bo _)

/-! ## The addresses on record

  An address that a lock hands out is in the user data of an object or in a record, and there it
  must have come from a mapping. -/

/-- The address of every record is that of a mapping of its descriptor. -/
def MapLogged (p : Proc) : Prop :=
  ∀ r ∈ p.importedBufferTable, ∀ a, r.mapped = some a → ExtCall.mmap r.primeFd (some a) ∈ p.calls

/-- What every state of a mapper satisfies. -/
structure MapState (p : Proc) : Prop where
  inv : ProcInv p
  maps : MapInv p
  logged : MapLogged p

/-- Nothing is mapped, and nothing is on record. -/
theorem MapState.start : MapState Proc.start :=
  ⟨.start, .start, fun _ h => absurd h List.not_mem_nil⟩

section

variable {p p' : Proc}

/-- A step that takes no mapping out of the log, and makes no record with an address. -/
theorem MapLogged.of_step (h : MapLogged p)
    (hcalls : ∀ call ∈ mapLog p.calls, call ∈ mapLog p'.calls)
    (hrecords : ∀ r ∈ p'.importedBufferTable, r ∈ p.importedBufferTable ∨ r.mapped = none) :
    MapLogged p' := by
  intro r hr a ha
  rcases hrecords r hr with hold | hnone
  · have hmem : ExtCall.mmap r.primeFd (some a) ∈ mapLog p.calls :=
      List.mem_filter.mpr ⟨h r hold a ha, rfl⟩
    exact (List.mem_filter.mp (hcalls _ hmem)).1
  · rw [hnone] at ha
    cases ha

/-- A step that adds to the log, and makes no record. -/
theorem MapLogged.of_log (h : MapLogged p)
    (hrecords : p'.importedBufferTable = p.importedBufferTable) (hcalls : p.calls ⊆ p'.calls) :
    MapLogged p' := by
  intro r hr a ha
  rw [hrecords] at hr
  exact hcalls (h r hr a ha)

/-- A quiet step adds no record. -/
theorem MapLogged.of_quiet (h : MapLogged p) (hq : Quiet p p') : MapLogged p' :=
  h.of_step (fun call hcall => by rwa [hq.log]) (fun r hr => .inl (by rwa [hq.records] at hr))

/-- It keeps what is known of the mappings. -/
theorem MapInv.quiet (h : MapInv p) (hq : Quiet p p') : MapInv p' :=
  h.of_quiet (h.lib.of_quiet hq.bos hq.next_le hq.log) hq.records hq.fds_sub hq.log

/-- A lock of a record logs the mapping it makes. -/
theorem MapperBackendDmaBuf.lock_logged (env : Env) (h : NativeHandle) (cpuUsage : UInt64)
    (hl : MapLogged p) : MapLogged (MapperBackendDmaBuf.lock env h cpuUsage p).2.2 := by
  rcases MapperBackendDmaBuf.lock_cases env h cpuUsage p with
    ⟨-, hr⟩ | ⟨bi, -, ⟨-, hr⟩ | ⟨a, q, hq, hr⟩⟩
  · rw [hr]
    exact hl
  · rw [hr]
    exact hl.of_log rfl (List.subset_cons_self _ _)
  · have hlq : MapLogged q := by
      rcases hq with ⟨-, rfl⟩ | ⟨-, rfl⟩
      · exact hl
      · intro r' hr' a' ha'
        obtain ⟨r, hmem, rfl⟩ := List.mem_map.mp hr'
        by_cases hkey : r.primeFd = bi.primeFd
        · rw [if_pos hkey] at ha' ⊢
          show ExtCall.mmap r.primeFd (some a') ∈ _
          have haa : a = a' := Option.some.inj ha'
          rw [hkey, haa]
          exact List.mem_cons_self
        · rw [if_neg hkey] at ha' ⊢
          exact List.mem_cons_of_mem _ (hl r hmem a' ha')
    rcases hr with ⟨-, hr⟩ | ⟨-, hr⟩ <;> rw [hr]
    · exact hlq
    · exact hlq.of_log rfl (List.subset_cons_self _ _)

/-- Metadata is no part of what the lock invariant speaks about. -/
theorem LockOk.of_metadata {calls : List ExtCall} {bo : Nat} {d : GbmBoData} (h : LockOk calls bo d)
    (metadata : BufferMetadata) : LockOk calls bo { d with metadata := metadata } :=
  ⟨h.count_nonneg, h.idle, h.mapped_iff, h.mapped_once, h.balance⟩

/-- A set rewrites user data, but not the fields of a lock. -/
theorem MapperBackendGrallocGbm.setStandardMetadata_mapInv (h : NativeHandle)
    (type : StandardMetadataType) (metadata : BufferMetadata) (hm : MapInv p) :
    MapInv (MapperBackendGrallocGbm.setStandardMetadata h type metadata p).2 := by
  rcases MapperBackendGrallocGbm.setStandardMetadata_cases h type metadata hm.lib.user_data with
    ⟨-, hr, -⟩ | ⟨e, -, hr⟩ <;> rw [hr]
  · exact hm
  · cases hb : p.bos e.bo with
    | none =>
      -- a dangling entry: there is nothing to write to
      refine hm.quiet ⟨?_, le_refl _, rfl, subset_rfl, rfl⟩
      show Function.update p.bos e.bo _ = p.bos
      rw [hb]
      exact Function.update_eq_self_iff.mpr hb.symm
    | some b =>
      obtain ⟨d, hd⟩ := hm.lib.user_data.exists_data e.bo (by rw [hb]; rfl)
      let f : GbmBoData → GbmBoData :=
        fun d => { d with metadata := storeMetadata type metadata d.metadata }
      have hok : LockOk p.calls e.bo (f d) := (hm.lib.lock_ok e.bo d hd).of_metadata _
      exact hm.of_modified hd (hm.lib.of_modified hd rfl hok fun _ _ => rfl) (fun _ _ => rfl)
        fun _ => rfl

/-- It touches no record. -/
theorem MapperBackendGrallocGbm.setStandardMetadata_logged (h : NativeHandle)
    (type : StandardMetadataType) (metadata : BufferMetadata) (hp : HasUserData p)
    (hl : MapLogged p) :
    MapLogged (MapperBackendGrallocGbm.setStandardMetadata h type metadata p).2 := by
  rcases MapperBackendGrallocGbm.setStandardMetadata_cases h type metadata hp with
    ⟨-, hr, -⟩ | ⟨e, -, hr⟩ <;> rw [hr]
  · exact hl
  · exact hl

/-- The whole set. -/
theorem Mapper.setStandardMetadata_maps (env : Env) (h : NativeHandle) (type : StandardMetadataType)
    (metadata : Payload) {m : Mapper} (hp : ProcInv m.proc) (hm : MapInv m.proc)
    (hl : MapLogged m.proc) :
    MapInv (m.setStandardMetadata env (some h) type metadata).2.proc ∧
      MapLogged (m.setStandardMetadata env (some h) type metadata).2.proc := by
  have hready := readied_quiet env h m.proc
  refine Mapper.setStandardMetadata_proc (Q := fun q => MapInv q ∧ MapLogged q) env h type metadata
    (fun heap n cs hn hcs => ?_) (fun data q hq hmaps => ?_) hp
  · have hquiet : Quiet (GrallocGbm.readied env h m.proc)
        { GrallocGbm.readied env h m.proc with heap := heap, next := n, calls := cs } := by
      refine ⟨rfl, hn, rfl, subset_rfl, ?_⟩
      rcases hcs with rfl | ⟨ok, rfl⟩ <;> rfl
    exact ⟨hm.quiet (hready.trans hquiet), hl.of_quiet (hready.trans hquiet)⟩
  · exact ⟨MapperBackendGrallocGbm.setStandardMetadata_mapInv h type data hmaps.1,
      MapperBackendGrallocGbm.setStandardMetadata_logged h type data hq hmaps.2⟩

end

/-! ## Every call keeps it -/

/-- A lock writes an address into a record only when it has been mapped. -/
theorem Mapper.lock_logged (env : Env) (h : NativeHandle) (cpuUsage : UInt64) {m : Mapper}
    (hm : MapState m.proc) : MapLogged (m.lock env (some h) cpuUsage).2.proc := by
  have hready := hm.logged.of_quiet (readied_quiet env h m.proc)
  apply Mapper.lock_proc env h cpuUsage (fun _ => hm.logged) hready
  · rcases grallocGbmAndroidBufferLock_cases env h cpuUsage.toUInt32
        (hm.inv.readied env h).user_data with
      ⟨ret, hr, -⟩ | ⟨e, d, -, -, -, -, ⟨-, hr⟩ | ⟨-, -, transfer, hr | ⟨a, hr⟩⟩⟩ <;> rw [hr]
    · exact hready
    · exact hready
    · exact hready.of_log rfl (List.subset_cons_self _ _)
    · exact hready.of_log rfl (List.subset_cons_self _ _)
  · exact MapperBackendDmaBuf.lock_logged env h cpuUsage hready

/-- An unlock touches no record. -/
theorem Mapper.unlock_logged (env : Env) (h : NativeHandle) {m : Mapper} (hl : MapLogged m.proc) :
    MapLogged (m.unlock env (some h)).2.proc := by
  have hready := hl.of_quiet (readied_quiet env h m.proc)
  apply Mapper.unlock_proc env h hready
  · rcases grallocGbmAndroidBufferUnlock_cases h (readied env h m.proc) with
      hr | ⟨e, d, -, -, -, ⟨-, hr⟩ | ⟨-, hr⟩⟩ <;> rw [hr]
    · exact hready
    · exact hready.of_log rfl (List.subset_cons_self _ _)
    · exact hready
  · unfold MapperBackendDmaBuf.unlock
    dsimp only
    split
    · exact hready
    · exact hready.of_log rfl (List.subset_cons_self _ _)

/-- The calls on buffers, one by one. -/
theorem bufferStep_logged (cfg : BuildConfig) (env : Env) {m : Mapper} (op : BufferOp)
    (hm : MapState m.proc) : MapLogged (bufferStep cfg env m op).proc := by
  cases op with
  | importBuffer handle =>
    cases handle with
    | none => exact hm.logged
    | some h =>
      have hlog := Mapper.importBuffer_mapLog cfg env h m
      have hsub : ∀ call ∈ mapLog m.proc.calls,
          call ∈ mapLog (m.importBuffer cfg env (some h)).2.proc.calls :=
        fun call hcall => by rwa [hlog]
      by_cases h0 : h.numFds = 0
      · have hr : m.importBuffer cfg env (some h) = ((.badBuffer, none), m) := if_pos h0
        show MapLogged (m.importBuffer cfg env (some h)).2.proc
        rw [hr]
        exact hm.logged
      · refine hm.logged.of_step hsub fun r hr => ?_
        rcases Mapper.importBuffer_records cfg env h hm.inv h0 hm.maps.records with
          ⟨htable, -⟩ | ⟨-, c, -, -, -, htable⟩
        · exact .inl (htable ▸ hr)
        · rw [show (bufferStep cfg env m (.importBuffer (some h))).proc.importedBufferTable = _
            from htable] at hr
          rcases List.mem_cons.mp hr with rfl | hr
          · exact .inr rfl
          · exact .inl hr
  | freeBuffer buffer =>
    cases buffer with
    | none => exact hm.logged
    | some h =>
      have hlog := Mapper.freeBuffer_mapLog env h m
      exact hm.logged.of_step (fun call hcall => by rwa [← hlog] at hcall)
        fun r hr => .inl (Mapper.freeBuffer_records env h m r hr)
  | lock buffer cpuUsage =>
    cases buffer with
    | none => exact hm.logged
    | some h => exact Mapper.lock_logged env h cpuUsage hm
  | unlock buffer =>
    cases buffer with
    | none => exact hm.logged
    | some h => exact Mapper.unlock_logged env h hm.logged

/-- **The step lemma.** -/
theorem mapperStep_mapState (cfg : BuildConfig) (env : Env) {m : Mapper} (op : MapperOp)
    (hm : MapState m.proc) : MapState (mapperStep cfg env m op).proc := by
  have hinv := mapperStep_inv cfg env op hm.inv
  cases op with
  | buffer op =>
    exact ⟨hinv, bufferStep_mapInv cfg env op hm.inv hm.maps, bufferStep_logged cfg env op hm⟩
  | getStandardMetadata buffer type =>
    cases buffer with
    | none => exact hm
    | some h =>
      have hq := Mapper.getStandardMetadata_quiet env h type hm.inv
      exact ⟨hinv, hm.maps.quiet hq, hm.logged.of_quiet hq⟩
  | setStandardMetadata buffer type metadata =>
    cases buffer with
    | none => exact hm
    | some h =>
      have hset := Mapper.setStandardMetadata_maps env h type metadata hm.inv hm.maps hm.logged
      exact ⟨hinv, hset.1, hset.2⟩

/-- What every state of a mapper satisfies, every run does. -/
theorem mapperRun_mapState (cfg : BuildConfig) (env : Env) (ops : List MapperOp) :
    MapState (mapperRun cfg env ops).proc :=
  Run.foldl_inv_all (fun m : Mapper => MapState m.proc)
    (fun _ op h => mapperStep_mapState cfg env op h) ops .start

/-! ## The address handed out

  The two backends differ: one maps whatever is locked, the other only for CPU access. -/

section

variable {env : Env} {h : NativeHandle} {cpuUsage : UInt64} {m : Mapper}

/-- A process in order is one whose buffers can be locked. -/
theorem ProcInv.lockable {p : Proc} (hp : ProcInv p) : Lockable p where
  next_pos := hp.next_pos
  bo_pos := fun bo hbo => (hp.bo_lt bo hbo).1
  ready := hp.ready

/-- The lock of a GBM buffer, with a driver that is ready, is that of the library. -/
theorem Mapper.lock_gbm (env : Env) (h0 : cpuUsage ≠ 0)
    (hgbm : routedTo (grallocHandle h) = .mapperGrallocGbm)
    (hready : isGrallocGbmReady m.proc = true) :
    m.lock env (some h) cpuUsage =
      let r := grallocGbmAndroidBufferLock env h cpuUsage.toUInt32 m.proc
      ((statusOfRet r.1, r.2.1), ⟨r.2.2, some .mapperGrallocGbm⟩) := by
  unfold Mapper.lock
  dsimp only
  rw [if_neg h0, Mapper.withBackend_gbm hgbm hready]

/-- No entry, no lock. -/
theorem Mapper.lock_unmanaged (hp : ProcInv m.proc)
    (hgbm : routedTo (grallocHandle h) = .mapperGrallocGbm)
    (hfind : findBufferK (grallocHandle h).primeFd m.proc.table = none) :
    (m.lock env (some h) cpuUsage).1.1 ≠ some .none := by
  by_cases h0 : cpuUsage = 0
  · have hlock : m.lock env (some h) cpuUsage = ((some .badValue, none), m) := if_pos h0
    rw [hlock]
    exact fun heq => by cases heq
  have hlock : m.lock env (some h) cpuUsage = m.withBackend env h (some .noResources, none) _ :=
    if_neg h0
  rw [hlock]
  cases hok : ((routedTo (grallocHandle h)).ensureReady env m.proc).1 with
  | false =>
    rw [Mapper.withBackend_failed hok]
    exact fun heq => by cases heq
  | true =>
    rw [Mapper.withBackend_ready hok]
    have htable : (readied env h m.proc).table = m.proc.table := (readied_frame env h m.proc 0).table
    have hdata := (hp.readied env h).user_data
    simp only [GrallocGbm.readied, hgbm] at htable hdata ⊢
    rcases grallocGbmAndroidBufferLock_cases env h cpuUsage.toUInt32 hdata with
      ⟨ret, hr, hret⟩ | ⟨e, d, -, he, -⟩
    · rw [hr]
      cases ret with
      | ok _ => exact absurd rfl hret
      | err rc => exact fun heq => by cases heq
      | crash => exact fun heq => by cases heq
    · rw [htable, hfind] at he
      cases he

end

/-- What a lock that fails leaves as it was. -/
structure NoTrace (env : Env) (h : NativeHandle) (cpuUsage : UInt64) (p : Proc) : Prop where
  /-- No mapping is made. -/
  mappings : mapLog (MapperBackendDmaBuf.lock env h cpuUsage p).2.2.calls = mapLog p.calls
  records : (MapperBackendDmaBuf.lock env h cpuUsage p).2.2.importedBufferTable
    = p.importedBufferTable
  /-- No access of the CPU is started, on any descriptor. -/
  syncs : ∀ fd, (MapperBackendDmaBuf.lock env h cpuUsage p).2.2.calls.filterMap (startOf fd)
    = p.calls.filterMap (startOf fd)
  /-- Nothing is written to `*outData`. -/
  unwritten : (MapperBackendDmaBuf.lock env h cpuUsage p).2.1 = none

/-- The lock of a framebuffer that is on record, not mapped yet, and can be mapped. -/
def MapsFramebuffer (env : Env) (h : NativeHandle) (cpuUsage : UInt64) (p : Proc) : Prop :=
  cpuUsage.toUInt32 &&& grallocUsageHwFb ≠ 0 ∧ env.mmap p.calls.length ≠ none ∧
    ∃ bi, findBufferInfo (grallocHandle h).primeFd p = some bi ∧ bi.mapped = none

/-- **What a refused lock leaves behind.**  Nothing, exactly if it is not the refusal of a
    framebuffer that had not been mapped: the test stands behind the mapping. -/
theorem dmaBufLock_noTrace_iff (env : Env) (h : NativeHandle) (cpuUsage : UInt64) (p : Proc) :
    ((MapperBackendDmaBuf.lock env h cpuUsage p).1 ≠ 0 → NoTrace env h cpuUsage p) ↔
      ¬ MapsFramebuffer env h cpuUsage p := by
  have hsame : ∀ {rc calls},
      MapperBackendDmaBuf.lock env h cpuUsage p = (rc, none, { p with calls := calls }) →
      mapLog calls = mapLog p.calls →
      (∀ fd, calls.filterMap (startOf fd) = p.calls.filterMap (startOf fd)) →
        NoTrace env h cpuUsage p := by
    intro rc calls hr hmaps hsyncs
    constructor
    case mappings => rwa [hr]
    case records => rw [hr]
    case syncs => rwa [hr]
    case unwritten => rw [hr]
  rcases MapperBackendDmaBuf.lock_cases env h cpuUsage p with
    ⟨hfind, hr⟩ | ⟨bi, hfind, ⟨⟨-, hmmap⟩, hr⟩ | ⟨a, q, hq, ⟨hfb, hr⟩ | ⟨hfb, hr⟩⟩⟩
  · -- not on record
    refine iff_of_true (fun _ => hsame hr rfl fun _ => rfl) ?_
    rintro ⟨-, -, bi, hbi, -⟩
    rw [hfind] at hbi
    cases hbi
  · -- no memory
    exact iff_of_true (fun _ => hsame hr rfl fun _ => rfl) fun hbad => hbad.2.1 hmmap
  · rcases hq with ⟨hmapped, rfl⟩ | ⟨⟨hmapped, hmmap⟩, rfl⟩
    · -- mapped before
      refine iff_of_true (fun _ => hsame hr rfl fun _ => rfl) ?_
      rintro ⟨-, -, bi', hbi', hnone⟩
      rw [hfind] at hbi'
      cases hbi'
      rw [hmapped] at hnone
      cases hnone
    · have hbad : MapsFramebuffer env h cpuUsage p :=
        ⟨hfb, by rw [hmmap]; exact nofun, bi, hfind, hmapped⟩
      refine iff_of_false (fun htrace => ?_) fun hno => hno hbad
      have hne : (MapperBackendDmaBuf.lock env h cpuUsage p).1 ≠ 0 := by
        rw [hr]
        show -eINVAL ≠ 0
        decide
      have hmaps := (htrace hne).mappings
      rw [hr] at hmaps
      have hcons : ExtCall.mmap bi.primeFd (some a) :: mapLog p.calls = mapLog p.calls := hmaps
      exact List.cons_ne_self _ _ hcons
  · refine iff_of_true (fun hne => ?_) fun hbad => hbad.1 hfb
    rw [hr] at hne
    exact absurd rfl hne

/-- The first lock of a DMA-BUF buffer is refused as a framebuffer's, and leaves it mapped. -/
theorem framebuffer_lock_maps :
    let p := (mapperRun .androidBp .plain [.buffer (.importBuffer (some (blobHandle 5)))]).proc
    let r := MapperBackendDmaBuf.lock .plain blobClone 0x1000 p
    r.1 = -eINVAL ∧ (findBufferInfo (grallocHandle blobClone).primeFd p).map DmaBufferInfo.mapped
        = some none ∧
      ((findBufferInfo (grallocHandle blobClone).primeFd r.2.2).bind
        DmaBufferInfo.mapped).isSome = true ∧
      ¬ NoTrace .plain blobClone 0x1000 p := by
  refine ⟨rfl, rfl, rfl, fun htrace => ?_⟩
  have hmaps := congrArg List.length htrace.mappings
  revert hmaps
  decide

end GrallocGbm
