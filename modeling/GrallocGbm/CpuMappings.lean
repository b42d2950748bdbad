/-
  CPU mappings and the buffers they belong to.

  A lock maps its buffer, with `gbm_bo_map` on the GBM backend and with `mmap` on the DMA-BUF one.
  The GBM backend's unlock undoes the mapping; the DMA-BUF backend keeps it in the record, and
  nothing in the sources ever undoes it.  Neither backend's free looks whether its buffer is still
  mapped.  So no mapping is undone twice, but one outlives its buffer whenever a buffer is freed
  that is mapped: a GBM buffer still locked for the CPU, a DMA-BUF buffer that was ever locked.
  `bufferRun_mappings_iff` says that this is all that can go wrong.

  1. **What is asked** — `MappingsOk`, of one call in the state it is made in: it undoes no mapping
     twice, a free that succeeds leaves none of its buffer, and a lock of a handle that was freed
     and not handed out again makes none.  The last is about what comes after the free, so a run
     carries the slots that have been freed with it (`FreedRun`); a slot is the backend and the key
     there.

  2. **What is known** — `MapInv`: the log of calls agrees with the objects and the records.  An
     object has as many mappings on record as its user data say, which is `LockOk`; a record is
     mapped exactly if its descriptor was ever mapped, and that once.

  3. **The answer** — a free leaves no mapping exactly if its buffer was not mapped
     (`freeBuffer_unmapped_iff`), undoing twice does not happen, and a freed slot stays empty until
     an import fills it (`freedStep_inv`), so that a lock of it finds nothing to map.

  The runs are those whose frees of DMA-BUF records keep their keys (`BufferOp.KeepsKey`).  After a
  free that does not, the record is still in the table, and a lock of the freed handle reads the
  released block: it may find an address there, or map once more.
-/
import GrallocGbm.Library
import GrallocGbm.RecordRelease

namespace GrallocGbm

/-! ## The mappings in the log

  Nothing in the code counts its mappings.  They are counted in the record of calls: of an object
  the mappings less the unmappings, of a descriptor the `mmap`s. -/

/-- Is this a mapping made or undone? -/
def isMapping : ExtCall → Bool
  | .boMap _ _ (some _) => true
  | .boUnmap _ => true
  | .mmap _ (some _) => true
  | _ => false

/-- The calls that make or undo a mapping, newest first. -/
def mapLog (calls : List ExtCall) : List ExtCall := calls.filter isMapping

/-- Is this a successful `mmap` of `fd`? -/
def isMmapOf (fd : Int) : ExtCall → Bool
  | .mmap fd' (some _) => fd' = fd
  | _ => false

/-- The mappings of `fd`; there is no `munmap` to subtract. -/
def mmaps (fd : Int) (calls : List ExtCall) : Nat := calls.countP (isMmapOf fd)

/-- The balance of an object is in these calls, -/
theorem netMaps_mapLog (bo : Nat) (calls : List ExtCall) :
    netMaps bo (mapLog calls) = netMaps bo calls := by
  induction calls with
  | nil => rfl
  | cons call calls ih =>
    rw [netMaps_cons, ← ih, mapLog, List.filter_cons]
    by_cases h : isMapping call = true
    · rw [if_pos h, netMaps_cons]
      rfl
    · have h0 : mapDelta bo call = 0 := by
        unfold isMapping at h
        unfold mapDelta
        split at h <;> simp_all
      rw [if_neg h, h0, zero_add]
      rfl

/-- and so are the mappings of a descriptor. -/
theorem mmaps_mapLog (fd : Int) (calls : List ExtCall) : mmaps fd (mapLog calls) = mmaps fd calls := by
  rw [mmaps, mmaps, mapLog, List.countP_filter]
  apply List.countP_congr
  intro call _
  cases call with
  | mmap fd' addr => cases addr <;> simp [isMmapOf, isMapping]
  | _ => simp [isMmapOf]

/-- A mapping counts for its own descriptor. -/
theorem mmaps_cons_mmap (fd fd' : Int) (a : Nat) (calls : List ExtCall) :
    mmaps fd (.mmap fd' (some a) :: calls) = mmaps fd calls + if fd' = fd then 1 else 0 := by
  simp [mmaps, List.countP_cons, isMmapOf]

/-! ## Calls that map nothing

  Everything that an import does before it comes to its backend, and what getting a backend
  ready does. -/

/-- Initialisation maps nothing. -/
theorem grallocGbmInit_mapLog (env : Env) (p : Proc) :
    mapLog (grallocGbmInit env p).2.calls = mapLog p.calls := by
  unfold grallocGbmInit callocChecked openFd
  split
  · rfl
  cases env.alloc p.calls.length with
  | false => rfl
  | true =>
    simp only [if_true]
    cases env.newFd (ExtCall.alloc true :: p.calls).length p.fds with
    | none => rfl
    | some fd =>
      dsimp only
      split <;> rfl

/-- Nor does readying a backend, -/
theorem ensureReady_mapLog (env : Env) (backend : MapperBackendType) (p : Proc) :
    mapLog (backend.ensureReady env p).2.calls = mapLog p.calls := by
  cases backend with
  | mapperGrallocGbm =>
    simp only [MapperBackendType.ensureReady, MapperBackendType.isReady, MapperBackendType.init]
    cases isGrallocGbmReady p with
    | true => rfl
    | false => exact grallocGbmInit_mapLog env p
  | mapperGrallocDmabuf =>
    obtain ⟨da, cs, hready, hcs⟩ := ensureReady_dmabuf env p
    rw [hready]
    show mapLog (cs ++ p.calls) = mapLog p.calls
    have hnone : mapLog cs = [] := by
      rw [mapLog, List.filter_eq_nil_iff]
      intro call hcall
      obtain ⟨empty, rfl⟩ := hcs call hcall
      exact Bool.false_ne_true
    rw [mapLog, List.filter_append]
    exact congrArg (· ++ mapLog p.calls) hnone

/-- duplicating descriptors, -/
theorem dupAll_mapLog (env : Env) (l : List Int) (p : Proc) :
    mapLog (dupAll env l p).2.calls = mapLog p.calls := by
  induction l generalizing p with
  | nil => rfl
  | cons fd l ih =>
    unfold dupAll
    rcases dupFd_cases env fd p with hdup | ⟨d, -, -, hdup⟩
    · rw [hdup]
      rfl
    · have hrest := ih { p with fds := insert d p.fds, calls := .dup fd (some d) :: p.calls }
      rw [hdup]
      dsimp only
      split <;> rename_i heq <;> rw [heq] at hrest <;> exact hrest

/-- cloning a handle, -/
theorem nativeHandleClone_mapLog (env : Env) (h : NativeHandle) (p : Proc) :
    mapLog (nativeHandleClone env h p).2.calls = mapLog p.calls := by
  unfold nativeHandleClone nativeHandleCreate callocChecked
  split_ifs with hbad
  · rfl
  cases env.alloc p.calls.length with
  | false => rfl
  | true =>
    simp only [if_true]
    have hdup := dupAll_mapLog env h.fds { p with
      next := p.next + 1
      calls := .alloc true :: p.calls
      handles := insert p.next p.handles }
    split <;> rename_i heq <;> rw [heq] at hdup <;> exact hdup

/-- importing the clone, -/
theorem importClone_mapLog (cfg : BuildConfig) (env : Env) (h : NativeHandle)
    (backend : MapperBackendType) (p : Proc) :
    mapLog (importClone cfg env h backend p).2.calls = mapLog p.calls := by
  have hclone := nativeHandleClone_mapLog env h p
  unfold importClone
  cases hc : nativeHandleClone env h p with
  | mk c p1 =>
    rw [hc] at hclone
    cases c with
    | none => exact hclone
    | some c =>
      cases backend with
      | mapperGrallocDmabuf =>
        obtain ⟨t, hi⟩ := MapperBackendDmaBuf.importBuffer_spec c p1
        simp only [hi, ne_eq, not_true_eq_false, if_false]
        exact hclone
      | mapperGrallocGbm =>
        rcases grallocGbmAndroidBufferImport_cases cfg env c p1 with
          ⟨-, hi⟩ | ⟨-, -, hi⟩ | ⟨-, -, -, hi⟩ | ⟨layout, -, -, -, hi⟩
        all_goals
          simp only [hi]
          split <;> exact hclone

/-- and so importing a handle. -/
theorem Mapper.importBuffer_mapLog (cfg : BuildConfig) (env : Env) (h : NativeHandle) (m : Mapper) :
    mapLog (m.importBuffer cfg env (some h)).2.proc.calls = mapLog m.proc.calls := by
  by_cases h0 : h.numFds = 0
  · have hr : m.importBuffer cfg env (some h) = ((.badBuffer, none), m) := if_pos h0
    rw [hr]
  · have hr : m.importBuffer cfg env (some h)
        = m.withBackend env h (.noResources, none) (importClone cfg env h) := if_neg h0
    have hready := ensureReady_mapLog env (routedTo (grallocHandle h)) m.proc
    rw [hr]
    exact Mapper.withBackend_proc (Q := fun q => mapLog q.calls = mapLog m.proc.calls) hready
      ((importClone_mapLog cfg env h _ _).trans hready)

/-! ## The invariant

  The balance of an object is what its user data say, and an object or a descriptor that has not
  been heard of has none. -/

/-- What is known of the mappings in every state. -/
structure MapInv (p : Proc) : Prop where
  lib : LibInv p
  /-- No object is ever unmapped more often than mapped, nor mapped twice at once. -/
  once : ∀ bo, netMaps bo p.calls = 0 ∨ netMaps bo p.calls = 1
  records : RecordsOpen p
  /-- A record knows whether its descriptor is mapped. -/
  mapped_iff : ∀ r ∈ p.importedBufferTable, r.mapped = none ↔ mmaps r.primeFd p.calls = 0
  mmap_open : ∀ fd, fd ∉ p.fds → mmaps fd p.calls = 0

/-- Nothing is mapped. -/
theorem MapInv.start : MapInv Proc.start where
  lib := .start
  once := fun _ => .inl rfl
  records := fun _ h => absurd h List.not_mem_nil
  mapped_iff := fun _ h => absurd h List.not_mem_nil
  mmap_open := fun _ _ => rfl

section

variable {p p' : Proc}

/-- A step of the GBM backend: the records stay, and the mappings of an object only change if it is
    alive afterwards. -/
theorem MapInv.of_lib (h : MapInv p) (hlib : LibInv p')
    (hmaps : ∀ bo, netMaps bo p'.calls = netMaps bo p.calls ∨
      ∃ d, gbmBoGetUserData bo p' = some d)
    (htable : p'.importedBufferTable = p.importedBufferTable) (hfds : p.fds ⊆ p'.fds)
    (hmmaps : ∀ fd, mmaps fd p'.calls = mmaps fd p.calls) : MapInv p' where
  lib := hlib
  once := by
    intro bo
    rcases hmaps bo with heq | ⟨d, hd⟩
    · rw [heq]
      exact h.once bo
    · rw [(hlib.lock_ok bo d hd).balance]
      split
      · exact .inr rfl
      · exact .inl rfl
  records := h.records.of_same htable hfds
  mapped_iff := by
    intro r hr
    rw [htable] at hr
    rw [hmmaps]
    exact h.mapped_iff r hr
  mmap_open := by
    intro fd hfd
    rw [hmmaps]
    exact h.mmap_open fd fun hmem => hfd (hfds hmem)

/-- A step that neither maps nor unmaps anything. -/
theorem MapInv.of_quiet (h : MapInv p) (hlib : LibInv p')
    (htable : p'.importedBufferTable = p.importedBufferTable) (hfds : p.fds ⊆ p'.fds)
    (hlog : mapLog p'.calls = mapLog p.calls) : MapInv p' := by
  apply h.of_lib hlib _ htable hfds
  · intro fd
    rw [← mmaps_mapLog, hlog, mmaps_mapLog]
  · intro bo
    left
    rw [← netMaps_mapLog, hlog, netMaps_mapLog]

/-- The objects and their mappings are what they were. -/
theorem LibInv.of_quiet (h : LibInv p) (hbos : p'.bos = p.bos) (hnext : p.next ≤ p'.next)
    (hlog : mapLog p'.calls = mapLog p.calls) : LibInv p' := by
  apply h.of_same hbos hnext
  intro bo
  rw [← netMaps_mapLog, hlog, netMaps_mapLog]

/-- A step that rewrites the user data of one object, and may map or unmap that object. -/
theorem MapInv.of_modified (h : MapInv p) {a : Nat} {d : GbmBoData} {f : GbmBoData → GbmBoData}
    {calls : List ExtCall} (hd : gbmBoGetUserData a p = some d)
    (hlib : LibInv (modifyBoData a f { p with calls := calls }))
    (hmaps : ∀ bo, bo ≠ a → netMaps bo calls = netMaps bo p.calls)
    (hmmaps : ∀ fd, mmaps fd calls = mmaps fd p.calls) :
    MapInv (modifyBoData a f { p with calls := calls }) := by
  refine h.of_lib hlib (fun bo => ?_) rfl subset_rfl hmmaps
  by_cases hbo : bo = a
  · right
    have hd' : gbmBoGetUserData a { p with calls := calls } = some d := hd
    rw [gbmBoGetUserData_modify, if_pos hbo, hd']
    exact ⟨f d, rfl⟩
  · exact .inl (hmaps bo hbo)

/-- A step of the DMA-BUF backend. -/
theorem MapInv.of_records (h : MapInv p) (hlib : LibInv p')
    (hmaps : ∀ bo, netMaps bo p'.calls = netMaps bo p.calls) (hrecords : RecordsOpen p')
    (hmapped : ∀ r ∈ p'.importedBufferTable, r.mapped = none ↔ mmaps r.primeFd p'.calls = 0)
    (hmmap : ∀ fd, fd ∉ p'.fds → mmaps fd p'.calls = 0) : MapInv p' where
  lib := hlib
  once := by
    intro bo
    rw [hmaps]
    exact h.once bo
  records := hrecords
  mapped_iff := hmapped
  mmap_open := hmmap

/-- Readying a backend keeps it. -/
theorem MapInv.readied (h : MapInv p) (env : Env) (handle : NativeHandle) :
    MapInv (readied env handle p) := by
  have hlog := ensureReady_mapLog env (routedTo (grallocHandle handle)) p
  have hfds := (readied_frame env handle p 0).fds_sub
  have htable := readied_records env handle p
  obtain ⟨g, fds, da, n, cs, heq, hn, -⟩ := ensureReady_spec env (routedTo (grallocHandle handle)) p
  refine h.of_quiet (h.lib.of_quiet ?_ ?_ hlog) htable hfds hlog
  · rw [GrallocGbm.readied, heq]
  · rw [GrallocGbm.readied, heq]
    exact hn

/-! ## Every call keeps it -/

/-- A lock maps at most the object of its handle, which is alive. -/
theorem grallocGbmAndroidBufferLock_mapInv (env : Env) (handle : NativeHandle) (usage : UInt32)
    (h : MapInv p) : MapInv (grallocGbmAndroidBufferLock env handle usage p).2.2 := by
  have hlib := grallocGbmAndroidBufferLock_libInv env handle usage h.lib
  rcases grallocGbmAndroidBufferLock_cases env handle usage h.lib.user_data with
    ⟨ret, hr, -⟩ | ⟨buffer, d, -, -, hd, -, ⟨-, hr⟩ | ⟨-, -, transfer, hr | ⟨a, hr⟩⟩⟩ <;>
    rw [hr] at hlib ⊢
  · exact h
  · exact h.of_modified hd hlib (fun _ _ => rfl) fun _ => rfl
  · exact h.of_lib hlib (fun bo => .inl (by simp [mapDelta])) rfl subset_rfl fun _ => rfl
  · refine h.of_modified hd hlib (fun bo hne => ?_) fun _ => rfl
    simp [mapDelta, hne.symm]

/-- An unlock unmaps at most that object. -/
theorem grallocGbmAndroidBufferUnlock_mapInv (handle : NativeHandle) (h : MapInv p) :
    MapInv (grallocGbmAndroidBufferUnlock handle p).2 := by
  have hlib := grallocGbmAndroidBufferUnlock_libInv handle h.lib
  rcases grallocGbmAndroidBufferUnlock_cases handle p with
    hr | ⟨buffer, d, -, hd, -, ⟨-, hr⟩ | ⟨-, hr⟩⟩ <;> rw [hr] at hlib ⊢
  · exact h
  · refine h.of_modified hd hlib (fun bo hne => ?_) fun _ => rfl
    simp [mapDelta, hne.symm]
  · exact h.of_modified hd hlib (fun _ _ => rfl) fun _ => rfl

/-- A free maps and unmaps nothing, and the mappings of the object that goes stay on record. -/
theorem grallocGbmAndroidBufferFree_mapInv (handle : NativeHandle) (h : MapInv p) :
    MapInv (grallocGbmAndroidBufferFree handle p).2 := by
  have hlib := grallocGbmAndroidBufferFree_libInv handle h.lib
  rcases grallocGbmAndroidBufferFree_cases handle p with
    ⟨-, hr⟩ | ⟨-, -, hr⟩ | ⟨buffer, -, -, -, hr⟩ | ⟨buffer, b, -, -, -, hr⟩ <;> rw [hr] at hlib ⊢
  · exact h
  · exact h
  · exact h
  · obtain ⟨heap, hd⟩ := gbmBoDestroy_eq buffer.bo b p
    rw [hd] at hlib ⊢
    exact h.of_quiet hlib rfl subset_rfl rfl

/-- The first lock maps the record, and it is the only one that does. -/
theorem MapperBackendDmaBuf.lock_mapInv (env : Env) (handle : NativeHandle) (cpuUsage : UInt64)
    (h : MapInv p) : MapInv (MapperBackendDmaBuf.lock env handle cpuUsage p).2.2 := by
  have hlog : ∀ {q cs}, MapInv q → mapLog cs = mapLog q.calls → MapInv { q with calls := cs } :=
    fun hq hcs => hq.of_quiet (hq.lib.of_quiet rfl (le_refl _) hcs) rfl subset_rfl hcs
  rcases MapperBackendDmaBuf.lock_cases env handle cpuUsage p with
    ⟨-, hr⟩ | ⟨bi, hfind, ⟨-, hr⟩ | ⟨a, q, hq, hr⟩⟩
  · rw [hr]
    exact h
  · rw [hr]
    exact hlog h rfl
  · have hinv : MapInv q := by
      rcases hq with ⟨-, rfl⟩ | ⟨⟨hnone, -⟩, rfl⟩
      · exact h
      have hbi := Keyed.mem_of_lookup hfind
      have hzero := (h.mapped_iff bi hbi).mp hnone
      have hmaps : ∀ bo, netMaps bo (.mmap bi.primeFd (some a) :: p.calls) = netMaps bo p.calls :=
        fun bo => by simp [mapDelta]
      refine h.of_records (h.lib.of_same rfl (le_refl _) hmaps) hmaps ?hrecords ?hmapped ?hmmap
      case hrecords =>
        intro r' hr'
        obtain ⟨r, hmem, rfl⟩ := List.mem_map.mp hr'
        split
        · exact h.records r hmem
        · exact h.records r hmem
      case hmapped =>
        intro r' hr'
        obtain ⟨r, hmem, rfl⟩ := List.mem_map.mp hr'
        rw [mmaps_cons_mmap]
        by_cases hkey : r.primeFd = bi.primeFd
        · simp [hkey]
        · rw [if_neg hkey, if_neg (fun heq => hkey heq.symm), Nat.add_zero]
          exact h.mapped_iff r hmem
      case hmmap =>
        intro fd hfd
        have hne : bi.primeFd ≠ fd := fun heq => hfd (heq ▸ h.records bi hbi)
        rw [mmaps_cons_mmap, if_neg hne, Nat.add_zero]
        exact h.mmap_open fd hfd
    rcases hr with ⟨-, hr⟩ | ⟨-, hr⟩ <;> rw [hr]
    · exact hinv
    · exact hlog hinv rfl

/-- An unlock of the other backend does nothing. -/
theorem MapperBackendDmaBuf.unlock_mapInv (handle : NativeHandle) (h : MapInv p) :
    MapInv (MapperBackendDmaBuf.unlock handle p).2 := by
  unfold MapperBackendDmaBuf.unlock
  dsimp only
  split
  · exact h
  · exact h.of_quiet (h.lib.of_quiet rfl (le_refl _) rfl) rfl subset_rfl rfl

/-- Its free takes records away, and a mapping of a descriptor stays on record. -/
theorem MapperBackendDmaBuf.freeBuffer_mapInv (env : Env) (handle : NativeHandle) (h : MapInv p) :
    MapInv (MapperBackendDmaBuf.freeBuffer env handle p).2 := by
  rcases MapperBackendDmaBuf.freeBuffer_cases env handle p with ⟨-, hr⟩ | ⟨bi, -, hr⟩ <;> rw [hr]
  · exact h
  · have hsub : ∀ r ∈ Keyed.remove DmaBufferInfo.primeFd (env.memory bi.addr 0)
        p.importedBufferTable, r ∈ p.importedBufferTable :=
      fun r hr => (Keyed.mem_remove.mp hr).1
    exact h.of_records (h.lib.of_same rfl (le_refl _) fun _ => rfl) (fun _ => rfl)
      (fun r hr => h.records r (hsub r hr))
      (fun r hr => h.mapped_iff r (hsub r hr)) h.mmap_open

/-- An import makes one object, which is not mapped. -/
theorem LibInv.of_imported (h : LibInv p) {cfg : BuildConfig} {c : NativeHandle}
    {backend : MapperBackendType} (hi : Imported cfg p c backend p')
    (hlog : mapLog p'.calls = mapLog p.calls) : LibInv p' := by
  cases hi with
  | dmabuf t cs => exact h.of_quiet rfl (Nat.le_add_right _ _) hlog
  | gbm layout heap cs =>
    refine h.of_made (a := p.next + 2) (m := p.next + 3) rfl rfl (by omega)
      (by show p.next + 2 < p.next + 7; omega) fun bo => ?_
    rw [← netMaps_mapLog, hlog, netMaps_mapLog]

/-- An import adds an object that is not mapped, or a record whose descriptor is new. -/
theorem importBuffer_mapInv (cfg : BuildConfig) (env : Env) (handle : NativeHandle) {m : Mapper}
    (hp : ProcInv m.proc) (h : MapInv m.proc) :
    MapInv (m.importBuffer cfg env (some handle)).2.proc := by
  by_cases h0 : handle.numFds = 0
  · have hr : m.importBuffer cfg env (some handle) = ((.badBuffer, none), m) := if_pos h0
    rw [hr]
    exact h
  have hlog := Mapper.importBuffer_mapLog cfg env handle m
  have hfds := Mapper.importBuffer_fds cfg env handle hp
  have hlib : LibInv (m.importBuffer cfg env (some handle)).2.proc := by
    have hready := (h.readied env handle).lib
    have hlog' : mapLog (m.importBuffer cfg env (some handle)).2.proc.calls
        = mapLog (readied env handle m.proc).calls :=
      hlog.trans (ensureReady_mapLog env (routedTo (grallocHandle handle)) m.proc).symm
    rcases Mapper.importBuffer_cases cfg env handle hp with
      ⟨h0', -⟩ | ⟨-, -, -, n, cs, hn, hr⟩ | ⟨-, -, c, -, -, hi⟩
    · exact absurd h0' h0
    · rw [hr] at hlog' ⊢
      exact hready.of_quiet rfl hn hlog'
    · exact hready.of_imported hi hlog'
  have hmmaps : ∀ fd, mmaps fd (m.importBuffer cfg env (some handle)).2.proc.calls
      = mmaps fd m.proc.calls := by
    intro fd
    rw [← mmaps_mapLog, hlog, mmaps_mapLog]
  rcases Mapper.importBuffer_records cfg env handle hp h0 h.records with
    ⟨htable, -⟩ | ⟨-, c, -, hnew, -, htable⟩
  · exact h.of_quiet hlib htable hfds hlog
  · have hclosed : c.data 0 ∉ m.proc.fds :=
      fun hmem => hnew ((readied_frame env handle m.proc 0).fds_sub hmem)
    have hmaps : ∀ bo, netMaps bo (m.importBuffer cfg env (some handle)).2.proc.calls
        = netMaps bo m.proc.calls := by
      intro bo
      rw [← netMaps_mapLog, hlog, netMaps_mapLog]
    refine h.of_records hlib hmaps
      (mapperStep_recordsOpen cfg env (.buffer (.importBuffer (some handle))) hp h.records) ?_ ?_
    · intro r hr
      rw [htable] at hr
      rw [hmmaps]
      rcases List.mem_cons.mp hr with rfl | hr
      · exact iff_of_true rfl (h.mmap_open _ hclosed)
      · exact h.mapped_iff r hr
    · intro fd hfd
      rw [hmmaps]
      exact h.mmap_open fd fun hmem => hfd (hfds hmem)

/-- Each call keeps it; one case for each. -/
theorem bufferStep_mapInv (cfg : BuildConfig) (env : Env) {m : Mapper} (op : BufferOp)
    (hp : ProcInv m.proc) (h : MapInv m.proc) : MapInv (bufferStep cfg env m op).proc := by
  cases op with
  | importBuffer handle =>
    cases handle with
    | none => exact h
    | some handle => exact importBuffer_mapInv cfg env handle hp h
  | freeBuffer buffer =>
    cases buffer with
    | none => exact h
    | some handle =>
      refine Mapper.withBackend_proc (Q := MapInv) (h.readied env handle) ?_
      cases routedTo (grallocHandle handle) with
      | mapperGrallocGbm => exact grallocGbmAndroidBufferFree_mapInv handle (h.readied env handle)
      | mapperGrallocDmabuf =>
        exact MapperBackendDmaBuf.freeBuffer_mapInv env handle (h.readied env handle)
  | lock buffer cpuUsage =>
    cases buffer with
    | none => exact h
    | some handle =>
      have hready := h.readied env handle
      exact Mapper.lock_proc env handle cpuUsage (fun _ => h) hready
        (grallocGbmAndroidBufferLock_mapInv env handle _ hready)
        (MapperBackendDmaBuf.lock_mapInv env handle _ hready)
  | unlock buffer =>
    cases buffer with
    | none => exact h
    | some handle =>
      have hready := h.readied env handle
      exact Mapper.unlock_proc env handle hready
        (grallocGbmAndroidBufferUnlock_mapInv handle hready)
        (MapperBackendDmaBuf.unlock_mapInv handle hready)

end

/-! ## Freeing

  What a client can see of a buffer is its handle, and of a handle its slot: the backend and the
  key.  A run keeps the slots of the handles that it has freed.  `MappingsOk` asks of a call that
  it undo no mapping twice, that a free leave none, and that a slot that has been freed stay
  without one, whatever is called later. -/

/-- The mappings of the buffer that `handle` names in `p` which the log says are still there. -/
def mappingsOf (handle : NativeHandle) (p : Proc) (calls : List ExtCall) : Int :=
  let fd := (grallocHandle handle).primeFd
  match routedTo (grallocHandle handle) with
  | .mapperGrallocGbm =>
    match findBufferK fd p.table with
    | none => 0
    | some e => netMaps e.bo calls
  | .mapperGrallocDmabuf => mmaps fd calls

/-- Where the buffer of a handle is kept: the backend, and the key there. -/
def slotOf (handle : NativeHandle) : MapperBackendType × Int :=
  (routedTo (grallocHandle handle), (grallocHandle handle).primeFd)

/-- A mapper, and the slots of the handles that have been freed and not handed out again. -/
structure FreedRun where
  mapper : Mapper
  freed : List (MapperBackendType × Int)

/-- A mapper just loaded, and nothing freed. -/
def FreedRun.start : FreedRun := ⟨Mapper.start, []⟩

/-- One call.  A free that succeeds adds the slot of its handle; an import takes out the slots that
    the clone's descriptor may fill. -/
def freedStep (cfg : BuildConfig) (env : Env) (s : FreedRun) : BufferOp → FreedRun
  | .importBuffer handle =>
    let (r, m) := s.mapper.importBuffer cfg env handle
    ⟨m, s.freed.filter fun slot => ∀ c ∈ r.2, slot.2 ≠ (grallocHandle c).primeFd⟩
  | .freeBuffer (some handle) =>
    let (r, m) := s.mapper.freeBuffer env (some handle)
    ⟨m, if r = some .none then slotOf handle :: s.freed else s.freed⟩
  | op => ⟨bufferStep cfg env s.mapper op, s.freed⟩

/-- What a call must do to the mappings: undo none twice, leave none of a buffer that it frees, and
    make none of a buffer that has been freed. -/
structure MappingsOk (cfg : BuildConfig) (env : Env) (s : FreedRun) (op : BufferOp) : Prop where
  once : ∀ bo, let n := netMaps bo (bufferStep cfg env s.mapper op).proc.calls
    n = 0 ∨ n = 1
  freed : ∀ handle, op = .freeBuffer (some handle) →
    (s.mapper.freeBuffer env (some handle)).1 = some .none →
      mappingsOf handle s.mapper.proc (bufferStep cfg env s.mapper op).proc.calls = 0
  later : ∀ handle cpuUsage, op = .lock (some handle) cpuUsage → slotOf handle ∈ s.freed →
    mapLog (bufferStep cfg env s.mapper op).proc.calls = mapLog s.mapper.proc.calls

/-- Is the buffer that `handle` names mapped, as its object or its record has it? -/
def StillMapped (handle : NativeHandle) (p : Proc) : Prop :=
  let fd := (grallocHandle handle).primeFd
  match routedTo (grallocHandle handle) with
  | .mapperGrallocGbm => ∃ e d, findBufferK fd p.table = some e ∧
      gbmBoGetUserData e.bo p = some d ∧ d.mapData ≠ none
  | .mapperGrallocDmabuf => ∃ r, findBufferInfo fd p = some r ∧ r.mapped ≠ none

instance (handle : NativeHandle) (p : Proc) : Decidable (StillMapped handle p) :=
  let fd := (grallocHandle handle).primeFd
  decidable_of_iff ((match routedTo (grallocHandle handle) with
      | .mapperGrallocGbm => (findBufferK fd p.table).bind fun e =>
          (gbmBoGetUserData e.bo p).bind GbmBoData.mapData
      | .mapperGrallocDmabuf => (findBufferInfo fd p).bind DmaBufferInfo.mapped) ≠ none) <| by
    unfold StillMapped
    cases routedTo (grallocHandle handle) <;> simp [Option.bind_eq_none_iff, fd]

section

variable {cfg : BuildConfig} {env : Env} {m : Mapper}

/-- A free undoes no mapping, on either backend. -/
theorem Mapper.freeBuffer_mapLog (env : Env) (handle : NativeHandle) (m : Mapper) :
    mapLog (m.freeBuffer env (some handle)).2.proc.calls = mapLog m.proc.calls := by
  have hready : mapLog (readied env handle m.proc).calls = mapLog m.proc.calls :=
    ensureReady_mapLog env (routedTo (grallocHandle handle)) m.proc
  refine Mapper.withBackend_proc (Q := fun q => mapLog q.calls = mapLog m.proc.calls) hready ?_
  rw [← hready]
  cases routedTo (grallocHandle handle) with
  | mapperGrallocGbm =>
    rcases grallocGbmAndroidBufferFree_cases handle (readied env handle m.proc) with
      ⟨-, hr⟩ | ⟨-, -, hr⟩ | ⟨buffer, -, -, -, hr⟩ | ⟨buffer, b, -, -, -, hr⟩
    · simp only [hr]
    · simp only [hr]
    · simp only [hr]
    · obtain ⟨heap, hd⟩ := gbmBoDestroy_eq buffer.bo b (readied env handle m.proc)
      simp only [hr, hd]
      rfl
  | mapperGrallocDmabuf =>
    dsimp only
    rcases MapperBackendDmaBuf.freeBuffer_cases env handle (readied env handle m.proc) with
      ⟨-, hr⟩ | ⟨bi, -, hr⟩ <;> rw [hr]

/-- A free of a GBM buffer that is there succeeds. -/
theorem freeBuffer_found (env : Env) {handle : NativeHandle} {e : AndroidBuffer} (hp : ProcInv m.proc)
    (hgbm : routedTo (grallocHandle handle) = .mapperGrallocGbm)
    (hfind : findBufferK (grallocHandle handle).primeFd m.proc.table = some e) :
    (m.freeBuffer env (some handle)).1 = some .none := by
  have hready := hp.ready (List.ne_nil_of_mem (Keyed.mem_of_lookup hfind))
  rcases Mapper.freeBuffer_cases env handle hp with ⟨-, hnone⟩ | ⟨e', heap, cs, -, -, hok, -⟩
  · exact (hnone hgbm hready).1
  · exact hok

/-- A free on the DMA-BUF backend succeeds exactly if there is a record. -/
theorem freeBuffer_dmabuf {handle : NativeHandle}
    (hdma : routedTo (grallocHandle handle) = .mapperGrallocDmabuf) :
    (m.freeBuffer env (some handle)).1 = some .none ↔
      findBufferInfo (grallocHandle handle).primeFd m.proc ≠ none := by
  obtain ⟨da, cs, -, hw⟩ := Mapper.withBackend_dmabuf hdma
  unfold Mapper.freeBuffer
  dsimp only
  rw [hw]
  have hsame : findBufferInfo (grallocHandle handle).primeFd { m.proc with
      dmaAllocator := da, calls := cs ++ m.proc.calls }
      = findBufferInfo (grallocHandle handle).primeFd m.proc := rfl
  simp only [MapperBackendDmaBuf.freeBuffer, hsame]
  cases findBufferInfo (grallocHandle handle).primeFd m.proc with
  | none => simp [statusOf, eINVAL]
  | some r => simp [statusOf]

/-- A free leaves no mapping of its buffer exactly if the buffer was not mapped. -/
theorem freeBuffer_unmapped_iff (handle : NativeHandle) (hp : ProcInv m.proc) (h : MapInv m.proc) :
    ((m.freeBuffer env (some handle)).1 = some .none →
        mappingsOf handle m.proc (m.freeBuffer env (some handle)).2.proc.calls = 0) ↔
      ¬ StillMapped handle m.proc := by
  have hlog := Mapper.freeBuffer_mapLog env handle m
  cases hrouted : routedTo (grallocHandle handle) with
  | mapperGrallocGbm =>
    simp only [mappingsOf, StillMapped, hrouted]
    cases hfind : findBufferK (grallocHandle handle).primeFd m.proc.table with
    | none => simp
    | some e =>
      obtain ⟨-, b, d, hb, hd⟩ := hp.exists_object (Keyed.mem_of_lookup hfind)
      have hdata : gbmBoGetUserData e.bo m.proc = some d := by
        rw [gbmBoGetUserData, hb]
        exact hd
      have hbalance := (h.lib.lock_ok e.bo d hdata).balance
      rw [← netMaps_mapLog, ← hlog, netMaps_mapLog] at hbalance
      have hok := freeBuffer_found env hp hrouted hfind
      dsimp only
      rw [hbalance]
      cases hmap : d.mapData with
      | none => simp [hdata, hmap]
      | some a => simp [hok, hdata, hmap]
  | mapperGrallocDmabuf =>
    simp only [mappingsOf, StillMapped, hrouted]
    rw [freeBuffer_dmabuf hrouted, ← mmaps_mapLog, hlog, mmaps_mapLog]
    cases hfind : findBufferInfo (grallocHandle handle).primeFd m.proc with
    | none => simp
    | some r =>
      have hmapped := h.mapped_iff r (Keyed.mem_of_lookup hfind)
      rw [Keyed.key_of_lookup hfind] at hmapped
      simp [hmapped]

/-! ## Buffers that are gone

  The later calls are where the released record matters.  A free of the DMA-BUF backend that
  erases the key it finds in released memory, and finds another, leaves its own record in the
  table; where the key is kept, the slot is empty and nothing can be mapped there before the
  next import fills it. -/

/-- Is there a buffer at the slot? -/
def Filled (p : Proc) (slot : MapperBackendType × Int) : Prop :=
  match slot.1 with
  | .mapperGrallocGbm => ∃ e ∈ p.table, e.fd = slot.2
  | .mapperGrallocDmabuf => ∃ r ∈ p.importedBufferTable, r.primeFd = slot.2

/-- A call that adds no entry and no key fills no slot. -/
theorem Filled.mono {p p' : Proc} (htable : ∀ e ∈ p'.table, e ∈ p.table) (hkeys : KeysFrom p p')
    {slot : MapperBackendType × Int} (hf : Filled p' slot) : Filled p slot := by
  obtain ⟨backend, fd⟩ := slot
  cases backend with
  | mapperGrallocGbm =>
    obtain ⟨e, he, hfd⟩ := hf
    exact ⟨e, htable e he, hfd⟩
  | mapperGrallocDmabuf =>
    obtain ⟨r', hr', hfd⟩ := hf
    obtain ⟨r, hr, hkey⟩ := hkeys r' hr'
    exact ⟨r, hr, hkey.trans hfd⟩

/-- Only an import fills a slot. -/
theorem bufferStep_filled (op : BufferOp) (hp : ProcInv m.proc)
    (hop : ∀ h, op ≠ .importBuffer (some h)) {slot : MapperBackendType × Int}
    (hf : Filled (bufferStep cfg env m op).proc slot) : Filled m.proc slot := by
  have hno : ∀ h, MapperOp.buffer op ≠ .buffer (.importBuffer (some h)) :=
    fun h heq => hop h (MapperOp.buffer.inj heq)
  exact hf.mono (mapperStep_table cfg env (.buffer op) hp hno) (mapperStep_keys cfg env (.buffer op) hp hno)

/-- And it fills the slot of the clone that it hands out. -/
theorem importBuffer_filled (handle : Option NativeHandle) (hp : ProcInv m.proc)
    (hopen : RecordsOpen m.proc) {slot : MapperBackendType × Int}
    (hf : Filled (m.importBuffer cfg env handle).2.proc slot) :
    Filled m.proc slot ∨ ∃ c ∈ (m.importBuffer cfg env handle).1.2, slot.2 = (grallocHandle c).primeFd := by
  cases handle with
  | none => exact .inl hf
  | some h =>
    by_cases h0 : h.numFds = 0
    · have hr : m.importBuffer cfg env (some h) = ((.badBuffer, none), m) := if_pos h0
      rw [hr] at hf
      exact .inl hf
    obtain ⟨backend, fd⟩ := slot
    cases backend with
    | mapperGrallocDmabuf =>
      obtain ⟨r, hr, hfd⟩ := hf
      rcases Mapper.importBuffer_records cfg env h hp h0 hopen with
        ⟨hsame, -⟩ | ⟨-, c, hc, -, -, htable⟩
      · exact .inl ⟨r, hsame ▸ hr, hfd⟩
      · rw [htable] at hr
        rcases List.mem_cons.mp hr with rfl | hr
        · exact .inr ⟨c, hc, hfd.symm⟩
        · exact .inl ⟨r, hr, hfd⟩
    | mapperGrallocGbm =>
      obtain ⟨e, he, hfd⟩ := hf
      have htable := (readied_frame env h m.proc 0).table
      rcases Mapper.importBuffer_cases cfg env h hp with
        ⟨h0', -⟩ | ⟨-, -, -, n, cs, -, hproc⟩ | ⟨-, -, c, hr, -, hi⟩
      · exact absurd h0' h0
      · rw [hproc] at he
        exact .inl ⟨e, htable ▸ he, hfd⟩
      · generalize (m.importBuffer cfg env (some h)).2.proc = q at he hi
        generalize routedTo (grallocHandle h) = backend at hi
        cases hi with
        | dmabuf t cs => exact .inl ⟨e, htable ▸ he, hfd⟩
        | gbm layout heap cs =>
          rcases List.mem_cons.mp he with rfl | he
          · exact .inr ⟨c, by rw [hr]; rfl, hfd.symm⟩
          · exact .inl ⟨e, htable ▸ he, hfd⟩

/-- A free that succeeds, and keeps its key, leaves the slot of its handle empty. -/
theorem freeBuffer_empties {handle : NativeHandle} (hp : ProcInv m.proc)
    (hkept : (BufferOp.freeBuffer (some handle)).KeepsKey env m) :
    ¬ Filled (m.freeBuffer env (some handle)).2.proc (slotOf handle) := by
  cases hrouted : routedTo (grallocHandle handle) with
  | mapperGrallocDmabuf =>
    rw [slotOf, hrouted]
    rintro ⟨r, hr, hfd⟩
    rw [Mapper.freeBuffer_strikes hrouted hkept] at hr
    exact (Keyed.mem_remove.mp hr).2 hfd
  | mapperGrallocGbm =>
    rw [slotOf, hrouted]
    rintro ⟨e, he, hfd⟩
    have hinv := hp.readied env handle
    have htable := (readied_frame env handle m.proc 0).table
    rcases Mapper.freeBuffer_cases env handle hp with ⟨hstill, hnone⟩ | ⟨e', heap, cs, -, hfind, -, hr⟩
    · have he' : e ∈ (readied env handle m.proc).table := hstill.1.table ▸ he
      have hready := hp.ready (List.ne_nil_of_mem (htable ▸ he'))
      exact Keyed.lookup_eq_none.mp (hnone hrouted hready).2 e he' hfd
    · rw [hr] at he
      exact Keyed.lookup_eq_none.mp (Keyed.lookup_remove_self hinv.keys hfind) e he hfd

/-- Nothing is mapped where there is no buffer. -/
theorem Mapper.lock_mapLog_of_empty (handle : NativeHandle) (cpuUsage : UInt64) (hp : ProcInv m.proc)
    (hempty : ¬ Filled m.proc (slotOf handle)) :
    mapLog (m.lock env (some handle) cpuUsage).2.proc.calls = mapLog m.proc.calls := by
  by_cases h0 : cpuUsage = 0
  · have hlock : m.lock env (some handle) cpuUsage = ((some .badValue, none), m) := if_pos h0
    rw [hlock]
  have hlock : m.lock env (some handle) cpuUsage
      = m.withBackend env handle (some .noResources, none) _ := if_neg h0
  have hready : mapLog (readied env handle m.proc).calls = mapLog m.proc.calls :=
    ensureReady_mapLog env (routedTo (grallocHandle handle)) m.proc
  rw [hlock]
  refine Mapper.withBackend_proc (Q := fun q => mapLog q.calls = mapLog m.proc.calls) hready ?_
  rw [← hready]
  cases hrouted : routedTo (grallocHandle handle) with
  | mapperGrallocGbm =>
    rw [slotOf, hrouted] at hempty
    rcases grallocGbmAndroidBufferLock_cases env handle cpuUsage.toUInt32
        (hp.readied env handle).user_data with
      ⟨ret, hr, -⟩ | ⟨e, d, -, hfind, -⟩
    · simp only [hr]
    · rw [(readied_frame env handle m.proc 0).table] at hfind
      exact absurd ⟨e, Keyed.mem_of_lookup hfind, Keyed.key_of_lookup hfind⟩ hempty
  | mapperGrallocDmabuf =>
    rw [slotOf, hrouted] at hempty
    rcases MapperBackendDmaBuf.lock_cases env handle cpuUsage (readied env handle m.proc) with
      ⟨-, hr⟩ | ⟨r, hfind, -⟩
    · simp only [hr]
    · rw [findBufferInfo, readied_records] at hfind
      exact absurd ⟨r, Keyed.mem_of_lookup hfind, Keyed.key_of_lookup hfind⟩ hempty

/-- What is known of a run in every state. -/
structure FreedInv (s : FreedRun) : Prop where
  inv : ProcInv s.mapper.proc
  maps : MapInv s.mapper.proc
  /-- There is no buffer where one has been freed. -/
  gone : ∀ slot ∈ s.freed, ¬ Filled s.mapper.proc slot

/-- Nothing is freed yet. -/
theorem FreedInv.start : FreedInv .start where
  inv := .start
  maps := .start
  gone := fun _ h => absurd h List.not_mem_nil

/-- To the mapper, it is a call like any other. -/
theorem freedStep_mapper (cfg : BuildConfig) (env : Env) (s : FreedRun) (op : BufferOp) :
    (freedStep cfg env s op).mapper = bufferStep cfg env s.mapper op := by
  cases op with
  | importBuffer handle => rfl
  | freeBuffer buffer => cases buffer <;> rfl
  | lock buffer cpuUsage => rfl
  | unlock buffer => rfl

/-- A call that is no import leaves the slots empty that were. -/
theorem FreedInv.gone_after {s : FreedRun} (h : FreedInv s) {op : BufferOp}
    (hop : ∀ h, op ≠ .importBuffer (some h)) :
    ∀ slot ∈ s.freed, ¬ Filled (bufferStep cfg env s.mapper op).proc slot :=
  fun slot hslot hf => h.gone slot hslot (bufferStep_filled op h.inv hop hf)

/-- A slot that counts as freed is empty, as long as every free keeps its key. -/
theorem freedStep_inv {s : FreedRun} (op : BufferOp) (h : FreedInv s)
    (hkept : op.KeepsKey env s.mapper) : FreedInv (freedStep cfg env s op) where
  inv := by
    rw [freedStep_mapper]
    exact bufferStep_inv cfg env op h.inv
  maps := by
    rw [freedStep_mapper]
    exact bufferStep_mapInv cfg env op h.inv h.maps
  gone := by
    rw [freedStep_mapper]
    cases op with
    | importBuffer handle =>
      intro slot hslot hf
      obtain ⟨hmem, hnew⟩ := List.mem_filter.mp hslot
      rcases importBuffer_filled handle h.inv h.maps.records hf with hf | ⟨c, hc, hkey⟩
      · exact h.gone slot hmem hf
      · exact of_decide_eq_true hnew c hc hkey
    | freeBuffer buffer =>
      have hold : ∀ slot ∈ s.freed,
          ¬ Filled (bufferStep cfg env s.mapper (.freeBuffer buffer)).proc slot :=
        h.gone_after (fun _ => nofun)
      cases buffer with
      | none => exact hold
      | some handle =>
        intro slot hslot
        simp only [freedStep] at hslot
        split at hslot
        · rcases List.mem_cons.mp hslot with rfl | hslot
          · exact freeBuffer_empties h.inv hkept
          · exact hold slot hslot
        · exact hold slot hslot
    | lock buffer cpuUsage => exact h.gone_after (fun _ => nofun)
    | unlock buffer => exact h.gone_after (fun _ => nofun)

/-- **The step lemma**: a call does what it must exactly if it frees no buffer that is mapped. -/
theorem mappingsOk_iff {s : FreedRun} (op : BufferOp) (h : FreedInv s) :
    MappingsOk cfg env s op ↔
      ∀ handle, op = .freeBuffer (some handle) → ¬ StillMapped handle s.mapper.proc := by
  constructor
  · rintro hok handle rfl
    exact (freeBuffer_unmapped_iff handle h.inv h.maps).mp (hok.freed handle rfl)
  · intro hno
    constructor
    case once => exact (bufferStep_mapInv cfg env op h.inv h.maps).once
    case freed =>
      rintro handle rfl
      exact (freeBuffer_unmapped_iff handle h.inv h.maps).mpr (hno handle rfl)
    case later =>
      rintro handle cpuUsage rfl hslot
      exact Mapper.lock_mapLog_of_empty handle cpuUsage h.inv (h.gone _ hslot)

end

/-- **Where CPU mappings end with their buffer.**  In a run of imports, locks, unlocks and frees in
    any order, whatever the handles and the answers of the outside, whose frees of DMA-BUF records
    keep their keys: no mapping is undone twice, none is left of a buffer that was freed and none is
    made of one, exactly if no free is of a buffer that is mapped. -/
theorem bufferRun_mappings_iff (cfg : BuildConfig) (env : Env) (ops : List BufferOp)
    (hkept : Run.Along (freedStep cfg env) (fun s op => op.KeepsKey env s.mapper) .start ops) :
    Run.Along (freedStep cfg env) (MappingsOk cfg env) .start ops ↔
      Run.Along (freedStep cfg env)
        (fun s op => ∀ handle, op = .freeBuffer (some handle) → ¬ StillMapped handle s.mapper.proc)
        .start ops :=
  Run.along_congr FreedInv (fun _ op h hop => freedStep_inv op h hop)
    (fun _ op h _ => mappingsOk_iff op h) .start hkept

/-- An environment whose heap leaves the block of the first record as it is: it begins with the
    descriptor of `blobClone`. -/
def keepingEnv : Env := { Env.plain with memory := fun _ _ => (grallocHandle blobClone).primeFd }

/-- A GBM buffer that is freed unlocked and a DMA-BUF buffer that is freed before any lock leave no
    mapping, and the locks that come too late make none. -/
theorem unmapped_buffers_freed :
    Run.Along (freedStep .androidBp .plain) (MappingsOk .androidBp .plain) .start
        [.importBuffer (some (rgbaHandle 5)), .lock (some firstClone) 0x3, .unlock (some firstClone),
          .freeBuffer (some firstClone), .lock (some firstClone) 0x3] ∧
      Run.Along (freedStep .androidBp keepingEnv) (MappingsOk .androidBp keepingEnv) .start
        [.importBuffer (some (blobHandle 5)), .freeBuffer (some blobClone),
          .lock (some blobClone) 0x33] :=
  ⟨(bufferRun_mappings_iff .androidBp .plain _ (by decide)).mpr
      ⟨nofun, nofun, nofun, by rintro _ ⟨⟩; decide, nofun, trivial⟩,
    (bufferRun_mappings_iff .androidBp keepingEnv _ (by decide)).mpr
      ⟨nofun, by rintro _ ⟨⟩; decide, nofun, trivial⟩⟩

/-- A GBM buffer is freed while it is locked, and a DMA-BUF buffer after it was locked and unlocked;
    all calls succeed, the freed record keeps its key, and both mappings stay. -/
theorem freed_buffers_stay_mapped :
    ¬ Run.Along (freedStep .androidBp .plain) (MappingsOk .androidBp .plain) .start
        [.importBuffer (some (rgbaHandle 5)), .lock (some firstClone) 0x3,
          .freeBuffer (some firstClone)] ∧
      ¬ Run.Along (freedStep .androidBp keepingEnv) (MappingsOk .androidBp keepingEnv) .start
        [.importBuffer (some (blobHandle 5)), .lock (some blobClone) 0x33,
          .unlock (some blobClone), .freeBuffer (some blobClone)] := by
  constructor
  · rintro ⟨-, -, hfree, -⟩
    have hzero := hfree.freed firstClone rfl (by decide)
    revert hzero
    decide
  · rintro ⟨-, -, -, hfree, -⟩
    have hzero := hfree.freed blobClone rfl (by decide)
    revert hzero
    decide

end GrallocGbm
