/-
  The record table of the DMA-BUF backend.

  The backend keeps a record for each buffer that was imported into it, under the first descriptor
  of the clone, and looks at nothing else: not at the clone's address, nor at the memory behind
  it.  So the table is in order only if no two buffers ever have one descriptor, and this module
  says why that is so.

  The keys are the descriptors of the clones imported, and nothing closes these (`RecordsOpen`,
  `mapperStep_fds`).  So the descriptor of a new clone is no key yet, and every import adds the
  record of its own clone (`importClone_records`), which is then the one found under the clone's
  descriptor. Were a free to close its clone, the number could come again while a record still has
  it.

  The other calls are of three kinds.

  * Most of them are `Mild`: they change at most the user data of the objects, in which records are
    mapped, and what has nothing to do with buffers.  No entry and no record comes or goes.
  * A free takes away, if anything, and which record it takes is a question of its own
    (`RecordRelease`); here it is only said that it adds none (`Mapper.freeBuffer_records`).
  * An import is the only call that makes a new key, on either side (`mapperStep_keys`,
    `mapperStep_table`).

  `mapperRun_recordsOpen` is the result: every key is open in every reachable state.
-/
import GrallocGbm.Balance

namespace GrallocGbm

/-- Every key is an open descriptor. -/
def RecordsOpen (p : Proc) : Prop := ∀ r ∈ p.importedBufferTable, r.primeFd ∈ p.fds

/-- Readying a backend touches no record. -/
theorem readied_records (env : Env) (h : NativeHandle) (p : Proc) :
    (readied env h p).importedBufferTable = p.importedBufferTable := by
  obtain ⟨g, fds, da, n, cs, heq, -⟩ := ensureReady_spec env (routedTo (grallocHandle h)) p
  rw [readied, heq]

/-- Fewer keys are open still, as long as no descriptor is closed. -/
theorem RecordsOpen.of_keys {p p' : Proc} (h : RecordsOpen p)
    (hkeys : ∀ r' ∈ p'.importedBufferTable, ∃ r ∈ p.importedBufferTable, r.primeFd = r'.primeFd)
    (hfds : p.fds ⊆ p'.fds) : RecordsOpen p' := by
  intro r' hr'
  obtain ⟨r, hr, heq⟩ := hkeys r' hr'
  rw [← heq]
  exact hfds (h r hr)

/-- So are the same ones. -/
theorem RecordsOpen.of_same {p p' : Proc} (h : RecordsOpen p)
    (htable : p'.importedBufferTable = p.importedBufferTable) (hfds : p.fds ⊆ p'.fds) :
    RecordsOpen p' := by
  apply h.of_keys _ hfds
  intro r' hr'
  rw [htable] at hr'
  exact ⟨r', hr', rfl⟩

/-- Readying a backend closes nothing. -/
theorem RecordsOpen.readied {p : Proc} (hr : RecordsOpen p) (env : Env) (h : NativeHandle) :
    RecordsOpen (readied env h p) :=
  hr.of_same (readied_records env h p) (readied_frame env h p 0).fds_sub

/-! ## Import

  The only call that makes a record.  Its key is the clone's first descriptor, which was not open
  before. -/

/-- **What an import does to the records**: nothing, or the record of its clone is added, under the
    clone's descriptor, which is new. -/
theorem importClone_records (cfg : BuildConfig) (env : Env) (h : NativeHandle)
    (backend : MapperBackendType) {p : Proc} (hp : ∀ a ∈ p.handles, a < p.next)
    (h0 : h.numFds ≠ 0) (hopen : RecordsOpen p) :
    let r := importClone cfg env h backend p
    (r.2.importedBufferTable = p.importedBufferTable ∧
      (backend = .mapperGrallocDmabuf → r.1.2 = none)) ∨
    (backend = .mapperGrallocDmabuf ∧ ∃ c, r.1.2 = some c ∧ c.data 0 ∉ p.fds ∧
      c.data 0 ∈ r.2.fds ∧
      r.2.importedBufferTable = bufferInfoCreate (p.next + 1) c :: p.importedBufferTable) := by
  intro r
  have hr : r = importClone cfg env h backend p := rfl
  unfold importClone at hr
  rcases nativeHandleClone_spec env h hp with
    ⟨c, cs, hclone, -, hfds, -, hnonneg, -, hfresh, -⟩ | ⟨n, cs, hclone, -⟩
  swap
  · rw [hclone] at hr
    exact .inl ⟨by rw [hr], fun _ => by rw [hr]⟩
  rw [hclone] at hr
  cases backend with
  | mapperGrallocGbm =>
    refine .inl ⟨?_, nofun⟩
    dsimp only at hr
    rcases grallocGbmAndroidBufferImport_cases cfg env c _ with
      ⟨-, hi⟩ | ⟨-, -, hi⟩ | ⟨-, -, -, hi⟩ | ⟨layout, -, -, -, hi⟩
    all_goals
      rw [hi] at hr
      rw [hr]
      dsimp only
      split <;> rfl
  | mapperGrallocDmabuf =>
    have hmem : c.data 0 ∈ c.fds := data_zero_mem_fds (by omega)
    have hnew := (hfresh _ hmem).2
    have hnone : findBufferInfo (c.data 0) { p with
        next := p.next + 1 + 1
        handles := insert p.next p.handles
        fds := p.fds ∪ c.fds.toFinset
        calls := cs } = none := by
      apply Keyed.lookup_eq_none.mpr
      intro rec hrec heq
      exact hnew (heq ▸ hopen rec hrec)
    refine .inr ⟨rfl, c, ?_⟩
    have hprime : (bufferInfoCreate (p.next + 1) c).primeFd = c.data 0 := rfl
    simp only [MapperBackendDmaBuf.importBuffer, malloc, hprime, hnone] at hr
    rw [hr]
    exact ⟨rfl, hnew, Finset.mem_union_right _ (List.mem_toFinset.mpr hmem), rfl⟩

/-- The same for the whole call. -/
theorem Mapper.importBuffer_records (cfg : BuildConfig) (env : Env) (h : NativeHandle) {m : Mapper}
    (hp : ProcInv m.proc) (h0 : h.numFds ≠ 0) (hopen : RecordsOpen m.proc) :
    let p := readied env h m.proc
    let r := m.importBuffer cfg env (some h)
    (r.2.proc.importedBufferTable = m.proc.importedBufferTable ∧
      (routedTo (grallocHandle h) = .mapperGrallocDmabuf → r.1.2 = none)) ∨
    (routedTo (grallocHandle h) = .mapperGrallocDmabuf ∧ ∃ c, r.1.2 = some c ∧ c.data 0 ∉ p.fds ∧
      c.data 0 ∈ r.2.proc.fds ∧ r.2.proc.importedBufferTable
        = bufferInfoCreate (p.next + 1) c :: m.proc.importedBufferTable) := by
  intro p r
  have hr : r = m.withBackend env h (.noResources, none) (importClone cfg env h) := if_neg h0
  have hsame : p.importedBufferTable = m.proc.importedBufferTable := readied_records env h m.proc
  cases hok : ((routedTo (grallocHandle h)).ensureReady env m.proc).1 with
  | false =>
    rw [Mapper.withBackend_failed hok] at hr
    rw [hr]
    exact .inl ⟨hsame, fun _ => rfl⟩
  | true =>
    rw [Mapper.withBackend_ready hok] at hr
    rw [hr, ← hsame]
    exact importClone_records cfg env h _ (hp.readied env h).handle_lt h0 (hopen.readied env h)

/-- An import closes no descriptor that was open before it: what a refused one closes is its own. -/
theorem Mapper.importBuffer_fds (cfg : BuildConfig) (env : Env) (h : NativeHandle) {m : Mapper}
    (hp : ProcInv m.proc) : m.proc.fds ⊆ (m.importBuffer cfg env (some h)).2.proc.fds := by
  have hsub := (readied_frame env h m.proc 0).fds_sub
  rcases Mapper.importBuffer_cases cfg env h hp with
    ⟨-, hr⟩ | ⟨-, -, -, n, cs, -, hr⟩ | ⟨-, -, c, -, -, hi⟩
  · rw [hr]
  · rw [hr]
    exact hsub
  · rw [hi.acquired.1]
    exact hsub.trans Finset.subset_union_left

/-! ## The other calls -/

/-- `p'` differs from `p` at most in the user data of the objects, in which records are mapped, and in
    what has nothing to do with buffers. -/
structure Mild (p p' : Proc) : Prop where
  table : p'.table = p.table
  bos : ∀ bo b, p.bos bo = some b → ∃ data, p'.bos bo = some { b with data := data }
  records : ∃ f : DmaBufferInfo → Option Nat,
    p'.importedBufferTable = p.importedBufferTable.map fun r => { r with mapped := f r }

namespace Mild

variable {p p' p'' : Proc}

/-- The same entries, objects and records. -/
theorem of_same (htable : p'.table = p.table) (hbos : p'.bos = p.bos)
    (hrecords : p'.importedBufferTable = p.importedBufferTable) : Mild p p' where
  table := htable
  bos := by
    intro bo b hb
    rw [hbos]
    exact ⟨b.data, hb⟩
  records := ⟨DmaBufferInfo.mapped, by rw [hrecords]; exact (List.map_id _).symm⟩

/-- Nothing has changed. -/
theorem refl : Mild p p := of_same rfl rfl rfl

/-- Two mild changes are one. -/
theorem trans (h : Mild p p') (h' : Mild p' p'') : Mild p p'' where
  table := h'.table.trans h.table
  bos := by
    intro bo b hb
    obtain ⟨data, hb'⟩ := h.bos bo b hb
    obtain ⟨data', hb''⟩ := h'.bos bo _ hb'
    exact ⟨data', hb''⟩
  records := by
    obtain ⟨f, hf⟩ := h.records
    obtain ⟨g, hg⟩ := h'.records
    refine ⟨fun r => g { r with mapped := f r }, ?_⟩
    rw [hg, hf, List.map_map]
    rfl

/-- Rewriting the user data of an object. -/
theorem of_modify (bo : Nat) (f : GbmBoData → GbmBoData) (calls : List ExtCall) :
    Mild p (modifyBoData bo f { p with calls := calls }) where
  table := rfl
  bos := by
    intro bo' b hb
    simp only [modifyBoData, Function.update_apply]
    split
    · rename_i heq
      rw [heq] at hb
      exact ⟨b.data.map f, by rw [hb]; rfl⟩
    · exact ⟨b.data, hb⟩
  records := ⟨DmaBufferInfo.mapped, (List.map_id _).symm⟩

end Mild

/-- Readying a backend concerns neither objects nor records. -/
theorem readied_mild (env : Env) (h : NativeHandle) (p : Proc) : Mild p (readied env h p) := by
  obtain ⟨g, fds, da, n, cs, heq, -⟩ := ensureReady_spec env (routedTo (grallocHandle h)) p
  rw [readied, heq]
  exact .of_same rfl rfl rfl

/-- A lock of the GBM backend rewrites user data. -/
theorem grallocGbmAndroidBufferLock_mild (env : Env) (h : NativeHandle) (usage : UInt32) {p : Proc}
    (hp : HasUserData p) : Mild p (grallocGbmAndroidBufferLock env h usage p).2.2 := by
  rcases grallocGbmAndroidBufferLock_cases env h usage hp with
    ⟨ret, hr, -⟩ | ⟨buffer, d, -, -, -, -, ⟨-, hr⟩ | ⟨-, -, transfer, hr | ⟨a, hr⟩⟩⟩ <;> rw [hr]
  · exact .refl
  · exact .of_modify _ _ p.calls
  · exact .of_same rfl rfl rfl
  · exact .of_modify _ _ _

/-- So does an unlock. -/
theorem grallocGbmAndroidBufferUnlock_mild (h : NativeHandle) (p : Proc) :
    Mild p (grallocGbmAndroidBufferUnlock h p).2 := by
  rcases grallocGbmAndroidBufferUnlock_cases h p with
    hr | ⟨buffer, d, -, -, -, ⟨-, hr⟩ | ⟨-, hr⟩⟩ <;> rw [hr]
  · exact .refl
  · exact .of_modify _ _ _
  · exact .of_modify _ _ p.calls

/-- A lock of the other backend writes the address of the mapping into a record. -/
theorem MapperBackendDmaBuf.lock_mild (env : Env) (h : NativeHandle) (cpuUsage : UInt64) (p : Proc) :
    Mild p (MapperBackendDmaBuf.lock env h cpuUsage p).2.2 := by
  rcases MapperBackendDmaBuf.lock_cases env h cpuUsage p with
    ⟨-, hr⟩ | ⟨bi, -, ⟨-, hr⟩ | ⟨a, q, hq, hr⟩⟩
  · rw [hr]
    exact .refl
  · rw [hr]
    exact .of_same rfl rfl rfl
  · have hmild : Mild p q := by
      rcases hq with ⟨-, rfl⟩ | ⟨-, rfl⟩
      · exact .refl
      · refine ⟨rfl, fun bo b hb => ⟨b.data, hb⟩,
          fun r => if r.primeFd = bi.primeFd then some a else r.mapped, ?_⟩
        apply List.map_congr_left
        intro r _
        by_cases hkey : r.primeFd = bi.primeFd
        · simp only [if_pos hkey]
        · simp only [if_neg hkey]
    rcases hr with ⟨-, hr⟩ | ⟨-, hr⟩ <;> rw [hr]
    · exact hmild
    · exact hmild.trans (.of_same rfl rfl rfl)

/-- Its unlock does nothing. -/
theorem MapperBackendDmaBuf.unlock_mild (h : NativeHandle) (p : Proc) :
    Mild p (MapperBackendDmaBuf.unlock h p).2 := by
  unfold MapperBackendDmaBuf.unlock
  dsimp only
  split
  · exact .refl
  · exact .of_same rfl rfl rfl

/-- A set rewrites user data. -/
theorem MapperBackendGrallocGbm.setStandardMetadata_mild (h : NativeHandle)
    (type : StandardMetadataType) (metadata : BufferMetadata) {p : Proc} (hp : HasUserData p) :
    Mild p (MapperBackendGrallocGbm.setStandardMetadata h type metadata p).2 := by
  rcases MapperBackendGrallocGbm.setStandardMetadata_cases h type metadata hp with
    ⟨-, hr, -⟩ | ⟨e, -, hr⟩ <;> rw [hr]
  · exact .refl
  · exact .of_modify _ _ p.calls

section

variable (env : Env) (h : NativeHandle) {m : Mapper}

/-- The calls of the mapper, from those of the backends. -/
theorem Mapper.lock_mild (cpuUsage : UInt64) (hp : ProcInv m.proc) :
    Mild m.proc (m.lock env (some h) cpuUsage).2.proc := by
  have hready := readied_mild env h m.proc
  apply Mapper.lock_proc env h cpuUsage (fun _ => .refl) hready
  · exact hready.trans (grallocGbmAndroidBufferLock_mild env h _ (hp.readied env h).user_data)
  · exact hready.trans (MapperBackendDmaBuf.lock_mild env h cpuUsage _)

/-- An unlock is mild: it writes to no record. -/
theorem Mapper.unlock_mild (m : Mapper) : Mild m.proc (m.unlock env (some h)).2.proc := by
  have hready := readied_mild env h m.proc
  apply Mapper.unlock_proc env h hready
  · exact hready.trans (grallocGbmAndroidBufferUnlock_mild h _)
  · exact hready.trans (MapperBackendDmaBuf.unlock_mild h _)

/-- So is a read. -/
theorem Mapper.getStandardMetadata_mild (type : StandardMetadataType) (hp : ProcInv m.proc) :
    Mild m.proc (m.getStandardMetadata env (some h) type).2.proc := by
  have hready := readied_mild env h m.proc
  rcases Mapper.getStandardMetadata_leaves env h type hp with hr | ⟨bo, hr⟩ <;> rw [hr]
  · exact hready
  · exact hready.trans (.of_same rfl rfl rfl)

/-- So is a set. -/
theorem Mapper.setStandardMetadata_mild (type : StandardMetadataType) (metadata : Payload)
    (hp : ProcInv m.proc) :
    Mild m.proc (m.setStandardMetadata env (some h) type metadata).2.proc :=
  Mapper.setStandardMetadata_proc env h type metadata
    (fun _ _ _ _ _ => (readied_mild env h m.proc).trans (.of_same rfl rfl rfl))
    (fun data _ hq hmild =>
      hmild.trans (MapperBackendGrallocGbm.setStandardMetadata_mild h type data hq)) hp

end

/-- **A call that is no import and no free.** -/
theorem mapperStep_mild (cfg : BuildConfig) (env : Env) {m : Mapper} (op : MapperOp)
    (hp : ProcInv m.proc) (himport : ∀ h, op ≠ .buffer (.importBuffer (some h)))
    (hfree : ∀ h, op ≠ .buffer (.freeBuffer (some h))) :
    Mild m.proc (mapperStep cfg env m op).proc := by
  cases op with
  | buffer op =>
    cases op with
    | importBuffer handle =>
      cases handle with
      | none => exact .refl
      | some h => exact absurd rfl (himport h)
    | freeBuffer buffer =>
      cases buffer with
      | none => exact .refl
      | some h => exact absurd rfl (hfree h)
    | lock buffer cpuUsage =>
      cases buffer with
      | none => exact .refl
      | some h => exact Mapper.lock_mild env h cpuUsage hp
    | unlock buffer =>
      cases buffer with
      | none => exact .refl
      | some h => exact Mapper.unlock_mild env h m
  | getStandardMetadata buffer type =>
    cases buffer with
    | none => exact .refl
    | some h => exact Mapper.getStandardMetadata_mild env h type hp
  | setStandardMetadata buffer type metadata =>
    cases buffer with
    | none => exact .refl
    | some h => exact Mapper.setStandardMetadata_mild env h type metadata hp

/-- Every key of `p'` is one of `p`. -/
def KeysFrom (p p' : Proc) : Prop :=
  ∀ r' ∈ p'.importedBufferTable, ∃ r ∈ p.importedBufferTable, r.primeFd = r'.primeFd

/-- The keys are what they were. -/
theorem Mild.keys {p p' : Proc} (h : Mild p p') : KeysFrom p p' := by
  obtain ⟨f, hf⟩ := h.records
  intro r' hr'
  rw [hf] at hr'
  obtain ⟨r, hr, rfl⟩ := List.mem_map.mp hr'
  exact ⟨r, hr, rfl⟩

/-- A free takes away, if anything. -/
theorem Mapper.freeBuffer_records (env : Env) (h : NativeHandle) (m : Mapper) :
    ∀ r ∈ (m.freeBuffer env (some h)).2.proc.importedBufferTable,
      r ∈ m.proc.importedBufferTable := by
  refine Mapper.withBackend_proc
    (Q := fun q => ∀ r ∈ q.importedBufferTable, r ∈ m.proc.importedBufferTable) ?_ ?_
  · rw [readied_records]
    exact fun _ hr => hr
  · rw [← readied_records env h m.proc]
    cases routedTo (grallocHandle h) with
    | mapperGrallocDmabuf =>
      dsimp only
      rcases MapperBackendDmaBuf.freeBuffer_cases env h (readied env h m.proc) with
        ⟨-, hf⟩ | ⟨bi, -, hf⟩ <;> rw [hf]
      · exact fun _ hr => hr
      · exact fun _ hr => (Keyed.mem_remove.mp hr).1
    | mapperGrallocGbm =>
      rcases grallocGbmAndroidBufferFree_cases h (readied env h m.proc) with
        ⟨-, hf⟩ | ⟨-, -, hf⟩ | ⟨e, -, -, -, hf⟩ | ⟨e, b, -, -, -, hf⟩
      · simp only [hf]
        exact fun _ hr => hr
      · simp only [hf]
        exact fun _ hr => hr
      · simp only [hf]
        exact fun _ hr => hr
      · obtain ⟨heap, hd⟩ := gbmBoDestroy_eq e.bo b (readied env h m.proc)
        simp only [hf, hd]
        exact fun _ hr => hr

/-- A call that is no import makes no new key. -/
theorem mapperStep_keys (cfg : BuildConfig) (env : Env) {m : Mapper} (op : MapperOp)
    (hp : ProcInv m.proc) (hop : ∀ h, op ≠ .buffer (.importBuffer (some h))) :
    KeysFrom m.proc (mapperStep cfg env m op).proc := by
  by_cases hfree : ∃ h, op = .buffer (.freeBuffer (some h))
  · obtain ⟨h, rfl⟩ := hfree
    exact fun r hr => ⟨r, Mapper.freeBuffer_records env h m r hr, rfl⟩
  · exact (mapperStep_mild cfg env op hp hop fun h heq => hfree ⟨h, heq⟩).keys

/-- Nor does it add an entry on the other side. -/
theorem mapperStep_table (cfg : BuildConfig) (env : Env) {m : Mapper} (op : MapperOp)
    (hp : ProcInv m.proc) (hop : ∀ h, op ≠ .buffer (.importBuffer (some h))) :
    ∀ e ∈ (mapperStep cfg env m op).proc.table, e ∈ m.proc.table := by
  by_cases hfree : ∃ h, op = .buffer (.freeBuffer (some h))
  · obtain ⟨h, rfl⟩ := hfree
    have htable : (readied env h m.proc).table = m.proc.table := (readied_frame env h m.proc 0).table
    rcases Mapper.freeBuffer_cases env h hp with ⟨hstill, -⟩ | ⟨e, heap, cs, -, -, -, hr⟩
    · intro x hx
      have hsame : (m.freeBuffer env (some h)).2.proc.table = _ := hstill.1.table
      rwa [← htable, ← hsame]
    · intro x hx
      have hx' : x ∈ (m.freeBuffer env (some h)).2.proc.table := hx
      rw [hr] at hx'
      rw [← htable]
      exact (Keyed.mem_remove.mp hx').1
  · intro e he
    rwa [(mapperStep_mild cfg env op hp hop fun h heq => hfree ⟨h, heq⟩).table] at he

/-! ## Runs -/

/-- Nor does it close a descriptor. -/
theorem mapperStep_fds (cfg : BuildConfig) (env : Env) {m : Mapper} (op : MapperOp)
    (hp : ProcInv m.proc) : m.proc.fds ⊆ (mapperStep cfg env m op).proc.fds := by
  have hsub : ∀ h, m.proc.fds ⊆ (readied env h m.proc).fds :=
    fun h => (readied_frame env h m.proc 0).fds_sub
  cases op with
  | buffer op =>
    by_cases hop : ∃ h, op = .importBuffer (some h)
    · obtain ⟨h, rfl⟩ := hop
      exact Mapper.importBuffer_fds cfg env h hp
    · rcases bufferStep_rest cfg env op hp (fun h heq => absurd ⟨h, heq⟩ hop) with
        ⟨h, -, hfds, -⟩ | ⟨-, hsame⟩
      · show _ ⊆ (bufferStep cfg env m op).proc.fds
        rw [hfds]
        exact hsub h
      · show _ ⊆ (bufferStep cfg env m op).proc.fds
        rw [hsame]
  | getStandardMetadata buffer type =>
    cases buffer with
    | none => exact subset_rfl
    | some h =>
      exact (hsub h).trans (Mapper.getStandardMetadata_frame env h type hp 0).fds_sub
  | setStandardMetadata buffer type metadata =>
    cases buffer with
    | none => exact subset_rfl
    | some h =>
      exact (hsub h).trans (Mapper.setStandardMetadata_still env h type metadata hp).1.fds_sub

/-- **Each call keeps the keys open**: an import brings its own, and no other call brings any. -/
theorem mapperStep_recordsOpen (cfg : BuildConfig) (env : Env) {m : Mapper} (op : MapperOp)
    (hp : ProcInv m.proc) (hopen : RecordsOpen m.proc) :
    RecordsOpen (mapperStep cfg env m op).proc := by
  have hfds := mapperStep_fds cfg env op hp
  by_cases hop : ∃ h, op = .buffer (.importBuffer (some h))
  · obtain ⟨h, rfl⟩ := hop
    by_cases h0 : h.numFds = 0
    · have hr : m.importBuffer cfg env (some h) = ((.badBuffer, none), m) := if_pos h0
      simp only [mapperStep, bufferStep, hr]
      exact hopen
    · rcases Mapper.importBuffer_records cfg env h hp h0 hopen with
        ⟨htable, -⟩ | ⟨-, c, -, -, hmem, htable⟩
      · exact hopen.of_same htable hfds
      · intro r hr
        have hr' : r ∈ bufferInfoCreate ((readied env h m.proc).next + 1) c ::
            m.proc.importedBufferTable := htable ▸ hr
        rcases List.mem_cons.mp hr' with rfl | hr'
        · exact hmem
        · exact hfds (hopen r hr')
  · apply hopen.of_keys _ hfds
    exact mapperStep_keys cfg env op hp fun h heq => hop ⟨h, heq⟩

/-- **Every key is open in every reachable state.** -/
theorem mapperRun_recordsOpen (cfg : BuildConfig) (env : Env) (ops : List MapperOp) :
    RecordsOpen (mapperRun cfg env ops).proc := by
  have hrun : ProcInv (mapperRun cfg env ops).proc ∧ RecordsOpen (mapperRun cfg env ops).proc :=
    Run.foldl_inv_all (fun m : Mapper => ProcInv m.proc ∧ RecordsOpen m.proc)
      (fun m op h => ⟨mapperStep_inv cfg env op h.1, mapperStep_recordsOpen cfg env op h.1 h.2⟩) ops
      ⟨ProcInv.start, fun _ h => absurd h List.not_mem_nil⟩
  exact hrun.2

end GrallocGbm
