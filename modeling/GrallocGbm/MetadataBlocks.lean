/-
  Who owns the metadata blocks of the mapper.

  An import allocates three blocks with the user data of the new object.  A set allocates a
  temporary record first, which no path releases, and then the block of its type, which takes the
  place of the one in the user data; the one it replaces is not released either.  Destroying an
  object releases two of its three blocks.

  So the blocks belong to the objects (`Owned`) until the first set that gets its temporary record,
  or the first release of an object; and exactly until then (`metadataBlocks_owned_iff`).

  A call does one of four things to the blocks, and each has its own relation between the process
  before and after it:

    MetadataKept   nothing, as the locks, unlocks and reads do
    BlocksAdded    a new object comes with three new blocks
    BlocksLeft     an object goes, with two blocks at the most
    (a set)        new blocks, some of which one object takes over

  `mapperStep_metadata` sorts every call into one of them.

  While no block is lost, every object has exactly the three blocks of its import, and no two
  objects share one.  That is the invariant `Ledger`; no block has been taken over by then, so it
  does not have to say who took over what.  A call that keeps the blocks keeps the ledger
  (`mapperStep_ledger`), any other leaves a block that is nobody's (`mapperStep_owned_iff`), and the
  rest is `Run.along_iff`.

  The blocks are those of the metadata and of the temporary records.  A native handle, a table entry
  and a DMA-BUF record are allocated too, but no metadata refers to them, and the process keeps
  account of them elsewhere.
-/
import GrallocGbm.DmaRecords
import GrallocGbm.Reads

namespace GrallocGbm

/-! ## Blocks and their owners

  A block is an address on the heap, and its owners are the objects whose record points to it. -/

/-- The metadata in the user data of the object at `bo`, if it is alive. -/
def metadataOf (bo : Nat) (p : Proc) : Option BufferMetadata :=
  (gbmBoGetUserData bo p).map GbmBoData.metadata

/-- The addresses of the blocks a record refers to. -/
def BufferMetadata.blocks (metadata : BufferMetadata) : List Nat :=
  (metadata.smpte2086.map Block.addr).toList ++ (metadata.cta8613.map Block.addr).toList ++
    (metadata.smpte209450.map Block.addr).toList

/-- The blocks that the object at `bo` refers to. -/
def blocksOf (bo : Nat) (p : Proc) : List Nat :=
  ((metadataOf bo p).map BufferMetadata.blocks).getD []

/-- Every allocated block is referred to by exactly one live object. -/
def Owned (p : Proc) : Prop := ∀ a ∈ p.heap, ∃! bo, a ∈ blocksOf bo p

/-- The blocks of an object that is alive are those of its record. -/
theorem blocksOf_of_some {bo : Nat} {p : Proc} {metadata : BufferMetadata}
    (h : metadataOf bo p = some metadata) : blocksOf bo p = metadata.blocks := by
  rw [blocksOf, h]
  rfl

/-- Who has a block is alive. -/
theorem exists_of_mem_blocksOf {a bo : Nat} {p : Proc} (h : a ∈ blocksOf bo p) :
    ∃ metadata, metadataOf bo p = some metadata ∧ a ∈ metadata.blocks := by
  cases hm : metadataOf bo p with
  | none =>
    rw [blocksOf, hm] at h
    cases h
  | some metadata =>
    rw [blocksOf_of_some hm] at h
    exact ⟨metadata, rfl, h⟩

/-- The user data of an import has three blocks in a row. -/
theorem blocks_zeroBoData (a : Nat) : (zeroBoData a).metadata.blocks = [a, a + 1, a + 2] := rfl

/-! ## Calls that keep the metadata -/

/-- `p'` has the blocks of `p`, and the metadata of its objects. -/
structure MetadataKept (p p' : Proc) : Prop where
  heap : p'.heap = p.heap
  next_le : p.next ≤ p'.next
  metadata : ∀ bo, metadataOf bo p' = metadataOf bo p

namespace MetadataKept

variable {p p' p'' : Proc}

/-- A process with the same blocks and the same objects. -/
theorem of_same (hheap : p'.heap = p.heap) (hnext : p.next ≤ p'.next) (hbos : p'.bos = p.bos) :
    MetadataKept p p' := by
  refine ⟨hheap, hnext, fun bo => ?_⟩
  rw [metadataOf, gbmBoGetUserData, hbos]
  rfl

/-- Nothing has happened. -/
theorem refl : MetadataKept p p := of_same rfl (le_refl _) rfl

/-- One call after another. -/
theorem trans (h : MetadataKept p p') (h' : MetadataKept p' p'') : MetadataKept p p'' where
  heap := h'.heap.trans h.heap
  next_le := le_trans h.next_le h'.next_le
  metadata := fun bo => (h'.metadata bo).trans (h.metadata bo)

/-- Rewriting the lock state of an object. -/
theorem of_modify {bo : Nat} {f : GbmBoData → GbmBoData} (hf : ∀ d, (f d).metadata = d.metadata)
    (calls : List ExtCall) : MetadataKept p (modifyBoData bo f { p with calls := calls }) := by
  refine ⟨rfl, le_refl _, fun bo' => ?_⟩
  rw [metadataOf, gbmBoGetUserData_modify]
  split
  · rename_i heq
    have hcomp : GbmBoData.metadata ∘ f = GbmBoData.metadata := funext hf
    rw [Option.map_map, hcomp, heq]
    rfl
  · rfl

/-- The blocks of every object are the same ones. -/
theorem blocks (h : MetadataKept p p') (bo : Nat) : blocksOf bo p' = blocksOf bo p := by
  rw [blocksOf, h.metadata, blocksOf]

end MetadataKept

/-- Getting a backend ready. -/
theorem readied_metadata (env : Env) (h : NativeHandle) (p : Proc) :
    MetadataKept p (readied env h p) := by
  obtain ⟨g, fds, da, n, cs, heq, hn, -⟩ := ensureReady_spec env (routedTo (grallocHandle h)) p
  rw [readied, heq]
  exact .of_same rfl hn rfl

section

variable (env : Env) (h : NativeHandle) {m : Mapper}

/-- A lock of the GBM backend writes to the lock state only. -/
theorem grallocGbmAndroidBufferLock_metadata (usage : UInt32) {p : Proc} (hp : HasUserData p) :
    MetadataKept p (grallocGbmAndroidBufferLock env h usage p).2.2 := by
  rcases grallocGbmAndroidBufferLock_cases env h usage hp with
    ⟨ret, hr, -⟩ | ⟨e, d, -, -, -, -, ⟨-, hr⟩ | ⟨-, -, transfer, hr | ⟨a, hr⟩⟩⟩ <;> rw [hr]
  · exact .refl
  · exact .of_modify (by intro d; rfl) p.calls
  · exact .of_same rfl (le_refl _) rfl
  · exact .of_modify (by intro d; rfl) _

/-- So does an unlock. -/
theorem grallocGbmAndroidBufferUnlock_metadata (p : Proc) :
    MetadataKept p (grallocGbmAndroidBufferUnlock h p).2 := by
  rcases grallocGbmAndroidBufferUnlock_cases h p with
    hr | ⟨e, d, -, -, -, ⟨-, hr⟩ | ⟨-, hr⟩⟩ <;> rw [hr]
  · exact .refl
  · exact .of_modify (by intro d; rfl) _
  · exact .of_modify (by intro d; rfl) p.calls

/-- The DMA-BUF backend has no objects to write to. -/
theorem MapperBackendDmaBuf.lock_metadata (cpuUsage : UInt64) (p : Proc) :
    MetadataKept p (MapperBackendDmaBuf.lock env h cpuUsage p).2.2 := by
  rcases MapperBackendDmaBuf.lock_cases env h cpuUsage p with
    ⟨-, hr⟩ | ⟨bi, -, ⟨-, hr⟩ | ⟨a, q, hq, hr⟩⟩
  · rw [hr]
    exact .refl
  · rw [hr]
    exact .of_same rfl (le_refl _) rfl
  · rcases hq with ⟨-, rfl⟩ | ⟨-, rfl⟩ <;> rcases hr with ⟨-, hr⟩ | ⟨-, hr⟩ <;> rw [hr] <;>
      exact .of_same rfl (le_refl _) rfl

/-- Its unlock makes a call to the kernel, and no more. -/
theorem MapperBackendDmaBuf.unlock_metadata (p : Proc) :
    MetadataKept p (MapperBackendDmaBuf.unlock h p).2 := by
  unfold MapperBackendDmaBuf.unlock
  dsimp only
  split
  · exact .refl
  · exact .of_same rfl (le_refl _) rfl

/-- The mapper's lock, on either backend. -/
theorem Mapper.lock_metadata (cpuUsage : UInt64) (hp : ProcInv m.proc) :
    MetadataKept m.proc (m.lock env (some h) cpuUsage).2.proc := by
  have hready := readied_metadata env h m.proc
  apply Mapper.lock_proc env h cpuUsage (fun _ => .refl) hready
  · exact hready.trans (grallocGbmAndroidBufferLock_metadata env h _ (hp.readied env h).user_data)
  · exact hready.trans (MapperBackendDmaBuf.lock_metadata env h cpuUsage _)

/-- The mapper's unlock. -/
theorem Mapper.unlock_metadata (m : Mapper) :
    MetadataKept m.proc (m.unlock env (some h)).2.proc := by
  have hready := readied_metadata env h m.proc
  apply Mapper.unlock_proc env h hready
  · exact hready.trans (grallocGbmAndroidBufferUnlock_metadata h _)
  · exact hready.trans (MapperBackendDmaBuf.unlock_metadata h _)

/-- A read of metadata: the query opens a descriptor at the most. -/
theorem Mapper.getStandardMetadata_metadata (type : StandardMetadataType) (hp : ProcInv m.proc) :
    MetadataKept m.proc (m.getStandardMetadata env (some h) type).2.proc := by
  have hready := readied_metadata env h m.proc
  rcases Mapper.getStandardMetadata_leaves env h type hp with hr | ⟨bo, hr⟩ <;> rw [hr]
  · exact hready
  · exact hready.trans (.of_same rfl (le_refl _) rfl)

end

/-! ## Import

  The user data of a new object come with three blocks, and there is no other call that makes an
  object. -/

/-- `p'` has one object more than `p`, with the three blocks from `a` on. -/
structure BlocksAdded (p p' : Proc) (bo a : Nat) : Prop where
  heap : p'.heap = insert (a + 2) (insert (a + 1) (insert a p.heap))
  bo_new : metadataOf bo p = none
  addr_new : p.next ≤ a ∧ a + 2 < p'.next
  own : metadataOf bo p' = some (zeroBoData a).metadata
  others : ∀ bo', bo' ≠ bo → metadataOf bo' p' = metadataOf bo' p

/-- A record found afterwards is the new one, or was there before. -/
theorem BlocksAdded.metadata_cases {p p' : Proc} {bo a bo' : Nat} {metadata : BufferMetadata}
    (h : BlocksAdded p p' bo a) (hm : metadataOf bo' p' = some metadata) :
    metadata = (zeroBoData a).metadata ∨ metadataOf bo' p = some metadata := by
  by_cases hne : bo' = bo
  · rw [hne, h.own] at hm
    exact .inl (Option.some.inj hm).symm
  · rw [h.others bo' hne] at hm
    exact .inr hm

/-- An import that the GBM backend takes allocates three blocks; no other outcome allocates one. -/
theorem importClone_heap (cfg : BuildConfig) (env : Env) (h : NativeHandle)
    (backend : MapperBackendType) {p : Proc} (hp : ∀ a ∈ p.handles, a < p.next) :
    let r := importClone cfg env h backend p
    r.2.heap = if backend = .mapperGrallocGbm ∧ r.1.1 = .none then
      insert (p.next + 5) (insert (p.next + 4) (insert (p.next + 3) p.heap)) else p.heap := by
  intro r
  have hr : r = importClone cfg env h backend p := rfl
  unfold importClone at hr
  rcases nativeHandleClone_spec env h hp with ⟨c, cs, hclone, -⟩ | ⟨n, cs, hclone, -⟩
  swap
  · rw [hr, hclone]
    exact (if_neg fun hno => by cases hno.2).symm
  simp only [hclone] at hr
  cases backend with
  | mapperGrallocDmabuf =>
    obtain ⟨t, himport⟩ := MapperBackendDmaBuf.importBuffer_spec c { p with
      next := p.next + 1
      handles := insert p.next p.handles
      fds := p.fds ∪ c.fds.toFinset
      calls := cs }
    rw [hr, himport]
    rfl
  | mapperGrallocGbm =>
    rcases grallocGbmAndroidBufferImport_cases cfg env c { p with
        next := p.next + 1
        handles := insert p.next p.handles
        fds := p.fds ∪ c.fds.toFinset
        calls := cs } with
      ⟨-, hi⟩ | ⟨-, -, hi⟩ | ⟨-, -, -, hi⟩ | ⟨layout, -, -, -, hi⟩ <;> simp only [hi] at hr <;>
      rw [hr] <;> rfl

section

variable (cfg : BuildConfig) (env : Env) (h : NativeHandle) {m : Mapper}

/-- The same for the whole import: three blocks, if the GBM backend is to take it and does. -/
theorem Mapper.importBuffer_heap (hp : ProcInv m.proc) (h0 : h.numFds ≠ 0) :
    let p := readied env h m.proc
    let r := m.importBuffer cfg env (some h)
    r.2.proc.heap
      = if routedTo (grallocHandle h) = .mapperGrallocGbm ∧ r.1.1 = .none then
          insert (p.next + 5) (insert (p.next + 4) (insert (p.next + 3) p.heap)) else p.heap := by
  intro p r
  have hr : r = m.withBackend env h (.noResources, none) (importClone cfg env h) := if_neg h0
  cases hok : ((routedTo (grallocHandle h)).ensureReady env m.proc).1 with
  | false =>
    rw [hr, Mapper.withBackend_failed hok, if_neg (by simp)]
    rfl
  | true =>
    rw [hr, Mapper.withBackend_ready hok]
    exact importClone_heap cfg env h _ (hp.readied env h).handle_lt

/-- An import keeps the metadata, or adds an object with its blocks. -/
theorem Mapper.importBuffer_metadata (hp : ProcInv m.proc) :
    MetadataKept m.proc (m.importBuffer cfg env (some h)).2.proc ∨
      ∃ bo a, BlocksAdded m.proc (m.importBuffer cfg env (some h)).2.proc bo a := by
  have hready := readied_metadata env h m.proc
  rcases Mapper.importBuffer_cases cfg env h hp with
    ⟨-, hr⟩ | ⟨-, -, -, n, cs, hn, hr⟩ | ⟨htaken, -, c, hr1, -, hi⟩
  · rw [hr]
    exact .inl .refl
  · rw [hr]
    exact .inl (hready.trans (.of_same rfl hn rfl))
  · have hheap := Mapper.importBuffer_heap cfg env h hp htaken.1
    simp only [hr1, and_true] at hheap
    have hunborn := fun bo => (hp.readied env h).bo_lt bo
    generalize GrallocGbm.readied env h m.proc = p at hready hheap hi hunborn
    generalize (m.importBuffer cfg env (some h)).2.proc = p' at hheap hi
    generalize hb : routedTo (grallocHandle h) = backend at hheap hi
    cases hi with
    | dmabuf t cs =>
      exact .inl (hready.trans (.of_same rfl (Nat.le_add_right _ _) rfl))
    | gbm layout heap cs =>
      refine .inr ⟨p.next + 2, p.next + 3, ?_⟩
      have hnone : p.bos (p.next + 2) = none := by
        by_contra hsome
        have := (hunborn _ (Option.isSome_iff_ne_none.mpr hsome)).2
        omega
      constructor
      case heap =>
        rw [← hready.heap]
        exact hheap
      case bo_new =>
        rw [← hready.metadata, metadataOf, gbmBoGetUserData, hnone]
        rfl
      case addr_new => exact ⟨le_trans hready.next_le (Nat.le_add_right _ _), by simp⟩
      case own => simp [metadataOf, gbmBoGetUserData, importedBo]
      case others =>
        intro bo' hne
        rw [← hready.metadata]
        simp [metadataOf, gbmBoGetUserData, Function.update_of_ne hne]

/-! ## Release

  Two of the three blocks are released; the one of SMPTE2094_50 is not, and from then on it is
  nobody's. -/

/-- The call destroys an object: the buffer is one of the GBM backend's, and in its table. -/
def Destroys (h : NativeHandle) (p : Proc) : Prop :=
  routedTo (grallocHandle h) = .mapperGrallocGbm ∧
    (findBufferK (grallocHandle h).primeFd p.table).isSome = true

/-- A free that finds no GBM buffer keeps the metadata. -/
theorem Mapper.freeBuffer_metadata (hno : ¬ Destroys h m.proc) :
    MetadataKept m.proc (m.freeBuffer env (some h)).2.proc := by
  have hready := readied_metadata env h m.proc
  refine Mapper.withBackend_proc (Q := MetadataKept m.proc) hready (hready.trans ?_)
  have htable := (readied_frame env h m.proc 0).table
  generalize GrallocGbm.readied env h m.proc = p at htable
  cases hb : routedTo (grallocHandle h) with
  | mapperGrallocDmabuf =>
    dsimp only
    rcases MapperBackendDmaBuf.freeBuffer_cases env h p with ⟨-, hf⟩ | ⟨bi, -, hf⟩ <;> rw [hf]
    · exact .refl
    · exact .of_same rfl (le_refl _) rfl
  | mapperGrallocGbm =>
    have hnone : findBufferK (grallocHandle h).primeFd p.table = none := by
      rw [htable]
      by_contra hsome
      exact hno ⟨hb, Option.isSome_iff_ne_none.mpr hsome⟩
    dsimp only
    rcases grallocGbmAndroidBufferFree_cases h p with
      ⟨-, hf⟩ | ⟨-, -, hf⟩ | ⟨e, -, he, -⟩ | ⟨e, b, -, he, -⟩
    · rw [hf]
      exact .refl
    · rw [hf]
      exact .refl
    · rw [hnone] at he
      cases he
    · rw [hnone] at he
      cases he

/-- What the destruction of an object does to the blocks: two of them are released. -/
theorem gbmBoDestroy_heap (bo : Nat) {b : Bo} {d : GbmBoData} (hd : b.data = some d) (p : Proc) :
    ∀ a ∈ p.heap, a ∉ (gbmBoDestroy bo b p).heap →
      d.metadata.smpte2086.map Block.addr = some a ∨ d.metadata.cta8613.map Block.addr = some a := by
  intro a ha hnot
  rw [gbmBoDestroy, hd] at hnot
  simp only [grallocGbmBoDataDestroy] at hnot
  cases h1 : d.metadata.smpte2086 <;> cases h2 : d.metadata.cta8613 <;>
    simp [h1, h2, freeBlock] at hnot ⊢ <;> tauto

/-- `p'` has one object less than `p`, and at most two blocks. -/
structure BlocksLeft (p p' : Proc) (bo : Nat) (metadata : BufferMetadata) : Prop where
  own : metadataOf bo p = some metadata
  gone : metadataOf bo p' = none
  others : ∀ bo', bo' ≠ bo → metadataOf bo' p' = metadataOf bo' p
  heap : ∀ a ∈ p.heap, a ∉ p'.heap →
    metadata.smpte2086.map Block.addr = some a ∨ metadata.cta8613.map Block.addr = some a

/-- The metadata that is left was there before. -/
theorem BlocksLeft.metadata_of_some {p p' : Proc} {bo bo' : Nat} {metadata metadata' : BufferMetadata}
    (h : BlocksLeft p p' bo metadata) (hm : metadataOf bo' p' = some metadata') :
    bo' ≠ bo ∧ metadataOf bo' p = some metadata' := by
  have hne : bo' ≠ bo := by
    rintro rfl
    rw [h.gone] at hm
    cases hm
  exact ⟨hne, by rw [← h.others bo' hne, hm]⟩

/-- One that finds a buffer takes the object out of the process, with its record. -/
theorem Mapper.freeBuffer_destroys (hp : ProcInv m.proc) (hd : Destroys h m.proc) :
    ∃ bo metadata, BlocksLeft m.proc (m.freeBuffer env (some h)).2.proc bo metadata := by
  obtain ⟨hgbm, hsome⟩ := hd
  obtain ⟨e, he⟩ := Option.isSome_iff_exists.mp hsome
  have hmem := Keyed.mem_of_lookup he
  have hready := hp.ready (List.ne_nil_of_mem hmem)
  obtain ⟨-, b, d, hb, hd⟩ := hp.exists_object hmem
  have hfree : (m.freeBuffer env (some h)).2.proc = deleteBuffer e (gbmBoDestroy e.bo b m.proc) := by
    unfold Mapper.freeBuffer
    dsimp only
    rw [Mapper.withBackend_gbm hgbm hready]
    simp only [grallocGbmAndroidBufferFree, hready, he, hb]
    rfl
  obtain ⟨heap, hdestroy⟩ := gbmBoDestroy_eq e.bo b m.proc
  have hbos : (m.freeBuffer env (some h)).2.proc.bos = Function.update m.proc.bos e.bo none := by
    rw [hfree, deleteBuffer, hdestroy]
  refine ⟨e.bo, d.metadata, ?_, ?_, fun bo' hne => ?_, fun a ha hnot => ?_⟩
  · simp [metadataOf, gbmBoGetUserData, hb, hd]
  · simp [metadataOf, gbmBoGetUserData, hbos]
  · simp [metadataOf, gbmBoGetUserData, hbos, Function.update_of_ne hne]
  · refine gbmBoDestroy_heap e.bo hd m.proc a ha ?_
    rw [hfree] at hnot
    exact hnot

end

/-! ## Setting

  What a set allocates: the temporary record, and the block of its type.  The first is nobody's,
  the second goes to the object, which forgets the block it had. -/

/-- Staging allocates one block and stages it, or none. -/
theorem stageMetadata_alloc (type : StandardMetadataType) (payload : Payload) (p : Proc) :
    let r := stageMetadata type payload p
    (r.2 = p ∧ ∀ staged, r.1 = some staged → staged.blocks = []) ∨
      (r.2 = (callocBlock p).2 ∧ ∀ staged, r.1 = some staged → staged.blocks = [p.next]) := by
  have hzero : ∀ staged, some BufferMetadata.zero = some staged → staged.blocks = [] := by
    rintro _ ⟨⟩
    rfl
  cases type
  case smpte2086 => exact .inr ⟨rfl, by rintro _ ⟨⟩; rfl⟩
  case cta8613 => exact .inr ⟨rfl, by rintro _ ⟨⟩; rfl⟩
  case smpte209450 =>
    intro r
    by_cases hlen : payload.metadataSize > grallocGenericSmpte209450MaxSize
    · have hr : r = (none, p) := if_pos hlen
      rw [hr]
      exact .inl ⟨rfl, by rintro _ ⟨⟩⟩
    · have hr : r = _ := if_neg hlen
      rw [hr]
      exact .inr ⟨rfl, by rintro _ ⟨⟩; rfl⟩
  case dataspace | blendMode => exact .inl ⟨rfl, by rintro _ ⟨⟩; rfl⟩
  case bufferId | name | width | height | layerCount | pixelFormatRequested | pixelFormatFourcc |
      pixelFormatModifier | usage | stride => exact .inl ⟨rfl, by rintro _ ⟨⟩⟩
  all_goals exact .inl ⟨rfl, hzero⟩

/-- The blocks that staging allocates are new, and none is released. -/
theorem stageMetadata_blocks (type : StandardMetadataType) (payload : Payload) (p : Proc) :
    let r := stageMetadata type payload p
    p.heap ⊆ r.2.heap ∧ p.next ≤ r.2.next ∧
      ∀ staged, r.1 = some staged → ∀ a ∈ staged.blocks,
        p.next ≤ a ∧ a < r.2.next ∧ a ∈ r.2.heap := by
  intro r
  rcases stageMetadata_alloc type payload p with ⟨hr, hblocks⟩ | ⟨hr, hblocks⟩ <;>
    rw [show r.2 = _ from hr]
  · refine ⟨subset_rfl, le_refl _, fun staged hst a ha => ?_⟩
    rw [hblocks staged hst] at ha
    cases ha
  · refine ⟨Finset.subset_insert _ _, Nat.le_succ _, fun staged hst a ha => ?_⟩
    rw [hblocks staged hst, List.mem_singleton] at ha
    rw [ha]
    exact ⟨le_refl _, Nat.lt_succ_self _, Finset.mem_insert_self _ _⟩

/-- Storing takes over staged blocks, and adds no others. -/
theorem storeMetadata_blocks (type : StandardMetadataType) (staged stored : BufferMetadata) :
    ∀ a ∈ (storeMetadata type staged stored).blocks, a ∈ staged.blocks ∨ a ∈ stored.blocks := by
  intro a ha
  cases type <;> simp only [storeMetadata, BufferMetadata.blocks, List.mem_append] at ha ⊢ <;> tauto

section

variable (env : Env) (h : NativeHandle) (type : StandardMetadataType) (payload : Payload) {m : Mapper}

/-- A set without its temporary record does nothing. -/
theorem Mapper.setStandardMetadata_metadata (hno : ¬ TakesRecord env h m.proc) :
    MetadataKept m.proc (m.setStandardMetadata env (some h) type payload).2.proc := by
  have hready := readied_metadata env h m.proc
  rcases Mapper.setStandardMetadata_cases env h type payload (m := m) with
    ⟨-, -, hr | hr⟩ | ⟨ht, -⟩ | ⟨ht, -⟩
  · rw [hr]
    exact hready
  · rw [hr]
    exact hready.trans (.of_same rfl (Nat.le_succ _) rfl)
  · exact absurd ht hno
  · exact absurd ht hno

/-- A set with its record: what was staged has replaced its part of the metadata of one object, or
    nothing has. -/
theorem Mapper.setStandardMetadata_staged (ht : TakesRecord env h m.proc) (hp : ProcInv m.proc) :
    let staging := stageMetadata type payload (withRecord (readied env h m.proc))
    let p' := (m.setStandardMetadata env (some h) type payload).2.proc
    p'.heap = staging.2.heap ∧ p'.next = staging.2.next ∧
      ∃ target, ∀ bo, metadataOf bo p' = metadataOf bo m.proc ∨
        (bo = target ∧ ∃ staged, staging.1 = some staged ∧
          metadataOf bo p' = (metadataOf bo m.proc).map (storeMetadata type staged)) := by
  intro staging p'
  have hready := readied_metadata env h m.proc
  obtain ⟨heap, n, hs, -⟩ :=
    stageMetadata_spec type payload (withRecord (GrallocGbm.readied env h m.proc))
  have hsame : ∀ bo, metadataOf bo staging.2 = metadataOf bo m.proc := by
    intro bo
    rw [← hready.metadata, show staging.2 = _ from hs]
    rfl
  have hdata : HasUserData staging.2 := by
    rw [show staging.2 = _ from hs]
    exact (hp.readied env h).user_data
  rcases Mapper.setStandardMetadata_cases env h type payload (m := m) with
    ⟨hno, -⟩ | ⟨-, -, -, hp'⟩ | ⟨-, staged, hstaged, ⟨-, -, hp'⟩ | ⟨-, -, hp'⟩⟩
  · exact absurd ht hno
  · rw [show p' = staging.2 from hp']
    exact ⟨rfl, rfl, 0, fun bo => .inl (hsame bo)⟩
  · rw [show p' = staging.2 from hp']
    exact ⟨rfl, rfl, 0, fun bo => .inl (hsame bo)⟩
  · rw [show p' = _ from hp']
    rcases MapperBackendGrallocGbm.setStandardMetadata_cases h type staged hdata with
      ⟨-, hr, -⟩ | ⟨e, -, hr⟩
    · rw [hr]
      exact ⟨rfl, rfl, 0, fun bo => .inl (hsame bo)⟩
    · rw [hr]
      refine ⟨rfl, rfl, e.bo, fun bo => ?_⟩
      dsimp only
      rw [metadataOf, gbmBoGetUserData_modify]
      split
      · rename_i hbo
        refine .inr ⟨hbo, staged, hstaged, ?_⟩
        rw [hbo, ← hsame, metadataOf, Option.map_map, Option.map_map]
        rfl
      · exact .inl (hsame bo)

end

/-! ## The ledger

  The blocks of an object are those of its import, which is easier to keep than `Owned`, and
  says the same while nothing has been lost. -/

/-- While the blocks are owned: every object has those of its import, and no two share one. -/
structure Ledger (p : Proc) : Prop where
  inv : ProcInv p
  owned : Owned p
  imported : ∀ bo metadata, metadataOf bo p = some metadata →
    ∃ a, metadata = (zeroBoData a).metadata ∧ a + 2 < p.next ∧ a + 2 ∈ p.heap
  apart : ∀ bo bo' a, a ∈ blocksOf bo p → a ∈ blocksOf bo' p → bo = bo'

/-- Nothing is allocated at the start. -/
theorem Ledger.start : Ledger Proc.start where
  inv := .start
  owned := by intro a ha; cases ha
  imported := by intro bo metadata h; cases h
  apart := by intro bo bo' a ha; cases ha

section

variable {p p' : Proc}

/-- The blocks in use are old ones, so what is allocated next is not among them. -/
theorem Ledger.block_lt (h : Ledger p) {bo a : Nat} (ha : a ∈ blocksOf bo p) : a < p.next := by
  obtain ⟨metadata, hm, ha⟩ := exists_of_mem_blocksOf ha
  obtain ⟨a0, rfl, hlt, -⟩ := h.imported bo metadata hm
  simp only [blocks_zeroBoData, List.mem_cons, List.not_mem_nil, or_false] at ha
  omega

/-- A call that keeps the metadata keeps the ledger. -/
theorem Ledger.of_kept (h : Ledger p) (hk : MetadataKept p p') (hinv : ProcInv p') : Ledger p' where
  inv := hinv
  owned := by
    intro a ha
    rw [hk.heap] at ha
    simp only [hk.blocks]
    exact h.owned a ha
  imported := by
    intro bo metadata hm
    rw [hk.metadata] at hm
    obtain ⟨a, heq, hlt, hmem⟩ := h.imported bo metadata hm
    exact ⟨a, heq, lt_of_lt_of_le hlt hk.next_le, by rw [hk.heap]; exact hmem⟩
  apart := by
    intro bo bo' a ha ha'
    rw [hk.blocks] at ha ha'
    exact h.apart bo bo' a ha ha'

/-- The blocks of a new object are its own. -/
theorem Ledger.of_added (h : Ledger p) {bo a : Nat} (hadd : BlocksAdded p p' bo a)
    (hinv : ProcInv p') : Ledger p' := by
  have hnew : blocksOf bo p' = [a, a + 1, a + 2] := blocksOf_of_some hadd.own
  have hold : ∀ bo', bo' ≠ bo → blocksOf bo' p' = blocksOf bo' p := by
    intro bo' hne
    rw [blocksOf, hadd.others bo' hne, blocksOf]
  have hnone : ∀ x, x ∉ blocksOf bo p := by
    intro x hx
    obtain ⟨metadata, hm, -⟩ := exists_of_mem_blocksOf hx
    rw [hadd.bo_new] at hm
    cases hm
  obtain ⟨hle, hlt⟩ := hadd.addr_new
  constructor
  case inv => exact hinv
  case owned =>
    intro x hx
    by_cases hxa : x ∈ [a, a + 1, a + 2]
    · refine ⟨bo, by show x ∈ blocksOf bo p'; rw [hnew]; exact hxa, fun bo' hbo' => ?_⟩
      replace hbo' : x ∈ blocksOf bo' p' := hbo'
      by_contra hne
      rw [hold bo' hne] at hbo'
      have := h.block_lt hbo'
      simp only [List.mem_cons, List.not_mem_nil, or_false] at hxa
      omega
    · have hxp : x ∈ p.heap := by
        rw [hadd.heap] at hx
        simp only [Finset.mem_insert, List.mem_cons, List.not_mem_nil, or_false] at hx hxa
        tauto
      obtain ⟨bo0, hbo0, huniq⟩ := h.owned x hxp
      have hne0 : bo0 ≠ bo := fun heq => hnone x (heq ▸ hbo0)
      refine ⟨bo0, by show x ∈ blocksOf bo0 p'; rw [hold bo0 hne0]; exact hbo0, fun bo' hbo' => ?_⟩
      replace hbo' : x ∈ blocksOf bo' p' := hbo'
      by_cases hne : bo' = bo
      · rw [hne, hnew] at hbo'
        exact absurd hbo' hxa
      · rw [hold bo' hne] at hbo'
        exact huniq bo' hbo'
  case imported =>
    intro bo' metadata hm
    rcases hadd.metadata_cases hm with rfl | hm
    · exact ⟨a, rfl, hlt, by rw [hadd.heap]; exact Finset.mem_insert_self _ _⟩
    · obtain ⟨a', heq, hlt', hmem⟩ := h.imported bo' metadata hm
      refine ⟨a', heq, by omega, ?_⟩
      rw [hadd.heap]
      simp only [Finset.mem_insert]
      tauto
  case apart =>
    intro bo1 bo2 x h1 h2
    by_cases hne1 : bo1 = bo <;> by_cases hne2 : bo2 = bo
    · rw [hne1, hne2]
    · rw [hold bo2 hne2] at h2
      rw [hne1, hnew] at h1
      have := h.block_lt h2
      simp only [List.mem_cons, List.not_mem_nil, or_false] at h1
      omega
    · rw [hold bo1 hne1] at h1
      rw [hne2, hnew] at h2
      have := h.block_lt h1
      simp only [List.mem_cons, List.not_mem_nil, or_false] at h2
      omega
    · rw [hold bo1 hne1] at h1
      rw [hold bo2 hne2] at h2
      exact h.apart bo1 bo2 x h1 h2

/-- The block that a destroyed object leaves behind is nobody's. -/
theorem Ledger.not_owned_of_left (h : Ledger p) {bo : Nat} {metadata : BufferMetadata}
    (hleft : BlocksLeft p p' bo metadata) : ¬ Owned p' := by
  intro howned
  obtain ⟨a, rfl, -, hmem⟩ := h.imported bo metadata hleft.own
  have hmem' : a + 2 ∈ p'.heap := by
    by_contra hnot
    rcases hleft.heap (a + 2) hmem hnot with heq | heq
    · have : a = a + 2 := Option.some.inj heq
      omega
    · have : a + 1 = a + 2 := Option.some.inj heq
      omega
  obtain ⟨bo', hbo', -⟩ := howned (a + 2) hmem'
  obtain ⟨metadata', hm, -⟩ := exists_of_mem_blocksOf hbo'
  obtain ⟨hne, -⟩ := hleft.metadata_of_some hm
  have hbo'p : a + 2 ∈ blocksOf bo' p := by
    rw [blocksOf, ← hleft.others bo' hne]
    exact hbo'
  refine hne (h.apart bo' bo (a + 2) hbo'p ?_)
  rw [blocksOf_of_some hleft.own, blocks_zeroBoData]
  simp

end

/-! ## One call

  Each of the four cases keeps the ledger, or leaves a block that is nobody's. -/

section

variable (cfg : BuildConfig) (env : Env) {m : Mapper}

/-- The temporary record of a set is nobody's. -/
theorem Ledger.not_owned_of_record (h : Ledger m.proc) {handle : NativeHandle}
    (type : StandardMetadataType) (payload : Payload) (ht : TakesRecord env handle m.proc) :
    ¬ Owned (m.setStandardMetadata env (some handle) type payload).2.proc := by
  obtain ⟨hheap, -, target, hmeta⟩ :=
    Mapper.setStandardMetadata_staged env handle type payload ht h.inv
  have hready := readied_metadata env handle m.proc
  obtain ⟨hsub, -, hnew⟩ := stageMetadata_blocks type payload (withRecord (readied env handle m.proc))
  intro howned
  have hmem : (readied env handle m.proc).next
      ∈ (m.setStandardMetadata env (some handle) type payload).2.proc.heap := by
    rw [hheap]
    exact hsub (Finset.mem_insert_self _ _)
  obtain ⟨bo, hbo, -⟩ := howned _ hmem
  -- neither staged nor stored before
  have hnot : (readied env handle m.proc).next ∉ blocksOf bo m.proc := fun hold => by
    have := h.block_lt hold
    have := hready.next_le
    omega
  rcases hmeta bo with heq | ⟨-, staged, hst, heq⟩
  · rw [blocksOf, heq] at hbo
    exact hnot hbo
  · obtain ⟨metadata, hm, ha⟩ := exists_of_mem_blocksOf hbo
    rw [heq] at hm
    obtain ⟨stored, hstored, rfl⟩ := Option.map_eq_some_iff.mp hm
    rcases storeMetadata_blocks type staged stored _ ha with ha | ha
    · have : (withRecord (readied env handle m.proc)).next ≤ (readied env handle m.proc).next :=
        (hnew staged hst _ ha).1
      have hlt : (readied env handle m.proc).next < (withRecord (readied env handle m.proc)).next :=
        Nat.lt_succ_self _
      omega
    · exact hnot (by rw [blocksOf_of_some hstored]; exact ha)

/-- The call is no set that gets its temporary record, and no release of an object. -/
def KeepsBlocks (env : Env) (m : Mapper) : MapperOp → Prop
  | .setStandardMetadata (some h) _ _ => ¬ TakesRecord env h m.proc
  | .buffer (.freeBuffer (some h)) => ¬ Destroys h m.proc
  | _ => True

/-- **What a call does to the metadata**: nothing; it adds an object; or it is such a release, or such
    a set, which stores what it has staged. -/
theorem mapperStep_metadata (op : MapperOp) (hp : ProcInv m.proc) :
    let p' := (mapperStep cfg env m op).proc
    MetadataKept m.proc p' ∨ (∃ bo a, BlocksAdded m.proc p' bo a) ∨
      (¬ KeepsBlocks env m op ∧ ((∃ bo metadata, BlocksLeft m.proc p' bo metadata) ∨
        ∃ type payload q, ∀ bo, metadataOf bo p' = metadataOf bo m.proc ∨
          ∃ staged, (stageMetadata type payload q).1 = some staged ∧
            metadataOf bo p' = (metadataOf bo m.proc).map (storeMetadata type staged))) := by
  cases op with
  | buffer op =>
    cases op with
    | importBuffer handle =>
      cases handle with
      | none => exact .inl .refl
      | some handle =>
        exact (Mapper.importBuffer_metadata cfg env handle hp).imp id .inl
    | freeBuffer buffer =>
      cases buffer with
      | none => exact .inl .refl
      | some handle =>
        by_cases hd : Destroys handle m.proc
        · exact .inr (.inr ⟨not_not.mpr hd, .inl (Mapper.freeBuffer_destroys env handle hp hd)⟩)
        · exact .inl (Mapper.freeBuffer_metadata env handle hd)
    | lock buffer cpuUsage =>
      cases buffer with
      | none => exact .inl .refl
      | some handle => exact .inl (Mapper.lock_metadata env handle cpuUsage hp)
    | unlock buffer =>
      cases buffer with
      | none => exact .inl .refl
      | some handle => exact .inl (Mapper.unlock_metadata env handle m)
  | getStandardMetadata buffer type =>
    cases buffer with
    | none => exact .inl .refl
    | some handle => exact .inl (Mapper.getStandardMetadata_metadata env handle type hp)
  | setStandardMetadata buffer type payload =>
    cases buffer with
    | none => exact .inl .refl
    | some handle =>
      by_cases ht : TakesRecord env handle m.proc
      · obtain ⟨-, -, target, hmeta⟩ := Mapper.setStandardMetadata_staged env handle type payload ht hp
        refine .inr (.inr ⟨not_not.mpr ht, .inr ⟨type, payload,
          withRecord (readied env handle m.proc), fun bo => ?_⟩⟩)
        exact (hmeta bo).imp id And.right
      · exact .inl (Mapper.setStandardMetadata_metadata env handle type payload ht)

/-- A call that keeps the blocks keeps the ledger. -/
theorem mapperStep_ledger (op : MapperOp) (h : Ledger m.proc) (hk : KeepsBlocks env m op) :
    Ledger (mapperStep cfg env m op).proc := by
  have hinv := mapperStep_inv cfg env op h.inv
  rcases mapperStep_metadata cfg env op h.inv with hkept | ⟨bo, a, hadd⟩ | ⟨hno, -⟩
  · exact h.of_kept hkept hinv
  · exact h.of_added hadd hinv
  · exact absurd hk hno

/-- A call keeps the blocks owned exactly if it is no such set and no such release. -/
theorem mapperStep_owned_iff (op : MapperOp) (h : Ledger m.proc) :
    Owned (mapperStep cfg env m op).proc ↔ KeepsBlocks env m op := by
  constructor
  swap
  · exact fun hk => (mapperStep_ledger cfg env op h hk).owned
  intro howned
  cases op with
  | buffer op =>
    cases op with
    | importBuffer handle => trivial
    | freeBuffer buffer =>
      cases buffer with
      | none => trivial
      | some handle =>
        intro hd
        obtain ⟨bo, metadata, hleft⟩ := Mapper.freeBuffer_destroys env handle h.inv hd
        exact h.not_owned_of_left hleft howned
    | lock buffer cpuUsage => trivial
    | unlock buffer => trivial
  | getStandardMetadata buffer type => trivial
  | setStandardMetadata buffer type payload =>
    cases buffer with
    | none => trivial
    | some handle => exact fun ht => h.not_owned_of_record env type payload ht howned

end

/-! ## Runs -/

/-- **Who owns the blocks.**  Along every run, every block that is allocated after a call belongs to
    exactly one live object, exactly if no call is a set that gets its temporary record, or the
    release of an object. -/
theorem metadataBlocks_owned_iff (cfg : BuildConfig) (env : Env) (ops : List MapperOp) :
    Run.Along (mapperStep cfg env) (fun m op => Owned (mapperStep cfg env m op).proc) Mapper.start
        ops ↔
      Run.Along (mapperStep cfg env) (KeepsBlocks env) Mapper.start ops :=
  Run.along_iff (fun m : Mapper => Ledger m.proc)
    (fun _ op h _ howned =>
      mapperStep_ledger cfg env op h ((mapperStep_owned_iff cfg env op h).mp howned))
    (fun _ op h _ => mapperStep_owned_iff cfg env op h) Ledger.start Run.along_true

/-- The live buffer's state is in order. -/
theorem liveOps_ledger : Ledger (mapperRun .androidBp .plain liveOps).proc :=
  mapperStep_ledger .androidBp .plain (m := .start) (.buffer (.importBuffer (some (rgbaHandle 5))))
    Ledger.start trivial

/-- A dataspace is set on a live buffer, or the buffer is freed: either leaves a block behind. -/
theorem set_and_free_leave_blocks :
    ¬ Owned (mapperRun .androidBp .plain
        (liveOps ++ [.setStandardMetadata (some liveHandle) .dataspace (.ofInt32 1)])).proc ∧
      ¬ Owned (mapperRun .androidBp .plain
        (liveOps ++ [.buffer (.freeBuffer (some liveHandle))])).proc := by
  constructor
  · exact liveOps_ledger.not_owned_of_record .plain .dataspace _ ⟨by decide, by decide⟩
  · intro howned
    exact (mapperStep_owned_iff .androidBp .plain (.buffer (.freeBuffer (some liveHandle)))
      liveOps_ledger).mp howned ⟨by decide, by decide⟩

end GrallocGbm
