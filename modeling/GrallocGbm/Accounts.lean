/-
  What the calls of a mapper cost.

  A mapper gives little back, whatever its clients do.  `Spent` counts the calls of a run that take
  something: the clones handed out with their descriptors, the buffers of the GBM backend, the
  descriptors exported by reads, the records and blocks of sets; and the frees, which return two
  blocks each.  From these counts alone follows how many descriptors, handles, entries and blocks
  the process has (`mapperRun_accounts`): none of them is taken but by a call that counts, none is
  returned but by a free, and nothing is returned twice.

  What is counted is in four places of the state: the open descriptors, the native handles, the
  entries of the buffer table, and the metadata blocks with the temporary records of sets.  The
  block of the driver, those of entries and user data, and everything of the DMA-BUF backend (its
  records, its mappings, the allocator it talks to) are not counted; the descriptors of its clones
  are.

  1. **The account** — `Spent.after` looks at one call in the state it is made in.  It is a function
     of the answers of the outside, as the call is.

  2. **Calls that cost nothing** — `Level`: locks, unlocks, calls that are refused, and readying a
     backend, which opens the render node once and is told from `nodeFds`.

  3. **The blocks of an object** — the crux is that a free returns exactly two: the two blocks it
     releases are allocated, apart from each other, and no other object's (`TwoApart`, `BlocksInv`).
     The third, that of the bytes of SMPTE2094_50, it leaves.

  4. **The balance** — `Balanced`, with one lemma for each call that counts.

  The driver is counted while it is live.  One that was released has no descriptor, even where it
  reads as ready.
-/
import GrallocGbm.HdrBlocks
import GrallocGbm.SyncBracketing

namespace GrallocGbm

/-! ## The account

  What a run has spent, kept beside the mapper: a number for each kind of thing, changed by each
  call as its outcome says. -/

/-- What the calls of a run have taken, and the frees. -/
structure Spent where
  /-- Handles handed out, and the descriptors in them. -/
  clones : Nat
  cloneFds : Nat
  /-- Buffers of the GBM backend, imported and freed. -/
  objects : Nat
  frees : Nat
  /-- Descriptors that reads have exported. -/
  exports : Nat
  /-- Temporary records of sets, and the blocks that were staged. -/
  records : Nat
  staged : Nat
  deriving DecidableEq, Repr

/-- Nothing taken yet. -/
def Spent.zero : Spent := ⟨0, 0, 0, 0, 0, 0, 0⟩

instance (h : NativeHandle) (p : Proc) : Decidable (LiveGbm h p) :=
  inferInstanceAs (Decidable (_ ∧ _))

instance (env : Env) (h : NativeHandle) (p : Proc) : Decidable (TakesRecord env h p) :=
  inferInstanceAs (Decidable (_ ∧ _))

/-- The read gets as far as to export a descriptor. -/
def ExportsFd (env : Env) (h : NativeHandle) (type : StandardMetadataType) (p : Proc) : Prop :=
  (type.isKnown = true ∧ LiveGbm h p) ∧ (env.newFd p.calls.length p.fds).isSome = true

instance (env : Env) (h : NativeHandle) (type : StandardMetadataType) (p : Proc) :
    Decidable (ExportsFd env h type p) :=
  inferInstanceAs (Decidable (_ ∧ _))

/-- The blocks that staging a payload takes. -/
def StandardMetadataType.stagedBlocks (payload : Payload) : StandardMetadataType → Nat
  | .smpte2086 => 1
  | .cta8613 => 1
  | .smpte209450 => if payload.metadataSize > grallocGenericSmpte209450MaxSize then 0 else 1
  | _ => 0

/-- The account after one more call, made in the state `m`. -/
def Spent.after (cfg : BuildConfig) (env : Env) (m : Mapper) (n : Spent) : MapperOp → Spent
  | .buffer (.importBuffer (some h)) =>
    (m.importBuffer cfg env (some h)).1.2.elim n fun c =>
      { n with
        clones := n.clones + 1
        cloneFds := n.cloneFds + c.fds.length
        objects := n.objects + if routedTo (grallocHandle h) = .mapperGrallocGbm then 1 else 0 }
  | .buffer (.freeBuffer (some h)) => { n with frees := n.frees + if LiveGbm h m.proc then 1 else 0 }
  | .getStandardMetadata (some h) type =>
    { n with exports := n.exports + if ExportsFd env h type m.proc then 1 else 0 }
  | .setStandardMetadata (some h) type payload =>
    if TakesRecord env h m.proc then
      { n with records := n.records + 1, staged := n.staged + type.stagedBlocks payload }
    else n
  | _ => n

/-- A mapper with its account. -/
def accountStep (cfg : BuildConfig) (env : Env) (s : Mapper × Spent) (op : MapperOp) :
    Mapper × Spent :=
  (mapperStep cfg env s.1 op, s.2.after cfg env s.1 op)

/-- A run with its account. -/
def accountRun (cfg : BuildConfig) (env : Env) (ops : List MapperOp) : Mapper × Spent :=
  ops.foldl (accountStep cfg env) (.start, .zero)

/-- The account is kept beside the mapper, and does not change it. -/
theorem accountRun_fst (cfg : BuildConfig) (env : Env) (ops : List MapperOp) :
    (accountRun cfg env ops).1 = mapperRun cfg env ops :=
  Run.foldl_sim (fun (s : Mapper × Spent) (m : Mapper) => s.1 = m)
    (fun s m op h _ => by rw [← h]; rfl) rfl Run.along_true

/-- The descriptor of the render node. -/
def nodeFds (p : Proc) : Nat :=
  match p.gDriver with
  | .live _ => 1
  | _ => 0

/-- It depends on the driver only. -/
theorem nodeFds.congr {p p' : Proc} (h : p'.gDriver = p.gDriver) : nodeFds p' = nodeFds p := by
  rw [nodeFds, nodeFds, h]

/-- A driver that is not ready holds no render node. -/
theorem nodeFds_of_not_ready {p : Proc} (h : isGrallocGbmReady p = false) : nodeFds p = 0 := by
  unfold isGrallocGbmReady at h
  unfold nodeFds
  cases hd : p.gDriver with
  | live fd =>
    rw [hd] at h
    cases h
  | null => rfl
  | released ready => rfl

/-! ## Calls that cost nothing

  Locks, unlocks and refused calls leave all the numbers as they are. -/

/-- `p'` has the entries, handles and descriptors of `p`, and the render node if it has been opened
    meanwhile. -/
structure SameCounts (p p' : Proc) : Prop where
  table : p'.table = p.table
  handles : p'.handles = p.handles
  fds : p'.fds.card + nodeFds p = p.fds.card + nodeFds p'

/-- And the blocks. -/
structure Level (p p' : Proc) : Prop extends SameCounts p p' where
  kept : MetadataKept p p'

section

variable {p p' p'' : Proc}

/-- Two stretches that cost nothing. -/
theorem SameCounts.trans (h : SameCounts p p') (h' : SameCounts p' p'') : SameCounts p p'' where
  table := h'.table.trans h.table
  handles := h'.handles.trans h.handles
  fds := by
    have h1 := h.fds
    have h2 := h'.fds
    omega

/-- The same entries, handles and descriptors. -/
theorem SameCounts.of_same (htable : p'.table = p.table) (hhandles : p'.handles = p.handles)
    (hfds : p'.fds = p.fds) (hdriver : p'.gDriver = p.gDriver) : SameCounts p p' := by
  refine ⟨htable, hhandles, ?_⟩
  rw [hfds, nodeFds.congr hdriver]

end

namespace Level

variable {p p' p'' : Proc}

/-- Two stretches that cost nothing. -/
theorem trans (h : Level p p') (h' : Level p' p'') : Level p p'' :=
  ⟨h.toSameCounts.trans h'.toSameCounts, h.kept.trans h'.kept⟩

/-- Everything that is counted is the same. -/
theorem of_same (htable : p'.table = p.table) (hhandles : p'.handles = p.handles)
    (hfds : p'.fds = p.fds) (hdriver : p'.gDriver = p.gDriver) (hkept : MetadataKept p p') :
    Level p p' :=
  ⟨.of_same htable hhandles hfds hdriver, hkept⟩

/-- Nothing was done. -/
theorem refl : Level p p := of_same rfl rfl rfl rfl .refl

/-- Rewriting the lock state of an object. -/
theorem of_modify {bo : Nat} {f : GbmBoData → GbmBoData} (hf : ∀ d, (f d).metadata = d.metadata)
    (calls : List ExtCall) : Level p (modifyBoData bo f { p with calls := calls }) :=
  of_same rfl rfl rfl rfl (.of_modify hf calls)

end Level

/-- An init opens the render node exactly if it makes the driver ready. -/
theorem grallocGbmInit_level (env : Env) (p : Proc) : Level p (grallocGbmInit env p).2 := by
  cases hready : isGrallocGbmReady p with
  | true =>
    have hinit : grallocGbmInit env p = (0, p) := if_pos hready
    rw [hinit]
    exact .refl
  | false =>
    have hnode : nodeFds p = 0 := nodeFds_of_not_ready hready
    unfold grallocGbmInit callocChecked openFd
    simp only [hready, Bool.false_eq_true, if_false]
    cases ha : env.alloc p.calls.length with
    | false =>
      simp only [Bool.false_eq_true, if_false]
      refine ⟨⟨rfl, rfl, ?_⟩, .of_same rfl (Nat.le_succ _) rfl⟩
      rw [hnode]
      simp [nodeFds]
    | true =>
      simp only [if_true]
      cases hf : env.newFd (ExtCall.alloc true :: p.calls).length p.fds with
      | none =>
        refine ⟨⟨rfl, rfl, ?_⟩, .of_same rfl (Nat.le_succ _) rfl⟩
        rw [hnode]
        simp [nodeFds, addFd]
      | some fd =>
        have hfresh := (env.newFd_fresh _ _ _ hf).2
        dsimp only
        split
        · refine ⟨⟨rfl, rfl, ?_⟩, .of_same rfl (Nat.le_succ _) rfl⟩
          rw [hnode]
          simp [nodeFds, addFd, Finset.card_insert_of_notMem hfresh]
        · refine ⟨⟨rfl, rfl, ?_⟩, .of_same rfl (Nat.le_succ _) rfl⟩
          rw [hnode]
          simp [nodeFds, addFd, closeFd, Finset.erase_insert hfresh]

/-- Readying a backend opens the render node at most, and that is told apart. -/
theorem readied_level (env : Env) (h : NativeHandle) (p : Proc) : Level p (readied env h p) := by
  unfold readied
  cases routedTo (grallocHandle h) with
  | mapperGrallocDmabuf =>
    obtain ⟨da, cs, heq, -⟩ := ensureReady_dmabuf env p
    rw [heq]
    exact .of_same rfl rfl rfl rfl (.of_same rfl (le_refl _) rfl)
  | mapperGrallocGbm =>
    simp only [MapperBackendType.ensureReady, MapperBackendType.isReady, MapperBackendType.init]
    cases isGrallocGbmReady p with
    | true => exact .refl
    | false => exact grallocGbmInit_level env p

section

variable (env : Env) (h : NativeHandle) {m : Mapper}

/-- A lock costs nothing, -/
theorem Mapper.lock_level (cpuUsage : UInt64) (hp : ProcInv m.proc) :
    Level m.proc (m.lock env (some h) cpuUsage).2.proc := by
  have hready := readied_level env h m.proc
  apply Mapper.lock_proc env h cpuUsage (fun _ => .refl) hready
  · refine hready.trans ?_
    rcases grallocGbmAndroidBufferLock_cases env h cpuUsage.toUInt32 (hp.readied env h).user_data with
      ⟨ret, hr, -⟩ | ⟨e, d, -, -, -, -, ⟨-, hr⟩ | ⟨-, -, transfer, hr | ⟨a, hr⟩⟩⟩ <;> rw [hr]
    · exact .refl
    · exact .of_modify (by intro d; rfl) _
    · exact .of_same rfl rfl rfl rfl (.of_same rfl (le_refl _) rfl)
    · exact .of_modify (by intro d; rfl) _
  · refine hready.trans ?_
    rcases MapperBackendDmaBuf.lock_cases env h cpuUsage (readied env h m.proc) with
      ⟨-, hr⟩ | ⟨bi, -, ⟨-, hr⟩ | ⟨a, q, hq, hr⟩⟩
    · rw [hr]
      exact .refl
    · rw [hr]
      exact .of_same rfl rfl rfl rfl (.of_same rfl (le_refl _) rfl)
    · rcases hq with ⟨-, rfl⟩ | ⟨-, rfl⟩ <;> rcases hr with ⟨-, hr⟩ | ⟨-, hr⟩ <;> rw [hr] <;>
        exact .of_same rfl rfl rfl rfl (.of_same rfl (le_refl _) rfl)

/-- nor does an unlock. -/
theorem Mapper.unlock_level (m : Mapper) : Level m.proc (m.unlock env (some h)).2.proc := by
  have hready := readied_level env h m.proc
  apply Mapper.unlock_proc env h hready
  · refine hready.trans ?_
    rcases grallocGbmAndroidBufferUnlock_cases h (readied env h m.proc) with
      hr | ⟨e, d, -, -, -, ⟨-, hr⟩ | ⟨-, hr⟩⟩ <;> rw [hr]
    · exact .refl
    · exact .of_modify (by intro d; rfl) _
    · exact .of_modify (by intro d; rfl) _
  · refine hready.trans ?_
    unfold MapperBackendDmaBuf.unlock
    dsimp only
    split
    · exact .refl
    · exact .of_same rfl rfl rfl rfl (.of_same rfl (le_refl _) rfl)

/-- A free that finds no buffer. -/
theorem Mapper.freeBuffer_level (hno : ¬ LiveGbm h m.proc) :
    Level m.proc (m.freeBuffer env (some h)).2.proc := by
  have hready := readied_level env h m.proc
  refine Mapper.withBackend_proc hready (hready.trans ?_)
  cases hb : routedTo (grallocHandle h) with
  | mapperGrallocDmabuf =>
    dsimp only
    rcases MapperBackendDmaBuf.freeBuffer_cases env h (readied env h m.proc) with
      ⟨-, hf⟩ | ⟨bi, -, hf⟩ <;> rw [hf]
    · exact .refl
    · exact .of_same rfl rfl rfl rfl (.of_same rfl (le_refl _) rfl)
  | mapperGrallocGbm =>
    have hnone : findBufferK (grallocHandle h).primeFd (readied env h m.proc).table = none := by
      rw [hready.table]
      by_contra hsome
      exact hno ⟨hb, Option.isSome_iff_ne_none.mpr hsome⟩
    dsimp only
    rcases grallocGbmAndroidBufferFree_cases h (readied env h m.proc) with
      ⟨-, hf⟩ | ⟨-, -, hf⟩ | ⟨e, -, he, -⟩ | ⟨e, b, -, he, -⟩
    · rw [hf]
      exact .refl
    · rw [hf]
      exact .refl
    · rw [hnone] at he
      cases he
    · rw [hnone] at he
      cases he

/-- A read that finds no buffer, or asks for a type without a name. -/
theorem Mapper.getStandardMetadata_level (type : StandardMetadataType)
    (hno : ¬ (type.isKnown = true ∧ LiveGbm h m.proc)) :
    Level m.proc (m.getStandardMetadata env (some h) type).2.proc := by
  have hready := readied_level env h m.proc
  refine Mapper.withBackend_proc hready ?_
  cases hb : routedTo (grallocHandle h) with
  | mapperGrallocDmabuf =>
    have hleaf : Level m.proc
        (MapperBackendDmaBuf.getStandardMetadata env h type (readied env h m.proc)).2.2 := by
      rw [MapperBackendDmaBuf.getStandardMetadata_leaves]
      exact hready
    dsimp only
    split <;> exact hleaf
  | mapperGrallocGbm =>
    have hleaf : Level m.proc
        (MapperBackendGrallocGbm.getStandardMetadata env h type (readied env h m.proc)).2.2 := by
      unfold MapperBackendGrallocGbm.getStandardMetadata provideStandardMetadata
      cases hk : type.isKnown with
      | false => exact hready
      | true =>
        have hnone : findBufferK (grallocHandle h).primeFd (readied env h m.proc).table = none := by
          rw [hready.table]
          by_contra hsome
          exact hno ⟨hk, hb, Option.isSome_iff_ne_none.mpr hsome⟩
        simp only [Bool.not_true, Bool.false_eq_true, if_false, grallocGbmQueryAndroidBufferMetadata,
          grallocGbmAndroidBufferQuery, hnone]
        exact hready
    dsimp only
    split <;> exact hleaf

/-- A set that does not get its record. -/
theorem Mapper.setStandardMetadata_level (type : StandardMetadataType) (payload : Payload)
    (hno : ¬ TakesRecord env h m.proc) :
    Level m.proc (m.setStandardMetadata env (some h) type payload).2.proc := by
  have hready := readied_level env h m.proc
  rcases Mapper.setStandardMetadata_cases env h type payload (m := m) with
    ⟨-, -, hr | hr⟩ | ⟨ht, -⟩ | ⟨ht, -⟩
  · rw [hr]
    exact hready
  · rw [hr]
    exact hready.trans (.of_same rfl rfl rfl rfl (.of_same rfl (Nat.le_succ _) rfl))
  · exact absurd ht hno
  · exact absurd ht hno

end

/-! ## The blocks of an object

  A free releases two blocks.  For that to count as two, the two pointers of a record must be
  different and on the heap, which is an invariant of its own (`HeapOk`). -/

/-- The two blocks that a release of the object returns: they are there, and they are two. -/
def TwoApart (metadata : BufferMetadata) : Prop :=
  ∃ x y, metadata.smpte2086 = some x ∧ metadata.cta8613 = some y ∧ x.addr ≠ y.addr

/-- The blocks of new user data are two. -/
theorem twoApart_zeroBoData (a : Nat) : TwoApart (zeroBoData a).metadata :=
  ⟨_, _, rfl, rfl, Nat.ne_of_lt (Nat.lt_succ_self a)⟩

/-- A block that is stored is not the one that stays. -/
theorem TwoApart.storeMetadata {stored staged : BufferMetadata} (h : TwoApart stored)
    {type : StandardMetadataType} {payload : Payload} {q : Proc}
    (hnew : ∀ a ∈ stored.blocks, a < q.next) (hst : (stageMetadata type payload q).1 = some staged) :
    TwoApart (storeMetadata type staged stored) := by
  obtain ⟨x, y, hx, hy, hne⟩ := h
  have hlt : x.addr < q.next ∧ y.addr < q.next := by
    constructor <;> apply hnew <;> simp [BufferMetadata.blocks, hx, hy]
  cases type
  case smpte2086 =>
    cases hst
    refine ⟨_, y, rfl, hy, ?_⟩
    show q.next ≠ y.addr
    omega
  case cta8613 =>
    cases hst
    refine ⟨x, _, hx, rfl, ?_⟩
    show x.addr ≠ q.next
    omega
  all_goals exact ⟨x, y, hx, hy, hne⟩

/-- What holds of the heap in every state of a mapper. -/
structure HeapOk (p : Proc) : Prop where
  blocks : BlocksInv p
  heap_lt : ∀ a ∈ p.heap, a < p.next
  two : ∀ bo metadata, metadataOf bo p = some metadata → TwoApart metadata

/-- There is no block yet. -/
theorem HeapOk.start : HeapOk Proc.start where
  blocks := .start
  heap_lt := by intro a ha; cases ha
  two := by intro bo metadata h; cases h

section

variable {p p' : Proc}

/-- A step that leaves the metadata alone. -/
theorem HeapOk.of_kept (h : HeapOk p) (hk : MetadataKept p p') (hinv : ProcInv p') : HeapOk p' where
  blocks := h.blocks.of_kept hk hinv
  heap_lt := by
    intro a ha
    rw [hk.heap] at ha
    exact lt_of_lt_of_le (h.heap_lt a ha) hk.next_le
  two := by
    intro bo metadata hm
    rw [hk.metadata] at hm
    exact h.two bo metadata hm

/-- A step that makes one object, with blocks of its own. -/
theorem HeapOk.of_added (h : HeapOk p) {bo a : Nat} (hadd : BlocksAdded p p' bo a)
    (hinv : ProcInv p') : HeapOk p' where
  blocks := h.blocks.of_added hadd hinv
  heap_lt := by
    intro x hx
    obtain ⟨hle, hlt⟩ := hadd.addr_new
    rw [hadd.heap] at hx
    simp only [Finset.mem_insert] at hx
    rcases hx with rfl | rfl | rfl | hx
    · omega
    · omega
    · omega
    · have := h.heap_lt x hx
      omega
  two := by
    intro bo' metadata hm
    rcases hadd.metadata_cases hm with rfl | hm
    · exact twoApart_zeroBoData a
    · exact h.two bo' metadata hm

end

section

variable (env : Env) (h : NativeHandle) {m : Mapper}

/-- **A release returns two blocks**, and the entry. -/
theorem Mapper.freeBuffer_returned (hm : HeapOk m.proc) (hlive : LiveGbm h m.proc) :
    let p' := (m.freeBuffer env (some h)).2.proc
    p'.table.length + 1 = m.proc.table.length ∧ p'.handles = m.proc.handles ∧
      p'.fds = m.proc.fds ∧ p'.gDriver = m.proc.gDriver ∧ p'.heap.card + 2 = m.proc.heap.card ∧
      HeapOk p' := by
  intro p'
  have hp := hm.blocks.inv
  obtain ⟨hgbm, hsome⟩ := hlive
  obtain ⟨e, he⟩ := Option.isSome_iff_exists.mp hsome
  have hmem := Keyed.mem_of_lookup he
  have hready := hp.ready (List.ne_nil_of_mem hmem)
  obtain ⟨-, b, d, hb, hd⟩ := hp.exists_object hmem
  have hfree : p' = deleteBuffer e (gbmBoDestroy e.bo b m.proc) := by
    show (m.freeBuffer env (some h)).2.proc = _
    unfold Mapper.freeBuffer
    dsimp only
    rw [Mapper.withBackend_gbm hgbm hready]
    simp only [grallocGbmAndroidBufferFree, hready, he, hb]
    rfl
  have hown : metadataOf e.bo m.proc = some d.metadata := by
    simp [metadataOf, gbmBoGetUserData, hb, hd]
  obtain ⟨x, y, hx, hy, hne⟩ := hm.two e.bo d.metadata hown
  have hheap : p'.heap = (m.proc.heap.erase x.addr).erase y.addr := by
    rw [hfree, deleteBuffer, gbmBoDestroy, hd]
    simp [grallocGbmBoDataDestroy, freeBlock, hx, hy]
  have hin : ∀ a ∈ d.metadata.blocks, a ∈ m.proc.heap := by
    intro a ha
    apply hm.blocks.allocated e.bo a
    rw [blocksOf_of_some hown]
    exact ha
  have hxin : x.addr ∈ m.proc.heap := hin _ (by simp [BufferMetadata.blocks, hx])
  have hyin : y.addr ∈ m.proc.heap.erase x.addr :=
    Finset.mem_erase.mpr ⟨hne.symm, hin _ (by simp [BufferMetadata.blocks, hy])⟩
  obtain ⟨heap, hdestroy⟩ := gbmBoDestroy_eq e.bo b m.proc
  refine ⟨?_, ?_, ?_, ?_, ?_, ?_⟩
  · rw [hfree, deleteBuffer, hdestroy]
    exact Keyed.length_remove hp.addrs hmem
  · rw [hfree, deleteBuffer, hdestroy]
  · rw [hfree, deleteBuffer, hdestroy]
  · rw [hfree, deleteBuffer, hdestroy]
  · rw [hheap]
    have h1 := Finset.card_erase_add_one hyin
    have h2 := Finset.card_erase_add_one hxin
    omega
  · obtain ⟨bo, metadata, hleft⟩ := Mapper.freeBuffer_destroys env h hp ⟨hgbm, hsome⟩
    have hnext := Mapper.freeBuffer_next env h hp
    have hinv := bufferStep_inv .androidBp env (.freeBuffer (some h)) hp
    constructor
    case blocks => exact hm.blocks.of_left hleft hnext hinv
    case heap_lt =>
      intro a ha
      rw [hheap] at ha
      exact lt_of_lt_of_le (hm.heap_lt a (Finset.mem_of_mem_erase (Finset.mem_of_mem_erase ha))) hnext
    case two => exact fun bo' metadata' hm' => hm.two bo' metadata' (hleft.metadata_of_some hm').2

/-! ## Sets

  The record of a set and the block of its type are both new, and neither is released. -/

/-- Staging takes its blocks from where none is allocated. -/
theorem stageMetadata_card (type : StandardMetadataType) (payload : Payload) {q : Proc}
    (hlt : ∀ a ∈ q.heap, a < q.next) :
    let q' := (stageMetadata type payload q).2
    q'.heap.card = q.heap.card + type.stagedBlocks payload ∧ ∀ a ∈ q'.heap, a < q'.next := by
  intro q'
  have hfresh : q.next ∉ q.heap := fun hmem => lt_irrefl _ (hlt _ hmem)
  have hblock : (callocBlock q).2.heap.card = q.heap.card + 1 ∧
      ∀ a ∈ (callocBlock q).2.heap, a < (callocBlock q).2.next := by
    refine ⟨Finset.card_insert_of_notMem hfresh, fun a ha => ?_⟩
    rcases Finset.mem_insert.mp ha with rfl | ha
    · exact Nat.lt_succ_self _
    · exact Nat.lt_succ_of_lt (hlt a ha)
  cases type
  case smpte2086 => exact hblock
  case cta8613 => exact hblock
  case smpte209450 =>
    by_cases hlen : payload.metadataSize > grallocGenericSmpte209450MaxSize
    · have hq : stageMetadata .smpte209450 payload q = (none, q) := if_pos hlen
      simp only [q', hq, StandardMetadataType.stagedBlocks, if_pos hlen]
      exact ⟨rfl, hlt⟩
    · have hq : stageMetadata .smpte209450 payload q = _ := if_neg hlen
      simp only [q', hq, StandardMetadataType.stagedBlocks, if_neg hlen]
      exact hblock
  all_goals exact ⟨rfl, hlt⟩

/-- A set takes no descriptor, handle or entry: what it takes are blocks. -/
theorem Mapper.setStandardMetadata_counts (type : StandardMetadataType) (payload : Payload)
    (hp : ProcInv m.proc) :
    SameCounts m.proc (m.setStandardMetadata env (some h) type payload).2.proc := by
  have hready := (readied_level env h m.proc).toSameCounts
  refine Mapper.setStandardMetadata_proc env h type payload
    (fun heap n cs _ _ => hready.trans (.of_same rfl rfl rfl rfl)) (fun data q hq hs => ?_) hp
  rcases MapperBackendGrallocGbm.setStandardMetadata_cases h type data hq with
    ⟨-, hr, -⟩ | ⟨e, -, hr⟩ <;> rw [hr]
  · exact hs
  · exact hs.trans (.of_same rfl rfl rfl rfl)

/-- **A set takes its record and the blocks it stages**, done or refused. -/
theorem Mapper.setStandardMetadata_taken (type : StandardMetadataType) (payload : Payload)
    (hm : HeapOk m.proc) (ht : TakesRecord env h m.proc) :
    let p' := (m.setStandardMetadata env (some h) type payload).2.proc
    p'.heap.card = m.proc.heap.card + 1 + type.stagedBlocks payload ∧ HeapOk p' := by
  intro p'
  have hready := readied_metadata env h m.proc
  obtain ⟨hheap, hnext, target, hmeta⟩ :=
    Mapper.setStandardMetadata_staged env h type payload ht hm.blocks.inv
  have hrecord : ∀ a ∈ (withRecord (readied env h m.proc)).heap,
      a < (withRecord (readied env h m.proc)).next := by
    intro a ha
    rcases Finset.mem_insert.mp ha with rfl | ha
    · exact Nat.lt_succ_self _
    · rw [hready.heap] at ha
      exact Nat.lt_succ_of_lt (lt_of_lt_of_le (hm.heap_lt a ha) hready.next_le)
  have hcard : (withRecord (readied env h m.proc)).heap.card = m.proc.heap.card + 1 := by
    rw [← hready.heap]
    refine Finset.card_insert_of_notMem fun hmem => ?_
    rw [hready.heap] at hmem
    exact absurd (hm.heap_lt _ hmem) (not_lt.mpr hready.next_le)
  obtain ⟨hstaged, hlt⟩ := stageMetadata_card type payload hrecord
  refine ⟨?_, hm.blocks.setStandardMetadata env h type payload ht, ?_, fun bo metadata hbo => ?_⟩
  · rw [show p'.heap = _ from hheap, hstaged, hcard]
  · intro a ha
    rw [show p'.heap = _ from hheap] at ha
    rw [show p'.next = _ from hnext]
    exact hlt a ha
  · rcases hmeta bo with heq | ⟨-, staged, hst, heq⟩
    · exact hm.two bo metadata (heq ▸ hbo)
    · obtain ⟨stored, hstored, rfl⟩ := Option.map_eq_some_iff.mp (heq.symm.trans hbo)
      refine (hm.two bo stored hstored).storeMetadata (fun a ha => ?_) hst
      have hold := hm.blocks.block_lt bo a (by rw [blocksOf_of_some hstored]; exact ha)
      exact Nat.lt_succ_of_lt (lt_of_lt_of_le hold hready.next_le)

end

/-! ## Imports

  An import opens as many descriptors as it duplicates, all of them different. -/

/-- Duplicates are different descriptors. -/
theorem dupAll_nodup (env : Env) (l : List Int) (p : Proc) {ds : List Int} {p' : Proc}
    (h : dupAll env l p = (some ds, p')) : ds.Nodup := by
  induction l generalizing p ds p' with
  | nil =>
    cases h
    exact List.nodup_nil
  | cons fd l ih =>
    unfold dupAll at h
    rcases dupFd_cases env fd p with hno | ⟨d, -, -, hyes⟩
    · rw [hno] at h
      cases h
    · rw [hyes] at h
      dsimp only at h
      rcases dupAll_spec env l
          { p with fds := insert d p.fds, calls := .dup fd (some d) :: p.calls } with
        ⟨ds', cs, heq, -, hfresh⟩ | ⟨cs, heq⟩
      · rw [heq] at h
        cases h
        refine List.nodup_cons.mpr ⟨fun hmem => ?_, ih _ heq⟩
        exact (hfresh d hmem).2 (Finset.mem_insert_self d p.fds)
      · rw [heq] at h
        cases h

/-- The descriptors of a clone are as many as the clone has. -/
theorem nativeHandleClone_nodup (env : Env) (h : NativeHandle) (p : Proc) {c : NativeHandle}
    {p' : Proc} (hc : nativeHandleClone env h p = (some c, p')) : c.fds.Nodup := by
  unfold nativeHandleClone at hc
  cases hcreate : nativeHandleCreate env h.numFds h.numInts p with
  | mk made q =>
    cases made with
    | none => simp [hcreate] at hc
    | some c0 =>
      simp only [hcreate] at hc
      cases hdup : dupAll env h.fds q with
      | mk dups q' =>
        cases dups with
        | none => simp [hdup] at hc
        | some ds =>
          simp only [hdup, Prod.mk.injEq, Option.some.injEq] at hc
          obtain ⟨rfl, rfl⟩ := hc
          have hlen : ds.length = h.fds.length := by
            rcases dupAll_spec env h.fds q with ⟨ds', cs, heq, hlen, -⟩ | ⟨cs, heq⟩
            · rw [hdup] at heq
              cases heq
              exact hlen
            · rw [hdup] at heq
              cases heq
          have hfds : c0.numFds = h.numFds := by
            unfold nativeHandleCreate at hcreate
            split at hcreate
            · cases hcreate
            · split at hcreate
              · cases hcreate
              · cases hcreate
                rfl
          rw [@fds_of_data _ ds (by rw [hlen, hfds]; simp [NativeHandle.fds]) fun i hi => if_pos hi]
          exact dupAll_nodup env _ _ hdup

section

variable (cfg : BuildConfig) (env : Env) (h : NativeHandle) {m : Mapper}

/-- So are the descriptors of a clone, which the account counts one by one. -/
theorem importClone_nodup (backend : MapperBackendType) (p : Proc) {c : NativeHandle}
    (hc : (importClone cfg env h backend p).1.2 = some c) : c.fds.Nodup := by
  unfold importClone at hc
  cases hclone : nativeHandleClone env h p with
  | mk made q =>
    cases made with
    | none => simp [hclone] at hc
    | some c' =>
      simp only [hclone] at hc
      cases backend <;> dsimp only at hc <;> split at hc <;> cases hc <;>
        exact nativeHandleClone_nodup env h p hclone

/-- The same for the handle that an import hands out. -/
theorem Mapper.importBuffer_nodup {c : NativeHandle}
    (hc : (m.importBuffer cfg env (some h)).1.2 = some c) : c.fds.Nodup := by
  by_cases h0 : h.numFds = 0
  · have hr : m.importBuffer cfg env (some h) = ((.badBuffer, none), m) := if_pos h0
    rw [hr] at hc
    cases hc
  have hr : m.importBuffer cfg env (some h)
      = m.withBackend env h (.noResources, none) (importClone cfg env h) := if_neg h0
  rw [hr] at hc
  cases hok : ((routedTo (grallocHandle h)).ensureReady env m.proc).1 with
  | false =>
    rw [Mapper.withBackend_failed hok] at hc
    cases hc
  | true =>
    rw [Mapper.withBackend_ready hok] at hc
    exact importClone_nodup cfg env h _ _ hc

/-- An import costs a handle, its descriptors, and for the GBM backend an entry and three blocks. -/
theorem Imported.counts {p p' : Proc} {c : NativeHandle} {backend : MapperBackendType}
    (hi : Imported cfg p c backend p') :
    p'.table.length = p.table.length + (if backend = .mapperGrallocGbm then 1 else 0) ∧
      p'.gDriver = p.gDriver := by
  cases hi with
  | gbm => exact ⟨rfl, rfl⟩
  | dmabuf => exact ⟨rfl, rfl⟩

/-- Three blocks where none is allocated. -/
theorem card_insert_three {s : Finset Nat} {n a : Nat} (hlt : ∀ x ∈ s, x < n) (hle : n ≤ a) :
    (insert (a + 2) (insert (a + 1) (insert a s))).card = s.card + 3 := by
  have hnot : ∀ x, n ≤ x → x ∉ s := fun x hx hmem => absurd (hlt x hmem) (not_lt.mpr hx)
  rw [Finset.card_insert_of_notMem, Finset.card_insert_of_notMem, Finset.card_insert_of_notMem]
  · exact hnot a hle
  · simp [hnot (a + 1) (by omega)]
  · simp [hnot (a + 2) (by omega)]

/-- **An import takes its clone**, and what the GBM backend makes of it; or nothing. -/
theorem Mapper.importBuffer_taken (hm : HeapOk m.proc) :
    let r := m.importBuffer cfg env (some h)
    (r.1.2 = none ∧ Level m.proc r.2.proc) ∨
    ∃ c, r.1.2 = some c ∧ HeapOk r.2.proc ∧
      let objects := if routedTo (grallocHandle h) = .mapperGrallocGbm then 1 else 0
      r.2.proc.table.length = m.proc.table.length + objects ∧
      r.2.proc.handles.card = m.proc.handles.card + 1 ∧
      r.2.proc.fds.card + nodeFds m.proc = m.proc.fds.card + nodeFds r.2.proc + c.fds.length ∧
      r.2.proc.heap.card = m.proc.heap.card + 3 * objects := by
  intro r
  have hready := readied_level env h m.proc
  have hinv := hm.blocks.inv.readied env h
  rcases Mapper.importBuffer_cases cfg env h hm.blocks.inv with
    ⟨-, hr⟩ | ⟨-, -, hr, n, cs, hn, hp⟩ | ⟨htaken, -, c, hr, hc, hi⟩
  · exact .inl ⟨by rw [show r = _ from hr], by rw [show r = _ from hr]; exact .refl⟩
  · refine .inl ⟨by rw [show r.1 = _ from hr], ?_⟩
    rw [show r.2.proc = _ from hp]
    exact hready.trans (.of_same rfl rfl rfl rfl (.of_same rfl hn rfl))
  refine .inr ⟨c, by rw [show r.1 = _ from hr], ?_⟩
  have hfds : c.fds.toFinset.card = c.fds.length :=
    List.toFinset_card_of_nodup (Mapper.importBuffer_nodup cfg env h (by rw [hr]))
  have hdisjoint : Disjoint (readied env h m.proc).fds c.fds.toFinset := by
    rw [Finset.disjoint_right]
    exact fun d hd => (hc.fresh d (List.mem_toFinset.mp hd)).2
  have hunion := Finset.card_union_of_disjoint hdisjoint
  have hhandles := Finset.card_insert_of_notMem
    (fun hmem => lt_irrefl _ (hinv.handle_lt _ hmem) :
      (readied env h m.proc).next ∉ (readied env h m.proc).handles)
  have hok : HeapOk r.2.proc := by
    have hinv' := bufferStep_inv cfg env (.importBuffer (some h)) hm.blocks.inv
    rcases Mapper.importBuffer_metadata cfg env h hm.blocks.inv with hkept | ⟨bo, a, hadd⟩
    · exact hm.of_kept hkept hinv'
    · exact hm.of_added hadd hinv'
  have hheap := Mapper.importBuffer_heap cfg env h hm.blocks.inv htaken.1
  simp only [hr, and_true] at hheap
  obtain ⟨htable, hdriver⟩ := hi.counts
  obtain ⟨hfds', hhandles'⟩ := hi.acquired
  have hnode := hready.fds
  refine ⟨hok, ?_, ?_, ?_, ?_⟩
  · rw [← hready.table]
    exact htable
  · rw [← hready.handles, ← hhandles, ← hhandles']
  · rw [show r.2.proc.fds = _ from hfds', hunion, hfds, nodeFds.congr hdriver]
    omega
  · rw [show r.2.proc.heap = _ from hheap, hready.kept.heap]
    split
    · exact card_insert_three hm.heap_lt (le_trans hready.kept.next_le (Nat.le_add_right _ 3))
    · rfl

end

/-! ## Reads

  A read opens one descriptor, if it comes to the export and that succeeds. -/

section

variable (env : Env) (h : NativeHandle) {m : Mapper}

/-- A read exports a descriptor, or costs nothing. -/
theorem Mapper.getStandardMetadata_exported (type : StandardMetadataType) (hp : ProcInv m.proc) :
    let p' := (m.getStandardMetadata env (some h) type).2.proc
    p'.table = m.proc.table ∧ p'.handles = m.proc.handles ∧ MetadataKept m.proc p' ∧
      p'.fds.card + nodeFds m.proc
        = m.proc.fds.card + nodeFds p' + if ExportsFd env h type m.proc then 1 else 0 := by
  intro p'
  by_cases hlive : type.isKnown = true ∧ LiveGbm h m.proc
  swap
  · have hlevel := Mapper.getStandardMetadata_level env h type hlive
    refine ⟨hlevel.table, hlevel.handles, hlevel.kept, ?_⟩
    rw [if_neg fun he => hlive he.1]
    exact hlevel.fds
  obtain ⟨hk, hgbm, hsome⟩ := hlive
  obtain ⟨e, he⟩ := Option.isSome_iff_exists.mp hsome
  have hproc : p' = (gbmBoGetFd env e.bo m.proc).2 := by
    have hread : p' = if type.isKnown then (gbmBoGetFd env e.bo m.proc).2 else m.proc :=
      getStandardMetadata_proc type hp hgbm he
    rw [hk] at hread
    exact hread
  have hexports : ExportsFd env h type m.proc ↔
      (env.newFd m.proc.calls.length m.proc.fds).isSome = true :=
    ⟨fun he => he.2, fun hnew => ⟨⟨hk, hgbm, hsome⟩, hnew⟩⟩
  rw [hproc]
  refine ⟨rfl, rfl, .of_same rfl (le_refl _) rfl, ?_⟩
  show (addFd (env.newFd m.proc.calls.length m.proc.fds) m.proc.fds).card + nodeFds m.proc
    = m.proc.fds.card + nodeFds m.proc + _
  simp only [hexports]
  cases hnew : env.newFd m.proc.calls.length m.proc.fds with
  | none => rfl
  | some fd =>
    simp only [addFd, Finset.card_insert_of_notMem (env.newFd_fresh _ _ _ hnew).2, Option.isSome_some,
      if_true]
    omega

end

/-! ## The balance

  The numbers of the process and those of the account, call by call and then along a run. -/

/-- What a mapper has is what its account says. -/
structure Balanced (m : Mapper) (n : Spent) : Prop where
  heapOk : HeapOk m.proc
  fds : m.proc.fds.card = 3 + nodeFds m.proc + n.cloneFds + n.exports
  handles : m.proc.handles.card = n.clones
  table : m.proc.table.length + n.frees = n.objects
  heap : m.proc.heap.card + 2 * n.frees = 3 * n.objects + n.records + n.staged

/-- The three standard descriptors are open, and nothing else is there. -/
theorem Balanced.start : Balanced .start .zero := ⟨.start, rfl, rfl, rfl, rfl⟩

section

variable (cfg : BuildConfig) (env : Env) {m : Mapper} {n : Spent}

/-- A call that costs nothing. -/
theorem Balanced.of_level (hb : Balanced m n) {m' : Mapper} (hl : Level m.proc m'.proc)
    (hinv : ProcInv m'.proc) : Balanced m' n where
  heapOk := hb.heapOk.of_kept hl.kept hinv
  fds := by
    have h1 := hb.fds
    have h2 := hl.fds
    omega
  handles := by rw [hl.handles, hb.handles]
  table := by rw [hl.table, hb.table]
  heap := by rw [hl.kept.heap, hb.heap]

/-- Each of the other calls, with what it adds to the account. -/
theorem Balanced.importBuffer (hb : Balanced m n) (h : NativeHandle) :
    Balanced (m.importBuffer cfg env (some h)).2
      (n.after cfg env m (.buffer (.importBuffer (some h)))) := by
  have hinv := bufferStep_inv cfg env (.importBuffer (some h)) hb.heapOk.blocks.inv
  show Balanced _ ((m.importBuffer cfg env (some h)).1.2.elim n _)
  rcases Mapper.importBuffer_taken cfg env h hb.heapOk with
    ⟨hr, hlevel⟩ | ⟨c, hr, hok, htable, hhandles, hfds, hheap⟩ <;> rw [hr]
  · exact hb.of_level hlevel hinv
  · have h1 := hb.fds
    have h2 := hb.handles
    have h3 := hb.table
    have h4 := hb.heap
    constructor
    case heapOk => exact hok
    all_goals
      dsimp only [Option.elim]
      omega

theorem Balanced.freeBuffer (hb : Balanced m n) (h : NativeHandle) :
    Balanced (m.freeBuffer env (some h)).2 (n.after cfg env m (.buffer (.freeBuffer (some h)))) := by
  have hinv := bufferStep_inv cfg env (.freeBuffer (some h)) hb.heapOk.blocks.inv
  show Balanced _ { n with frees := n.frees + if LiveGbm h m.proc then 1 else 0 }
  by_cases hlive : LiveGbm h m.proc
  · rw [if_pos hlive]
    obtain ⟨htable, hhandles, hfds, hdriver, hheap, hok⟩ :=
      Mapper.freeBuffer_returned env h hb.heapOk hlive
    have h3 := hb.table
    have h4 := hb.heap
    constructor
    case heapOk => exact hok
    case fds =>
      rw [hfds, nodeFds.congr hdriver]
      exact hb.fds
    case handles =>
      rw [hhandles]
      exact hb.handles
    all_goals
      dsimp only
      omega
  · rw [if_neg hlive]
    exact hb.of_level (Mapper.freeBuffer_level env h hlive) hinv

theorem Balanced.getStandardMetadata (hb : Balanced m n) (h : NativeHandle)
    (type : StandardMetadataType) :
    Balanced (m.getStandardMetadata env (some h) type).2
      (n.after cfg env m (.getStandardMetadata (some h) type)) := by
  obtain ⟨htable, hhandles, hkept, hfds⟩ :=
    Mapper.getStandardMetadata_exported env h type hb.heapOk.blocks.inv
  have hinv := mapperStep_inv cfg env (.getStandardMetadata (some h) type) hb.heapOk.blocks.inv
  have h1 := hb.fds
  constructor
  case heapOk => exact hb.heapOk.of_kept hkept hinv
  case fds =>
    show _ = 3 + _ + n.cloneFds + (n.exports + if ExportsFd env h type m.proc then 1 else 0)
    omega
  case handles =>
    rw [hhandles]
    exact hb.handles
  case table =>
    rw [htable]
    exact hb.table
  case heap =>
    rw [hkept.heap]
    exact hb.heap

theorem Balanced.setStandardMetadata (hb : Balanced m n) (h : NativeHandle)
    (type : StandardMetadataType) (payload : Payload) :
    Balanced (m.setStandardMetadata env (some h) type payload).2
      (n.after cfg env m (.setStandardMetadata (some h) type payload)) := by
  have hinv := mapperStep_inv cfg env (.setStandardMetadata (some h) type payload)
    hb.heapOk.blocks.inv
  show Balanced _ (if TakesRecord env h m.proc then _ else n)
  by_cases ht : TakesRecord env h m.proc
  · rw [if_pos ht]
    have hcounts := Mapper.setStandardMetadata_counts env h type payload hb.heapOk.blocks.inv
    obtain ⟨hheap, hok⟩ := Mapper.setStandardMetadata_taken env h type payload hb.heapOk ht
    have h1 := hb.fds
    have h2 := hcounts.fds
    have h4 := hb.heap
    constructor
    case heapOk => exact hok
    case handles =>
      rw [hcounts.handles]
      exact hb.handles
    case table =>
      rw [hcounts.table]
      exact hb.table
    all_goals
      dsimp only
      omega
  · rw [if_neg ht]
    exact hb.of_level (Mapper.setStandardMetadata_level env h type payload ht) hinv

/-- **Every call is on the account.** -/
theorem Balanced.step (hb : Balanced m n) (op : MapperOp) :
    Balanced (mapperStep cfg env m op) (n.after cfg env m op) := by
  have hp := hb.heapOk.blocks.inv
  cases op with
  | buffer op =>
    cases op with
    | importBuffer handle =>
      cases handle with
      | none => exact hb
      | some h => exact hb.importBuffer cfg env h
    | freeBuffer buffer =>
      cases buffer with
      | none => exact hb
      | some h => exact hb.freeBuffer cfg env h
    | lock buffer cpuUsage =>
      cases buffer with
      | none => exact hb
      | some h =>
        exact hb.of_level (Mapper.lock_level env h cpuUsage hp)
          (bufferStep_inv cfg env (.lock (some h) cpuUsage) hp)
    | unlock buffer =>
      cases buffer with
      | none => exact hb
      | some h =>
        exact hb.of_level (Mapper.unlock_level env h m) (bufferStep_inv cfg env (.unlock (some h)) hp)
  | getStandardMetadata buffer type =>
    cases buffer with
    | none => exact hb
    | some h => exact hb.getStandardMetadata cfg env h type
  | setStandardMetadata buffer type payload =>
    cases buffer with
    | none => exact hb
    | some h => exact hb.setStandardMetadata cfg env h type payload

end

/-- **The account of a run**, whatever is called, with any handles and any answers of the outside.
    So when all buffers have been freed, the clones with their descriptors, a block of every buffer,
    and all that reads and sets have taken are still there.  Counted are open descriptors, native
    handles, entries of the buffer table, and metadata blocks with the records of sets; the render
    node while the driver is live. -/
theorem mapperRun_accounts (cfg : BuildConfig) (env : Env) (ops : List MapperOp) :
    let p := (mapperRun cfg env ops).proc
    let n := (accountRun cfg env ops).2
    p.fds.card = 3 + nodeFds p + n.cloneFds + n.exports ∧ p.handles.card = n.clones ∧
      p.table.length + n.frees = n.objects ∧
      p.heap.card + 2 * n.frees = 3 * n.objects + n.records + n.staged := by
  have hrun : Balanced (accountRun cfg env ops).1 (accountRun cfg env ops).2 :=
    Run.foldl_inv_all (fun s : Mapper × Spent => Balanced s.1 s.2)
      (fun s op hb => hb.step cfg env op) ops .start
  rw [accountRun_fst] at hrun
  exact ⟨hrun.fds, hrun.handles, hrun.table, hrun.heap⟩

/-- A buffer is imported, read, given its HDR metadata and freed. -/
example :
    (accountRun .androidBp .plain [.buffer (.importBuffer (some (rgbaHandle 5))),
      .getStandardMetadata (some firstClone) .width,
      .setStandardMetadata (some firstClone) .cta8613 (.ofInt32 1),
      .buffer (.freeBuffer (some firstClone))]).2 = ⟨1, 1, 1, 1, 1, 1, 1⟩ := by
  decide

end GrallocGbm
