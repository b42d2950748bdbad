/-
  What the requests to an allocator cost.

  The service hands out duplicates of what it makes, so it could give back everything else.  `Left`
  counts what it does not: the descriptor that the log message of each new GBM buffer exports, one
  of the three blocks of its user data, what a failing `gralloc_gbm_android_buffer_new` has
  acquired, and all handles and descriptors of a DMA-BUF batch that fails.  From these counts alone
  follows how many descriptors, handles, objects and blocks the service has between two requests,
  whatever failed in them (`allocatorRun_accounts`); and the buffer table is empty.

  The two loops are counted as they run: of the GBM backend with `Batch`, which says what is
  unfinished, of the DMA-BUF backend with `Holding`.  The blocks are counted apart from both
  (`BlocksCount`), since an object finds them by its own address, under whatever key it is.

  * `Batch.new_counted`, `newHandles_counted` — the first loop of the GBM backend, iteration by
    iteration, up to its end or to the iteration that fails;
  * `exportHandles_counted` — its second loop: what it opens it hands out, what it releases it has;
  * `afterAllocSystem_accounted`, `newHandles_fails_accounted` — a DMA-BUF batch that fails;
  * `newHandles_holding`, `dupToAidl_holding` — one that does not: each original goes when its
    duplicate is made;
  * `Accounted.step` — a request, through `selectBackend` and `CHECK_BACKEND()`.

  Only requests that return are in the runs; a process that has ended has nothing.  Counted are open
  descriptors, native handles, buffer objects and metadata blocks.  Other memory is not, among it
  the copy of the name that each descriptor for the library gets and that nobody releases.
-/
import GrallocGbm.Accounts
import GrallocGbm.DescriptorMemory
import GrallocGbm.Rollback

namespace GrallocGbm

open AllocatorBackendGrallocGbm

/-! ## The account

  What is left behind by an iteration, by a loop, by a call: the account follows the program,
  with one definition for each level. -/

/-- What requests leave behind. -/
structure Left where
  /-- Descriptors in results. -/
  handed : Nat
  /-- Descriptors exported for log messages. -/
  logged : Nat
  /-- GBM buffers that were made; all of them are released again. -/
  buffers : Nat
  /-- Objects without an entry, and descriptors exported for them. -/
  objects : Nat
  objectFds : Nat
  /-- Native handles, of either backend. -/
  handles : Nat
  /-- Descriptors of memory from the heap. -/
  heapFds : Nat
  deriving DecidableEq, Repr

/-- Nothing left yet. -/
def Left.zero : Left := ⟨0, 0, 0, 0, 0, 0, 0⟩

/-- Open descriptors. -/
def Left.fds (k : Left) : Nat := k.handed + k.logged + k.objectFds + k.heapFds

/-- The number of descriptors that a call has opened. -/
def openedBy (fd : Option Int) : Nat := if fd.isSome then 1 else 0

/-- The descriptors in a result: an export that failed is -1. -/
def handedOut (buffers : List AidlNativeHandle) : Nat :=
  (buffers.map fun a => a.fds.countP fun fd => decide (0 ≤ fd)).sum

namespace Left

variable (cfg : BuildConfig) (env : Env)

/-- The account after a call of `gralloc_gbm_android_buffer_new`. -/
def afterNew (desc : AllocatorDesc) (p : Proc) (k : Left) : Left :=
  let n := p.calls.length
  let args := newArgs cfg desc
  if env.alloc n = false then k
  else if env.boCreate (n + 1) args.width args.height args.format args.flags = none then
    { k with handles := k.handles + 1 }
  else if env.alloc (n + 3) = false then
    { k with
      handles := k.handles + 1
      objects := k.objects + 1
      objectFds := k.objectFds + openedBy (env.newFd (n + 2) p.fds) }
  else { k with buffers := k.buffers + 1, logged := k.logged + openedBy (logFd env p) }

/-- After the first loop of the GBM backend, which stops at the first iteration that does not come to
    its end. -/
def afterNews (desc : AllocatorDesc) : Nat → Proc → Left → Left
  | 0, _, k => k
  | n + 1, p, k =>
    let k' := k.afterNew cfg env desc p
    if completes cfg env desc p then
      afterNews desc n (grallocGbmAndroidBufferNew cfg env desc p).2 k'
    else k'

/-- After one iteration of the first loop of the DMA-BUF backend, if the loop fails later. -/
def afterHeap (p : Proc) (k : Left) : Left :=
  { k with
    handles := k.handles + if env.alloc p.calls.length then 1 else 0
    heapFds := k.heapFds + openedBy (env.newFd (p.calls.length + 1) p.fds) }

/-- After a first loop of the DMA-BUF backend that fails. -/
def afterHeaps (d : BufferDescriptorInfo) : Nat → Proc → Left → Left
  | 0, _, k => k
  | n + 1, p, k =>
    let k' := k.afterHeap env p
    if AllocatorBackendDmaBuf.completes env p then
      afterHeaps d n (AllocatorBackendDmaBuf.afterAllocSystem env d p) k'
    else k'

/-- After a call of a backend. -/
def afterBackend (backend : AllocatorBackendType) (d : BufferDescriptorInfo) (count : Int32)
    (p : Proc) (k : Left) : Left :=
  let n := count.toInt.toNat
  let loop := match backend with
    | .allocatorGrallocGbm =>
      match generateGrallocGenericDesc d with
      | none => k
      | some desc =>
        if grallocGbmIsAllocatorDescSupported cfg env.isFormatSupported (isGrallocGbmReady p) desc then
          k.afterNews cfg env desc n p
        else k
    | .allocatorGrallocDmabuf =>
      match (AllocatorBackendDmaBuf.newHandles env d n p).1 with
      | .ok _ => k
      | _ => k.afterHeaps env d n p
  match (backend.allocate2 cfg env d count p).1 with
  | .ok res => { loop with handed := loop.handed + handedOut res.buffers }
  | _ => loop

/-- After a call of `allocate2`. -/
def afterAllocate2 (d : BufferDescriptorInfo) (count : Int32) (s : Allocator) (k : Left) : Left :=
  match (s.selectBackend cfg env d).2.checkBackend env with
  | (none, _) => k
  | (some backend, s) => k.afterBackend cfg env backend d count s.proc

/-- After a request. -/
def after (decode : List UInt8 → Option Allocator.BufferDescriptorInfoV4) (s : Allocator) (k : Left) :
    AllocatorOp → Left
  | .allocate encodedDescriptor count =>
    (decode encodedDescriptor).elim k fun d => k.afterAllocate2 cfg env d.toInfo count s
  | .allocate2 d count => k.afterAllocate2 cfg env d count s
  | .isSupported _ => k

end Left

/-- A service with its account. -/
def leftStep (cfg : BuildConfig) (env : Env)
    (decode : List UInt8 → Option Allocator.BufferDescriptorInfoV4) (s : Allocator × Left)
    (op : AllocatorOp) : Allocator × Left :=
  (allocatorStep cfg env decode s.1 op, s.2.after cfg env decode s.1 op)

/-- A run of a started service with its account. -/
def leftRun (cfg : BuildConfig) (env : Env)
    (decode : List UInt8 → Option Allocator.BufferDescriptorInfoV4) (ops : List AllocatorOp) :
    Allocator × Left :=
  ops.foldl (leftStep cfg env decode) ((Allocator.init env).2, .zero)

/-! ## Counting descriptors -/

section

variable {env : Env} {p : Proc} {s : Finset Int}

/-- A descriptor that was opened is one more. -/
theorem card_addFd {fd : Option Int} (h : ∀ d, fd = some d → d ∉ s) :
    (addFd fd s).card = s.card + openedBy fd := by
  cases fd with
  | none => rfl
  | some d => exact Finset.card_insert_of_notMem (h d rfl)

/-- What a call opens was not open. -/
theorem newFd_notMem (env : Env) (p : Proc) (n : Nat) : ∀ d, env.newFd n p.fds = some d → d ∉ p.fds :=
  fun _ hd => (env.newFd_fresh _ _ _ hd).2

/-- A duplicate with the descriptor that `dup` got. -/
theorem countP_dupFd (env : Env) (fd : Int) (p : Proc) :
    [(dupFd env fd p).1.getD (-1)].countP (fun d => decide (0 ≤ d)) = openedBy (dupFd env fd p).1 := by
  cases hdup : (dupFd env fd p).1 with
  | none => rfl
  | some d =>
    have h0 := (dupFd_fresh hdup).1
    simp [openedBy, h0]

/-- The buffers of a result, one by one. -/
theorem handedOut_cons (a : AidlNativeHandle) (buffers : List AidlNativeHandle) :
    handedOut (a :: buffers) = a.fds.countP (fun fd => decide (0 ≤ fd)) + handedOut buffers := rfl

end

/-! ## Counting objects and their blocks

  An object is found by its address only, so the objects of a process are listed, and the list
  is part of what is known of it. -/

/-- The process has `n` live objects. -/
def HasObjects (p : Proc) (n : Nat) : Prop :=
  ∃ s : Finset Nat, (∀ bo, bo ∈ s ↔ (p.bos bo).isSome = true) ∧ s.card = n

/-- A process has one number of objects. -/
theorem HasObjects.unique {p : Proc} {m n : Nat} (h : HasObjects p m) (h' : HasObjects p n) :
    m = n := by
  obtain ⟨s, hs, rfl⟩ := h
  obtain ⟨s', hs', rfl⟩ := h'
  rw [Finset.ext fun bo => (hs bo).trans (hs' bo).symm]

/-- No object. -/
theorem HasObjects.start {p : Proc} (hbos : ∀ bo, p.bos bo = none) : HasObjects p 0 :=
  ⟨∅, fun bo => by simp [hbos], rfl⟩

/-- One more object. -/
theorem HasObjects.added {p p' : Proc} {n bo : Nat} {b : Bo} (h : HasObjects p n)
    (hnew : p.bos bo = none) (hp' : p'.bos = Function.update p.bos bo (some b)) :
    HasObjects p' (n + 1) := by
  obtain ⟨s, hs, rfl⟩ := h
  refine ⟨insert bo s, fun bo' => ?_, Finset.card_insert_of_notMem fun hmem => ?_⟩
  · rw [hp', Function.update_apply, Finset.mem_insert, hs]
    split
    · simp [*]
    · simp [*]
  · rw [hs, hnew] at hmem
    cases hmem

/-- One object less. -/
theorem HasObjects.removed {p p' : Proc} {n bo : Nat} (h : HasObjects p n)
    (hold : (p.bos bo).isSome = true) (hp' : p'.bos = Function.update p.bos bo none) :
    ∃ m, n = m + 1 ∧ HasObjects p' m := by
  obtain ⟨s, hs, rfl⟩ := h
  refine ⟨(s.erase bo).card, (Finset.card_erase_add_one ((hs bo).mpr hold)).symm, s.erase bo,
    fun bo' => ?_, rfl⟩
  rw [hp', Function.update_apply, Finset.mem_erase, hs]
  split
  · simp [*]
  · simp [*]

/-- `made` objects have been made so far.  A live one has three blocks, right behind it; of each other
    one there is one left. -/
structure BlocksCount (p : Proc) (made : Nat) : Prop where
  data : ∀ bo b, p.bos bo = some b → b.data = some (zeroBoData (bo + 1))
  blocks : ∀ bo, (p.bos bo).isSome = true → bo + 1 ∈ p.heap ∧ bo + 2 ∈ p.heap
  apart : ∀ bo bo', (p.bos bo).isSome = true → (p.bos bo').isSome = true → bo < bo' → bo + 4 ≤ bo'
  lt : ∀ bo, (p.bos bo).isSome = true → bo + 4 ≤ p.next
  heap_lt : ∀ a ∈ p.heap, a < p.next
  card : ∃ live, HasObjects p live ∧ p.heap.card = made + 2 * live

section

variable {p p' : Proc} {n : Nat}

/-- And so no block. -/
theorem BlocksCount.start (hbos : ∀ bo, p.bos bo = none) (hheap : p.heap = ∅) :
    BlocksCount p 0 where
  data := by simp [hbos]
  blocks := by simp [hbos]
  apart := by simp [hbos]
  lt := by simp [hbos]
  heap_lt := by simp [hheap]
  card := ⟨0, .start hbos, by rw [hheap]; rfl⟩

/-- The blocks are counted by the objects and the heap. -/
theorem BlocksCount.of_same (h : BlocksCount p n) (hbos : p'.bos = p.bos) (hheap : p'.heap = p.heap)
    (hnext : p.next ≤ p'.next) : BlocksCount p' n where
  data := by rw [hbos]; exact h.data
  blocks := by rw [hbos, hheap]; exact h.blocks
  apart := by rw [hbos]; exact h.apart
  lt := by rw [hbos]; exact fun bo hbo => le_trans (h.lt bo hbo) hnext
  heap_lt := by rw [hheap]; exact fun a ha => lt_of_lt_of_le (h.heap_lt a ha) hnext
  card := by
    obtain ⟨live, ⟨s, hs, hlive⟩, hcard⟩ := h.card
    exact ⟨live, ⟨s, by rw [hbos]; exact hs, hlive⟩, by rw [hheap]; exact hcard⟩

/-- A new object takes three blocks. -/
theorem BlocksCount.created (h : BlocksCount p n) {b : Bo} (hb : b.data = some (zeroBoData (p.next + 2)))
    (hbos : p'.bos = Function.update p.bos (p.next + 1) (some b))
    (hheap : p'.heap = insert (p.next + 4) (insert (p.next + 3) (insert (p.next + 2) p.heap)))
    (hnext : p'.next = p.next + 6) : BlocksCount p' (n + 1) := by
  have hlive : ∀ bo, (p'.bos bo).isSome = true ↔ bo = p.next + 1 ∨ (p.bos bo).isSome = true := by
    intro bo
    rw [hbos, Function.update_apply]
    split
    · simp [*]
    · simp [*]
  have hnew : p.bos (p.next + 1) = none := by
    by_contra hsome
    have := h.lt _ (Option.isSome_iff_ne_none.mpr hsome)
    omega
  constructor
  case data =>
    intro bo b' hb'
    rw [hbos, Function.update_apply] at hb'
    split at hb'
    · subst bo
      obtain rfl := Option.some.inj hb'
      exact hb
    · exact h.data bo b' hb'
  case blocks =>
    intro bo hbo
    rw [hheap]
    rcases (hlive bo).mp hbo with rfl | hbo
    · simp
    · have := h.blocks bo hbo
      simp [this]
  case apart =>
    intro bo bo' hbo hbo' hlt
    rcases (hlive bo).mp hbo with rfl | hbo <;> rcases (hlive bo').mp hbo' with rfl | hbo'
    · omega
    · have := h.lt bo' hbo'
      omega
    · have := h.lt bo hbo
      omega
    · exact h.apart bo bo' hbo hbo' hlt
  case lt =>
    intro bo hbo
    rcases (hlive bo).mp hbo with rfl | hbo
    · omega
    · have := h.lt bo hbo
      omega
  case heap_lt =>
    intro a ha
    rw [hheap] at ha
    simp only [Finset.mem_insert] at ha
    rcases ha with rfl | rfl | rfl | ha
    · omega
    · omega
    · omega
    · have := h.heap_lt a ha
      omega
  case card =>
    obtain ⟨live, hobjects, hcard⟩ := h.card
    refine ⟨live + 1, hobjects.added hnew hbos, ?_⟩
    have h3 : (insert (p.next + 4) (insert (p.next + 3) (insert (p.next + 2) p.heap))).card
        = p.heap.card + 3 := card_insert_three h.heap_lt (Nat.le_add_right p.next 2)
    rw [hheap]
    omega

/-- Destroying an object returns two of its blocks. -/
theorem BlocksCount.destroyed (h : BlocksCount p n) {bo : Nat} {b : Bo} (hb : p.bos bo = some b) :
    BlocksCount (gbmBoDestroy bo b p) n := by
  have hsome : (p.bos bo).isSome = true := by rw [hb]; rfl
  have hq : gbmBoDestroy bo b p = { p with
      bos := Function.update p.bos bo none
      heap := (p.heap.erase (bo + 1)).erase (bo + 2)
      calls := .boDestroy bo :: p.calls } := by
    rw [gbmBoDestroy, h.data bo b hb]
    rfl
  have hlive : ∀ bo', ((gbmBoDestroy bo b p).bos bo').isSome = true →
      bo' ≠ bo ∧ (p.bos bo').isSome = true := by
    intro bo' hbo'
    rw [hq] at hbo'
    dsimp only at hbo'
    rw [Function.update_apply] at hbo'
    split at hbo'
    · cases hbo'
    · exact ⟨‹_›, hbo'⟩
  obtain ⟨h1, h2⟩ := h.blocks bo hsome
  constructor
  case data =>
    intro bo' b' hb'
    have hne := (hlive bo' (by rw [hb']; rfl)).1
    rw [hq] at hb'
    dsimp only at hb'
    rw [Function.update_of_ne hne] at hb'
    exact h.data bo' b' hb'
  case blocks =>
    intro bo' hbo'
    obtain ⟨hne, hbo'⟩ := hlive bo' hbo'
    obtain ⟨h1', h2'⟩ := h.blocks bo' hbo'
    -- the blocks of another object are not the two that go
    have hapart : bo + 4 ≤ bo' ∨ bo' + 4 ≤ bo := by
      rcases Nat.lt_or_gt_of_ne hne with hlt | hlt
      · exact .inr (h.apart bo' bo hbo' hsome hlt)
      · exact .inl (h.apart bo bo' hsome hbo' hlt)
    rw [hq]
    simp only [Finset.mem_erase]
    refine ⟨⟨?_, ?_, h1'⟩, ?_, ?_, h2'⟩ <;> omega
  case apart =>
    exact fun bo' bo'' hbo' hbo'' => h.apart bo' bo'' (hlive bo' hbo').2 (hlive bo'' hbo'').2
  case lt =>
    intro bo' hbo'
    have := h.lt bo' (hlive bo' hbo').2
    rw [hq]
    exact this
  case heap_lt =>
    intro a ha
    rw [hq] at ha ⊢
    exact h.heap_lt a (Finset.mem_of_mem_erase (Finset.mem_of_mem_erase ha))
  case card =>
    obtain ⟨live, hobjects, hcard⟩ := h.card
    obtain ⟨rest, rfl, hrest⟩ := hobjects.removed hsome (by rw [hq] : (gbmBoDestroy bo b p).bos = _)
    have hcard1 := Finset.card_erase_add_one h1
    have hcard2 := Finset.card_erase_add_one
      (Finset.mem_erase.mpr ⟨by omega, h2⟩ : bo + 2 ∈ p.heap.erase (bo + 1))
    refine ⟨rest, hrest, ?_⟩
    rw [hq]
    dsimp only
    omega

/-- Releasing a handle destroys an object, or none. -/
theorem BlocksCount.releaseHandle (h : BlocksCount p n) (handle : NativeHandle) :
    BlocksCount (releaseHandle handle p).2 n := by
  unfold AllocatorBackendGrallocGbm.releaseHandle
  rcases grallocGbmAndroidBufferFree_cases handle p with
    ⟨-, hf⟩ | ⟨-, -, hf⟩ | ⟨e, -, -, -, hf⟩ | ⟨e, b, -, -, hb, hf⟩ <;> rw [hf]
  · exact h.of_same rfl rfl (le_refl _)
  · exact h.of_same rfl rfl (le_refl _)
  · exact h
  · exact (h.destroyed hb).of_same rfl rfl (le_refl _)

/-- Releasing handles returns the blocks of their objects, and leaves the others. -/
theorem BlocksCount.releaseHandles (h : BlocksCount p n) (handles : List NativeHandle) :
    BlocksCount (releaseHandles handles p).2 n := by
  induction handles generalizing p with
  | nil => exact h
  | cons handle handles ih =>
    have h1 := h.releaseHandle handle
    unfold AllocatorBackendGrallocGbm.releaseHandles
    split <;> rename_i heq <;> rw [heq] at h1
    · exact h1
    · exact ih h1

/-- Duplicating concerns no block. -/
theorem BlocksCount.dupToAidl (env : Env) (h : BlocksCount p n) (handle : NativeHandle) :
    BlocksCount (dupToAidl env handle p).2 n := by
  show BlocksCount (dupEach env handle.fds p).2 n
  induction handle.fds generalizing p with
  | nil => exact h
  | cons fd l ih =>
    have h1 : BlocksCount (dupFd env fd p).2 n := by
      rw [dupFd_snd]
      exact h.of_same rfl rfl (le_refl _)
    exact ih h1

/-- The second loop, from both. -/
theorem BlocksCount.exportHandles (env : Env) (h : BlocksCount p n) (handles : List NativeHandle) :
    BlocksCount (exportHandles env handles p).2 n := by
  induction handles generalizing p with
  | nil => exact h
  | cons handle handles ih =>
    have h1 := (h.dupToAidl env handle).releaseHandle handle
    unfold AllocatorBackendGrallocGbm.exportHandles
    dsimp only
    split <;> rename_i heq <;> rw [heq] at h1
    · exact h1
    · have h2 := ih h1
      split
      · rename_i heq'
        rw [heq'] at h2
        exact h2
      · exact h2

end

/-! ## The GBM backend

  An iteration that fails leaves a handle, an object, or nothing; one that succeeds leaves a log
  descriptor, and a block of metadata in the end. -/

/-- What is in `p`, together with the descriptors `x`, is on the account. -/
structure OnAccount (p : Proc) (x : Finset Int) (k : Left) : Prop where
  fds : p.fds.card + x.card = 4 + k.fds
  handles : p.handles.card = k.handles
  objects : HasObjects p k.objects

/-- A process between two requests, with its account. -/
structure Accounted (p : Proc) (k : Left) : Prop where
  settled : Settled p
  counts : OnAccount p ∅ k
  blocks : BlocksCount p (k.buffers + k.objects)

section

variable {cfg : BuildConfig} {env : Env} {desc : AllocatorDesc} {p0 p p' : Proc}
  {handles : List NativeHandle} {x : Finset Int} {k : Left}

/-- What is not counted may change. -/
theorem Accounted.of_same (h : Accounted p k) (da : Bool) (cs : List ExtCall) :
    Accounted { p with dmaAllocator := da, calls := cs } k where
  settled := h.settled.checked da cs
  counts := ⟨h.counts.fds, h.counts.handles, h.counts.objects⟩
  blocks := h.blocks.of_same rfl rfl (le_refl _)

/-- A finished batch: its descriptors are descriptors of the process. -/
theorem Batch.accounted (h : Batch p0 p [] x) (hc : OnAccount p0 x k)
    (hb : BlocksCount p (k.buffers + k.objects)) : Accounted p k := by
  obtain ⟨hbos, hfds, hhandles⟩ := h.done
  refine ⟨h.settled, ⟨?_, ?_, ?_⟩, hb⟩
  · have hdisjoint : Disjoint p0.fds x := Finset.disjoint_right.mpr h.extra_new
    rw [hfds, Finset.card_union_of_disjoint hdisjoint, Finset.card_empty]
    exact hc.fds
  · rw [hhandles]
    exact hc.handles
  · obtain ⟨s, hs, hcard⟩ := hc.objects
    exact ⟨s, by rw [hbos]; exact hs, hcard⟩

/-- An address that has not been handed out is none of the start. -/
theorem Batch.next_new (h : Batch p0 p handles x) : p.next ∉ p0.handles ∧ p0.bos (p.next + 1) = none := by
  constructor
  · intro hmem
    have := h.handle_lt p.next (by rw [h.handles_eq]; exact Finset.mem_union_left _ hmem)
    omega
  · have hnot : ∀ e ∈ p.table, e.bo ≠ p.next + 1 := fun e he heq => by
      have := h.bo_lt _ (h.alive e he)
      omega
    rw [← h.bos _ hnot]
    by_contra hsome
    have := h.bo_lt _ (Option.isSome_iff_ne_none.mpr hsome)
    omega

/-- A handle that is left behind is on the account. -/
theorem OnAccount.leak_handle (hc : OnAccount p0 x k) {a : Nat} (ha : a ∉ p0.handles) :
    OnAccount { p0 with handles := insert a p0.handles } x { k with handles := k.handles + 1 } where
  fds := hc.fds
  handles := by
    show (insert a p0.handles).card = _
    rw [Finset.card_insert_of_notMem ha, hc.handles]
  objects := hc.objects

/-- And so is an object with its descriptor. -/
theorem OnAccount.leak_object (hc : OnAccount p0 x k) {fd : Option Int} {bo : Nat} (b : Bo)
    (hfd : ∀ d, fd = some d → d ∉ p0.fds) (hbo : p0.bos bo = none) :
    OnAccount { p0 with bos := Function.update p0.bos bo (some b), fds := addFd fd p0.fds } x
      { k with objects := k.objects + 1, objectFds := k.objectFds + openedBy fd } where
  fds := by
    have hcard := card_addFd hfd
    have h0 := hc.fds
    show (addFd fd p0.fds).card + x.card = _
    simp only [Left.fds] at h0 ⊢
    omega
  handles := hc.handles
  objects := hc.objects.added hbo rfl

/-- **One call of `gralloc_gbm_android_buffer_new` is on the account**, whether it makes a buffer or
    fails. -/
theorem Batch.new_counted (cfg : BuildConfig) (env : Env) (desc : AllocatorDesc)
    (h : Batch p0 p handles x) (hc : OnAccount p0 x k)
    (hb : BlocksCount p (k.buffers + k.objects)) :
    let r := grallocGbmAndroidBufferNew cfg env desc p
    let k' := k.afterNew cfg env desc p
    BlocksCount r.2 (k'.buffers + k'.objects) ∧
    ((∃ handle stride x', r.1 = .ok (handle, stride) ∧ Batch p0 r.2 (handles ++ [handle]) x' ∧
      OnAccount p0 x' k') ∨
    ∃ rc p0', r.1 = .err rc ∧ Batch p0' r.2 handles x ∧ OnAccount p0' x k') := by
  intro r k'
  obtain ⟨hhandle, hobject⟩ := h.next_new
  rcases grallocGbmAndroidBufferNew_cases cfg env desc p with
    ⟨rc, hno, -⟩ | ⟨rc, -, ha, hr⟩ | ⟨rc, -, ha, hbo, hr⟩ |
    ⟨layout, fd, -, ha, hbo, hfd, ⟨rc, ha', hr⟩ | ⟨log, ha', hlog, hr⟩⟩
  · rw [h.ready] at hno
    cases hno
  · have hk : k' = k := by simp [k', Left.afterNew, ha]
    rw [hk, show r = _ from hr]
    exact ⟨hb.of_same rfl rfl (Nat.le_succ _),
      .inr ⟨rc, p0, rfl, h.of_same (Nat.le_succ _) p.heap _, hc⟩⟩
  · have hk : k' = { k with handles := k.handles + 1 } := by simp [k', Left.afterNew, ha, hbo]
    rw [hk, show r = _ from hr]
    exact ⟨hb.of_same rfl rfl (Nat.le_succ _),
      .inr ⟨rc, _, rfl, h.leak_handle _, hc.leak_handle hhandle⟩⟩
  · have hk : k' = { k with
        handles := k.handles + 1
        objects := k.objects + 1
        objectFds := k.objectFds + openedBy fd } := by
      simp [k', Left.afterNew, ha, hbo, ha', ← hfd]
    have hfresh : ∀ d, fd = some d → 0 ≤ d ∧ d ∉ p.fds := fun d hd => env.newFd_fresh _ _ _ (hfd ▸ hd)
    have h1 := h.leak_handle p.calls
    have haddr : p.next + 1 ≤ p.next + 1 ∧ p.next + 1 < p.next + 6 := by omega
    have h2 := h1.leak_object (createdBo cfg desc layout (p.next + 2))
      (insert (p.next + 4) (insert (p.next + 3) (insert (p.next + 2) p.heap))) (.alloc false ::
        .boGetFd (p.next + 1) fd :: .boCreate (newArgs cfg desc).width (newArgs cfg desc).height
          (newArgs cfg desc).format (newArgs cfg desc).flags (some (p.next + 1)) :: .alloc true ::
            p.calls) hfresh haddr
    rw [hk, show r = _ from hr]
    refine ⟨?_, .inr ⟨rc, _, rfl, h2, ?_⟩⟩
    · exact hb.created (b := createdBo cfg desc layout (p.next + 2)) rfl rfl rfl rfl
    · exact (hc.leak_handle hhandle).leak_object _ (fun d hd => (h.not_open (hfresh d hd).2).1) hobject
  · have hk : k' = { k with
        buffers := k.buffers + 1
        logged := k.logged + openedBy (logFd env p) } := by
      simp [k', Left.afterNew, ha, hbo, ha']
    have hcard : (addFd (logFd env p) x).card = x.card + openedBy (logFd env p) := by
      refine card_addFd fun d hd => (h.not_open fun hmem => ?_).2.1
      exact (env.newFd_fresh _ _ _ hd).2 (mem_addFd.mpr (.inr hmem))
    rw [hk]
    constructor
    · rw [show r = _ from hr]
      show BlocksCount _ (k.buffers + 1 + k.objects)
      rw [Nat.add_right_comm]
      exact hb.created (b := createdBo cfg desc layout (p.next + 2)) rfl rfl rfl rfl
    · rcases h.new cfg env desc with ⟨handle, gbmStride, q, hnew, -, hq⟩ | ⟨rc, q, -, hnew, -⟩
      · refine .inl ⟨handle, gbmStride, addFd (logFd env p) x, by rw [show r = _ from hnew], ?_, ?_,
          hc.handles, hc.objects⟩
        · rw [show r = _ from hnew]
          exact hq
        · have h0 := hc.fds
          simp only [Left.fds] at h0 ⊢
          omega
      · rw [hnew] at hr
        cases hr

/-- **The first loop is on the account**, up to its end or up to the iteration in which it fails. -/
theorem newHandles_counted (cfg : BuildConfig) (env : Env) (desc : AllocatorDesc) (n : Nat)
    (pixelStride : Int32) (h : Batch p0 p handles x) (hc : OnAccount p0 x k)
    (hb : BlocksCount p (k.buffers + k.objects)) :
    let r := newHandles cfg env desc n handles pixelStride p
    let k' := k.afterNews cfg env desc n p
    r.1 = .terminated ∨
    BlocksCount r.2 (k'.buffers + k'.objects) ∧
    ((∃ hs stride x', r.1 = .ok (hs, stride) ∧ Batch p0 r.2 hs x' ∧ OnAccount p0 x' k') ∨
    ∃ e p0' x', r.1 = .error e ∧ Batch p0' r.2 [] x' ∧ OnAccount p0' x' k') := by
  induction n generalizing handles pixelStride p x k with
  | zero => exact .inr ⟨hb, .inl ⟨handles, pixelStride, x, rfl, h, hc⟩⟩
  | succ n ih =>
    intro r k'
    obtain ⟨hb1, hcase⟩ := h.new_counted cfg env desc hc hb
    cases hnew : grallocGbmAndroidBufferNew cfg env desc p with
    | mk ret p1 =>
      rw [hnew] at hb1 hcase
      dsimp only at hb1 hcase
      rcases hcase with ⟨handle, gbmStride, x1, rfl, h1, hc1⟩ | ⟨rc, p0', rfl, h1, hc1⟩
      · cases hst : grallocGbmCalculateAndroidPixelStride desc.format.toUInt32 gbmStride with
        | none =>
          refine .inl ?_
          simp only [r, newHandles, hnew, hst]
        | some pixelStride' =>
          have hyes : completes cfg env desc p = true := by simp [completes, hnew, hst]
          have hr : r = newHandles cfg env desc n (handles ++ [handle]) pixelStride' p1 := by
            simp only [r, newHandles, hnew, hst]
          have hk : k' = (k.afterNew cfg env desc p).afterNews cfg env desc n p1 := by
            simp only [k', Left.afterNews, hyes, if_true, hnew]
          rw [hr, hk]
          exact ih pixelStride' h1 hc1 hb1
      · have hno : completes cfg env desc p = false := by simp [completes, hnew]
        obtain ⟨p2, hrel, h2⟩ := releaseHandles_batch h1
        have hb2 := hb1.releaseHandles handles
        rw [hrel] at hb2
        have hr : r = (.error .unsupported, p2) := by simp only [r, newHandles, hnew, hrel]
        have hk : k' = k.afterNew cfg env desc p := by
          simp only [k', Left.afterNews, hno, Bool.false_eq_true, if_false]
        rw [hr, hk]
        exact .inr ⟨hb2, .inr ⟨.unsupported, p0', x, rfl, h2, hc1⟩⟩

/-- The second loop opens the descriptors that it hands out. -/
theorem exportHandles_counted (env : Env) (h : Batch p0 p handles x) :
    ∃ buffers p' x', exportHandles env handles p = (.ok buffers, p') ∧ Batch p0 p' [] x' ∧
      x'.card = x.card + handedOut buffers := by
  induction handles generalizing p x with
  | nil => exact ⟨[], p, x, rfl, h, rfl⟩
  | cons handle handles ih =>
    obtain ⟨-, p1, hrel, h1⟩ := h.exported env
    obtain ⟨buffers, p', x', heq, h', hcard⟩ := ih h1
    obtain ⟨e, -, -, hkey⟩ := h.exists_entry
    refine ⟨(dupToAidl env handle p).1 :: buffers, p', x', ?_, h', ?_⟩
    · unfold exportHandles
      simp only [hrel, heq]
    · have hopened : (addFd (dupFd env e.fd p).1 x).card
          = x.card + openedBy (dupFd env e.fd p).1 :=
        card_addFd fun d hd => (h.not_open (dupFd_fresh hd).2).2.1
      have hone : (dupToAidl env handle p).1.fds.countP (fun fd => decide (0 ≤ fd))
          = openedBy (dupFd env e.fd p).1 := by
        rw [dupToAidl_eq hkey]
        exact countP_dupFd env e.fd p
      rw [primeFd_of_fds hkey] at hcard
      rw [handedOut_cons, hone]
      omega

/-- Descriptors handed out. -/
theorem OnAccount.handed (hc : OnAccount p0 x k) {x' : Finset Int} {n : Nat}
    (hcard : x'.card = x.card + n) : OnAccount p0 x' { k with handed := k.handed + n } where
  fds := by
    have h0 := hc.fds
    simp only [Left.fds] at h0 ⊢
    omega
  handles := hc.handles
  objects := hc.objects

/-- A call of the GBM backend. -/
theorem AllocatorBackendGrallocGbm.allocate2_accounted {d : BufferDescriptorInfo} {count : Int32}
    (hready : isGrallocGbmReady p = true) (h : Accounted p k)
    (hret : (AllocatorBackendGrallocGbm.allocate2 cfg env d count p).1 ≠ .terminated) :
    Accounted (AllocatorBackendGrallocGbm.allocate2 cfg env d count p).2
      (k.afterBackend cfg env .allocatorGrallocGbm d count p) := by
  simp only [Left.afterBackend, AllocatorBackendType.allocate2]
  unfold AllocatorBackendGrallocGbm.allocate2 grallocGbmAllocate at hret ⊢
  cases hdesc : generateGrallocGenericDesc d with
  | none => exact h
  | some desc =>
    rw [hdesc] at hret
    dsimp only at hret ⊢
    cases hsup : grallocGbmIsAllocatorDescSupported cfg env.isFormatSupported (isGrallocGbmReady p)
        desc with
    | false => exact h
    | true =>
      simp only [hsup, Bool.not_true, Bool.false_eq_true, if_false, if_true] at hret ⊢
      cases hresize : resizes env count p with
      | false =>
        rw [hresize] at hret
        exact absurd rfl hret
      | true =>
      simp only [hresize, Bool.not_true, Bool.false_eq_true, if_false] at hret ⊢
      have hloop := newHandles_counted cfg env desc count.toInt.toNat 0
        (Batch.start h.settled hready) h.counts h.blocks
      cases hr : newHandles cfg env desc count.toInt.toNat [] 0 p with
      | mk st p1 =>
        rw [hr] at hloop hret
        dsimp only at hloop
        rcases hloop with rfl | ⟨hb, ⟨hs, stride, x', rfl, h1, hc1⟩ | ⟨e, p0', x', rfl, h1, hc1⟩⟩
        · exact absurd rfl hret
        · dsimp only at hret ⊢
          cases hresize' : resizes env count p1 with
          | false =>
            rw [hresize'] at hret
            exact absurd rfl hret
          | true =>
          simp only [Bool.not_true, Bool.false_eq_true, if_false]
          obtain ⟨buffers, p2, x2, heq, h2, hcard⟩ := exportHandles_counted env h1
          have hb2 := hb.exportHandles env hs
          rw [heq] at hb2
          simp only [heq]
          exact h2.accounted (hc1.handed hcard) hb2
        · exact h1.accounted hc1 hb

end

/-! ## The DMA-BUF backend -/

/-- The process between two iterations: besides what is on the account, it has `handles` with a
    descriptor each. -/
structure Holding (p : Proc) (handles : List NativeHandle) (k : Left) : Prop where
  settled : Settled p
  keys : ∃ ks : List Int, (handles.map NativeHandle.fds = ks.map fun key => [key]) ∧ ks.Nodup ∧
    ∀ key ∈ ks, key ∈ p.fds
  addrs : (handles.map NativeHandle.addr).Nodup
  addr_mem : ∀ handle ∈ handles, handle.addr ∈ p.handles
  fds_card : p.fds.card = 4 + k.fds + handles.length
  handles_card : p.handles.card = k.handles + handles.length
  objects : HasObjects p k.objects
  blocks : BlocksCount p (k.buffers + k.objects)

section

variable {p : Proc} {k : Left}

/-- Before the first iteration. -/
theorem Accounted.holding (h : Accounted p k) : Holding p [] k where
  settled := h.settled
  keys := ⟨[], rfl, List.nodup_nil, fun key hkey => by cases hkey⟩
  addrs := List.nodup_nil
  addr_mem := fun handle hh => by cases hh
  fds_card := h.counts.fds
  handles_card := h.counts.handles
  objects := h.counts.objects
  blocks := h.blocks

/-- After the last. -/
theorem Holding.accounted (h : Holding p [] k) : Accounted p k :=
  ⟨h.settled, ⟨h.fds_card, h.handles_card, h.objects⟩, h.blocks⟩

end

namespace AllocatorBackendDmaBuf

variable {env : Env} {d : BufferDescriptorInfo} {p p1 : Proc} {n : Nat} {k : Left}
  {handles hs : List NativeHandle}

/-- An iteration leaves the table alone, and opens no negative descriptor. -/
theorem afterAllocSystem_settled (d : BufferDescriptorInfo) (hp : Settled p) :
    Settled (afterAllocSystem env d p) :=
  iterate_settled hp 1

/-- What an iteration takes, whether there is a handle or not. -/
theorem afterAllocSystem_cards (env : Env) (d : BufferDescriptorInfo) (hp : Settled p) :
    (afterAllocSystem env d p).fds.card
        = p.fds.card + openedBy (env.newFd (p.calls.length + 1) p.fds) ∧
      (afterAllocSystem env d p).handles.card
        = p.handles.card + if env.alloc p.calls.length then 1 else 0 := by
  have hnew : p.next ∉ p.handles := fun hmem => by
    have := hp.handle_lt _ hmem
    omega
  rw [afterAllocSystem_eq]
  refine ⟨card_addFd (newFd_notMem env p _), ?_⟩
  dsimp only
  split
  · exact Finset.card_insert_of_notMem hnew
  · rfl

/-- It concerns no metadata block, -/
theorem afterAllocSystem_blocks (d : BufferDescriptorInfo) (hb : BlocksCount p n) :
    BlocksCount (afterAllocSystem env d p) n := by
  rw [afterAllocSystem_eq]
  exact hb.of_same rfl rfl (Nat.le_succ _)

/-- and no object. -/
theorem afterAllocSystem_objects (d : BufferDescriptorInfo) (h : HasObjects p n) :
    HasObjects (afterAllocSystem env d p) n := by
  rw [afterAllocSystem_eq]
  exact h

/-- An iteration of a loop that fails is on the account. -/
theorem afterAllocSystem_accounted (env : Env) (d : BufferDescriptorInfo) (h : Accounted p k) :
    Accounted (afterAllocSystem env d p) (k.afterHeap env p) where
  settled := afterAllocSystem_settled d h.settled
  counts := by
    obtain ⟨hfds, hhandles⟩ := afterAllocSystem_cards env d h.settled
    have h0 := h.counts.fds
    refine ⟨?_, ?_, afterAllocSystem_objects d h.counts.objects⟩
    · simp only [Left.fds, Left.afterHeap] at h0 ⊢
      omega
    · rw [hhandles, h.counts.handles]
      rfl
  blocks := afterAllocSystem_blocks d h.blocks

/-- A first loop that fails leaves all that it has taken. -/
theorem newHandles_fails_accounted (h : Accounted p k) (hret : (newHandles env d n p).1 ≠ .terminated)
    (hfail : (newHandles env d n p).1.code ≠ .ok ()) :
    Accounted (newHandles env d n p).2 (k.afterHeaps env d n p) := by
  induction n generalizing p k with
  | zero => exact absurd rfl hfail
  | succ n ih =>
    have hstep := newHandles_succ env d n p
    have h1 := afterAllocSystem_accounted env d h
    by_cases hfd : heapFd env p ≤ 0
    · have hno : completes env p = false := by simp [completes, hfd]
      rw [if_pos hfd] at hstep
      simp only [Left.afterHeaps, hno, Bool.false_eq_true, if_false]
      rw [show newHandles env d (n + 1) p = _ from hstep]
      exact h1
    rw [if_neg hfd] at hstep
    by_cases ha : env.alloc p.calls.length = false
    · rw [if_pos ha] at hstep
      exact absurd (congrArg Prod.fst hstep) hret
    · rw [if_neg ha] at hstep
      obtain ⟨hcode, hproc⟩ := hstep
      have hyes : completes env p = true := by
        rw [completes, Bool.eq_true_of_not_eq_false ha]
        simpa using hfd
      simp only [Left.afterHeaps, hyes, if_true]
      rw [show (newHandles env d (n + 1) p).2 = _ from hproc]
      refine ih h1 (fun hterm => hret ?_) (fun hok => hfail ?_)
      · rw [hterm] at hcode
        generalize newHandles env d (n + 1) p = r at hcode ⊢
        obtain ⟨st, q⟩ := r
        cases st <;> first | rfl | cases hcode
      · exact hcode.trans hok

/-- An iteration of a loop that comes to its end. -/
theorem afterAllocSystem_holding (d : BufferDescriptorInfo) (h : Holding p handles k)
    {handle : NativeHandle} (hfds : handle.fds = [heapFd env p]) (haddr : handle.addr = p.next)
    (halloc : env.alloc p.calls.length = true) (hpos : 0 < heapFd env p) :
    Holding (afterAllocSystem env d p) (handles ++ [handle]) k := by
  obtain ⟨key, hkey⟩ : ∃ key, env.newFd (p.calls.length + 1) p.fds = some key := by
    cases hnew : env.newFd (p.calls.length + 1) p.fds with
    | none =>
      simp only [heapFd, hnew, Option.getD_none] at hpos
      omega
    | some key => exact ⟨key, rfl⟩
  have hheap : heapFd env p = key := by rw [heapFd, hkey, Option.getD_some]
  have hfresh := (env.newFd_fresh _ _ _ hkey).2
  have hnew : p.next ∉ p.handles := fun hmem => by
    have := h.settled.handle_lt _ hmem
    omega
  obtain ⟨ks, hks, hnodup, hopen⟩ := h.keys
  obtain ⟨hcards, hcardh⟩ := afterAllocSystem_cards env d h.settled
  rw [hkey] at hcards
  rw [halloc] at hcardh
  have hq := afterAllocSystem_eq env d p
  rw [hkey, halloc] at hq
  constructor
  case settled => exact afterAllocSystem_settled d h.settled
  case keys =>
    refine ⟨ks ++ [key], ?_, ?_, fun key' hkey' => ?_⟩
    · rw [List.map_append, List.map_append, hks, List.map_singleton, hfds, hheap, List.map_singleton]
    · rw [List.nodup_append_comm, List.singleton_append, List.nodup_cons]
      exact ⟨fun hmem => hfresh (hopen key hmem), hnodup⟩
    · rw [hq]
      show key' ∈ insert key p.fds
      rcases List.mem_append.mp hkey' with hkey' | hkey'
      · exact Finset.mem_insert_of_mem (hopen key' hkey')
      · rw [List.mem_singleton.mp hkey']
        exact Finset.mem_insert_self _ _
  case addrs =>
    rw [List.map_append, List.map_singleton, List.nodup_append_comm, List.singleton_append,
      List.nodup_cons]
    refine ⟨fun hmem => hnew ?_, h.addrs⟩
    obtain ⟨h', hh', heq⟩ := List.mem_map.mp hmem
    rw [← haddr, ← heq]
    exact h.addr_mem h' hh'
  case addr_mem =>
    intro h' hh'
    rw [hq]
    show h'.addr ∈ insert p.next p.handles
    rcases List.mem_append.mp hh' with hh' | hh'
    · exact Finset.mem_insert_of_mem (h.addr_mem h' hh')
    · rw [List.mem_singleton.mp hh', haddr]
      exact Finset.mem_insert_self _ _
  case fds_card =>
    rw [hcards, h.fds_card, List.length_append]
    rfl
  case handles_card =>
    rw [hcardh, h.handles_card, List.length_append]
    rfl
  case objects => exact afterAllocSystem_objects d h.objects
  case blocks => exact afterAllocSystem_blocks d h.blocks

/-- A first loop that comes to its end holds what it has made. -/
theorem newHandles_holding (h : Holding p hs k) (hok : newHandles env d n p = (.ok handles, p1)) :
    Holding p1 (hs ++ handles) k := by
  induction n generalizing p hs handles with
  | zero =>
    obtain ⟨hr, rfl⟩ := Prod.mk.inj hok
    obtain rfl := Status.ok.inj hr
    rw [List.append_nil]
    exact h
  | succ n ih =>
    obtain ⟨handle, rest, hfds, haddr, halloc, hpos, rfl, hrest⟩ := newHandles_succ_addr hok
    have h1 := ih (afterAllocSystem_holding d h hfds haddr halloc hpos) hrest
    rw [List.append_assoc, List.singleton_append] at h1
    exact h1

/-- An iteration of the last loop: a duplicate is handed out, its original goes. -/
theorem dupToAidl_holding (env : Env) {handle : NativeHandle}
    (h : Holding p (handle :: handles) k) :
    Holding (nativeHandleDelete handle (nativeHandleClose handle (dupToAidl env handle p).2)) handles
      { k with
        handed := k.handed
          + (dupToAidl env handle p).1.fds.countP fun fd => decide (0 ≤ fd) } := by
  obtain ⟨ks, hks, hnodup, hopen⟩ := h.keys
  cases ks with
  | nil => cases hks
  | cons key ks =>
  obtain ⟨hfds, hks⟩ := List.cons.inj hks
  obtain ⟨hkeyn, hnodup⟩ := List.nodup_cons.mp hnodup
  obtain ⟨haddrn, haddrs⟩ := List.nodup_cons.mp h.addrs
  have hmem : key ∈ addFd (dupFd env key p).1 p.fds :=
    mem_addFd.mpr (.inr (hopen key List.mem_cons_self))
  have hq : nativeHandleDelete handle (nativeHandleClose handle (dupToAidl env handle p).2)
      = { p with
        fds := (addFd (dupFd env key p).1 p.fds).erase key
        handles := p.handles.erase handle.addr
        calls := .dup key (dupFd env key p).1 :: p.calls } := by
    rw [dupToAidl_eq hfds, dupFd_snd]
    simp [nativeHandleDelete, nativeHandleClose, hfds, Finset.sdiff_singleton_eq_erase]
  have hone : (dupToAidl env handle p).1.fds.countP (fun fd => decide (0 ≤ fd))
      = openedBy (dupFd env key p).1 := by
    rw [dupToAidl_eq hfds]
    exact countP_dupFd env key p
  constructor
  case settled => exact (h.settled.dupToAidl handle).released handle
  case keys =>
    refine ⟨ks, hks, hnodup, fun key' hkey' => ?_⟩
    rw [hq]
    refine Finset.mem_erase.mpr ⟨fun heq => hkeyn (heq ▸ hkey'), ?_⟩
    exact mem_addFd.mpr (.inr (hopen key' (List.mem_cons_of_mem _ hkey')))
  case addrs => exact haddrs
  case addr_mem =>
    intro h' hh'
    rw [hq]
    refine Finset.mem_erase.mpr ⟨fun heq => haddrn ?_, h.addr_mem h' (List.mem_cons_of_mem _ hh')⟩
    rw [← heq]
    exact List.mem_map_of_mem hh'
  case fds_card =>
    have h0 := h.fds_card
    have h1 := Finset.card_erase_add_one hmem
    have h2 := card_addFd fun d (hd : (dupFd env key p).1 = some d) => (dupFd_fresh hd).2
    rw [hq, hone]
    simp only [Left.fds, List.length_cons] at h0 ⊢
    omega
  case handles_card =>
    have h0 := h.handles_card
    have h1 := Finset.card_erase_add_one (h.addr_mem handle List.mem_cons_self)
    rw [hq]
    simp only [List.length_cons] at h0 ⊢
    omega
  case objects =>
    rw [hq]
    exact h.objects
  case blocks =>
    rw [hq]
    exact h.blocks.of_same rfl rfl (le_refl _)

/-- The last loop: everything held is handed out or given up. -/
theorem exportHandles_accounted (env : Env) (h : Holding p handles k) :
    Accounted (exportHandles env handles p).2
      { k with handed := k.handed + handedOut (exportHandles env handles p).1 } := by
  induction handles generalizing p k with
  | nil => exact h.accounted
  | cons handle handles ih =>
    have h1 := ih (dupToAidl_holding env h)
    rw [Nat.add_assoc] at h1
    exact h1

/-- A call of the DMA-BUF backend. -/
theorem allocate2_accounted {cfg : BuildConfig} {count : Int32} (h : Accounted p k)
    (hret : (allocate2 env d count p).1 ≠ .terminated) :
    Accounted (allocate2 env d count p).2
      (k.afterBackend cfg env .allocatorGrallocDmabuf d count p) := by
  simp only [Left.afterBackend, AllocatorBackendType.allocate2]
  unfold allocate2 at hret ⊢
  cases hresize : resizes env count p with
  | false =>
    rw [hresize] at hret
    exact absurd rfl hret
  | true =>
  simp only [hresize, Bool.not_true, Bool.false_eq_true, if_false] at hret ⊢
  have hfails : (newHandles env d count.toInt.toNat p).1 ≠ .terminated →
      (newHandles env d count.toInt.toNat p).1.code ≠ .ok () →
      Accounted (newHandles env d count.toInt.toNat p).2 (k.afterHeaps env d count.toInt.toNat p) :=
    newHandles_fails_accounted h
  cases hr : newHandles env d count.toInt.toNat p with
  | mk st p1 =>
    rw [hr] at hret hfails
    cases st with
    | ok handles =>
      dsimp only at hret ⊢
      cases hresize' : resizes env count p1 with
      | false =>
        rw [hresize'] at hret
        exact absurd rfl hret
      | true => exact exportHandles_accounted env (newHandles_holding h.holding hr)
    | error e => exact hfails (fun hno => by cases hno) (fun hno => by cases hno)
    | terminated => exact absurd rfl hret

end AllocatorBackendDmaBuf

/-! ## The service

  The account starts with the service, and goes on with each request. -/

section

variable {cfg : BuildConfig} {env : Env}
  {decode : List UInt8 → Option Allocator.BufferDescriptorInfoV4} {d : BufferDescriptorInfo}
  {s : Allocator} {k : Left}

/-- A service that has started has the standard descriptors and the render node. -/
theorem Allocator.init_accounted (hinit : (Allocator.init env).1 = 0) :
    Accounted (Allocator.init env).2.proc .zero := by
  have hsettled := Allocator.init_settled hinit
  have hready := Allocator.init_ready hinit
  have hproc : (Allocator.init env).2.proc
      = (grallocGbmInit env { Proc.start with dmaAllocator := true }).2 := rfl
  rw [hproc] at hsettled hready ⊢
  rcases grallocGbmInit_cases env { Proc.start with dmaAllocator := true } with
    ⟨hno, -⟩ | ⟨-, rc, g, n, cs, hrc, -, hr⟩ | ⟨-, fd, n, cs, -, hfd, -, hr⟩
  · cases hno
  · exact absurd (congrArg Prod.fst hr) (fun heq => hrc (heq.symm.trans hinit))
  rw [hr] at hsettled ⊢
  refine ⟨hsettled, ⟨?_, rfl, .start fun _ => rfl⟩, .start (fun _ => rfl) rfl⟩
  show (insert fd Proc.start.fds).card + 0 = 4 + 0
  rw [Finset.card_insert_of_notMem hfd]
  rfl

/-- The whole call, for either backend. -/
theorem Allocator.allocate2_accounted {count : Int32} (hready : isGrallocGbmReady s.proc = true)
    (h : Accounted s.proc k) (hret : (s.allocate2 cfg env d count).1.code ≠ .terminated) :
    Accounted (s.allocate2 cfg env d count).2.proc (k.afterAllocate2 cfg env d count s) := by
  obtain ⟨da, cs, hcheck⟩ :=
    Allocator.checkBackend_spec env (s := { s with mBackend := served cfg env d s }) hready
  have h1 := h.of_same da cs
  simp only [Left.afterAllocate2, Allocator.allocate2, Allocator.selectBackend_eq cfg env d hready,
    hcheck] at hret ⊢
  cases hserved : served cfg env d s with
  | none => exact h1
  | some backend =>
    rw [hserved] at hret
    have hret' : (backend.allocate2 cfg env d count
        { s.proc with dmaAllocator := da, calls := cs }).1 ≠ .terminated :=
      fun hterm => hret (congrArg Status.code hterm)
    cases backend with
    | allocatorGrallocGbm => exact AllocatorBackendGrallocGbm.allocate2_accounted hready h1 hret'
    | allocatorGrallocDmabuf => exact AllocatorBackendDmaBuf.allocate2_accounted h1 hret'

/-- A question costs nothing. -/
theorem Allocator.isSupported_accounted (hready : isGrallocGbmReady s.proc = true)
    (h : Accounted s.proc k) : Accounted (s.isSupported cfg env d).2.proc k := by
  by_cases hoptions : ∀ o ∈ d.additionalOptions, o = standardMetadataDataspace
  · obtain ⟨da, cs, heq⟩ := isSupported_eq cfg env hready hoptions
    rw [heq]
    cases served cfg env d s <;> exact h.of_same da cs
  · rw [isSupported_denied cfg env hoptions]
    exact h

/-- **Every request that returns is on the account.** -/
theorem Accounted.step (hready : isGrallocGbmReady s.proc = true) (h : Accounted s.proc k)
    (op : AllocatorOp) (hret : Returns cfg env decode s op) :
    Accounted (allocatorStep cfg env decode s op).proc (k.after cfg env decode s op) := by
  cases op with
  | allocate encodedDescriptor count =>
    simp only [Returns, allocatorStep, allocatorCall, Allocator.allocate, Left.after] at hret ⊢
    cases hd : decode encodedDescriptor with
    | none => exact h
    | some d =>
      rw [hd] at hret
      exact Allocator.allocate2_accounted hready h hret
  | allocate2 d count => exact Allocator.allocate2_accounted hready h hret
  | isSupported d => exact Allocator.isSupported_accounted hready h

end

/-- **The account of a run** of requests to a started service, whatever is asked for and whatever
    fails, as long as the requests return.  So the service gives back every entry and every object
    that got one; but of each GBM buffer that it has ever made a block and a descriptor stay.
    Counted are open descriptors, native handles, buffer objects and metadata blocks, and no other
    memory. -/
theorem allocatorRun_accounts (cfg : BuildConfig) (env : Env)
    (decode : List UInt8 → Option Allocator.BufferDescriptorInfoV4)
    (hinit : (Allocator.init env).1 = 0) (ops : List AllocatorOp)
    (hops : Run.Along (allocatorStep cfg env decode) (Returns cfg env decode)
      (Allocator.init env).2 ops) :
    let p := (allocatorRun cfg env decode ops).proc
    let k := (leftRun cfg env decode ops).2
    p.table = [] ∧ p.fds.card = 4 + k.handed + k.logged + k.objectFds + k.heapFds ∧
      p.handles.card = k.handles ∧ HasObjects p k.objects ∧
      p.heap.card = k.buffers + 3 * k.objects := by
  intro p k
  have hrun : (leftRun cfg env decode ops).1 = allocatorRun cfg env decode ops ∧
      isGrallocGbmReady p = true ∧ Accounted p k := by
    refine Run.foldl_sim (fun (s : Allocator) (t : Allocator × Left) =>
      t.1 = s ∧ isGrallocGbmReady s.proc = true ∧ Accounted s.proc t.2) ?_
      ⟨rfl, Allocator.init_ready hinit, Allocator.init_accounted hinit⟩ hops
    rintro s ⟨t, k⟩ op ⟨rfl, hready, h⟩ hret
    exact ⟨rfl, allocatorStep_ready cfg env decode op hready, h.step hready op hret⟩
  obtain ⟨-, -, h⟩ := hrun
  obtain ⟨live, hlive, hheap⟩ := h.blocks.card
  obtain rfl := hlive.unique h.counts.objects
  refine ⟨h.settled.table, ?_, h.counts.handles, h.counts.objects, by omega⟩
  have hfds := h.counts.fds
  simp only [Left.fds, Finset.card_empty] at hfds
  omega

/-- Two buffers of the GBM backend, then three BLOBs. -/
def rgbaThenBlobs : List AllocatorOp := [.allocate2 (rgbaInfo []) 2, .allocate2 (blobInfo 4096 1) 3]

/-- The second BLOB gets no memory: its handle stays behind, and the first one with its memory. -/
theorem rgbaThenBlobs_accounts :
    let p := (allocatorRun .androidBp (.scarce 20) (fun _ => none) rgbaThenBlobs).proc
    let k := (leftRun .androidBp (.scarce 20) (fun _ => none) rgbaThenBlobs).2
    k = ⟨2, 2, 2, 0, 0, 2, 1⟩ ∧ p.table = [] ∧
      p.fds.card = 4 + k.handed + k.logged + k.objectFds + k.heapFds ∧
      p.handles.card = k.handles ∧ HasObjects p k.objects ∧ p.heap.card = k.buffers + 3 * k.objects := by
  intro p k
  have hk : k = ⟨2, 2, 2, 0, 0, 2, 1⟩ := by decide
  exact ⟨hk, allocatorRun_accounts .androidBp (.scarce 20) (fun _ => none) rfl rgbaThenBlobs
    ⟨nofun, nofun, trivial⟩⟩

end GrallocGbm
