/-
  An unfinished batch of the GBM backend, when anything can fail.

  `Batch` describes the allocator between two iterations of its loops: the table holds the entries
  of the handles made so far, and apart from these the process has what it had.  It allows for what
  `Pending` excludes, a failed export: then the key is -1, and several entries may have it.  So the
  entries belong to the handles as a whole only, key by key, and a release may take away the entry
  of another handle under -1; at the end all are gone all the same (`releaseHandles_batch`).

  * `Settled` — the state between two requests: an empty table, and no negative descriptor.  Objects
    and handles that earlier failures have left behind may be there.
  * `Batch.start`, `Batch.done` — nothing unfinished, at either end;
  * `Batch.added` — one buffer more, with whatever its creation opened (`Batch.opened`);
  * `Batch.leak_handle`, `Batch.leak_object` — what a creation that fails has left behind becomes
    part of the process the batch is compared with;
  * `Batch.release` — one handle less: the entry that is found under its key goes, with its object.

  That the entries match the handles only up to a permutation of the keys is the price of -1.  A
  release looks its entry up by the key, and of several with the key -1 it takes the newest,
  whichever handle that was made for.  The number of entries with each key is right all along, and
  that is what is needed for the table to be empty when the handles are used up.
-/
import GrallocGbm.History

namespace GrallocGbm

open AllocatorBackendGrallocGbm

/-! ## Between two requests

  A request starts with the entries of the last one gone, and ends that way if it returns; what
  it leaves behind besides are objects, handles and descriptors without an entry. -/

/-- The table is empty, addresses are handed out upwards, and no descriptor is negative.  (Objects
    and handles may have been left behind, so this says less than `Idle`.) -/
structure Settled (p : Proc) : Prop where
  table : p.table = []
  bo_lt : ∀ bo, (p.bos bo).isSome = true → bo < p.next
  handle_lt : ∀ a ∈ p.handles, a < p.next
  fd_nonneg : ∀ fd ∈ p.fds, 0 ≤ fd

section

variable {env : Env} {p : Proc}

/-- A step that concerns descriptors and handles only, none of them negative or from above the
    counter. -/
theorem Settled.of_unlisted (h : Settled p) {fds : Finset Int} {handles : Finset Nat} {da : Bool}
    {n : Nat} {cs : List ExtCall} (hn : p.next ≤ n) (hhandles : ∀ a ∈ handles, a < n)
    (hfds : ∀ fd ∈ fds, 0 ≤ fd) :
    Settled { p with
      fds := fds
      handles := handles
      dmaAllocator := da
      next := n
      calls := cs } where
  table := h.table
  bo_lt := fun bo hbo => lt_of_lt_of_le (h.bo_lt bo hbo) hn
  handle_lt := hhandles
  fd_nonneg := hfds

/-- Asking for the list of heaps. -/
theorem Settled.checked (h : Settled p) (da : Bool) (cs : List ExtCall) :
    Settled { p with dmaAllocator := da, calls := cs } :=
  h.of_unlisted (le_refl _) h.handle_lt h.fd_nonneg

/-- A descriptor a call has opened. -/
theorem mem_addFd {fd : Option Int} {fds : Finset Int} {d : Int} :
    d ∈ addFd fd fds ↔ fd = some d ∨ d ∈ fds := by
  cases fd with
  | none => simp [addFd]
  | some y => simp [addFd, eq_comm]

/-- A descriptor that is handed out is not negative, -/
theorem Settled.openFd (h : Settled p) (log : Option Int → ExtCall) :
    Settled (openFd env log p).2 := by
  refine h.of_unlisted (le_refl _) h.handle_lt fun fd hfd => ?_
  rcases mem_addFd.mp hfd with hnew | hfd
  · exact (env.newFd_fresh _ _ _ hnew).1
  · exact h.fd_nonneg fd hfd

/-- nor is a duplicate. -/
theorem Settled.dupFd (h : Settled p) (fd : Int) : Settled (dupFd env fd p).2 := by
  rw [dupFd_snd]
  refine h.of_unlisted (le_refl _) h.handle_lt fun d hd => ?_
  rcases mem_addFd.mp hd with hnew | hd
  · exact (dupFd_fresh hnew).1
  · exact h.fd_nonneg d hd

/-- A handle more, in a new block. -/
theorem Settled.grallocHandleCreate (h : Settled p) (width height halFormat usage : UInt32) :
    Settled (grallocHandleCreate env width height halFormat usage p).2 := by
  have hlt : ∀ a ∈ p.handles, a < p.next + 1 := fun a ha => Nat.lt_succ_of_lt (h.handle_lt a ha)
  rw [grallocHandleCreate_eq]
  split
  · refine h.of_unlisted (Nat.le_succ _) (fun a ha => ?_) h.fd_nonneg
    rcases Finset.mem_insert.mp ha with rfl | ha
    · exact Nat.lt_succ_self _
    · exact hlt a ha
  · exact h.of_unlisted (Nat.le_succ _) hlt h.fd_nonneg

/-- The duplicates of a handle. -/
theorem Settled.dupToAidl (h : Settled p) (handle : NativeHandle) :
    Settled (dupToAidl env handle p).2 := by
  show Settled (dupEach env handle.fds p).2
  induction handle.fds generalizing p with
  | nil => exact h
  | cons fd l ih => exact ih (h.dupFd fd)

/-- Closing and deleting a handle. -/
theorem Settled.released (h : Settled p) (handle : NativeHandle) :
    Settled (nativeHandleDelete handle (nativeHandleClose handle p)) :=
  h.of_unlisted (le_refl _) (fun a ha => h.handle_lt a (Finset.erase_subset _ _ ha))
    fun fd hfd => h.fd_nonneg fd (Finset.sdiff_subset hfd)

end

/-! ## An unfinished batch

  Inside a request the table holds entries of its own.  `Batch` accounts for them handle by
  handle, in the order of the loop, and each iteration adds one.  A key is the descriptor that
  was exported for the handle, or -1 where there was none, so several handles can be under -1. -/

/-- In `p` the table holds the entries of `handles`, which an unfinished batch has made; apart from
    these, their objects and their keys, `p` has what `p0` has, and the descriptors `x`. -/
structure Batch (p0 p : Proc) (handles : List NativeHandle) (x : Finset Int) : Prop where
  ready : isGrallocGbmReady p = true
  keys : (handles.map NativeHandle.fds).Perm (p.table.map fun e => [e.fd])
  addrs : (p.table.map AndroidBuffer.addr).Nodup
  objects : (p.table.map AndroidBuffer.bo).Nodup
  /-- A failed export gives the key -1, as often as it happens; other keys are unique. -/
  distinct : ∀ e ∈ p.table, ∀ e' ∈ p.table, e.fd = e'.fd → e.fd = -1 ∨ e = e'
  unborn : ∀ e ∈ p.table, p0.bos e.bo = none
  alive : ∀ e ∈ p.table, (p.bos e.bo).isSome = true
  bos : ∀ bo, (∀ e ∈ p.table, e.bo ≠ bo) → p.bos bo = p0.bos bo
  fds : ∀ fd, fd ∈ p.fds ↔ fd ∈ p0.fds ∨ fd ∈ x ∨ fd ≠ -1 ∧ ∃ e ∈ p.table, e.fd = fd
  key_new : ∀ e ∈ p.table, e.fd ∉ p0.fds ∧ e.fd ∉ x
  extra_new : ∀ fd ∈ x, fd ∉ p0.fds
  handles_eq : p.handles = p0.handles ∪ (handles.map NativeHandle.addr).toFinset
  handle_new : ∀ h ∈ handles, h.addr ∉ p0.handles
  handles_nodup : (handles.map NativeHandle.addr).Nodup
  addr_lt : ∀ e ∈ p.table, e.addr < p.next
  bo_lt : ∀ bo, (p.bos bo).isSome = true → bo < p.next
  handle_lt : ∀ a ∈ p.handles, a < p.next
  fd_nonneg : ∀ fd ∈ p.fds, 0 ≤ fd

section

variable {cfg : BuildConfig} {env : Env} {p0 p : Proc} {handles : List NativeHandle} {x : Finset Int}

/-- Nothing unfinished at the start. -/
theorem Batch.start (hp : Settled p) (hready : isGrallocGbmReady p = true) : Batch p p [] ∅ where
  ready := hready
  keys := by rw [hp.table]; exact List.Perm.refl _
  addrs := by rw [hp.table]; exact List.nodup_nil
  objects := by rw [hp.table]; exact List.nodup_nil
  distinct := by rw [hp.table]; simp
  unborn := by rw [hp.table]; simp
  alive := by rw [hp.table]; simp
  bos := fun _ _ => rfl
  fds := by rw [hp.table]; simp
  key_new := by rw [hp.table]; simp
  extra_new := by simp
  handles_eq := by simp
  handle_new := by simp
  handles_nodup := List.nodup_nil
  addr_lt := by rw [hp.table]; simp
  bo_lt := hp.bo_lt
  handle_lt := hp.handle_lt
  fd_nonneg := hp.fd_nonneg

/-- Without handles there is no entry. -/
theorem Batch.table_nil (h : Batch p0 p [] x) : p.table = [] := by
  have hnil := h.keys.symm.eq_nil
  exact List.map_eq_nil_iff.mp hnil

/-- Nothing unfinished: what is there is what was there, and the extra descriptors. -/
theorem Batch.done (h : Batch p0 p [] x) :
    p.bos = p0.bos ∧ p.fds = p0.fds ∪ x ∧ p.handles = p0.handles := by
  refine ⟨funext fun bo => h.bos bo (by rw [h.table_nil]; simp), ?_, by simpa using h.handles_eq⟩
  ext fd
  rw [h.fds, h.table_nil, Finset.mem_union]
  simp

/-- So the process is settled again. -/
theorem Batch.settled (h : Batch p0 p [] x) : Settled p where
  table := h.table_nil
  bo_lt := h.bo_lt
  handle_lt := h.handle_lt
  fd_nonneg := h.fd_nonneg

/-- The heap, the counter of addresses and the log do not matter. -/
theorem Batch.of_same (h : Batch p0 p handles x) {n : Nat} (hn : p.next ≤ n) (heap : Finset Nat)
    (cs : List ExtCall) : Batch p0 { p with heap := heap, next := n, calls := cs } handles x where
  ready := h.ready
  keys := h.keys
  addrs := h.addrs
  objects := h.objects
  distinct := h.distinct
  unborn := h.unborn
  alive := h.alive
  bos := h.bos
  fds := h.fds
  key_new := h.key_new
  extra_new := h.extra_new
  handles_eq := h.handles_eq
  handle_new := h.handle_new
  handles_nodup := h.handles_nodup
  addr_lt := fun e he => lt_of_lt_of_le (h.addr_lt e he) hn
  bo_lt := fun bo hbo => lt_of_lt_of_le (h.bo_lt bo hbo) hn
  handle_lt := fun a ha => lt_of_lt_of_le (h.handle_lt a ha) hn
  fd_nonneg := h.fd_nonneg

/-- A descriptor that is not open is none of those accounted for, and it is not -1. -/
theorem Batch.not_open (h : Batch p0 p handles x) {fd : Int} (hfd : fd ∉ p.fds) :
    fd ∉ p0.fds ∧ fd ∉ x ∧ ∀ e ∈ p.table, e.fd = fd → fd = -1 := by
  rw [h.fds, not_or, not_or] at hfd
  refine ⟨hfd.1, hfd.2.1, fun e he heq => ?_⟩
  by_contra hne
  exact hfd.2.2 ⟨hne, e, he, heq⟩

/-- The key of a failed export is no open descriptor. -/
theorem Batch.neg_one (h : Batch p0 p handles x) : (-1 : Int) ∉ p.fds := fun hmem => by
  have := h.fd_nonneg _ hmem
  omega

/-- One more descriptor that is nobody's key. -/
theorem Batch.opened (h : Batch p0 p handles x) {fd : Option Int}
    (hfd : ∀ d, fd = some d → 0 ≤ d ∧ d ∉ p.fds) (cs : List ExtCall) :
    Batch p0 { p with fds := addFd fd p.fds, calls := cs } handles (addFd fd x) where
  ready := h.ready
  keys := h.keys
  addrs := h.addrs
  objects := h.objects
  distinct := h.distinct
  unborn := h.unborn
  alive := h.alive
  bos := h.bos
  fds := by
    intro d
    show d ∈ addFd fd p.fds ↔ _
    rw [mem_addFd, mem_addFd, h.fds]
    tauto
  key_new := by
    intro e he
    refine ⟨(h.key_new e he).1, fun hmem => ?_⟩
    rcases mem_addFd.mp hmem with hd | hmem
    · obtain ⟨h0, hopen⟩ := hfd _ hd
      have := (h.not_open hopen).2.2 e he rfl
      omega
    · exact (h.key_new e he).2 hmem
  extra_new := by
    intro d hd
    rcases mem_addFd.mp hd with hd | hd
    · exact (h.not_open (hfd d hd).2).1
    · exact h.extra_new d hd
  handles_eq := h.handles_eq
  handle_new := h.handle_new
  handles_nodup := h.handles_nodup
  addr_lt := h.addr_lt
  bo_lt := h.bo_lt
  handle_lt := h.handle_lt
  fd_nonneg := by
    intro d hd
    rcases mem_addFd.mp hd with hd | hd
    · exact (hfd d hd).1
    · exact h.fd_nonneg d hd

/-- A new handle is one more of those accounted for. -/
theorem Batch.handles_append (h : Batch p0 p handles x) {handle : NativeHandle}
    (hnew : handle.addr ∉ p.handles) :
    insert handle.addr p.handles
        = p0.handles ∪ ((handles ++ [handle]).map NativeHandle.addr).toFinset ∧
      (∀ h' ∈ handles ++ [handle], h'.addr ∉ p0.handles) ∧
      ((handles ++ [handle]).map NativeHandle.addr).Nodup := by
  have hnew' := hnew
  rw [h.handles_eq, Finset.mem_union, List.mem_toFinset, not_or] at hnew'
  refine ⟨?_, fun h' hh' => ?_, ?_⟩
  · rw [h.handles_eq, List.map_append, List.toFinset_append, ← Finset.union_assoc,
      Finset.union_comm _ (List.toFinset (List.map _ [handle]))]
    rfl
  · rcases List.mem_append.mp hh' with hh' | hh'
    · exact h.handle_new h' hh'
    · rw [List.mem_singleton.mp hh']
      exact hnew'.1
  · rw [List.map_append, List.map_singleton, List.nodup_append_comm, List.singleton_append,
      List.nodup_cons]
    exact ⟨hnew'.2, h.handles_nodup⟩

/-- The key of a new entry, the exported descriptor or -1, is not open yet. -/
theorem Batch.key_notMem (h : Batch p0 p handles x) {fd : Option Int}
    (hfd : ∀ d, fd = some d → 0 ≤ d ∧ d ∉ p.fds) : fd.getD (-1) ∉ p.fds := by
  cases fd with
  | none => exact h.neg_one
  | some d => exact (hfd d rfl).2

/-- Exactly the keys other than -1 are descriptors. -/
theorem some_eq_iff_getD {fd : Option Int} (hfd : ∀ d, fd = some d → 0 ≤ d) (d : Int) :
    fd = some d ↔ d ≠ -1 ∧ fd.getD (-1) = d := by
  cases fd with
  | none => simp [eq_comm]
  | some y =>
    have := hfd y rfl
    simp only [Option.some.injEq, Option.getD_some]
    omega

/-- One more handle, with an entry under the descriptor that was exported for it, or under -1. -/
theorem Batch.added (h : Batch p0 p handles x) (handle : NativeHandle) (e : AndroidBuffer)
    (fd : Option Int) (b : Bo) (heap : Finset Nat) (n : Nat) (cs : List ExtCall)
    (hfd : ∀ d, fd = some d → 0 ≤ d ∧ d ∉ p.fds) (hkey : e.fd = fd.getD (-1))
    (hhandle : handle.fds = [e.fd]) (hbo : p.next ≤ e.bo ∧ e.bo < n)
    (haddr : p.next ≤ e.addr ∧ e.addr < n) (ha : p.next ≤ handle.addr ∧ handle.addr < n) :
    Batch p0 { p with
      table := e :: p.table
      bos := Function.update p.bos e.bo (some b)
      fds := addFd fd p.fds
      handles := insert handle.addr p.handles
      heap := heap
      next := n
      calls := cs } (handles ++ [handle]) x := by
  -- the new object and the new key are nobody's
  have hobj : ∀ e' ∈ p.table, e'.bo ≠ e.bo := fun e' he' heq => by
    have := h.bo_lt _ (h.alive e' he')
    omega
  have hnone : p.bos e.bo = none := by
    by_contra hsome
    have := h.bo_lt e.bo (Option.isSome_iff_ne_none.mpr hsome)
    omega
  have hnot : e.fd ∉ p.fds := by
    rw [hkey]
    exact h.key_notMem hfd
  have hnew : handle.addr ∉ p.handles := fun hmem => by
    have := h.handle_lt _ hmem
    omega
  obtain ⟨hhandles, hhandle_new, hhandle_nodup⟩ := h.handles_append hnew
  constructor
  case ready => exact h.ready
  case keys =>
    show ((handles ++ [handle]).map NativeHandle.fds).Perm ([e.fd] :: _)
    rw [List.map_append, List.map_singleton, hhandle]
    exact (List.perm_append_singleton _ _).trans (h.keys.cons _)
  case addrs =>
    refine List.nodup_cons.mpr ⟨fun hmem => ?_, h.addrs⟩
    obtain ⟨e', he', heq⟩ := List.mem_map.mp hmem
    have := h.addr_lt e' he'
    omega
  case objects =>
    refine List.nodup_cons.mpr ⟨fun hmem => ?_, h.objects⟩
    obtain ⟨e', he', heq⟩ := List.mem_map.mp hmem
    exact hobj e' he' heq
  case distinct =>
    intro e1 he1 e2 he2 heq
    rcases List.mem_cons.mp he1 with h1 | h1 <;> rcases List.mem_cons.mp he2 with h2 | h2
    · exact .inr (h1.trans h2.symm)
    · rw [h1] at heq ⊢
      exact .inl ((h.not_open hnot).2.2 e2 h2 heq.symm)
    · rw [h2] at heq
      exact .inl (heq.trans ((h.not_open hnot).2.2 e1 h1 heq))
    · exact h.distinct e1 h1 e2 h2 heq
  case unborn =>
    intro e' he'
    rcases List.mem_cons.mp he' with rfl | he'
    · rw [← h.bos _ hobj]
      exact hnone
    · exact h.unborn e' he'
  case alive =>
    intro e' he'
    rcases List.mem_cons.mp he' with rfl | he'
    · simp
    · simp only [Function.update_of_ne (hobj e' he')]
      exact h.alive e' he'
  case bos =>
    intro bo hne
    have hbo' : bo ≠ e.bo := fun heq => hne e List.mem_cons_self heq.symm
    simp only [Function.update_of_ne hbo']
    exact h.bos bo fun e' he' => hne e' (List.mem_cons_of_mem _ he')
  case fds =>
    intro d
    show d ∈ addFd fd p.fds ↔ _
    rw [mem_addFd, h.fds, some_eq_iff_getD (fun d hd => (hfd d hd).1), ← hkey,
      List.exists_mem_cons_iff]
    tauto
  case key_new =>
    intro e' he'
    rcases List.mem_cons.mp he' with rfl | he'
    · exact ⟨(h.not_open hnot).1, (h.not_open hnot).2.1⟩
    · exact h.key_new e' he'
  case extra_new => exact h.extra_new
  case handles_eq => exact hhandles
  case handle_new => exact hhandle_new
  case handles_nodup => exact hhandle_nodup
  case addr_lt =>
    intro e' he'
    show e'.addr < n
    rcases List.mem_cons.mp he' with rfl | he'
    · exact haddr.2
    · have := h.addr_lt e' he'
      omega
  case bo_lt =>
    intro bo hsome
    show bo < n
    simp only [Function.update_apply] at hsome
    split at hsome
    · omega
    · have := h.bo_lt bo hsome
      omega
  case handle_lt =>
    intro a' ha'
    show a' < n
    rcases Finset.mem_insert.mp ha' with rfl | ha'
    · exact ha.2
    · have := h.handle_lt a' ha'
      omega
  case fd_nonneg =>
    intro d hd
    rcases mem_addFd.mp hd with hd | hd
    · exact (hfd d hd).1
    · exact h.fd_nonneg d hd

/-- A handle that is left behind: it counts as there from the start. -/
theorem Batch.leak_handle (h : Batch p0 p handles x) (cs : List ExtCall) :
    Batch { p0 with handles := insert p.next p0.handles }
      { p with next := p.next + 1, handles := insert p.next p.handles, calls := cs } handles x :=
  { h.of_same (Nat.le_succ _) p.heap cs with
    handles_eq := by
      show insert p.next p.handles = insert p.next p0.handles ∪ _
      rw [h.handles_eq, Finset.insert_union]
    handle_new := by
      intro h' hh' hmem
      rcases Finset.mem_insert.mp hmem with heq | hmem
      · have hlt := h.handle_lt h'.addr (by
          rw [h.handles_eq]
          exact Finset.mem_union_right _ (List.mem_toFinset.mpr (List.mem_map_of_mem hh')))
        omega
      · exact h.handle_new h' hh' hmem
    handle_lt := by
      intro a ha
      rcases Finset.mem_insert.mp ha with rfl | ha
      · exact Nat.lt_succ_self _
      · exact Nat.lt_succ_of_lt (h.handle_lt a ha) }

/-- An object and its descriptor that are left behind. -/
theorem Batch.leak_object (h : Batch p0 p handles x) {fd : Option Int} {bo n : Nat} (b : Bo)
    (heap : Finset Nat) (cs : List ExtCall) (hfd : ∀ d, fd = some d → 0 ≤ d ∧ d ∉ p.fds)
    (hbo : p.next ≤ bo ∧ bo < n) :
    Batch { p0 with bos := Function.update p0.bos bo (some b), fds := addFd fd p0.fds }
      { p with
        bos := Function.update p.bos bo (some b)
        fds := addFd fd p.fds
        heap := heap
        next := n
        calls := cs } handles x := by
  have hobj : ∀ e ∈ p.table, e.bo ≠ bo := fun e he heq => by
    have := h.bo_lt _ (h.alive e he)
    omega
  have hnot : ∀ d, fd = some d → d ∉ x ∧ ∀ e ∈ p.table, e.fd ≠ d := by
    intro d hd
    obtain ⟨h0, hopen⟩ := hfd d hd
    refine ⟨(h.not_open hopen).2.1, fun e he heq => ?_⟩
    have := (h.not_open hopen).2.2 e he heq
    omega
  exact { h.of_same (Nat.le_of_lt (Nat.lt_of_le_of_lt hbo.1 hbo.2)) heap cs with
    unborn := by
      intro e he
      simp only [Function.update_of_ne (hobj e he)]
      exact h.unborn e he
    alive := by
      intro e he
      simp only [Function.update_of_ne (hobj e he)]
      exact h.alive e he
    bos := by
      intro bo' hne
      simp only [Function.update_apply]
      split
      · rfl
      · exact h.bos bo' hne
    fds := by
      intro d
      show d ∈ addFd fd p.fds ↔ d ∈ addFd fd p0.fds ∨ _
      rw [mem_addFd, mem_addFd, h.fds]
      tauto
    key_new := by
      intro e he
      refine ⟨fun hmem => ?_, (h.key_new e he).2⟩
      rcases mem_addFd.mp hmem with hd | hmem
      · exact (hnot _ hd).2 e he rfl
      · exact (h.key_new e he).1 hmem
    extra_new := by
      intro d hd hmem
      rcases mem_addFd.mp hmem with hd' | hmem
      · exact (hnot d hd').1 hd
      · exact h.extra_new d hd hmem
    bo_lt := by
      intro bo' hsome
      show bo' < n
      simp only [Function.update_apply] at hsome
      split at hsome
      · omega
      · have := h.bo_lt bo' hsome
        omega
    fd_nonneg := by
      intro d hd
      rcases mem_addFd.mp hd with hd | hd
      · exact (hfd d hd).1
      · exact h.fd_nonneg d hd }

/-! ## Releasing

  The clean-up and the second loop take the handles in the same order, and each of them takes
  one entry away. -/

/-- Without its first handle, the batch accounts for the others. -/
theorem Batch.handles_tail {handle : NativeHandle} (h : Batch p0 p (handle :: handles) x) :
    p.handles.erase handle.addr = p0.handles ∪ (handles.map NativeHandle.addr).toFinset ∧
      (∀ h' ∈ handles, h'.addr ∉ p0.handles) ∧ (handles.map NativeHandle.addr).Nodup := by
  obtain ⟨haddr, hnodup⟩ := List.nodup_cons.mp h.handles_nodup
  refine ⟨?_, fun h' hh' => h.handle_new h' (List.mem_cons_of_mem _ hh'), hnodup⟩
  rw [h.handles_eq, List.map_cons, List.toFinset_cons, Finset.union_insert, Finset.erase_insert]
  rw [Finset.mem_union, List.mem_toFinset, not_or]
  exact ⟨h.handle_new handle List.mem_cons_self, haddr⟩

/-- There is an entry under the key of the first handle. -/
theorem Batch.exists_entry {handle : NativeHandle} (h : Batch p0 p (handle :: handles) x) :
    ∃ e, findBufferK (grallocHandle handle).primeFd p.table = some e ∧ e ∈ p.table ∧
      handle.fds = [e.fd] := by
  obtain ⟨e0, he0, hkey0⟩ : ∃ e ∈ p.table, [e.fd] = handle.fds :=
    List.mem_map.mp (h.keys.subset List.mem_cons_self)
  have hprime : (grallocHandle handle).primeFd = e0.fd := primeFd_of_fds hkey0.symm
  cases hf : findBufferK (grallocHandle handle).primeFd p.table with
  | none => exact absurd hprime.symm (Keyed.lookup_eq_none.mp hf e0 he0)
  | some e => exact ⟨e, rfl, Keyed.mem_of_lookup hf, by rw [← hkey0, Keyed.key_of_lookup hf, hprime]⟩

/-- One handle less.  The entry that goes is the newest one under the handle's key, which need not
    be the handle's own if the key is -1. -/
theorem Batch.release {handle : NativeHandle} (h : Batch p0 p (handle :: handles) x) :
    ∃ p', releaseHandle handle p = (.ok (), p') ∧ Batch p0 p' handles x := by
  obtain ⟨e, hfind, he, hkey⟩ := h.exists_entry
  obtain ⟨b, hb⟩ := Option.isSome_iff_exists.mp (h.alive e he)
  obtain ⟨heap, hrel⟩ := releaseHandle_eq h.ready hfind hb
  refine ⟨_, hrel, ?_⟩
  have hmem : ∀ {e'}, e' ∈ Keyed.remove AndroidBuffer.addr e.addr p.table → e' ∈ p.table :=
    fun h' => (Keyed.mem_remove.mp h').1
  have hrest : ∀ e' ∈ p.table, e' ≠ e → e' ∈ Keyed.remove AndroidBuffer.addr e.addr p.table :=
    fun e' he' hne => Keyed.mem_remove.mpr
      ⟨he', fun heq => hne (Keyed.eq_of_key_eq h.addrs he' he heq)⟩
  have hgone : ∀ e' ∈ Keyed.remove AndroidBuffer.addr e.addr p.table, e' ≠ e :=
    fun e' he' heq => (Keyed.mem_remove.mp he').2 (by rw [heq])
  have hobj : ∀ e' ∈ Keyed.remove AndroidBuffer.addr e.addr p.table, e'.bo ≠ e.bo :=
    fun e' he' heq => hgone e' he' (Keyed.eq_of_key_eq h.objects (hmem he') he heq)
  have hclosed : handle.fds.toFinset = {e.fd} := by
    rw [hkey]
    rfl
  obtain ⟨hhandles, hhandle_new, hhandle_nodup⟩ := h.handles_tail
  constructor
  case ready => exact h.ready
  case keys =>
    obtain ⟨l, r, hsplit⟩ := List.append_of_mem he
    have haddrs := h.addrs
    have hkeys := h.keys
    show (handles.map NativeHandle.fds).Perm ((Keyed.remove _ _ p.table).map _)
    rw [hsplit] at haddrs hkeys ⊢
    rw [Keyed.remove_append_cons haddrs]
    rw [List.map_cons, hkey, List.map_append, List.map_cons] at hkeys
    rw [List.map_append]
    exact (hkeys.trans List.perm_middle).cons_inv
  case addrs => exact Keyed.map_remove_nodup h.addrs
  case objects => exact Keyed.map_remove_nodup h.objects
  case distinct => exact fun e1 h1 e2 h2 heq => h.distinct e1 (hmem h1) e2 (hmem h2) heq
  case unborn => exact fun e' he' => h.unborn e' (hmem he')
  case alive =>
    intro e' he'
    simp only [Function.update_of_ne (hobj e' he')]
    exact h.alive e' (hmem he')
  case bos =>
    intro bo hne
    by_cases hbo : bo = e.bo
    · rw [hbo, h.unborn e he]
      exact Function.update_self ..
    · simp only [Function.update_of_ne hbo]
      refine h.bos bo fun e' he' heq => ?_
      by_cases hee : e' = e
      · exact hbo (by rw [← heq, hee])
      · exact hne e' (hrest e' he' hee) heq
  case fds =>
    intro d
    show d ∈ p.fds \ handle.fds.toFinset ↔ _
    rw [hclosed, Finset.mem_sdiff, Finset.mem_singleton, h.fds]
    constructor
    · rintro ⟨h0 | hx | ⟨hd, e', he', rfl⟩, hne⟩
      · exact .inl h0
      · exact .inr (.inl hx)
      · exact .inr (.inr ⟨hd, e', hrest e' he' fun heq => hne (by rw [heq]), rfl⟩)
    · rintro (h0 | hx | ⟨hd, e', he', rfl⟩)
      · exact ⟨.inl h0, fun heq => (h.key_new e he).1 (heq ▸ h0)⟩
      · exact ⟨.inr (.inl hx), fun heq => (h.key_new e he).2 (heq ▸ hx)⟩
      · refine ⟨.inr (.inr ⟨hd, e', hmem he', rfl⟩), fun heq => ?_⟩
        exact hgone e' he' ((h.distinct e' (hmem he') e he heq).resolve_left hd)
  case key_new => exact fun e' he' => h.key_new e' (hmem he')
  case extra_new => exact h.extra_new
  case handles_eq => exact hhandles
  case handle_new => exact hhandle_new
  case handles_nodup => exact hhandle_nodup
  case addr_lt => exact fun e' he' => h.addr_lt e' (hmem he')
  case bo_lt =>
    intro bo hsome
    simp only [Function.update_apply] at hsome
    split at hsome
    · cases hsome
    · exact h.bo_lt bo hsome
  case handle_lt => exact fun a ha => h.handle_lt a (Finset.erase_subset _ _ ha)
  case fd_nonneg => exact fun d hd => h.fd_nonneg d (Finset.sdiff_subset hd)

/-- The clean-up takes away all that is unfinished. -/
theorem releaseHandles_batch (h : Batch p0 p handles x) :
    ∃ p', releaseHandles handles p = (.ok (), p') ∧ Batch p0 p' [] x := by
  induction handles generalizing p with
  | nil => exact ⟨p, rfl, h⟩
  | cons handle handles ih =>
    obtain ⟨p1, hrel, h1⟩ := h.release
    obtain ⟨p', heq, h'⟩ := ih h1
    refine ⟨p', ?_, h'⟩
    unfold releaseHandles
    rw [hrel]
    exact heq

/-- An iteration of the second loop: a duplicate for the first handle, which goes. -/
theorem Batch.exported {handle : NativeHandle} (env : Env) (h : Batch p0 p (handle :: handles) x) :
    let q := (dupToAidl env handle p).2
    let x' := addFd (dupFd env (grallocHandle handle).primeFd p).1 x
    Batch p0 q (handle :: handles) x' ∧
      ∃ p', releaseHandle handle q = (.ok (), p') ∧ Batch p0 p' handles x' := by
  obtain ⟨e, -, -, hkey⟩ := h.exists_entry
  have hdup : (dupToAidl env handle p).2 = (dupFd env (grallocHandle handle).primeFd p).2 := by
    rw [primeFd_of_fds hkey]
    simp only [dupToAidl, hkey, dupEach]
  have h1 : Batch p0 (dupToAidl env handle p).2 (handle :: handles)
      (addFd (dupFd env (grallocHandle handle).primeFd p).1 x) := by
    rw [hdup, dupFd_snd]
    exact h.opened (fun d hd => dupFd_fresh hd) _
  exact ⟨h1, h1.release⟩

/-- The second loop takes away all that is unfinished, too, and opens descriptors on the way. -/
theorem exportHandles_batch (env : Env) (h : Batch p0 p handles x) :
    ∃ buffers p' x', exportHandles env handles p = (.ok buffers, p') ∧ Batch p0 p' [] x' := by
  induction handles generalizing p x with
  | nil => exact ⟨[], p, x, rfl, h⟩
  | cons handle handles ih =>
    obtain ⟨-, p1, hrel, h1⟩ := h.exported env
    obtain ⟨buffers, p', x', heq, h'⟩ := ih h1
    refine ⟨(dupToAidl env handle p).1 :: buffers, p', x', ?_, h'⟩
    unfold exportHandles
    simp only [hrel, heq]

end

end GrallocGbm
