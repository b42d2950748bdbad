/-
  Runs of the library: the process as a state machine whose steps are the entry points of
  `common/gralloc_gbm.c` that make, use and release buffer objects.

  The mapper calls these functions in an order that its clients choose, and so does the allocator,
  so a run here is any list of them, from the start of the process on, with any handles, any
  descriptors and any answers of libgbm and the heap.  In particular a handle may be imported twice,
  locked after it was freed, or never have been allocated.

  `LibInv` is the invariant of every such run.  A live object lies below the counter of fresh
  addresses and has user data, `LockOk` holds of that, and an address still to be handed out has no
  mapping on record.  The last clause is what a new object needs: it starts without a mapping
  because nothing was ever mapped at its address.

  Each entry point acts on the buffer objects in one of four ways (none, a new one, one destroyed,
  the user data of one rewritten), and the invariant is carried over by one lemma for each way
  (`of_same`, `of_made`, `of_destroyed`, `of_modified`); the lemma about the entry point says which
  of the ways it is.  Destroying an object that is still mapped is among them: the mapping stays on
  record, and nothing is claimed of an object that is gone.

  The result is `libRun_lockOk`.
-/
import GrallocGbm.Lock

namespace GrallocGbm

/-! ## The machine

  The entry points of the library in any order, with any handles. -/

/-- A call into the library, with the arguments that the caller chooses. -/
inductive LibOp where
  | init
  | bufferNew (desc : AllocatorDesc)
  | bufferImport (handle : NativeHandle)
  | bufferFree (handle : NativeHandle)
  | bufferLock (handle : NativeHandle) (usage : UInt32)
  | bufferUnlock (handle : NativeHandle)

/-- One call into the library. -/
def libStep (cfg : BuildConfig) (env : Env) (p : Proc) : LibOp → Proc
  | .init => (grallocGbmInit env p).2
  | .bufferNew desc => (grallocGbmAndroidBufferNew cfg env desc p).2
  | .bufferImport handle => (grallocGbmAndroidBufferImport cfg env handle p).2
  | .bufferFree handle => (grallocGbmAndroidBufferFree handle p).2
  | .bufferLock handle usage => (grallocGbmAndroidBufferLock env handle usage p).2.2
  | .bufferUnlock handle => (grallocGbmAndroidBufferUnlock handle p).2

/-- The process after a sequence of calls. -/
def libRun (cfg : BuildConfig) (env : Env) (ops : List LibOp) : Proc :=
  ops.foldl (libStep cfg env) Proc.start

/-! ## The invariant

  What it says is said of the entries, the objects and the log of mappings. -/

/-- What holds of the buffer objects in every state of every run. -/
structure LibInv (p : Proc) : Prop where
  /-- Objects live at addresses that have been handed out. -/
  bo_lt : ∀ bo b, p.bos bo = some b → bo < p.next
  user_data : HasUserData p
  lock_ok : ∀ bo d, gbmBoGetUserData bo p = some d → LockOk p.calls bo d
  /-- No mapping is on record for an address still to be handed out. -/
  unborn : ∀ bo, p.next ≤ bo → netMaps bo p.calls = 0

/-- There is no object yet, and no mapping on record. -/
theorem LibInv.start : LibInv Proc.start where
  bo_lt := by intro bo b h; cases h
  user_data := by intro bo b h; cases h
  lock_ok := by intro bo d h; cases h
  unborn := by intro bo _; rfl

section Steps

variable {p p' : Proc}

/-- A step that leaves the objects alone. -/
theorem LibInv.of_same (h : LibInv p) (hbos : p'.bos = p.bos) (hnext : p.next ≤ p'.next)
    (hmaps : ∀ bo, netMaps bo p'.calls = netMaps bo p.calls) : LibInv p' where
  bo_lt := by
    intro bo b hb
    rw [hbos] at hb
    exact lt_of_lt_of_le (h.bo_lt bo b hb) hnext
  user_data := by
    intro bo b hb
    rw [hbos] at hb
    exact h.user_data bo b hb
  lock_ok := by
    intro bo d hd
    rw [gbmBoGetUserData, hbos] at hd
    have hok := h.lock_ok bo d hd
    exact ⟨hok.1, hok.2, hok.3, hok.4, (hmaps bo).trans hok.5⟩
  unborn := by
    intro bo hbo
    rw [hmaps bo]
    exact h.unborn bo (le_trans hnext hbo)

/-- A step that makes one object with fresh user data, at a fresh address. -/
theorem LibInv.of_made (h : LibInv p) {a m : Nat} {b : Bo}
    (hbos : p'.bos = Function.update p.bos a (some b)) (hdata : b.data = some (zeroBoData m))
    (ha : p.next ≤ a) (hnext : a < p'.next)
    (hmaps : ∀ bo, netMaps bo p'.calls = netMaps bo p.calls) : LibInv p' where
  bo_lt := by
    intro bo b' hb
    rw [hbos, Function.update_apply] at hb
    split at hb
    · omega
    · have := h.bo_lt bo b' hb
      omega
  user_data := by
    intro bo b' hb
    rw [hbos, Function.update_apply] at hb
    split at hb
    · cases hb
      exact ⟨_, hdata⟩
    · exact h.user_data bo b' hb
  lock_ok := by
    intro bo d hd
    rw [gbmBoGetUserData, hbos, Function.update_apply] at hd
    split at hd
    · rename_i heq
      have hd' : zeroBoData m = d := by simpa [hdata] using hd
      rw [← hd']
      exact lockOk_zeroBoData m (by rw [hmaps, heq]; exact h.unborn a ha)
    · have hok := h.lock_ok bo d hd
      exact ⟨hok.1, hok.2, hok.3, hok.4, (hmaps bo).trans hok.5⟩
  unborn := by
    intro bo hbo
    rw [hmaps bo]
    exact h.unborn bo (by omega)

/-- A step that destroys one object. -/
theorem LibInv.of_destroyed (h : LibInv p) {a : Nat}
    (hbos : p'.bos = Function.update p.bos a none) (hnext : p.next = p'.next)
    (hmaps : ∀ bo, netMaps bo p'.calls = netMaps bo p.calls) : LibInv p' where
  bo_lt := by
    intro bo b hb
    rw [hbos, Function.update_apply] at hb
    split at hb
    · cases hb
    · exact hnext ▸ h.bo_lt bo b hb
  user_data := by
    intro bo b hb
    rw [hbos, Function.update_apply] at hb
    split at hb
    · cases hb
    · exact h.user_data bo b hb
  lock_ok := by
    intro bo d hd
    rw [gbmBoGetUserData, hbos, Function.update_apply] at hd
    split at hd
    · cases hd
    · have hok := h.lock_ok bo d hd
      exact ⟨hok.1, hok.2, hok.3, hok.4, (hmaps bo).trans hok.5⟩
  unborn := by
    intro bo hbo
    rw [hmaps bo]
    exact h.unborn bo (hnext ▸ hbo)

/-- A step that rewrites the user data of one object, and may map or unmap that object. -/
theorem LibInv.of_modified (h : LibInv p) {a : Nat} {d : GbmBoData} {f : GbmBoData → GbmBoData}
    {calls : List ExtCall} (hd : gbmBoGetUserData a p = some d)
    (hp' : p' = modifyBoData a f { p with calls := calls }) (hok : LockOk calls a (f d))
    (hmaps : ∀ bo, bo ≠ a → netMaps bo calls = netMaps bo p.calls) : LibInv p' := by
  subst hp'
  have hlive : ∀ bo b, (modifyBoData a f { p with calls := calls }).bos bo = some b →
      (p.bos bo).isSome = true := by
    intro bo b hb
    rw [← modifyBoData_isSome a bo f { p with calls := calls }, hb]
    rfl
  have ha : a < p.next := by
    obtain ⟨b, hb, -⟩ := Option.bind_eq_some_iff.mp hd
    exact h.bo_lt a b hb
  constructor
  case bo_lt =>
    intro bo b hb
    obtain ⟨b', hb'⟩ := Option.isSome_iff_exists.mp (hlive bo b hb)
    exact h.bo_lt bo b' hb'
  case user_data =>
    intro bo b hb
    obtain ⟨d', hd'⟩ := h.user_data.exists_data bo (hlive bo b hb)
    have hnew := gbmBoGetUserData_modify a bo f { p with calls := calls }
    have hread : gbmBoGetUserData bo (modifyBoData a f { p with calls := calls }) = b.data := by
      rw [gbmBoGetUserData, hb]
      rfl
    have hsame : ∀ i, gbmBoGetUserData i { p with calls := calls } = gbmBoGetUserData i p :=
      fun _ => rfl
    rw [hread, hsame, hsame, hd, hd'] at hnew
    split at hnew
    · exact ⟨_, hnew⟩
    · exact ⟨_, hnew⟩
  case lock_ok =>
    intro bo d' hd'
    rw [gbmBoGetUserData_modify] at hd'
    split at hd'
    · rename_i heq
      have hda : gbmBoGetUserData a { p with calls := calls } = some d := hd
      rw [hda] at hd'
      cases hd'
      rw [heq]
      exact hok
    · rename_i hne
      have hok' := h.lock_ok bo d' hd'
      exact ⟨hok'.1, hok'.2, hok'.3, hok'.4, (hmaps bo hne).trans hok'.5⟩
  case unborn =>
    intro bo hbo
    have hbo' : p.next ≤ bo := hbo
    exact (hmaps bo (by omega)).trans (h.unborn bo hbo')

end Steps

/-! ## Every entry point keeps it -/

/-- Initialisation concerns the driver and the descriptor of its node only. -/
theorem grallocGbmInit_libInv (env : Env) {p : Proc} (h : LibInv p) :
    LibInv (grallocGbmInit env p).2 := by
  unfold grallocGbmInit callocChecked openFd
  split
  · exact h
  cases ha : env.alloc p.calls.length with
  | false => exact h.of_same rfl (Nat.le_succ _) (fun bo => by simp [mapDelta])
  | true =>
    simp only [if_true]
    cases hf : env.newFd (ExtCall.alloc true :: p.calls).length p.fds with
    | none => exact h.of_same rfl (Nat.le_succ _) (fun bo => by simp [mapDelta])
    | some fd =>
      dsimp only
      split
      · exact h.of_same rfl (Nat.le_succ _) (fun bo => by simp [mapDelta])
      · exact h.of_same rfl (Nat.le_succ _) (fun bo => by simp [mapDelta, closeFd])

/-- A new buffer makes one object, or fails before it has one, or after it without touching it. -/
theorem grallocGbmAndroidBufferNew_libInv (cfg : BuildConfig) (env : Env) (desc : AllocatorDesc)
    {p : Proc} (h : LibInv p) : LibInv (grallocGbmAndroidBufferNew cfg env desc p).2 := by
  rcases grallocGbmAndroidBufferNew_cases cfg env desc p with ⟨rc, -, hr⟩ | ⟨rc, -, -, hr⟩ |
      ⟨rc, -, -, -, hr⟩ | ⟨layout, fd, -, -, -, -, ⟨rc, -, hr⟩ | ⟨logFd, -, -, hr⟩⟩ <;> rw [hr]
  · exact h
  · exact h.of_same rfl (Nat.le_succ _) (fun bo => by simp [mapDelta])
  · exact h.of_same rfl (Nat.le_succ _) (fun bo => by simp [mapDelta])
  · exact h.of_made (a := p.next + 1) (m := p.next + 2) rfl rfl (by omega)
      (by show p.next + 1 < p.next + 6; omega) (fun bo => by simp [mapDelta])
  · exact h.of_made (a := p.next + 1) (m := p.next + 2) rfl rfl (by omega)
      (by show p.next + 1 < p.next + 6; omega) (fun bo => by simp [mapDelta])

/-- An import makes one object, under the descriptor of the handle, or none. -/
theorem grallocGbmAndroidBufferImport_libInv (cfg : BuildConfig) (env : Env)
    (handle : NativeHandle) {p : Proc} (h : LibInv p) :
    LibInv (grallocGbmAndroidBufferImport cfg env handle p).2 := by
  rcases grallocGbmAndroidBufferImport_cases cfg env handle p with
    ⟨-, hr⟩ | ⟨-, -, hr⟩ | ⟨-, -, -, hr⟩ | ⟨layout, -, -, -, hr⟩ <;> rw [hr]
  · exact h
  · exact h.of_same rfl (Nat.le_succ _) (fun bo => by simp [mapDelta])
  · exact h.of_same rfl (Nat.le_succ _) (fun bo => by simp [mapDelta])
  · exact h.of_made (a := p.next + 1) (m := p.next + 2) rfl rfl (by omega)
      (by show p.next + 1 < p.next + 6; omega) (fun bo => by simp [mapDelta])

/-- A free destroys the object that it finds, mapped or not. -/
theorem grallocGbmAndroidBufferFree_libInv (handle : NativeHandle) {p : Proc} (h : LibInv p) :
    LibInv (grallocGbmAndroidBufferFree handle p).2 := by
  rcases grallocGbmAndroidBufferFree_cases handle p with
    ⟨-, hr⟩ | ⟨-, -, hr⟩ | ⟨buffer, -, -, -, hr⟩ | ⟨buffer, b, -, -, -, hr⟩ <;> rw [hr]
  · exact h
  · exact h
  · exact h
  · obtain ⟨heap, hd⟩ := gbmBoDestroy_eq buffer.bo b p
    rw [hd]
    exact h.of_destroyed (a := buffer.bo) rfl rfl (fun bo => by simp [deleteBuffer, mapDelta])

/-- A lock rewrites the user data of one object, in one of the ways that `LockOk` survives. -/
theorem grallocGbmAndroidBufferLock_libInv (env : Env) (handle : NativeHandle) (usage : UInt32)
    {p : Proc} (h : LibInv p) :
    LibInv (grallocGbmAndroidBufferLock env handle usage p).2.2 := by
  rcases grallocGbmAndroidBufferLock_cases env handle usage h.user_data with
    ⟨ret, hr, -⟩ | ⟨buffer, d, -, -, hd, hcompat, ⟨hmask, hr⟩ |
      ⟨hmask, hnone, transfer, hr | ⟨a, hr⟩⟩⟩ <;> rw [hr]
  · exact h
  · exact h.of_modified hd rfl ((h.lock_ok _ _ hd).lock_unmapped hcompat hmask) (fun _ _ => rfl)
  · exact h.of_same rfl (le_refl _) (fun bo => by simp [mapDelta])
  · refine h.of_modified hd rfl ((h.lock_ok _ _ hd).lock_mapped hcompat hmask hnone) ?_
    intro bo hne
    simp [mapDelta, hne.symm]

/-- So does an unlock. -/
theorem grallocGbmAndroidBufferUnlock_libInv (handle : NativeHandle) {p : Proc} (h : LibInv p) :
    LibInv (grallocGbmAndroidBufferUnlock handle p).2 := by
  rcases grallocGbmAndroidBufferUnlock_cases handle p with
    hr | ⟨buffer, d, -, hd, hcount, ⟨hmask, hr⟩ | ⟨hmask, hr⟩⟩ <;> rw [hr]
  · exact h
  · refine h.of_modified hd rfl ((h.lock_ok _ _ hd).unlock_mapped hmask) ?_
    intro bo hne
    simp [mapDelta, hne.symm]
  · exact h.of_modified hd rfl ((h.lock_ok _ _ hd).unlock_unmapped hcount hmask) (fun _ _ => rfl)

/-- Each call keeps the invariant; one case for each entry point. -/
theorem libStep_libInv (cfg : BuildConfig) (env : Env) {p : Proc} (op : LibOp) (h : LibInv p) :
    LibInv (libStep cfg env p op) := by
  cases op with
  | init => exact grallocGbmInit_libInv env h
  | bufferNew desc => exact grallocGbmAndroidBufferNew_libInv cfg env desc h
  | bufferImport handle => exact grallocGbmAndroidBufferImport_libInv cfg env handle h
  | bufferFree handle => exact grallocGbmAndroidBufferFree_libInv handle h
  | bufferLock handle usage => exact grallocGbmAndroidBufferLock_libInv env handle usage h
  | bufferUnlock handle => exact grallocGbmAndroidBufferUnlock_libInv handle h

/-- Hence it holds after every sequence of calls. -/
theorem libRun_libInv (cfg : BuildConfig) (env : Env) (ops : List LibOp) :
    LibInv (libRun cfg env ops) :=
  Run.foldl_inv_all LibInv (fun _ op h => libStep_libInv cfg env op h) ops LibInv.start

/-- **The lock state of every reachable buffer object.**  However locks and unlocks are ordered,
    whatever their usages and whichever maps fail: the count is not negative, an idle object is
    locked for nothing, it is mapped exactly while it is locked for CPU access, and then locked
    once, and the mappings made and undone differ by the one it has. -/
theorem libRun_lockOk (cfg : BuildConfig) (env : Env) (ops : List LibOp) (bo : Nat) (d : GbmBoData)
    (hd : gbmBoGetUserData bo (libRun cfg env ops) = some d) :
    LockOk (libRun cfg env ops).calls bo d :=
  (libRun_libInv cfg env ops).lock_ok bo d hd

/-- One locked buffer, mapped by its first lock and refused a second one. -/
theorem locked_buffer_lockOk :
    ∃ d, gbmBoGetUserData 3 (libRun .androidBp .plain
        [.init, .bufferImport (rgbaHandle 5), .bufferLock (rgbaHandle 5) 0x33,
          .bufferLock (rgbaHandle 5) 0x3]) = some d ∧ d.lockCount = 1 ∧ d.mapData.isSome = true ∧
      LockOk (libRun .androidBp .plain
        [.init, .bufferImport (rgbaHandle 5), .bufferLock (rgbaHandle 5) 0x33,
          .bufferLock (rgbaHandle 5) 0x3]).calls 3 d :=
  ⟨_, rfl, rfl, rfl, libRun_lockOk _ _ _ _ _ rfl⟩

end GrallocGbm
