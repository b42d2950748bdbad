/-
  What memory is behind the descriptors of a batch?

  A descriptor stands for the memory that it was opened for: an object of libgbm, or a buffer of the
  DMA-BUF heap.  The log says so (`standsFor`), a duplicate standing for what its original stands
  for, as long as the descriptor is open (`Proc.memoryOf`).

  On this table of names both backends are the same two loops.  The first opens a descriptor for
  each handle, for memory of its own (`newHandles_opens`, one for each backend); the second replaces
  each of them by a duplicate (`Exports.copies`).  Where a descriptor is not to be had, either loop
  goes on with -1 in its place (`newHandles_missing`, `Exports.missing`).

  * `memoryOf_opened`, `extends_call`, `memoryOf_sdiff` — what opening and closing do to the table
    of names;
  * `Opened` — the handles of a first loop, the descriptor of each, and the memory that it stands
    for, all of it made since the loop began (`Memory.Since`), so that no two are the same;
  * `Exports` — a second loop, for either backend, with what it does to a handle after the export
    left open: the GBM backend releases the buffer, the DMA-BUF backend closes and deletes the
    handle.

  The memory of an object is the object's address, that of the heap the number of the call:
  addresses are not handed out twice, and a call has one number.  Objects die before their
  descriptors, which the kernel allows, and nothing here depends on an object being alive.
-/
import GrallocGbm.Lib.Aliases
import GrallocGbm.Rollback

namespace GrallocGbm

open AllocatorBackendGrallocGbm Aliases

/-! ## What a descriptor stands for

  Every descriptor on record was opened by a call on record; the newest such call tells what the
  number stands for. -/

/-- The memory behind a buffer. -/
inductive Memory where
  /-- the buffer object at this address -/
  | object (bo : Nat)
  /-- what the `n`-th call of the process has got from the heap -/
  | heap (n : Nat)
  deriving DecidableEq, Repr

/-- The descriptor a call has opened. -/
def ExtCall.opens : ExtCall → Option Int
  | .openRenderNode fd => fd
  | .dup _ fd => fd
  | .boGetFd _ fd => fd
  | .allocSystem _ fd => fd
  | _ => none

/-- The memory a descriptor was opened for, when it was last opened. -/
def standsFor : List ExtCall → Int → Option Memory
  | [], _ => none
  | c :: calls, fd =>
    if c.opens = some fd then
      match c with
      | .boGetFd bo _ => some (.object bo)
      | .allocSystem _ _ => some (.heap calls.length)
      | .dup original _ => standsFor calls original
      | _ => none
    else standsFor calls fd

/-- What the open descriptors stand for, after some calls. -/
def memoryOf (fds : Finset Int) (calls : List ExtCall) (fd : Int) : Option Memory :=
  if fd ∈ fds then standsFor calls fd else none

/-- The memory an open descriptor stands for. -/
def Proc.memoryOf (p : Proc) : Int → Option Memory := GrallocGbm.memoryOf p.fds p.calls

section

variable {fds : Finset Int} {calls : List ExtCall} {c : ExtCall} {fd d : Int}

/-- What is not open stands for nothing. -/
theorem memoryOf_closed (h : fd ∉ fds) : memoryOf fds calls fd = none := if_neg h

/-- What stands for something is open. -/
theorem mem_of_memoryOf (h : memoryOf fds calls fd ≠ none) : fd ∈ fds := by
  by_contra hno
  exact h (memoryOf_closed hno)

/-- A call says nothing of the descriptors it has not opened. -/
theorem standsFor_of_ne (h : c.opens ≠ some fd) : standsFor (c :: calls) fd = standsFor calls fd := by
  cases c <;> exact if_neg h

/-- A call that opens nothing. -/
theorem memoryOf_cons (hc : c.opens = none) : memoryOf fds (c :: calls) = memoryOf fds calls := by
  funext fd
  have hne : c.opens ≠ some fd := by simp [hc]
  rw [memoryOf, memoryOf, standsFor_of_ne hne]

/-- A call that opens a descriptor. -/
theorem memoryOf_opened (hc : c.opens = some d) :
    memoryOf (insert d fds) (c :: calls)
      = Function.update (memoryOf fds calls) d (standsFor (c :: calls) d) := by
  funext fd
  by_cases hfd : fd = d
  · subst hfd
    rw [Function.update_self, memoryOf, if_pos (Finset.mem_insert_self _ _)]
  · have hne : c.opens ≠ some fd := by
      rw [hc]
      exact fun heq => hfd (Option.some.inj heq).symm
    have hmem : fd ∈ insert d fds ↔ fd ∈ fds := by simp [hfd]
    rw [Function.update_of_ne hfd, memoryOf, memoryOf, standsFor_of_ne hne]
    simp only [hmem]

/-- Any call keeps what is open. -/
theorem extends_call (hfresh : ∀ d, c.opens = some d → d ∉ fds) :
    Extends (memoryOf fds calls) (memoryOf (addFd c.opens fds) (c :: calls)) := by
  cases hc : c.opens with
  | none =>
    rw [memoryOf_cons hc]
    exact .refl _
  | some d =>
    show Extends _ (memoryOf (insert d fds) (c :: calls))
    rw [memoryOf_opened hc]
    exact extends_update (memoryOf_closed (hfresh d hc)) _

/-- A descriptor that is closed. -/
theorem memoryOf_sdiff (fds : Finset Int) (calls : List ExtCall) (k : Int) :
    memoryOf (fds \ {k}) calls = Function.update (memoryOf fds calls) k none := by
  funext fd
  by_cases hfd : fd = k
  · subst hfd
    rw [Function.update_self]
    exact memoryOf_closed (by simp)
  · rw [Function.update_of_ne hfd]
    simp [memoryOf, hfd]

/-- A duplicate of an open descriptor. -/
theorem memoryOf_dup {k : Int} (hk : k ∈ fds) :
    memoryOf (insert d fds) (.dup k (some d) :: calls)
      = Function.update (memoryOf fds calls) d (memoryOf fds calls k) := by
  rw [memoryOf_opened rfl]
  have hstands : standsFor (.dup k (some d) :: calls) d = standsFor calls k := if_pos rfl
  rw [hstands, memoryOf, if_pos hk]

end

/-- Memory that the process has got since it was `p`. -/
def Memory.Since (p : Proc) : Memory → Prop
  | .object bo => p.next ≤ bo
  | .heap n => p.calls.length ≤ n

/-- What was made since later was made since earlier. -/
theorem Memory.Since.of_le {p p' : Proc} {m : Memory} (h : m.Since p') (hnext : p.next ≤ p'.next)
    (hcalls : p.calls.length ≤ p'.calls.length) : m.Since p := by
  cases m with
  | object bo => exact hnext.trans h
  | heap n => exact hcalls.trans h

/-- The word of a failed export is no open descriptor. -/
theorem Settled.neg_one {p : Proc} (hp : Settled p) : (-1 : Int) ∉ p.fds := fun hmem => by
  have := hp.fd_nonneg _ hmem
  omega

/-! ## The first loop

  Each buffer is new memory, and the first descriptor of its handle is one that was exported for
  it. -/

/-- From `p` to `p1` the `handles` have got the descriptors `ks`, for the memory `ms`, all of it new and
    each for its own. -/
structure Opened (p p1 : Proc) (handles : List NativeHandle) (ks : List Int) (ms : List Memory) :
    Prop where
  fds : handles.map NativeHandle.fds = ks.map fun k => [k]
  opens : Opens p.memoryOf ks ms p1.memoryOf
  nodup : ms.Nodup
  since : ∀ m ∈ ms, m.Since p

section

variable {p p' p1 : Proc} {handles : List NativeHandle} {ks : List Int} {ms : List Memory}

/-- Before the first iteration. -/
theorem Opened.nil (p : Proc) : Opened p p [] [] [] where
  fds := rfl
  opens := .nil _
  nodup := List.nodup_nil
  since := by simp

/-- An iteration before: its memory is older than that of the others. -/
theorem Opened.cons (h : Opened p' p1 handles ks ms) {handle : NativeHandle} {k : Int} {m : Memory}
    (hfds : handle.fds = [k]) (hk : p.memoryOf k = none)
    (hext : Extends (Function.update p.memoryOf k (some m)) p'.memoryOf) (hm : m.Since p)
    (hold : ¬ m.Since p') (hnext : p.next ≤ p'.next) (hcalls : p.calls.length ≤ p'.calls.length) :
    Opened p p1 (handle :: handles) (k :: ks) (m :: ms) where
  fds := by rw [List.map_cons, List.map_cons, hfds, h.fds]
  opens := .cons hk hext h.opens
  nodup := List.nodup_cons.mpr ⟨fun hmem => hold (h.since m hmem), h.nodup⟩
  since := by
    intro m' hm'
    rcases List.mem_cons.mp hm' with rfl | hm'
    · exact hm
    · exact (h.since m' hm').of_le hnext hcalls

/-- Each handle has one descriptor. -/
theorem Opened.one_fd (h : Opened p p1 handles ks ms) : ∀ handle ∈ handles, ∃ k, handle.fds = [k] := by
  intro handle hmem
  have hfds : handle.fds ∈ ks.map fun k => [k] := h.fds ▸ List.mem_map_of_mem hmem
  obtain ⟨k, -, hk⟩ := List.mem_map.mp hfds
  exact ⟨k, hk.symm⟩

end

section

variable {cfg : BuildConfig} {env : Env} {desc : AllocatorDesc} {p p' p1 : Proc} {n : Nat}
  {handles : List NativeHandle} {pixelStride : Int32} {r : List NativeHandle × Int32}

/-- What `gbm_bo_get_fd` gives an iteration for its handle. -/
def exportFd (env : Env) (p : Proc) : Option Int := env.newFd (p.calls.length + 2) p.fds

/-- A new handle has the exported descriptor, for the new object. -/
theorem grallocGbmAndroidBufferNew_opens {handle : NativeHandle} {gbmStride : UInt32}
    (h : grallocGbmAndroidBufferNew cfg env desc p = (.ok (handle, gbmStride), p')) :
    handle.fds = [(exportFd env p).getD (-1)] ∧ p'.next = p.next + 6 ∧
      p.calls.length ≤ p'.calls.length ∧
      ∀ k, exportFd env p = some k → p.memoryOf k = none ∧
        Extends (Function.update p.memoryOf k (some (.object (p.next + 1)))) p'.memoryOf := by
  obtain ⟨layout, fd, logFd, -, hfd, hlog, hr, rfl⟩ := grallocGbmAndroidBufferNew_ok h
  obtain rfl : handle = _ := congrArg Prod.fst hr
  have hexport : exportFd env p = fd := hfd.symm
  rw [hexport]
  refine ⟨rfl, rfl, ?_, ?_⟩
  · simp only [List.length_cons]
    omega
  rintro k rfl
  have hk : k ∉ p.fds := (env.newFd_fresh _ _ _ hfd.symm).2
  refine ⟨memoryOf_closed hk, ?_⟩
  -- the object is made, its descriptor is opened, and then that of the log message
  have hobject : memoryOf (insert k p.fds) (.alloc true :: .boGetFd (p.next + 1) (some k) ::
      .boCreate (newArgs cfg desc).width (newArgs cfg desc).height (newArgs cfg desc).format
        (newArgs cfg desc).flags (some (p.next + 1)) :: .alloc true :: p.calls)
      = Function.update p.memoryOf k (some (.object (p.next + 1))) := by
    rw [memoryOf_cons rfl, memoryOf_opened rfl, memoryOf_cons rfl, memoryOf_cons rfl]
    congr 1
    exact if_pos rfl
  rw [← hobject]
  exact extends_call (c := .boGetFd (p.next + 1) logFd) fun d hd =>
    (env.newFd_fresh _ _ _ (hlog.symm.trans hd)).2

theorem newHandles_succ_ok (h : newHandles cfg env desc (n + 1) handles pixelStride p = (.ok r, p1)) :
    ∃ handle gbmStride pixelStride',
      grallocGbmAndroidBufferNew cfg env desc p
        = (.ok (handle, gbmStride), afterNew cfg env desc 1 p) ∧
      newHandles cfg env desc n (handles ++ [handle]) pixelStride' (afterNew cfg env desc 1 p)
        = (.ok r, p1) := by
  unfold newHandles at h
  show ∃ handle gbmStride pixelStride', _ = (_, (grallocGbmAndroidBufferNew cfg env desc p).2) ∧
    newHandles _ _ _ _ _ _ (grallocGbmAndroidBufferNew cfg env desc p).2 = _
  cases hnew : grallocGbmAndroidBufferNew cfg env desc p with
  | mk ret q =>
    rw [hnew] at h
    cases ret with
    | crash => cases h
    | err rc =>
      dsimp only at h
      split at h <;> cases h
    | ok created =>
      obtain ⟨handle, gbmStride⟩ := created
      dsimp only at h
      split at h
      · cases h
      · exact ⟨handle, gbmStride, _, rfl, h⟩

/-- The first loop of the GBM backend, if every export has got a descriptor. -/
theorem newHandles_opens (h : newHandles cfg env desc n handles pixelStride p = (.ok r, p1))
    (hexport : ∀ j < n, exportFd env (afterNew cfg env desc j p) ≠ none) :
    ∃ new ks ms, r.1 = handles ++ new ∧ new.length = n ∧ Opened p p1 new ks ms := by
  induction n generalizing handles pixelStride p with
  | zero =>
    obtain ⟨hr, rfl⟩ := Prod.mk.inj h
    obtain rfl := Status.ok.inj hr
    exact ⟨[], [], [], (List.append_nil _).symm, rfl, .nil p⟩
  | succ n ih =>
    obtain ⟨handle, gbmStride, pixelStride', hnew, hrest⟩ := newHandles_succ_ok h
    obtain ⟨hfirst, hexport⟩ := Nat.forall_lt_succ_left.mp hexport
    obtain ⟨new, ks, ms, hr, hlen, ho⟩ := ih hrest hexport
    obtain ⟨k, hk⟩ := Option.ne_none_iff_exists'.mp hfirst
    obtain ⟨hfds, hnext, hcalls, hopens⟩ := grallocGbmAndroidBufferNew_opens hnew
    obtain ⟨hnone, hext⟩ := hopens k hk
    refine ⟨handle :: new, k :: ks, .object (p.next + 1) :: ms, ?_, ?_, ?_⟩
    · rw [hr, List.append_assoc, List.singleton_append]
    · rw [List.length_cons, hlen]
    · have hkfds : handle.fds = [k] := by
        rw [hfds]
        show [(exportFd env p).getD (-1)] = _
        rw [show exportFd env p = some k from hk, Option.getD_some]
      refine ho.cons hkfds hnone hext (Nat.le_succ _) (fun hsince => ?_) (by omega) hcalls
      have hle : (afterNew cfg env desc 1 p).next ≤ p.next + 1 := hsince
      omega

/-- Without a descriptor for its object, a handle has -1. -/
theorem newHandles_missing (h : newHandles cfg env desc n handles pixelStride p = (.ok r, p1)) :
    (∀ handle ∈ handles, handle ∈ r.1) ∧
      ∀ j < n, exportFd env (afterNew cfg env desc j p) = none → ∃ handle ∈ r.1, handle.fds = [-1] := by
  induction n generalizing handles pixelStride p with
  | zero =>
    obtain ⟨hr, rfl⟩ := Prod.mk.inj h
    obtain rfl := Status.ok.inj hr
    exact ⟨fun _ hmem => hmem, fun j hj => absurd hj (Nat.not_lt_zero j)⟩
  | succ n ih =>
    obtain ⟨handle, gbmStride, pixelStride', hnew, hrest⟩ := newHandles_succ_ok h
    obtain ⟨hsub, hmissing⟩ := ih hrest
    obtain ⟨hfds, -⟩ := grallocGbmAndroidBufferNew_opens hnew
    refine ⟨fun h' hmem => hsub h' (List.mem_append_left _ hmem), Nat.forall_lt_succ_left.mpr ⟨?_, ?_⟩⟩
    · intro hno
      refine ⟨handle, hsub handle (List.mem_append_right _ List.mem_cons_self), ?_⟩
      rw [hfds, show exportFd env p = none from hno, Option.getD_none]
    · exact hmissing

end

namespace AllocatorBackendDmaBuf

section

variable {env : Env} {d : BufferDescriptorInfo} {p p1 : Proc} {n : Nat} {handles : List NativeHandle}

/-- An iteration that comes to its end has made a handle in a new place. -/
theorem newHandles_succ_addr (h : newHandles env d (n + 1) p = (.ok handles, p1)) :
    ∃ handle rest, handle.fds = [heapFd env p] ∧ handle.addr = p.next ∧
      env.alloc p.calls.length = true ∧ 0 < heapFd env p ∧ handles = handle :: rest ∧
      newHandles env d n (afterAllocSystem env d p) = (.ok rest, p1) := by
  rw [newHandles.eq_2, grallocHandleCreate_eq] at h
  rw [afterAllocSystem_eq]
  cases ha : env.alloc p.calls.length with
  | false =>
    simp only [ha, openFd, Bool.false_eq_true, if_false] at h
    split at h <;> cases h
  | true =>
    simp only [ha, openFd, List.length_cons, if_true] at h ⊢
    split at h
    · cases h
    rename_i hfd
    split at h
    · rename_i rest p2 heq
      obtain ⟨hr, rfl⟩ := Prod.mk.inj h
      obtain rfl := Status.ok.inj hr
      exact ⟨_, rest, rfl, rfl, trivial, Int.not_le.mp hfd, rfl, heq⟩
    · rename_i hno
      exact absurd h (hno _ _)

theorem newHandles_succ_ok (h : newHandles env d (n + 1) p = (.ok handles, p1)) :
    ∃ handle rest, handle.fds = [heapFd env p] ∧ 0 < heapFd env p ∧ handles = handle :: rest ∧
      newHandles env d n (afterAllocSystem env d p) = (.ok rest, p1) := by
  obtain ⟨handle, rest, hfds, -, -, hpos, hhandles, hrest⟩ := newHandles_succ_addr h
  exact ⟨handle, rest, hfds, hpos, hhandles, hrest⟩

/-- An iteration of the first loop opens a descriptor for memory from the heap. -/
theorem afterAllocSystem_opens (env : Env) (d : BufferDescriptorInfo) (h : 0 < heapFd env p) :
    p.memoryOf (heapFd env p) = none ∧
      Extends (Function.update p.memoryOf (heapFd env p) (some (.heap (p.calls.length + 1))))
        (afterAllocSystem env d p).memoryOf := by
  cases hfd : env.newFd (p.calls.length + 1) p.fds with
  | none =>
    simp only [heapFd, hfd, Option.getD_none] at h
    omega
  | some k =>
    have hheap : heapFd env p = k := by rw [heapFd, hfd, Option.getD_some]
    rw [hheap]
    refine ⟨memoryOf_closed (env.newFd_fresh _ _ _ hfd).2, ?_⟩
    have hmem : (afterAllocSystem env d p).memoryOf
        = Function.update p.memoryOf k (some (.heap (p.calls.length + 1))) := by
      rw [afterAllocSystem_eq, hfd]
      show memoryOf (insert k p.fds) (.allocSystem (bufferSize d) (some k) ::
        .alloc (env.alloc p.calls.length) :: p.calls) = _
      rw [memoryOf_opened rfl, memoryOf_cons rfl]
      congr 1
      exact if_pos rfl
    rw [hmem]
    exact .refl _

/-- The first loop of the DMA-BUF backend. -/
theorem newHandles_opens (h : newHandles env d n p = (.ok handles, p1)) :
    ∃ ks ms, handles.length = n ∧ Opened p p1 handles ks ms := by
  induction n generalizing handles p with
  | zero =>
    obtain ⟨hr, rfl⟩ := Prod.mk.inj h
    obtain rfl := Status.ok.inj hr
    exact ⟨[], [], rfl, .nil p⟩
  | succ n ih =>
    obtain ⟨handle, rest, hfds, hpos, rfl, hrest⟩ := newHandles_succ_ok h
    obtain ⟨ks, ms, hlen, ho⟩ := ih hrest
    obtain ⟨hnone, hext⟩ := afterAllocSystem_opens env d hpos
    have hnext : (afterAllocSystem env d p).next = p.next + 1 := by rw [afterAllocSystem_eq]
    have hcalls : (afterAllocSystem env d p).calls.length = p.calls.length + 2 := by
      rw [afterAllocSystem_eq]
      rfl
    refine ⟨heapFd env p :: ks, .heap (p.calls.length + 1) :: ms, by rw [List.length_cons, hlen], ?_⟩
    refine ho.cons hfds hnone hext (Nat.le_succ _) (fun hsince => ?_) (by omega) (by omega)
    have hle : (afterAllocSystem env d p).calls.length ≤ p.calls.length + 1 := hsince
    omega

end

end AllocatorBackendDmaBuf

/-! ## The second loop

  A duplicate stands for what its original stands for, if the `dup` has succeeded. -/

/-- The words of a handle behind its descriptors. -/
def NativeHandle.ints (h : NativeHandle) : List Int :=
  (List.range h.numInts.toNat).map fun i => h.data (h.numFds.toNat + i)

/-- Every `dup` of the second loop succeeds; `release` is what the loop does with a handle it has
    duplicated. -/
def DupsSucceed (env : Env) (release : NativeHandle → Proc → Proc) : List NativeHandle → Proc → Prop
  | [], _ => True
  | h :: handles, p => (dupFd env (grallocHandle h).primeFd p).1 ≠ none ∧
      DupsSucceed env release handles (release h (dupToAidl env h p).2)

/-- A second loop, where `release` closes the descriptors of the handle and opens none. -/
inductive Exports (env : Env) (release : NativeHandle → Proc → Proc) :
    List NativeHandle → Proc → List AidlNativeHandle → Proc → Prop
  | nil (p : Proc) : Exports env release [] p [] p
  | cons {h : NativeHandle} {handles : List NativeHandle} {p p' : Proc} {as : List AidlNativeHandle}
      (hclose : (release h (dupToAidl env h p).2).memoryOf
        = memoryOf ((dupToAidl env h p).2.fds \ h.fds.toFinset) (dupToAidl env h p).2.calls)
      (hrest : Exports env release handles (release h (dupToAidl env h p).2) as p') :
      Exports env release (h :: handles) p ((dupToAidl env h p).1 :: as) p'

section

variable {env : Env} {release : NativeHandle → Proc → Proc} {handles : List NativeHandle}
  {p p' p1 : Proc} {as : List AidlNativeHandle} {ks : List Int} {ms : List Memory}

/-- What `dupToAidl` makes of a handle with one descriptor. -/
theorem dupToAidl_eq {h : NativeHandle} {k : Int} (hk : h.fds = [k]) :
    dupToAidl env h p = (⟨[(dupFd env k p).1.getD (-1)], h.ints⟩, (dupFd env k p).2) := by
  simp only [dupToAidl, hk, dupEach]
  rfl

/-- Duplicates have the words of their originals. -/
theorem Exports.ints (he : Exports env release handles p as p') :
    as.map AidlNativeHandle.ints = handles.map NativeHandle.ints := by
  induction he with
  | nil p => rfl
  | cons hclose _ ih =>
    rw [List.map_cons, List.map_cons, ih]
    rfl

/-- Where every `dup` gets a descriptor, the loop replaces the names of the memory. -/
theorem Exports.copies (he : Exports env release handles p as p')
    (hks : handles.map NativeHandle.fds = ks.map fun k => [k])
    (hdups : DupsSucceed env release handles p) (hnodup : ks.Nodup)
    (hopen : ∀ k ∈ ks, p.memoryOf k ≠ none) :
    ∃ ds, (as.map AidlNativeHandle.fds = ds.map fun d => [d]) ∧
      Copies p.memoryOf ks ds p'.memoryOf := by
  induction he generalizing ks with
  | nil p =>
    obtain rfl := List.map_eq_nil_iff.mp hks.symm
    exact ⟨[], rfl, .nil _⟩
  | @cons h handles p p' as hclose _ ih =>
    cases ks with
    | nil => cases hks
    | cons k ks =>
    obtain ⟨hk, hks⟩ := List.cons.inj hks
    obtain ⟨hkn, hnodup⟩ := List.nodup_cons.mp hnodup
    obtain ⟨hdup, hdups⟩ := hdups
    rw [primeFd_of_fds hk] at hdup
    obtain ⟨d, hd⟩ := Option.ne_none_iff_exists'.mp hdup
    have hfresh : p.memoryOf d = none := memoryOf_closed (dupFd_fresh hd).2
    have hkmem : k ∈ p.fds := mem_of_memoryOf (hopen k List.mem_cons_self)
    -- one iteration puts `d` in the place of `k`
    have hstep : (release h (dupToAidl env h p).2).memoryOf
        = Function.update (Function.update p.memoryOf d (p.memoryOf k)) k none := by
      have hq : (dupToAidl env h p).2
          = { p with fds := insert d p.fds, calls := .dup k (some d) :: p.calls } := by
        rw [dupToAidl_eq hk, dupFd_snd, hd]
        rfl
      rw [hclose, hq, hk]
      show memoryOf (insert d p.fds \ {k}) (.dup k (some d) :: p.calls) = _
      rw [memoryOf_sdiff, memoryOf_dup hkmem]
      rfl
    have hopen' : ∀ k' ∈ ks, (release h (dupToAidl env h p).2).memoryOf k' ≠ none := by
      intro k' hk'
      have hsome := hopen k' (List.mem_cons_of_mem _ hk')
      have hne : k' ≠ k := fun heq => hkn (heq ▸ hk')
      rw [hstep, update_copy hfresh hne hsome]
      exact hsome
    obtain ⟨ds, hds, hc⟩ := ih hks hdups hnodup hopen'
    refine ⟨d :: ds, ?_, .cons hfresh (hstep ▸ hc)⟩
    rw [List.map_cons, List.map_cons, hds, dupToAidl_eq hk, hd, Option.getD_some]

/-- Where a `dup` gets none, a buffer is handed out with -1. -/
theorem Exports.missing (he : Exports env release handles p as p')
    (hks : ∀ h ∈ handles, ∃ k, h.fds = [k]) (hno : ¬ DupsSucceed env release handles p) :
    ∃ a ∈ as, a.fds = [-1] := by
  induction he with
  | nil p => exact absurd trivial hno
  | @cons h handles p p' as _ _ ih =>
    obtain ⟨k, hk⟩ := hks h List.mem_cons_self
    by_cases hdup : (dupFd env (grallocHandle h).primeFd p).1 = none
    · rw [primeFd_of_fds hk] at hdup
      refine ⟨_, List.mem_cons_self, ?_⟩
      rw [dupToAidl_eq hk, hdup, Option.getD_none]
    · obtain ⟨a, ha, hfds⟩ := ih (fun h' hh' => hks h' (List.mem_cons_of_mem _ hh'))
        fun hrest => hno ⟨hdup, hrest⟩
      exact ⟨a, List.mem_cons_of_mem _ ha, hfds⟩

end

end GrallocGbm
