/-
  Is a batch of buffers allocated as a whole or not at all?

  Each backend makes the handles of a request one by one, and returns an error when one of them
  fails.  What the handles before it acquired has to be given back then, and what the failing
  iteration has acquired itself.

  The GBM backend gives back the handles before (`releaseHandles_batch`), under whatever keys they
  are, -1 included; but not the descriptor that the closing log message of each of them has
  exported.  The failing `gralloc_gbm_android_buffer_new` gives back nothing, so it leaves nothing
  behind only where it fails at its first step; and a failed export of the descriptor is no failure
  to it at all (`grallocGbmAllocate_allOrNothing_iff`).

  The DMA-BUF backend gives back nothing whatever.  It only leaves nothing behind if there is
  nothing: in the first iteration, if the handle could not be created either
  (`allocate2_allOrNothing_iff`).

  "Everything as it was" is `Restored`: the descriptors, the handles, the objects and the
  table.  The question is asked of every iteration and every step of it that can fail (`Reaches`,
  `failedStep`), of a call in any state that requests to a started service can lead to, including
  those with the leftovers of failures before.

  The answer is about where a call stops.  `newHandles_batch` follows the first loop up to the
  iteration that fails, and gives the process there as the one of the start with what that iteration
  has left; `FailsIn.restored_iff` compares the two.
-/
import GrallocGbm.Batch

namespace GrallocGbm

open AllocatorBackendGrallocGbm

/-- The native handles, objects, descriptors and table entries are those of before. -/
structure Restored (p p' : Proc) : Prop where
  handles : p'.handles = p.handles
  bos : p'.bos = p.bos
  fds : p'.fds = p.fds
  table : p'.table = p.table

/-! ## An iteration of the GBM backend

  An iteration can fail at four places, and each leaves something else behind.  `NewStep` names
  them in the order in which they are passed. -/

/-- The steps of `gralloc_gbm_android_buffer_new` that can fail.  (The set-up of the user data only
    fails without an object.) -/
inductive NewStep where
  | handleCreate
  | boCreate
  | boGetFd
  | entryAlloc
  deriving DecidableEq, Repr

section

variable (cfg : BuildConfig) (env : Env) (desc : AllocatorDesc)

/-- The first step that fails in a call, if any does. -/
def failedStep (p : Proc) : Option NewStep :=
  let n := p.calls.length
  let args := newArgs cfg desc
  if env.alloc n = false then some .handleCreate
  else if env.boCreate (n + 1) args.width args.height args.format args.flags = none then
    some .boCreate
  else if env.newFd (n + 2) p.fds = none then some .boGetFd
  else if env.alloc (n + 3) = false then some .entryAlloc
  else none

/-- What the closing log message of a call gets from `gbm_bo_get_fd`. -/
def logFd (p : Proc) : Option Int :=
  env.newFd (p.calls.length + 4) (addFd (env.newFd (p.calls.length + 2) p.fds) p.fds)

/-- The iteration comes to its end: there is a handle, and a pixel stride. -/
def completes (p : Proc) : Bool :=
  match (grallocGbmAndroidBufferNew cfg env desc p).1 with
  | .ok (_, gbmStride) =>
    (grallocGbmCalculateAndroidPixelStride desc.format.toUInt32 gbmStride).isSome
  | _ => false

/-- The process after `i` calls. -/
def afterNew (i : Nat) (p : Proc) : Proc :=
  (fun p => (grallocGbmAndroidBufferNew cfg env desc p).2)^[i] p

end

section

variable {cfg : BuildConfig} {env : Env} {desc : AllocatorDesc} {p0 p : Proc}
  {handles : List NativeHandle} {x : Finset Int}

/-- An iteration that comes to its end has created its handle. -/
theorem failedStep_of_completes (h : completes cfg env desc p = true) :
    failedStep cfg env desc p ≠ some .handleCreate := by
  intro hstep
  have halloc : env.alloc p.calls.length = false := by
    unfold failedStep at hstep
    by_contra hne
    rw [if_neg hne] at hstep
    split at hstep
    · cases hstep
    · split at hstep
      · cases hstep
      · split at hstep <;> cases hstep
  rcases grallocGbmAndroidBufferNew_cases cfg env desc p with
    ⟨rc, -, hr⟩ | ⟨rc, -, -, hr⟩ | ⟨rc, -, hno, -, -⟩ | ⟨layout, fd, -, hno, -⟩
  · rw [completes, hr] at h
    cases h
  · rw [completes, hr] at h
    cases h
  · rw [hno] at halloc
    cases halloc
  · rw [hno] at halloc
    cases halloc

/-- One call of `gralloc_gbm_android_buffer_new`.  It makes one more handle, and opens what the log
    message asks for; or it fails, and leaves nothing behind only if it could not even create a
    handle. -/
theorem Batch.new (cfg : BuildConfig) (env : Env) (desc : AllocatorDesc)
    (h : Batch p0 p handles x) :
    (∃ handle gbmStride p',
      grallocGbmAndroidBufferNew cfg env desc p = (.ok (handle, gbmStride), p') ∧
      failedStep cfg env desc p ≠ some .handleCreate ∧
      Batch p0 p' (handles ++ [handle]) (addFd (logFd env p) x)) ∨
    (∃ rc p' p0', grallocGbmAndroidBufferNew cfg env desc p = (.err rc, p') ∧
      Batch p0' p' handles x ∧ failedStep cfg env desc p ≠ none ∧
      (if failedStep cfg env desc p = some .handleCreate then p0' = p0
        else p0'.handles ≠ p0.handles)) := by
  have hleak : insert p.next p0.handles ≠ p0.handles := by
    rw [Ne, Finset.insert_eq_self]
    intro hmem
    have := h.handle_lt p.next (by rw [h.handles_eq]; exact Finset.mem_union_left _ hmem)
    omega
  have hfresh : ∀ n d, env.newFd n p.fds = some d → 0 ≤ d ∧ d ∉ p.fds :=
    fun n d hd => env.newFd_fresh _ _ _ hd
  rcases grallocGbmAndroidBufferNew_cases cfg env desc p with
    ⟨rc, hno, -⟩ | ⟨rc, -, ha, hr⟩ | ⟨rc, -, ha, hbo, hr⟩ |
    ⟨layout, fd, -, ha, hbo, hfd, ⟨rc, ha', hr⟩ | ⟨log, ha', hlog, hr⟩⟩
  · rw [h.ready] at hno
    cases hno
  · have hstep : failedStep cfg env desc p = some .handleCreate := by simp [failedStep, ha]
    refine .inr ⟨rc, _, p0, hr, h.of_same (Nat.le_succ _) p.heap _, ?_⟩
    simp [hstep]
  · have hstep : failedStep cfg env desc p = some .boCreate := by simp [failedStep, ha, hbo]
    refine .inr ⟨rc, _, _, hr, h.leak_handle _, ?_⟩
    simpa [hstep] using hleak
  · have hstep : ∃ s, s ≠ .handleCreate ∧ failedStep cfg env desc p = some s := by
      cases hd : env.newFd (p.calls.length + 2) p.fds with
      | none => exact ⟨.boGetFd, by decide, by simp [failedStep, ha, hbo, hd]⟩
      | some d => exact ⟨.entryAlloc, by decide, by simp [failedStep, ha, hbo, hd, ha']⟩
    obtain ⟨s, hs, hstep⟩ := hstep
    have h1 := h.leak_handle p.calls
    refine .inr ⟨rc, _, _, hr, h1.leak_object (n := p.next + 6) _ _ _
      (fun d hd => hfresh _ d (hfd ▸ hd)) ⟨le_refl _, by simp⟩, ?_⟩
    simpa [hstep, hs] using hleak
  · have hstep : failedStep cfg env desc p ≠ some .handleCreate := by
      cases hd : env.newFd (p.calls.length + 2) p.fds <;> simp [failedStep, ha, hbo, hd, ha']
    have hadded := h.added (createdHandle cfg env desc layout (fd.getD (-1)) p.next)
      ⟨p.next + 5, fd.getD (-1), p.next + 1⟩ fd (createdBo cfg desc layout (p.next + 2))
      (insert (p.next + 4) (insert (p.next + 3) (insert (p.next + 2) p.heap))) (p.next + 6) p.calls
      (fun d hd => hfresh _ d (hfd ▸ hd)) rfl rfl ⟨by simp, by simp⟩ ⟨by simp, by simp⟩
      ⟨le_refl _, by show p.next < p.next + 6; omega⟩
    have hopened := hadded.opened (fun d (hd : log = some d) => env.newFd_fresh _ _ _ (hlog ▸ hd))
      (.boGetFd (p.next + 1) log :: .alloc true :: .boGetFd (p.next + 1) fd ::
        .boCreate (newArgs cfg desc).width (newArgs cfg desc).height (newArgs cfg desc).format
          (newArgs cfg desc).flags (some (p.next + 1)) :: .alloc true :: p.calls)
    have hlogFd : logFd env p = log := by rw [logFd, ← hfd, ← hlog]
    rw [hlogFd]
    exact .inl ⟨_, _, _, hr, hstep, hopened⟩

/-- What the log message of an iteration opens is new. -/
theorem Batch.addFd_logFd (h : Batch p0 p handles x) :
    addFd (logFd env p) x = x ↔ logFd env p = none := by
  cases hlog : logFd env p with
  | none => simp [addFd]
  | some d =>
    have hnot := (env.newFd_fresh _ _ _ hlog).2
    have hx : d ∉ x := fun hd => hnot (mem_addFd.mpr (.inr ((h.fds d).mpr (.inr (.inl hd)))))
    simp [addFd, hx]

/-- The first loop fails in iteration `m`.  All is given back but what that iteration leaves behind,
    which makes `p0'` out of `p0`, and what the log messages of those before it have opened, which
    makes `x'` out of `x`. -/
structure FailsIn (cfg : BuildConfig) (env : Env) (desc : AllocatorDesc) (p0 p : Proc)
    (x : Finset Int) (m : Nat) (p' p0' : Proc) (x' : Finset Int) : Prop where
  batch : Batch p0' p' [] x'
  extra_sub : x ⊆ x'
  extra_eq : x' = x ↔ ∀ j < m, logFd env (afterNew cfg env desc j p) = none
  fails : failedStep cfg env desc (afterNew cfg env desc m p) ≠ none
  left : if failedStep cfg env desc (afterNew cfg env desc m p) = some .handleCreate then p0' = p0
    else p0'.handles ≠ p0.handles

/-- The first loop comes to its end, or stops in an iteration `m`, with the process or with an
    error. -/
theorem newHandles_batch (cfg : BuildConfig) (env : Env) (desc : AllocatorDesc) (n : Nat)
    (pixelStride : Int32) (h : Batch p0 p handles x) :
    (∃ r p' x', newHandles cfg env desc n handles pixelStride p = (.ok r, p') ∧
      Batch p0 p' r.1 x' ∧ ∀ j < n, completes cfg env desc (afterNew cfg env desc j p) = true) ∨
    ∃ m < n, (∀ j < m, completes cfg env desc (afterNew cfg env desc j p) = true) ∧
      completes cfg env desc (afterNew cfg env desc m p) = false ∧
      ((∃ p', newHandles cfg env desc n handles pixelStride p = (.terminated, p') ∧
        failedStep cfg env desc (afterNew cfg env desc m p) ≠ some .handleCreate) ∨
      ∃ p' p0' x', newHandles cfg env desc n handles pixelStride p = (.error .unsupported, p') ∧
        FailsIn cfg env desc p0 p x m p' p0' x') := by
  induction n generalizing handles pixelStride p x with
  | zero =>
    exact .inl ⟨(handles, pixelStride), p, x, rfl, h, fun j hj => absurd hj (Nat.not_lt_zero j)⟩
  | succ n ih =>
    rcases h.new cfg env desc with
      ⟨handle, gbmStride, p1, hnew, hstep, h1⟩ | ⟨rc, p1, p0', hnew, h1, hstep, hleft⟩
    · have hp1 : p1 = (grallocGbmAndroidBufferNew cfg env desc p).2 := congrArg Prod.snd hnew.symm
      cases hst : grallocGbmCalculateAndroidPixelStride desc.format.toUInt32 gbmStride with
      | none =>
        have hno : completes cfg env desc p = false := by simp [completes, hnew, hst]
        refine .inr ⟨0, Nat.succ_pos n, fun j hj => absurd hj (Nat.not_lt_zero j), hno,
          .inl ⟨p1, ?_, hstep⟩⟩
        simp only [newHandles, hnew, hst]
      | some pixelStride' =>
        have hyes : completes cfg env desc p = true := by simp [completes, hnew, hst]
        have hloop : newHandles cfg env desc (n + 1) handles pixelStride p
            = newHandles cfg env desc n (handles ++ [handle]) pixelStride' p1 := by
          simp only [newHandles, hnew, hst]
        rw [hloop]
        rcases ih _ h1 with ⟨r, p', x', heq, h', hall⟩ | ⟨m, hm, hall, hstop, hend⟩
        · rw [hp1] at hall
          exact .inl ⟨r, p', x', heq, h', Nat.forall_lt_succ_left.mpr ⟨hyes, hall⟩⟩
        · rw [hp1] at hall hstop
          refine .inr ⟨m + 1, Nat.succ_lt_succ hm, Nat.forall_lt_succ_left.mpr ⟨hyes, hall⟩, hstop, ?_⟩
          rcases hend with ⟨p', heq, hno⟩ | ⟨p', p0', x', heq, hf⟩
          · rw [hp1] at hno
            exact .inl ⟨p', heq, hno⟩
          · rw [hp1] at hf
            have hsub : x ⊆ addFd (logFd env p) x := fun d hd => mem_addFd.mpr (.inr hd)
            refine .inr ⟨p', p0', x', heq, hf.batch, hsub.trans hf.extra_sub, ?_, hf.fails, hf.left⟩
            rw [Nat.forall_lt_succ_left]
            show _ ↔ logFd env p = none ∧ _
            rw [← h.addFd_logFd]
            constructor
            · rintro rfl
              have heq' := Finset.Subset.antisymm hf.extra_sub hsub
              exact ⟨heq', hf.extra_eq.mp heq'.symm⟩
            · rintro ⟨heq', hrest⟩
              exact (hf.extra_eq.mpr hrest).trans heq'
    · have hno : completes cfg env desc p = false := by simp [completes, hnew]
      obtain ⟨p2, hrel, h2⟩ := releaseHandles_batch h1
      refine .inr ⟨0, Nat.succ_pos n, fun j hj => absurd hj (Nat.not_lt_zero j), hno,
        .inr ⟨p2, p0', x, ?_, h2, subset_rfl, by simp, hstep, hleft⟩⟩
      simp only [newHandles, hnew, hrel]

end

/-! ## A call of the GBM backend

  The call stops in the first iteration that fails.  What the iterations before have made, its
  clean-up gives back; what the failing one has left, and what the closing log messages have
  opened, stays. -/

/-- The call comes to iteration `i`. -/
structure Reaches (cfg : BuildConfig) (env : Env) (desc : AllocatorDesc) (count : Int32) (p : Proc)
    (i : Nat) : Prop where
  supported : grallocGbmIsAllocatorDescSupported cfg env.isFormatSupported (isGrallocGbmReady p) desc
    = true
  resized : resizes env count p = true
  lt : i < count.toInt.toNat
  before : ∀ j < i, completes cfg env desc (afterNew cfg env desc j p) = true

/-- A `gralloc_gbm_android_buffer_new` that fails, in any iteration and at any step, makes the call
    fail, with everything as it was. -/
def AllOrNothing (cfg : BuildConfig) (env : Env) (desc : AllocatorDesc) (count : Int32) (p : Proc) :
    Prop :=
  ∀ i, Reaches cfg env desc count p i → failedStep cfg env desc (afterNew cfg env desc i p) ≠ none →
    (∃ e, (grallocGbmAllocate cfg env desc count p).1 = .error e) ∧
      Restored p (grallocGbmAllocate cfg env desc count p).2

/-- Nothing fails; or a handle cannot be created, and the log messages of all iterations before have
    not got a descriptor. -/
def LeavesNothing (cfg : BuildConfig) (env : Env) (desc : AllocatorDesc) (count : Int32) (p : Proc) :
    Prop :=
  (∀ i, Reaches cfg env desc count p i → failedStep cfg env desc (afterNew cfg env desc i p) = none) ∨
  ∃ i, Reaches cfg env desc count p i ∧
    failedStep cfg env desc (afterNew cfg env desc i p) = some .handleCreate ∧
    ∀ j < i, logFd env (afterNew cfg env desc j p) = none

section

variable {cfg : BuildConfig} {env : Env} {desc : AllocatorDesc} {count : Int32} {p p' p0' : Proc}
  {x' : Finset Int} {m : Nat}

/-- Only where an iteration stops, it has failed to create its handle. -/
theorem Reaches.eq_of_handleCreate {i : Nat} (hi : Reaches cfg env desc count p i)
    (hstep : failedStep cfg env desc (afterNew cfg env desc i p) = some .handleCreate)
    (hall : ∀ j < m, completes cfg env desc (afterNew cfg env desc j p) = true)
    (hstop : completes cfg env desc (afterNew cfg env desc m p) = false) : i = m := by
  rcases Nat.lt_trichotomy i m with hlt | heq | hgt
  · exact absurd hstep (failedStep_of_completes (hall i hlt))
  · exact heq
  · have := hi.before m hgt
    rw [hstop] at this
    cases this

/-- A call that fails in iteration `m` leaves nothing behind exactly if it could not create a handle
    there, and the log messages before got no descriptor. -/
theorem FailsIn.restored_iff (hp : Settled p) (h : FailsIn cfg env desc p p ∅ m p' p0' x') :
    Restored p p' ↔ failedStep cfg env desc (afterNew cfg env desc m p) = some .handleCreate ∧
      ∀ j < m, logFd env (afterNew cfg env desc j p) = none := by
  obtain ⟨hbos, hfds, hhandles⟩ := h.batch.done
  have hleft := h.left
  rw [← h.extra_eq]
  by_cases hstep : failedStep cfg env desc (afterNew cfg env desc m p) = some .handleCreate
  · rw [if_pos hstep] at hleft
    subst hleft
    constructor
    · intro hr
      refine ⟨hstep, Finset.eq_empty_of_forall_notMem fun d hd => ?_⟩
      refine h.batch.extra_new d hd ?_
      rw [← hr.fds, hfds]
      exact Finset.mem_union_right _ hd
    · rintro ⟨-, rfl⟩
      exact ⟨hhandles, hbos, by rw [hfds, Finset.union_empty],
        h.batch.table_nil.trans hp.table.symm⟩
  · rw [if_neg hstep] at hleft
    constructor
    · exact fun hr => absurd (hhandles.symm.trans hr.handles) hleft
    · exact fun hno => absurd hno.1 hstep

/-- The outcomes of a call for a descriptor that the library supports and a count that there is room
    for: every iteration comes to its end, and the call with them unless there is no room for the
    result; or one does not. -/
theorem grallocGbmAllocate_batch (env : Env) (hp : Settled p)
    (hsup : grallocGbmIsAllocatorDescSupported cfg env.isFormatSupported (isGrallocGbmReady p) desc
      = true) (hresize : resizes env count p = true) :
    let n := count.toInt.toNat
    ((∀ j < n, completes cfg env desc (afterNew cfg env desc j p) = true) ∧
      ((∃ p', grallocGbmAllocate cfg env desc count p = (.terminated, p')) ∨
      ∃ res p' x', grallocGbmAllocate cfg env desc count p = (.ok res, p') ∧ Batch p p' [] x')) ∨
    ∃ m < n, (∀ j < m, completes cfg env desc (afterNew cfg env desc j p) = true) ∧
      completes cfg env desc (afterNew cfg env desc m p) = false ∧
      ((∃ p', grallocGbmAllocate cfg env desc count p = (.terminated, p') ∧
        failedStep cfg env desc (afterNew cfg env desc m p) ≠ some .handleCreate) ∨
      ∃ p' p0' x', grallocGbmAllocate cfg env desc count p = (.error .unsupported, p') ∧
        FailsIn cfg env desc p p ∅ m p' p0' x') := by
  intro n
  have hready := grallocGbmIsAllocatorDescSupported_ready hsup
  unfold grallocGbmAllocate
  rw [if_neg (by simpa using hsup), if_neg (by simpa using hresize)]
  rcases newHandles_batch cfg env desc n 0 (Batch.start hp hready) with
    ⟨r, p1, x1, heq, h1, hall⟩ | ⟨m, hm, hall, hstop, ⟨p1, heq, hno⟩ | ⟨p1, p0', x1, heq, hf⟩⟩
  · refine .inl ⟨hall, ?_⟩
    rw [heq]
    dsimp only
    cases resizes env count p1 with
    | false => exact .inl ⟨p1, rfl⟩
    | true =>
      obtain ⟨buffers, p2, x2, heq', h2⟩ := exportHandles_batch env h1
      refine .inr ⟨⟨r.2, buffers⟩, p2, x2, ?_, h2⟩
      rw [heq']
      rfl
  · refine .inr ⟨m, hm, hall, hstop, .inl ⟨p1, ?_, hno⟩⟩
    rw [heq]
  · refine .inr ⟨m, hm, hall, hstop, .inr ⟨p1, p0', x1, ?_, hf⟩⟩
    rw [heq]

/-- **One call**, from a state between two requests. -/
theorem allOrNothing_iff (hp : Settled p) :
    AllOrNothing cfg env desc count p ↔ LeavesNothing cfg env desc count p := by
  -- a call that comes to no iteration has nothing to give back
  by_cases hcall : grallocGbmIsAllocatorDescSupported cfg env.isFormatSupported
      (isGrallocGbmReady p) desc = true ∧ resizes env count p = true
  swap
  · have hnone : ∀ i, ¬ Reaches cfg env desc count p i := fun i hi =>
      hcall ⟨hi.supported, hi.resized⟩
    exact ⟨fun _ => .inl fun i hi => absurd hi (hnone i), fun _ i hi => absurd hi (hnone i)⟩
  obtain ⟨hsup, hresize⟩ := hcall
  have hnofail : (∀ i, Reaches cfg env desc count p i →
        failedStep cfg env desc (afterNew cfg env desc i p) = none) →
      AllOrNothing cfg env desc count p := fun h i hi hfail => absurd (h i hi) hfail
  rcases grallocGbmAllocate_batch env hp hsup hresize with
    ⟨hall, hend⟩ | ⟨m, hm, hall, hstop, ⟨p', heq, hno⟩ | ⟨p', p0', x', heq, hf⟩⟩
  case inl =>
    -- every iteration came to its end, and the call returns no error
    constructor
    · intro h
      refine .inl fun i hi => ?_
      by_contra hfail
      obtain ⟨e, he⟩ := (h i hi hfail).1
      rcases hend with ⟨p', heq⟩ | ⟨res, p', x', heq, -⟩ <;> rw [heq] at he <;> cases he
    · rintro (h | ⟨i, hi, hstep, -⟩)
      · exact hnofail h
      · exact absurd hstep (failedStep_of_completes (hall i hi.lt))
  case inr.inl =>
    constructor
    · intro h
      refine .inl fun i hi => ?_
      by_contra hfail
      obtain ⟨e, he⟩ := (h i hi hfail).1
      rw [heq] at he
      cases he
    · rintro (h | ⟨i, hi, hstep, -⟩)
      · exact hnofail h
      · rw [hi.eq_of_handleCreate hstep hall hstop] at hstep
        exact absurd hstep hno
  case inr.inr =>
    have hreach : Reaches cfg env desc count p m := ⟨hsup, hresize, hm, hall⟩
    have hiff := hf.restored_iff hp
    constructor
    · intro h
      have hr := (h m hreach hf.fails).2
      rw [heq] at hr
      exact .inr ⟨m, hreach, hiff.mp hr⟩
    · rintro (h | ⟨i, hi, hstep, hlog⟩)
      · exact hnofail h
      · intro j hj hfail
        obtain rfl := hi.eq_of_handleCreate hstep hall hstop
        rw [heq]
        exact ⟨⟨_, rfl⟩, hiff.mpr ⟨hstep, hlog⟩⟩

/-- A call that returns leaves the process settled. -/
theorem grallocGbmAllocate_settled (hp : Settled p)
    (hret : (grallocGbmAllocate cfg env desc count p).1 ≠ .terminated) :
    Settled (grallocGbmAllocate cfg env desc count p).2 := by
  by_cases hsup : grallocGbmIsAllocatorDescSupported cfg env.isFormatSupported
      (isGrallocGbmReady p) desc = true
  · cases hresize : resizes env count p with
    | false =>
      unfold grallocGbmAllocate at hret
      rw [if_neg (by simpa using hsup), if_pos (by simpa using hresize)] at hret
      exact absurd rfl hret
    | true =>
    rcases grallocGbmAllocate_batch env hp hsup hresize with
      ⟨-, ⟨p', heq⟩ | ⟨res, p', x', heq, h'⟩⟩ | ⟨m, -, -, -, ⟨p', heq, -⟩ | ⟨p', p0', x', heq, hf⟩⟩
    · rw [heq] at hret
      exact absurd rfl hret
    · rw [heq]
      exact h'.settled
    · rw [heq] at hret
      exact absurd rfl hret
    · rw [heq]
      exact hf.batch.settled
  · unfold grallocGbmAllocate
    rw [if_pos (by simpa using hsup)]
    exact hp

end

/-! ## A call of the DMA-BUF backend

  Its loop has no clean-up for a failure of the heap: the handles of the iterations before stay
  behind with their descriptors. -/

namespace AllocatorBackendDmaBuf

section

variable (env : Env) (d : BufferDescriptorInfo)

/-- What `AllocSystem` answers in an iteration; the code takes 0 for a failure, too. -/
def heapFd (p : Proc) : Int := (env.newFd (p.calls.length + 1) p.fds).getD (-1)

/-- The process after the handle and the heap have been asked for. -/
def afterAllocSystem (p : Proc) : Proc :=
  (openFd env (.allocSystem (bufferSize d)) (grallocHandleCreate env d.width.toUInt32
    d.height.toUInt32 d.format.toUInt32 (usageBits d.usage) p).2).2

/-- The iteration comes to its end: there is a handle, and a descriptor for it. -/
def completes (p : Proc) : Bool := env.alloc p.calls.length && decide (0 < heapFd env p)

end

section

variable {env : Env} {d : BufferDescriptorInfo} {count : Int32} {p : Proc}

/-- What an iteration asks for, in one record. -/
theorem afterAllocSystem_eq (env : Env) (d : BufferDescriptorInfo) (p : Proc) :
    afterAllocSystem env d p = { p with
      next := p.next + 1
      handles := if env.alloc p.calls.length then insert p.next p.handles else p.handles
      fds := addFd (env.newFd (p.calls.length + 1) p.fds) p.fds
      calls := .allocSystem (bufferSize d) (env.newFd (p.calls.length + 1) p.fds) ::
        .alloc (env.alloc p.calls.length) :: p.calls } := by
  rw [afterAllocSystem, grallocHandleCreate_eq]
  cases env.alloc p.calls.length <;> rfl

/-- The first iteration: a failure of the heap ends the loop, even without a handle; a handle that is
    missing otherwise ends the process. -/
theorem newHandles_succ (env : Env) (d : BufferDescriptorInfo) (n : Nat) (p : Proc) :
    let r := newHandles env d (n + 1) p
    if heapFd env p ≤ 0 then r = (.error .noResources, afterAllocSystem env d p)
    else if env.alloc p.calls.length = false then r = (.terminated, afterAllocSystem env d p)
    else r.1.code = (newHandles env d n (afterAllocSystem env d p)).1.code ∧
      r.2 = (newHandles env d n (afterAllocSystem env d p)).2 := by
  intro r
  have hr : r = newHandles env d (n + 1) p := rfl
  rw [newHandles.eq_2, grallocHandleCreate_eq] at hr
  rw [afterAllocSystem_eq]
  split
  · rename_i hfd
    cases ha : env.alloc p.calls.length <;>
      simpa only [ha, openFd, List.length_cons, heapFd, if_true, Bool.false_eq_true, if_false,
        if_pos (show (env.newFd (p.calls.length + 1) p.fds).getD (-1) ≤ 0 from hfd)] using hr
  rename_i hfd
  have hfd' : ¬ (env.newFd (p.calls.length + 1) p.fds).getD (-1) ≤ 0 := hfd
  split
  · rename_i ha
    simpa only [ha, openFd, List.length_cons, Bool.false_eq_true, if_false, if_neg hfd'] using hr
  · rename_i ha
    replace ha : env.alloc p.calls.length = true := by simpa using ha
    simp only [ha, openFd, List.length_cons, if_true, if_neg hfd'] at hr ⊢
    split at hr
    · rename_i heq
      rw [hr, heq]
      exact ⟨rfl, rfl⟩
    · rw [hr]
      exact ⟨rfl, rfl⟩

/-- The first loop goes through its iterations up to the end, or to the first that is not
    completed. -/
theorem newHandles_stops (env : Env) (d : BufferDescriptorInfo) (n : Nat) (p : Proc) :
    let r := newHandles env d n p
    let nth := fun i => (afterAllocSystem env d)^[i] p
    (r.1.code = .ok () ∧ r.2 = nth n ∧ ∀ j < n, completes env (nth j) = true) ∨
    ∃ m < n, (∀ j < m, completes env (nth j) = true) ∧ completes env (nth m) = false ∧
      r.2 = nth (m + 1) ∧
      r.1.code = if heapFd env (nth m) ≤ 0 then .error .noResources else .terminated := by
  intro r nth
  induction n generalizing p with
  | zero => exact .inl ⟨rfl, rfl, fun j hj => absurd hj (Nat.not_lt_zero j)⟩
  | succ n ih =>
    have hstep := newHandles_succ env d n p
    by_cases hfd : heapFd env p ≤ 0
    · rw [if_pos hfd] at hstep
      have hno : completes env p = false := by simp [completes, hfd]
      refine .inr ⟨0, Nat.succ_pos n, fun j hj => absurd hj (Nat.not_lt_zero j), hno, ?_, ?_⟩
      · exact congrArg Prod.snd hstep
      · show r.1.code = if heapFd env p ≤ 0 then _ else _
        rw [if_pos hfd]
        exact congrArg (fun r => r.1.code) hstep
    rw [if_neg hfd] at hstep
    by_cases ha : env.alloc p.calls.length = false
    · rw [if_pos ha] at hstep
      have hno : completes env p = false := by simp [completes, ha]
      refine .inr ⟨0, Nat.succ_pos n, fun j hj => absurd hj (Nat.not_lt_zero j), hno, ?_, ?_⟩
      · exact congrArg Prod.snd hstep
      · show r.1.code = if heapFd env p ≤ 0 then _ else _
        rw [if_neg hfd]
        exact congrArg (fun r => r.1.code) hstep
    · rw [if_neg ha] at hstep
      obtain ⟨hcode, hproc⟩ := hstep
      have hyes : completes env p = true := by
        rw [completes, Bool.eq_true_of_not_eq_false ha]
        simpa using hfd
      rcases ih (afterAllocSystem env d p) with ⟨hok, hend, hall⟩ | ⟨m, hm, hall, hstop, hend, hcode'⟩
      · exact .inl ⟨hcode.trans hok, hproc.trans hend, Nat.forall_lt_succ_left.mpr ⟨hyes, hall⟩⟩
      · exact .inr ⟨m + 1, Nat.succ_lt_succ hm, Nat.forall_lt_succ_left.mpr ⟨hyes, hall⟩, hstop,
          hproc.trans hend, hcode.trans hcode'⟩

/-- Iterations never take away a handle. -/
theorem handles_subset_iterate (env : Env) (d : BufferDescriptorInfo) (i : Nat) (p : Proc) :
    p.handles ⊆ ((afterAllocSystem env d)^[i] p).handles := by
  induction i generalizing p with
  | zero => exact subset_rfl
  | succ i ih =>
    have h1 : p.handles ⊆ (afterAllocSystem env d p).handles := by
      rw [afterAllocSystem_eq]
      dsimp only
      split
      · exact Finset.subset_insert _ _
      · exact subset_rfl
    exact h1.trans (ih _)

/-- Iterations leave the table alone. -/
theorem iterate_settled (hp : Settled p) (i : Nat) :
    Settled ((afterAllocSystem env d)^[i] p) := by
  induction i generalizing p with
  | zero => exact hp
  | succ i ih =>
    refine ih (p := afterAllocSystem env d p) ?_
    exact (hp.grallocHandleCreate _ _ _ _).openFd _

/-- So does the last loop, -/
theorem exportHandles_settled (handles : List NativeHandle) (hp : Settled p) :
    Settled (exportHandles env handles p).2 := by
  induction handles generalizing p with
  | nil => exact hp
  | cons h handles ih => exact ih ((hp.dupToAidl h).released h)

/-- and the whole call. -/
theorem allocate2_settled (hp : Settled p) : Settled (allocate2 env d count p).2 := by
  unfold allocate2
  split
  · exact hp
  have hloop : Settled (newHandles env d count.toInt.toNat p).2 := by
    rcases newHandles_stops env d count.toInt.toNat p with
      ⟨-, hend, -⟩ | ⟨m, -, -, -, hend, -⟩ <;> rw [hend] <;> exact iterate_settled hp _
  split <;> rename_i heq <;> rw [heq] at hloop
  · exact hloop
  · exact hloop
  · split
    · exact hloop
    · exact exportHandles_settled _ hloop

/-! ### All or nothing

  The same two notions as for the other backend, with its own places to fail. -/

/-- The call comes to iteration `i`. -/
structure Reaches (env : Env) (d : BufferDescriptorInfo) (count : Int32) (p : Proc) (i : Nat) :
    Prop where
  resized : resizes env count p = true
  lt : i < count.toInt.toNat
  before : ∀ j < i, completes env ((afterAllocSystem env d)^[j] p) = true

/-- A failure of the heap, in any iteration, makes the call fail, with the handles and descriptors
    as they were. -/
def AllOrNothing (env : Env) (d : BufferDescriptorInfo) (count : Int32) (p : Proc) : Prop :=
  ∀ i, Reaches env d count p i → heapFd env ((afterAllocSystem env d)^[i] p) ≤ 0 →
    (∃ e, (allocate2 env d count p).1 = .error e) ∧
      (allocate2 env d count p).2.handles = p.handles ∧ (allocate2 env d count p).2.fds = p.fds

/-- The heap does not fail; or it fails at once, without a descriptor, and the handle has not been
    created either. -/
def LeavesNothing (env : Env) (d : BufferDescriptorInfo) (count : Int32) (p : Proc) : Prop :=
  (∀ i, Reaches env d count p i → 0 < heapFd env ((afterAllocSystem env d)^[i] p)) ∨
  env.alloc p.calls.length = false ∧ env.newFd (p.calls.length + 1) p.fds = none

/-- What is left behind when the loop ends after iteration `m`. -/
theorem iterate_restored_iff (env : Env) (d : BufferDescriptorInfo) (hp : Settled p) {m : Nat}
    (hall : ∀ j < m, completes env ((afterAllocSystem env d)^[j] p) = true) :
    ((afterAllocSystem env d)^[m + 1] p).handles = p.handles ∧
        ((afterAllocSystem env d)^[m + 1] p).fds = p.fds ↔
      m = 0 ∧ env.alloc p.calls.length = false ∧ env.newFd (p.calls.length + 1) p.fds = none := by
  have hnew : p.next ∉ p.handles := fun hmem => by
    have := hp.handle_lt _ hmem
    omega
  have hfirst := afterAllocSystem_eq env d p
  by_cases ha : env.alloc p.calls.length = true
  · -- the first handle is there to the end
    constructor
    · rintro ⟨hh, -⟩
      have hmem : p.next ∈ (afterAllocSystem env d p).handles := by
        rw [hfirst]
        simp [ha]
      have hend := handles_subset_iterate env d m (afterAllocSystem env d p) hmem
      exact absurd (hh ▸ hend) hnew
    · rintro ⟨-, hno, -⟩
      rw [ha] at hno
      cases hno
  · have hm : m = 0 := by
      by_contra hne
      have hyes := hall 0 (Nat.pos_of_ne_zero hne)
      exact ha (Bool.and_eq_true_iff.mp hyes).1
    subst hm
    show (afterAllocSystem env d p).handles = _ ∧ (afterAllocSystem env d p).fds = _ ↔ _
    rw [hfirst]
    simp only [ha, Bool.false_eq_true, if_false, true_and]
    cases hfd : env.newFd (p.calls.length + 1) p.fds with
    | none => simp [addFd]
    | some fd =>
      have hnot := (env.newFd_fresh _ _ _ hfd).2
      simp [addFd, hnot]

/-- A call whose first loop does not come to its end, ends with it. -/
theorem allocate2_stopped (env : Env) (d : BufferDescriptorInfo) (p : Proc)
    (hresize : resizes env count p = true) :
    let r := newHandles env d count.toInt.toNat p
    r.1.code ≠ .ok () → (allocate2 env d count p).1.code = r.1.code ∧
      (allocate2 env d count p).2 = r.2 := by
  intro r
  unfold allocate2
  rw [if_neg (by simpa using hresize)]
  cases hr : newHandles env d count.toInt.toNat p with
  | mk st p1 =>
    have hr' : r = (st, p1) := hr
    rw [hr']
    cases st with
    | error e => exact fun _ => ⟨rfl, rfl⟩
    | terminated => exact fun _ => ⟨rfl, rfl⟩
    | ok handles => exact fun hne => absurd rfl hne

/-- An error is seen in the code. -/
theorem error_of_code {α : Type} {r : Status α} :
    (∃ e, r = .error e) ↔ ∃ e, r.code = .error e := by
  cases r <;> simp [Status.code]

/-- **One call**, from a state between two requests. -/
theorem allOrNothing_iff (hp : Settled p) :
    AllOrNothing env d count p ↔ LeavesNothing env d count p := by
  cases hresize : resizes env count p with
  | false =>
    have hnone : ∀ i, ¬ Reaches env d count p i := fun i hi => by
      have := hi.resized
      rw [hresize] at this
      cases this
    exact ⟨fun _ => .inl fun i hi => absurd hi (hnone i), fun _ i hi => absurd hi (hnone i)⟩
  | true =>
  have hend := allocate2_stopped env d p hresize
  unfold AllOrNothing
  rw [error_of_code]
  rcases newHandles_stops env d count.toInt.toNat p with
    ⟨-, -, hall⟩ | ⟨m, hm, hall, hstop, hproc, hcode⟩
  · -- no iteration fails
    have hpos : ∀ i, Reaches env d count p i → 0 < heapFd env ((afterAllocSystem env d)^[i] p) :=
      fun i hi => of_decide_eq_true (Bool.and_eq_true_iff.mp (hall i hi.lt)).2
    exact ⟨fun _ => .inl hpos, fun _ i hi hfail => absurd (hpos i hi) (by omega)⟩
  -- the iterations the call comes to are completed, but for `m`
  have hreach : Reaches env d count p m := ⟨hresize, hm, hall⟩
  have hlast : ∀ i, Reaches env d count p i →
      heapFd env ((afterAllocSystem env d)^[i] p) ≤ 0 → i = m := by
    intro i hi hfail
    rcases Nat.lt_trichotomy i m with hlt | heq | hgt
    · have hpos : 0 < heapFd env ((afterAllocSystem env d)^[i] p) :=
        of_decide_eq_true (Bool.and_eq_true_iff.mp (hall i hlt)).2
      omega
    · exact heq
    · have := hi.before m hgt
      rw [hstop] at this
      cases this
  by_cases hfail : heapFd env ((afterAllocSystem env d)^[m] p) ≤ 0
  · rw [if_pos hfail] at hcode
    obtain ⟨hcode', hproc'⟩ := hend (by rw [hcode]; decide)
    rw [hcode', hproc', hproc, hcode]
    have hiff := iterate_restored_iff env d hp hall
    constructor
    · intro h
      exact .inr (hiff.mp (h m hreach hfail).2).2
    · rintro (h | ⟨ha, hfd⟩)
      · have := h m hreach
        omega
      · intro i hi hifail
        refine ⟨⟨_, rfl⟩, hiff.mpr ⟨?_, ha, hfd⟩⟩
        by_contra hne
        have hyes := hall 0 (Nat.pos_of_ne_zero hne)
        have halloc : env.alloc p.calls.length = true := (Bool.and_eq_true_iff.mp hyes).1
        rw [ha] at halloc
        cases halloc
  · have hpos : ∀ i, Reaches env d count p i → 0 < heapFd env ((afterAllocSystem env d)^[i] p) := by
      intro i hi
      by_contra hle
      rw [hlast i hi (by omega)] at hle
      omega
    exact ⟨fun _ => .inl hpos, fun _ i hi hfail => absurd (hpos i hi) (by omega)⟩

end

end AllocatorBackendDmaBuf

/-! ## The service

  Between two requests the process is settled: it has no entries, and the account of what was
  left behind is what `Rollback` speaks about. -/

section

variable {cfg : BuildConfig} {env : Env}
  {decode : List UInt8 → Option Allocator.BufferDescriptorInfoV4} {d : BufferDescriptorInfo}

/-- A request that returns leaves the service settled, -/
theorem Allocator.allocate2_settled {s : Allocator} {count : Int32}
    (hready : isGrallocGbmReady s.proc = true) (hp : Settled s.proc)
    (hret : (s.allocate2 cfg env d count).1.code ≠ .terminated) :
    Settled (s.allocate2 cfg env d count).2.proc := by
  obtain ⟨da, cs, heq⟩ := Allocator.allocate2_eq cfg env d count hready
  rw [heq] at hret ⊢
  cases hserved : served cfg env d s with
  | none => exact hp.checked da cs
  | some backend =>
    rw [hserved] at hret
    cases backend with
    | allocatorGrallocGbm =>
      simp only [AllocatorBackendType.allocate2, AllocatorBackendGrallocGbm.allocate2] at hret ⊢
      cases hdesc : generateGrallocGenericDesc d with
      | none => exact hp.checked da cs
      | some desc =>
        rw [hdesc] at hret
        exact grallocGbmAllocate_settled (hp.checked da cs) fun hterm => hret (by
          dsimp only
          rw [hterm]
          rfl)
    | allocatorGrallocDmabuf =>
      exact AllocatorBackendDmaBuf.allocate2_settled (hp.checked da cs)

/-- and so does a question. -/
theorem Allocator.isSupported_settled {s : Allocator} (hready : isGrallocGbmReady s.proc = true)
    (hp : Settled s.proc) : Settled (s.isSupported cfg env d).2.proc := by
  by_cases hoptions : ∀ o ∈ d.additionalOptions, o = standardMetadataDataspace
  · obtain ⟨da, cs, heq⟩ := isSupported_eq cfg env hready hoptions
    rw [heq]
    cases served cfg env d s <;> exact hp.checked da cs
  · rw [isSupported_denied cfg env hoptions]
    exact hp

/-- A started service is. -/
theorem Allocator.init_settled (hinit : (Allocator.init env).1 = 0) :
    Settled (Allocator.init env).2.proc := by
  have hidle := Allocator.init_idle hinit
  refine ⟨hidle.table, fun bo hbo => (hidle.inv.bo_lt bo hbo).2, hidle.inv.handle_lt, ?_⟩
  show ∀ fd ∈ (grallocGbmInit env { Proc.start with dmaAllocator := true }).2.fds, 0 ≤ fd
  have hstart : ∀ fd ∈ Proc.start.fds, 0 ≤ fd := by decide
  rcases grallocGbmInit_cases env { Proc.start with dmaAllocator := true } with
    ⟨-, hr⟩ | ⟨-, rc, g, n, cs, -, -, hr⟩ | ⟨-, fd, n, cs, h0, -, -, hr⟩
  · rw [hr]
    exact hstart
  · rw [hr]
    exact hstart
  · rw [hr]
    intro fd' hfd'
    rcases Finset.mem_insert.mp hfd' with rfl | hfd'
    · exact h0
    · exact hstart fd' hfd'

/-- **Requests that return leave the service settled**, whatever fails in them. -/
theorem allocatorRun_settled (hinit : (Allocator.init env).1 = 0) {ops : List AllocatorOp}
    (hops : Run.Along (allocatorStep cfg env decode) (Returns cfg env decode)
      (Allocator.init env).2 ops) : Settled (allocatorRun cfg env decode ops).proc := by
  refine (Run.foldl_inv
    (fun s : Allocator => isGrallocGbmReady s.proc = true ∧ Settled s.proc) ?_
    ⟨Allocator.init_ready hinit, Allocator.init_settled hinit⟩ hops).2
  rintro s op ⟨hready, hp⟩ hret
  cases op with
  | allocate encodedDescriptor count =>
    simp only [Returns, allocatorStep, allocatorCall, Allocator.allocate] at hret ⊢
    cases hd : decode encodedDescriptor with
    | none => exact ⟨hready, hp⟩
    | some d =>
      rw [hd] at hret
      exact ⟨Allocator.allocate2_ready cfg env _ count hready,
        Allocator.allocate2_settled hready hp hret⟩
  | allocate2 d count =>
    exact ⟨Allocator.allocate2_ready cfg env d count hready,
      Allocator.allocate2_settled hready hp hret⟩
  | isSupported d =>
    exact ⟨Allocator.isSupported_ready cfg env d hready, Allocator.isSupported_settled hready hp⟩

/-- **All or nothing, of the GBM backend.**  After any requests to a started service, whatever may
    have failed in them: a call gives everything back when one of its iterations fails, exactly if
    the failure is a missing handle, and the log messages before have got no descriptor. -/
theorem grallocGbmAllocate_allOrNothing_iff (cfg : BuildConfig) (env : Env)
    (decode : List UInt8 → Option Allocator.BufferDescriptorInfoV4)
    (hinit : (Allocator.init env).1 = 0) (ops : List AllocatorOp)
    (hops : Run.Along (allocatorStep cfg env decode) (Returns cfg env decode)
      (Allocator.init env).2 ops) (desc : AllocatorDesc) (count : Int32) :
    AllOrNothing cfg env desc count (allocatorRun cfg env decode ops).proc ↔
      LeavesNothing cfg env desc count (allocatorRun cfg env decode ops).proc :=
  allOrNothing_iff (allocatorRun_settled hinit hops)

/-- libgbm creates no objects. -/
def Env.noObjects : Env := { Env.plain with boCreate := fun _ _ _ _ _ => none }

/-- From the `k`-th call on no descriptor is to be had. -/
def Env.scarce (k : Nat) : Env :=
  { Env.plain with
    newFd := fun n fds => if n < k then lowestFd fds else none
    newFd_fresh := by
      intro n fds fd h
      split at h
      · exact Env.plain.newFd_fresh n fds fd h
      · cases h }

/-- After a request that has failed already. -/
theorem second_failure_allOrNothing_iff :
    AllOrNothing .androidBp .noObjects rgbaDesc 2
        (allocatorRun .androidBp .noObjects (fun _ => none) [.allocate2 (rgbaInfo []) 1]).proc ↔
      LeavesNothing .androidBp .noObjects rgbaDesc 2
        (allocatorRun .androidBp .noObjects (fun _ => none) [.allocate2 (rgbaInfo []) 1]).proc :=
  grallocGbmAllocate_allOrNothing_iff .androidBp .noObjects (fun _ => none) rfl
    [.allocate2 (rgbaInfo []) 1] ⟨nofun, trivial⟩ rgbaDesc 2

/-- The first allocation of a started service: without an object its handle stays behind; without a
    descriptor it is no failure. -/
theorem failed_object_keeps_handle :
    ¬ AllOrNothing .androidBp .noObjects rgbaDesc 1
        (allocatorRun .androidBp .noObjects (fun _ => none) []).proc ∧
      ¬ AllOrNothing .androidBp (.scarce 5) rgbaDesc 1
        (allocatorRun .androidBp (.scarce 5) (fun _ => none) []).proc := by
  constructor
  · intro h
    have hfail := h 0 ⟨rfl, by decide, by decide, fun j hj => absurd hj (Nat.not_lt_zero j)⟩ (by decide)
    exact absurd hfail.2.handles (by decide)
  · intro h
    have hfail := h 0 ⟨rfl, by decide, by decide, fun j hj => absurd hj (Nat.not_lt_zero j)⟩ (by decide)
    obtain ⟨e, he⟩ := hfail.1
    cases he

/-- **All or nothing, of the DMA-BUF backend.**  A call gives everything back when the heap fails in
    one of its iterations, exactly if that is the first one, and the handle is missing, too. -/
theorem allocate2_allOrNothing_iff (cfg : BuildConfig) (env : Env)
    (decode : List UInt8 → Option Allocator.BufferDescriptorInfoV4)
    (hinit : (Allocator.init env).1 = 0) (ops : List AllocatorOp)
    (hops : Run.Along (allocatorStep cfg env decode) (Returns cfg env decode)
      (Allocator.init env).2 ops) (d : BufferDescriptorInfo) (count : Int32) :
    AllocatorBackendDmaBuf.AllOrNothing env d count (allocatorRun cfg env decode ops).proc ↔
      AllocatorBackendDmaBuf.LeavesNothing env d count (allocatorRun cfg env decode ops).proc :=
  AllocatorBackendDmaBuf.allOrNothing_iff (allocatorRun_settled hinit hops)

/-- Three BLOBs, with descriptors for the first calls only. -/
theorem blob_allOrNothing_iff :
    AllocatorBackendDmaBuf.AllOrNothing (.scarce 6) (blobInfo 4096 1) 3
        (allocatorRun .androidBp (.scarce 6) (fun _ => none) blobOps).proc ↔
      AllocatorBackendDmaBuf.LeavesNothing (.scarce 6) (blobInfo 4096 1) 3
        (allocatorRun .androidBp (.scarce 6) (fun _ => none) blobOps).proc :=
  allocate2_allOrNothing_iff .androidBp (.scarce 6) (fun _ => none) rfl blobOps
    ⟨nofun, trivial⟩ (blobInfo 4096 1) 3

/-- The heap fails at once: the handle stays behind. -/
theorem failed_heap_keeps_handle :
    ¬ AllocatorBackendDmaBuf.AllOrNothing (.scarce 4) (blobInfo 4096 1) 1
      (allocatorRun .androidBp (.scarce 4) (fun _ => none) []).proc := by
  intro h
  have hfail := h 0 ⟨by decide, by decide, fun j hj => absurd hj (Nat.not_lt_zero j)⟩ (by decide)
  exact absurd hfail.2.1 (by decide)

end

end GrallocGbm
