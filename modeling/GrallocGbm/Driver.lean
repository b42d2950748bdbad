/-
  The life of the driver: `gralloc_gbm_init`, `gralloc_gbm_deinit`, `is_gralloc_gbm_ready` and
  `gralloc_gbm_get` in any order (`common/gralloc_gbm.c`).

  Here `g_driver` is a pointer into the heap, so that a call may find it NULL, find a driver behind
  it, or find the block released.  Three exits of the code release the block, and none of them
  resets the pointer: the two error paths of `gralloc_gbm_init` after its allocation, and
  `gralloc_gbm_deinit`, which does not close the render node either and takes a NULL pointer for a
  driver.  So a sequence of calls is safe exactly if it never comes to one of the three
  (`driverRun_safe_iff`).

  A call that dereferences a NULL or released pointer has no result, and the run stays where it was.
  What a call must do otherwise is `SafeCall`: leave `is_gralloc_gbm_ready` true exactly if the last
  effective call was an `init` that succeeded, and leave nothing open behind a failed `init` or a
  `deinit`.  The proof goes by an invariant, `LifecycleOk`: the pointer is NULL, or there is a ready
  driver behind it with its render node open.  From there

  * a query is safe and changes nothing (`LifecycleOk.query`);
  * a `deinit` is never safe, whatever state it finds (`LifecycleOk.deinit_not_safe`);
  * an `init` is safe exactly if it does not fail after its allocation
  (`LifecycleOk.init_safe_iff`);

  and `LifecycleOk.safe_iff` puts the three together into the step lemma of the run.

  The other modules use the driver through `grallocGbmInit` and `isGrallocGbmReady` of `Buffer`,
  where the pointer is abstracted to `GDriver`; `DriverState.init_onto` is the connection.  There a
  read through the released pointer does not end the run.  It is answered by the environment: the
  block reads as ready or as not ready, and both are followed.
-/
import GrallocGbm.Buffer
import GrallocGbm.Lib.Run

namespace GrallocGbm

/-! ## The state

  Blocks have addresses here, and a pointer may lead to a block that is gone. -/

/-- `gralloc_gbm_driver_t`, less what only log messages read.  A device is named by the number of the
    call that made it. -/
structure GrallocGbmDriver where
  driFd : Int
  gbmDev : Nat
  ready : Bool
  deriving DecidableEq, Repr

/-- The static pointer, and what there is of the blocks it has pointed to. -/
structure DriverState where
  /-- The pointer `g_driver`; `none` is NULL. -/
  gDriver : Option Nat
  /-- The allocated driver blocks, by address. -/
  blocks : Nat → Option GrallocGbmDriver
  /-- The open file descriptors. -/
  fds : Finset Int
  /-- The gbm devices that have not been destroyed. -/
  devices : Finset Nat
  next : Nat
  calls : List ExtCall

/-- A process that has just started. -/
def DriverState.start : DriverState := ⟨none, fun _ => none, {0, 1, 2}, ∅, 1, []⟩

/-! ## The four functions

  A result `none` is a dereference of a NULL or released `g_driver`. -/

namespace DriverState

/-- `g_driver && g_driver->ready`, which is all of `is_gralloc_gbm_ready`. -/
def isGrallocGbmReady (s : DriverState) : Option Bool :=
  match s.gDriver with
  | none => some false
  | some a => (s.blocks a).map GrallocGbmDriver.ready

/-- `gralloc_gbm_init`. -/
def init (env : Env) (s : DriverState) : Option (Int × DriverState) :=
  match s.isGrallocGbmReady with
  | none => none
  | some true => some (0, s)
  | some false =>
    let n := s.calls.length
    if !env.alloc n then
      some (-eNOMEM, { s with gDriver := none, next := s.next + 1, calls := .alloc false :: s.calls })
    else match env.newFd (n + 1) s.fds with
      | none =>
        -- the block is released again, and the pointer stays
        some (-eNODEV, { s with
          gDriver := some s.next
          next := s.next + 1
          calls := .openRenderNode none :: .alloc true :: s.calls })
      | some fd =>
        let calls := .openRenderNode (some fd) :: .alloc true :: s.calls
        if env.createDevice (n + 2) then
          some (0, { s with
            gDriver := some s.next
            blocks := Function.update s.blocks s.next (some ⟨fd, n + 2, true⟩)
            fds := insert fd s.fds
            devices := insert (n + 2) s.devices
            next := s.next + 1
            calls := .createDevice true :: calls })
        else
          -- the render node is closed and the block released, and the pointer stays
          some (-eINVAL, { s with
            gDriver := some s.next
            next := s.next + 1
            calls := .createDevice false :: calls })

/-- `gralloc_gbm_deinit`; a driver that is not ready is only warned about. -/
def deinit (s : DriverState) : Option (Int × DriverState) :=
  match s.gDriver with
  | none => none
  | some a =>
    match s.blocks a with
    | none => none
    | some d =>
      some (0, { s with
        devices := s.devices.erase d.gbmDev
        blocks := Function.update s.blocks a none })

/-- `gralloc_gbm_get`. -/
def get (s : DriverState) : Option (Option Nat) :=
  match s.isGrallocGbmReady with
  | none => none
  | some true => some s.gDriver
  | some false => some none

end DriverState

/-! ## Sequences of calls

  The four functions in any order, with what a caller may expect of each. -/

/-- The entry points of the lifecycle. -/
inductive DriverOp where
  | init
  | deinit
  | isReady
  | get
  deriving DecidableEq, Repr

/-- What a call returns. -/
inductive DriverRet where
  | rc (rc : Int)
  | ready (b : Bool)
  | driver (p : Option Nat)
  deriving DecidableEq, Repr

/-- One call; `none` where it runs into a dangling pointer or NULL. -/
def driverCall (env : Env) (s : DriverState) : DriverOp → Option (DriverRet × DriverState)
  | .init => (s.init env).map fun r => (.rc r.1, r.2)
  | .deinit => s.deinit.map fun r => (.rc r.1, r.2)
  | .isReady => s.isGrallocGbmReady.map fun b => (.ready b, s)
  | .get => s.get.map fun p => (.driver p, s)

/-- A process, and whether the last `init` or `deinit` was an `init` that succeeded. -/
structure Lifecycle where
  state : DriverState
  up : Bool

/-- The library has just been loaded. -/
def Lifecycle.start : Lifecycle := ⟨.start, false⟩

/-- Is the driver up after the call, by its documentation? -/
def upAfter (up : Bool) : DriverOp → DriverRet → Bool
  | .init, r => r == .rc 0
  | .deinit, _ => false
  | _, _ => up

/-- A call that dereferences an invalid pointer ends the process, and the run stays where it was. -/
def lifecycleStep (env : Env) (l : Lifecycle) (op : DriverOp) : Lifecycle :=
  match driverCall env l.state op with
  | none => l
  | some (r, s) => ⟨s, upAfter l.up op r⟩

/-- What a call must do: dereference nothing invalid, leave `is_gralloc_gbm_ready` true exactly if the
    last effective call was a successful `init`, and leave nothing open after a failed `init` or a
    `deinit`. -/
structure SafeCall (env : Env) (l : Lifecycle) (op : DriverOp) (r : DriverRet) (s : DriverState) :
    Prop where
  call : driverCall env l.state op = some (r, s)
  ready : s.isGrallocGbmReady = some (upAfter l.up op r)
  failed : op = .init → r ≠ .rc 0 → s.fds = l.state.fds ∧ s.devices = l.state.devices
  closed : op = .deinit → ∀ a d, l.state.gDriver = some a → l.state.blocks a = some d →
    d.driFd ∉ s.fds ∧ d.gbmDev ∉ s.devices

/-- Every call of the sequence does what it must. -/
def SafeRun (env : Env) (ops : List DriverOp) : Prop :=
  Run.Along (lifecycleStep env) (fun l op => ∃ r s, SafeCall env l op r s) Lifecycle.start ops

/-- Will this `init` fail after it has allocated the driver? -/
def InitReleases (env : Env) (s : DriverState) : Prop :=
  s.isGrallocGbmReady = some false ∧ env.alloc s.calls.length = true ∧
    (env.newFd (s.calls.length + 1) s.fds = none ∨ env.createDevice (s.calls.length + 2) = false)

/-! ## Where the calls are safe

  The state is either without a driver, or with one that works; any other state has gone through
  a failure that leaves the pointer dangling. -/

/-- `g_driver` is NULL, or a ready driver with its render node open. -/
structure LifecycleOk (l : Lifecycle) : Prop where
  fresh : ∀ a, l.state.next ≤ a → l.state.blocks a = none
  driver : (l.state.gDriver = none ∧ l.up = false) ∨
    ∃ a d, l.state.gDriver = some a ∧ l.state.blocks a = some d ∧ d.ready = true ∧
      d.driFd ∈ l.state.fds ∧ l.up = true

/-- Nothing has gone wrong yet. -/
theorem LifecycleOk.start : LifecycleOk Lifecycle.start where
  fresh := fun _ _ => rfl
  driver := .inl ⟨rfl, rfl⟩

section

variable {env : Env} {l : Lifecycle}

/-- In order, `is_gralloc_gbm_ready` tells what the last effective call was. -/
theorem LifecycleOk.ready_eq (h : LifecycleOk l) : l.state.isGrallocGbmReady = some l.up := by
  rcases h.driver with ⟨hnull, hup⟩ | ⟨a, d, hptr, hblock, hready, -, hup⟩
  · simp [DriverState.isGrallocGbmReady, hnull, hup]
  · simp [DriverState.isGrallocGbmReady, hptr, hblock, hready, hup]

/-- Every outcome of an `init` that finds no driver: no memory, a failure that leaves a pointer to a
    released block, or a driver. -/
theorem DriverState.init_cases (env : Env) {s : DriverState} (hready : s.isGrallocGbmReady = some false) :
    (¬ InitReleases env s ∧ ∃ cs, s.init env
      = some (-eNOMEM, { s with gDriver := none, next := s.next + 1, calls := cs })) ∨
    (InitReleases env s ∧ ∃ rc cs, rc ≠ 0 ∧ s.init env
      = some (rc, { s with gDriver := some s.next, next := s.next + 1, calls := cs })) ∨
    (¬ InitReleases env s ∧ ∃ fd dev cs, fd ∉ s.fds ∧ s.init env = some (0, { s with
      gDriver := some s.next
      blocks := Function.update s.blocks s.next (some ⟨fd, dev, true⟩)
      fds := insert fd s.fds
      devices := insert dev s.devices
      next := s.next + 1
      calls := cs })) := by
  cases ha : env.alloc s.calls.length with
  | false =>
    refine .inl ⟨fun hrel => ?_, .alloc false :: s.calls, by simp [init, hready, ha]⟩
    exact absurd (ha.symm.trans hrel.2.1) (by simp)
  | true =>
    refine .inr ?_
    cases hf : env.newFd (s.calls.length + 1) s.fds with
    | none =>
      exact .inl ⟨⟨hready, ha, .inl hf⟩, -eNODEV, .openRenderNode none :: .alloc true :: s.calls,
        by decide, by simp [init, hready, ha, hf]⟩
    | some fd =>
      cases hc : env.createDevice (s.calls.length + 2) with
      | false =>
        exact .inl ⟨⟨hready, ha, .inr hc⟩, -eINVAL,
          .createDevice false :: .openRenderNode (some fd) :: .alloc true :: s.calls,
          by decide, by simp [init, hready, ha, hf, hc]⟩
      | true =>
        refine .inr ⟨fun hrel => ?_, fd, s.calls.length + 2,
          .createDevice true :: .openRenderNode (some fd) :: .alloc true :: s.calls,
          (env.newFd_fresh _ _ _ hf).2, by simp [init, hready, ha, hf, hc]⟩
        rcases hrel.2.2 with hf' | hc'
        · rw [hf] at hf'
          cases hf'
        · rw [hc] at hc'
          cases hc'

/-- A call that neither sets up nor tears down is safe, and changes nothing. -/
theorem LifecycleOk.query (env : Env) (h : LifecycleOk l) {op : DriverOp} (hi : op ≠ .init)
    (hd : op ≠ .deinit) :
    (∃ r, SafeCall env l op r l.state) ∧ lifecycleStep env l op = l := by
  have hready := h.ready_eq
  cases op with
  | init => exact absurd rfl hi
  | deinit => exact absurd rfl hd
  | isReady =>
    have hcall : driverCall env l.state .isReady = some (.ready l.up, l.state) := by
      simp [driverCall, hready]
    refine ⟨⟨.ready l.up, hcall, hready, fun h => ?_, fun h => ?_⟩, ?_⟩
    · cases h
    · cases h
    · rw [lifecycleStep, hcall]
      rfl
  | get =>
    have hcall : driverCall env l.state .get
        = some (.driver (if l.up then l.state.gDriver else none), l.state) := by
      cases hup : l.up <;> simp [driverCall, DriverState.get, hready, hup]
    refine ⟨⟨_, hcall, hready, fun h => ?_, fun h => ?_⟩, ?_⟩
    · cases h
    · cases h
    · rw [lifecycleStep, hcall]
      rfl

/-- A `deinit` is never safe: without a driver it reads through NULL, and of a driver it leaves the
    render node open. -/
theorem LifecycleOk.deinit_not_safe (h : LifecycleOk l) (r : DriverRet) (s : DriverState) :
    ¬ SafeCall env l .deinit r s := by
  intro hsafe
  have hcall := hsafe.call
  rcases h.driver with ⟨hnull, -⟩ | ⟨a, d, hptr, hblock, -, hfd, -⟩
  · simp [driverCall, DriverState.deinit, hnull] at hcall
  · simp only [driverCall, DriverState.deinit, hptr, hblock, Option.map_some, Option.some.injEq,
      Prod.mk.injEq] at hcall
    apply (hsafe.closed rfl a d hptr hblock).1
    rw [← hcall.2]
    exact hfd

/-- An `init` is safe exactly if it does not fail after its allocation, and then keeps the order. -/
theorem LifecycleOk.init_safe_iff (env : Env) (h : LifecycleOk l) :
    ((∃ r s, SafeCall env l .init r s) ↔ ¬ InitReleases env l.state) ∧
      (¬ InitReleases env l.state → LifecycleOk (lifecycleStep env l .init)) := by
  have hready := h.ready_eq
  cases hup : l.up with
  | true =>
    -- nothing to do
    rw [hup] at hready
    have hcall : driverCall env l.state .init = some (.rc 0, l.state) := by
      simp [driverCall, DriverState.init, hready]
    have hno : ¬ InitReleases env l.state := by
      intro hrel
      rw [hrel.1] at hready
      cases hready
    refine ⟨iff_of_true ⟨.rc 0, l.state, hcall, hready, fun _ hne => absurd rfl hne, fun h => ?_⟩ hno,
      fun _ => ?_⟩
    · cases h
    · rw [lifecycleStep, hcall]
      exact ⟨h.fresh, h.driver.imp (fun h => absurd (hup.symm.trans h.2) (by simp))
        fun ⟨a, d, h1, h2, h3, h4, _⟩ => ⟨a, d, h1, h2, h3, h4, rfl⟩⟩
  | false =>
    rw [hup] at hready
    rcases DriverState.init_cases env hready with
      ⟨hno, cs, hr⟩ | ⟨hrel, rc, cs, hrc, hr⟩ | ⟨hno, fd, dev, cs, hfd, hr⟩
    · have hcall : driverCall env l.state .init = some (.rc (-eNOMEM), { l.state with
          gDriver := none, next := l.state.next + 1, calls := cs }) := by
        rw [driverCall, hr]
        rfl
      refine ⟨iff_of_true ⟨_, _, hcall, rfl, fun _ _ => ⟨rfl, rfl⟩, fun h => ?_⟩ hno, fun _ => ?_⟩
      · cases h
      · rw [lifecycleStep, hcall]
        exact ⟨fun a ha => h.fresh a (Nat.le_of_succ_le ha), .inl ⟨rfl, rfl⟩⟩
    · have hcall : driverCall env l.state .init = some (.rc rc, { l.state with
          gDriver := some l.state.next, next := l.state.next + 1, calls := cs }) := by
        rw [driverCall, hr]
        rfl
      refine ⟨iff_of_false ?_ (fun hno => hno hrel), fun hno => absurd hrel hno⟩
      -- the block behind the pointer is not there, so that nobody can tell whether it is ready
      rintro ⟨r, s, hsafe⟩
      have heq := hsafe.call
      rw [hcall, Option.some.injEq, Prod.mk.injEq] at heq
      have hr := hsafe.ready
      rw [← heq.2] at hr
      simp [DriverState.isGrallocGbmReady, h.fresh l.state.next (le_refl _)] at hr
    · have hcall : driverCall env l.state .init = some (.rc 0, { l.state with
          gDriver := some l.state.next
          blocks := Function.update l.state.blocks l.state.next (some ⟨fd, dev, true⟩)
          fds := insert fd l.state.fds
          devices := insert dev l.state.devices
          next := l.state.next + 1
          calls := cs }) := by
        rw [driverCall, hr]
        rfl
      refine ⟨iff_of_true ⟨_, _, hcall, ?_, fun _ hne => absurd rfl hne, fun h => ?_⟩ hno,
        fun _ => ?_⟩
      · simp [DriverState.isGrallocGbmReady, upAfter]
      · cases h
      · rw [lifecycleStep, hcall]
        constructor
        case fresh =>
          intro a ha
          have hne : a ≠ l.state.next := Nat.ne_of_gt ha
          show Function.update l.state.blocks l.state.next _ a = none
          rw [Function.update_of_ne hne]
          exact h.fresh a (Nat.le_of_succ_le ha)
        case driver =>
          exact .inr ⟨l.state.next, ⟨fd, dev, true⟩, rfl, Function.update_self .., rfl,
            Finset.mem_insert_self .., rfl⟩

/-- **The step lemma**: in order, a call is safe exactly if it is no `deinit` and no `init` that
    releases the driver again, and a safe call keeps the order. -/
theorem LifecycleOk.safe_iff (h : LifecycleOk l) (op : DriverOp) :
    ((∃ r s, SafeCall env l op r s) ↔
        op ≠ .deinit ∧ ¬ (op = .init ∧ InitReleases env l.state)) ∧
      ((∃ r s, SafeCall env l op r s) → LifecycleOk (lifecycleStep env l op)) := by
  cases op with
  | init =>
    obtain ⟨hiff, hkeep⟩ := LifecycleOk.init_safe_iff env h
    exact ⟨by simpa using hiff, fun hsafe => hkeep (hiff.mp hsafe)⟩
  | deinit =>
    have hno : ¬ ∃ r s, SafeCall env l .deinit r s := by
      rintro ⟨r, s, hsafe⟩
      exact h.deinit_not_safe r s hsafe
    exact ⟨iff_of_false hno (fun hop => hop.1 rfl), fun hsafe => absurd hsafe hno⟩
  | isReady =>
    obtain ⟨⟨r, hsafe⟩, hsame⟩ := LifecycleOk.query env h (by decide : DriverOp.isReady ≠ .init) (by decide)
    exact ⟨iff_of_true ⟨r, _, hsafe⟩ (by simp), fun _ => by rw [hsame]; exact h⟩
  | get =>
    obtain ⟨⟨r, hsafe⟩, hsame⟩ := LifecycleOk.query env h (by decide : DriverOp.get ≠ .init) (by decide)
    exact ⟨iff_of_true ⟨r, _, hsafe⟩ (by simp), fun _ => by rw [hsame]; exact h⟩

end

/-- **Where the driver's life is safe.**  However the outside answers, every call of a sequence does
    what it must exactly if none of them is a `deinit`, and no `init` fails after its allocation. -/
theorem driverRun_safe_iff (env : Env) (ops : List DriverOp) :
    SafeRun env ops ↔
      Run.Along (lifecycleStep env)
        (fun l op => op ≠ .deinit ∧ ¬ (op = .init ∧ InitReleases env l.state)) Lifecycle.start ops :=
  Run.along_iff LifecycleOk (fun _ op h _ hsafe => (h.safe_iff op).2 hsafe)
    (fun _ op h _ => (h.safe_iff op).1) LifecycleOk.start Run.along_true

/-- Everything succeeds but `gbm_create_device`. -/
def Env.noDevice : Env := { Env.plain with createDevice := fun _ => false }

/-- After an `init` that fails, and after a `deinit`, the next call reads a released block; and the
    `deinit` leaves the render node open. -/
theorem released_driver_dangles :
    (∃ s, driverCall .noDevice .start .init = some (.rc (-eINVAL), s) ∧
      driverCall .noDevice s .isReady = none ∧ ¬ SafeRun .noDevice [.init, .isReady]) ∧
    ∃ s s', driverCall .plain .start .init = some (.rc 0, s) ∧
      driverCall .plain s .deinit = some (.rc 0, s') ∧
      s.fds = {0, 1, 2, 3} ∧ s'.fds = {0, 1, 2, 3} ∧ driverCall .plain s' .isReady = none ∧
      ¬ SafeRun .plain [.init, .deinit] := by
  refine ⟨⟨_, rfl, rfl, ?_⟩, _, _, rfl, rfl, by decide, by decide, rfl, ?_⟩
  · rintro ⟨hinit, -⟩
    exact ((LifecycleOk.start.safe_iff .init).1.mp hinit).2 ⟨rfl, rfl, rfl, .inr rfl⟩
  · rintro ⟨hinit, ⟨r, s, hsafe⟩, -⟩
    exact ((LifecycleOk.start.safe_iff .init).2 hinit).deinit_not_safe r s hsafe

/-! ## The driver of the other modules

  They have the value that the pointer amounts to; this is how it is computed from the blocks. -/

/-- What the other modules know of the pointer: the node of a driver, or what a released block reads
    as its `ready`. -/
def DriverState.abs (env : Env) (s : DriverState) : GDriver :=
  match s.gDriver with
  | none => .null
  | some a =>
    match s.blocks a with
    | none => .released (readyOfReleased env a)
    | some d => .live d.driFd

/-- A process whose driver is that of `s`. -/
def DriverState.onto (env : Env) (s : DriverState) (p : Proc) : Proc :=
  { p with gDriver := s.abs env, fds := s.fds, next := s.next, calls := s.calls }

/-- The two tests of readiness agree wherever the first one dereferences nothing invalid. -/
theorem DriverState.isGrallocGbmReady_onto (env : Env) {s : DriverState} {b : Bool} (p : Proc)
    (hblocks : ∀ a d, s.blocks a = some d → d.ready = true)
    (h : s.isGrallocGbmReady = some b) : GrallocGbm.isGrallocGbmReady (s.onto env p) = b := by
  unfold isGrallocGbmReady at h
  unfold GrallocGbm.isGrallocGbmReady
  rw [show (s.onto env p).gDriver = s.abs env from rfl, abs]
  cases hptr : s.gDriver with
  | none =>
    rw [hptr] at h
    exact Option.some.inj h
  | some a =>
    rw [hptr] at h
    cases hblock : s.blocks a with
    | none =>
      simp only [hblock] at h
      cases h
    | some d =>
      simp only [hblock, Option.map_some, Option.some.injEq] at h ⊢
      rw [← h, hblocks a d hblock]

/-- **`init` is `gralloc_gbm_init` of the other modules**, from every state in which it dereferences
    nothing invalid: the same result, and the same state behind the abstraction. -/
theorem DriverState.init_onto (env : Env) {s s' : DriverState} {rc : Int} (p : Proc)
    (hblocks : ∀ a d, s.blocks a = some d → d.ready = true) (hfresh : s.blocks s.next = none)
    (h : s.init env = some (rc, s')) : grallocGbmInit env (s.onto env p) = (rc, s'.onto env p) := by
  cases hb : s.isGrallocGbmReady with
  | none => simp [init, hb] at h
  | some b =>
    have hready := isGrallocGbmReady_onto env p hblocks hb
    unfold init at h
    simp only [hb] at h
    cases b with
    | true =>
      obtain ⟨rfl, rfl⟩ := Prod.mk.inj (Option.some.inj h)
      rw [grallocGbmInit, if_pos hready]
    | false =>
      have hno : ¬ GrallocGbm.isGrallocGbmReady (s.onto env p) = true := by simp [hready]
      rw [grallocGbmInit, if_neg hno]
      cases ha : env.alloc s.calls.length with
      | false =>
        simp only [ha, Bool.not_false, if_true, Option.some.injEq, Prod.mk.injEq] at h
        obtain ⟨rfl, rfl⟩ := h
        simp [callocChecked, onto, ha, abs]
      | true =>
        simp only [ha, Bool.not_true, Bool.false_eq_true, if_false] at h
        cases hf : env.newFd (s.calls.length + 1) s.fds with
        | none =>
          simp only [hf, Option.some.injEq, Prod.mk.injEq] at h
          obtain ⟨rfl, rfl⟩ := h
          simp [callocChecked, openFd, onto, ha, hf, addFd, abs, hfresh]
        | some fd =>
          have hnew := (env.newFd_fresh _ _ _ hf).2
          simp only [hf] at h
          cases hc : env.createDevice (s.calls.length + 2) with
          | false =>
            simp only [hc, Bool.false_eq_true, if_false, Option.some.injEq, Prod.mk.injEq] at h
            obtain ⟨rfl, rfl⟩ := h
            simp [callocChecked, openFd, onto, ha, hf, hc, addFd, abs, hfresh,
              closeFd, Finset.erase_insert hnew]
          | true =>
            simp only [hc, if_true, Option.some.injEq, Prod.mk.injEq] at h
            obtain ⟨rfl, rfl⟩ := h
            simp [callocChecked, openFd, onto, ha, hf, hc, addFd, abs]

end GrallocGbm
