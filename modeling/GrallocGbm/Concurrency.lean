/-
  Concurrent calls on one mapper, and on one allocator.

  Both keep the backend of a call in a member: `selectBackend` writes `mBackend`, `CHECK_BACKEND()`
  reads it up to three times, and the call runs its operation through it at the end.  With one call
  at a time that is the call as the other modules have it (`mapperService_serve`,
  `allocatorService_serve`).  The allocator's service runs several binder threads, and nothing locks
  the member; what each call runs on then depends on the order of the steps.

  1. **The machine** — `Shared.Service`, with the two services as its instances.  A call takes five
     steps: it selects, sees that the member is set, asks the backend whether it is ready, readies
     it if not, and runs its operation.  A step is atomic, an assignment to the member among them;
     in the source that is an unsynchronised `shared_ptr`, so that more can go wrong than is shown
     here.

  2. **Alone** — five steps that nobody interrupts are the step of the sequential model.  This is
     what makes the machine one of the same program.

  3. **Among others** — `requests_served` says in which orders every operation runs on the backend
     of its own call: those in which no `selectBackend` leaves in the member anything but the choice
     of every call under way.  In particular calls that choose alike may overlap in any way.

  4. **The other way** — `selectBackend_misroutes`: one selection between the checks of another call
     and its dispatch is enough, if it is routed to the other backend.

  The steps of the backends themselves are not interleaved: an operation is one step.
-/
import GrallocGbm.Balance
import GrallocGbm.Lib.SharedChoice
import GrallocGbm.Selection
import Mathlib.Data.Fintype.Basic

namespace GrallocGbm

/-! ## Calls of the mapper

  A call is cut into its steps: selection, the three looks of `CHECK_BACKEND()`, dispatch. -/

/-- The handle a call gives to `selectBackend`, if it comes to that. -/
def MapperOp.routed : MapperOp → Option NativeHandle
  | .buffer op => op.routed
  | .getStandardMetadata handle _ => handle
  | .setStandardMetadata handle _ _ => handle

/-- A call that comes to `selectBackend`. -/
structure MapperCall where
  op : MapperOp
  buffer : NativeHandle
  routed : op.routed = some buffer

/-- What a call does on `buffer` once the backend is ready. -/
def mapperDispatch (cfg : BuildConfig) (env : Env) (buffer : NativeHandle) (op : MapperOp)
    (backend : MapperBackendType) (p : Proc) : Proc :=
  match op with
  | .buffer (.importBuffer _) => (importClone cfg env buffer backend p).2
  | .buffer (.freeBuffer _) =>
    match backend with
    | .mapperGrallocGbm => (grallocGbmAndroidBufferFree buffer p).2
    | .mapperGrallocDmabuf => (MapperBackendDmaBuf.freeBuffer env buffer p).2
  | .buffer (.lock _ cpuUsage) =>
    match backend with
    | .mapperGrallocGbm => (grallocGbmAndroidBufferLock env buffer cpuUsage.toUInt32 p).2.2
    | .mapperGrallocDmabuf => (MapperBackendDmaBuf.lock env buffer cpuUsage p).2.2
  | .buffer (.unlock _) =>
    match backend with
    | .mapperGrallocGbm => (grallocGbmAndroidBufferUnlock buffer p).2
    | .mapperGrallocDmabuf => (MapperBackendDmaBuf.unlock buffer p).2
  | .getStandardMetadata _ type =>
    match backend with
    | .mapperGrallocGbm => (MapperBackendGrallocGbm.getStandardMetadata env buffer type p).2.2
    | .mapperGrallocDmabuf => (MapperBackendDmaBuf.getStandardMetadata env buffer type p).2.2
  | .setStandardMetadata _ type metadata =>
    match callocChecked env p with
    | (none, p) => p
    | (some a, p) =>
      match stageMetadata type metadata { p with heap := insert a p.heap } with
      | (none, p) => p
      | (some data, p) =>
        match backend with
        | .mapperGrallocGbm => (MapperBackendGrallocGbm.setStandardMetadata buffer type data p).2
        | .mapperGrallocDmabuf => p

/-- The mapper as a service of concurrent calls. -/
def mapperService (cfg : BuildConfig) (env : Env) :
    Shared.Service Proc MapperBackendType MapperCall where
  choose := fun call _ => some (routedTo (grallocHandle call.buffer))
  isReady := MapperBackendType.isReady env
  init := fun backend p =>
    let (rc, p) := backend.init env p
    (rc == 0, p)
  op := fun call => mapperDispatch cfg env call.buffer call.op

/-- A call through `withBackend` is the service's, if its rest is the call's dispatch. -/
theorem withBackend_serve {cfg : BuildConfig} {env : Env} {α : Type} {m : Mapper} {noResources : α}
    {k : MapperBackendType → Proc → α × Proc} (call : MapperCall)
    (hk : ∀ backend p, (k backend p).2 = mapperDispatch cfg env call.buffer call.op backend p) :
    let m' := (m.withBackend env call.buffer noResources k).2
    (mapperService cfg env).serve call (m.proc, m.mBackend) = (m'.proc, m'.mBackend) := by
  have hserve : (mapperService cfg env).serve call (m.proc, m.mBackend)
      = ((if ((routedTo (grallocHandle call.buffer)).ensureReady env m.proc).1
          then mapperDispatch cfg env call.buffer call.op (routedTo (grallocHandle call.buffer))
            ((routedTo (grallocHandle call.buffer)).ensureReady env m.proc).2
          else ((routedTo (grallocHandle call.buffer)).ensureReady env m.proc).2),
        some (routedTo (grallocHandle call.buffer))) := by
    simp only [Shared.Service.serve, mapperService, Shared.written, Option.some_or]
    generalize routedTo (grallocHandle call.buffer) = backend
    cases hr : backend.isReady env m.proc with
    | mk ok p =>
      cases ok with
      | true =>
        have hensure : backend.ensureReady env m.proc = (true, p) := by
          rw [MapperBackendType.ensureReady, hr]
        simp [hensure]
      | false =>
        have hensure : backend.ensureReady env m.proc
            = ((backend.init env p).1 == 0, (backend.init env p).2) := by
          rw [MapperBackendType.ensureReady, hr]
        rw [hensure]
        by_cases h0 : ((backend.init env p).1 == 0) = true
        · simp only [h0, if_true]
        · simp only [Bool.not_eq_true] at h0
          simp only [h0, Bool.false_eq_true, if_false]
  rw [hserve]
  cases hok : ((routedTo (grallocHandle call.buffer)).ensureReady env m.proc).1 with
  | true =>
    rw [Mapper.withBackend_ready hok]
    simp [hk]
  | false =>
    rw [Mapper.withBackend_failed hok]
    simp

/-- **A call alone is the mapper's step.** -/
theorem mapperService_serve (cfg : BuildConfig) (env : Env) (m : Mapper) (call : MapperCall) :
    let m' := mapperStep cfg env m call.op
    (mapperService cfg env).serve call (m.proc, m.mBackend) = (m'.proc, m'.mBackend) := by
  obtain ⟨op, buffer, hrouted⟩ := call
  cases op with
  | buffer op =>
    cases op with
    | importBuffer handle =>
      obtain ⟨rfl, h0⟩ := Option.filter_eq_some_iff.mp hrouted
      have himport : m.importBuffer cfg env (some buffer)
          = m.withBackend env buffer (.noResources, none) (importClone cfg env buffer) :=
        if_neg (by simpa using h0)
      simp only [mapperStep, bufferStep, himport]
      exact withBackend_serve _ fun _ _ => rfl
    | freeBuffer handle =>
      cases hrouted
      refine withBackend_serve _ fun backend p => ?_
      cases backend <;> rfl
    | lock handle cpuUsage =>
      by_cases h0 : cpuUsage = 0
      · simp [MapperOp.routed, BufferOp.routed, h0] at hrouted
      · have hhandle : handle = some buffer := by
          simpa [MapperOp.routed, BufferOp.routed, h0] using hrouted
        subst hhandle
        simp only [mapperStep, bufferStep, Mapper.lock, if_neg h0]
        refine withBackend_serve _ fun backend p => ?_
        cases backend <;> rfl
    | unlock handle =>
      cases hrouted
      refine withBackend_serve _ fun backend p => ?_
      cases backend <;> rfl
  | getStandardMetadata handle type =>
    cases hrouted
    refine withBackend_serve _ fun backend p => ?_
    cases backend
    · simp only [mapperDispatch]
      split <;> rfl
    · simp only [mapperDispatch]
      split <;> rfl
  | setStandardMetadata handle type metadata =>
    cases hrouted
    refine withBackend_serve _ fun backend p => ?_
    simp only [mapperDispatch]
    cases callocChecked env p with
    | mk a p =>
      cases a with
      | none => rfl
      | some a =>
        dsimp only
        cases stageMetadata type metadata { p with heap := insert a p.heap } with
        | mk data p =>
          cases data with
          | none => rfl
          | some data =>
            cases backend with
            | mapperGrallocDmabuf => rfl
            | mapperGrallocGbm =>
              dsimp only
              split <;> rename_i heq <;> rw [heq]

/-! ## Calls of the allocator

  The same for the service, whose selection may leave the member as it was. -/

/-- The descriptor a request gives to `selectBackend`, if it comes to that. -/
def AllocatorOp.selecting (decode : List UInt8 → Option Allocator.BufferDescriptorInfoV4) :
    AllocatorOp → Option BufferDescriptorInfo
  | .allocate encodedDescriptor _ => (decode encodedDescriptor).map fun d => d.toInfo
  | .allocate2 descriptor _ => some descriptor
  | .isSupported descriptor =>
    if descriptor.additionalOptions.any (· != Allocator.standardMetadataDataspace) then none
    else some descriptor

/-- A request that comes to `selectBackend`. -/
structure AllocatorCall (decode : List UInt8 → Option Allocator.BufferDescriptorInfoV4) where
  op : AllocatorOp
  descriptor : BufferDescriptorInfo
  selecting : op.selecting decode = some descriptor

/-- The backend `GrallocGenericAllocatorV2::selectBackend` puts into the member, if any. -/
def selectedBackend (cfg : BuildConfig) (env : Env) (descriptor : BufferDescriptorInfo) (p : Proc) :
    Option AllocatorBackendType :=
  if AllocatorBackendGrallocGbm.isSupported cfg env descriptor p = .ok true then
    some .allocatorGrallocGbm
  else if AllocatorBackendDmaBuf.isSupported descriptor = .ok true then some .allocatorGrallocDmabuf
  else none

/-- What a request does on its descriptor once the backend is ready. -/
def allocatorDispatch (cfg : BuildConfig) (env : Env) (descriptor : BufferDescriptorInfo)
    (op : AllocatorOp) (backend : AllocatorBackendType) (p : Proc) : Proc :=
  match op with
  | .allocate _ count => (backend.allocate2 cfg env descriptor count p).2
  | .allocate2 _ count => (backend.allocate2 cfg env descriptor count p).2
  | .isSupported _ => p

/-- The allocator as a service of concurrent requests. -/
def allocatorService (cfg : BuildConfig) (env : Env)
    (decode : List UInt8 → Option Allocator.BufferDescriptorInfoV4) :
    Shared.Service Proc AllocatorBackendType (AllocatorCall decode) where
  choose := fun call p => selectedBackend cfg env call.descriptor p
  isReady := AllocatorBackendType.isReady env
  init := fun backend p =>
    let (rc, p) := backend.init env p
    (rc == 0, p)
  op := fun call => allocatorDispatch cfg env call.descriptor call.op

/-- The selection of the allocator writes the backend that supports the descriptor, or nothing. -/
theorem selectBackend_eq (cfg : BuildConfig) (env : Env) (descriptor : BufferDescriptorInfo)
    (s : Allocator) :
    (s.selectBackend cfg env descriptor).2
      = ⟨s.proc, Shared.written (selectedBackend cfg env descriptor s.proc) s.mBackend⟩ := by
  unfold Allocator.selectBackend selectedBackend Shared.written
  split
  · rfl
  · split
    · rfl
    · rfl

/-- **A request alone is the allocator's step.** -/
theorem allocatorService_serve (cfg : BuildConfig) (env : Env)
    (decode : List UInt8 → Option Allocator.BufferDescriptorInfoV4) (s : Allocator)
    (call : AllocatorCall decode) :
    let s' := allocatorStep cfg env decode s call.op
    (allocatorService cfg env decode).serve call (s.proc, s.mBackend) = (s'.proc, s'.mBackend) := by
  obtain ⟨op, descriptor, hselecting⟩ := call
  -- every request is the check, and its dispatch on the backend that the check has found
  have hstep : allocatorStep cfg env decode s op =
      let r := (s.selectBackend cfg env descriptor).2.checkBackend env
      r.1.elim r.2 fun backend =>
        { r.2 with proc := allocatorDispatch cfg env descriptor op backend r.2.proc } := by
    cases op with
    | allocate encodedDescriptor count =>
      obtain ⟨d, hd, rfl⟩ := Option.map_eq_some_iff.mp hselecting
      simp only [allocatorStep, allocatorCall, Allocator.allocate, hd, Allocator.allocate2]
      cases (s.selectBackend cfg env d.toInfo).2.checkBackend env with
      | mk backend s' => cases backend <;> rfl
    | allocate2 d count =>
      cases hselecting
      simp only [allocatorStep, allocatorCall, Allocator.allocate2]
      cases (s.selectBackend cfg env descriptor).2.checkBackend env with
      | mk backend s' => cases backend <;> rfl
    | isSupported d =>
      simp only [AllocatorOp.selecting] at hselecting
      split at hselecting
      · cases hselecting
      · rename_i hopt
        cases hselecting
        simp only [allocatorStep, allocatorCall, Allocator.isSupported, if_neg hopt]
        cases (s.selectBackend cfg env descriptor).2.checkBackend env with
        | mk backend s' => cases backend <;> rfl
  simp only [hstep, selectBackend_eq, Allocator.checkBackend, Shared.Service.serve,
    allocatorService]
  cases Shared.written (selectedBackend cfg env descriptor s.proc) s.mBackend with
  | none => rfl
  | some backend =>
    dsimp only
    cases backend.isReady env s.proc with
    | mk ok p =>
      cases ok with
      | true => rfl
      | false =>
        dsimp only
        by_cases h0 : (backend.init env p).1 = 0
        · simp [h0]
        · have hbeq : ((backend.init env p).1 == 0) = false := by simpa using h0
          simp only [hbeq, h0, if_false, Option.elim_none]

/-! ## Who serves whom

  Orders in which each call is served by the backend of its own selection, and one in which it
  is not. -/

/-- **Where every request is served by its own backend.**  Any number of calls on one mapper, or of
    requests to one allocator, take their steps in any order: if no `selectBackend` leaves in the
    member anything but the choice of every call under way, its own included, then every operation
    that was run was run on the backend that its own `selectBackend` chose. -/
theorem requests_served (cfg : BuildConfig) (env : Env) :
    (∀ {T : Type} [DecidableEq T] (call : T → MapperCall) (m : Mapper) (order : List T),
      let start := Shared.State.start m.proc m.mBackend
      let step := Shared.step (mapperService cfg env) call
      Run.Along step (Shared.Undisturbed (mapperService cfg env) call) start order →
        Shared.Served (order.foldl step start)) ∧
    ∀ decode {T : Type} [DecidableEq T] (call : T → AllocatorCall decode) (s : Allocator)
      (order : List T),
      let start := Shared.State.start s.proc s.mBackend
      let step := Shared.step (allocatorService cfg env decode) call
      Run.Along step (Shared.Undisturbed (allocatorService cfg env decode) call) start order →
        Shared.Served (order.foldl step start) := by
  constructor
  · intro T _ call m order start step halong
    exact Shared.served_of_undisturbed (.start m.proc m.mBackend) halong
  · intro decode T _ call s order start step halong
    exact Shared.served_of_undisturbed (.start s.proc s.mBackend) halong

/-- An import of a BLOB of height 1, and an import of an RGBA_8888 buffer. -/
def twoImports : Fin 2 → MapperCall
  | 0 => ⟨.buffer (.importBuffer (some (blobHandle 5))), blobHandle 5, rfl⟩
  | 1 => ⟨.buffer (.importBuffer (some (rgbaHandle 5))), rgbaHandle 5, rfl⟩

/-- Imports of two RGBA_8888 buffers. -/
def alikeImports : Fin 2 → MapperCall :=
  fun t => ⟨.buffer (.importBuffer (some (rgbaHandle (5 + t)))), rgbaHandle (5 + t), rfl⟩

/-- Questions about two BLOBs of height 1. -/
def twoQuestions : Fin 2 → AllocatorCall fun _ => none
  | 0 => ⟨.isSupported (blobInfo 4096 1), blobInfo 4096 1, rfl⟩
  | 1 => ⟨.isSupported (blobInfo 8192 1), blobInfo 8192 1, rfl⟩

/-- Two imports of the same routing take their steps in turn, each selecting while the other is under
    way, and so do two questions. -/
theorem twoImports_served :
    Shared.Served ([0, 1, 1, 0, 0, 1, 0, 1, 1, 0].foldl
      (Shared.step (mapperService .androidBp .plain) alikeImports) (.start Proc.start none)) ∧
    Shared.Served ([0, 1, 0, 1, 1, 0, 0, 1, 1, 0].foldl
      (Shared.step (allocatorService .androidBp .plain fun _ => none) twoQuestions)
      (.start Proc.ready none)) := by
  constructor
  · exact (requests_served .androidBp .plain).1 alikeImports Mapper.start
      [0, 1, 1, 0, 0, 1, 0, 1, 1, 0] (by decide)
  · exact (requests_served .androidBp .plain).2 (fun _ => none) twoQuestions ⟨Proc.ready, none⟩
      [0, 1, 0, 1, 1, 0, 0, 1, 1, 0] (by decide)

/-- **One `selectBackend` between the checks of another call and its dispatch is enough**, if it is
    routed to the other backend. -/
theorem selectBackend_misroutes (cfg : BuildConfig) (env : Env) {T : Type} [DecidableEq T]
    (call : T → MapperCall) {s : Shared.State Proc MapperBackendType T} {t t' : T}
    {chosen : MapperBackendType} (ht : s.pc t = .start) (ht' : s.pc t' = .dispatch (some chosen))
    (hother : routedTo (grallocHandle (call t).buffer) ≠ chosen) :
    ¬ Shared.Served ([t, t'].foldl (Shared.step (mapperService cfg env) call) s) := by
  have hne : t' ≠ t := by
    rintro rfl
    rw [ht] at ht'
    cases ht'
  apply Shared.not_served_of_overwritten ht rfl hne ht'
  intro hsame
  apply hother
  exact (Option.some.inj hsame).symm

/-- The second import selects its backend while the first is under way, and the BLOB is imported into
    the GBM backend. -/
theorem blob_served_by_gbm :
    let s := [0, 1, 0, 0, 0, 0].foldl (Shared.step (mapperService .androidBp .plain) twoImports)
      (.start Proc.start none)
    s.pc 0 = .done (some .mapperGrallocDmabuf) (some .mapperGrallocGbm) ∧
      s.state.table.length = 1 ∧ s.state.importedBufferTable = [] ∧ ¬ Shared.Served s := by
  refine ⟨by decide, by decide, by decide, fun hserved => ?_⟩
  have heq := hserved 0 (some .mapperGrallocDmabuf) .mapperGrallocGbm (by decide)
  cases heq

end GrallocGbm
