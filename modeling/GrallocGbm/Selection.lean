/-
  Which backend serves a request to the allocator.

  A descriptor is selectable if one of the backends supports it; the GBM backend refuses BLOBs and
  the DMA-BUF backend everything else, so it is never both (`ownerOf`).  A selectable descriptor
  goes to its owner, any other to whichever backend served last (`served`).  That is all a request
  depends on (`allocate2_eq`, `isSupported_eq`), once the service has started: the driver is ready
  then, and no request changes that (`allocatorRun_ready`).

      selectBackend(descriptor);                  // the result is ignored
      CHECK_BACKEND();
      return mBackend->allocate2(descriptor, count, outResult);

  A run of the service is a list of requests (`AllocatorOp`) after `init`.  A descriptor comes as a
  structure or as bytes: `decode` is the platform's decoding of a version 4 descriptor, any
  function, of which nothing is assumed.

  What remains of the member `mBackend` shows where the two entry points part: `allocate2` takes
  descriptors that `isSupported` denies (`isSupported_gates_iff`).

  (A chain of lemmas named `_gDriver` says of every function on the way that it leaves the driver as
  it is.)
-/
import GrallocGbm.Allocator
import GrallocGbm.Effects
import GrallocGbm.Lib.Run

namespace GrallocGbm

/-! ## The machine -/

/-- A request. -/
inductive AllocatorOp where
  | allocate (encodedDescriptor : List UInt8) (count : Int32)
  | allocate2 (descriptor : BufferDescriptorInfo) (count : Int32)
  | isSupported (descriptor : BufferDescriptorInfo)

/-- The status of a request, and the service after it. -/
def allocatorCall (cfg : BuildConfig) (env : Env)
    (decode : List UInt8 → Option Allocator.BufferDescriptorInfoV4) (s : Allocator) :
    AllocatorOp → Status Unit × Allocator
  | .allocate encodedDescriptor count =>
    let (r, s) := s.allocate cfg env decode encodedDescriptor count
    (r.code, s)
  | .allocate2 descriptor count =>
    let (r, s) := s.allocate2 cfg env descriptor count
    (r.code, s)
  | .isSupported descriptor =>
    let (r, s) := s.isSupported cfg env descriptor
    (r.code, s)

/-- The state after a request. -/
def allocatorStep (cfg : BuildConfig) (env : Env)
    (decode : List UInt8 → Option Allocator.BufferDescriptorInfoV4) (s : Allocator)
    (op : AllocatorOp) : Allocator :=
  (allocatorCall cfg env decode s op).2

/-- The service after a sequence of requests. -/
def allocatorRun (cfg : BuildConfig) (env : Env)
    (decode : List UInt8 → Option Allocator.BufferDescriptorInfoV4) (ops : List AllocatorOp) :
    Allocator :=
  ops.foldl (allocatorStep cfg env decode) (Allocator.init env).2

/-- A BLOB of the given width and height. -/
def blobInfo (width height : Int32) : BufferDescriptorInfo :=
  ⟨width, height, 1, pixelFormatBlob, 0x33, 0, []⟩

/-- A request for a BLOB of height 1, which leaves the DMA-BUF backend behind. -/
def blobOps : List AllocatorOp := [.isSupported (blobInfo 4096 1)]

/-! ## The driver stays as it is

  Nothing that a request does writes to `g_driver`; function by function. -/

section

variable (cfg : BuildConfig) (env : Env)

/-- Making a buffer leaves the driver as it is; so do all steps of a request. -/
theorem grallocGbmAndroidBufferNew_gDriver (desc : AllocatorDesc) (p : Proc) :
    (grallocGbmAndroidBufferNew cfg env desc p).2.gDriver = p.gDriver := by
  rcases grallocGbmAndroidBufferNew_cases cfg env desc p with
    ⟨rc, -, h⟩ | ⟨rc, -, -, h⟩ | ⟨rc, -, -, -, h⟩ |
    ⟨layout, fd, -, -, -, -, ⟨rc, -, h⟩ | ⟨logFd, -, -, h⟩⟩ <;> rw [h]

/-- Duplicating descriptors. -/
theorem dupEach_gDriver (l : List Int) (p : Proc) : (dupEach env l p).2.gDriver = p.gDriver := by
  induction l generalizing p with
  | nil => rfl
  | cons fd l ih =>
    refine (ih (dupFd env fd p).2).trans ?_
    rw [dupFd_snd]

/-- Duplicating a handle. -/
theorem dupToAidl_gDriver (h : NativeHandle) (p : Proc) :
    (dupToAidl env h p).2.gDriver = p.gDriver :=
  dupEach_gDriver env h.fds p

namespace AllocatorBackendGrallocGbm

/-- Giving a handle back. -/
theorem releaseHandle_gDriver (h : NativeHandle) (p : Proc) :
    (releaseHandle h p).2.gDriver = p.gDriver := by
  unfold releaseHandle
  rcases grallocGbmAndroidBufferFree_cases h p with
    ⟨-, hf⟩ | ⟨-, -, hf⟩ | ⟨e, -, -, -, hf⟩ | ⟨e, b, -, -, -, hf⟩ <;> rw [hf]
  · rfl
  · rfl
  · obtain ⟨heap, hd⟩ := gbmBoDestroy_eq e.bo b p
    rw [hd]
    rfl

/-- Giving a whole batch back. -/
theorem releaseHandles_gDriver (handles : List NativeHandle) (p : Proc) :
    (releaseHandles handles p).2.gDriver = p.gDriver := by
  induction handles generalizing p with
  | nil => rfl
  | cons h handles ih =>
    have h1 := releaseHandle_gDriver h p
    unfold releaseHandles
    split <;> rename_i heq <;> rw [heq] at h1
    · exact h1
    · exact (ih _).trans h1

/-- Making a batch. -/
theorem newHandles_gDriver (desc : AllocatorDesc) (n : Nat) (handles : List NativeHandle)
    (pixelStride : Int32) (p : Proc) :
    (newHandles cfg env desc n handles pixelStride p).2.gDriver = p.gDriver := by
  induction n generalizing handles pixelStride p with
  | zero => rfl
  | succ n ih =>
    have h1 := grallocGbmAndroidBufferNew_gDriver cfg env desc p
    unfold newHandles
    split <;> rename_i heq <;> rw [heq] at h1
    · exact h1
    · rename_i p1
      have h2 := releaseHandles_gDriver handles p1
      split <;> rename_i heq' <;> rw [heq'] at h2 <;> exact h2.trans h1
    · split
      · exact h1
      · exact (ih _ _ _).trans h1

/-- Exporting it. -/
theorem exportHandles_gDriver (handles : List NativeHandle) (p : Proc) :
    (exportHandles env handles p).2.gDriver = p.gDriver := by
  induction handles generalizing p with
  | nil => rfl
  | cons h handles ih =>
    have h1 := (releaseHandle_gDriver h (dupToAidl env h p).2).trans (dupToAidl_gDriver env h p)
    unfold exportHandles
    dsimp only
    split <;> rename_i heq <;> rw [heq] at h1
    · exact h1
    · rename_i p1 _
      have h2 := ih p1
      split
      · rename_i heq'
        rw [heq'] at h2
        exact h2.trans h1
      · exact h2.trans h1

/-- The request as a whole. -/
theorem allocate2_gDriver (d : BufferDescriptorInfo) (count : Int32) (p : Proc) :
    (allocate2 cfg env d count p).2.gDriver = p.gDriver := by
  unfold allocate2
  split
  · rfl
  rename_i desc _
  unfold grallocGbmAllocate
  split
  · rfl
  split
  · rfl
  have h1 := newHandles_gDriver cfg env desc count.toInt.toNat [] 0 p
  split <;> rename_i heq <;> rw [heq] at h1
  · exact h1
  · exact h1
  · rename_i handles _ p1
    split
    · exact h1
    have h2 := exportHandles_gDriver env handles p1
    split <;> rename_i heq' <;> rw [heq'] at h2 <;> exact h2.trans h1

end AllocatorBackendGrallocGbm

namespace AllocatorBackendDmaBuf

/-- Making a batch of DMA-BUF handles. -/
theorem newHandles_gDriver (d : BufferDescriptorInfo) (n : Nat) (p : Proc) :
    (newHandles env d n p).2.gDriver = p.gDriver := by
  induction n generalizing p with
  | zero => rfl
  | succ n ih =>
    unfold newHandles
    rw [grallocHandleCreate_eq]
    cases env.alloc p.calls.length with
    | false =>
      simp only [Bool.false_eq_true, if_false]
      split <;> rfl
    | true =>
      simp only [if_true]
      split
      · rfl
      · split
        · rename_i heq
          exact (congrArg (fun r => r.2.gDriver) heq).symm.trans (ih _)
        · exact ih _

/-- Exporting it. -/
theorem exportHandles_gDriver (handles : List NativeHandle) (p : Proc) :
    (exportHandles env handles p).2.gDriver = p.gDriver := by
  induction handles generalizing p with
  | nil => rfl
  | cons h handles ih => exact (ih _).trans (dupToAidl_gDriver env h p)

/-- The request as a whole. -/
theorem allocate2_gDriver (d : BufferDescriptorInfo) (count : Int32) (p : Proc) :
    (allocate2 env d count p).2.gDriver = p.gDriver := by
  unfold allocate2
  split
  · rfl
  have h1 := newHandles_gDriver env d count.toInt.toNat p
  split <;> rename_i heq <;> rw [heq] at h1
  · exact h1
  · exact h1
  · split
    · exact h1
    · exact (exportHandles_gDriver env _ _).trans h1

end AllocatorBackendDmaBuf

/-- On either backend. -/
theorem AllocatorBackendType.allocate2_gDriver (backend : AllocatorBackendType)
    (d : BufferDescriptorInfo) (count : Int32) (p : Proc) :
    (backend.allocate2 cfg env d count p).2.gDriver = p.gDriver := by
  cases backend with
  | allocatorGrallocGbm => exact AllocatorBackendGrallocGbm.allocate2_gDriver cfg env d count p
  | allocatorGrallocDmabuf => exact AllocatorBackendDmaBuf.allocate2_gDriver env d count p

end

/-! ## Selection

  No descriptor is supported by both backends, so the order in which they are asked does not
  matter. -/

/-- Does the GBM backend or the DMA-BUF backend support the descriptor, once the driver is ready? -/
def selectable (cfg : BuildConfig) (env : Env) (d : BufferDescriptorInfo) : Bool :=
  if d.format = pixelFormatBlob then decide (d.height = 1)
  else match generateGrallocGenericDesc d with
    | none => false
    | some desc => grallocGbmIsAllocatorDescSupported cfg env.isFormatSupported true desc

/-- The backend that may support the descriptor. -/
def ownerOf (d : BufferDescriptorInfo) : AllocatorBackendType :=
  if d.format = pixelFormatBlob then .allocatorGrallocDmabuf else .allocatorGrallocGbm

/-- The backend a request for `d` goes to. -/
def served (cfg : BuildConfig) (env : Env) (d : BufferDescriptorInfo) (s : Allocator) :
    Option AllocatorBackendType :=
  if selectable cfg env d then some (ownerOf d) else s.mBackend

section

variable (cfg : BuildConfig) (env : Env) {d : BufferDescriptorInfo} {s : Allocator}

/-- A backend supports the selectable descriptors it owns. -/
theorem isSupported_backend_iff (d : BufferDescriptorInfo) (backend : AllocatorBackendType)
    {p : Proc} (hready : isGrallocGbmReady p = true) :
    backend.isSupported cfg env d p = .ok true ↔
      selectable cfg env d = true ∧ ownerOf d = backend := by
  by_cases hblob : d.format = pixelFormatBlob
  · cases backend <;> simp [AllocatorBackendType.isSupported, AllocatorBackendGrallocGbm.isSupported,
      AllocatorBackendDmaBuf.isSupported, selectable, ownerOf, hblob]
  · cases backend with
    | allocatorGrallocDmabuf =>
      simp [AllocatorBackendType.isSupported, AllocatorBackendDmaBuf.isSupported, ownerOf, hblob]
    | allocatorGrallocGbm =>
      simp only [AllocatorBackendType.isSupported, AllocatorBackendGrallocGbm.isSupported,
        selectable, ownerOf, hblob, if_false, hready]
      cases generateGrallocGenericDesc d <;> simp

/-- Selecting sets the member to the owner of a selectable descriptor, and leaves it for any other.
    -/
theorem Allocator.selectBackend_eq (d : BufferDescriptorInfo)
    (hready : isGrallocGbmReady s.proc = true) :
    s.selectBackend cfg env d
      = (if selectable cfg env d then 0 else -eINVAL,
          { s with mBackend := served cfg env d s }) := by
  have hgbm := isSupported_backend_iff cfg env d .allocatorGrallocGbm hready
  have hdma := isSupported_backend_iff cfg env d .allocatorGrallocDmabuf hready
  simp only [AllocatorBackendType.isSupported] at hgbm hdma
  simp only [selectBackend, hgbm, hdma, served]
  cases selectable cfg env d with
  | false => simp
  | true => cases ownerOf d <;> simp

/-- Once the driver is ready, `CHECK_BACKEND()` only fails without a backend. -/
theorem Allocator.checkBackend_spec (hready : isGrallocGbmReady s.proc = true) :
    ∃ da cs, s.checkBackend env
      = (s.mBackend, { s with proc := { s.proc with dmaAllocator := da, calls := cs } }) := by
  obtain ⟨p, mBackend⟩ := s
  cases mBackend with
  | none => exact ⟨p.dmaAllocator, p.calls, rfl⟩
  | some backend =>
    unfold checkBackend
    cases backend with
    | allocatorGrallocGbm =>
      refine ⟨p.dmaAllocator, p.calls, ?_⟩
      simp only [AllocatorBackendType.isReady, show isGrallocGbmReady p = true from hready]
    | allocatorGrallocDmabuf =>
      simp only [AllocatorBackendType.isReady, AllocatorBackendType.init, MapperBackendDmaBuf.init]
      cases hr : MapperBackendDmaBuf.isReady env p with
      | mk ready p' =>
        obtain ⟨cs, hp⟩ : ∃ cs, p' = { p with calls := cs } := by
          unfold MapperBackendDmaBuf.isReady at hr
          split at hr
          · exact ⟨p.calls, (Prod.mk.inj hr).2.symm⟩
          · exact ⟨_, (Prod.mk.inj hr).2.symm⟩
        subst hp
        cases ready with
        | true => exact ⟨p.dmaAllocator, cs, rfl⟩
        | false => exact ⟨true, cs, rfl⟩

/-- `allocate2` in a started service. -/
theorem Allocator.allocate2_eq (d : BufferDescriptorInfo) (count : Int32)
    (hready : isGrallocGbmReady s.proc = true) :
    ∃ da cs, let p := { s.proc with dmaAllocator := da, calls := cs }
      s.allocate2 cfg env d count = match served cfg env d s with
        | none => (.error .noResources, ⟨p, none⟩)
        | some backend =>
          ((backend.allocate2 cfg env d count p).1,
            ⟨(backend.allocate2 cfg env d count p).2, some backend⟩) := by
  obtain ⟨da, cs, hcheck⟩ :=
    checkBackend_spec env (s := { s with mBackend := served cfg env d s }) hready
  refine ⟨da, cs, ?_⟩
  simp only [allocate2, selectBackend_eq cfg env d hready, hcheck]
  cases served cfg env d s <;> rfl

/-- `isSupported` in a started service, for a descriptor that passes the option filter. -/
theorem Allocator.isSupported_eq (hready : isGrallocGbmReady s.proc = true)
    (hoptions : ∀ o ∈ d.additionalOptions, o = standardMetadataDataspace) :
    ∃ da cs, let p := { s.proc with dmaAllocator := da, calls := cs }
      s.isSupported cfg env d = match served cfg env d s with
        | none => (.error .noResources, ⟨p, none⟩)
        | some backend => (backend.isSupported cfg env d p, ⟨p, some backend⟩) := by
  obtain ⟨da, cs, hcheck⟩ :=
    checkBackend_spec env (s := { s with mBackend := served cfg env d s }) hready
  refine ⟨da, cs, ?_⟩
  have hany : ¬ d.additionalOptions.any (· != standardMetadataDataspace) = true := by
    simpa using hoptions
  simp only [isSupported, if_neg hany, selectBackend_eq cfg env d hready, hcheck]
  cases served cfg env d s <;> rfl

/-- A denied option. -/
theorem Allocator.isSupported_denied
    (hoptions : ¬ ∀ o ∈ d.additionalOptions, o = standardMetadataDataspace) :
    s.isSupported cfg env d = (.ok false, s) := by
  have hany : d.additionalOptions.any (· != standardMetadataDataspace) = true := by
    simpa using hoptions
  rw [isSupported, if_pos hany]

/-- In a started service, `isSupported` says yes to the selectable descriptors with admitted
    options. -/
theorem Allocator.isSupported_iff (hready : isGrallocGbmReady s.proc = true) :
    (s.isSupported cfg env d).1 = .ok true ↔
      (∀ o ∈ d.additionalOptions, o = standardMetadataDataspace) ∧
        selectable cfg env d = true := by
  by_cases hoptions : ∀ o ∈ d.additionalOptions, o = standardMetadataDataspace
  swap
  · rw [isSupported_denied cfg env hoptions]
    simp [hoptions]
  obtain ⟨da, cs, heq⟩ := isSupported_eq cfg env hready hoptions
  rw [heq]
  simp only [served]
  cases hsel : selectable cfg env d with
  | true =>
    have := (isSupported_backend_iff cfg env d (ownerOf d)
      (p := { s.proc with dmaAllocator := da, calls := cs }) hready).mpr ⟨hsel, rfl⟩
    simp only [if_true, this, true_iff, and_true]
    exact hoptions
  | false =>
    cases hb : s.mBackend with
    | none => simp
    | some backend =>
      have := (isSupported_backend_iff cfg env d backend
        (p := { s.proc with dmaAllocator := da, calls := cs }) hready).not.mpr (by simp [hsel])
      simp [this]

/-! ## Runs -/

/-- Readiness is a matter of the driver alone, and of its released block. -/
theorem isGrallocGbmReady_congr {p p' : Proc} (h : p'.gDriver = p.gDriver) :
    isGrallocGbmReady p' = isGrallocGbmReady p := by
  unfold isGrallocGbmReady
  rw [h]

/-- A ready driver is ready after a request. -/
theorem Allocator.allocate2_ready (d : BufferDescriptorInfo) (count : Int32)
    (hready : isGrallocGbmReady s.proc = true) :
    isGrallocGbmReady (s.allocate2 cfg env d count).2.proc = true := by
  obtain ⟨da, cs, heq⟩ := allocate2_eq cfg env d count hready
  rw [heq]
  cases served cfg env d s with
  | none => exact hready
  | some backend =>
    rw [← hready]
    exact isGrallocGbmReady_congr (backend.allocate2_gDriver cfg env d count _)

/-- And after a query. -/
theorem Allocator.isSupported_ready (d : BufferDescriptorInfo)
    (hready : isGrallocGbmReady s.proc = true) :
    isGrallocGbmReady (s.isSupported cfg env d).2.proc = true := by
  by_cases hoptions : ∀ o ∈ d.additionalOptions, o = standardMetadataDataspace
  · obtain ⟨da, cs, heq⟩ := isSupported_eq cfg env hready hoptions
    rw [heq]
    cases served cfg env d s <;> exact hready
  · rw [isSupported_denied cfg env hoptions]
    exact hready

end

/-- A service that starts has its driver ready. -/
theorem Allocator.init_ready {env : Env} (h : (Allocator.init env).1 = 0) :
    isGrallocGbmReady (Allocator.init env).2.proc = true := by
  change (grallocGbmInit env { Proc.start with dmaAllocator := true }).1 = 0 at h
  show isGrallocGbmReady (grallocGbmInit env { Proc.start with dmaAllocator := true }).2 = true
  rcases grallocGbmInit_cases env { Proc.start with dmaAllocator := true } with
    ⟨hno, -⟩ | ⟨-, rc, g, n, cs, hrc, -, hr⟩ | ⟨-, fd, n, cs, -, -, -, hr⟩
  · cases hno
  · rw [hr] at h
    exact absurd h hrc
  · rw [hr]
    rfl

/-- And after any step of the service. -/
theorem allocatorStep_ready (cfg : BuildConfig) (env : Env)
    (decode : List UInt8 → Option Allocator.BufferDescriptorInfoV4) {s : Allocator} (op : AllocatorOp)
    (hready : isGrallocGbmReady s.proc = true) :
    isGrallocGbmReady (allocatorStep cfg env decode s op).proc = true := by
  cases op with
  | allocate encodedDescriptor count =>
    simp only [allocatorStep, allocatorCall, Allocator.allocate]
    cases decode encodedDescriptor with
    | none => exact hready
    | some d => exact Allocator.allocate2_ready cfg env d.toInfo count hready
  | allocate2 d count => exact Allocator.allocate2_ready cfg env d count hready
  | isSupported d => exact Allocator.isSupported_ready cfg env d hready

/-- **The driver stays ready over every run of a started service.** -/
theorem allocatorRun_ready (cfg : BuildConfig) (env : Env)
    (decode : List UInt8 → Option Allocator.BufferDescriptorInfoV4) (ops : List AllocatorOp)
    (hinit : (Allocator.init env).1 = 0) :
    isGrallocGbmReady (allocatorRun cfg env decode ops).proc = true :=
  Run.foldl_inv_all (fun s : Allocator => isGrallocGbmReady s.proc = true)
    (fun _ op => allocatorStep_ready cfg env decode op) ops (Allocator.init_ready hinit)

/-! ## `isSupported` as a gate for `allocate2`

  A client is told to ask first.  What it is told, and what `allocate2` then does, are compared. -/

/-- What the GBM backend allocates, the library supports. -/
theorem AllocatorBackendGrallocGbm.selectable_of_ok {cfg : BuildConfig} {env : Env}
    {d : BufferDescriptorInfo} {count : Int32} {p : Proc} {res : AllocationResult}
    (h : (AllocatorBackendGrallocGbm.allocate2 cfg env d count p).1 = .ok res)
    (hblob : d.format ≠ pixelFormatBlob) : selectable cfg env d = true := by
  unfold allocate2 grallocGbmAllocate at h
  rw [selectable, if_neg hblob]
  cases hdesc : generateGrallocGenericDesc d with
  | none =>
    rw [hdesc] at h
    cases h
  | some desc =>
    rw [hdesc] at h
    dsimp only at h ⊢
    by_cases hsup : grallocGbmIsAllocatorDescSupported cfg env.isFormatSupported
        (isGrallocGbmReady p) desc = true
    · rw [grallocGbmIsAllocatorDescSupported_ready hsup] at hsup
      exact hsup
    · rw [if_pos (by simpa using hsup)] at h
      cases h

/-- Nothing but a DMA-BUF backend left over from an earlier request makes `allocate2` accept what is
    not selectable, BLOBs apart. -/
theorem Allocator.selectable_of_ok {cfg : BuildConfig} {env : Env} {d : BufferDescriptorInfo}
    {s : Allocator} {count : Int32} {res : AllocationResult}
    (hready : isGrallocGbmReady s.proc = true)
    (hok : (s.allocate2 cfg env d count).1 = .ok res) (hblob : d.format ≠ pixelFormatBlob)
    (hbackend : s.mBackend ≠ some .allocatorGrallocDmabuf) : selectable cfg env d = true := by
  by_contra hsel
  obtain ⟨da, cs, heq⟩ := allocate2_eq cfg env d count hready
  rw [heq, served, if_neg hsel] at hok
  cases hb : s.mBackend with
  | none =>
    rw [hb] at hok
    cases hok
  | some backend =>
    cases backend with
    | allocatorGrallocDmabuf => exact hbackend hb
    | allocatorGrallocGbm =>
      rw [hb] at hok
      exact hsel (AllocatorBackendGrallocGbm.selectable_of_ok hok hblob)

/-- **Where `isSupported` is a sound gate.**  In every reachable state of the service, for every
    request that `allocate2` accepts: `isSupported` says yes exactly if all additional options are
    the dataspace, and the descriptor is a BLOB of height 1, or no BLOB and not one that the GBM
    backend refuses and the DMA-BUF backend, left over from an earlier request, has allocated. -/
theorem isSupported_gates_iff (cfg : BuildConfig) (env : Env)
    (decode : List UInt8 → Option Allocator.BufferDescriptorInfoV4) (ops : List AllocatorOp)
    (hinit : (Allocator.init env).1 = 0) (d : BufferDescriptorInfo) (count : Int32)
    (res : AllocationResult)
    (hok : ((allocatorRun cfg env decode ops).allocate2 cfg env d count).1 = .ok res) :
    let s := allocatorRun cfg env decode ops
    (s.isSupported cfg env d).1 = .ok true ↔
      (∀ o ∈ d.additionalOptions, o = Allocator.standardMetadataDataspace) ∧
        if d.format = pixelFormatBlob then d.height = 1
        else s.mBackend = some .allocatorGrallocDmabuf → selectable cfg env d = true := by
  intro s
  have hready : isGrallocGbmReady s.proc = true := allocatorRun_ready cfg env decode ops hinit
  rw [Allocator.isSupported_iff cfg env hready]
  refine and_congr_right fun _ => ?_
  split
  · rename_i hblob
    rw [selectable, if_pos hblob, decide_eq_true_iff]
  · rename_i hblob
    refine ⟨fun hsel _ => hsel, fun h => ?_⟩
    by_cases hb : s.mBackend = some .allocatorGrallocDmabuf
    · exact h hb
    · exact Allocator.selectable_of_ok hready hok hblob hb

/-- A 64x64 RGBA_8888 buffer for CPU access, with options. -/
def rgbaInfo (additionalOptions : List String) : BufferDescriptorInfo :=
  ⟨64, 64, 1, 1, 0x33, 0, additionalOptions⟩

/-- The theorem at a plain RGBA_8888 buffer. -/
theorem rgbaInfo_gates_iff :
    let s := allocatorRun .androidBp .plain (fun _ => none) []
    (s.isSupported .androidBp .plain (rgbaInfo [])).1 = .ok true ↔
      (∀ o ∈ (rgbaInfo []).additionalOptions, o = Allocator.standardMetadataDataspace) ∧
        if (rgbaInfo []).format = pixelFormatBlob then (rgbaInfo []).height = 1
        else s.mBackend = some .allocatorGrallocDmabuf →
          selectable .androidBp .plain (rgbaInfo []) = true :=
  isSupported_gates_iff .androidBp .plain (fun _ => none) [] rfl (rgbaInfo []) 1 _ rfl

/-- An option that `isSupported` denies does not stop `allocate2`. -/
theorem unknown_option_allocated :
    let s := allocatorRun .androidBp .plain (fun _ => none) []
    let d := rgbaInfo ["com.example.option"]
    (∃ res, (s.allocate2 .androidBp .plain d 1).1 = .ok res ∧ res.buffers.length = 1) ∧
      (s.isSupported .androidBp .plain d).1 = .ok false :=
  ⟨⟨_, rfl, rfl⟩, by decide⟩

end GrallocGbm
