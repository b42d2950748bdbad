/-
  The allocator service (`allocator/Allocator.cpp`, `allocator/backend/*.cpp`).

  A request goes to the backend that `selectBackend` has put into the member `mBackend`: the GBM
  backend if it supports the descriptor, else the DMA-BUF backend if that one does.  If neither
  does, `selectBackend` returns `-EINVAL` and leaves the member as it was; both callers ignore what
  it returns, and go on with the backend of an earlier request, or stop at `CHECK_BACKEND()` if
  there was none.

  Each backend allocates in two loops.  The first makes all the handles, the second duplicates each
  of them into the result and releases it.  The loops are recursions over the number of buffers that
  are still to be made, and stop where the source returns.  What a failure leaves differs:

  * the GBM backend releases the handles made before (`releaseHandles`), but
    `gralloc_gbm_android_buffer_new` has not released what it had itself;
  * the DMA-BUF backend returns, and everything made before it stays.

  Both loops fill vectors whose size is the count of the request, an `int32_t` that nobody
  checks.  A negative count becomes a size that no vector can have, a large one may find no memory,
  and the exception is caught nowhere: the service ends (`resizes`, `Status.terminated`).  So it
  does when the DMA-BUF backend writes through a handle that could not be created, and when the
  pixel stride of a format without a pixel size is computed.

  A descriptor is the AIDL one without its name.  `generateGrallocGenericDesc` copies the name into
  a block that nobody reads but for log messages, and nobody releases; blocks of that kind are not
  among those counted here.

  `AllocatorBackendType.isReady` and `init` are those of the mapper's backends, which have the same
  code; `checkBackend` is `CHECK_BACKEND()`.
-/
import GrallocGbm.MapperDmaBuf

namespace GrallocGbm

/-! ## Requests and answers

  A descriptor has the fields of the AIDL type that the program looks at.  A request is answered
  with buffers or with an error code, unless it ends the process. -/

/-- `BufferDescriptorInfo`, less its name, which only log messages read; of the additional options,
    the names.  (A copy of the name that `generateGrallocGenericDesc` makes is never released, nor
    looked at.) -/
structure BufferDescriptorInfo where
  width : Int32
  height : Int32
  layerCount : Int32
  format : Int32
  usage : Int64
  reservedSize : Int64
  additionalOptions : List String
  deriving DecidableEq, Repr

/-- `AllocationError`. -/
inductive AllocationError where
  | badDescriptor
  | noResources
  | unsupported
  deriving DecidableEq, Repr

/-- A `ScopedAStatus` with the out parameter it covers; `terminated` is the end of the process. -/
inductive Status (α : Type) where
  | ok (a : α)
  | error (e : AllocationError)
  | terminated
  deriving DecidableEq, Repr

/-- The status without the out parameter. -/
def Status.code {α : Type} : Status α → Status Unit
  | .ok _ => .ok ()
  | .error e => .error e
  | .terminated => .terminated

/-- `AllocationResult`. -/
structure AllocationResult where
  stride : Int32
  buffers : List AidlNativeHandle
  deriving DecidableEq, Repr

/-- `PixelFormat::BLOB`. -/
def pixelFormatBlob : Int32 := halPixelFormatBlob.toInt32

/-- `generateGrallocGenericDesc`; `none` where it returns `-EINVAL`.  The block that it allocates
    for the name is left out. -/
def generateGrallocGenericDesc (info : BufferDescriptorInfo) : Option AllocatorDesc :=
  if info.width = 0 ∨ info.height = 0 then none
  else if info.layerCount > 1 then none
  else some
    { width := info.width
      height := info.height
      layerCount := info.layerCount
      format := info.format
      -- both are cut to `uint32_t` on the way
      usage := info.usage.toUInt64.toUInt32.toUInt64.toInt64
      reservedSize := info.reservedSize.toUInt64.toUInt32.toUInt64.toInt64 }

/-- `resize(count)` of a `std::vector`: does it come back?  A negative count is converted to a size
    above every vector's (`std::length_error`); one above zero may find no memory
    (`std::bad_alloc`). -/
def resizes (env : Env) (count : Int32) (p : Proc) : Bool :=
  !decide (count < 0) && (decide (count = 0) || env.vector p.calls.length count.toInt.toNat)

/-- No vector has a negative size. -/
theorem resizes_nonneg {env : Env} {count : Int32} {p : Proc} (h : resizes env count p = true) :
    ¬ count < 0 := by
  unfold resizes at h
  simp only [Bool.and_eq_true, Bool.not_eq_true', decide_eq_false_iff_not] at h
  exact h.1

/-! ## The GBM backend

  The two loops of `allocate2`: one makes handles and remembers their pixel stride, the other
  duplicates them into the result and gives each back. -/

namespace AllocatorBackendGrallocGbm

/-- What both loops do with a handle they are done with. -/
def releaseHandle (handle : NativeHandle) (p : Proc) : Ret Unit × Proc :=
  match grallocGbmAndroidBufferFree handle p with
  | (.crash, p) => (.crash, p)
  | (_, p) => (.ok (), nativeHandleDelete handle (nativeHandleClose handle p))

/-- The clean-up after a failure. -/
def releaseHandles : List NativeHandle → Proc → Ret Unit × Proc
  | [], p => (.ok (), p)
  | handle :: handles, p =>
    match releaseHandle handle p with
    | (.crash, p) => (.crash, p)
    | (_, p) => releaseHandles handles p

/-- The first loop: `n` more handles after `handles`, and the pixel stride of the last one. -/
def newHandles (cfg : BuildConfig) (env : Env) (desc : AllocatorDesc) :
    Nat → List NativeHandle → Int32 → Proc → Status (List NativeHandle × Int32) × Proc
  | 0, handles, pixelStride, p => (.ok (handles, pixelStride), p)
  | n + 1, handles, _, p =>
    match grallocGbmAndroidBufferNew cfg env desc p with
    | (.crash, p) => (.terminated, p)
    | (.err _, p) =>
      match releaseHandles handles p with
      | (.crash, p) => (.terminated, p)
      | (_, p) => (.error .unsupported, p)
    | (.ok (handle, gbmStride), p) =>
      match grallocGbmCalculateAndroidPixelStride desc.format.toUInt32 gbmStride with
      | none => (.terminated, p)
      | some pixelStride => newHandles cfg env desc n (handles ++ [handle]) pixelStride p

/-- The second loop: duplicate into `outResult->buffers`, and release. -/
def exportHandles (env : Env) : List NativeHandle → Proc → Status (List AidlNativeHandle) × Proc
  | [], p => (.ok [], p)
  | handle :: handles, p =>
    let (a, p) := dupToAidl env handle p
    match releaseHandle handle p with
    | (.crash, p) => (.terminated, p)
    | (_, p) =>
      match exportHandles env handles p with
      | (.ok buffers, p) => (.ok (a :: buffers), p)
      | r => r

/-- `AllocatorBackendGrallocGbm::grallocGbmAllocate`.  Nobody catches what either `resize` throws. -/
def grallocGbmAllocate (cfg : BuildConfig) (env : Env) (desc : AllocatorDesc) (count : Int32)
    (p : Proc) : Status AllocationResult × Proc :=
  if !grallocGbmIsAllocatorDescSupported cfg env.isFormatSupported (isGrallocGbmReady p) desc then
    (.error .unsupported, p)
  else if !resizes env count p then (.terminated, p)
  else match newHandles cfg env desc count.toInt.toNat [] 0 p with
    | (.error e, p) => (.error e, p)
    | (.terminated, p) => (.terminated, p)
    | (.ok (handles, pixelStride), p) =>
      if !resizes env count p then (.terminated, p)
      else match exportHandles env handles p with
        | (.ok buffers, p) => (.ok ⟨pixelStride, buffers⟩, p)
        | (.error e, p) => (.error e, p)
        | (.terminated, p) => (.terminated, p)

/-- A successful batch: the descriptor is supported, the count is not negative, and both loops come
    to their end. -/
theorem grallocGbmAllocate_ok {cfg : BuildConfig} {env : Env} {desc : AllocatorDesc} {count : Int32}
    {p p' : Proc} {res : AllocationResult}
    (h : grallocGbmAllocate cfg env desc count p = (.ok res, p')) :
    grallocGbmIsAllocatorDescSupported cfg env.isFormatSupported (isGrallocGbmReady p) desc = true ∧
      ¬ count < 0 ∧ ∃ handles p1,
        newHandles cfg env desc count.toInt.toNat [] 0 p = (.ok (handles, res.stride), p1) ∧
        exportHandles env handles p1 = (.ok res.buffers, p') := by
  unfold grallocGbmAllocate at h
  split at h
  · cases h
  rename_i hsup
  split at h
  · cases h
  rename_i hresize
  refine ⟨by simpa using hsup, resizes_nonneg (by simpa using hresize), ?_⟩
  cases hn : newHandles cfg env desc count.toInt.toNat [] 0 p with
  | mk st p1 =>
    rw [hn] at h
    cases st with
    | error e => cases h
    | terminated => cases h
    | ok r =>
      dsimp only at h
      split at h
      · cases h
      cases hexp : exportHandles env r.1 p1 with
      | mk st2 p2 =>
        rw [hexp] at h
        cases st2 with
        | error e => cases h
        | terminated => cases h
        | ok buffers =>
          obtain ⟨hres, rfl⟩ := Prod.mk.inj h
          obtain rfl := Status.ok.inj hres
          exact ⟨r.1, p1, rfl, hexp⟩

/-- `AllocatorBackendGrallocGbm::allocate2`. -/
def allocate2 (cfg : BuildConfig) (env : Env) (descriptor : BufferDescriptorInfo) (count : Int32)
    (p : Proc) : Status AllocationResult × Proc :=
  match generateGrallocGenericDesc descriptor with
  | none => (.error .unsupported, p)
  | some desc => grallocGbmAllocate cfg env desc count p

/-- `AllocatorBackendGrallocGbm::isSupported`. -/
def isSupported (cfg : BuildConfig) (env : Env) (descriptor : BufferDescriptorInfo) (p : Proc) :
    Status Bool :=
  if descriptor.format = pixelFormatBlob then .ok false
  else match generateGrallocGenericDesc descriptor with
    | none => .error .unsupported
    | some desc =>
      .ok (grallocGbmIsAllocatorDescSupported cfg env.isFormatSupported (isGrallocGbmReady p) desc)

end AllocatorBackendGrallocGbm

/-! ## The DMA-BUF backend

  The same two loops, with memory from a heap instead of objects, and nothing to give back. -/

namespace AllocatorBackendDmaBuf

/-- `buffer_size`: an `int32_t` product, widened. -/
def bufferSize (descriptor : BufferDescriptorInfo) : UInt64 :=
  (descriptor.width * descriptor.height).toInt64.toUInt64

/-- The first loop: `n` handles.  A failure leaves behind what was made before it. -/
def newHandles (env : Env) (descriptor : BufferDescriptorInfo) :
    Nat → Proc → Status (List NativeHandle) × Proc
  | 0, p => (.ok [], p)
  | n + 1, p =>
    let (handle, p) := grallocHandleCreate env descriptor.width.toUInt32 descriptor.height.toUInt32
      descriptor.format.toUInt32 (usageBits descriptor.usage) p
    let (fd, p) := openFd env (.allocSystem (bufferSize descriptor)) p
    let fd := fd.getD (-1)
    if fd ≤ 0 then (.error .noResources, p)
    else match handle with
      -- `gralloc_handle(handle)->prime_fd` of NULL
      | none => (.terminated, p)
      | some handle =>
        let handle := (handle.setPrimeFd fd).setStride (descriptor.width / 8).toUInt32
        match newHandles env descriptor n p with
        | (.ok handles, p) => (.ok (handle :: handles), p)
        | r => r

/-- The last loop: duplicate into `outResult->buffers`, close and delete. -/
def exportHandles (env : Env) : List NativeHandle → Proc → List AidlNativeHandle × Proc
  | [], p => ([], p)
  | handle :: handles, p =>
    let (a, p) := dupToAidl env handle p
    let p := nativeHandleDelete handle (nativeHandleClose handle p)
    let (buffers, p) := exportHandles env handles p
    (a :: buffers, p)

/-- `AllocatorBackendDmaBuf::allocate2`. -/
def allocate2 (env : Env) (descriptor : BufferDescriptorInfo) (count : Int32) (p : Proc) :
    Status AllocationResult × Proc :=
  if !resizes env count p then (.terminated, p)
  else match newHandles env descriptor count.toInt.toNat p with
    | (.error e, p) => (.error e, p)
    | (.terminated, p) => (.terminated, p)
    | (.ok handles, p) =>
      if !resizes env count p then (.terminated, p)
      else
        let (buffers, p) := exportHandles env handles p
        (.ok ⟨descriptor.width / 8, buffers⟩, p)

/-- A successful batch. -/
theorem allocate2_ok {env : Env} {descriptor : BufferDescriptorInfo} {count : Int32} {p p' : Proc}
    {res : AllocationResult} (h : allocate2 env descriptor count p = (.ok res, p')) :
    ¬ count < 0 ∧ ∃ handles p1, newHandles env descriptor count.toInt.toNat p = (.ok handles, p1) ∧
      exportHandles env handles p1 = (res.buffers, p') ∧ res.stride = descriptor.width / 8 := by
  unfold allocate2 at h
  split at h
  · cases h
  rename_i hresize
  refine ⟨resizes_nonneg (by simpa using hresize), ?_⟩
  cases hn : newHandles env descriptor count.toInt.toNat p with
  | mk st p1 =>
    rw [hn] at h
    cases st with
    | error e => cases h
    | terminated => cases h
    | ok handles =>
      dsimp only at h
      split at h
      · cases h
      obtain ⟨hres, rfl⟩ := Prod.mk.inj h
      obtain rfl := Status.ok.inj hres
      exact ⟨handles, p1, rfl, rfl, rfl⟩

/-- `AllocatorBackendDmaBuf::isSupported`: only linear BLOBs. -/
def isSupported (descriptor : BufferDescriptorInfo) : Status Bool :=
  if descriptor.format = pixelFormatBlob ∧ descriptor.height = 1 then .ok true else .ok false

end AllocatorBackendDmaBuf

/-! ## The service

  The backends behind the member `mBackend`, and the entry points that select one of them. -/

/-- `AllocatorBackendType`. -/
inductive AllocatorBackendType where
  | allocatorGrallocGbm
  | allocatorGrallocDmabuf
  deriving DecidableEq, Repr

namespace AllocatorBackendType

/-- `isReady`, by backend. -/
def isReady (env : Env) (backend : AllocatorBackendType) (p : Proc) : Bool × Proc :=
  match backend with
  | .allocatorGrallocGbm => (isGrallocGbmReady p, p)
  | .allocatorGrallocDmabuf => MapperBackendDmaBuf.isReady env p

/-- `init`. -/
def init (env : Env) (backend : AllocatorBackendType) (p : Proc) : Int × Proc :=
  match backend with
  | .allocatorGrallocGbm => grallocGbmInit env p
  | .allocatorGrallocDmabuf => MapperBackendDmaBuf.init p

/-- `isSupported`. -/
def isSupported (cfg : BuildConfig) (env : Env) (backend : AllocatorBackendType)
    (descriptor : BufferDescriptorInfo) (p : Proc) : Status Bool :=
  match backend with
  | .allocatorGrallocGbm => AllocatorBackendGrallocGbm.isSupported cfg env descriptor p
  | .allocatorGrallocDmabuf => AllocatorBackendDmaBuf.isSupported descriptor

/-- `allocate2`. -/
def allocate2 (cfg : BuildConfig) (env : Env) (backend : AllocatorBackendType)
    (descriptor : BufferDescriptorInfo) (count : Int32) (p : Proc) :
    Status AllocationResult × Proc :=
  match backend with
  | .allocatorGrallocGbm => AllocatorBackendGrallocGbm.allocate2 cfg env descriptor count p
  | .allocatorGrallocDmabuf => AllocatorBackendDmaBuf.allocate2 env descriptor count p

end AllocatorBackendType

/-- `GrallocGenericAllocatorV2`, with the process it runs in. -/
structure Allocator where
  proc : Proc
  mBackend : Option AllocatorBackendType

namespace Allocator

/-- `GrallocGenericAllocatorV2::init` in a fresh process; `main` gives up unless it returns 0. -/
def init (env : Env) : Int × Allocator :=
  let (_, p) := MapperBackendDmaBuf.init Proc.start
  let (rc, p) := grallocGbmInit env p
  (rc, ⟨p, none⟩)

/-- `GrallocGenericAllocatorV2::selectBackend`. -/
def selectBackend (cfg : BuildConfig) (env : Env) (descriptor : BufferDescriptorInfo)
    (s : Allocator) : Int × Allocator :=
  if AllocatorBackendGrallocGbm.isSupported cfg env descriptor s.proc = .ok true then
    (0, { s with mBackend := some .allocatorGrallocGbm })
  else if AllocatorBackendDmaBuf.isSupported descriptor = .ok true then
    (0, { s with mBackend := some .allocatorGrallocDmabuf })
  else (-eINVAL, s)

/-- `CHECK_BACKEND()`: the backend to go on with; `none` where the macro returns `NO_RESOURCES`. -/
def checkBackend (env : Env) (s : Allocator) : Option AllocatorBackendType × Allocator :=
  match s.mBackend with
  | none => (none, s)
  | some backend =>
    match backend.isReady env s.proc with
    | (true, p) => (some backend, { s with proc := p })
    | (false, p) =>
      let (rc, p) := backend.init env p
      (if rc = 0 then some backend else none, { s with proc := p })

/-- `GrallocGenericAllocatorV2::allocate2`. -/
def allocate2 (cfg : BuildConfig) (env : Env) (descriptor : BufferDescriptorInfo) (count : Int32)
    (s : Allocator) : Status AllocationResult × Allocator :=
  match (s.selectBackend cfg env descriptor).2.checkBackend env with
  | (none, s) => (.error .noResources, s)
  | (some backend, s) =>
    let (r, p) := backend.allocate2 cfg env descriptor count s.proc
    (r, { s with proc := p })

/-- `STANDARD_METADATA_DATASPACE`. -/
def standardMetadataDataspace : String := "android.hardware.graphics.common.Dataspace"

/-- `GrallocGenericAllocatorV2::isSupported`. -/
def isSupported (cfg : BuildConfig) (env : Env) (descriptor : BufferDescriptorInfo)
    (s : Allocator) : Status Bool × Allocator :=
  if descriptor.additionalOptions.any (· != standardMetadataDataspace) then (.ok false, s)
  else match (s.selectBackend cfg env descriptor).2.checkBackend env with
    | (none, s) => (.error .noResources, s)
    | (some backend, s) => (backend.isSupported cfg env descriptor s.proc, s)

/-- The fields of the encoded descriptor of `IMapper` 4.0 that `allocate` reads. -/
structure BufferDescriptorInfoV4 where
  width : UInt32
  height : UInt32
  layerCount : UInt32
  format : Int32
  usage : UInt64
  reservedSize : UInt64
  deriving DecidableEq, Repr

/-- The descriptor `allocate` builds. -/
def BufferDescriptorInfoV4.toInfo (d : BufferDescriptorInfoV4) : BufferDescriptorInfo where
  width := d.width.toInt32
  height := d.height.toInt32
  layerCount := d.layerCount.toInt32
  format := d.format
  usage := d.usage.toInt64
  reservedSize := d.reservedSize.toInt64
  additionalOptions := []

/-- `GrallocGenericAllocatorV2::allocate`, with `decodeBufferDescriptorInfo` of the platform. -/
def allocate (cfg : BuildConfig) (env : Env)
    (decode : List UInt8 → Option BufferDescriptorInfoV4) (encodedDescriptor : List UInt8)
    (count : Int32) (s : Allocator) : Status AllocationResult × Allocator :=
  match decode encodedDescriptor with
  | none => (.error .badDescriptor, s)
  | some d => s.allocate2 cfg env d.toInfo count

end Allocator

end GrallocGbm
