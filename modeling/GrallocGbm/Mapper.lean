/-
  The mapper (`mapper_stablec/Mapper.cpp`).

  The mapper is the side of gralloc that runs in every process with graphics in it.  A client hands
  it handles and gets memory or facts about them.  There are two backends: `MapperGrallocGbm` asks
  the library of `common/gralloc_gbm.c`, `MapperDmaBuf` maps the descriptor itself and keeps a table
  of its own.  Which of them a buffer belongs to is decided from its handle (`routedTo`), again at
  every call.

  Every call of the interface is the same frame around a backend's function:

      selectBackend(buffer);     -- sets mBackend
      CHECK_BACKEND();           -- isReady(), else init(), else AIMAPPER_ERROR_NO_RESOURCES
      ... mBackend->f(buffer)

  which is `Mapper.withBackend`.  Its two equations, `withBackend_ready` and `withBackend_failed`,
  are all that the rest of the development knows about it.  The pointer `mBackend` is set by each
  call before it is read, so between two calls it carries nothing; that this is so only while calls
  do not overlap is the subject of `Isolation` and `Concurrency`.

  An import clones the handle it is given, imports the clone into the backend and hands the clone
  out; if the backend refuses, the clone is closed and deleted again (`importClone`).  A free asks
  the backend to forget the buffer and does no more: nothing in it closes or deletes the clone that
  the import made (`Balance`).

  The return code of a backend is an `int` or a library status; the client sees only whether it was
  zero (`statusOf`, `statusOfRet`).  A result `none` is a call that does not return.
-/
import GrallocGbm.MapperDmaBuf

namespace GrallocGbm

/-! ## Choosing a backend

  The format and the height of the handle decide; then the backend is asked whether it is ready,
  and made ready if it is not. -/

/-- `MapperBackendType`. -/
inductive MapperBackendType where
  | mapperGrallocGbm
  | mapperGrallocDmabuf
  deriving DecidableEq, Repr

/-- `GrallocGenericMapperV5`, with the process it runs in. -/
structure Mapper where
  proc : Proc
  mBackend : Option MapperBackendType

/-- A mapper that has just been loaded. -/
def Mapper.start : Mapper := ⟨Proc.start, none⟩

/-- The choice made by `GrallocGenericMapperV5::selectBackend`. -/
def routedTo (g : GrallocHandle) : MapperBackendType :=
  if g.format = halPixelFormatBlob ∧ g.height = 1 then .mapperGrallocDmabuf else .mapperGrallocGbm

/-- `GrallocGenericMapperV5::selectBackend`. -/
def Mapper.selectBackend (buffer : NativeHandle) (m : Mapper) : Mapper :=
  { m with mBackend := some (routedTo (grallocHandle buffer)) }

/-- `mBackend->isReady()`: the GBM backend asks the library, the DMA-BUF one asks its allocator for
    the list of heaps. -/
def MapperBackendType.isReady (env : Env) (backend : MapperBackendType) (p : Proc) : Bool × Proc :=
  match backend with
  | .mapperGrallocGbm => (isGrallocGbmReady p, p)
  | .mapperGrallocDmabuf => MapperBackendDmaBuf.isReady env p

/-- `mBackend->init()`. -/
def MapperBackendType.init (env : Env) (backend : MapperBackendType) (p : Proc) : Int × Proc :=
  match backend with
  | .mapperGrallocGbm => grallocGbmInit env p
  | .mapperGrallocDmabuf => MapperBackendDmaBuf.init p

/-- Ready, or ready after `init`? -/
def MapperBackendType.ensureReady (env : Env) (backend : MapperBackendType) (p : Proc) :
    Bool × Proc :=
  match backend.isReady env p with
  | (true, p) => (true, p)
  | (false, p) =>
    let (rc, p) := backend.init env p
    (rc == 0, p)

/-- `CHECK_BACKEND()`: the backend to go on with; `none` where the macro returns
    `AIMAPPER_ERROR_NO_RESOURCES`. -/
def Mapper.checkBackend (env : Env) (m : Mapper) : Option MapperBackendType × Mapper :=
  match m.mBackend with
  | none => (none, m)
  | some backend =>
    let (ok, p) := backend.ensureReady env m.proc
    (if ok then some backend else none, { m with proc := p })

/-- `selectBackend(buffer); CHECK_BACKEND();` and the rest `k` of a call; `noResources` is what the
    call returns if the check fails. -/
def Mapper.withBackend {α : Type} (env : Env) (buffer : NativeHandle) (m : Mapper) (noResources : α)
    (k : MapperBackendType → Proc → α × Proc) : α × Mapper :=
  match (m.selectBackend buffer).checkBackend env with
  | (none, m) => (noResources, m)
  | (some backend, m) =>
    let (r, p) := k backend m.proc
    (r, { m with proc := p })

section

variable {α : Type} {env : Env} {buffer : NativeHandle} {m : Mapper} {noResources : α}
  {k : MapperBackendType → Proc → α × Proc}

/-- A call whose backend is ready, or becomes so, is the rest of it on the readied process. -/
theorem Mapper.withBackend_ready
    (h : ((routedTo (grallocHandle buffer)).ensureReady env m.proc).1 = true) :
    let backend := routedTo (grallocHandle buffer)
    let r := k backend (backend.ensureReady env m.proc).2
    m.withBackend env buffer noResources k = (r.1, ⟨r.2, some backend⟩) := by
  simp [withBackend, checkBackend, selectBackend, h]

/-- A call whose backend cannot be readied gives up, with whatever the attempt left behind. -/
theorem Mapper.withBackend_failed
    (h : ((routedTo (grallocHandle buffer)).ensureReady env m.proc).1 = false) :
    let backend := routedTo (grallocHandle buffer)
    m.withBackend env buffer noResources k
      = (noResources, ⟨(backend.ensureReady env m.proc).2, some backend⟩) := by
  simp [withBackend, checkBackend, selectBackend, h]

/-- A GBM buffer, when the driver is ready. -/
theorem Mapper.withBackend_gbm (hgbm : routedTo (grallocHandle buffer) = .mapperGrallocGbm)
    (hready : isGrallocGbmReady m.proc = true) :
    let r := k .mapperGrallocGbm m.proc
    m.withBackend env buffer noResources k = (r.1, ⟨r.2, some .mapperGrallocGbm⟩) := by
  have hensure : (routedTo (grallocHandle buffer)).ensureReady env m.proc = (true, m.proc) := by
    simp [hgbm, MapperBackendType.ensureReady, MapperBackendType.isReady, hready]
  rw [withBackend_ready (by rw [hensure]), hensure, hgbm]

end

/-! ## Buffers -/

/-- The status a mapper call makes of a backend's return code. -/
def statusOf (rc : Int) : AIMapperError := if rc ≠ 0 then .noResources else .none

/-- The same for a function of the library. -/
def statusOfRet : Ret Unit → Option AIMapperError
  | .ok _ => some .none
  | .err _ => some .noResources
  | .crash => none

/-- The rest of `importBuffer` once the backend is ready: clone, import the clone, and give it up
    again if the backend refuses it. -/
def importClone (cfg : BuildConfig) (env : Env) (handle : NativeHandle)
    (backend : MapperBackendType) (p : Proc) : (AIMapperError × Option NativeHandle) × Proc :=
  match nativeHandleClone env handle p with
  | (none, p) => ((.noResources, none), p)
  | (some c, p) =>
    let (rc, p) := match backend with
      | .mapperGrallocGbm => grallocGbmAndroidBufferImport cfg env c p
      | .mapperGrallocDmabuf => MapperBackendDmaBuf.importBuffer c p
    if rc ≠ 0 then ((.noResources, none), nativeHandleDelete c (nativeHandleClose c p))
    else ((.none, some c), p)

/-- `GrallocGenericMapperV5::importBuffer`: the status, and the handle written to
    `*outBufferHandle`. -/
def Mapper.importBuffer (cfg : BuildConfig) (env : Env) (handle : Option NativeHandle)
    (m : Mapper) : (AIMapperError × Option NativeHandle) × Mapper :=
  match handle with
  | none => ((.badBuffer, none), m)
  | some handle =>
    if handle.numFds = 0 then ((.badBuffer, none), m)
    else m.withBackend env handle (.noResources, none) (importClone cfg env handle)

/-- `GrallocGenericMapperV5::freeBuffer`. -/
def Mapper.freeBuffer (env : Env) (buffer : Option NativeHandle) (m : Mapper) :
    Option AIMapperError × Mapper :=
  match buffer with
  | none => (some .badBuffer, m)
  | some buffer => m.withBackend env buffer (some .noResources) fun backend p =>
    match backend with
    | .mapperGrallocGbm =>
      let (ret, p) := grallocGbmAndroidBufferFree buffer p
      (statusOfRet ret, p)
    | .mapperGrallocDmabuf =>
      let (rc, p) := MapperBackendDmaBuf.freeBuffer env buffer p
      (some (statusOf rc), p)

/-- `GrallocGenericMapperV5::lock`: the status, and what is written to `*outData`. -/
def Mapper.lock (env : Env) (buffer : Option NativeHandle) (cpuUsage : UInt64) (m : Mapper) :
    (Option AIMapperError × Option (Option Nat)) × Mapper :=
  match buffer with
  | none => ((some .badBuffer, none), m)
  | some buffer =>
    if cpuUsage = 0 then ((some .badValue, none), m)
    else m.withBackend env buffer (some .noResources, none) fun backend p =>
      match backend with
      | .mapperGrallocGbm =>
        let (ret, out, p) := grallocGbmAndroidBufferLock env buffer cpuUsage.toUInt32 p
        ((statusOfRet ret, out), p)
      | .mapperGrallocDmabuf =>
        let (rc, out, p) := MapperBackendDmaBuf.lock env buffer cpuUsage p
        ((some (statusOf rc), out.map some), p)

/-- `GrallocGenericMapperV5::unlock`. -/
def Mapper.unlock (env : Env) (buffer : Option NativeHandle) (m : Mapper) :
    Option AIMapperError × Mapper :=
  match buffer with
  | none => (some .badBuffer, m)
  | some buffer => m.withBackend env buffer (some .noResources) fun backend p =>
    match backend with
    | .mapperGrallocGbm =>
      let (ret, p) := grallocGbmAndroidBufferUnlock buffer p
      (statusOfRet ret, p)
    | .mapperGrallocDmabuf =>
      let (rc, p) := MapperBackendDmaBuf.unlock buffer p
      (some (statusOf rc), p)

/-! ## Metadata -/

/-- `GrallocGenericMapperV5::getStandardMetadata`: the number it returns, and the value encoded
    into the client's buffer. -/
def Mapper.getStandardMetadata (env : Env) (buffer : Option NativeHandle)
    (type : StandardMetadataType) (m : Mapper) : (Ret Int × Option MetadataValue) × Mapper :=
  match buffer with
  | none => ((.ok AIMapperError.badBuffer.code, none), m)
  | some buffer => m.withBackend env buffer (.ok AIMapperError.noResources.code, none)
      fun backend p =>
    let (ret, value, p) := match backend with
      | .mapperGrallocGbm => MapperBackendGrallocGbm.getStandardMetadata env buffer type p
      | .mapperGrallocDmabuf => MapperBackendDmaBuf.getStandardMetadata env buffer type p
    match ret with
    | .ok n => ((.ok (if n < 0 then AIMapperError.noResources.code else n), value), p)
    | .err rc => ((.err rc, value), p)
    | .crash => ((.crash, value), p)

/-- `GrallocGenericMapperV5::setStandardMetadata`. -/
def Mapper.setStandardMetadata (env : Env) (buffer : Option NativeHandle)
    (type : StandardMetadataType) (metadata : Payload) (m : Mapper) :
    Option AIMapperError × Mapper :=
  match buffer with
  | none => (some .badBuffer, m)
  | some buffer => m.withBackend env buffer (some .noResources) fun backend p =>
    match callocChecked env p with
    | (none, p) => (some .noResources, p)
    | (some a, p) =>
      -- the staging record, which no path releases
      let p := { p with heap := insert a p.heap }
      match stageMetadata type metadata p with
      | (none, p) => (some .badValue, p)
      | (some data, p) =>
        match backend with
        | .mapperGrallocGbm =>
          match MapperBackendGrallocGbm.setStandardMetadata buffer type data p with
          | (.ok rc, p) => (some (statusOf rc), p)
          | (_, p) => (none, p)
        -- `MapperBackendDmaBuf::setStandardMetadata` only logs a warning
        | .mapperGrallocDmabuf => (some .none, p)

end GrallocGbm
