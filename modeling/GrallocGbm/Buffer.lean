/-
  Managed buffers: the buffer table, allocation, import and release
  (`common/gralloc_gbm.c`).

  A buffer is created by `gralloc_gbm_android_buffer_new` in the allocator process and imported by
  `gralloc_gbm_android_buffer_import` in the process that uses it.  Both compute a size for the
  buffer object: the creator (`newSize`) from the requested size, the importer (`importSize`) from
  the size it finds in the handle, which is the one the creator stored, already adjusted.

  The table is `uthash`'s, keyed by the descriptor in the handle.  Here it is a list of entries with
  the newest first, which is all that the functions of this module can see of it as long as no key
  is in it twice; `UtHash` has the table itself, and `HashedTable` shows that the two agree.

  The driver is one pointer, and three things can be behind it (`GDriver`).  After a failed
  `gralloc_gbm_init` it points to the released block, and `is_gralloc_gbm_ready` reads `ready` out
  of that: whatever is there (`readyOfReleased`).  If it reads as ready the library goes on with a
  device that does not exist, and what libgbm says to that is an answer of the environment.

  The order in which the functions do things is kept, for it is what a failure leaves behind that
  most of the development is about: the native handle is created before the object, the object
  before its user data, the descriptor before the table entry.  No error path of
  `gralloc_gbm_android_buffer_new` undoes any of these.

  The second half has one inversion lemma for each operation.  It lists every outcome with the whole
  state that it leaves, guards included, so that no later module unfolds the operation:

  * `grallocGbmAndroidBufferNew_cases`, and `grallocGbmAndroidBufferNew_ok` for a success alone;
  * `grallocGbmAndroidBufferImport_cases`;
  * `grallocGbmAndroidBufferFree_cases`, with `gbmBoDestroy_eq` for the object that it destroys.
-/
import GrallocGbm.Lib.Align
import GrallocGbm.Lib.Keyed
import GrallocGbm.Process

namespace GrallocGbm

open Align

/-! ## The buffer table

  The three operations on the table, as those of a list of entries with keys. -/

/-- `find_buffer_k`: `HASH_FIND_INT` on the descriptor. -/
def findBufferK (fd : Int) (table : List AndroidBuffer) : Option AndroidBuffer :=
  Keyed.lookup AndroidBuffer.fd fd table

/-- `add_buffer` of a non-NULL entry: a duplicate key is logged, and added all the same. -/
def addBuffer (buffer : AndroidBuffer) (p : Proc) : Proc :=
  { p with table := buffer :: p.table }

/-- `delete_buffer` of a non-NULL entry. -/
def deleteBuffer (buffer : AndroidBuffer) (p : Proc) : Proc :=
  { p with table := Keyed.remove AndroidBuffer.addr buffer.addr p.table }

/-! ## The driver

  The library's view of its driver: a pointer, which may dangle. -/

/-- `is_gralloc_gbm_ready`: `g_driver && g_driver->ready`, whatever the pointer points to. -/
def isGrallocGbmReady (p : Proc) : Bool :=
  match p.gDriver with
  | .null => false
  | .live _ => true
  | .released ready => ready

/-- What a driver block at `a` reads as its `ready`, the first byte of the block, once it has been
    released. -/
def readyOfReleased (env : Env) (a : Nat) : Bool := env.memory a 0 % 256 != 0

/-- `gralloc_gbm_init`.  Both failures behind the `calloc` release the block and keep the pointer. -/
def grallocGbmInit (env : Env) (p : Proc) : Int × Proc :=
  if isGrallocGbmReady p then (0, p)
  else match callocChecked env p with
    | (none, p) => (-eNOMEM, { p with gDriver := .null })
    | (some a, p) =>
      match openFd env .openRenderNode p with
      | (none, p) => (-eNODEV, { p with gDriver := .released (readyOfReleased env a) })
      | (some driFd, p) =>
        let ok := env.createDevice p.calls.length
        let p := { p with calls := .createDevice ok :: p.calls }
        if ok then (0, { p with gDriver := .live driFd })
        else (-eINVAL, { closeFd driFd p with gDriver := .released (readyOfReleased env a) })

/-- A process in which `gralloc_gbm_init` has just succeeded. -/
def Proc.ready : Proc := (grallocGbmInit Env.plain Proc.start).2

/-! ## User data

  Every buffer object carries a record of the library's, with the lock state and the metadata. -/

/-- `GRALLOC_GENERIC_SMPTE2094_50_MAX_SIZE`. -/
def grallocGenericSmpte209450MaxSize : Nat := 1024 * 10

/-- The zero-filled user data whose three metadata blocks start at `a`. -/
def zeroBoData (a : Nat) : GbmBoData where
  mapData := none
  lockCount := 0
  lockedFor := 0
  metadata :=
    { dataspace := 0
      blendMode := 0
      smpte2086 := some ⟨a, ⟨0, 0, 0, 0, 0, 0, 0, 0, 0, 0⟩⟩
      cta8613 := some ⟨a + 1, ⟨0, 0⟩⟩
      smpte209450Size := 0
      smpte209450 := some ⟨a + 2, List.replicate grallocGenericSmpte209450MaxSize 0⟩ }

/-- `gralloc_gbm_bo_user_data_init`: the user data of the object, made zero-filled if missing. -/
def grallocGbmBoUserDataInit (bo : Nat) (p : Proc) : Option GbmBoData × Proc :=
  match p.bos bo with
  | none => (none, p)
  | some b =>
    match b.data with
    | some d => (some d, p)
    | none =>
      -- the blocks of smpte2086, cta861_3 and smpte2094_50, in this order
      let d := zeroBoData p.next
      let p := (callocBlock (callocBlock (callocBlock p).2).2).2
      (some d, gbmBoSetUserData bo b d p)

/-- `gbm_bo_get_user_data`. -/
def gbmBoGetUserData (bo : Nat) (p : Proc) : Option GbmBoData := (p.bos bo).bind Bo.data

/-- An assignment through the pointer `gbm_bo_get_user_data` gives. -/
def modifyBoData (bo : Nat) (f : GbmBoData → GbmBoData) (p : Proc) : Proc :=
  { p with
    bos := Function.update p.bos bo ((p.bos bo).map fun b => { b with data := b.data.map f }) }

/-- A modification is seen at its own object only. -/
theorem gbmBoGetUserData_modify (bo bo' : Nat) (f : GbmBoData → GbmBoData) (p : Proc) :
    gbmBoGetUserData bo' (modifyBoData bo f p)
      = if bo' = bo then (gbmBoGetUserData bo p).map f else gbmBoGetUserData bo' p := by
  unfold gbmBoGetUserData modifyBoData
  by_cases h : bo' = bo
  · subst h
    cases p.bos bo' <;> simp
  · simp [h]

/-- It makes no object and destroys none. -/
theorem modifyBoData_isSome (bo bo' : Nat) (f : GbmBoData → GbmBoData) (p : Proc) :
    ((modifyBoData bo f p).bos bo').isSome = (p.bos bo').isSome := by
  unfold modifyBoData
  by_cases h : bo' = bo
  · subst h
    simp
  · simp [h]

/-- User data that is there is found, and nothing changes. -/
theorem grallocGbmBoUserDataInit_of_some {bo : Nat} {d : GbmBoData} {p : Proc}
    (h : gbmBoGetUserData bo p = some d) : grallocGbmBoUserDataInit bo p = (some d, p) := by
  obtain ⟨b, hb, hd⟩ := Option.bind_eq_some_iff.mp h
  simp [grallocGbmBoUserDataInit, hb, hd]

/-! ## Allocation

  The adjustment of the size in the order of the source, then the handle, the object, the user
  data, the export, and the entry.  Each failure returns without undoing the steps before it. -/

/-- `MAX(A, B)`. -/
def cMax {α : Type} [LT α] [DecidableLT α] (a b : α) : α := if b < a then a else b

/-- The cursor block of both functions, for one extent: "some GPUs require 64 pixels at least for
    cursor", aligned to 4 unless `GRALLOC_GBM_NO_CURSOR_ALIGNING` is defined. -/
def cursorExtent {α : Type} [LT α] [DecidableLT α] [Add α] [Sub α] [AndOp α] [Complement α]
    [OfNat α 1] [OfNat α 4] [OfNat α 64] (cfg : BuildConfig) (x : α) : α :=
  if cfg.noCursorAligning then cMax x 64 else alignUp (cMax x 64) 4

/-- The size `gralloc_gbm_android_buffer_new` requests, in its `int32_t` arithmetic: the cursor
    block, then the YV12 adjustment to a GR88 buffer of the same bytes (half the width, one and a
    half times the height). -/
def newSize (cfg : BuildConfig) (desc : AllocatorDesc) (flags : UInt32) : Int32 × Int32 :=
  let (width, height) :=
    if flags &&& gbmBoUseCursor ≠ 0 then (cursorExtent cfg desc.width, cursorExtent cfg desc.height)
    else (desc.width, desc.height)
  if desc.format.toUInt32 = halPixelFormatYv12 then
    (alignUp desc.width 32 / 2, height + alignUp desc.height 2 / 2)
  else (width, height)

/-- The arguments `gralloc_gbm_android_buffer_new` computes for `gbm_bo_create`. -/
def newArgs (cfg : BuildConfig) (desc : AllocatorDesc) : BoArgs :=
  let gbmFormat := colorFmtA2g desc.format.toUInt32
  let flags := grallocGbmCalculateGbmFlags cfg (usageBits desc.usage) gbmFormat
  let (width, height) := newSize cfg desc flags
  ⟨width.toUInt32, height.toUInt32, gbmFormat, flags⟩

/-- `gralloc_gbm_android_buffer_new`: the handle and its byte stride. -/
def grallocGbmAndroidBufferNew (cfg : BuildConfig) (env : Env) (desc : AllocatorDesc) (p : Proc) :
    Ret (NativeHandle × UInt32) × Proc :=
  let args := newArgs cfg desc
  if !isGrallocGbmReady p then (.err (-eNODEV), p)
  else if args.format ≤ 0 then (.err (-eINVAL), p)
  else match grallocHandleCreate env args.width args.height desc.format.toUInt32
      (usageBits desc.usage) p with
    | (none, p) => (.err (-eINVAL), p)
    | (some handle, p) =>
      match gbmBoCreate env args.width args.height args.format args.flags p with
      | (none, p) => (.err (-eINVAL), p)
      | (some bo, p) =>
        match grallocGbmBoUserDataInit bo p, p.bos bo with
        | (some _, p), some b =>
          let (primeFd, p) := gbmBoGetFd env bo p
          let handle := ((handle.setStride b.layout.stride).setPrimeFd primeFd).setModifier
            b.layout.modifier
          match callocChecked env p with
          | (none, p) => (.err (-eNOMEM), p)
          | (some a, p) =>
            let p := addBuffer ⟨a, primeFd, bo⟩ p
            -- the closing log message has `gbm_bo_get_fd(bo)` among its arguments
            let (_, p) := gbmBoGetFd env bo p
            (.ok (handle, b.layout.stride), p)
        | (_, p), _ => (.err (-eINVAL), p)

/-! ## Import

  The adjustment once more, from the fields of the handle, and then the object and its entry. -/

/-- The size `gralloc_gbm_android_buffer_import` passes on, in its `uint32_t` arithmetic: first the
    YV12 adjustment, then the cursor block, each from the handle's size. -/
def importSize (cfg : BuildConfig) (g : GrallocHandle) (flags : UInt32) : UInt32 × UInt32 :=
  let (width, height) :=
    if g.format = halPixelFormatYv12 then
      (alignUp g.width 32 / 2, g.height + alignUp g.height 2 / 2)
    else (g.width, g.height)
  if flags &&& gbmBoUseCursor ≠ 0 then (cursorExtent cfg g.width, cursorExtent cfg g.height)
  else (width, height)

/-- The arguments `gralloc_gbm_android_buffer_import` computes for `gbm_bo_import`. -/
def importArgs (cfg : BuildConfig) (g : GrallocHandle) : ImportFdModifierData × UInt32 :=
  let gbmFormat := colorFmtA2g g.format
  let flags := grallocGbmCalculateGbmFlags cfg g.usage gbmFormat
  let (width, height) := importSize cfg g flags
  ({ width := width, height := height, format := gbmFormat, numFds := 1, fd := g.primeFd
     stride := g.stride.toInt32, modifier := g.modifier }, flags)

/-- `gralloc_gbm_android_buffer_import`. -/
def grallocGbmAndroidBufferImport (cfg : BuildConfig) (env : Env) (handle : NativeHandle)
    (p : Proc) : Int × Proc :=
  let g := grallocHandle handle
  let (fdData, flags) := importArgs cfg g
  if !isGrallocGbmReady p then (-eNODEV, p)
  else match callocChecked env p with
    | (none, p) => (-eNOMEM, p)
    | (some _, p) =>
      if fdData.format ≤ 0 then (-eINVAL, p)
      else match gbmBoImport env fdData flags p with
        | (none, p) => (-eINVAL, p)
        | (some bo, p) =>
          let (_, p) := grallocGbmBoUserDataInit bo p
          let (a, p) := malloc p
          (0, addBuffer ⟨a, g.primeFd, bo⟩ p)

/-! ## Release -/

/-- `gralloc_gbm_android_buffer_free`. -/
def grallocGbmAndroidBufferFree (handle : NativeHandle) (p : Proc) : Ret Unit × Proc :=
  if !isGrallocGbmReady p then (.err (-eNODEV), p)
  else match findBufferK (grallocHandle handle).primeFd p.table with
    | none => (.ok (), p)
    | some buffer =>
      match p.bos buffer.bo with
      | none => (.crash, p)
      | some b => (.ok (), deleteBuffer buffer (gbmBoDestroy buffer.bo b p))

/-! ## What the operations do to the process

  One inversion lemma each: every outcome with the whole state it leaves. -/

theorem grallocHandleCreate_eq (env : Env) (width height halFormat usage : UInt32) (p : Proc) :
    grallocHandleCreate env width height halFormat usage p =
      if env.alloc p.calls.length then
        (some ((⟨p.next, 1, 12, env.memory p.next⟩ : NativeHandle).describe width height halFormat usage),
          { p with
            next := p.next + 1
            handles := insert p.next p.handles
            calls := .alloc true :: p.calls })
      else (none, { p with next := p.next + 1, calls := .alloc false :: p.calls }) := by
  cases h : env.alloc p.calls.length <;>
    simp [grallocHandleCreate, nativeHandleCreate, grallocHandleNumFds, grallocHandleNumInts,
      callocChecked, h]

/-- The handle a successful allocation hands out: the gralloc fields over a fresh block. -/
def createdHandle (cfg : BuildConfig) (env : Env) (desc : AllocatorDesc) (layout : BoLayout)
    (fd : Int) (a : Nat) : NativeHandle :=
  ((((⟨a, 1, 12, env.memory a⟩ : NativeHandle).describe (newArgs cfg desc).width
    (newArgs cfg desc).height desc.format.toUInt32 (usageBits desc.usage)).setStride
      layout.stride).setPrimeFd fd).setModifier layout.modifier

/-- The buffer object behind it, with its user data. -/
def createdBo (cfg : BuildConfig) (desc : AllocatorDesc) (layout : BoLayout) (a : Nat) : Bo :=
  ⟨(newArgs cfg desc).width, (newArgs cfg desc).height, (newArgs cfg desc).format,
    (newArgs cfg desc).flags, layout, some (zeroBoData a)⟩

/-- Every outcome of an allocation.  A failure leaves behind what was made before it: the handle
    if `gbm_bo_create` fails, the object, its descriptor and the handle if the table entry cannot
    be allocated.  A success opens two descriptors, one for the handle and the key, one for the log
    message. -/
theorem grallocGbmAndroidBufferNew_cases (cfg : BuildConfig) (env : Env) (desc : AllocatorDesc)
    (p : Proc) :
    let args := newArgs cfg desc
    let r := grallocGbmAndroidBufferNew cfg env desc p
    (∃ rc, isGrallocGbmReady p = false ∧ r = (.err rc, p)) ∨
    (∃ rc, isGrallocGbmReady p = true ∧ env.alloc p.calls.length = false ∧
      r = (.err rc, { p with next := p.next + 1, calls := .alloc false :: p.calls })) ∨
    (∃ rc, isGrallocGbmReady p = true ∧ env.alloc p.calls.length = true ∧
      env.boCreate (p.calls.length + 1) args.width args.height args.format args.flags = none ∧
      r = (.err rc, { p with
        next := p.next + 1
        handles := insert p.next p.handles
        calls := .boCreate args.width args.height args.format args.flags none ::
          .alloc true :: p.calls })) ∨
    (∃ layout fd, isGrallocGbmReady p = true ∧ env.alloc p.calls.length = true ∧
      env.boCreate (p.calls.length + 1) args.width args.height args.format args.flags = some layout ∧
      fd = env.newFd (p.calls.length + 2) p.fds ∧
      ((∃ rc, env.alloc (p.calls.length + 3) = false ∧
        r = (.err rc, { p with
          bos := Function.update p.bos (p.next + 1) (some (createdBo cfg desc layout (p.next + 2)))
          fds := addFd fd p.fds
          handles := insert p.next p.handles
          heap := insert (p.next + 4) (insert (p.next + 3) (insert (p.next + 2) p.heap))
          next := p.next + 6
          calls := .alloc false :: .boGetFd (p.next + 1) fd ::
            .boCreate args.width args.height args.format args.flags (some (p.next + 1)) ::
            .alloc true :: p.calls })) ∨
      (∃ logFd, env.alloc (p.calls.length + 3) = true ∧
        logFd = env.newFd (p.calls.length + 4) (addFd fd p.fds) ∧
        r = (.ok (createdHandle cfg env desc layout (fd.getD (-1)) p.next, layout.stride), { p with
          table := ⟨p.next + 5, fd.getD (-1), p.next + 1⟩ :: p.table
          bos := Function.update p.bos (p.next + 1) (some (createdBo cfg desc layout (p.next + 2)))
          fds := addFd logFd (addFd fd p.fds)
          handles := insert p.next p.handles
          heap := insert (p.next + 4) (insert (p.next + 3) (insert (p.next + 2) p.heap))
          next := p.next + 6
          calls := .boGetFd (p.next + 1) logFd :: .alloc true :: .boGetFd (p.next + 1) fd ::
            .boCreate args.width args.height args.format args.flags (some (p.next + 1)) ::
            .alloc true :: p.calls })))) := by
  intro args r
  have hfmt : ¬ args.format ≤ 0 := colorFmtA2g_pos _
  cases hr : isGrallocGbmReady p with
  | false => exact .inl ⟨_, rfl, by simp [r, grallocGbmAndroidBufferNew, hr]; rfl⟩
  | true =>
    refine .inr ?_
    have hr' : r = _ := grallocGbmAndroidBufferNew.eq_def cfg env desc p
    simp only [hr, Bool.not_true, Bool.false_eq_true, if_false, grallocHandleCreate_eq] at hr'
    rw [if_neg hfmt] at hr'
    cases ha : env.alloc p.calls.length with
    | false =>
      simp only [ha, Bool.false_eq_true, if_false] at hr'
      exact .inl ⟨_, rfl, rfl, hr'⟩
    | true =>
      refine .inr ?_
      simp only [ha, if_true, gbmBoCreate, List.length_cons] at hr'
      cases hb : env.boCreate (p.calls.length + 1) args.width args.height args.format args.flags with
      | none => exact .inl ⟨_, rfl, rfl, rfl, by simp only [args, hb] at hr' ⊢; exact hr'⟩
      | some layout =>
        refine .inr ⟨layout, _, rfl, rfl, rfl, rfl, ?_⟩
        simp only [args] at hb
        simp only [hb, grallocGbmBoUserDataInit, Function.update_self, gbmBoGetFd, openFd,
          callocChecked, callocBlock, gbmBoSetUserData, List.length_cons] at hr'
        cases ha2 : env.alloc (p.calls.length + 3) with
        | false =>
          simp only [ha2, Bool.false_eq_true, if_false, Function.update_idem] at hr'
          exact .inl ⟨_, rfl, hr'⟩
        | true =>
          simp only [ha2, if_true, Function.update_idem, addBuffer] at hr'
          exact .inr ⟨_, rfl, rfl, hr'⟩

/-- A successful allocation. -/
theorem grallocGbmAndroidBufferNew_ok {cfg : BuildConfig} {env : Env} {desc : AllocatorDesc}
    {p p' : Proc} {r : NativeHandle × UInt32}
    (h : grallocGbmAndroidBufferNew cfg env desc p = (.ok r, p')) :
    ∃ (layout : BoLayout) (fd logFd : Option Int),
      isGrallocGbmReady p = true ∧
      fd = env.newFd (p.calls.length + 2) p.fds ∧
      logFd = env.newFd (p.calls.length + 4) (addFd fd p.fds) ∧
      r = (createdHandle cfg env desc layout (fd.getD (-1)) p.next, layout.stride) ∧
      p' = { p with
        table := ⟨p.next + 5, fd.getD (-1), p.next + 1⟩ :: p.table
        bos := Function.update p.bos (p.next + 1) (some (createdBo cfg desc layout (p.next + 2)))
        fds := addFd logFd (addFd fd p.fds)
        handles := insert p.next p.handles
        heap := insert (p.next + 4) (insert (p.next + 3) (insert (p.next + 2) p.heap))
        next := p.next + 6
        calls := .boGetFd (p.next + 1) logFd :: .alloc true :: .boGetFd (p.next + 1) fd ::
          .boCreate (newArgs cfg desc).width (newArgs cfg desc).height (newArgs cfg desc).format
            (newArgs cfg desc).flags (some (p.next + 1)) :: .alloc true :: p.calls } := by
  have hcases := grallocGbmAndroidBufferNew_cases cfg env desc p
  simp only [h] at hcases
  rcases hcases with ⟨rc, -, h⟩ | ⟨rc, -, -, h⟩ | ⟨rc, -, -, -, h⟩ |
    ⟨layout, fd, hready, -, -, hfd, ⟨rc, -, h⟩ | ⟨logFd, -, hlog, h⟩⟩
  · cases h
  · cases h
  · cases h
  · cases h
  · obtain ⟨h1, rfl⟩ := Prod.mk.inj h
    exact ⟨layout, fd, logFd, hready, hfd, hlog, Ret.ok.inj h1, rfl⟩

/-- The buffer object of a successful import. -/
def importedBo (cfg : BuildConfig) (g : GrallocHandle) (layout : BoLayout) (a : Nat) : Bo :=
  ⟨(importArgs cfg g).1.width, (importArgs cfg g).1.height, (importArgs cfg g).1.format,
    (importArgs cfg g).2, layout, some (zeroBoData a)⟩

/-- An import ends in one of four ways: the driver is not ready, there is no memory, gbm refuses, or
    there is a new object with an entry for it. -/
theorem grallocGbmAndroidBufferImport_cases (cfg : BuildConfig) (env : Env) (handle : NativeHandle)
    (p : Proc) :
    let g := grallocHandle handle
    let args := importArgs cfg g
    let r := grallocGbmAndroidBufferImport cfg env handle p
    (isGrallocGbmReady p = false ∧ r = (-eNODEV, p)) ∨
    (isGrallocGbmReady p = true ∧ env.alloc p.calls.length = false ∧
      r = (-eNOMEM, { p with next := p.next + 1, calls := .alloc false :: p.calls })) ∨
    (isGrallocGbmReady p = true ∧ env.alloc p.calls.length = true ∧
      env.boImport (p.calls.length + 1) args.1 args.2 = none ∧
      r = (-eINVAL, { p with
        next := p.next + 1
        calls := .boImport args.1 args.2 none :: .alloc true :: p.calls })) ∨
    (∃ layout, isGrallocGbmReady p = true ∧ env.alloc p.calls.length = true ∧
      env.boImport (p.calls.length + 1) args.1 args.2 = some layout ∧
      r = (0, { p with
        table := ⟨p.next + 5, g.primeFd, p.next + 1⟩ :: p.table
        bos := Function.update p.bos (p.next + 1) (some (importedBo cfg g layout (p.next + 2)))
        heap := insert (p.next + 4) (insert (p.next + 3) (insert (p.next + 2) p.heap))
        next := p.next + 6
        calls := .boImport args.1 args.2 (some (p.next + 1)) :: .alloc true :: p.calls })) := by
  intro g args r
  have hfmt : ¬ args.1.format ≤ 0 := colorFmtA2g_pos _
  cases hr : isGrallocGbmReady p with
  | false => exact .inl ⟨rfl, by simp [r, grallocGbmAndroidBufferImport, hr]⟩
  | true =>
    refine .inr ?_
    cases ha : env.alloc p.calls.length with
    | false => exact .inl ⟨rfl, rfl, by simp [r, grallocGbmAndroidBufferImport, hr, callocChecked, ha]⟩
    | true =>
      refine .inr ?_
      have hr' : r = match gbmBoImport env args.1 args.2
          { p with next := p.next + 1, calls := .alloc true :: p.calls } with
          | (none, p) => (-eINVAL, p)
          | (some bo, p) =>
            let (_, p) := grallocGbmBoUserDataInit bo p
            let (a, p) := malloc p
            (0, addBuffer ⟨a, g.primeFd, bo⟩ p) := by
        simp [r, grallocGbmAndroidBufferImport, hr, callocChecked, ha, hfmt, args, g]
      rw [hr']
      cases hi : env.boImport (p.calls.length + 1) args.1 args.2 with
      | none => exact .inl ⟨rfl, rfl, rfl, by simp [gbmBoImport, hi]⟩
      | some layout =>
        refine .inr ⟨layout, rfl, rfl, rfl, ?_⟩
        simp [gbmBoImport, hi, grallocGbmBoUserDataInit, Function.update_self, callocBlock, malloc,
          gbmBoSetUserData, addBuffer, importedBo, args, g, Function.update_idem]

/-- So does a free: the driver is not ready, nothing is found, the entry's object is dead, or the
    entry goes and the object with it. -/
theorem grallocGbmAndroidBufferFree_cases (handle : NativeHandle) (p : Proc) :
    let r := grallocGbmAndroidBufferFree handle p
    (isGrallocGbmReady p = false ∧ r = (.err (-eNODEV), p)) ∨
    (isGrallocGbmReady p = true ∧ findBufferK (grallocHandle handle).primeFd p.table = none ∧
      r = (.ok (), p)) ∨
    (∃ buffer, isGrallocGbmReady p = true ∧
      findBufferK (grallocHandle handle).primeFd p.table = some buffer ∧ p.bos buffer.bo = none ∧
      r = (.crash, p)) ∨
    (∃ buffer b, isGrallocGbmReady p = true ∧
      findBufferK (grallocHandle handle).primeFd p.table = some buffer ∧
      p.bos buffer.bo = some b ∧
      r = (.ok (), deleteBuffer buffer (gbmBoDestroy buffer.bo b p))) := by
  intro r
  cases hr : isGrallocGbmReady p with
  | false => exact .inl ⟨rfl, by simp [r, grallocGbmAndroidBufferFree, hr]⟩
  | true =>
    refine .inr ?_
    cases hf : findBufferK (grallocHandle handle).primeFd p.table with
    | none => exact .inl ⟨rfl, rfl, by simp [r, grallocGbmAndroidBufferFree, hr, hf]⟩
    | some buffer =>
      refine .inr ?_
      cases hb : p.bos buffer.bo with
      | none => exact .inl ⟨buffer, rfl, rfl, hb, by simp [r, grallocGbmAndroidBufferFree, hr, hf, hb]⟩
      | some b =>
        exact .inr ⟨buffer, b, rfl, rfl, hb, by simp [r, grallocGbmAndroidBufferFree, hr, hf, hb]⟩

/-- Freeing a block is about the heap alone. -/
theorem freeBlock_eq {α : Type} (b : Option (Block α)) (p : Proc) :
    ∃ heap, freeBlock b p = { p with heap := heap } := by
  cases b with
  | none => exact ⟨_, rfl⟩
  | some b => exact ⟨_, rfl⟩

/-- Destroying an object releases metadata blocks, and touches no other object. -/
theorem gbmBoDestroy_eq (bo : Nat) (b : Bo) (p : Proc) :
    ∃ heap, gbmBoDestroy bo b p = { p with
      bos := Function.update p.bos bo none
      heap := heap
      calls := .boDestroy bo :: p.calls } := by
  unfold gbmBoDestroy grallocGbmBoDataDestroy
  cases b.data with
  | none => exact ⟨_, rfl⟩
  | some d =>
    obtain ⟨heap, h⟩ := freeBlock_eq d.metadata.smpte2086 p
    obtain ⟨heap', h'⟩ := freeBlock_eq d.metadata.cta8613 (freeBlock d.metadata.smpte2086 p)
    dsimp only
    rw [h', h]
    exact ⟨_, rfl⟩

end GrallocGbm
