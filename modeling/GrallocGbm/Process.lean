/-
  The process: what the code's calls into the platform do, and the state they act on.

  Everything outside the repository (libgbm, the kernel's descriptor table, the heap, the DMA-BUF
  heap allocator) enters through `Env`, a bundle of answers.  Each answer may depend on the number
  of the call, so quantifying over `Env` covers every order of successes and failures.  The one
  promise it carries is a kernel guarantee: a descriptor handed out is not negative and not open.

  `Proc` is the state of one process: the library's globals (`g_driver`,
  `android_buffer_table`, the DMA-BUF mapper's `importedBufferTable` and `allocator`), the live
  buffer objects, the open descriptors, the allocated native handles and metadata blocks, and
  `calls`, the log of the calls made, newest first.

  Some of the platform's functions do more than answer.  They are not in the repository either, and
  are written out here as they are documented:

  * `nativeHandleCreate` refuses counts that are negative or above 1024, and else allocates one
    block, whose words are what the heap had there;
  * `nativeHandleClone` duplicates every descriptor and copies the other words, and if a `dup`
    fails, closes the duplicates it has and releases the block;
  * `nativeHandleClose` closes the descriptors of a handle, `nativeHandleDelete` releases its block;
  * `dupFd` fails with `EBADF` on a descriptor that is not open, and may fail on one that is;
  * `dupToAidl` duplicates the descriptors one by one and leaves `-1` where a `dup` fails, and
    `makeFromAidl` is a handle with the descriptors and words received;
  * `provideStandardMetadata` (in `Metadata`) asks its provider about the types it knows.

  What is simpler than it is:

  * an allocation whose result the source does not check is taken to succeed (a failure is a NULL
    dereference, not a path of the code); the checked ones ask `Env.alloc`, and what a container
    throws for want of memory is modelled for the vectors that a request sizes (`Env.vector`);
  * memory the program has not written, or has released, reads the same each time (`Env.memory`):
    the `ready` of a released driver until the next failed `init`, and the key of a released record;
  * what libgbm makes of the device of a released driver is an answer like any other.

  `Ret.crash` is the process ending abnormally: an exception nobody catches, a division by zero, a
  dangling pointer.
-/
import GrallocGbm.Handle
import Mathlib.Data.Finset.Card
import Mathlib.Data.Finset.Image

namespace GrallocGbm

/-! ## Records

  The data that goes through the program, and the environment that answers its calls. -/

/-- What a call of the code gives back: a result, an error number, or no return at all. -/
inductive Ret (α : Type) where
  | ok (a : α)
  | err (rc : Int)
  | crash
  deriving DecidableEq, Repr

/-- Did the function return? -/
def Ret.isOk {α : Type} : Ret α → Bool
  | .ok _ => true
  | _ => false

/-- `smpte2086_t`; a `float` is its 32 bits. -/
structure Smpte2086 where
  primaryRedX : UInt32
  primaryRedY : UInt32
  primaryGreenX : UInt32
  primaryGreenY : UInt32
  primaryBlueX : UInt32
  primaryBlueY : UInt32
  whitePointX : UInt32
  whitePointY : UInt32
  maxLuminance : UInt32
  minLuminance : UInt32
  deriving DecidableEq, Repr

/-- `cta861_3_t`. -/
structure Cta8613 where
  maxContentLightLevel : UInt32
  maxFrameAverageLightLevel : UInt32
  deriving DecidableEq, Repr

/-- A pointer to a heap block with its contents.  The metadata blocks are filled by the function
    that allocates them and only read afterwards, so the contents can travel with the pointer. -/
structure Block (α : Type) where
  addr : Nat
  val : α
  deriving DecidableEq, Repr

/-- `buffer_metadata_t`. -/
structure BufferMetadata where
  dataspace : Int32
  blendMode : Int32
  smpte2086 : Option (Block Smpte2086)
  cta8613 : Option (Block Cta8613)
  smpte209450Size : Int32
  smpte209450 : Option (Block (List UInt8))
  deriving DecidableEq, Repr

/-- `gbm_bo_data_t`; `lock_count` is taken as an unbounded integer. -/
structure GbmBoData where
  mapData : Option Nat
  lockCount : Int
  lockedFor : UInt32
  metadata : BufferMetadata
  deriving DecidableEq, Repr

/-- What gbm reports about a buffer object beyond the size and format it was given. -/
structure BoLayout where
  stride : UInt32
  modifier : UInt64
  planeCount : Int32
  deriving DecidableEq, Repr

/-- `struct gbm_bo`: the arguments it was made with, what gbm reports, and its user data. -/
structure Bo where
  width : UInt32
  height : UInt32
  format : UInt32
  flags : UInt32
  layout : BoLayout
  data : Option GbmBoData
  deriving DecidableEq, Repr

/-- `struct gbm_import_fd_modifier_data`, with entry 0 of its arrays (the others stay zero). -/
structure ImportFdModifierData where
  width : UInt32
  height : UInt32
  format : UInt32
  numFds : UInt32
  fd : Int
  stride : Int32
  modifier : UInt64
  deriving DecidableEq, Repr

/-- `SyncType` of the DMA-BUF heap library. -/
inductive SyncType where
  | kSyncRead
  | kSyncWrite
  | kSyncReadWrite
  deriving DecidableEq, Repr

/-- A call out of the repository, with its result. -/
inductive ExtCall where
  | alloc (ok : Bool)
  | openRenderNode (fd : Option Int)
  | createDevice (ok : Bool)
  | dup (fd : Int) (res : Option Int)
  | boCreate (width height format flags : UInt32) (bo : Option Nat)
  | boImport (data : ImportFdModifierData) (flags : UInt32) (bo : Option Nat)
  | boDestroy (bo : Nat)
  | boGetFd (bo : Nat) (fd : Option Int)
  | boMap (bo : Nat) (transfer : UInt32) (mapData : Option Nat)
  | boUnmap (bo : Nat)
  | allocSystem (size : UInt64) (fd : Option Int)
  | heapList (empty : Bool)
  | mmap (fd : Int) (addr : Option Nat)
  | cpuSyncStart (fd : Int) (syncType : SyncType)
  | cpuSyncEnd (fd : Int) (syncType : SyncType)
  deriving DecidableEq, Repr

/-- The answers of everything outside the repository, by number of the call. -/
structure Env where
  /-- `gbm_device_is_format_supported` -/
  isFormatSupported : UInt32 → UInt32 → Bool
  /-- Does a checked heap allocation succeed? -/
  alloc : Nat → Bool
  /-- The words of a block that the program has not written: of a fresh block, of the memory
      behind one, or of a block read after its release. -/
  memory : Nat → Nat → Int
  /-- The descriptor a call that makes one returns, given the open ones. -/
  newFd : Nat → Finset Int → Option Int
  newFd_fresh : ∀ n fds fd, newFd n fds = some fd → 0 ≤ fd ∧ fd ∉ fds
  /-- `gbm_create_device` -/
  createDevice : Nat → Bool
  /-- `gbm_bo_create` -/
  boCreate : Nat → UInt32 → UInt32 → UInt32 → UInt32 → Option BoLayout
  /-- `gbm_bo_import` -/
  boImport : Nat → ImportFdModifierData → UInt32 → Option BoLayout
  /-- `gbm_bo_map`: the address of the mapping (and of its non-NULL `map_data`), or NULL. -/
  boMap : Nat → Option Nat
  /-- `mmap` -/
  mmap : Nat → Option Nat
  /-- Is `GetDmabufHeapList()` empty? -/
  heapListEmpty : Nat → Bool
  /-- The byte size the metadata encoder reports for the `n`-th call. -/
  encode : Nat → Nat
  /-- Is this descriptor open without having been handed out by one of the calls here?  So are the
      descriptors of a handle that came in with a request. -/
  received : Nat → Int → Bool
  /-- Is there room for a vector of that many elements? -/
  vector : Nat → Nat → Bool

/-- `gralloc_gbm_android_buffer_t`, with the address of the entry. -/
structure AndroidBuffer where
  addr : Nat
  fd : Int
  bo : Nat
  deriving DecidableEq, Repr

/-- `dma_buffer_info_t`, with the address of the record. -/
structure DmaBufferInfo where
  addr : Nat
  primeFd : Int
  bufferId : Nat
  width : Int32
  height : Int32
  format : Int32
  usage : UInt32
  stride : UInt32
  size : UInt64
  mapped : Option Nat
  isProtected : Bool
  deriving DecidableEq, Repr

/-- `g_driver`: NULL, a ready driver with its render node, or a pointer to a released block, which
    is what a failed `gralloc_gbm_init` leaves behind.  The library goes on to read `ready` through
    that pointer; `ready` here is what the released memory answers. -/
inductive GDriver where
  | null
  | live (driFd : Int)
  | released (ready : Bool)
  deriving DecidableEq, Repr

/-- The state of one process. -/
structure Proc where
  gDriver : GDriver
  /-- `android_buffer_table` -/
  table : List AndroidBuffer
  /-- The live buffer objects, by address; 0 is NULL. -/
  bos : Nat → Option Bo
  /-- The open file descriptors. -/
  fds : Finset Int
  /-- The allocated native handles, by address. -/
  handles : Finset Nat
  /-- The allocated metadata blocks, by address. -/
  heap : Finset Nat
  /-- `importedBufferTable` of the DMA-BUF mapper. -/
  importedBufferTable : List DmaBufferInfo
  /-- Is the backend's static `BufferAllocator` pointer set? -/
  dmaAllocator : Bool
  /-- The next address the heap hands out. -/
  next : Nat
  calls : List ExtCall

/-- A process that has just started, with the three standard descriptors open. -/
def Proc.start : Proc where
  gDriver := .null
  table := []
  bos := fun _ => none
  fds := {0, 1, 2}
  handles := ∅
  heap := ∅
  importedBufferTable := []
  dmaAllocator := false
  next := 1
  calls := []

/-! ## A plain environment

  Everything succeeds, and descriptors are handed out lowest first above the standard streams.
  Concrete runs are taken in it. -/

/-- The lowest descriptor above the standard streams that is not open. -/
def lowestFd (fds : Finset Int) : Option Int :=
  ((List.range (fds.card + 1)).map (fun n => Int.ofNat (n + 3))).find?
    (fun fd => decide (fd ∉ fds))

/-- What it finds is above the standard streams, and not open. -/
theorem lowestFd_fresh {fds : Finset Int} {fd : Int} (h : lowestFd fds = some fd) :
    3 ≤ fd ∧ fd ∉ fds := by
  have hmem := List.mem_of_find?_eq_some h
  obtain ⟨n, _, rfl⟩ := List.mem_map.mp hmem
  exact ⟨by rw [Int.ofNat_eq_natCast]; omega, by simpa using List.find?_some h⟩

/-- There always is one: `card + 1` candidates cannot all be open. -/
theorem lowestFd_isSome (fds : Finset Int) : (lowestFd fds).isSome = true := by
  rw [← Option.not_isNone, Bool.not_eq_true', Option.isNone_eq_false_iff, Option.isSome_iff_ne_none]
  intro hnone
  have hinj : Function.Injective (fun n : Nat => Int.ofNat (n + 3)) := by
    intro a b h
    have := Int.ofNat.inj h
    omega
  have hsub : (Finset.range (fds.card + 1)).map ⟨_, hinj⟩ ⊆ fds := by
    intro fd hfd
    obtain ⟨n, hn, rfl⟩ := Finset.mem_map.mp hfd
    have h := List.find?_eq_none.mp hnone (Int.ofNat (n + 3))
      (List.mem_map_of_mem (List.mem_range.mpr (Finset.mem_range.mp hn)))
    have hopen : Int.ofNat (n + 3) ∈ fds := by simpa using h
    exact hopen
  have hcard := Finset.card_le_card hsub
  rw [Finset.card_map, Finset.card_range] at hcard
  omega

/-- Every answer is a success. -/
def Env.plain : Env where
  isFormatSupported := fun _ _ => true
  alloc := fun _ => true
  memory := fun _ _ => 0
  newFd := fun _ fds => lowestFd fds
  newFd_fresh := fun _ _ _ h => ⟨by have := (lowestFd_fresh h).1; omega, (lowestFd_fresh h).2⟩
  createDevice := fun _ => true
  boCreate := fun _ width _ _ _ => some ⟨width * 4, 0, 1⟩
  boImport := fun _ data _ => some ⟨data.stride.toUInt32, data.modifier, 1⟩
  boMap := fun n => some (4096 * (n + 1))
  mmap := fun n => some (4096 * (n + 1))
  heapListEmpty := fun _ => false
  encode := fun _ => 4
  received := fun _ _ => true
  vector := fun _ _ => true

/-! ## Heap -/

/-- An allocation the source does not check. -/
def malloc (p : Proc) : Nat × Proc := (p.next, { p with next := p.next + 1 })

/-- An allocation the source checks. -/
def callocChecked (env : Env) (p : Proc) : Option Nat × Proc :=
  let ok := env.alloc p.calls.length
  (if ok then some p.next else none, { p with next := p.next + 1, calls := .alloc ok :: p.calls })

/-- `calloc` of a metadata block. -/
def callocBlock (p : Proc) : Nat × Proc :=
  (p.next, { p with next := p.next + 1, heap := insert p.next p.heap })

/-- `free` of a metadata block; `free(NULL)` does nothing. -/
def freeBlock {α : Type} (b : Option (Block α)) (p : Proc) : Proc :=
  match b with
  | some b => { p with heap := p.heap.erase b.addr }
  | none => p

/-! ## File descriptors and native handles

  What is documented of these functions, as far as the program depends on it. -/

/-- The open descriptors after a call that returned `fd`, or failed. -/
def addFd (fd : Option Int) (fds : Finset Int) : Finset Int :=
  match fd with
  | some fd => insert fd fds
  | none => fds

/-- A call that opens a descriptor; `log` makes its entry in the log. -/
def openFd (env : Env) (log : Option Int → ExtCall) (p : Proc) : Option Int × Proc :=
  let fd := env.newFd p.calls.length p.fds
  (fd, { p with fds := addFd fd p.fds, calls := log fd :: p.calls })

/-- `close`. -/
def closeFd (fd : Int) (p : Proc) : Proc := { p with fds := p.fds.erase fd }

/-- Is `fd` an open descriptor of the process, one of those made here or one of those received? -/
def fdIsOpen (env : Env) (fd : Int) (p : Proc) : Bool :=
  decide (0 ≤ fd) && (decide (fd ∈ p.fds) || env.received p.calls.length fd)

/-- What the process has opened is open. -/
theorem fdIsOpen_of_mem (env : Env) {fd : Int} {p : Proc} (h0 : 0 ≤ fd) (h : fd ∈ p.fds) :
    fdIsOpen env fd p = true := by
  simp [fdIsOpen, h0, h]

/-- A negative number is no descriptor. -/
theorem fdIsOpen_of_neg (env : Env) {fd : Int} (p : Proc) (h : fd < 0) :
    fdIsOpen env fd p = false := by
  simp [fdIsOpen, h]

/-- `dup`, which fails with `EBADF` on a descriptor that is not open. -/
def dupFd (env : Env) (fd : Int) (p : Proc) : Option Int × Proc :=
  if fdIsOpen env fd p then openFd env (.dup fd) p
  else (none, { p with calls := .dup fd none :: p.calls })

/-- A `dup` either fails and changes nothing, or finds its argument open and opens one more. -/
theorem dupFd_cases (env : Env) (fd : Int) (p : Proc) :
    dupFd env fd p = (none, { p with calls := .dup fd none :: p.calls }) ∨
    ∃ d, fdIsOpen env fd p = true ∧ env.newFd p.calls.length p.fds = some d ∧
      dupFd env fd p
        = (some d, { p with fds := insert d p.fds, calls := .dup fd (some d) :: p.calls }) := by
  unfold dupFd openFd
  cases hopen : fdIsOpen env fd p with
  | false => exact .inl rfl
  | true =>
    cases hnew : env.newFd p.calls.length p.fds with
    | none => exact .inl rfl
    | some d => exact .inr ⟨d, rfl, rfl, rfl⟩

/-- The process behind a `dup`, from its result. -/
theorem dupFd_snd (env : Env) (fd : Int) (p : Proc) :
    (dupFd env fd p).2 = { p with
      fds := addFd (dupFd env fd p).1 p.fds
      calls := .dup fd (dupFd env fd p).1 :: p.calls } := by
  rcases dupFd_cases env fd p with h | ⟨d, -, -, h⟩
  · rw [h]
    rfl
  · rw [h]
    rfl

/-- A duplicate has a number of its own. -/
theorem dupFd_fresh {env : Env} {fd d : Int} {p : Proc} (h : (dupFd env fd p).1 = some d) :
    0 ≤ d ∧ d ∉ p.fds := by
  rcases dupFd_cases env fd p with hno | ⟨d', -, hnew, hyes⟩
  · rw [hno] at h
    cases h
  · rw [hyes] at h
    obtain rfl := Option.some.inj h
    exact env.newFd_fresh _ _ _ hnew

/-- On an open descriptor `dup` is a call that opens one. -/
theorem dupFd_of_open {env : Env} {fd : Int} {p : Proc} (h : fdIsOpen env fd p = true) :
    dupFd env fd p = openFd env (.dup fd) p := if_pos h

/-- `native_handle_create`. -/
def nativeHandleCreate (env : Env) (numFds numInts : Int) (p : Proc) :
    Option NativeHandle × Proc :=
  if numFds < 0 ∨ numInts < 0 ∨ 1024 < numFds ∨ 1024 < numInts then (none, p)
  else match callocChecked env p with
    | (none, p) => (none, p)
    | (some a, p) => (some ⟨a, numFds, numInts, env.memory a⟩, { p with handles := insert a p.handles })

/-- `native_handle_close`. -/
def nativeHandleClose (h : NativeHandle) (p : Proc) : Proc :=
  { p with fds := p.fds \ h.fds.toFinset }

/-- `native_handle_delete`. -/
def nativeHandleDelete (h : NativeHandle) (p : Proc) : Proc :=
  { p with handles := p.handles.erase h.addr }

/-- Duplicate all descriptors of a list, or none: on a failure the duplicates are closed again. -/
def dupAll (env : Env) : List Int → Proc → Option (List Int) × Proc
  | [], p => (some [], p)
  | fd :: fds, p =>
    match dupFd env fd p with
    | (none, p) => (none, p)
    | (some d, p) =>
      match dupAll env fds p with
      | (none, p) => (none, closeFd d p)
      | (some ds, p) => (some (d :: ds), p)

/-- `native_handle_clone`: a new handle with a duplicate of every descriptor and a copy of the
    other words. -/
def nativeHandleClone (env : Env) (h : NativeHandle) (p : Proc) : Option NativeHandle × Proc :=
  match nativeHandleCreate env h.numFds h.numInts p with
  | (none, p) => (none, p)
  | (some c, p) =>
    match dupAll env h.fds p with
    | (none, p) => (none, nativeHandleDelete c p)
    | (some ds, p) =>
      (some { c with data := fun i =>
          if i < ds.length then ds.getD i 0
          else if i < (h.numFds + h.numInts).toNat then h.data i
          else c.data i }, p)

/-- `gralloc_handle_create`. -/
def grallocHandleCreate (env : Env) (width height halFormat usage : UInt32) (p : Proc) :
    Option NativeHandle × Proc :=
  match nativeHandleCreate env grallocHandleNumFds grallocHandleNumInts p with
  | (none, p) => (none, p)
  | (some h, p) => (some (h.describe width height halFormat usage), p)

/-- An AIDL `NativeHandle`: what crosses the process boundary. -/
structure AidlNativeHandle where
  fds : List Int
  ints : List Int
  deriving DecidableEq, Repr

/-- Duplicate the descriptors one by one; a failed `dup` leaves `-1` in its place. -/
def dupEach (env : Env) : List Int → Proc → List Int × Proc
  | [], p => ([], p)
  | fd :: fds, p =>
    let (d, p) := dupFd env fd p
    let (ds, p) := dupEach env fds p
    (d.getD (-1) :: ds, p)

/-- `android::dupToAidl`. -/
def dupToAidl (env : Env) (h : NativeHandle) (p : Proc) : AidlNativeHandle × Proc :=
  let (ds, p) := dupEach env h.fds p
  (⟨ds, (List.range h.numInts.toNat).map (fun i => h.data (h.numFds.toNat + i))⟩, p)

/-- The native handle a client rebuilds from an AIDL one (`makeFromAidl`). -/
def makeFromAidl (addr : Nat) (memory : Nat → Int) (a : AidlNativeHandle) : NativeHandle where
  addr := addr
  numFds := a.fds.length
  numInts := a.ints.length
  data := fun i => (a.fds ++ a.ints).getD i (memory i)

/-! ## Buffer objects

  libgbm's functions on objects; whether they succeed is up to the environment. -/

/-- `gbm_bo_create`, the object being new and without user data. -/
def gbmBoCreate (env : Env) (width height format flags : UInt32) (p : Proc) : Option Nat × Proc :=
  match env.boCreate p.calls.length width height format flags with
  | none => (none, { p with calls := .boCreate width height format flags none :: p.calls })
  | some layout =>
    (some p.next,
      { p with
        next := p.next + 1
        bos := Function.update p.bos p.next (some ⟨width, height, format, flags, layout, none⟩)
        calls := .boCreate width height format flags (some p.next) :: p.calls })

/-- `gbm_bo_import` of a descriptor. -/
def gbmBoImport (env : Env) (data : ImportFdModifierData) (flags : UInt32) (p : Proc) :
    Option Nat × Proc :=
  match env.boImport p.calls.length data flags with
  | none => (none, { p with calls := .boImport data flags none :: p.calls })
  | some layout =>
    (some p.next,
      { p with
        next := p.next + 1
        bos := Function.update p.bos p.next
          (some ⟨data.width, data.height, data.format, flags, layout, none⟩)
        calls := .boImport data flags (some p.next) :: p.calls })

/-- `gbm_bo_get_fd`: a new descriptor that the caller has to close, or `-1`. -/
def gbmBoGetFd (env : Env) (bo : Nat) (p : Proc) : Int × Proc :=
  let (fd, p) := openFd env (.boGetFd bo) p
  (fd.getD (-1), p)

/-- `gbm_bo_set_user_data`, and any later write through the pointer `gbm_bo_get_user_data` gives. -/
def gbmBoSetUserData (bo : Nat) (b : Bo) (d : GbmBoData) (p : Proc) : Proc :=
  { p with bos := Function.update p.bos bo (some { b with data := some d }) }

/-- `gralloc_gbm_bo_data_destroy`, the destructor callback of the user data. -/
def grallocGbmBoDataDestroy (d : Option GbmBoData) (p : Proc) : Proc :=
  match d with
  | some d => freeBlock d.metadata.cta8613 (freeBlock d.metadata.smpte2086 p)
  | none => p

/-- `gbm_bo_destroy` of the live object `b` at `bo`. -/
def gbmBoDestroy (bo : Nat) (b : Bo) (p : Proc) : Proc :=
  let p := grallocGbmBoDataDestroy b.data p
  { p with bos := Function.update p.bos bo none, calls := .boDestroy bo :: p.calls }

/-! ## Reading the log -/

/-- The arguments of `gbm_bo_create`. -/
structure BoArgs where
  width : UInt32
  height : UInt32
  format : UInt32
  flags : UInt32
  deriving DecidableEq, Repr

/-- The `gbm_bo_create` calls of a log, with the objects they returned, newest first. -/
def boCreateCalls : List ExtCall → List (BoArgs × Option Nat)
  | [] => []
  | .boCreate width height format flags bo :: calls =>
    (⟨width, height, format, flags⟩, bo) :: boCreateCalls calls
  | _ :: calls => boCreateCalls calls

/-- The arguments of the `gbm_bo_import` calls of a log, newest first. -/
def boImportCalls : List ExtCall → List (ImportFdModifierData × UInt32)
  | [] => []
  | .boImport data flags _ :: calls => (data, flags) :: boImportCalls calls
  | _ :: calls => boImportCalls calls

/-- A call that reports success has a result. -/
theorem Ret.exists_of_isOk {α : Type} {x : Ret α × Proc} (h : x.1.isOk = true) :
    ∃ r p, x = (.ok r, p) := by
  obtain ⟨ret, p⟩ := x
  cases ret with
  | ok r => exact ⟨r, p, rfl⟩
  | err rc => cases h
  | crash => cases h

end GrallocGbm
