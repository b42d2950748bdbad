/-
  What the mapper is for: a registry of buffers.

  For a client the mapper is a partial map from descriptors to buffers, each with a geometry, a lock
  and metadata.  An import enters a buffer under a descriptor that was not there, a free takes one
  out; locks, unlocks and sets change one buffer, and reads none.  `RegistryStep` says this without
  the table, the objects and their user data; there a lock is a `Hold`, not a counter beside a mask
  and a pointer.

  1. **Specification** — `RegistryStep cfg r op answer r'` is a relation, not a function, because
     the client does not see what the outside will do: whether an import or a set gets its memory,
     whether a mapping can be had, and whether a backend can be readied.  What a client can rely on
     is there: a lock that is refused was refused for what it asks, for how the buffer is held, or
     for want of a mapping, an unlock and a free of a buffer that is there succeed, and a read tells
     what the registry has.

  2. **Abstraction** — `registryOf` is the registry in the state of a process: the entry found under
     a descriptor, the geometry of its object, the lock that three fields of the user data record
     (`holdOf`), and the metadata without the addresses of its blocks (`metadataViewOf`).

  3. **Refinement** — `mapperRun_registryStep`, in `RegistryRefinement`: after any calls, the next
     call does to the registry one of the things `RegistryStep` allows, with the answer it gives.

  What the registry does not say: which descriptors and blocks are left behind (`Balance`,
  `MetadataReturns`), and anything about buffers of the other backend, which have a registry of
  their own (`DmaRegistry`).  A handle that goes there names nothing here.

  The counter of a lock is a natural number, the source's `lock_count` an `int`.
-/
import GrallocGbm.HdrMetadata
import GrallocGbm.Lib.Hold
import GrallocGbm.LockAddresses

namespace GrallocGbm

/-! ## Buffers as a client sees them -/

/-- `buffer_metadata_t` without the addresses of its blocks. -/
structure MetadataView where
  dataspace : Int32
  blendMode : Int32
  smpte2086 : Option Smpte2086
  cta8613 : Option Cta8613
  smpte209450Size : Int32
  smpte209450 : Option (List UInt8)

/-- A buffer: its object, how it is held, and what was set on it. -/
structure BufferView where
  id : Nat
  width : UInt32
  height : UInt32
  format : UInt32
  layout : BoLayout
  hold : Hold UInt32 Nat
  metadata : MetadataView

/-- The buffers of a process, by descriptor. -/
abbrev Registry := Int → Option BufferView

/-- A use is covered by one that has all its bits, and needs a mapping if it has one of the CPU. -/
def lockPolicy : Hold.Policy UInt32 where
  covers := fun held usage => decide (held &&& usage = usage)
  exclusive := fun usage => decide (usage &&& cpuAccessMask ≠ 0)

/-! ### Metadata -/

/-- Does a set of this type take the payload, if it gets its memory?  Not if the type is one that is
    computed, nor if the bytes of an SMPTE2094_50 are too many. -/
def acceptsPayload (type : StandardMetadataType) (m : Payload) : Bool :=
  match type with
  | .bufferId | .name | .width | .height | .layerCount | .pixelFormatRequested
  | .pixelFormatFourcc | .pixelFormatModifier | .usage | .stride => false
  | .smpte209450 => decide (m.metadataSize ≤ grallocGenericSmpte209450MaxSize)
  | _ => true

/-- The metadata after a set, by its type. -/
def MetadataView.set (type : StandardMetadataType) (m : Payload) (v : MetadataView) : MetadataView :=
  match type with
  | .dataspace => { v with dataspace := (m.word 0).toInt32 }
  | .blendMode => { v with blendMode := (m.word 0).toInt32 }
  | .smpte2086 => { v with smpte2086 := some m.smpte2086 }
  | .cta8613 => { v with cta8613 := some m.cta8613 }
  | .smpte209450 =>
    { v with smpte209450 := some m.bytes, smpte209450Size := Int32.ofNat m.metadataSize }
  | _ => v

/-- The metadata of a buffer that has just been imported. -/
def MetadataView.zero : MetadataView where
  dataspace := 0
  blendMode := 0
  smpte2086 := some ⟨0, 0, 0, 0, 0, 0, 0, 0, 0, 0⟩
  cta8613 := some ⟨0, 0⟩
  smpte209450Size := 0
  smpte209450 := some (List.replicate grallocGenericSmpte209450MaxSize 0)

/-- With some addresses. -/
def MetadataView.record (v : MetadataView) : BufferMetadata where
  dataspace := v.dataspace
  blendMode := v.blendMode
  smpte2086 := v.smpte2086.map fun val => ⟨0, val⟩
  cta8613 := v.cta8613.map fun val => ⟨0, val⟩
  smpte209450Size := v.smpte209450Size
  smpte209450 := v.smpte209450.map fun val => ⟨0, val⟩

/-- What a query of the buffer by the handle of `g` gives. -/
def BufferView.info (g : GrallocHandle) (v : BufferView) (stride : Int32) : AndroidBufferInfo where
  fd := -1
  bufferId := v.id
  name := none
  width := v.width.toInt32
  height := v.height.toInt32
  layerCount := 1
  planeCount := v.layout.planeCount
  androidFormat := g.format
  gbmFormat := v.format
  modifier := v.layout.modifier
  usage := g.usage.toInt32
  size := (v.layout.stride * v.height).toUInt64
  stride := stride
  isProtected := g.usage &&& grallocUsageProtected != 0
  metadata := v.metadata.record

/-- What a read gives; nothing where the format has no pixel size. -/
def BufferView.read (g : GrallocHandle) (type : StandardMetadataType) (v : BufferView) :
    Option MetadataValue :=
  if type.isKnown then
    (grallocGbmCalculateAndroidPixelStride g.format v.layout.stride).bind fun stride =>
      (gbmMetadataValue (v.info g stride) type).encoded
  else none

/-! ## The registry

  The contract: which answers a call may give, and what becomes of the buffers. -/

/-- What a call gives back. -/
inductive Answer where
  | imported (status : AIMapperError) (handle : Option NativeHandle)
  | status (status : Option AIMapperError)
  | locked (status : Option AIMapperError) (out : Option (Option Nat))
  | read (value : Option MetadataValue)

/-- The key of a handle's buffer. -/
def keyOf (h : NativeHandle) : Int := (grallocHandle h).primeFd

/-- The buffer a handle names: none if it is NULL or routed to the other backend. -/
def Registry.named (r : Registry) : Option NativeHandle → Option BufferView
  | none => none
  | some h => if routedTo (grallocHandle h) = .mapperGrallocGbm then r (keyOf h) else none

/-- A buffer that has just been imported. -/
def freshView (cfg : BuildConfig) (g : GrallocHandle) (id : Nat) (layout : BoLayout) : BufferView where
  id := id
  width := (importArgs cfg g).1.width
  height := (importArgs cfg g).1.height
  format := (importArgs cfg g).1.format
  layout := layout
  hold := .idle
  metadata := .zero

/-- Refused for what it asks: no usage, or one that the tests of a lock do not let through. -/
def LockRejected (h : NativeHandle) (cpuUsage : UInt64) : Prop :=
  cpuUsage = 0 ∨ ¬ PassesUsageChecks (grallocHandle h).usage cpuUsage.toUInt32

/-- What a call may do to the registry, with the answer it gives. -/
inductive RegistryStep (cfg : BuildConfig) (r : Registry) : MapperOp → Answer → Registry → Prop
  | importRefused (h : Option NativeHandle) (status : AIMapperError) (hs : status ≠ .none) :
    RegistryStep cfg r (.buffer (.importBuffer h)) (.imported status none) r
  | importOther (h c : NativeHandle) (hgbm : routedTo (grallocHandle h) ≠ .mapperGrallocGbm) :
    RegistryStep cfg r (.buffer (.importBuffer (some h))) (.imported .none (some c)) r
  | importGbm (h c : NativeHandle) (id : Nat) (layout : BoLayout)
      (hgbm : routedTo (grallocHandle h) = .mapperGrallocGbm) (hnew : r (keyOf c) = none) :
    RegistryStep cfg r (.buffer (.importBuffer (some h))) (.imported .none (some c))
      (Function.update r (keyOf c) (some (freshView cfg (grallocHandle c) id layout)))
  | freeNothing (h : Option NativeHandle) (status : Option AIMapperError) (hn : r.named h = none) :
    RegistryStep cfg r (.buffer (.freeBuffer h)) (.status status) r
  | free (h : NativeHandle) (v : BufferView) (hn : r.named (some h) = some v) :
    RegistryStep cfg r (.buffer (.freeBuffer (some h))) (.status (some .none))
      (Function.update r (keyOf h) none)
  | lockOther (h : NativeHandle) (cpuUsage : UInt64) (status : Option AIMapperError)
      (out : Option (Option Nat)) (hgbm : routedTo (grallocHandle h) ≠ .mapperGrallocGbm) :
    RegistryStep cfg r (.buffer (.lock (some h) cpuUsage)) (.locked status out) r
  | lockNothing (h : Option NativeHandle) (cpuUsage : UInt64) (status : Option AIMapperError)
      (out : Option (Option Nat)) (hs : status ≠ some .none) (hn : r.named h = none) :
    RegistryStep cfg r (.buffer (.lock h cpuUsage)) (.locked status out) r
  | lockRefused (h : NativeHandle) (cpuUsage : UInt64) (v : BufferView) (status : Option AIMapperError)
      (out : Option (Option Nat)) (hs : status ≠ some .none) (hn : r.named (some h) = some v)
      (hwhy : LockRejected h cpuUsage ∨ v.hold.grant lockPolicy cpuUsage.toUInt32 none = none) :
    RegistryStep cfg r (.buffer (.lock (some h) cpuUsage)) (.locked status out) r
  | lock (h : NativeHandle) (cpuUsage : UInt64) (v : BufferView) (addr : Option Nat)
      (held : Hold UInt32 Nat) (hn : r.named (some h) = some v) (hpass : ¬ LockRejected h cpuUsage)
      (hg : v.hold.grant lockPolicy cpuUsage.toUInt32 addr = some held) :
    RegistryStep cfg r (.buffer (.lock (some h) cpuUsage))
      (.locked (some .none) (held.addr?.map some))
      (Function.update r (keyOf h) (some { v with hold := held }))
  | unlockOther (h : NativeHandle) (status : Option AIMapperError)
      (hgbm : routedTo (grallocHandle h) ≠ .mapperGrallocGbm) :
    RegistryStep cfg r (.buffer (.unlock (some h))) (.status status) r
  | unlockNothing (h : Option NativeHandle) (status : Option AIMapperError) (hs : status ≠ some .none)
      (hn : r.named h = none) :
    RegistryStep cfg r (.buffer (.unlock h)) (.status status) r
  | unlock (h : NativeHandle) (v : BufferView) (hn : r.named (some h) = some v) :
    RegistryStep cfg r (.buffer (.unlock (some h))) (.status (some .none))
      (Function.update r (keyOf h) (some { v with hold := v.hold.release }))
  | readNothing (h : Option NativeHandle) (type : StandardMetadataType) (value : Option MetadataValue)
      (hn : r.named h = none) :
    RegistryStep cfg r (.getStandardMetadata h type) (.read value) r
  | read (h : NativeHandle) (type : StandardMetadataType) (v : BufferView)
      (hn : r.named (some h) = some v) :
    RegistryStep cfg r (.getStandardMetadata (some h) type) (.read (v.read (grallocHandle h) type)) r
  | setOther (h : NativeHandle) (type : StandardMetadataType) (m : Payload)
      (status : Option AIMapperError) (hgbm : routedTo (grallocHandle h) ≠ .mapperGrallocGbm) :
    RegistryStep cfg r (.setStandardMetadata (some h) type m) (.status status) r
  | setRefused (h : Option NativeHandle) (type : StandardMetadataType) (m : Payload)
      (status : Option AIMapperError) (hs : status ≠ some .none) :
    RegistryStep cfg r (.setStandardMetadata h type m) (.status status) r
  | set (h : NativeHandle) (type : StandardMetadataType) (m : Payload) (v : BufferView)
      (hn : r.named (some h) = some v) (ha : acceptsPayload type m = true) :
    RegistryStep cfg r (.setStandardMetadata (some h) type m) (.status (some .none))
      (Function.update r (keyOf h) (some { v with metadata := v.metadata.set type m }))

/-! ## The registry of a process -/

/-- The lock of a buffer, from the three fields that record it. -/
def holdOf (d : GbmBoData) : Hold UInt32 Nat :=
  match d.mapData with
  | some a => .mapped d.lockedFor a
  | none => if d.lockCount ≤ 0 then .idle else .shared (d.lockCount - 1).toNat d.lockedFor

/-- The metadata of the user data, without the addresses of the blocks. -/
def metadataViewOf (m : BufferMetadata) : MetadataView where
  dataspace := m.dataspace
  blendMode := m.blendMode
  smpte2086 := m.smpte2086.map Block.val
  cta8613 := m.cta8613.map Block.val
  smpte209450Size := m.smpte209450Size
  smpte209450 := m.smpte209450.map Block.val

/-- The buffer behind an entry. -/
def viewOf (e : AndroidBuffer) (b : Bo) (d : GbmBoData) : BufferView where
  id := e.addr
  width := b.width
  height := b.height
  format := b.format
  layout := b.layout
  hold := holdOf d
  metadata := metadataViewOf d.metadata

/-- The buffers a process has: the first entry with the key, its object, and the user data of that.
    -/
def registryOf (p : Proc) : Registry := fun fd =>
  (findBufferK fd p.table).bind fun e =>
    (p.bos e.bo).bind fun b => b.data.map (viewOf e b)

/-- What a call gives back in the state `m`. -/
def answerOf (cfg : BuildConfig) (env : Env) (m : Mapper) : MapperOp → Answer
  | .buffer (.importBuffer handle) =>
    let r := (m.importBuffer cfg env handle).1
    .imported r.1 r.2
  | .buffer (.freeBuffer buffer) => .status (m.freeBuffer env buffer).1
  | .buffer (.lock buffer cpuUsage) =>
    let r := (m.lock env buffer cpuUsage).1
    .locked r.1 r.2
  | .buffer (.unlock buffer) => .status (m.unlock env buffer).1
  | .getStandardMetadata buffer type => .read (m.getStandardMetadata env buffer type).1.2
  | .setStandardMetadata buffer type metadata =>
    .status (m.setStandardMetadata env buffer type metadata).1

end GrallocGbm
