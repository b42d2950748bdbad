/-
  Standard metadata: the types, the values, and the GBM backend's getter and setter
  (`mapper_stablec/backend/MapperGrallocGbm.cpp`, `gralloc_gbm_android_buffer_query`).

  A get gathers everything about the buffer in one query and then picks the value that was asked
  for.  A set goes the other way through two dispatches: the mapper stages the client's payload in
  a fresh `buffer_metadata_t` (`stageMetadata`), and the backend copies the field of the type into
  the user data of the object (`storeMetadata`).

  Both dispatches are kept as they are written, type by type, since that is where the source has its
  surprises: `BLEND_MODE` is answered with the dataspace, a query of any type exports a descriptor
  (`gbm_bo_get_fd`), of which nobody closes the duplicate, and the types that the comments list as
  read-only differ from those that the switch refuses.

  `provideStandardMetadata` is the platform's: it calls the provider for every type it knows, and
  returns a negative code for all others.  What reaches the client's buffer is the encoding of the
  value, of which only the size is modelled (`Env.encode`); the value itself is the second component
  of a get, which is what the theorems about metadata speak of.

  A `Payload` is what `metadata` points to, with the `metadataSize` that comes with it.  The pointer
  is not NULL (the interface declares it `_Nonnull`, and the source does not test it).  The memory
  goes on behind the client's bytes, because the source reads the payload of most types through a
  pointer of the type without a look at the size.

  The three HDR types are heap blocks of their own.  `callocBlock` and `freeBlock` keep the account
  of them; who owns which block is the subject of `MetadataBlocks`.
-/
import GrallocGbm.Lock
import GrallocGbm.PlaneLayouts

namespace GrallocGbm

/-! ## Types, values, codes -/

/-- `AIMapper_Error`. -/
inductive AIMapperError where
  | none
  | badDescriptor
  | badBuffer
  | badValue
  | noResources
  | unsupported
  deriving DecidableEq, Repr

/-- The numbers of `AIMAPPER_ERROR_*`. -/
def AIMapperError.code : AIMapperError → Int
  | .none => 0
  | .badDescriptor => 1
  | .badBuffer => 2
  | .badValue => 3
  | .noResources => 5
  | .unsupported => 7

/-- `StandardMetadataType`: an `int64_t` of which only some values have a name. -/
inductive StandardMetadataType where
  | bufferId
  | name
  | width
  | height
  | layerCount
  | pixelFormatRequested
  | pixelFormatFourcc
  | pixelFormatModifier
  | usage
  | allocationSize
  | protectedContent
  | compression
  | interlaced
  | chromaSiting
  | planeLayouts
  | crop
  | dataspace
  | blendMode
  | smpte2086
  | cta8613
  | smpte209440
  | smpte209410
  | stride
  | smpte209450
  | other (value : Int)
  deriving DecidableEq, Repr

/-- The types `provideStandardMetadata` knows. -/
def StandardMetadataType.isKnown : StandardMetadataType → Bool
  | .other _ => false
  | _ => true

/-- `Rect`. -/
structure Rect where
  left : Int32
  top : Int32
  right : Int32
  bottom : Int32
  deriving DecidableEq, Repr

/-- A value handed to the encoder. -/
inductive MetadataValue where
  | bufferId (address : Nat)
  | string (s : String)
  | int32 (v : Int32)
  | uint32 (v : UInt32)
  | uint64 (v : UInt64)
  | bool (v : Bool)
  | pixelFormat (v : Int32)
  | bufferUsage (v : Int64)
  | compressionNone
  | interlacedNone
  | chromaSitingNone
  | planeLayouts (v : List PlaneLayout)
  | crop (v : List Rect)
  | dataspace (v : Int32)
  | blendMode (v : Int32)
  | smpte2086 (v : Option Smpte2086)
  | cta8613 (v : Option Cta8613)
  | smpte209450 (v : Option (List UInt8))
  deriving DecidableEq, Repr

/-- What a provider does: hand over a value, return a code, or not return. -/
inductive Provided where
  | value (v : MetadataValue)
  | code (rc : Int)
  | crash
  deriving DecidableEq, Repr

/-- `provideStandardMetadata`: what it returns, and the value that was encoded. -/
def provideStandardMetadata (env : Env) (type : StandardMetadataType)
    (provider : Proc → Provided × Proc) (p : Proc) : Ret Int × Option MetadataValue × Proc :=
  if !type.isKnown then (.ok (-AIMapperError.unsupported.code), none, p)
  else match provider p with
    | (.value v, p) => (.ok (env.encode p.calls.length), some v, p)
    | (.code rc, p) => (.ok rc, none, p)
    | (.crash, p) => (.crash, none, p)

/-! ## The query of the GBM library

  Everything there is to know of a buffer is put into one record, the descriptor included. -/

/-- `gralloc_gbm_android_buffer_info_t`. -/
structure AndroidBufferInfo where
  fd : Int
  bufferId : Nat
  name : Option String
  width : Int32
  height : Int32
  layerCount : Int32
  planeCount : Int32
  androidFormat : UInt32
  gbmFormat : UInt32
  modifier : UInt64
  usage : Int32
  size : UInt64
  stride : Int32
  isProtected : Bool
  metadata : BufferMetadata
  deriving DecidableEq, Repr

/-- The record `gralloc_gbm_android_buffer_query` fills in. -/
def bufferInfo (g : GrallocHandle) (buffer : AndroidBuffer) (fd : Int) (b : Bo) (d : GbmBoData)
    (stride : Int32) : AndroidBufferInfo where
  fd := fd
  bufferId := buffer.addr
  name := none
  width := b.width.toInt32
  height := b.height.toInt32
  layerCount := 1
  planeCount := b.layout.planeCount
  androidFormat := g.format
  gbmFormat := b.format
  modifier := b.layout.modifier
  usage := g.usage.toInt32
  size := (b.layout.stride * b.height).toUInt64
  stride := stride
  isProtected := g.usage &&& grallocUsageProtected != 0
  metadata := d.metadata

/-- `gralloc_gbm_android_buffer_query`. -/
def grallocGbmAndroidBufferQuery (env : Env) (handle : NativeHandle) (p : Proc) :
    Ret AndroidBufferInfo × Proc :=
  let g := grallocHandle handle
  match findBufferK g.primeFd p.table with
  | none => (.err (-eINVAL), p)
  | some buffer =>
    if buffer.bo = 0 then (.err (-eINVAL), p)
    else match p.bos buffer.bo with
      | none => (.crash, p)
      | some b =>
        let (fd, p) := gbmBoGetFd env buffer.bo p
        match grallocGbmBoUserDataInit buffer.bo p with
        | (none, p) => (.crash, p)
        | (some d, p) =>
          match grallocGbmCalculateAndroidPixelStride g.format b.layout.stride with
          | none => (.crash, p)
          | some stride => (.ok (bufferInfo g buffer fd b d stride), p)

/-- `gralloc_gbm_android_buffer_get_extdata`: the object whose user data it returns, or NULL. -/
def grallocGbmAndroidBufferGetExtdata (handle : NativeHandle) (p : Proc) :
    Ret (Option Nat) × Proc :=
  match findBufferK (grallocHandle handle).primeFd p.table with
  | none => (.ok none, p)
  | some buffer =>
    if buffer.bo = 0 then (.ok none, p)
    else match grallocGbmBoUserDataInit buffer.bo p with
      | (none, p) => (.crash, p)
      | (some _, p) => (.ok (some buffer.bo), p)

/-! ## The getter of the GBM backend -/

/-- The sizes the getter fills into a plane of the table. -/
def fillPlaneLayout (info : AndroidBufferInfo) (pl : PlaneLayout) : PlaneLayout :=
  let strideInBytes := (info.stride * (colorBytesPerPixel info.gbmFormat).toUInt32.toInt32).toInt
  { pl with
    offsetInBytes := 0
    strideInBytes := strideInBytes
    totalSizeInBytes := strideInBytes * info.height.toInt
    widthInSamples := info.width.toInt.tdiv pl.horizontalSubsampling
    heightInSamples := info.height.toInt.tdiv pl.verticalSubsampling }

/-- The dispatch of `grallocGbmQueryAndroidBufferMetadata` on a successful query. -/
def gbmMetadataValue (info : AndroidBufferInfo) : StandardMetadataType → Provided
  | .bufferId => .value (.bufferId info.bufferId)
  | .name => .value (.string (info.name.getD "<unknown name>"))
  | .width => .value (.int32 info.width)
  | .height => .value (.int32 info.height)
  | .layerCount => .value (.int32 info.layerCount)
  | .pixelFormatRequested => .value (.pixelFormat info.androidFormat.toInt32)
  | .pixelFormatFourcc => .value (.uint32 info.gbmFormat)
  | .pixelFormatModifier => .value (.uint64 info.modifier)
  | .usage => .value (.bufferUsage info.usage.toInt64)
  | .allocationSize => .value (.uint64 info.size)
  | .protectedContent => .value (.bool info.isProtected)
  | .compression => .value .compressionNone
  | .interlaced => .value .interlacedNone
  | .chromaSiting => .value .chromaSitingNone
  | .planeLayouts =>
    match getPlaneLayouts info.gbmFormat with
    | none => .code AIMapperError.unsupported.code
    | some layouts => .value (.planeLayouts (layouts.map (fillPlaneLayout info)))
  | .crop => .value (.crop [⟨0, 0, info.width, info.height⟩])
  | .dataspace => .value (.dataspace info.metadata.dataspace)
  -- the value of this case is `info.metadata.dataspace` as well
  | .blendMode => .value (.blendMode info.metadata.dataspace)
  -- the fields are assigned through `->` of an optional that stays empty
  | .smpte2086 =>
    match info.metadata.smpte2086 with
    | none => .crash
    | some _ => .value (.smpte2086 none)
  | .cta8613 =>
    match info.metadata.cta8613 with
    | none => .crash
    | some _ => .value (.cta8613 none)
  | .smpte209440 => .code AIMapperError.unsupported.code
  | .smpte209410 => .code AIMapperError.unsupported.code
  | .stride => .value (.int32 info.stride)
  | .smpte209450 =>
    if 0 < info.metadata.smpte209450Size then
      match info.metadata.smpte209450 with
      | none => .crash
      | some block =>
        .value (.smpte209450 (some (block.val.take info.metadata.smpte209450Size.toInt.toNat)))
    else .value (.smpte209450 none)
  | .other _ => .code AIMapperError.unsupported.code

/-- `grallocGbmQueryAndroidBufferMetadata`. -/
def grallocGbmQueryAndroidBufferMetadata (env : Env) (handle : NativeHandle)
    (type : StandardMetadataType) (p : Proc) : Provided × Proc :=
  match grallocGbmAndroidBufferQuery env handle p with
  | (.ok info, p) => (gbmMetadataValue info type, p)
  | (.err _, p) => (.code AIMapperError.noResources.code, p)
  | (.crash, p) => (.crash, p)

/-- `MapperBackendGrallocGbm::getStandardMetadata`. -/
def MapperBackendGrallocGbm.getStandardMetadata (env : Env) (handle : NativeHandle)
    (type : StandardMetadataType) (p : Proc) : Ret Int × Option MetadataValue × Proc :=
  provideStandardMetadata env type (grallocGbmQueryAndroidBufferMetadata env handle type) p

/-! ## Setting

  The payload becomes a record with one field set, and that field goes into the user data. -/

/-- A client's payload: the memory from `metadata` on, of which `metadataSize` bytes are the
    client's. The pointer is not NULL, which the interface declares (`_Nonnull`) and the code does
    not test. -/
structure Payload where
  byte : Nat → UInt8
  metadataSize : Nat

/-- The little-endian 32-bit word at byte `4 * i`. -/
def Payload.word (m : Payload) (i : Nat) : UInt32 :=
  (m.byte (4 * i)).toUInt32 ||| ((m.byte (4 * i + 1)).toUInt32 <<< 8) |||
    ((m.byte (4 * i + 2)).toUInt32 <<< 16) ||| ((m.byte (4 * i + 3)).toUInt32 <<< 24)

/-- A payload that holds one 32-bit value. -/
def Payload.ofInt32 (v : Int32) : Payload where
  byte := fun i => (v.toUInt32 >>> (8 * UInt32.ofNat i)).toUInt8
  metadataSize := 4

/-- A `buffer_metadata_t` from `calloc`. -/
def BufferMetadata.zero : BufferMetadata := ⟨0, 0, none, none, 0, none⟩

/-- The switch of `GrallocGenericMapperV5::setStandardMetadata`: the staged record, or `none` where
    it returns `AIMAPPER_ERROR_BAD_VALUE`.  A payload is read through its type's own pointer,
    whatever `metadataSize` says. -/
def stageMetadata (type : StandardMetadataType) (m : Payload) (p : Proc) :
    Option BufferMetadata × Proc :=
  match type with
  | .bufferId | .name | .width | .height | .layerCount | .pixelFormatRequested
  | .pixelFormatFourcc | .pixelFormatModifier | .usage | .stride => (none, p)
  | .dataspace => (some { BufferMetadata.zero with dataspace := (m.word 0).toInt32 }, p)
  | .blendMode => (some { BufferMetadata.zero with blendMode := (m.word 0).toInt32 }, p)
  | .smpte2086 =>
    let (a, p) := callocBlock p
    (some { BufferMetadata.zero with
      smpte2086 := some ⟨a, m.word 0, m.word 1, m.word 2, m.word 3, m.word 4, m.word 5, m.word 6,
        m.word 7, m.word 8, m.word 9⟩ }, p)
  | .cta8613 =>
    let (a, p) := callocBlock p
    (some { BufferMetadata.zero with cta8613 := some ⟨a, m.word 0, m.word 1⟩ }, p)
  | .smpte209450 =>
    if m.metadataSize > grallocGenericSmpte209450MaxSize then (none, p)
    else
      let (a, p) := callocBlock p
      (some { BufferMetadata.zero with
        smpte209450 := some ⟨a, (List.range m.metadataSize).map m.byte⟩
        smpte209450Size := Int32.ofNat m.metadataSize }, p)
  | _ => (some BufferMetadata.zero, p)

/-- The switch of `MapperBackendGrallocGbm::setStandardMetadata`. -/
def storeMetadata (type : StandardMetadataType) (staged stored : BufferMetadata) :
    BufferMetadata :=
  match type with
  | .dataspace => { stored with dataspace := staged.dataspace }
  | .blendMode => { stored with blendMode := staged.blendMode }
  | .smpte2086 => { stored with smpte2086 := staged.smpte2086 }
  | .cta8613 => { stored with cta8613 := staged.cta8613 }
  | .smpte209450 =>
    { stored with
      smpte209450 := staged.smpte209450
      smpte209450Size := staged.smpte209450Size }
  | _ => stored

/-- `MapperBackendGrallocGbm::setStandardMetadata`. -/
def MapperBackendGrallocGbm.setStandardMetadata (handle : NativeHandle)
    (type : StandardMetadataType) (metadata : BufferMetadata) (p : Proc) : Ret Int × Proc :=
  match grallocGbmAndroidBufferGetExtdata handle p with
  | (.ok (some bo), p) =>
    (.ok 0, modifyBoData bo
      (fun d => { d with metadata := storeMetadata type metadata d.metadata }) p)
  | (.ok none, p) => (.ok (-eINVAL), p)
  | (.err rc, p) => (.err rc, p)
  | (.crash, p) => (.crash, p)

end GrallocGbm
