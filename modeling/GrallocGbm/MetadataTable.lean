/-
  The table of metadata types that the mapper advertises (`listSupportedMetadataTypes`).

  Four lists of cases speak about a type: the table, the switch of the mapper's setter, and the
  getter and the setter of each backend.  The table is the mapper's alone, and says the same of
  every buffer.

  * GETTING.  The GBM backend provides all types of the table, also the two that are not gettable,
  and planes only where it has a layout; nothing at all of a format without a pixel size.  It relies
  on the blocks of the metadata, which every object has in every state (`HasBlocks`).  The DMA-BUF
  backend lacks eight types.

  * SETTING.  The mapper refuses ten types and a payload that is too long (`Accepts`), not the types
  outside the table; the GBM backend reports success whatever the type, the DMA-BUF backend always.

  A line of the table promises two things.  That a type is gettable means that a read gives a value
  (`GetTruthful`); that it is settable means that a set is accepted, and that a read then gives what
  was set (`SetTruthful`).  For both, what the code really does is computed first, and then compared
  with the line:

    Observes      a set, then a read, on the code
    ReadsBack     the same, of the stored record alone
    observes_iff  the two are one
    SetAsListed, GetAsListed   what is left to ask of the type, the payload and the backend

  `metadataTable_truthful_iff` puts together where the table is right, for every live buffer after
  any calls.  A set with a NULL payload is not looked at: no payload is behind it that could be read
  back.
-/
import GrallocGbm.HdrMetadata
import GrallocGbm.MetadataBlocks
import GrallocGbm.ScalarMetadata
import GrallocGbm.SyncBracketing

namespace GrallocGbm

/-! ## The table -/

/-- `AIMapper_MetadataTypeDescription`. -/
structure AIMapperMetadataTypeDescription where
  metadataType : StandardMetadataType
  isGettable : Bool
  isSettable : Bool
  deriving DecidableEq, Repr

/-- `newStandardMetadata`. -/
def newStandardMetadata (type : StandardMetadataType) (isGettable isSettable : Bool) :
    AIMapperMetadataTypeDescription := ⟨type, isGettable, isSettable⟩

/-- `sSupportedMetadataTypes`. -/
def sSupportedMetadataTypes : List AIMapperMetadataTypeDescription := [
  newStandardMetadata .bufferId true false,
  newStandardMetadata .name false false,
  newStandardMetadata .width true false,
  newStandardMetadata .height true false,
  newStandardMetadata .layerCount true false,
  newStandardMetadata .pixelFormatRequested true false,
  newStandardMetadata .pixelFormatFourcc true false,
  newStandardMetadata .pixelFormatModifier true false,
  newStandardMetadata .usage true false,
  newStandardMetadata .allocationSize true false,
  newStandardMetadata .protectedContent false false,
  newStandardMetadata .stride true false,
  newStandardMetadata .compression true false,
  newStandardMetadata .interlaced true false,
  newStandardMetadata .chromaSiting true false,
  newStandardMetadata .planeLayouts true false,
  newStandardMetadata .crop true false,
  -- writable
  newStandardMetadata .dataspace true true,
  newStandardMetadata .blendMode true true,
  newStandardMetadata .smpte2086 true true,
  newStandardMetadata .cta8613 true true,
  newStandardMetadata .smpte209450 true true]

/-- `GrallocGenericMapperV5::listSupportedMetadataTypes`. -/
def Mapper.listSupportedMetadataTypes : AIMapperError × List AIMapperMetadataTypeDescription :=
  (.none, sSupportedMetadataTypes)

/-- The list marks the type gettable. -/
def ListedGettable (type : StandardMetadataType) : Prop :=
  ∃ d ∈ Mapper.listSupportedMetadataTypes.2, d.metadataType = type ∧ d.isGettable = true

/-- The list marks the type settable. -/
def ListedSettable (type : StandardMetadataType) : Prop :=
  ∃ d ∈ Mapper.listSupportedMetadataTypes.2, d.metadataType = type ∧ d.isSettable = true

/-- What is listed with a mark `f`. -/
theorem exists_listed_iff (f : AIMapperMetadataTypeDescription → Bool)
    (type : StandardMetadataType) :
    (∃ d ∈ Mapper.listSupportedMetadataTypes.2, d.metadataType = type ∧ f d = true) ↔
      type ∈ (sSupportedMetadataTypes.filter f).map AIMapperMetadataTypeDescription.metadataType := by
  rw [List.mem_map]
  constructor
  · rintro ⟨d, hd, htype, hf⟩
    exact ⟨d, List.mem_filter.mpr ⟨hd, hf⟩, htype⟩
  · rintro ⟨d, hd, htype⟩
    exact ⟨d, (List.mem_filter.mp hd).1, htype, (List.mem_filter.mp hd).2⟩

/-- Gettable are all known types but four. -/
theorem listedGettable_iff (type : StandardMetadataType) : ListedGettable type ↔
    type.isKnown = true ∧ type ∉ [.name, .protectedContent, .smpte209440, .smpte209410] := by
  rw [ListedGettable, exists_listed_iff]
  cases type
  case other v => exact iff_of_false (by simp [sSupportedMetadataTypes, newStandardMetadata]) nofun
  all_goals decide

/-- Settable are the five writable types. -/
theorem listedSettable_iff (type : StandardMetadataType) : ListedSettable type ↔
    type ∈ [.dataspace, .blendMode, .smpte2086, .cta8613, .smpte209450] :=
  exists_listed_iff AIMapperMetadataTypeDescription.isSettable type

/-! ## The blocks of the metadata

  The GBM getter follows the pointer of each HDR type without testing it, so it must not be NULL
  in any state. -/

/-- All blocks that the getter follows are there. -/
structure HasBlocks (metadata : BufferMetadata) : Prop where
  smpte2086 : metadata.smpte2086 ≠ none
  cta8613 : metadata.cta8613 ≠ none
  smpte209450 : metadata.smpte209450 ≠ none

/-- Every object has its blocks. -/
def AllHaveBlocks (p : Proc) : Prop :=
  ∀ bo metadata, metadataOf bo p = some metadata → HasBlocks metadata

/-- What is staged for a type has the block of that type. -/
theorem HasBlocks.storeMetadata {type : StandardMetadataType} {payload : Payload} {p : Proc}
    {staged stored : BufferMetadata} (h : HasBlocks stored)
    (hst : (stageMetadata type payload p).1 = some staged) :
    HasBlocks (storeMetadata type staged stored) := by
  have hblocks : HasBlocks stored → (type = .smpte2086 → staged.smpte2086 ≠ none) →
      (type = .cta8613 → staged.cta8613 ≠ none) →
      (type = .smpte209450 → staged.smpte209450 ≠ none) →
      HasBlocks (GrallocGbm.storeMetadata type staged stored) := by
    rintro ⟨h1, h2, h3⟩ s1 s2 s3
    cases type <;> constructor <;> first | assumption | exact s1 rfl | exact s2 rfl | exact s3 rfl
  apply hblocks h
  · rintro rfl
    cases hst
    exact nofun
  · rintro rfl
    cases hst
    exact nofun
  · rintro rfl
    obtain ⟨-, -, addr, hblock⟩ := stageMetadata_smpte209450 hst
    rw [hblock]
    exact nofun

/-- There are no objects at the start. -/
theorem AllHaveBlocks.start : AllHaveBlocks Proc.start := by
  intro bo metadata h
  cases h

section

variable {p p' : Proc}

/-- What keeps the metadata keeps the blocks. -/
theorem AllHaveBlocks.of_kept (h : AllHaveBlocks p) (hk : MetadataKept p p') : AllHaveBlocks p' := by
  intro bo metadata hm
  rw [hk.metadata] at hm
  exact h bo metadata hm

/-- A new object has its three. -/
theorem AllHaveBlocks.of_added (h : AllHaveBlocks p) {bo a : Nat} (hadd : BlocksAdded p p' bo a) :
    AllHaveBlocks p' := by
  intro bo' metadata hm
  rcases hadd.metadata_cases hm with rfl | hm
  · exact ⟨nofun, nofun, nofun⟩
  · exact h bo' metadata hm

/-- The objects that are left have theirs. -/
theorem AllHaveBlocks.of_left (h : AllHaveBlocks p) {bo : Nat} {metadata : BufferMetadata}
    (hleft : BlocksLeft p p' bo metadata) : AllHaveBlocks p' :=
  fun bo' metadata' hm => h bo' metadata' (hleft.metadata_of_some hm).2

end

section

variable (cfg : BuildConfig) (env : Env) {m : Mapper}

/-- **Every call keeps the blocks in place.** -/
theorem mapperStep_hasBlocks (op : MapperOp) (hp : ProcInv m.proc) (hb : AllHaveBlocks m.proc) :
    AllHaveBlocks (mapperStep cfg env m op).proc := by
  rcases mapperStep_metadata cfg env op hp with
    hkept | ⟨bo, a, hadd⟩ | ⟨-, ⟨bo, metadata, hleft⟩ | ⟨type, payload, q, hmeta⟩⟩
  · exact hb.of_kept hkept
  · exact hb.of_added hadd
  · exact hb.of_left hleft
  · intro bo metadata hm
    rcases hmeta bo with heq | ⟨staged, hst, heq⟩
    · rw [heq] at hm
      exact hb bo metadata hm
    · rw [heq] at hm
      obtain ⟨stored, hstored, rfl⟩ := Option.map_eq_some_iff.mp hm
      exact (hb bo stored hstored).storeMetadata hst

/-- In every reachable state the getter finds the blocks that it dereferences. -/
theorem mapperRun_hasBlocks (ops : List MapperOp) : AllHaveBlocks (mapperRun cfg env ops).proc :=
  (Run.foldl_inv_all (fun m : Mapper => ProcInv m.proc ∧ AllHaveBlocks m.proc)
    (fun _ op h => ⟨mapperStep_inv cfg env op h.1, mapperStep_hasBlocks cfg env op h.1 h.2⟩) ops
    ⟨.start, .start⟩).2

end

/-! ## What the getters provide

  Each backend's getter, compared with the list of types it knows. -/

section

variable {env : Env} {h : NativeHandle} {m : Mapper}

/-- A read of an unknown type gives nothing. -/
theorem provideStandardMetadata_unknown {type : StandardMetadataType} (hk : type.isKnown = false)
    (provider : Proc → Provided × Proc) (p : Proc) :
    (provideStandardMetadata env type provider p).2.1 = none := by
  rw [provideStandardMetadata, hk]
  rfl

/-- On a record with its blocks the GBM getter has a value for every known type but two, for the
    planes if the format has a layout. -/
theorem gbmMetadataValue_isSome {info : AndroidBufferInfo} (hb : HasBlocks info.metadata)
    (type : StandardMetadataType) : (gbmMetadataValue info type).encoded.isSome = true ↔
      type ∉ [.smpte209440, .smpte209410] ∧ type.isKnown = true ∧
        (type = .planeLayouts → (getPlaneLayouts info.gbmFormat).isSome = true) := by
  obtain ⟨h1, h2, h3⟩ := hb
  cases type
  case planeLayouts =>
    cases hl : getPlaneLayouts info.gbmFormat <;>
      simp [gbmMetadataValue, hl, Provided.encoded, StandardMetadataType.isKnown]
  case smpte2086 =>
    obtain ⟨block, hblock⟩ := Option.ne_none_iff_exists'.mp h1
    simp [gbmMetadataValue, hblock, Provided.encoded, StandardMetadataType.isKnown]
  case cta8613 =>
    obtain ⟨block, hblock⟩ := Option.ne_none_iff_exists'.mp h2
    simp [gbmMetadataValue, hblock, Provided.encoded, StandardMetadataType.isKnown]
  case smpte209450 =>
    obtain ⟨block, hblock⟩ := Option.ne_none_iff_exists'.mp h3
    simp only [gbmMetadataValue, hblock]
    split <;> simp [Provided.encoded, StandardMetadataType.isKnown]
  all_goals simp [gbmMetadataValue, Provided.encoded, StandardMetadataType.isKnown]

/-- The format of the object that is found for the handle. -/
def objectFormat (h : NativeHandle) (p : Proc) : Option UInt32 :=
  (findBufferK (grallocHandle h).primeFd p.table).bind fun e => (p.bos e.bo).map Bo.format

/-- What the GBM backend has a value for. -/
theorem getStandardMetadata_gbm_isSome (type : StandardMetadataType) (hp : ProcInv m.proc)
    (hblocks : AllHaveBlocks m.proc) (hlive : LiveGbm h m.proc) :
    (m.getStandardMetadata env (some h) type).1.2.isSome = true ↔
      pixelBytes h ≠ 0 ∧ type ∉ [.smpte209440, .smpte209410] ∧ type.isKnown = true ∧
        (type = .planeLayouts → ((objectFormat h m.proc).bind getPlaneLayouts).isSome = true) := by
  obtain ⟨hgbm, hsome⟩ := hlive
  obtain ⟨e, he⟩ := Option.isSome_iff_exists.mp hsome
  have hmem := Keyed.mem_of_lookup he
  obtain ⟨-, b, d, hb, hd⟩ := hp.exists_object hmem
  cases hk : type.isKnown with
  | false =>
    rw [(Mapper.getStandardMetadata_gbm type hgbm (hp.ready (List.ne_nil_of_mem hmem))).1,
      MapperBackendGrallocGbm.getStandardMetadata, provideStandardMetadata_unknown hk]
    simp
  | true =>
    obtain ⟨fd, hread⟩ := getStandardMetadata_value env type hk hp hgbm he hb hd
    have hformat : objectFormat h m.proc = some b.format := by
      rw [objectFormat, he, Option.bind_some, hb]
      rfl
    have hd' : HasBlocks d.metadata := by
      apply hblocks e.bo
      rw [metadataOf, gbmBoGetUserData, hb, Option.bind_some, hd]
      rfl
    have hstride := @grallocGbmCalculateAndroidPixelStride_eq_none (grallocHandle h).format
      b.layout.stride
    rw [hread, hformat, Option.bind_some]
    cases hs : grallocGbmCalculateAndroidPixelStride (grallocHandle h).format b.layout.stride with
    | none =>
      have h0 : pixelBytes h = 0 := hstride.mp hs
      simp [h0]
    | some stride =>
      have h0 : pixelBytes h ≠ 0 := by
        intro h0
        rw [hstride.mpr h0] at hs
        cases hs
      rw [Option.bind_some, gbmMetadataValue_isSome hd', hk]
      simp [h0, bufferInfo]

/-- The types that the DMA-BUF backend has no value for. -/
def dmaBufLacks : List StandardMetadataType :=
  [.name, .pixelFormatModifier, .planeLayouts, .dataspace, .blendMode, .smpte2086, .cta8613,
    .smpte209440, .smpte209410, .smpte209450]

/-- The DMA-BUF backend provides every known type but those eight. -/
theorem dmaBufMetadataValue_isSome (info : DmaBufferInfo) (type : StandardMetadataType) :
    (dmaBufMetadataValue info type).encoded.isSome = true ↔
      type.isKnown = true ∧ type ∉ dmaBufLacks := by
  cases type <;>
    simp [dmaBufMetadataValue, Provided.encoded, StandardMetadataType.isKnown, dmaBufLacks]

/-- A live buffer of the DMA-BUF backend: routed there, and on record. -/
def LiveDmaBuf (h : NativeHandle) (p : Proc) : Prop :=
  routedTo (grallocHandle h) = .mapperGrallocDmabuf ∧
    (findBufferInfo (grallocHandle h).primeFd p).isSome = true

/-- What the DMA-BUF backend has a value for. -/
theorem getStandardMetadata_dmaBuf_isSome (env : Env) (type : StandardMetadataType)
    (hlive : LiveDmaBuf h m.proc) :
    (m.getStandardMetadata env (some h) type).1.2.isSome = true ↔
      type.isKnown = true ∧ type ∉ dmaBufLacks := by
  obtain ⟨hdma, hsome⟩ := hlive
  obtain ⟨info, hinfo⟩ := Option.isSome_iff_exists.mp hsome
  have hread : (m.getStandardMetadata env (some h) type).1.2
      = if type.isKnown then (dmaBufMetadataValue info type).encoded else none := by
    obtain ⟨da, cs, -, hw⟩ := Mapper.withBackend_dmabuf hdma
    have hquery : ∀ q : Proc, findBufferInfo (grallocHandle h).primeFd q = some info →
        (MapperBackendDmaBuf.getStandardMetadata env h type q).2.1
          = if type.isKnown then (dmaBufMetadataValue info type).encoded else none := by
      intro q hq
      rw [MapperBackendDmaBuf.getStandardMetadata]
      cases hk : type.isKnown with
      | false => exact provideStandardMetadata_unknown hk _ _
      | true =>
        rw [provideStandardMetadata_value env hk, queryAndroidBufferMetadata, hq]
        rfl
    unfold Mapper.getStandardMetadata
    dsimp only
    rw [hw, ← hquery { m.proc with dmaAllocator := da, calls := cs ++ m.proc.calls } hinfo]
    dsimp only
    split <;> rfl
  rw [hread]
  split
  · exact dmaBufMetadataValue_isSome info type
  · rename_i hk
    exact iff_of_false Bool.false_ne_true fun h => hk h.1

end

/-! ## What the setters accept

  A set passes the mapper's switch first; after that, no backend refuses it. -/

/-- The types that the mapper's setter refuses. -/
def readOnlyTypes : List StandardMetadataType :=
  [.bufferId, .name, .width, .height, .layerCount, .pixelFormatRequested, .pixelFormatFourcc,
    .pixelFormatModifier, .usage, .stride]

/-- The mapper stages every type but these, and every payload that is not too long. -/
theorem stageMetadata_isSome (type : StandardMetadataType) (payload : Payload) (p : Proc) :
    (stageMetadata type payload p).1.isSome = true ↔ type ∉ readOnlyTypes ∧
      (type = .smpte209450 → payload.metadataSize ≤ grallocGenericSmpte209450MaxSize) := by
  cases type
  case smpte209450 =>
    by_cases hlen : payload.metadataSize > grallocGenericSmpte209450MaxSize
    · simp [stageMetadata, hlen, Nat.not_le.mpr hlen]
    · simp [stageMetadata, hlen, readOnlyTypes, Nat.not_lt.mp hlen]
  all_goals simp [stageMetadata, readOnlyTypes]

/-- The call gets its temporary record, and the mapper takes type and payload. -/
def Accepts (env : Env) (h : NativeHandle) (type : StandardMetadataType) (payload : Payload)
    (p : Proc) : Prop :=
  TakesRecord env h p ∧ type ∉ readOnlyTypes ∧
    (type = .smpte209450 → payload.metadataSize ≤ grallocGenericSmpte209450MaxSize)

/-- A live buffer, of either backend. -/
def LiveBuffer (h : NativeHandle) (p : Proc) : Prop := LiveGbm h p ∨ LiveDmaBuf h p

section

variable {env : Env} {h : NativeHandle} {m : Mapper}

/-- **A set of a live buffer succeeds exactly if it is accepted**: no backend refuses a type. -/
theorem setStandardMetadata_accepted (env : Env) (type : StandardMetadataType)
    (payload : Payload) (hp : ProcInv m.proc) (hlive : LiveBuffer h m.proc) :
    (m.setStandardMetadata env (some h) type payload).1 = some .none ↔
      Accepts env h type payload m.proc := by
  have hstage := stageMetadata_isSome type payload (withRecord (readied env h m.proc))
  have hframe := readied_frame env h m.proc 0
  obtain ⟨heap, n, hs, -⟩ := stageMetadata_spec type payload (withRecord (readied env h m.proc))
  rcases Mapper.setStandardMetadata_cases env h type payload (m := m) with
    ⟨hno, hr, -⟩ | ⟨-, hnone, hr, -⟩ | ⟨ht, staged, hstaged, ⟨-, hr, -⟩ | ⟨hgbm, hr, -⟩⟩
  · rw [hr]
    exact iff_of_false nofun fun h => hno h.1
  · rw [hnone] at hstage
    rw [hr]
    exact iff_of_false nofun fun h => absurd (hstage.mpr h.2) nofun
  · rw [hstaged] at hstage
    rw [hr]
    exact iff_of_true rfl ⟨ht, hstage.mp rfl⟩
  · rw [hstaged] at hstage
    rw [hr]
    refine iff_of_true ?_ ⟨ht, hstage.mp rfl⟩
    -- the buffer is found, and its object is alive
    obtain ⟨-, hsome⟩ : LiveGbm h m.proc := hlive.resolve_right fun hdma => by
      rw [hdma.1] at hgbm
      cases hgbm
    obtain ⟨e, he⟩ := Option.isSome_iff_exists.mp hsome
    rw [← hframe.table] at he
    have hp' := hp.readied env h
    obtain ⟨h0, b, -, hb, -⟩ := hp'.exists_object (Keyed.mem_of_lookup he)
    rw [hs]
    rcases MapperBackendGrallocGbm.setStandardMetadata_cases h type staged
        (p := { withRecord (readied env h m.proc) with heap := heap, next := n }) hp'.user_data with
      ⟨-, -, hdead⟩ | ⟨e', -, hset⟩
    · rcases hdead e he with h0' | hb'
      · exact absurd h0' h0
      · rw [show (readied env h m.proc).bos e.bo = none from hb'] at hb
        cases hb
    · rw [hset]

end

/-! ## What a read observes of a set

  Of the five settable types, a read gives two back as they were set, the blend mode only by
  accident, and the two HDR types of fixed size never. -/

/-- The value that a payload stands for, for a type that can be set. -/
def Payload.value (payload : Payload) : StandardMetadataType → Option MetadataValue
  | .dataspace => some (.dataspace (payload.word 0).toInt32)
  | .blendMode => some (.blendMode (payload.word 0).toInt32)
  | .smpte2086 => some (.smpte2086 (some payload.smpte2086))
  | .cta8613 => some (.cta8613 (some payload.cta8613))
  -- an empty payload is no metadata
  | .smpte209450 =>
    some (.smpte209450 (if payload.metadataSize = 0 then none else some payload.bytes))
  | _ => none

/-- A read of the type gives the value of the payload. -/
def Observes (env : Env) (h : NativeHandle) (type : StandardMetadataType) (payload : Payload)
    (m : Mapper) : Prop :=
  ∃ v, payload.value type = some v ∧ (m.getStandardMetadata env (some h) type).1.2 = some v

/-- The values that the getter of the GBM backend gives back as they were set; a blend mode, if it is
    the number of the dataspace. -/
def ReadsBack (type : StandardMetadataType) (payload : Payload) (stored : BufferMetadata) : Prop :=
  type = .dataspace ∨ type = .smpte209450 ∨
    (type = .blendMode ∧ (payload.word 0).toInt32 = stored.dataspace)

/-- What was staged has been stored: a read observes it exactly if it reads it back. -/
theorem observes_iff {env : Env} {h : NativeHandle} {m : Mapper} {type : StandardMetadataType}
    {payload : Payload} {p : Proc} {staged : BufferMetadata} {d : GbmBoData} (hp : ProcInv m.proc)
    (hgbm : routedTo (grallocHandle h) = .mapperGrallocGbm)
    (hst : (stageMetadata type payload p).1 = some staged)
    (hd : storedOf m.proc h
      = some { d with metadata := storeMetadata type staged d.metadata }) :
    Observes env h type payload m ↔ pixelBytes h ≠ 0 ∧ ReadsBack type payload d.metadata := by
  have hscalars := storeMetadata_scalars hst d.metadata
  obtain ⟨hspace, hblend⟩ := scalarReads_eq env hp hgbm hd
  obtain ⟨hno2086, hnocta⟩ := hdrReads_empty env hp hgbm hd
  unfold Observes ReadsBack
  cases type
  case dataspace =>
    rw [hspace, hscalars.1]
    by_cases h0 : pixelBytes h = 0 <;> simp [h0, Payload.value]
  case blendMode =>
    rw [hblend, hscalars.1]
    by_cases h0 : pixelBytes h = 0
    · simp [h0]
    · simp [h0, Payload.value, eq_comm]
  case smpte2086 =>
    refine iff_of_false ?_ (by simp)
    rintro ⟨v, hv, hread⟩
    obtain rfl := Option.some.inj hv
    exact hno2086 _ hread
  case cta8613 =>
    refine iff_of_false ?_ (by simp)
    rintro ⟨v, hv, hread⟩
    obtain rfl := Option.some.inj hv
    exact hnocta _ hread
  case smpte209450 =>
    obtain ⟨hlen, hsize, addr, hblock⟩ := stageMetadata_smpte209450 hst
    rw [smpte209450Read_eq hp hgbm hd hlen hsize hblock]
    by_cases h0 : pixelBytes h = 0 <;> simp [h0, Payload.value]
  all_goals simp [Payload.value]

/-! ## Where the table is right -/

/-- A set that succeeds is one of a settable type, and can be observed by the read after it. -/
def SetTruthful (env : Env) (h : NativeHandle) (type : StandardMetadataType) (payload : Payload)
    (m : Mapper) : Prop :=
  let r := m.setStandardMetadata env (some h) type payload
  r.1 = some .none → ListedSettable type ∧ Observes env h type payload r.2

/-- The backend has a value exactly for a gettable type. -/
def GetTruthful (env : Env) (h : NativeHandle) (type : StandardMetadataType) (m : Mapper) : Prop :=
  (m.getStandardMetadata env (some h) type).1.2.isSome = true ↔ ListedGettable type

/-- Where setting is as listed: the call is not accepted, or it is one of a GBM buffer that the
    getter reads back. -/
def SetAsListed (env : Env) (h : NativeHandle) (type : StandardMetadataType) (payload : Payload)
    (p : Proc) : Prop :=
  Accepts env h type payload p →
    routedTo (grallocHandle h) = .mapperGrallocGbm ∧ pixelBytes h ≠ 0 ∧
      ∃ d, storedOf p h = some d ∧ ReadsBack type payload d.metadata

/-- Where getting is as listed. -/
def GetAsListed (h : NativeHandle) (type : StandardMetadataType) (p : Proc) : Prop :=
  match routedTo (grallocHandle h) with
  | .mapperGrallocGbm =>
    if pixelBytes h = 0 then ¬ ListedGettable type
    else type ≠ .name ∧ type ≠ .protectedContent ∧
      (type = .planeLayouts → ((objectFormat h p).bind getPlaneLayouts).isSome = true)
  | .mapperGrallocDmabuf =>
    type ∉ [.protectedContent, .pixelFormatModifier, .planeLayouts, .dataspace, .blendMode,
      .smpte2086, .cta8613, .smpte209450]

/-- What reads back is of a settable type. -/
theorem ReadsBack.listedSettable {type : StandardMetadataType} {payload : Payload}
    {stored : BufferMetadata} (h : ReadsBack type payload stored) : ListedSettable type := by
  rw [listedSettable_iff]
  rcases h with rfl | rfl | ⟨rfl, -⟩ <;> simp

section

variable {env : Env} {h : NativeHandle} {m : Mapper}

/-- The table is right about getting a type of a live buffer where it is listed so. -/
theorem getTruthful_iff (type : StandardMetadataType) (hp : ProcInv m.proc)
    (hblocks : AllHaveBlocks m.proc) (hlive : LiveBuffer h m.proc) :
    GetTruthful env h type m ↔ GetAsListed h type m.proc := by
  unfold GetTruthful GetAsListed
  rcases hlive with hlive | hlive
  · rw [getStandardMetadata_gbm_isSome type hp hblocks hlive, hlive.1]
    by_cases h0 : pixelBytes h = 0
    · simp [h0]
    · rw [listedGettable_iff]
      cases type <;> simp [h0, StandardMetadataType.isKnown]
  · rw [getStandardMetadata_dmaBuf_isSome env type hlive, hlive.1, listedGettable_iff]
    cases type <;> simp [StandardMetadataType.isKnown, dmaBufLacks]

/-- A set keeps the records of the DMA-BUF backend. -/
theorem setStandardMetadata_liveDmaBuf (env : Env) (type : StandardMetadataType)
    (payload : Payload) (hp : ProcInv m.proc) (hlive : LiveDmaBuf h m.proc) :
    LiveDmaBuf h (m.setStandardMetadata env (some h) type payload).2.proc := by
  obtain ⟨f, hrecords⟩ := (Mapper.setStandardMetadata_mild env h type payload hp).records
  refine ⟨hlive.1, ?_⟩
  rw [findBufferInfo, hrecords, Keyed.lookup_map (by intro r; rfl), Option.isSome_map]
  exact hlive.2

/-- The DMA-BUF backend has no value for any type that can be set. -/
theorem settable_subset_dmaBufLacks :
    [.dataspace, .blendMode, .smpte2086, .cta8613, .smpte209450] ⊆ dmaBufLacks := by decide

/-- It is right about setting where the set is not accepted, or is read back. -/
theorem setTruthful_iff (type : StandardMetadataType) (payload : Payload) (hp : ProcInv m.proc)
    (hlive : LiveBuffer h m.proc) :
    SetTruthful env h type payload m ↔ SetAsListed env h type payload m.proc := by
  have haccepted := setStandardMetadata_accepted env type payload hp hlive
  unfold SetTruthful SetAsListed
  dsimp only
  rw [haccepted]
  refine imp_congr_right fun ha => ?_
  have hok := haccepted.mpr ha
  rcases hlive with hlive | hlive
  · obtain ⟨hgbm, hsome⟩ := hlive
    obtain ⟨e, he⟩ := Option.isSome_iff_exists.mp hsome
    have hmem := Keyed.mem_of_lookup he
    obtain ⟨-, b, d, hb, hd⟩ := hp.exists_object hmem
    have hstored : storedOf m.proc h = some d := by
      rw [storedOf_of_entry he, gbmBoGetUserData, hb, Option.bind_some, hd]
    have hinv : ProcInv (m.setStandardMetadata env (some h) type payload).2.proc :=
      mapperStep_inv .androidBp env (.setStandardMetadata (some h) type payload) hp
    rcases Mapper.setStandardMetadata_stored env type payload hp hgbm
        (hp.ready (List.ne_nil_of_mem hmem)) with ⟨hne, -⟩ | ⟨-, staged, p, hst, hafter⟩
    · exact absurd hok hne
    · rw [hstored] at hafter
      rw [observes_iff hinv hgbm hst hafter, hgbm, hstored]
      constructor
      · rintro ⟨-, h0, hback⟩
        exact ⟨rfl, h0, d, rfl, hback⟩
      · rintro ⟨-, h0, d', hd', hback⟩
        obtain rfl := Option.some.inj hd'
        exact ⟨hback.listedSettable, h0, hback⟩
  · have hlive' := setStandardMetadata_liveDmaBuf env type payload hp hlive
    refine iff_of_false ?_ ?_
    · rintro ⟨hlisted, v, -, hread⟩
      have hhas := (getStandardMetadata_dmaBuf_isSome env type hlive').mp (by rw [hread]; rfl)
      rw [listedSettable_iff] at hlisted
      exact hhas.2 (settable_subset_dmaBufLacks hlisted)
    · rintro ⟨hgbm, -⟩
      rw [hlive.1] at hgbm
      cases hgbm

end

/-- **Where the table is truthful.**  In every state of every run, for every live buffer, every type
    and every payload: the list says what a get and a set do, exactly under these conditions. -/
theorem metadataTable_truthful_iff (cfg : BuildConfig) (env : Env) (ops : List MapperOp)
    (h : NativeHandle) (hlive : LiveBuffer h (mapperRun cfg env ops).proc)
    (type : StandardMetadataType) (payload : Payload) :
    (SetTruthful env h type payload (mapperRun cfg env ops) ∧
        GetTruthful env h type (mapperRun cfg env ops)) ↔
      (SetAsListed env h type payload (mapperRun cfg env ops).proc ∧
        GetAsListed h type (mapperRun cfg env ops).proc) := by
  have hp := mapperRun_inv cfg env ops
  exact and_congr (setTruthful_iff type payload hp hlive)
    (getTruthful_iff type hp (mapperRun_hasBlocks cfg env ops) hlive)

/-- The dataspace of a live buffer of the GBM backend is as listed. -/
theorem live_dataspace_truthful :
    SetTruthful .plain liveHandle .dataspace (.ofInt32 1) (mapperRun .androidBp .plain liveOps) ∧
      GetTruthful .plain liveHandle .dataspace (mapperRun .androidBp .plain liveOps) :=
  (metadataTable_truthful_iff .androidBp .plain liveOps liveHandle (.inl ⟨by decide, by decide⟩)
    .dataspace (.ofInt32 1)).mpr
    ⟨fun _ => ⟨rfl, by decide, _, rfl, .inl rfl⟩, ⟨nofun, nofun, nofun⟩⟩

/-- A crop is no settable type and a name no gettable one, but the GBM backend takes the one and
    provides the other; the DMA-BUF backend takes a dataspace, and has none to read. -/
theorem table_not_truthful :
    let m := mapperRun .androidBp .plain liveOps
    let m' := mapperRun .androidBp .plain [.buffer (.importBuffer (some (blobHandle 5)))]
    LiveBuffer liveHandle m.proc ∧ LiveBuffer blobClone m'.proc ∧
      ¬ SetTruthful .plain liveHandle .crop (.ofInt32 1) m ∧
      ¬ GetTruthful .plain liveHandle .name m ∧
      ¬ SetTruthful .plain blobClone .dataspace (.ofInt32 1) m' ∧
      ¬ GetTruthful .plain blobClone .dataspace m' := by
  refine ⟨.inl ⟨by decide, by decide⟩, .inr ⟨by decide, by decide⟩, ?_, ?_, ?_, ?_⟩
  · intro h
    have hlisted := (listedSettable_iff _).mp (h rfl).1
    revert hlisted
    decide
  · intro h
    have hlisted := (listedGettable_iff _).mp (h.mp rfl)
    revert hlisted
    decide
  · intro h
    obtain ⟨v, -, hread⟩ := (h rfl).2
    cases hread
  · intro h
    have hread := h.mpr ((listedGettable_iff _).mpr (by decide))
    cases hread

end GrallocGbm
