/-
  The HDR blocks of a buffer object and the size recorded for SMPTE2094_50.

  An object starts with a block of the maximal size and a recorded size of 0; a set replaces both,
  by a block of just the payload's length.  In between the values go through a temporary record
  whose other pointers are NULL, but only the part of the type is copied out of it.  So whatever is
  set, in any order, with payloads of any length, the size never exceeds the block (`SizeMatches`).

  That the pointers are not NULL is known (`mapperRun_hasBlocks`).  That they do not dangle is the
  other half of the invariant (`BlocksInv`): a set allocates, and releases nothing; destroying an
  object releases blocks of that object, and no other object has one of them.

  `mapperRun_hdrBlocks` holds along all runs of the mapper, with locks and releases of buffers.

  There are four kinds of step: one that leaves the metadata alone (`of_kept`), an import, which
  adds an object with three new blocks (`of_added`), a free, which releases two of them (`of_left`),
  and a set, after which one object refers to what it referred to before or to what is new
  (`of_target`). The last is the one with an argument: the staged record and the object share a
  block for a moment, and it is the object that keeps it.

  The result is about the query, which follows the pointers: it reads blocks that are allocated, and
  copies as many bytes of SMPTE2094_50 as the size says, which are within the block (`QueryInside`).
-/
import GrallocGbm.MetadataTable

namespace GrallocGbm

/-! ## Size and block

  The length of the SMPTE2094_50 payload and the block it was copied to are two fields; they
  agree if they were written together. -/

/-- The recorded size is one of a payload, and within the block. -/
structure SizeMatches (metadata : BufferMetadata) : Prop where
  nonneg : 0 ≤ metadata.smpte209450Size.toInt
  le_max : metadata.smpte209450Size.toInt ≤ grallocGenericSmpte209450MaxSize
  le_block : ∀ block, metadata.smpte209450 = some block →
    metadata.smpte209450Size.toInt ≤ block.val.length

/-- New user data has a size of zero. -/
theorem sizeMatches_zeroBoData (a : Nat) : SizeMatches (zeroBoData a).metadata where
  nonneg := le_refl _
  le_max := Int.natCast_nonneg _
  le_block := by
    rintro block ⟨⟩
    exact Int.natCast_nonneg _

/-- What is staged for SMPTE2094_50 has a block of just its size. -/
theorem stageMetadata_sizeMatches {payload : Payload} {p : Proc} {staged : BufferMetadata}
    (h : (stageMetadata .smpte209450 payload p).1 = some staged) : SizeMatches staged := by
  obtain ⟨hlen, hsize, addr, hblock⟩ := stageMetadata_smpte209450 h
  have hmax : grallocGenericSmpte209450MaxSize = 10240 := rfl
  have hint : staged.smpte209450Size.toInt = payload.metadataSize := by
    rw [hsize]
    exact Int32.toInt_ofNat_of_lt (by omega)
  constructor
  case nonneg =>
    rw [hint]
    exact Int.natCast_nonneg _
  case le_max =>
    rw [hint]
    exact Int.ofNat_le.mpr hlen
  case le_block =>
    intro block hb
    rw [hblock] at hb
    cases hb
    rw [hint, payload.length_bytes]

/-- Storing a type takes over both its block and its size, or neither. -/
theorem SizeMatches.storeMetadata {type : StandardMetadataType} {payload : Payload} {p : Proc}
    {staged stored : BufferMetadata} (h : SizeMatches stored)
    (hst : (stageMetadata type payload p).1 = some staged) :
    SizeMatches (storeMetadata type staged stored) := by
  by_cases ht : type = .smpte209450
  · subst ht
    obtain ⟨h1, h2, h3⟩ := stageMetadata_sizeMatches hst
    exact ⟨h1, h2, h3⟩
  · have hkeep : (GrallocGbm.storeMetadata type staged stored).smpte209450 = stored.smpte209450 ∧
        (GrallocGbm.storeMetadata type staged stored).smpte209450Size = stored.smpte209450Size := by
      cases type <;> first | exact ⟨rfl, rfl⟩ | exact absurd rfl ht
    obtain ⟨hblock, hsize⟩ := hkeep
    constructor
    case nonneg =>
      rw [hsize]
      exact h.nonneg
    case le_max =>
      rw [hsize]
      exact h.le_max
    case le_block =>
      rw [hblock, hsize]
      exact h.le_block

/-! ## The invariant

  Along with it, what the getter needs: that the blocks are there. -/

/-- Sizes match, and the blocks of every object are allocated, and are its own. -/
structure BlocksInv (p : Proc) : Prop where
  inv : ProcInv p
  sizes : ∀ bo metadata, metadataOf bo p = some metadata → SizeMatches metadata
  allocated : ∀ bo a, a ∈ blocksOf bo p → a ∈ p.heap
  block_lt : ∀ bo a, a ∈ blocksOf bo p → a < p.next
  apart : ∀ bo bo' a, a ∈ blocksOf bo p → a ∈ blocksOf bo' p → bo = bo'

/-- There is no object. -/
theorem BlocksInv.start : BlocksInv Proc.start where
  inv := .start
  sizes := by intro bo metadata h; cases h
  allocated := by intro bo a h; cases h
  block_lt := by intro bo a h; cases h
  apart := by intro bo bo' a h; cases h

section

variable {p p' : Proc}

/-- A step that leaves the metadata of all objects alone. -/
theorem BlocksInv.of_kept (h : BlocksInv p) (hk : MetadataKept p p') (hinv : ProcInv p') :
    BlocksInv p' where
  inv := hinv
  sizes := by
    intro bo metadata hm
    rw [hk.metadata] at hm
    exact h.sizes bo metadata hm
  allocated := by
    intro bo a ha
    rw [hk.blocks] at ha
    rw [hk.heap]
    exact h.allocated bo a ha
  block_lt := by
    intro bo a ha
    rw [hk.blocks] at ha
    exact lt_of_lt_of_le (h.block_lt bo a ha) hk.next_le
  apart := by
    intro bo bo' a ha ha'
    rw [hk.blocks] at ha ha'
    exact h.apart bo bo' a ha ha'

/-- **One object takes blocks in.**  What it refers to afterwards it has referred to before, or it is
    new; the other objects are as they were. -/
theorem BlocksInv.of_target (h : BlocksInv p) (hinv : ProcInv p') (target : Nat)
    (hsizes : ∀ metadata, metadataOf target p' = some metadata → SizeMatches metadata)
    (hheap : p.heap ⊆ p'.heap) (hnext : p.next ≤ p'.next)
    (hown : ∀ a ∈ blocksOf target p', a ∈ blocksOf target p ∨
      (p.next ≤ a ∧ a < p'.next ∧ a ∈ p'.heap))
    (hothers : ∀ bo, bo ≠ target → metadataOf bo p' = metadataOf bo p) : BlocksInv p' := by
  have hsame : ∀ bo, bo ≠ target → blocksOf bo p' = blocksOf bo p := by
    intro bo hne
    rw [blocksOf, hothers bo hne, blocksOf]
  have hblocks : ∀ bo, ∀ a ∈ blocksOf bo p', a ∈ blocksOf bo p ∨
      (bo = target ∧ p.next ≤ a ∧ a < p'.next ∧ a ∈ p'.heap) := by
    intro bo a ha
    by_cases hbo : bo = target
    · subst hbo
      exact (hown a ha).imp_right fun hnew => ⟨rfl, hnew⟩
    · rw [hsame bo hbo] at ha
      exact .inl ha
  constructor
  case inv => exact hinv
  case sizes =>
    intro bo metadata hm
    by_cases hbo : bo = target
    · exact hsizes metadata (hbo ▸ hm)
    · rw [hothers bo hbo] at hm
      exact h.sizes bo metadata hm
  case allocated =>
    intro bo a ha
    rcases hblocks bo a ha with hold | ⟨-, -, -, hnew⟩
    · exact hheap (h.allocated bo a hold)
    · exact hnew
  case block_lt =>
    intro bo a ha
    rcases hblocks bo a ha with hold | ⟨-, -, hnew, -⟩
    · exact lt_of_lt_of_le (h.block_lt bo a hold) hnext
    · exact hnew
  case apart =>
    intro bo bo' a ha ha'
    rcases hblocks bo a ha with hold | ⟨hbo, hnew, -⟩ <;>
      rcases hblocks bo' a ha' with hold' | ⟨hbo', hnew', -⟩
    · exact h.apart bo bo' a hold hold'
    · exact absurd (h.block_lt bo a hold) (not_lt.mpr hnew')
    · exact absurd (h.block_lt bo' a hold') (not_lt.mpr hnew)
    · rw [hbo, hbo']

/-- An import: the new object has blocks of its own. -/
theorem BlocksInv.of_added (h : BlocksInv p) {bo a : Nat} (hadd : BlocksAdded p p' bo a)
    (hinv : ProcInv p') : BlocksInv p' := by
  obtain ⟨hle, hlt⟩ := hadd.addr_new
  apply h.of_target hinv bo
  · intro metadata hm
    rw [hadd.own] at hm
    cases hm
    exact sizeMatches_zeroBoData a
  · rw [hadd.heap]
    intro x hx
    simp only [Finset.mem_insert]
    tauto
  · omega
  · intro x hx
    rw [blocksOf_of_some hadd.own, blocks_zeroBoData] at hx
    rw [hadd.heap]
    simp only [List.mem_cons, List.not_mem_nil, or_false] at hx
    refine .inr ⟨by omega, by omega, ?_⟩
    simp only [Finset.mem_insert]
    tauto
  · exact hadd.others

/-- What an object's destruction releases, no other object refers to. -/
theorem BlocksInv.of_left (h : BlocksInv p) {bo : Nat} {metadata : BufferMetadata}
    (hleft : BlocksLeft p p' bo metadata) (hnext : p.next ≤ p'.next) (hinv : ProcInv p') :
    BlocksInv p' := by
  have hold : ∀ bo', ∀ a ∈ blocksOf bo' p', bo' ≠ bo ∧ a ∈ blocksOf bo' p := by
    intro bo' a ha
    obtain ⟨metadata', hm, hmem⟩ := exists_of_mem_blocksOf ha
    obtain ⟨hne, hm'⟩ := hleft.metadata_of_some hm
    exact ⟨hne, by rw [blocksOf_of_some hm']; exact hmem⟩
  constructor
  case inv => exact hinv
  case sizes => exact fun bo' metadata' hm => h.sizes bo' metadata' (hleft.metadata_of_some hm).2
  case allocated =>
    intro bo' a ha
    obtain ⟨hne, ha⟩ := hold bo' a ha
    by_contra hreleased
    have hown : a ∈ blocksOf bo p := by
      rw [blocksOf_of_some hleft.own]
      rcases hleft.heap a (h.allocated bo' a ha) hreleased with heq | heq <;>
        simp [BufferMetadata.blocks, heq]
    exact hne (h.apart bo' bo a ha hown)
  case block_lt =>
    intro bo' a ha
    exact lt_of_lt_of_le (h.block_lt bo' a (hold bo' a ha).2) hnext
  case apart =>
    intro bo1 bo2 a ha ha'
    exact h.apart bo1 bo2 a (hold bo1 a ha).2 (hold bo2 a ha').2

end

/-! ## One call -/

section

variable (cfg : BuildConfig) (env : Env) (handle : NativeHandle) {m : Mapper}

/-- A free hands out no address. -/
theorem Mapper.freeBuffer_next (hp : ProcInv m.proc) :
    m.proc.next ≤ (m.freeBuffer env (some handle)).2.proc.next := by
  have hready := (readied_frame env handle m.proc 0).next_le
  rcases Mapper.freeBuffer_cases env handle hp with ⟨hs, -⟩ | ⟨e, heap, cs, -, -, -, hr⟩
  · exact le_trans hready hs.1.next_le
  · rw [hr]
    exact hready

/-- A set that gets its temporary record. -/
theorem BlocksInv.setStandardMetadata (h : BlocksInv m.proc) (type : StandardMetadataType)
    (payload : Payload) (ht : TakesRecord env handle m.proc) :
    BlocksInv (m.setStandardMetadata env (some handle) type payload).2.proc := by
  have hinv := (h.inv.readied env handle).of_frame
    (Mapper.setStandardMetadata_still env handle type payload h.inv).1
  obtain ⟨hheap, hnext, target, hmeta⟩ :=
    Mapper.setStandardMetadata_staged env handle type payload ht h.inv
  obtain ⟨hsub, hle, hnew⟩ := stageMetadata_blocks type payload (withRecord (readied env handle m.proc))
  have hready := readied_metadata env handle m.proc
  have hrecord : m.proc.next ≤ (withRecord (readied env handle m.proc)).next :=
    le_trans hready.next_le (Nat.le_succ _)
  apply h.of_target hinv target
  · intro metadata hm
    rcases hmeta target with heq | ⟨-, staged, hst, heq⟩
    · exact h.sizes target metadata (heq ▸ hm)
    · obtain ⟨stored, hstored, rfl⟩ := Option.map_eq_some_iff.mp (heq.symm.trans hm)
      exact (h.sizes target stored hstored).storeMetadata hst
  · intro a ha
    show a ∈ (m.setStandardMetadata env (some handle) type payload).2.proc.heap
    rw [hheap]
    apply hsub
    rw [← hready.heap] at ha
    exact Finset.mem_insert_of_mem ha
  · show m.proc.next ≤ (m.setStandardMetadata env (some handle) type payload).2.proc.next
    rw [hnext]
    exact le_trans hrecord hle
  · intro a ha
    rcases hmeta target with heq | ⟨-, staged, hst, heq⟩
    · rw [blocksOf, show metadataOf target _ = _ from heq] at ha
      exact .inl ha
    · obtain ⟨metadata, hm, ha⟩ := exists_of_mem_blocksOf ha
      obtain ⟨stored, hstored, rfl⟩ := Option.map_eq_some_iff.mp (heq.symm.trans hm)
      rcases storeMetadata_blocks type staged stored a ha with ha | ha
      · obtain ⟨hlow, hupp, hmem⟩ := hnew staged hst a ha
        rw [← hnext] at hupp
        rw [← hheap] at hmem
        exact .inr ⟨le_trans hrecord hlow, hupp, hmem⟩
      · exact .inl (by rw [blocksOf_of_some hstored]; exact ha)
  · intro bo hne
    rcases hmeta bo with heq | ⟨hbo, -⟩
    · exact heq
    · exact absurd hbo hne

/-- **Every call keeps sizes and blocks matched.** -/
theorem mapperStep_blocksInv (op : MapperOp) (h : BlocksInv m.proc) :
    BlocksInv (mapperStep cfg env m op).proc := by
  have hinv := mapperStep_inv cfg env op h.inv
  by_cases hk : KeepsBlocks env m op
  · rcases mapperStep_metadata cfg env op h.inv with hkept | ⟨bo, a, hadd⟩ | ⟨hno, -⟩
    · exact h.of_kept hkept hinv
    · exact h.of_added hadd hinv
    · exact absurd hk hno
  -- a set that gets its record, or the release of an object
  · cases op with
    | buffer op =>
      cases op with
      | importBuffer buffer => exact absurd trivial hk
      | freeBuffer buffer =>
        cases buffer with
        | none => exact absurd trivial hk
        | some handle =>
          obtain ⟨bo, metadata, hleft⟩ := Mapper.freeBuffer_destroys env handle h.inv (not_not.mp hk)
          exact h.of_left hleft (Mapper.freeBuffer_next env handle h.inv) hinv
      | lock buffer cpuUsage => exact absurd trivial hk
      | unlock buffer => exact absurd trivial hk
    | getStandardMetadata buffer type => exact absurd trivial hk
    | setStandardMetadata buffer type payload =>
      cases buffer with
      | none => exact absurd trivial hk
      | some handle => exact h.setStandardMetadata env handle type payload (not_not.mp hk)

end

/-! ## Runs -/

/-- The invariant of every run. -/
theorem mapperRun_blocksInv (cfg : BuildConfig) (env : Env) (ops : List MapperOp) :
    BlocksInv (mapperRun cfg env ops).proc :=
  Run.foldl_inv_all (fun m : Mapper => BlocksInv m.proc)
    (fun _ op h => mapperStep_blocksInv cfg env op h) ops BlocksInv.start

/-- What the query follows of a record: pointers that are not NULL, to blocks that are allocated, of
    which that of SMPTE2094_50 is as long as the size says. -/
structure HdrBlocksMatch (p : Proc) (metadata : BufferMetadata) : Prop extends HasBlocks metadata,
    SizeMatches metadata where
  allocated : ∀ a ∈ metadata.blocks, a ∈ p.heap

/-- The query follows no NULL pointer, and copies as many bytes of SMPTE2094_50 as the size says. -/
structure QueryInside (info : AndroidBufferInfo) : Prop where
  pointers : ∀ type, gbmMetadataValue info type ≠ .crash
  copied : ∀ bytes, gbmMetadataValue info .smpte209450 = .value (.smpte209450 (some bytes)) →
    (bytes.length : Int) = info.metadata.smpte209450Size.toInt

/-- With such a record, the query stays within the blocks. -/
theorem HdrBlocksMatch.queryInside {p : Proc} {info : AndroidBufferInfo}
    (h : HdrBlocksMatch p info.metadata) : QueryInside info where
  pointers := by
    obtain ⟨b1, h1⟩ := Option.ne_none_iff_exists'.mp h.smpte2086
    obtain ⟨b2, h2⟩ := Option.ne_none_iff_exists'.mp h.cta8613
    obtain ⟨b3, h3⟩ := Option.ne_none_iff_exists'.mp h.smpte209450
    intro type
    cases type
    case planeLayouts =>
      simp only [gbmMetadataValue]
      split <;> simp
    case smpte209450 =>
      simp only [gbmMetadataValue, h3]
      split <;> simp
    all_goals simp [gbmMetadataValue, h1, h2]
  copied := by
    obtain ⟨block, hblock⟩ := Option.ne_none_iff_exists'.mp h.smpte209450
    have hle := h.le_block block hblock
    have hnonneg := h.nonneg
    intro bytes hbytes
    simp only [gbmMetadataValue, hblock] at hbytes
    split at hbytes
    · cases hbytes
      rw [List.length_take]
      omega
    · cases hbytes

/-- **Size and blocks of the HDR metadata.**  After any calls of the mapper, the user data of every
    live object has its blocks, allocated, and a size of SMPTE2094_50 that is within the block and
    the maximum; so every query stays inside. -/
theorem mapperRun_hdrBlocks (cfg : BuildConfig) (env : Env) (ops : List MapperOp) :
    let p := (mapperRun cfg env ops).proc
    (∀ bo d, gbmBoGetUserData bo p = some d → HdrBlocksMatch p d.metadata) ∧
      ∀ handle info, (grallocGbmAndroidBufferQuery env handle p).1 = .ok info →
        HdrBlocksMatch p info.metadata ∧ QueryInside info := by
  intro p
  have h := mapperRun_blocksInv cfg env ops
  have hmatch : ∀ bo d, gbmBoGetUserData bo p = some d → HdrBlocksMatch p d.metadata := by
    intro bo d hd
    have hm : metadataOf bo p = some d.metadata := by
      rw [metadataOf, hd]
      rfl
    refine ⟨mapperRun_hasBlocks cfg env ops bo _ hm, h.sizes bo _ hm, fun a ha => ?_⟩
    exact h.allocated bo a (by rw [blocksOf_of_some hm]; exact ha)
  refine ⟨hmatch, fun handle info hinfo => ?_⟩
  rcases grallocGbmAndroidBufferQuery_cases env handle h.inv.user_data with
    ⟨hno, -⟩ | ⟨e, b, d, -, -, hb, hd, -, hr⟩
  · exact absurd hinfo (hno info)
  · have hdata : gbmBoGetUserData e.bo p = some d := by
      rw [gbmBoGetUserData, show p.bos e.bo = some b from hb]
      exact hd
    have hmeta : info.metadata = d.metadata := by
      rw [hr] at hinfo
      split at hinfo
      · cases hinfo
      · cases hinfo
        rfl
    have hinfo' : HdrBlocksMatch p info.metadata := by
      rw [hmeta]
      exact hmatch e.bo d hdata
    exact ⟨hinfo', hinfo'.queryInside⟩

/-- SMPTE2094_50 of a live buffer is set to three bytes, and then to none. -/
theorem emptied_hdrBlocks :
    let ops := liveOps ++ [.setStandardMetadata (some liveHandle) .smpte209450 (countingPayload 3),
      .setStandardMetadata (some liveHandle) .smpte209450 (countingPayload 0)]
    let p := (mapperRun .androidBp .plain ops).proc
    ∃ d, gbmBoGetUserData 4 p = some d ∧ d.metadata.smpte209450Size = 0 ∧
      HdrBlocksMatch p d.metadata :=
  ⟨_, rfl, rfl, (mapperRun_hdrBlocks .androidBp .plain _).1 4 _ rfl⟩

end GrallocGbm
