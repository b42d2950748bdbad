/-
  Do the creator and the importer of a buffer describe the same buffer object?

  `gralloc_gbm_android_buffer_new` stores the size it passes to `gbm_bo_create` in the handle, and
  `gralloc_gbm_android_buffer_import` adjusts the size it finds there once more.  The cursor block
  is idempotent (`cursorNat_idem`), so adjusting twice does no harm; the YV12 adjustment is not.
  `grallocGbmAndroidBufferImport_agrees_iff` is the exact condition under which the two calls carry
  the same arguments: any format but YV12, and for YV12 only the sizes whose second adjustment the
  cursor block happens to overwrite with the stored size.

  1. **On `Nat`** — what the adjustments do to a size that does not wrap: `cursorNat` for the cursor
     block, `newSizeNat` and `importSizeNat` for the two functions.  The comparison is made here
     (`importSizeNat_newSizeNat`).

  2. **On machine integers** — the sizes are computed on `Int32` by the creator and on `UInt32` by
     the importer; for the sizes an allocation accepts neither wraps (`newSize_toNat`,
     `importSize_toNat`), and both are the functions on `Nat`.

  3. **The two calls** — the arguments are taken from the log of calls, and are compared field by
     field (`PassesOn`).  The stride, the modifier and the descriptor are those gbm reported to the
     creator, and the flags come from the same usage and format: they agree for every descriptor, so
     that the size decides.

  The two functions run in different processes.  What the second knows of the first is the handle.
-/
import GrallocGbm.Buffer

namespace GrallocGbm

open Align

/-! ## The size adjustments on `Nat`

  The cursor's minimum and its alignment as functions on numbers, and when doing it twice is
  doing it once. -/

/-- The cursor block on a size that does not wrap. -/
def cursorNat (cfg : BuildConfig) (n : Nat) : Nat :=
  if cfg.noCursorAligning then max n 64 else roundUp 4 (max n 64)

/-- The cursor block enlarges, to 64 at least and by less than 68. -/
theorem cursorNat_bounds (cfg : BuildConfig) (n : Nat) :
    n ≤ cursorNat cfg n ∧ 64 ≤ cursorNat cfg n ∧ cursorNat cfg n < n + 68 := by
  have h1 := le_roundUp (by omega : 0 < 4) (max n 64)
  have h2 := roundUp_lt (by omega : 0 < 4) (max n 64)
  unfold cursorNat
  split <;> omega

/-- The fixed points of the cursor block. -/
theorem cursorNat_eq_self_iff (cfg : BuildConfig) (n : Nat) :
    cursorNat cfg n = n ↔ 64 ≤ n ∧ (cfg.noCursorAligning = true ∨ 4 ∣ n) := by
  constructor
  · intro h
    have h64 : 64 ≤ n := h ▸ (cursorNat_bounds cfg n).2.1
    refine ⟨h64, ?_⟩
    cases ha : cfg.noCursorAligning with
    | true => exact .inl rfl
    | false =>
      rw [cursorNat, ha, if_neg (by simp), Nat.max_eq_left h64] at h
      exact .inr (h ▸ dvd_roundUp 4 n)
  · rintro ⟨h64, h⟩
    have hmax : max n 64 = n := by omega
    unfold cursorNat
    split
    · exact hmax
    · rename_i ha
      rw [hmax]
      exact roundUp_of_dvd (by omega) (h.resolve_left ha)

/-- Adjusting for a cursor twice is adjusting once. -/
theorem cursorNat_idem (cfg : BuildConfig) (n : Nat) :
    cursorNat cfg (cursorNat cfg n) = cursorNat cfg n := by
  rw [cursorNat_eq_self_iff]
  refine ⟨(cursorNat_bounds cfg n).2.1, ?_⟩
  cases ha : cfg.noCursorAligning with
  | true => exact .inl rfl
  | false =>
    right
    rw [cursorNat, ha, if_neg (by simp)]
    exact dvd_roundUp 4 _

/-! ## The machine arithmetic of the two functions

  The same in the types of the source, where nothing overflows in range. -/

/-- The maximum, on either type. -/
theorem toNat_cMax (a b : UInt32) : (cMax a b).toNat = max a.toNat b.toNat := by
  unfold cMax
  split <;> rename_i h <;> rw [UInt32.lt_iff_toNat_lt] at h <;> omega

theorem toInt_cMax (a b : Int32) : (cMax a b).toInt = max a.toInt b.toInt := by
  unfold cMax
  split <;> rename_i h <;> rw [Int32.lt_iff_toInt_lt] at h <;> omega

/-- A non-negative `int32_t` passed as `uint32_t`. -/
theorem toNat_toUInt32 {x : Int32} (h : 0 ≤ x.toInt) : (x.toUInt32.toNat : Int) = x.toInt := by
  have hlt := x.toBitVec.isLt
  have hdef : x.toInt = x.toBitVec.toInt := rfl
  have hnat : x.toUInt32.toNat = x.toBitVec.toNat := rfl
  rw [hdef, BitVec.toInt_eq_toNat_cond] at h ⊢
  split at h <;> omega

/-- Within the limits the cursor block is the one on `Nat`, unsigned, -/
theorem toNat_cursorExtent (cfg : BuildConfig) {x : UInt32} (hx : x.toNat < 2 ^ 20) :
    (cursorExtent cfg x).toNat = cursorNat cfg x.toNat := by
  have hmax : (cMax x 64).toNat = max x.toNat 64 := toNat_cMax x 64
  unfold cursorExtent cursorNat
  split
  · exact hmax
  · have h := toNat_alignUp (cMax x 64) (k := 2) (by omega) (by rw [hmax]; omega)
    rw [hmax] at h
    exact h

/-- and signed. -/
theorem toInt_cursorExtent (cfg : BuildConfig) {x : Int32} (hx : x.toInt < 2 ^ 20) :
    (cursorExtent cfg x).toInt = cursorNat cfg x.toInt.toNat := by
  have hmax : (cMax x 64).toInt = max x.toInt 64 := toInt_cMax x 64
  have hnat : (max x.toInt 64).toNat = max x.toInt.toNat 64 := by omega
  unfold cursorExtent cursorNat
  split
  · rw [hmax]
    omega
  · have h := toInt_alignUp (cMax x 64) (k := 2) (by omega) (by rw [hmax]; omega)
      (by rw [hmax]; omega)
    rw [hmax, hnat] at h
    exact h

/-- `ALIGN(x, 2^k) / 2` on `int32_t`. -/
theorem toInt_alignUp_div_two {x : Int32} {k : Nat} (hk : k < 20) (h0 : 0 ≤ x.toInt)
    (hx : x.toInt < 2 ^ 20) :
    (alignUp x (Int32.ofNat (2 ^ k)) / 2).toInt = (roundUp (2 ^ k) x.toInt.toNat / 2 : Nat) := by
  have hpos : 0 < 2 ^ k := Nat.two_pow_pos k
  have hpow : 2 ^ k < 2 ^ 20 := Nat.pow_lt_pow_right (by omega) hk
  have hlt := roundUp_lt hpos x.toInt.toNat
  have h2 : (2 : Int32).toInt = 2 := rfl
  rw [Int32.toInt_div, toInt_alignUp x (by omega) h0 (by omega), h2,
    Int.tdiv_eq_ediv_of_nonneg (Int.natCast_nonneg _)]
  rw [Int.bmod_eq_of_le (by omega) (by omega)]
  omega

/-- `ALIGN(x, 2^k) / 2` on `uint32_t`. -/
theorem toNat_alignUp_div_two {x : UInt32} {k : Nat} (hk : k < 20) (hx : x.toNat < 2 ^ 20) :
    (alignUp x (UInt32.ofNat (2 ^ k)) / 2).toNat = roundUp (2 ^ k) x.toNat / 2 := by
  have hpow : 2 ^ k < 2 ^ 20 := Nat.pow_lt_pow_right (by omega) hk
  rw [UInt32.toNat_div, toNat_alignUp x (by omega) (by omega)]
  rfl

/-! ## The two sizes

  What the creator passes on, what it stores in the handle, and what the importer makes of that. -/

/-- A descriptor within the size limits of the library. -/
structure DescInRange (desc : AllocatorDesc) : Prop where
  width_pos : 1 ≤ desc.width.toInt
  width_le : desc.width.toInt ≤ 16384
  height_pos : 1 ≤ desc.height.toInt
  height_le : desc.height.toInt ≤ 16384

/-- The size the creator requests, on `Nat`. -/
def newSizeNat (cfg : BuildConfig) (cursor yv12 : Bool) (w h : Nat) : Nat × Nat :=
  let h' := if cursor then cursorNat cfg h else h
  if yv12 then (roundUp 32 w / 2, h' + roundUp 2 h / 2)
  else (if cursor then cursorNat cfg w else w, h')

/-- The size the importer passes on, on `Nat`. -/
def importSizeNat (cfg : BuildConfig) (cursor yv12 : Bool) (w h : Nat) : Nat × Nat :=
  if cursor then (cursorNat cfg w, cursorNat cfg h)
  else if yv12 then (roundUp 32 w / 2, h + roundUp 2 h / 2)
  else (w, h)

/-- What is stored is far from wrapping. -/
theorem newSizeNat_lt (cfg : BuildConfig) (cursor yv12 : Bool) {w h : Nat} (hw : w ≤ 16384)
    (hh : h ≤ 16384) :
    (newSizeNat cfg cursor yv12 w h).1 < 2 ^ 16 ∧ (newSizeNat cfg cursor yv12 w h).2 < 2 ^ 16 := by
  have hcw := (cursorNat_bounds cfg w).2.2
  have hch := (cursorNat_bounds cfg h).2.2
  have hrw := roundUp_lt (by omega : 0 < 32) w
  have hrh := roundUp_lt (by omega : 0 < 2) h
  cases cursor <;> cases yv12 <;> simp only [newSizeNat, if_true, if_false, Bool.false_eq_true] <;>
    omega

/-- Does the flag set ask for a cursor? -/
def wantsCursor (flags : UInt32) : Bool := decide (flags &&& gbmBoUseCursor ≠ 0)

/-- Is the Android format YV12? -/
def isYv12 (format : UInt32) : Bool := decide (format = halPixelFormatYv12)

/-- What the creator computes is the function on `Nat`. -/
theorem newSize_toNat (cfg : BuildConfig) {desc : AllocatorDesc} (hd : DescInRange desc)
    (flags : UInt32) :
    let n := newSizeNat cfg (wantsCursor flags) (isYv12 desc.format.toUInt32)
      desc.width.toInt.toNat desc.height.toInt.toNat
    (newSize cfg desc flags).1.toUInt32.toNat = n.1 ∧
      (newSize cfg desc flags).2.toUInt32.toNat = n.2 := by
  intro n
  obtain ⟨hw1, hw2, hh1, hh2⟩ := hd
  have hn := newSizeNat_lt cfg (wantsCursor flags) (isYv12 desc.format.toUInt32)
    (w := desc.width.toInt.toNat) (h := desc.height.toInt.toNat) (by omega) (by omega)
  have hcw := toInt_cursorExtent cfg (x := desc.width) (by omega)
  have hch := toInt_cursorExtent cfg (x := desc.height) (by omega)
  have hyw : (alignUp desc.width 32 / 2).toInt = _ :=
    toInt_alignUp_div_two (x := desc.width) (k := 5) (by omega) (by omega) (by omega)
  have hyh : (alignUp desc.height 2 / 2).toInt = _ :=
    toInt_alignUp_div_two (x := desc.height) (k := 1) (by omega) (by omega) (by omega)
  -- the machine size, as a pair of integers
  have hint : (newSize cfg desc flags).1.toInt = n.1 ∧ (newSize cfg desc flags).2.toInt = n.2 := by
    have hadd : ∀ {a b : Int32} {x y : Nat}, a.toInt = x → b.toInt = y → x + y < 2 ^ 16 →
        (a + b).toInt = (x + y : Nat) := by
      intro a b x y ha hb hxy
      rw [Int32.toInt_add, ha, hb, Int.bmod_eq_of_le (by omega) (by omega)]
      omega
    by_cases hc : flags &&& gbmBoUseCursor = 0 <;>
      by_cases hy : desc.format.toUInt32 = halPixelFormatYv12 <;>
        simp only [n, newSizeNat, wantsCursor, isYv12, newSize, hc, hy, ne_eq, not_true_eq_false,
          not_false_eq_true, decide_true, decide_false, if_true, if_false, Bool.false_eq_true]
          at hn ⊢
    · exact ⟨hyw, hadd (by omega) hyh hn.2⟩
    · omega
    · exact ⟨hyw, hadd hch hyh hn.2⟩
    · exact ⟨hcw, hch⟩
  have h1 := toNat_toUInt32 (x := (newSize cfg desc flags).1) (by omega)
  have h2 := toNat_toUInt32 (x := (newSize cfg desc flags).2) (by omega)
  omega

/-- So is what the importer computes. -/
theorem importSize_toNat (cfg : BuildConfig) {g : GrallocHandle} (hw : g.width.toNat < 2 ^ 16)
    (hh : g.height.toNat < 2 ^ 16) (flags : UInt32) :
    let n := importSizeNat cfg (wantsCursor flags) (isYv12 g.format) g.width.toNat g.height.toNat
    (importSize cfg g flags).1.toNat = n.1 ∧ (importSize cfg g flags).2.toNat = n.2 := by
  intro n
  have hcw := toNat_cursorExtent cfg (x := g.width) (by omega)
  have hch := toNat_cursorExtent cfg (x := g.height) (by omega)
  have hyw : (alignUp g.width 32 / 2).toNat = _ :=
    toNat_alignUp_div_two (x := g.width) (k := 5) (by omega) (by omega)
  have hyh : (alignUp g.height 2 / 2).toNat = _ :=
    toNat_alignUp_div_two (x := g.height) (k := 1) (by omega) (by omega)
  have hrh := roundUp_lt (by omega : 0 < 2 ^ 1) g.height.toNat
  by_cases hc : flags &&& gbmBoUseCursor = 0 <;>
    by_cases hy : g.format = halPixelFormatYv12 <;>
      simp only [n, importSizeNat, wantsCursor, isYv12, importSize, hc, hy, ne_eq,
        not_true_eq_false, not_false_eq_true, decide_true, decide_false, if_true, if_false,
        Bool.false_eq_true]
  · refine ⟨hyw, ?_⟩
    rw [UInt32.toNat_add, hyh, Nat.mod_eq_of_lt (by omega)]
    rfl
  · exact ⟨trivial, trivial⟩
  · exact ⟨hcw, hch⟩
  · exact ⟨hcw, hch⟩

/-- **When adjusting the stored size changes nothing.**  Without YV12 always; with YV12 only if the
    cursor block overwrites the second adjustment and is itself idle on the stored size. -/
theorem importSizeNat_newSizeNat (cfg : BuildConfig) (cursor yv12 : Bool) {w h : Nat}
    (hh : 1 ≤ h) :
    importSizeNat cfg cursor yv12 (newSizeNat cfg cursor yv12 w h).1
        (newSizeNat cfg cursor yv12 w h).2 = newSizeNat cfg cursor yv12 w h ↔
      yv12 = false ∨
        (cursor = true ∧ 96 < w ∧ (cfg.noCursorAligning = true ∨ 8 ∣ roundUp 2 h)) := by
  have hr := le_roundUp (by omega : 0 < 2) h
  have h2 := dvd_roundUp 2 h
  cases yv12 with
  | false => cases cursor <;> simp [importSizeNat, newSizeNat, cursorNat_idem]
  | true =>
    cases cursor with
    | false =>
      -- the height grows once more
      have h1 := le_roundUp (by omega : 0 < 2) (h + roundUp 2 h / 2)
      simp only [importSizeNat, newSizeNat, if_true, if_false, Bool.false_eq_true, Prod.mk.injEq]
      simp only [reduceCtorEq, false_and, or_self, iff_false, not_and]
      omega
    | true =>
      have hw32 := dvd_roundUp 32 w
      have hwle := le_roundUp (by omega : 0 < 32) w
      have hwlt := roundUp_lt (by omega : 0 < 32) w
      have hc := cursorNat_bounds cfg h
      simp only [importSizeNat, newSizeNat, if_true, Prod.mk.injEq, cursorNat_eq_self_iff,
        reduceCtorEq, false_or, true_and]
      cases ha : cfg.noCursorAligning with
      | true => simp only [true_or, and_true]; omega
      | false =>
        have h4 : 4 ∣ cursorNat cfg h := by
          rw [cursorNat, ha, if_neg (by simp)]
          exact dvd_roundUp 4 _
        simp only [reduceCtorEq, false_or]
        omega

/-! ## The two calls

  Both calls are on record in the logs of their processes, with their arguments; the comparison
  is one of the two records. -/

/-- An import call carries what the buffer object was created with, and what gbm reported for it. -/
structure PassesOn (args : BoArgs) (layout : BoLayout) (fd : Option Int)
    (data : ImportFdModifierData) (flags : UInt32) : Prop where
  width : data.width = args.width
  height : data.height = args.height
  format : data.format = args.format
  flags : flags = args.flags
  stride : data.stride = layout.stride.toInt32
  modifier : data.modifier = layout.modifier
  fd : data.fd = fd.getD (-1)

/-- The descriptors whose stored size a second adjustment leaves alone. -/
def SizeSettled (cfg : BuildConfig) (desc : AllocatorDesc) : Prop :=
  desc.format.toUInt32 ≠ halPixelFormatYv12 ∨
    (grallocGbmCalculateGbmFlags cfg (usageBits desc.usage) gbmFormatGr88 &&& gbmBoUseCursor ≠ 0 ∧
      96 < desc.width.toInt ∧
      (cfg.noCursorAligning = true ∨ 8 ∣ roundUp 2 desc.height.toInt.toNat))

/-- What an importer reads in the handle of a new buffer. -/
theorem createdHandle_fields (cfg : BuildConfig) (env : Env) (desc : AllocatorDesc)
    (layout : BoLayout) (fd : Int) (a : Nat) :
    grallocHandle (createdHandle cfg env desc layout fd a)
      = ⟨fd, grallocHandleMagic, grallocHandleVersion, (newArgs cfg desc).width,
          (newArgs cfg desc).height, desc.format.toUInt32, usageBits desc.usage, layout.stride,
          layout.modifier⟩ :=
  grallocHandle_written _ _ _ _ _ _ _ _

/-- The size part of the comparison: the importer's size is the creator's exactly for the settled
    descriptors. -/
theorem importSize_createdHandle_iff {cfg : BuildConfig} {desc : AllocatorDesc}
    (hd : DescInRange desc) {g : GrallocHandle} (hw : g.width = (newArgs cfg desc).width)
    (hh : g.height = (newArgs cfg desc).height) (hf : g.format = desc.format.toUInt32)
    (hu : g.usage = usageBits desc.usage) :
    ((importArgs cfg g).1.width = (newArgs cfg desc).width ∧
      (importArgs cfg g).1.height = (newArgs cfg desc).height) ↔ SizeSettled cfg desc := by
  have hflags : (importArgs cfg g).2 = (newArgs cfg desc).flags := by
    simp only [importArgs, newArgs, hf, hu]
  have hnew := newSize_toNat cfg hd (newArgs cfg desc).flags
  have hlt := newSizeNat_lt cfg (wantsCursor (newArgs cfg desc).flags)
    (isYv12 desc.format.toUInt32) (w := desc.width.toInt.toNat)
    (h := desc.height.toInt.toNat) (by have := hd.width_le; omega) (by have := hd.height_le; omega)
  have hargs : (newArgs cfg desc).width = (newSize cfg desc (newArgs cfg desc).flags).1.toUInt32 ∧
      (newArgs cfg desc).height = (newSize cfg desc (newArgs cfg desc).flags).2.toUInt32 :=
    ⟨rfl, rfl⟩
  have himp := importSize_toNat cfg (g := g) (by rw [hw, hargs.1, hnew.1]; exact hlt.1)
    (by rw [hh, hargs.2, hnew.2]; exact hlt.2) (importArgs cfg g).2
  have hsize : (importArgs cfg g).1.width = (importSize cfg g (importArgs cfg g).2).1 ∧
      (importArgs cfg g).1.height = (importSize cfg g (importArgs cfg g).2).2 := ⟨rfl, rfl⟩
  have key := importSizeNat_newSizeNat cfg (wantsCursor (newArgs cfg desc).flags)
    (isYv12 desc.format.toUInt32) (w := desc.width.toInt.toNat) (h := desc.height.toInt.toNat)
    (by have := hd.height_pos; omega)
  -- equality of the machine sizes is equality of the pairs of numbers
  have hnums : ((importArgs cfg g).1.width = (newArgs cfg desc).width ∧
      (importArgs cfg g).1.height = (newArgs cfg desc).height) ↔
      importSizeNat cfg (wantsCursor (newArgs cfg desc).flags) (isYv12 desc.format.toUInt32)
        (newSizeNat cfg (wantsCursor (newArgs cfg desc).flags) (isYv12 desc.format.toUInt32)
          desc.width.toInt.toNat desc.height.toInt.toNat).1
        (newSizeNat cfg (wantsCursor (newArgs cfg desc).flags) (isYv12 desc.format.toUInt32)
          desc.width.toInt.toNat desc.height.toInt.toNat).2
      = newSizeNat cfg (wantsCursor (newArgs cfg desc).flags) (isYv12 desc.format.toUInt32)
          desc.width.toInt.toNat desc.height.toInt.toNat := by
    rw [hflags, hf, hw, hh, hargs.1, hargs.2, hnew.1, hnew.2] at himp
    rw [hsize.1, hsize.2, hflags, hargs.1, hargs.2, ← UInt32.toNat_inj, ← UInt32.toNat_inj,
      himp.1, himp.2, hnew.1, hnew.2, Prod.ext_iff]
  rw [hnums, key, SizeSettled]
  -- what is left is the same condition, with the flags of a YV12 descriptor computed
  by_cases hy : desc.format.toUInt32 = halPixelFormatYv12
  · have hgr : (newArgs cfg desc).flags
        = grallocGbmCalculateGbmFlags cfg (usageBits desc.usage) gbmFormatGr88 := by
      simp only [newArgs, hy]
      rfl
    have hw0 := hd.width_pos
    simp only [isYv12, hy, decide_true, reduceCtorEq, ne_eq, not_true_eq_false, false_or, hgr,
      wantsCursor, decide_eq_true_eq]
    rw [show 96 < desc.width.toInt.toNat ↔ 96 < desc.width.toInt by omega]
  · simp [isYv12, hy]

/-- **Agreement of creator and importer.**  A buffer was allocated successfully, and its handle is
    imported in any process whose driver is ready.  There is one `gbm_bo_create` and one
    `gbm_bo_import` call.  The second is passed what the first was, with the stride, the modifier and
    a descriptor that gbm reported for the object, exactly for the settled descriptors: a YV12 buffer
    is imported with its width halved and its height extended a second time. -/
theorem grallocGbmAndroidBufferImport_agrees_iff {cfg : BuildConfig} {env env' : Env}
    {desc : AllocatorDesc} {p p' q : Proc} {handle : NativeHandle} {stride : UInt32}
    (hd : DescInRange desc)
    (hnew : grallocGbmAndroidBufferNew cfg env desc p = (.ok (handle, stride), p'))
    (hready : isGrallocGbmReady q = true) (halloc : env'.alloc q.calls.length = true) :
    ∃ (args : BoArgs) (bo : Nat) (b : Bo) (data : ImportFdModifierData) (flags : UInt32),
      boCreateCalls p'.calls = (args, some bo) :: boCreateCalls p.calls ∧
      p'.bos bo = some b ∧
      boImportCalls (grallocGbmAndroidBufferImport cfg env' handle q).2.calls
        = (data, flags) :: boImportCalls q.calls ∧
      ((∃ fd, ExtCall.boGetFd bo fd ∈ p'.calls ∧ PassesOn args b.layout fd data flags) ↔
        SizeSettled cfg desc) := by
  obtain ⟨layout, fd, logFd, -, -, -, hr, rfl⟩ := grallocGbmAndroidBufferNew_ok hnew
  obtain ⟨rfl, rfl⟩ := Prod.mk.inj hr
  set handle := createdHandle cfg env desc layout (fd.getD (-1)) p.next with hhandle
  have hg : grallocHandle handle = _ := createdHandle_fields cfg env desc layout (fd.getD (-1)) p.next
  refine ⟨newArgs cfg desc, p.next + 1, createdBo cfg desc layout (p.next + 2),
    (importArgs cfg (grallocHandle handle)).1, (importArgs cfg (grallocHandle handle)).2,
    rfl, Function.update_self .., ?_, ?_⟩
  · rcases grallocGbmAndroidBufferImport_cases cfg env' handle q with
      ⟨h, -⟩ | ⟨-, h, -⟩ | ⟨-, -, -, h⟩ | ⟨_, -, -, -, h⟩
    · exact absurd (hready.symm.trans h) (by simp)
    · exact absurd (halloc.symm.trans h) (by simp)
    · rw [h]
      rfl
    · rw [h]
      rfl
  · have hsize := importSize_createdHandle_iff hd (g := grallocHandle handle) (by rw [hg])
      (by rw [hg]) (by rw [hg]) (by rw [hg])
    have hflags : (importArgs cfg (grallocHandle handle)).2 = (newArgs cfg desc).flags := by
      simp only [importArgs, newArgs, hg]
    rw [← hsize]
    constructor
    · rintro ⟨_, -, h⟩
      exact ⟨h.width, h.height⟩
    · rintro ⟨hw, hh⟩
      refine ⟨fd, by simp, hw, hh, ?_, hflags, ?_, ?_, ?_⟩ <;>
        simp only [importArgs, newArgs, createdBo, hg]

/-- A 64x64 YV12 buffer for CPU reading. -/
def yv12Desc : AllocatorDesc := ⟨64, 64, 1, halPixelFormatYv12.toInt32, 3, 0⟩

/-- The handle of such a buffer, imported by a ready process. -/
theorem yv12_agrees_iff :
    ∃ handle stride p',
      grallocGbmAndroidBufferNew .androidBp .plain yv12Desc .ready = (.ok (handle, stride), p') ∧
      ∃ (args : BoArgs) (bo : Nat) (b : Bo) (data : ImportFdModifierData) (flags : UInt32),
        boCreateCalls p'.calls = (args, some bo) :: boCreateCalls Proc.ready.calls ∧
        p'.bos bo = some b ∧
        boImportCalls (grallocGbmAndroidBufferImport .androidBp .plain handle .ready).2.calls
          = (data, flags) :: boImportCalls Proc.ready.calls ∧
        ((∃ fd, ExtCall.boGetFd bo fd ∈ p'.calls ∧ PassesOn args b.layout fd data flags) ↔
          SizeSettled .androidBp yv12Desc) := by
  obtain ⟨⟨handle, stride⟩, p', h⟩ := Ret.exists_of_isOk
    (x := grallocGbmAndroidBufferNew .androidBp .plain yv12Desc .ready) (by decide)
  exact ⟨handle, stride, p', h, grallocGbmAndroidBufferImport_agrees_iff
    ⟨by decide, by decide, by decide, by decide⟩ h (by decide) (by decide)⟩

/-- It is created as a GR88 buffer of 32x96 and imported as one of 16x144. -/
theorem yv12_import_differs :
    ∃ handle stride p',
      grallocGbmAndroidBufferNew .androidBp .plain yv12Desc .ready = (.ok (handle, stride), p') ∧
      boCreateCalls p'.calls = [(⟨32, 96, gbmFormatGr88, gbmBoUseLinear⟩, some 3)] ∧
      (boImportCalls (grallocGbmAndroidBufferImport .androidBp .plain handle .ready).2.calls).map
        (fun call => (call.1.width, call.1.height)) = [(16, 144)] :=
  ⟨_, _, _, rfl, by decide, by decide⟩

end GrallocGbm
