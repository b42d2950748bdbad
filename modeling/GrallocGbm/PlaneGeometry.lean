/-
  The geometry of the planes (`PLANE_LAYOUTS` of the GBM backend).

  The query fills in the sizes of every plane from the same three numbers:

      planeLayout.offsetInBytes = 0;
      planeLayout.strideInBytes = info.stride * color_bytes_per_pixel(info.gbm_format);
      planeLayout.totalSizeInBytes = planeLayout.strideInBytes * DIV_ROUND_UP(info.height, 1);
      planeLayout.widthInSamples = info.width / planeLayout.horizontalSubsampling;
      planeLayout.heightInSamples = info.height / planeLayout.verticalSubsampling;

  So

  1. planes that are not empty share their bytes, and a single plane is within the allocation as
  long as the allocation's own size has not wrapped at 2^32 (`planesApart_iff`);

  2. a subsampled plane has no samples for the last column of an odd width, and for the last row of
  an odd height (`samplesInside_iff`).

  Both are about a buffer that has been imported and not been freed since (`PlanarBuffer`), after
  any calls.

  The arithmetic is that of the source: the stride and the height are 32-bit words that are read as
  signed once, their product is of 64 bits, and the allocation size is the 32-bit product of the
  unsigned ones.  A large stride or height is a negative number in the planes, and two negative
  numbers make a positive size again, which is why the condition of `planesApart_iff` has a last
  case.

  Of the three buffers at the end the first fails both conditions, and each of the others meets one.
-/
import GrallocGbm.FormatLookups
import Mathlib.Order.Interval.Set.LinearOrder
import Mathlib.Data.Int.Order.Basic

namespace GrallocGbm

/-! ## A buffer with planes -/

/-- A handle imported into the GBM backend after any calls, and the buffer behind it after any calls
    that do not free it; its format has a plane layout. -/
structure PlanarBuffer (cfg : BuildConfig) (env : Env) where
  before : List MapperOp
  later : List MapperOp
  source : NativeHandle
  handle : NativeHandle
  entry : AndroidBuffer
  bo : Bo
  layouts : List PlaneLayout
  imported : ((mapperRun cfg env before).importBuffer cfg env (some source)).1 = (.none, some handle)
  source_gbm : routedTo (grallocHandle source) = .mapperGrallocGbm
  handle_gbm : routedTo (grallocHandle handle) = .mapperGrallocGbm
  kept : ∀ op ∈ later, ∀ h', op = .buffer (.freeBuffer (some h')) →
    (grallocHandle h').primeFd ≠ (grallocHandle handle).primeFd
  entry_eq : findBufferK (grallocHandle handle).primeFd
    (usedMapper cfg env before source later).proc.table = some entry
  bo_eq : (usedMapper cfg env before source later).proc.bos entry.bo = some bo
  layouts_eq : getPlaneLayouts (colorFmtA2g (grallocHandle handle).format) = some layouts

namespace PlanarBuffer

variable {cfg : BuildConfig} {env : Env} (x : PlanarBuffer cfg env)

/-- The mapper after all calls. -/
def mapper : Mapper := usedMapper cfg env x.before x.source x.later

/-- What a reader gets. -/
def read (type : StandardMetadataType) : Option MetadataValue :=
  (x.mapper.getStandardMetadata env (some x.handle) type).1.2

/-- The bytes of a pixel. -/
def pixelBytes : UInt8 := colorBytesPerPixel (colorFmtA2g (grallocHandle x.handle).format)

/-- The bytes of the whole pixels of a row, as an `int32_t`. -/
def row : Int := Int.bmod (x.bo.layout.stride.toNat / x.pixelBytes.toNat * x.pixelBytes.toNat) (2 ^ 32)

/-- The height, as an `int32_t`. -/
def rows : Int := x.bo.height.toInt32.toInt

/-- A plane of the table with the sizes of this buffer. -/
def reported (pl : PlaneLayout) : PlaneLayout :=
  { pl with
    offsetInBytes := 0
    strideInBytes := x.row
    totalSizeInBytes := x.row * x.rows
    widthInSamples := x.bo.width.toInt32.toInt.tdiv pl.horizontalSubsampling
    heightInSamples := x.bo.height.toInt32.toInt.tdiv pl.verticalSubsampling }

/-- What has a plane layout has a pixel size. -/
theorem pixelBytes_ne_zero : x.pixelBytes ≠ 0 := (getPlaneLayouts_some x.layouts_eq).1

/-- The stride divided by the pixel size and multiplied by it again. -/
theorem row_eq : ((x.bo.layout.stride / x.pixelBytes.toUInt32).toInt32
    * x.pixelBytes.toUInt32.toInt32).toInt = x.row := by
  have hlt := x.pixelBytes.toNat_lt
  have hk : x.pixelBytes.toUInt32.toInt32.toInt = x.pixelBytes.toNat := by
    rw [toInt_toInt32 (by rw [UInt8.toNat_toUInt32]; omega), UInt8.toNat_toUInt32]
  have hq : (x.bo.layout.stride / x.pixelBytes.toUInt32).toInt32.toInt
      = Int.bmod (x.bo.layout.stride.toNat / x.pixelBytes.toNat) (2 ^ 32) := by
    have hbits : ∀ u : UInt32, u.toInt32.toInt = Int.bmod u.toNat (2 ^ 32) := fun u =>
      BitVec.toInt_eq_toNat_bmod u.toBitVec
    rw [hbits, UInt32.toNat_div, UInt8.toNat_toUInt32]
    rfl
  rw [Int32.toInt_mul, hq, hk, Int.bmod_mul_bmod]
  rfl

/-! ## What is read

  The table of layouts, with three numbers of the buffer filled in. -/

/-- Every read is of the record that the query makes of the object. -/
theorem read_eq (type : StandardMetadataType) (hk : type.isKnown = true) :
    ∃ d fd, x.read type = (gbmMetadataValue (bufferInfo (grallocHandle x.handle) x.entry fd x.bo d
      (x.bo.layout.stride / x.pixelBytes.toUInt32).toInt32) type).encoded := by
  obtain ⟨hp, hformat⟩ := usedMapper_object x.imported x.source_gbm x.kept x.entry_eq x.bo_eq
  obtain ⟨d, hd⟩ := hp.user_data x.entry.bo x.bo x.bo_eq
  obtain ⟨fd, hread⟩ := getStandardMetadata_value env type hk hp x.handle_gbm x.entry_eq x.bo_eq hd
  have hstride : grallocGbmCalculateAndroidPixelStride (grallocHandle x.handle).format
      x.bo.layout.stride = some (x.bo.layout.stride / x.pixelBytes.toUInt32).toInt32 :=
    pixelStride_of_bytes rfl x.pixelBytes_ne_zero
  rw [hstride] at hread
  exact ⟨d, fd, hread⟩

/-- The planes, with the sizes of the buffer. -/
theorem read_planeLayouts : x.read .planeLayouts = some (.planeLayouts (x.layouts.map x.reported)) := by
  obtain ⟨-, hformat⟩ := usedMapper_object x.imported x.source_gbm x.kept x.entry_eq x.bo_eq
  obtain ⟨d, fd, hread⟩ := x.read_eq .planeLayouts rfl
  have hlayouts : getPlaneLayouts x.bo.format = some x.layouts := by
    rw [hformat]
    exact x.layouts_eq
  have hplane : fillPlaneLayout (bufferInfo (grallocHandle x.handle) x.entry fd x.bo d
      (x.bo.layout.stride / x.pixelBytes.toUInt32).toInt32) = x.reported := by
    funext pl
    have hbytes : colorBytesPerPixel x.bo.format = x.pixelBytes := by rw [hformat]; rfl
    unfold fillPlaneLayout reported
    simp only [bufferInfo, hbytes, x.row_eq]
    rfl
  rw [hread, gbmMetadataValue]
  simp only [bufferInfo] at hplane ⊢
  rw [hlayouts, ← hplane]
  rfl

/-- The allocation size is a 32-bit product. -/
theorem read_allocationSize :
    x.read .allocationSize = some (.uint64 (x.bo.layout.stride * x.bo.height).toUInt64) := by
  obtain ⟨d, fd, hread⟩ := x.read_eq .allocationSize rfl
  exact hread

end PlanarBuffer

/-! ## Where the planes are

  All planes are one range of bytes, so this is about when that range is empty, and when it
  fits. -/

/-- The bytes from `lo` up to `hi`. -/
def byteRange (lo hi : Int) : Set Int := {n | lo ≤ n ∧ n < hi}

/-- The bytes of a plane. -/
def planeBytes (pl : PlaneLayout) : Set Int :=
  byteRange pl.offsetInBytes (pl.offsetInBytes + pl.totalSizeInBytes)

/-- The planes reported share no byte, and are within the allocation size reported. -/
def PlanesApart {cfg : BuildConfig} {env : Env} (x : PlanarBuffer cfg env) : Prop :=
  ∃ pls size, x.read .planeLayouts = some (.planeLayouts pls) ∧
    x.read .allocationSize = some (.uint64 size) ∧
    pls.Pairwise (fun pl pl' => planeBytes pl ∩ planeBytes pl' = ∅) ∧
    ∀ pl ∈ pls, planeBytes pl ⊆ byteRange 0 size.toNat

/-- A range is empty if it ends where it starts, or before. -/
theorem byteRange_eq_empty {lo hi : Int} : byteRange lo hi = ∅ ↔ hi ≤ lo :=
  Set.Ico_eq_empty_iff.trans not_lt

/-- Of two ranges from 0, the longer has the other in it. -/
theorem byteRange_subset {hi hi' : Int} (h : 0 < hi) :
    byteRange 0 hi ⊆ byteRange 0 hi' ↔ hi ≤ hi' :=
  (Set.Ico_subset_Ico_iff h).trans (and_iff_right le_rfl)

/-- A word read as an `int32_t`. -/
theorem bmod_word {n : Nat} (hn : n < 2 ^ 32) :
    Int.bmod n (2 ^ 32) = if n < 2 ^ 31 then (n : Int) else n - 2 ^ 32 := by
  rw [Int.bmod_def]
  split <;> split <;> omega

/-- Whole pixels in a size that has wrapped do not fit it. -/
theorem wholePixels_le_mod {S H k : Nat} (hpos : 0 < S / k * k) :
    S / k * k * H ≤ S * H % 2 ^ 32 ↔ S * H < 2 ^ 32 := by
  have hk : 0 < k := Nat.pos_of_mul_pos_left hpos
  have hsplit : S * H = S / k * k * H + S % k * H := by
    rw [← Nat.add_mul, Nat.div_add_mod']
  have hle : S % k * H ≤ S / k * k * H := by
    apply Nat.mul_le_mul_right
    have hrest := Nat.mod_lt S hk
    have hone := Nat.le_of_dvd hpos (Nat.dvd_mul_left k (S / k))
    omega
  constructor
  · intro h
    have := Nat.mod_lt (S * H) (by decide : 2 ^ 32 > 0)
    omega
  · intro h
    rw [Nat.mod_eq_of_lt h]
    omega

/-- A product of words is that of their complements, up to 2^32. -/
theorem complements_mod {S H : Nat} (hS : S ≤ 2 ^ 32) (hH : H ≤ 2 ^ 32) :
    (2 ^ 32 - S) * (2 ^ 32 - H) % 2 ^ 32 = S * H % 2 ^ 32 := by
  have h1 : (2 ^ 32 - S) * (2 ^ 32 - H) + S * (2 ^ 32 - H) = 2 ^ 32 * (2 ^ 32 - H) := by
    rw [← Nat.add_mul, Nat.sub_add_cancel hS]
  have h2 : S * H + S * (2 ^ 32 - H) = S * 2 ^ 32 := by
    rw [← Nat.mul_add, Nat.add_sub_cancel' hH]
  omega

/-- The same for a row and a height that are both negative. -/
theorem negative_le_mod {S H k : Nat} (hS : S < 2 ^ 32) (hH : H < 2 ^ 32) :
    (2 ^ 32 - S / k * k) * (2 ^ 32 - H) ≤ S * H % 2 ^ 32 ↔
      k ∣ S ∧ (2 ^ 32 - S) * (2 ^ 32 - H) < 2 ^ 32 := by
  have hle : S / k * k ≤ S := Nat.div_mul_le_self S k
  rw [← complements_mod (le_of_lt hS) (le_of_lt hH)]
  constructor
  · intro h
    have hmod := Nat.mod_le ((2 ^ 32 - S) * (2 ^ 32 - H)) (2 ^ 32)
    have hmul : (2 ^ 32 - S) * (2 ^ 32 - H) ≤ (2 ^ 32 - S / k * k) * (2 ^ 32 - H) :=
      Nat.mul_le_mul_right _ (by omega)
    have heq : 2 ^ 32 - S = 2 ^ 32 - S / k * k :=
      Nat.eq_of_mul_eq_mul_right (by omega) (le_antisymm hmul (le_trans h hmod))
    have hlt := Nat.mod_lt ((2 ^ 32 - S) * (2 ^ 32 - H)) (by decide : 2 ^ 32 > 0)
    exact ⟨Dvd.intro_left (S / k) (by omega), by omega⟩
  · rintro ⟨hdvd, hlt⟩
    rw [Nat.div_mul_cancel hdvd, Nat.mod_eq_of_lt hlt]

namespace PlanarBuffer

variable {cfg : BuildConfig} {env : Env} (x : PlanarBuffer cfg env)

/-- All planes have one range of bytes. -/
theorem planeBytes_reported (pl : PlaneLayout) :
    planeBytes (x.reported pl) = byteRange 0 (x.row * x.rows) := by
  show byteRange 0 (0 + x.row * x.rows) = _
  rw [zero_add]

/-- The size as a number. -/
theorem size_toNat : (x.bo.layout.stride * x.bo.height).toUInt64.toNat
    = x.bo.layout.stride.toNat * x.bo.height.toNat % 2 ^ 32 := by
  rw [UInt32.toNat_toUInt64, UInt32.toNat_mul]

/-- Planes that are not empty are all the same bytes. -/
theorem planesApart_iff_size : PlanesApart x ↔
    x.row * x.rows ≤ 0 ∨ (x.layouts.length = 1 ∧
      x.row * x.rows ≤ (x.bo.layout.stride.toNat * x.bo.height.toNat % 2 ^ 32 : Nat)) := by
  have hne := (getPlaneLayouts_some x.layouts_eq).2
  have hapart : PlanesApart x ↔
      (x.layouts.map x.reported).Pairwise (fun pl pl' => planeBytes pl ∩ planeBytes pl' = ∅) ∧
      ∀ pl ∈ x.layouts.map x.reported,
        planeBytes pl ⊆ byteRange 0 (x.bo.layout.stride * x.bo.height).toUInt64.toNat := by
    unfold PlanesApart
    rw [x.read_planeLayouts, x.read_allocationSize]
    constructor
    · rintro ⟨pls, size, hpls, hsize, hall⟩
      cases hpls
      cases hsize
      exact hall
    · exact fun hall => ⟨_, _, rfl, rfl, hall⟩
  rw [hapart, x.size_toNat]
  simp only [List.pairwise_map, List.forall_mem_map, planeBytes_reported]
  by_cases hempty : x.row * x.rows ≤ 0
  · rw [byteRange_eq_empty.mpr hempty]
    simp only [Set.inter_self, Set.empty_subset, implies_true, and_true, hempty, true_or, iff_true]
    exact List.pairwise_of_forall fun _ _ => trivial
  · have hpos : 0 < x.row * x.rows := not_le.mp hempty
    rw [or_iff_right hempty]
    obtain ⟨pl, pls, hlayouts⟩ := List.exists_cons_of_ne_nil hne
    rw [hlayouts]
    constructor
    · rintro ⟨hdisjoint, hwithin⟩
      cases pls with
      | nil => exact ⟨rfl, (byteRange_subset hpos).mp (hwithin pl List.mem_cons_self)⟩
      | cons pl' pls =>
        have hself := List.rel_of_pairwise_cons hdisjoint (List.mem_cons_self (a := pl'))
        rw [Set.inter_self, byteRange_eq_empty] at hself
        exact absurd hself hempty
    · rintro ⟨hlength, hle⟩
      have hnil : pls = [] := List.length_eq_zero_iff.mp (Nat.succ.inj hlength)
      subst hnil
      exact ⟨List.pairwise_singleton _ _, fun _ _ => (byteRange_subset hpos).mpr hle⟩

end PlanarBuffer

/-- **Where the planes are apart.**  The planes share no byte and are within the allocation size if
    they are empty, or if there is only one, and the size it is compared with has not wrapped.  (The
    last case is that of a row and a height that are both negative.) -/
theorem planesApart_iff {cfg : BuildConfig} {env : Env} (x : PlanarBuffer cfg env) :
    let S := x.bo.layout.stride.toNat
    let H := x.bo.height.toNat
    PlanesApart x ↔
      x.row * x.rows ≤ 0 ∨
        (x.layouts.length = 1 ∧
          ((H < 2 ^ 31 ∧ S * H < 2 ^ 32) ∨
            (2 ^ 31 ≤ H ∧ x.pixelBytes.toNat ∣ S ∧ (2 ^ 32 - S) * (2 ^ 32 - H) < 2 ^ 32))) := by
  intro S H
  have hS : S < 2 ^ 32 := x.bo.layout.stride.toNat_lt
  have hH : H < 2 ^ 32 := x.bo.height.toNat_lt
  -- the whole pixels of a row
  let R := S / x.pixelBytes.toNat * x.pixelBytes.toNat
  have hle : R ≤ S := Nat.div_mul_le_self _ _
  have hrow : x.row = if R < 2 ^ 31 then (R : Int) else R - 2 ^ 32 := bmod_word (lt_of_le_of_lt hle hS)
  have hrows : x.rows = if H < 2 ^ 31 then (H : Int) else H - 2 ^ 32 :=
    (BitVec.toInt_eq_toNat_bmod x.bo.height.toBitVec).trans (bmod_word hH)
  rw [x.planesApart_iff_size]
  by_cases hempty : x.row * x.rows ≤ 0
  · exact iff_of_true (.inl hempty) (.inl hempty)
  rw [or_iff_right hempty, or_iff_right hempty]
  refine and_congr_right fun _ => ?_
  rcases Int.mul_pos_iff.mp (not_le.mp hempty) with ⟨hrpos, hhpos⟩ | ⟨hrneg, hhneg⟩
  · have hH31 : H < 2 ^ 31 := by
      by_contra hnot
      rw [hrows, if_neg hnot] at hhpos
      omega
    have hR31 : R < 2 ^ 31 := by
      by_contra hnot
      rw [hrow, if_neg hnot] at hrpos
      omega
    rw [if_pos hR31] at hrow
    rw [if_pos hH31] at hrows
    rw [hrow, hrows, ← Int.natCast_mul, Int.ofNat_le, wholePixels_le_mod (by omega),
      and_iff_right hH31]
    exact ⟨.inl, fun h => h.elim id fun hlarge => absurd hlarge.1 (not_le.mpr hH31)⟩
  · have hH31 : 2 ^ 31 ≤ H := by
      by_contra hnot
      rw [hrows, if_pos (not_le.mp hnot)] at hhneg
      omega
    have hR31 : 2 ^ 31 ≤ R := by
      by_contra hnot
      rw [hrow, if_pos (not_le.mp hnot)] at hrneg
      omega
    rw [if_neg (not_lt.mpr hR31)] at hrow
    rw [if_neg (not_lt.mpr hH31)] at hrows
    have hrow' : x.row = -((2 ^ 32 - R : Nat) : Int) := by omega
    have hrows' : x.rows = -((2 ^ 32 - H : Nat) : Int) := by omega
    have hprod : x.row * x.rows = ((2 ^ 32 - R) * (2 ^ 32 - H) : Nat) := by
      rw [hrow', hrows', Int.neg_mul_neg]
      exact (Int.natCast_mul _ _).symm
    rw [hprod, Int.ofNat_le, negative_le_mod hS hH]
    exact ⟨fun h => .inr ⟨hH31, h⟩, fun h => h.elim (fun hsmall => absurd hH31 (not_le.mpr hsmall.1)) And.right⟩

/-! ## Where the samples are

  A pixel has its sample at the quotient of its coordinates, which must be below the number of
  samples. -/

/-- Every pixel of the object has its sample inside every plane reported. -/
def SamplesInside {cfg : BuildConfig} {env : Env} (x : PlanarBuffer cfg env) : Prop :=
  ∃ pls, x.read .planeLayouts = some (.planeLayouts pls) ∧
    ∀ pl ∈ pls, ∀ px < x.bo.width.toNat, ∀ py < x.bo.height.toNat,
      (px : Int) / pl.horizontalSubsampling < pl.widthInSamples ∧
      (py : Int) / pl.verticalSubsampling < pl.heightInSamples

/-- An extent of pixels has all its samples if it is a multiple of the subsampling. -/
theorem samples_iff {extent : UInt32} {n : Int} (hn : 0 < n) (hpos : 0 < extent.toNat) :
    (∀ px < extent.toNat, (px : Int) / n < extent.toInt32.toInt.tdiv n) ↔
      extent.toNat < 2 ^ 31 ∧ n ∣ extent.toNat := by
  by_cases hsmall : extent.toNat < 2 ^ 31
  · rw [toInt_toInt32 hsmall, Int.tdiv_eq_ediv_of_nonneg (Int.natCast_nonneg _), and_iff_right hsmall]
    constructor
    · intro h
      -- the last pixel
      have hlast := h (extent.toNat - 1) (by omega)
      rw [Int.ediv_lt_iff_lt_mul hn] at hlast
      have hle := Int.ediv_mul_le (extent.toNat : Int) (Int.ne_of_gt hn)
      exact Dvd.intro_left ((extent.toNat : Int) / n) (by omega)
    · intro hdvd px hpx
      rw [Int.ediv_lt_iff_lt_mul hn, Int.ediv_mul_cancel hdvd]
      exact Int.ofNat_lt.mpr hpx
  · refine iff_of_false (fun h => ?_) fun h => hsmall h.1
    have hfirst := h 0 hpos
    have hneg : extent.toInt32.toInt ≤ 0 := le_of_lt (toInt_toInt32_neg (not_lt.mp hsmall))
    have hquot := Int.tdiv_nonneg (Int.neg_nonneg.mpr hneg) (le_of_lt hn)
    rw [Int.neg_tdiv] at hquot
    rw [Int.natCast_zero, Int.zero_ediv] at hfirst
    omega

/-- The table has no subsampling of zero. -/
theorem subsampling_pos {gbmFormat : UInt32} {layouts : List PlaneLayout}
    (h : getPlaneLayouts gbmFormat = some layouts) {pl : PlaneLayout} (hpl : pl ∈ layouts) :
    0 < pl.horizontalSubsampling ∧ 0 < pl.verticalSubsampling := by
  have hall : ∀ e ∈ planeLayoutsMap, ∀ pl ∈ e.2,
      0 < pl.horizontalSubsampling ∧ 0 < pl.verticalSubsampling := by decide
  obtain ⟨e, he, rfl⟩ := Option.map_eq_some_iff.mp h
  exact hall e (List.mem_of_find?_eq_some he) pl hpl

/-- **Where every pixel has its samples.**  In a buffer without pixels, and else if the size fits an
    `int32_t` and is a multiple of the subsampling of every plane. -/
theorem samplesInside_iff {cfg : BuildConfig} {env : Env} (x : PlanarBuffer cfg env) :
    SamplesInside x ↔ x.bo.width = 0 ∨ x.bo.height = 0 ∨
      (x.bo.width.toNat < 2 ^ 31 ∧ x.bo.height.toNat < 2 ^ 31 ∧
        ∀ pl ∈ x.layouts, pl.horizontalSubsampling ∣ x.bo.width.toNat ∧
          pl.verticalSubsampling ∣ x.bo.height.toNat) := by
  have hinside : SamplesInside x ↔ ∀ pl ∈ x.layouts,
      ∀ px < x.bo.width.toNat, ∀ py < x.bo.height.toNat,
        (px : Int) / pl.horizontalSubsampling < (x.reported pl).widthInSamples ∧
        (py : Int) / pl.verticalSubsampling < (x.reported pl).heightInSamples := by
    unfold SamplesInside
    rw [x.read_planeLayouts]
    constructor
    · rintro ⟨pls, hpls, hall⟩
      cases hpls
      exact List.forall_mem_map.mp hall
    · exact fun hall => ⟨_, rfl, List.forall_mem_map.mpr hall⟩
  have hzero : ∀ {u : UInt32}, u = 0 ↔ u.toNat = 0 := UInt32.toNat_inj.symm
  rw [hinside, hzero, hzero]
  by_cases hw : x.bo.width.toNat = 0
  · refine iff_of_true (fun pl _ px hpx => ?_) (.inl hw)
    omega
  by_cases hh : x.bo.height.toNat = 0
  · refine iff_of_true (fun pl _ px _ py hpy => ?_) (.inr (.inl hh))
    omega
  have hwpos := Nat.pos_of_ne_zero hw
  have hhpos := Nat.pos_of_ne_zero hh
  -- columns and rows, plane by plane
  have hplane : ∀ pl ∈ x.layouts,
      (∀ px < x.bo.width.toNat, ∀ py < x.bo.height.toNat,
        (px : Int) / pl.horizontalSubsampling < (x.reported pl).widthInSamples ∧
        (py : Int) / pl.verticalSubsampling < (x.reported pl).heightInSamples) ↔
      (x.bo.width.toNat < 2 ^ 31 ∧ pl.horizontalSubsampling ∣ x.bo.width.toNat) ∧
        (x.bo.height.toNat < 2 ^ 31 ∧ pl.verticalSubsampling ∣ x.bo.height.toNat) := by
    intro pl hpl
    obtain ⟨hhs, hvs⟩ := subsampling_pos x.layouts_eq hpl
    rw [← samples_iff hhs hwpos, ← samples_iff hvs hhpos]
    constructor
    · exact fun h => ⟨fun px hpx => (h px hpx 0 hhpos).1, fun py hpy => (h 0 hwpos py hpy).2⟩
    · exact fun h px hpx py hpy => ⟨h.1 px hpx, h.2 py hpy⟩
  obtain ⟨pl₀, pls, hlayouts⟩ := List.exists_cons_of_ne_nil (getPlaneLayouts_some x.layouts_eq).2
  have hmem : pl₀ ∈ x.layouts := hlayouts ▸ List.mem_cons_self
  rw [or_iff_right hw, or_iff_right hh, forall₂_congr hplane]
  constructor
  · intro h
    exact ⟨(h pl₀ hmem).1.1, (h pl₀ hmem).2.1, fun pl hpl => ⟨(h pl hpl).1.2, (h pl hpl).2.2⟩⟩
  · exact fun ⟨hw31, hh31, h⟩ pl hpl => ⟨⟨hw31, (h pl hpl).1⟩, ⟨hh31, (h pl hpl).2⟩⟩

/-! ## Three buffers -/

/-- A handle of a `YCBCR_420_888` buffer with rows of 64 bytes. -/
def ycbcrHandle (width height : UInt32) : NativeHandle :=
  (((⟨0, 1, 12, fun _ => 0⟩ : NativeHandle).describe width height halPixelFormatYcbcr420888
    0x33).setStride 64).setPrimeFd 5

/-- One of 63x63, just imported. -/
def ycbcrBuffer : PlanarBuffer .androidBp .plain where
  before := []
  later := []
  source := ycbcrHandle 63 63
  handle := cloneOf (ycbcrHandle 63 63)
  entry := ⟨8, 4, 4⟩
  bo := _
  layouts := _
  imported := rfl
  source_gbm := rfl
  handle_gbm := rfl
  kept := fun _ hop => absurd hop List.not_mem_nil
  entry_eq := rfl
  bo_eq := rfl
  layouts_eq := rfl

/-- Its three planes are all at offset 0, of 4032 bytes each. -/
theorem ycbcr_not_planesApart :
    (∃ y cb cr, ycbcrBuffer.read .planeLayouts = some (.planeLayouts [y, cb, cr]) ∧
      y.offsetInBytes = 0 ∧ cb.offsetInBytes = 0 ∧ cr.offsetInBytes = 0 ∧
      y.totalSizeInBytes = 4032 ∧ cb.totalSizeInBytes = 4032 ∧ cr.totalSizeInBytes = 4032) ∧
    ¬ PlanesApart ycbcrBuffer := by
  refine ⟨⟨_, _, _, rfl, by decide⟩, ?_⟩
  rintro ⟨pls, size, hread, -, hdisjoint, -⟩
  cases hread
  have hfirst := List.rel_of_pairwise_cons hdisjoint List.mem_cons_self
  exact Set.eq_empty_iff_forall_notMem.mp hfirst 0
    ⟨⟨by decide, by decide⟩, by decide, by decide⟩

/-- And the chroma planes have 31 samples a row, so none for the column 62. -/
theorem ycbcr_not_samplesInside :
    (∃ y cb cr, ycbcrBuffer.read .planeLayouts = some (.planeLayouts [y, cb, cr]) ∧
      cb.horizontalSubsampling = 2 ∧ cb.widthInSamples = 31) ∧
    ycbcrBuffer.bo.width = 63 ∧ ¬ SamplesInside ycbcrBuffer := by
  refine ⟨⟨_, _, _, rfl, by decide⟩, rfl, ?_⟩
  rintro ⟨pls, hread, hall⟩
  cases hread
  have hchroma := (hall _ (List.mem_cons_of_mem _ List.mem_cons_self) 62 (by decide) 0 (by decide)).1
  exact absurd hchroma (by decide)

/-- One of 64x64, imported after a run and used since. -/
def evenYcbcrBuffer : PlanarBuffer .androidBp .plain where
  before := [.buffer (.importBuffer (some (rgbaHandle 5)))]
  later := [.buffer (.lock (some firstClone) 0x3), .buffer (.freeBuffer (some firstClone))]
  source := ycbcrHandle 64 64
  handle := ((mapperRun .androidBp .plain [.buffer (.importBuffer (some (rgbaHandle 5)))]).importBuffer
    .androidBp .plain (some (ycbcrHandle 64 64))).1.2.get rfl
  entry := ⟨15, 5, 11⟩
  bo := _
  layouts := _
  imported := rfl
  source_gbm := rfl
  handle_gbm := rfl
  kept := by
    rintro op hop h' rfl
    rcases List.mem_pair.mp hop with h | h <;> cases h
    decide
  entry_eq := rfl
  bo_eq := rfl
  layouts_eq := rfl

/-- All its planes have their samples. -/
theorem evenYcbcr_samplesInside : SamplesInside evenYcbcrBuffer :=
  (samplesInside_iff evenYcbcrBuffer).mpr (.inr (.inr ⟨by decide, by decide, by decide⟩))

/-- An RGBA_8888 buffer of 64x64. -/
def rgbaBuffer : PlanarBuffer .androidBp .plain where
  before := []
  later := []
  source := rgbaHandle 5
  handle := cloneOf (rgbaHandle 5)
  entry := ⟨8, 4, 4⟩
  bo := _
  layouts := _
  imported := rfl
  source_gbm := rfl
  handle_gbm := rfl
  kept := fun _ hop => absurd hop List.not_mem_nil
  entry_eq := rfl
  bo_eq := rfl
  layouts_eq := rfl

/-- Its one plane is within the allocation. -/
theorem rgba_planesApart : PlanesApart rgbaBuffer :=
  (planesApart_iff rgbaBuffer).mpr (.inr ⟨rfl, .inl ⟨by decide, by decide⟩⟩)

end GrallocGbm
