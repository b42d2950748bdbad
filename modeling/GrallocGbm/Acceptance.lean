/-
  What an accepted descriptor is worth.

  `gralloc_gbm_is_allocator_desc_supported` stands between a client and gbm.  Two things are
  expected of a descriptor it lets through.

  1. Its size is within the limits of the library.  The test has an upper bound only, and
     `generateGrallocGenericDesc` looks for zero only, so a negative size passes both; a width of
     2^32 - 1 becomes one on its way through `allocate` (`sizeInRange_iff`).
  2. The flags of the object keep the rules of gbm's DRI backend that the source quotes.  The test
     of a dumb buffer is weaker than the rule: it refuses the wrong format for a cursor and for a
     scanout buffer, but not a buffer that is neither.  And a cursor that also renders is tested
     before the cursor flag is dropped (`keepsDriRules_iff`).

  Both come from one description of what is accepted (`accepted_iff`).

  The sizes are asked about as a client sends them (`SizeRequest`): unsigned in the descriptor that
  `allocate` decodes, signed in the one of `allocate2`.  Whether a size is safe depends on nothing
  but the size, so the theorem quantifies over all other fields, all devices and both states of the
  driver; the other direction needs one request of the size that does get through, which is `rgba`.

  For the flags, each of the four that matter is first read as a question to the usage (`AsksWrite`,
  `AsksScanout`, `AsksCursor`, `AsksRendering`), from the one fact about the rules that a flag is
  collected if some rule for it applies (`collectFlags_and_ne_zero`).  What
  `gralloc_gbm_calculate_gbm_flags` does after that touches the cursor flag only.  With both,
  whether the rules are kept is a propositional question about the usage and the format.
-/
import GrallocGbm.Strides

namespace GrallocGbm

/-! ## What is accepted

  The function tests the descriptor field by field, and then asks the device about the format
  and the flags.  `accepted_iff` is the conjunction of the tests, of which the sections below
  take one each. -/

/-- The two checks of the flags. -/
def FlagsAccepted (cfg : BuildConfig) (flags gbmFormat : UInt32) : Prop :=
  ¬ (flags &&& gbmBoUseWrite ≠ 0 ∧ dumbFormatRefused flags gbmFormat) ∧
  ¬ (flags &&& gbmBoUseCursor ≠ 0 ∧ flags &&& gbmBoUseRendering ≠ 0 ∧ !cfg.noCursorRendering)

/-- The flags of the object made for a descriptor. -/
def descFlags (cfg : BuildConfig) (desc : AllocatorDesc) : UInt32 :=
  grallocGbmCalculateGbmFlags cfg (usageBits desc.usage) (colorFmtA2g desc.format.toUInt32)

section

variable {cfg : BuildConfig} {isFormatSupported : UInt32 → UInt32 → Bool} {ready : Bool}
  {desc : AllocatorDesc}

/-- The acceptance test, check by check.  The check of the format is not among them. -/
theorem accepted_iff :
    grallocGbmIsAllocatorDescSupported cfg isFormatSupported ready desc = true ↔
      ready = true ∧ (desc.width ≤ grallocGbmWidthMax ∧ desc.height ≤ grallocGbmHeightMax) ∧
      desc.usage ≠ 0 ∧ FlagsAccepted cfg (descFlags cfg desc) (colorFmtA2g desc.format.toUInt32) ∧
      isFormatSupported (colorFmtA2g desc.format.toUInt32) (descFlags cfg desc) = true := by
  have hsize : desc.width ≤ grallocGbmWidthMax ∧ desc.height ≤ grallocGbmHeightMax ↔
      ¬ (desc.width > grallocGbmWidthMax ∨ desc.height > grallocGbmHeightMax) := by
    rw [not_or, gt_iff_lt, gt_iff_lt, Int32.not_lt, Int32.not_lt]
  rw [hsize]
  unfold grallocGbmIsAllocatorDescSupported FlagsAccepted descFlags
  dsimp only
  rw [if_neg (colorFmtA2g_pos _)]
  cases ready with
  | false => simp
  | true =>
    rw [if_neg (by simp)]
    split
    · rename_i h
      exact iff_of_false Bool.false_ne_true fun hall => hall.2.1 h
    split
    · rename_i h
      exact iff_of_false Bool.false_ne_true fun hall => hall.2.2.1 h
    split
    · rename_i h
      exact iff_of_false Bool.false_ne_true fun hall => hall.2.2.2.1.1 h
    split
    · rename_i h
      exact iff_of_false Bool.false_ne_true fun hall => hall.2.2.2.1.2 h
    rename_i hlarge husage hdumb hcursor
    exact ⟨fun h => ⟨rfl, hlarge, husage, ⟨hdumb, hcursor⟩, h⟩, fun h => h.2.2.2.2⟩

end

/-! ## Sizes

  A request comes as a signed number on one path and as a `uint32_t` on the other, and the
  bounds are compared in the type that the descriptor has: a negative number is below every
  bound. -/

/-- A size as a client can send it: in the descriptor decoded by `allocate`, or in the one of
    `allocate2`. -/
inductive SizeRequest where
  | allocate (width height : UInt32)
  | allocate2 (width height : Int32)
  deriving DecidableEq, Repr

/-- The width as the allocator gets it. -/
def SizeRequest.width : SizeRequest → Int32
  | .allocate width _ => width.toInt32
  | .allocate2 width _ => width

def SizeRequest.height : SizeRequest → Int32
  | .allocate _ height => height.toInt32
  | .allocate2 _ height => height

/-- The requests of a size, the other fields being anything. -/
def SizeRequest.Sends : SizeRequest → BufferDescriptorInfo → Prop
  | .allocate width height, info =>
    ∃ d : Allocator.BufferDescriptorInfoV4, d.width = width ∧ d.height = height ∧ info = d.toInfo
  | .allocate2 width height, info => info.width = width ∧ info.height = height

/-- Whatever of this size is accepted, by whatever device, is within the limits. -/
def SizeInRange (r : SizeRequest) : Prop :=
  ∀ cfg isFormatSupported ready info desc, r.Sends info → generateGrallocGenericDesc info = some desc →
    grallocGbmIsAllocatorDescSupported cfg isFormatSupported ready desc = true → DescInRange desc

/-- A request of the size is one of its width and height. -/
theorem SizeRequest.Sends.size {r : SizeRequest} {info : BufferDescriptorInfo} (h : r.Sends info) :
    info.width = r.width ∧ info.height = r.height := by
  cases r with
  | allocate width height =>
    obtain ⟨d, rfl, rfl, rfl⟩ := h
    exact ⟨rfl, rfl⟩
  | allocate2 width height => exact h

/-- A request of this size for an RGBA texture, read and written by the CPU. -/
def SizeRequest.rgba (r : SizeRequest) : BufferDescriptorInfo := ⟨r.width, r.height, 1, 1, 0x133, 0, []⟩

/-- It is one of the requests of the size. -/
theorem SizeRequest.sends_rgba (r : SizeRequest) : r.Sends r.rgba := by
  cases r with
  | allocate width height => exact ⟨⟨width, height, 1, 1, 0x133, 0⟩, rfl, rfl, rfl⟩
  | allocate2 width height => exact ⟨rfl, rfl⟩

/-- Its descriptor. -/
def SizeRequest.rgbaDesc (r : SizeRequest) : AllocatorDesc := ⟨r.width, r.height, 1, 1, 0x133, 0⟩

/-- It gets a descriptor unless an extent is zero. -/
theorem SizeRequest.generate_rgba {r : SizeRequest} (hw : r.width ≠ 0) (hh : r.height ≠ 0) :
    generateGrallocGenericDesc r.rgba = some r.rgbaDesc := by
  have hsize : ¬ (r.rgba.width = 0 ∨ r.rgba.height = 0) := not_or.mpr ⟨hw, hh⟩
  have hlayers : ¬ r.rgba.layerCount > 1 := (by decide : ¬ (1 : Int32) > 1)
  unfold generateGrallocGenericDesc
  rw [if_neg hsize, if_neg hlayers]
  rfl

/-- It is accepted as soon as it is not too large. -/
theorem SizeRequest.rgba_accepted {r : SizeRequest} (hw : r.width ≤ grallocGbmWidthMax)
    (hh : r.height ≤ grallocGbmHeightMax) :
    grallocGbmIsAllocatorDescSupported .androidBp (fun _ _ => true) true r.rgbaDesc = true := by
  refine accepted_iff.mpr ⟨rfl, ⟨hw, hh⟩, ?_, ?_, rfl⟩
  · show (0x133 : Int64) ≠ 0
    decide
  · show FlagsAccepted .androidBp (grallocGbmCalculateGbmFlags .androidBp 0x133 (colorFmtA2g 1))
      (colorFmtA2g 1)
    unfold FlagsAccepted
    decide

/-- So a size that neither of the tests refuses is in range only if the descriptor is. -/
theorem SizeInRange.rgba {r : SizeRequest} (h : SizeInRange r) (hw : r.width ≠ 0) (hh : r.height ≠ 0)
    (hwm : r.width ≤ grallocGbmWidthMax) (hhm : r.height ≤ grallocGbmHeightMax) :
    DescInRange r.rgbaDesc :=
  h _ _ _ _ _ r.sends_rgba (SizeRequest.generate_rgba hw hh) (SizeRequest.rgba_accepted hwm hhm)

/-- An extent that is neither zero nor negative nor too large. -/
theorem extent_bounds {x : Int32} (h0 : 0 ≤ x) (hne : x ≠ 0) (hmax : x ≤ 16384) :
    1 ≤ x.toInt ∧ x.toInt ≤ 16384 := by
  rw [Int32.le_iff_toInt_le] at h0 hmax
  have hzero : (0 : Int32).toInt = 0 := rfl
  have hlimit : (16384 : Int32).toInt = 16384 := rfl
  have hne' : x.toInt ≠ 0 := fun h => hne (Int32.toInt_inj.mp h)
  omega

/-- **Sizes in range.**  The sizes that cannot get past the two tests out of range are those without a
    negative extent, and those that one of the tests refuses anyway. -/
theorem sizeInRange_iff (r : SizeRequest) :
    SizeInRange r ↔
      (0 ≤ r.width ∧ 0 ≤ r.height) ∨ r.width = 0 ∨ r.height = 0 ∨
        grallocGbmWidthMax < r.width ∨ grallocGbmHeightMax < r.height := by
  constructor
  · intro h
    by_contra hnot
    simp only [not_or, Int32.not_lt] at hnot
    obtain ⟨hneg, hw, hh, hwm, hhm⟩ := hnot
    obtain ⟨hw1, -, hh1, -⟩ := h.rgba hw hh hwm hhm
    have hzero : (0 : Int32).toInt = 0 := rfl
    rw [Int32.le_iff_toInt_le, Int32.le_iff_toInt_le, hzero] at hneg
    exact hneg ⟨le_trans (by decide) hw1, le_trans (by decide) hh1⟩
  · intro h cfg isFormatSupported ready info desc hsends hdesc hacc
    obtain ⟨hiw, hih⟩ := hsends.size
    obtain ⟨hw, hh, hdw, hdh, -, -⟩ := AllocatorBackendGrallocGbm.generateGrallocGenericDesc_eq hdesc
    obtain ⟨-, ⟨hwm, hhm⟩, -⟩ := accepted_iff.mp hacc
    rw [hdw, hiw] at hwm
    rw [hdh, hih] at hhm
    rw [hiw] at hw
    rw [hih] at hh
    rcases h with ⟨hw0, hh0⟩ | h | h | h | h
    · obtain ⟨hw1, hw2⟩ := extent_bounds hw0 hw hwm
      obtain ⟨hh1, hh2⟩ := extent_bounds hh0 hh hhm
      constructor
      case width_pos => rwa [hdw, hiw]
      case width_le => rwa [hdw, hiw]
      case height_pos => rwa [hdh, hih]
      case height_le => rwa [hdh, hih]
    · exact absurd h hw
    · exact absurd h hh
    · exact absurd hwm (Int32.not_le.mpr h)
    · exact absurd hhm (Int32.not_le.mpr h)

/-- A width of -1, and one of 2^32 - 1. -/
theorem negative_not_sizeInRange :
    ¬ SizeInRange (.allocate2 (-1) 64) ∧ ¬ SizeInRange (.allocate 0xFFFFFFFF 64) := by
  constructor
  · intro h
    exact absurd (h.rgba (by decide) (by decide) (by decide) (by decide)).width_pos (by decide)
  · intro h
    exact absurd (h.rgba (by decide) (by decide) (by decide) (by decide)).width_pos (by decide)

/-! ## The flags collected

  Each line of the usage table contributes its flags if one of its bits is asked for; what the
  device is asked about is their union. -/

/-- A bit of a union is a bit of one of the two. -/
theorem or_and_ne_zero (a b bit : UInt32) :
    (a ||| b) &&& bit ≠ 0 ↔ a &&& bit ≠ 0 ∨ b &&& bit ≠ 0 := by
  have hzero : ∀ x : UInt32, x ≠ 0 ↔ x.toBitVec ≠ 0#32 := fun x =>
    not_congr (UInt32.toBitVec_inj (a := x) (b := 0)).symm
  rw [hzero, hzero, hzero, UInt32.toBitVec_and, UInt32.toBitVec_or, BitVec.and_or_distrib_right, ne_eq,
    BitVec.or_eq_zero_iff, not_and_or]
  rfl

/-- A flag is collected if some rule for it applies. -/
theorem collectFlags_and_ne_zero (cfg : BuildConfig) (usage bit : UInt32) :
    collectFlags cfg usage &&& bit ≠ 0 ↔
      ∃ rule ∈ usageRules cfg, usage &&& rule.1 ≠ 0 ∧ rule.2 &&& bit ≠ 0 := by
  -- over the rules that are left, with the flags collected so far
  have hrules : ∀ (rules : List (UInt32 × UInt32)) (flags : UInt32),
      rules.foldl (fun flags rule => if usage &&& rule.1 ≠ 0 then flags ||| rule.2 else flags) flags
          &&& bit ≠ 0 ↔
        flags &&& bit ≠ 0 ∨ ∃ rule ∈ rules, usage &&& rule.1 ≠ 0 ∧ rule.2 &&& bit ≠ 0 := by
    intro rules
    induction rules with
    | nil => simp
    | cons rule rules ih =>
      intro flags
      rw [List.foldl_cons, ih]
      simp only [List.mem_cons, exists_eq_or_imp]
      split
      · rename_i h
        rw [or_and_ne_zero, or_assoc, and_iff_right h]
      · rename_i h
        have hskip : ¬ (usage &&& rule.1 ≠ 0 ∧ rule.2 &&& bit ≠ 0) := fun hand => h hand.1
        rw [or_iff_right hskip]
  have hnone : ¬ gbmBoUseNone &&& bit ≠ 0 := by simp [gbmBoUseNone]
  rw [collectFlags, hrules, or_iff_right hnone]

section

variable (cfg : BuildConfig) (usage : UInt32)

/-- Does the usage ask for a dumb buffer? -/
def AsksWrite : Prop :=
  cfg.useSwRender ∧
    (usage &&& grallocUsageSwWriteOften ≠ 0 ∨ usage &&& grallocUsageSwWriteRarely ≠ 0)

/-- Is the buffer to be scanned out? -/
def AsksScanout : Prop := usage &&& grallocUsageHwComposer ≠ 0 ∨ usage &&& grallocUsageHwFb ≠ 0

/-- Is it a cursor?  Before API level 35 there are none. -/
def AsksCursor : Prop := 35 ≤ cfg.androidApiLevel ∧ usage &&& grallocUsageCursor ≠ 0

/-- Is it to be rendered to or sampled? -/
def AsksRendering : Prop :=
  usage &&& grallocUsageHwTexture ≠ 0 ∨ usage &&& grallocUsageHwRender ≠ 0 ∨
    usage &&& grallocUsageHw2d ≠ 0 ∨ usage &&& grallocUsageHwComposer ≠ 0

/-- Each flag is collected exactly if the usage asks for it. -/
theorem collectFlags_write : collectFlags cfg usage &&& gbmBoUseWrite ≠ 0 ↔ AsksWrite cfg usage := by
  rw [collectFlags_and_ne_zero]
  unfold usageRules AsksWrite
  cases cfg.useSwRender <;> by_cases hapi : 35 ≤ cfg.androidApiLevel <;> simp +decide [hapi]

theorem collectFlags_scanout : collectFlags cfg usage &&& gbmBoUseScanout ≠ 0 ↔ AsksScanout usage := by
  rw [collectFlags_and_ne_zero]
  unfold usageRules AsksScanout
  cases cfg.useSwRender <;> by_cases hapi : 35 ≤ cfg.androidApiLevel <;> simp +decide [hapi]

theorem collectFlags_cursor : collectFlags cfg usage &&& gbmBoUseCursor ≠ 0 ↔ AsksCursor cfg usage := by
  rw [collectFlags_and_ne_zero]
  unfold usageRules AsksCursor
  cases cfg.useSwRender <;> by_cases hapi : 35 ≤ cfg.androidApiLevel <;> simp +decide [hapi]

theorem collectFlags_rendering :
    collectFlags cfg usage &&& gbmBoUseRendering ≠ 0 ↔ AsksRendering usage := by
  rw [collectFlags_and_ne_zero]
  unfold usageRules AsksRendering
  cases cfg.useSwRender <;> by_cases hapi : 35 ≤ cfg.androidApiLevel <;> simp +decide [hapi]

/-! ## The flags passed on

  After the table the function drops and adds flags by the format and by the macros of the
  build. -/

/-- Only the cursor flag is ever dropped. -/
theorem calculateGbmFlags_and {bit : UInt32} (hbit : ~~~gbmBoUseCursor &&& bit = bit) (gbmFormat : UInt32) :
    grallocGbmCalculateGbmFlags cfg usage gbmFormat &&& bit = collectFlags cfg usage &&& bit := by
  unfold grallocGbmCalculateGbmFlags
  dsimp only
  split
  · rfl
  split
  · rw [UInt32.and_assoc, hbit]
  · rfl

/-- And it is dropped from a rendering cursor, unless that is a dumb buffer of the wrong format. -/
theorem calculateGbmFlags_cursor (gbmFormat : UInt32) :
    grallocGbmCalculateGbmFlags cfg usage gbmFormat &&& gbmBoUseCursor ≠ 0 ↔
      AsksCursor cfg usage ∧
        (AsksWrite cfg usage ∧ dumbFormatRefused (collectFlags cfg usage) gbmFormat ∨
          ¬ (AsksRendering usage ∧ cfg.noCursorRendering)) := by
  rw [← collectFlags_write, ← collectFlags_cursor, ← collectFlags_rendering]
  unfold grallocGbmCalculateGbmFlags
  dsimp only
  split
  · rename_i hwrite
    exact ⟨fun h => ⟨h, .inl hwrite⟩, fun h => h.1⟩
  rename_i hwrite
  split
  · rename_i hdrop
    have hgone : collectFlags cfg usage &&& ~~~gbmBoUseCursor &&& gbmBoUseCursor = 0 := by
      rw [UInt32.and_assoc, show ~~~gbmBoUseCursor &&& gbmBoUseCursor = 0 by decide, UInt32.and_zero]
    exact iff_of_false (not_not.mpr hgone) fun h => h.2.elim hwrite fun hkeep => hkeep hdrop.2
  · rename_i hkeep
    exact ⟨fun h => ⟨h, .inr fun hdrop => hkeep ⟨h, hdrop⟩⟩, fun h => h.1⟩

/-- The test of a dumb buffer, flag by flag. -/
theorem dumbFormatRefused_iff (flags gbmFormat : UInt32) :
    dumbFormatRefused flags gbmFormat ↔
      (flags &&& gbmBoUseCursor ≠ 0 ∧ gbmFormat ≠ gbmFormatArgb8888) ∨
      (flags &&& gbmBoUseScanout ≠ 0 ∧
        ¬ (gbmFormat = gbmFormatXrgb8888 ∨ gbmFormat = gbmFormatXbgr8888)) := by
  simp [dumbFormatRefused]

/-! ## The rules of the DRI backend

  The source quotes the rules of the driver it hands the flags to in comments; they are written
  out here as the comments have them, and compared with what the function lets pass. -/

/-- The rules that the source quotes: no rendering cursor, and a dumb buffer is an ARGB8888 cursor or
    a scanout buffer of XRGB8888 or XBGR8888. -/
def DriRules (flags gbmFormat : UInt32) : Prop :=
  ¬ (flags &&& gbmBoUseCursor ≠ 0 ∧ flags &&& gbmBoUseRendering ≠ 0) ∧
  (flags &&& gbmBoUseWrite ≠ 0 →
    (flags &&& gbmBoUseCursor ≠ 0 ∧ gbmFormat = gbmFormatArgb8888) ∨
    (flags &&& gbmBoUseScanout ≠ 0 ∧
      (gbmFormat = gbmFormatXrgb8888 ∨ gbmFormat = gbmFormatXbgr8888)))

/-- The usages whose dumb buffer, once accepted, is one that the backend makes: a scanout buffer, or
    a cursor that stays one. -/
def DumbBufferServed (gbmFormat : UInt32) : Prop :=
  AsksWrite cfg usage →
    AsksScanout usage ∨
      (AsksCursor cfg usage ∧
        ¬ (gbmFormat = gbmFormatArgb8888 ∧ AsksRendering usage ∧ cfg.noCursorRendering))

variable {cfg usage} {gbmFormat : UInt32}

/-- Three of the flags of an object are those that the usage asks for. -/
theorem calculateGbmFlags_flags (cfg : BuildConfig) (usage gbmFormat : UInt32) :
    let flags := grallocGbmCalculateGbmFlags cfg usage gbmFormat
    (flags &&& gbmBoUseWrite ≠ 0 ↔ AsksWrite cfg usage) ∧
    (flags &&& gbmBoUseScanout ≠ 0 ↔ AsksScanout usage) ∧
    (flags &&& gbmBoUseRendering ≠ 0 ↔ AsksRendering usage) := by
  intro flags
  refine ⟨?_, ?_, ?_⟩
  · rw [calculateGbmFlags_and cfg usage (by decide), collectFlags_write]
  · rw [calculateGbmFlags_and cfg usage (by decide), collectFlags_scanout]
  · rw [calculateGbmFlags_and cfg usage (by decide), collectFlags_rendering]

/-- A dumb buffer of a wrong format is refused with the flags it was collected with. -/
theorem FlagsAccepted.format_ok
    (h : FlagsAccepted cfg (grallocGbmCalculateGbmFlags cfg usage gbmFormat) gbmFormat)
    (hwrite : AsksWrite cfg usage) :
    (AsksCursor cfg usage → gbmFormat = gbmFormatArgb8888) ∧
    (AsksScanout usage → gbmFormat = gbmFormatXrgb8888 ∨ gbmFormat = gbmFormatXbgr8888) := by
  have hcollected := (collectFlags_write cfg usage).mpr hwrite
  have hnot : ¬ dumbFormatRefused (collectFlags cfg usage) gbmFormat := by
    intro hrefused
    have hsame : grallocGbmCalculateGbmFlags cfg usage gbmFormat = collectFlags cfg usage :=
      if_pos ⟨hcollected, hrefused⟩
    rw [hsame] at h
    exact h.1 ⟨hcollected, hrefused⟩
  rw [dumbFormatRefused_iff, collectFlags_cursor, collectFlags_scanout, not_or] at hnot
  constructor
  · intro hcursor
    by_contra hne
    exact hnot.1 ⟨hcursor, hne⟩
  · intro hscanout
    by_contra hne
    exact hnot.2 ⟨hscanout, hne⟩

/-- So its cursor flag is there unless it is dropped. -/
theorem FlagsAccepted.cursor_iff
    (h : FlagsAccepted cfg (grallocGbmCalculateGbmFlags cfg usage gbmFormat) gbmFormat) :
    grallocGbmCalculateGbmFlags cfg usage gbmFormat &&& gbmBoUseCursor ≠ 0 ↔
      AsksCursor cfg usage ∧ ¬ (AsksRendering usage ∧ cfg.noCursorRendering) := by
  rw [calculateGbmFlags_cursor, dumbFormatRefused_iff, collectFlags_cursor, collectFlags_scanout]
  constructor
  · rintro ⟨hcursor, ⟨hwrite, ⟨-, hne⟩ | ⟨hscanout, hne⟩⟩ | hkept⟩
    · exact absurd ((h.format_ok hwrite).1 hcursor) hne
    · exact absurd ((h.format_ok hwrite).2 hscanout) hne
    · exact ⟨hcursor, hkept⟩
  · exact fun ⟨hcursor, hkept⟩ => ⟨hcursor, .inr hkept⟩

/-- Of accepted flags, the rules ask no more than that a dumb buffer is served. -/
theorem FlagsAccepted.driRules_iff
    (h : FlagsAccepted cfg (grallocGbmCalculateGbmFlags cfg usage gbmFormat) gbmFormat) :
    DriRules (grallocGbmCalculateGbmFlags cfg usage gbmFormat) gbmFormat ↔
      DumbBufferServed cfg usage gbmFormat := by
  obtain ⟨hwrite, hscanout, hrendering⟩ := calculateGbmFlags_flags cfg usage gbmFormat
  have hrender := h.2
  rw [h.cursor_iff, hrendering] at hrender
  unfold DriRules DumbBufferServed
  rw [hwrite, hscanout, hrendering, h.cursor_iff]
  constructor
  · rintro ⟨-, hrule⟩ hw
    rcases hrule hw with ⟨⟨hcursor, hkept⟩, -⟩ | ⟨hs, -⟩
    · exact .inr ⟨hcursor, fun hdrop => hkept hdrop.2⟩
    · exact .inl hs
  · intro hserved
    constructor
    · rintro ⟨⟨hcursor, hkept⟩, hr⟩
      have hdrop : cfg.noCursorRendering = false := by
        simpa using fun hno => hkept ⟨hr, hno⟩
      exact hrender ⟨⟨hcursor, hkept⟩, hr, by simp [hdrop]⟩
    · intro hw
      rcases hserved hw with hs | ⟨hcursor, hkept⟩
      · exact .inr ⟨hs, (h.format_ok hw).2 hs⟩
      · have hargb := (h.format_ok hw).1 hcursor
        exact .inl ⟨⟨hcursor, fun hdrop => hkept ⟨hargb, hdrop⟩⟩, hargb⟩

/-- Flags that are not served are accepted all the same. -/
theorem flagsAccepted_of_not_served (h : ¬ DumbBufferServed cfg usage gbmFormat) :
    FlagsAccepted cfg (grallocGbmCalculateGbmFlags cfg usage gbmFormat) gbmFormat := by
  obtain ⟨hwrite, hscanout, hrendering⟩ := calculateGbmFlags_flags cfg usage gbmFormat
  unfold DumbBufferServed at h
  push Not at h
  obtain ⟨-, hns, hkept⟩ := h
  have hcursor : grallocGbmCalculateGbmFlags cfg usage gbmFormat &&& gbmBoUseCursor = 0 := by
    by_contra hc
    rw [← ne_eq, calculateGbmFlags_cursor, dumbFormatRefused_iff, collectFlags_cursor,
      collectFlags_scanout] at hc
    obtain ⟨hasks, ⟨-, ⟨-, hne⟩ | ⟨hs, -⟩⟩ | hnot⟩ := hc
    · exact hne (hkept hasks).1
    · exact hns hs
    · exact hnot (hkept hasks).2
  constructor
  · rw [dumbFormatRefused_iff, hscanout]
    rintro ⟨-, ⟨hc, -⟩ | ⟨hs, -⟩⟩
    · exact hc hcursor
    · exact hns hs
  · exact fun hall => hall.1 hcursor

end

/-- The arguments that `gralloc_gbm_android_buffer_new` passes to `gbm_bo_create` for a descriptor, in
    some environment and state. -/
def CreatesWith (cfg : BuildConfig) (desc : AllocatorDesc) (args : BoArgs) : Prop :=
  ∃ env p bo, boCreateCalls (grallocGbmAndroidBufferNew cfg env desc p).2.calls
    = (args, bo) :: boCreateCalls p.calls

/-- They are those computed from the descriptor. -/
theorem createsWith_iff {cfg : BuildConfig} {desc : AllocatorDesc} {args : BoArgs} :
    CreatesWith cfg desc args ↔ args = newArgs cfg desc := by
  constructor
  · rintro ⟨env, p, bo, h⟩
    rcases grallocGbmAndroidBufferNew_cases cfg env desc p with ⟨rc, -, hr⟩ | ⟨rc, -, -, hr⟩ |
      ⟨rc, -, -, -, hr⟩ | ⟨layout, fd, -, -, -, -, ⟨rc, -, hr⟩ | ⟨logFd, -, -, hr⟩⟩ <;>
      rw [hr] at h <;> simp only [boCreateCalls] at h
    · exact absurd h (List.ne_cons_self)
    · exact absurd h (List.ne_cons_self)
    · exact (Prod.mk.inj (List.cons.inj h).1).1.symm
    · exact (Prod.mk.inj (List.cons.inj h).1).1.symm
    · exact (Prod.mk.inj (List.cons.inj h).1).1.symm
  · rintro rfl
    -- in a process that is ready, and with memory left
    refine ⟨.plain, .ready, ?_⟩
    rcases grallocGbmAndroidBufferNew_cases cfg .plain desc .ready with ⟨rc, hready, -⟩ |
      ⟨rc, -, halloc, -⟩ | ⟨rc, -, -, -, hr⟩ | ⟨layout, fd, -, -, -, -, ⟨rc, -, hr⟩ | ⟨logFd, -, -, hr⟩⟩
    · cases hready
    · cases halloc
    · exact ⟨none, by rw [hr]; rfl⟩
    · exact ⟨some _, by rw [hr]; rfl⟩
    · exact ⟨some _, by rw [hr]; rfl⟩

/-- Whatever is accepted with this usage and format, by whatever device, is created with flags that
    keep the rules. -/
def KeepsDriRules (cfg : BuildConfig) (usage : Int64) (format : Int32) : Prop :=
  ∀ isFormatSupported ready desc args, desc.usage = usage → desc.format = format →
    grallocGbmIsAllocatorDescSupported cfg isFormatSupported ready desc = true →
    CreatesWith cfg desc args → DriRules args.flags args.format

/-- **The rules of the DRI backend.**  What is accepted keeps them exactly if a dumb buffer, where the
    usage asks for one, is to be scanned out, or is a cursor that keeps its flag. -/
theorem keepsDriRules_iff (cfg : BuildConfig) (usage : Int64) (format : Int32) :
    KeepsDriRules cfg usage format ↔
      DumbBufferServed cfg (usageBits usage) (colorFmtA2g format.toUInt32) := by
  constructor
  · intro h
    by_contra hnot
    have hflags := flagsAccepted_of_not_served hnot
    have husage : usage ≠ 0 := by
      rintro rfl
      refine hnot fun hwrite => ?_
      rcases hwrite.2 with hasks | hasks
      · exact absurd (by decide) hasks
      · exact absurd (by decide) hasks
    have hacc : grallocGbmIsAllocatorDescSupported cfg (fun _ _ => true) true
        ⟨1, 1, 1, format, usage, 0⟩ = true :=
      accepted_iff.mpr ⟨rfl, (by decide : (1 : Int32) ≤ 16384 ∧ (1 : Int32) ≤ 16384), husage, hflags, rfl⟩
    exact hnot (hflags.driRules_iff.mp (h _ _ _ _ rfl rfl hacc (createsWith_iff.mpr rfl)))
  · rintro h isFormatSupported ready desc args rfl rfl hacc hargs
    obtain ⟨-, -, -, hflags, -⟩ := accepted_iff.mp hacc
    rw [createsWith_iff.mp hargs]
    exact hflags.driRules_iff.mpr h

/-- A build with software rendering, on Android 15. -/
def BuildConfig.swRender : BuildConfig := ⟨true, true, false, 35⟩

/-- Two dumb buffers that are accepted and that the backend does not make: one written by the CPU
    only, and an ARGB8888 cursor that is also a texture. -/
theorem dumb_not_keepsDriRules :
    ¬ KeepsDriRules .swRender 0x30 1 ∧ ¬ KeepsDriRules .swRender 0x8130 5 := by
  constructor
  · intro h
    have hrules := h (fun _ _ => true) true ⟨64, 64, 1, 1, 0x30, 0⟩ _ rfl rfl (by decide)
      (createsWith_iff.mpr rfl)
    rcases hrules.2 (by decide) with ⟨hcursor, -⟩ | ⟨hscanout, -⟩
    · exact hcursor (by decide)
    · exact hscanout (by decide)
  · intro h
    have hrules := h (fun _ _ => true) true ⟨64, 64, 1, 5, 0x8130, 0⟩ _ rfl rfl (by decide)
      (createsWith_iff.mpr rfl)
    rcases hrules.2 (by decide) with ⟨hcursor, -⟩ | ⟨hscanout, -⟩
    · exact hcursor (by decide)
    · exact hscanout (by decide)

end GrallocGbm
