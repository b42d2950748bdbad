/-
  Is the stride the allocator answers the one the mapper reports, and wide enough?

  gbm is taken at its word: the byte stride it reports covers the width of the object, at the bytes
  that a pixel of the format really takes, and an import keeps it.  Both sides divide it by the
  pixel size of `color_bpp_map`; so they agree, and the quotient covers the width requested whatever
  stride gbm chooses exactly if the least one does.  That fails where the table is not the truth (it
  gives 4 bytes for a pixel of VYUY and 255 for one of P010), and for YV12, whose object has half
  the width.

  The DMA-BUF backend computes an eighth of the width, which covers no width at all.

      return gbm_stride / color_bytes_per_pixel(gbm_format);      // gralloc_gbm.c
      outResult->stride = descriptor.width / 8;                   // AllocatorDmaBuf.cpp

  The assumptions about gbm are named: `CoversWidth` (the stride covers the width), `KeepsStride`
  (an import reports the stride of the object), `EqualStrides` (two objects of one request have one
  stride, which is asked for only when there are two).

  `strides_iff` states both conditions; what is not covered is shown by a gbm that reports the least
  strides it may (`Env.tight`), since a condition that is to be necessary has to fail in some
  environment.
-/
import GrallocGbm.History
import GrallocGbm.Requested

namespace GrallocGbm

open Align

/-! ## Strides in pixels -/

/-- The bytes of a pixel, as the table has it. -/
def tableBytes (d : BufferDescriptorInfo) : Nat :=
  (colorBytesPerPixel (colorFmtA2g d.format.toUInt32)).toNat

/-- A small word is the same number when it is signed. -/
theorem toInt_toInt32 {u : UInt32} (hu : u.toNat < 2 ^ 31) : u.toInt32.toInt = u.toNat := by
  show u.toBitVec.toInt = _
  rw [BitVec.toInt_eq_toNat_of_lt (by show 2 * u.toNat < _; omega)]
  rfl

/-- The stride in pixels is the quotient by the table's size, which is not zero then. -/
theorem pixelStride_eq {d : BufferDescriptorInfo} {bytes : UInt32} {stride : Int32}
    (h : grallocGbmCalculateAndroidPixelStride d.format.toUInt32 bytes = some stride) :
    0 < tableBytes d ∧ ∃ u : UInt32, u.toNat = bytes.toNat / tableBytes d ∧ stride = u.toInt32 := by
  unfold grallocGbmCalculateAndroidPixelStride at h
  dsimp only at h
  rw [if_neg (colorFmtA2g_pos _)] at h
  split at h
  · cases h
  rename_i h0
  refine ⟨?_, bytes / (colorBytesPerPixel (colorFmtA2g d.format.toUInt32)).toUInt32, ?_,
    (Option.some.inj h).symm⟩
  · apply Nat.pos_of_ne_zero
    exact fun hz => h0 (UInt8.toNat_inj.mp hz)
  · rw [UInt32.toNat_div, UInt8.toNat_toUInt32]
    rfl

/-- A byte stride that fits an `int` is not wrapped. -/
theorem pixelStride_toInt {d : BufferDescriptorInfo} {bytes : UInt32} {stride : Int32}
    (h : grallocGbmCalculateAndroidPixelStride d.format.toUInt32 bytes = some stride)
    (hbytes : bytes.toNat < 2 ^ 31) : stride.toInt = (bytes.toNat / tableBytes d : Nat) := by
  obtain ⟨-, u, hu, rfl⟩ := pixelStride_eq h
  have hle := Nat.div_le_self bytes.toNat (tableBytes d)
  rw [toInt_toInt32 (by omega), hu]

/-! ## What gbm promises

  The assumptions about gbm, each a property of the environment. -/

/-- On creation, the stride covers the width, `t` being the bytes that a pixel of a format really
    takes, and it can be passed on as an `int`. -/
structure CoversWidth (t : UInt32 → Nat) (env : Env) : Prop where
  covers : ∀ n width height format flags layout,
    env.boCreate n width height format flags = some layout →
    width.toNat * t format ≤ layout.stride.toNat
  fits : ∀ n width height format flags layout,
    env.boCreate n width height format flags = some layout → layout.stride.toNat < 2 ^ 31

/-- Equal requests get equal strides. -/
def EqualStrides (env : Env) : Prop :=
  ∀ n n' width height format flags layout layout',
    env.boCreate n width height format flags = some layout →
    env.boCreate n' width height format flags = some layout' → layout.stride = layout'.stride

/-- On import, the stride is the one given. -/
def KeepsStride (env : Env) : Prop :=
  ∀ n data flags layout, env.boImport n data flags = some layout →
    layout.stride = data.stride.toUInt32

/-- A gbm that reports the least strides it may. -/
def Env.tight (t : UInt32 → Nat) : Env :=
  { Env.plain with
    boCreate := fun _ width _ format _ =>
      if width.toNat * t format < 2 ^ 31 then some ⟨UInt32.ofNat (width.toNat * t format), 0, 1⟩
      else none }

/-- It makes every object whose least stride fits. -/
theorem Env.tight_boCreate {t : UInt32 → Nat} {width format : UInt32}
    (h : width.toNat * t format < 2 ^ 31) (n : Nat) (height flags : UInt32) :
    (Env.tight t).boCreate n width height format flags
      = some ⟨UInt32.ofNat (width.toNat * t format), 0, 1⟩ := if_pos h

/-- It keeps the promise. -/
theorem Env.tight_covers (t : UInt32 → Nat) : CoversWidth t (Env.tight t) := by
  -- an answer is always this one
  have hanswer : ∀ {n width height format flags layout},
      (Env.tight t).boCreate n width height format flags = some layout →
      layout.stride.toNat = width.toNat * t format ∧ layout.stride.toNat < 2 ^ 31 := by
    intro n width height format flags layout h
    by_cases hfits : width.toNat * t format < 2 ^ 31
    · rw [tight_boCreate hfits] at h
      cases h
      have hsize : UInt32.size = 2 ^ 32 := rfl
      have hnat : (UInt32.ofNat (width.toNat * t format)).toNat = width.toNat * t format :=
        UInt32.toNat_ofNat_of_lt' (by omega)
      exact ⟨hnat, by rw [hnat]; exact hfits⟩
    · rw [show (Env.tight t).boCreate n width height format flags = none from if_neg hfits] at h
      cases h
  constructor
  case covers => exact fun n width height format flags layout h => le_of_eq (hanswer h).1.symm
  case fits => exact fun n width height format flags layout h => (hanswer h).2

/-- The plain environment keeps the stride on import. -/
theorem Env.plain_keepsStride : KeepsStride Env.plain := by
  intro n data flags layout h
  cases h
  rfl

/-! ## The width of the object -/

/-- The width of the object the GBM backend creates: half of an aligned width for YV12, the cursor
    block's for a cursor, else the width requested. -/
def objectWidth (cfg : BuildConfig) (d : BufferDescriptorInfo) : UInt32 :=
  if d.format.toUInt32 = halPixelFormatYv12 then (alignUp d.width 32 / 2).toUInt32
  else if requestFlags cfg d &&& gbmBoUseCursor ≠ 0 then (cursorExtent cfg d.width).toUInt32
  else d.width.toUInt32

section

variable {cfg : BuildConfig} {t : UInt32 → Nat} {d : BufferDescriptorInfo}

/-- The width and the format that gbm is asked for. -/
theorem newArgs_width (cfg : BuildConfig) {desc : AllocatorDesc}
    (hdesc : generateGrallocGenericDesc d = some desc) :
    (newArgs cfg desc).width = objectWidth cfg d ∧
      (newArgs cfg desc).format = colorFmtA2g d.format.toUInt32 := by
  obtain ⟨-, -, hw, -, hformat, -⟩ := AllocatorBackendGrallocGbm.generateGrallocGenericDesc_eq hdesc
  constructor
  · by_cases hyv12 : d.format.toUInt32 = halPixelFormatYv12
    · simp only [newArgs, newSize, hw, hformat, if_pos hyv12, objectWidth]
    · have hsize := congrArg Prod.fst (newArgs_size cfg hdesc hyv12)
      rw [apply_ite Prod.fst] at hsize
      rw [objectWidth, if_neg hyv12]
      exact hsize
  · rw [← hformat]
    rfl

/-! ## Deliveries

  The contract is about one delivery: the stride in the answer of the allocator, and the stride
  that the mapper reports for the buffer. -/

/-- An allocation has one stride for all its buffers: there is only one, or gbm gives them the same. -/
def OneStride (x : Delivery cfg d) : Prop := x.count = 1 ∨ EqualStrides x.env

/-- The stride contract: the mapper reports the stride that the allocator has answered, and it covers
    the width requested. -/
def StrideOk (x : Delivery cfg d) : Prop :=
  x.read .stride = some (.int32 x.result.stride) ∧ d.width.toInt ≤ x.result.stride.toInt

/-- When it does.  On the GBM backend, the width requested takes no more bytes by the table than the
    width of the object takes in truth.  On the DMA-BUF backend, there is no width to cover, and where
    the mapper divides the stride once more, that makes no difference. -/
def StrideSuffices (cfg : BuildConfig) (t : UInt32 → Nat) (d : BufferDescriptorInfo) :
    AllocatorBackendType → Prop
  | .allocatorGrallocGbm => d.width.toInt * tableBytes d
      ≤ (objectWidth cfg d).toNat * t (colorFmtA2g d.format.toUInt32)
  | .allocatorGrallocDmabuf => d.width.toInt ≤ 0 ∧
      ((d.format = pixelFormatBlob ∧ d.height = 1) ∨
        tableBytes d ≠ 0 ∧ (-8 < d.width.toInt ∨ tableBytes d = 1))

/-- What the GBM backend hands out has a pixel size. -/
theorem tableBytes_pos (x : Delivery cfg d) (hb : x.backend = some .allocatorGrallocGbm) :
    0 < tableBytes d := by
  obtain ⟨-, -, desc, layout, last, hmade, -⟩ := x.fields_gbm hb
  obtain ⟨-, -, -, -, hdformat, -⟩ :=
    AllocatorBackendGrallocGbm.generateGrallocGenericDesc_eq hmade.desc_eq
  exact (pixelStride_eq (hdformat ▸ hmade.stride_eq)).1

/-- **What the GBM backend hands out.**  `bytes` is the byte stride of the object. -/
theorem stride_gbm (x : Delivery cfg d) (hb : x.backend = some .allocatorGrallocGbm)
    (hcovers : CoversWidth t x.env) (hone : OneStride x) (hkeeps : KeepsStride x.clientEnv) :
    ∃ bytes : UInt32, (objectWidth cfg d).toNat * t (colorFmtA2g d.format.toUInt32) ≤ bytes.toNat ∧
      bytes.toNat < 2 ^ 31 ∧
      x.read .stride = some (.int32 x.result.stride) ∧
      x.result.stride.toInt = (bytes.toNat / tableBytes d : Nat) := by
  obtain ⟨hblob, -, desc, layout, last, hmade, hfields⟩ := x.fields_gbm hb
  obtain ⟨hwidth, hformat⟩ := newArgs_width cfg hmade.desc_eq
  obtain ⟨-, -, -, -, hdformat, -⟩ :=
    AllocatorBackendGrallocGbm.generateGrallocGenericDesc_eq hmade.desc_eq
  obtain ⟨n, hlayout⟩ := hmade.created
  obtain ⟨n', hlast⟩ := hmade.last_created
  have hsame : layout.stride = last.stride := by
    rcases hone with hcount | heq
    · rw [hmade.single hcount]
    · exact heq n n' _ _ _ _ layout last hlayout hlast
  have hle := hcovers.covers n _ _ _ _ layout hlayout
  have hlt := hcovers.fits n _ _ _ _ layout hlayout
  have hstride := hmade.stride_eq
  rw [hwidth, hformat] at hle
  rw [hdformat, ← hsame] at hstride
  obtain ⟨layout', ⟨m, data, flags, hdata, himport⟩, hreports⟩ :=
    x.reports_gbm (x.routed.trans (if_neg hblob))
  -- the import is given the stride of the creation, and keeps it
  have hkept : layout'.stride = layout.stride := by
    rw [hkeeps m data flags layout' himport, hdata, hfields]
    rfl
  rw [x.fields.1, hkept, hstride] at hreports
  exact ⟨layout.stride, hle, hlt, hreports.stride, pixelStride_toInt hstride hlt⟩

/-- An eighth of a width covers it exactly if there is nothing to cover. -/
theorem toInt_div_eight (w : Int32) :
    (w.toInt ≤ (w / 8).toInt ↔ w.toInt ≤ 0) ∧ (w / 8 = 0 ↔ -8 < w.toInt ∧ w.toInt < 8) := by
  have hlo := w.le_toInt
  have hhi := w.toInt_lt
  have h8 : (8 : Int32).toInt = 8 := rfl
  have hdiv : (w / 8).toInt = if 0 ≤ w.toInt then w.toInt / 8 else -(-w.toInt / 8) := by
    rw [Int32.toInt_div, h8]
    split <;> rename_i h0
    · rw [Int.tdiv_eq_ediv_of_nonneg h0, Int.bmod_eq_of_le (by omega) (by omega)]
    · have hneg : w.toInt.tdiv 8 = -(-w.toInt / 8) := by
        rw [← Int.tdiv_eq_ediv_of_nonneg (by omega), Int.neg_tdiv, neg_neg]
      rw [hneg, Int.bmod_eq_of_le (by omega) (by omega)]
  rw [← Int32.toInt_inj, Int32.toInt_zero, hdiv]
  split <;> constructor <;> omega

/-- **What the DMA-BUF backend hands out.** -/
theorem strideOk_dmabuf_iff (x : Delivery cfg d) (hb : x.backend = some .allocatorGrallocDmabuf)
    (hkeeps : KeepsStride x.clientEnv) :
    StrideOk x ↔ StrideSuffices cfg t d .allocatorGrallocDmabuf := by
  obtain ⟨hstride, -, modifier, hfields⟩ := x.fields_dmabuf hb
  have hword : (grallocHandle x.handle).stride = (d.width / 8).toUInt32 := by rw [hfields]
  obtain ⟨hle, hzero⟩ := toInt_div_eight d.width
  rw [StrideOk, StrideSuffices, hstride, hle, and_comm]
  apply and_congr_right
  intro hwidth
  by_cases hblob : d.format = pixelFormatBlob ∧ d.height = 1
  · have hreports := (x.reports_dmabuf (x.routed.trans (if_pos hblob))).stride
    rw [hword] at hreports
    exact iff_of_true hreports (.inl hblob)
  obtain ⟨layout, ⟨n, data, flags, hdata, himport⟩, hreports⟩ :=
    x.reports_gbm (x.routed.trans (if_neg hblob))
  have hkept : layout.stride = (d.width / 8).toUInt32 := by
    rw [hkeeps n data flags layout himport, hdata, hword]
    rfl
  rw [x.fields.1, hkept] at hreports
  cases hs : grallocGbmCalculateAndroidPixelStride d.format.toUInt32 (d.width / 8).toUInt32 with
  | none =>
    -- the read divides by zero
    have h0 := grallocGbmCalculateAndroidPixelStride_eq_none.mp hs
    have hbytes : tableBytes d = 0 := by
      rw [tableBytes, h0]
      rfl
    rw [hs] at hreports
    rw [hreports .stride rfl]
    apply iff_of_false
    · exact nofun
    · rintro (h | ⟨h, -⟩)
      · exact hblob h
      · exact h hbytes
  | some stride =>
    obtain ⟨hpos, u, hu, rfl⟩ := pixelStride_eq hs
    rw [hs] at hreports
    -- dividing once more changes nothing
    have hsame : u.toInt32 = d.width / 8 ↔ -8 < d.width.toInt ∨ tableBytes d = 1 := by
      have h0 : (d.width / 8).toUInt32.toNat = 0 ↔ d.width / 8 = 0 := by
        rw [← UInt32.toNat_zero, UInt32.toNat_inj]
        exact toUInt32_eq_iff
      rw [eq_comm, ← toUInt32_eq_iff, ← UInt32.toNat_inj, hu, eq_comm, Nat.div_eq_self, h0, hzero]
      have : d.width.toInt < 8 := by omega
      simp only [this, and_true]
    rw [hreports.stride, Option.some.injEq, MetadataValue.int32.injEq, hsame]
    constructor
    · exact fun h => .inr ⟨by omega, h⟩
    · rintro (h | ⟨-, h⟩)
      · exact absurd h hblob
      · exact h

/-! ## The least strides

  A gbm that keeps its promise by as little as it can shows which descriptors the contract fails
  for. -/

/-- The device has the last word on a descriptor. -/
theorem grallocGbmIsAllocatorDescSupported_eq (isFormatSupported : UInt32 → UInt32 → Bool)
    (ready : Bool) (desc : AllocatorDesc) :
    let gbmFormat := colorFmtA2g desc.format.toUInt32
    grallocGbmIsAllocatorDescSupported cfg isFormatSupported ready desc
      = (grallocGbmIsAllocatorDescSupported cfg (fun _ _ => true) ready desc &&
        isFormatSupported gbmFormat
          (grallocGbmCalculateGbmFlags cfg (usageBits desc.usage) gbmFormat)) := by
  unfold grallocGbmIsAllocatorDescSupported
  dsimp only
  repeat' split
  all_goals simp

/-- A buffer is made, with the least stride. -/
theorem Env.tight_new {desc : AllocatorDesc} {p : Proc} (hready : isGrallocGbmReady p = true)
    (hfits : (newArgs cfg desc).width.toNat * t (newArgs cfg desc).format < 2 ^ 31) :
    ∃ handle p', grallocGbmAndroidBufferNew cfg (Env.tight t) desc p = (.ok (handle,
      UInt32.ofNat ((newArgs cfg desc).width.toNat * t (newArgs cfg desc).format)), p') := by
  have hcreate := tight_boCreate hfits (p.calls.length + 1) (newArgs cfg desc).height
    (newArgs cfg desc).flags
  rcases grallocGbmAndroidBufferNew_cases cfg (Env.tight t) desc p with
    ⟨rc, hno, -⟩ | ⟨rc, -, hno, -⟩ | ⟨rc, -, -, hno, -⟩ |
    ⟨layout, fd, -, -, hlayout, -, ⟨rc, hno, -⟩ | ⟨logFd, -, -, h⟩⟩
  · rw [hready] at hno
    cases hno
  · cases hno
  · rw [hcreate] at hno
    cases hno
  · cases hno
  · rw [hcreate] at hlayout
    cases hlayout
    exact ⟨_, _, h⟩

/-- One buffer from an idle service. -/
theorem Env.tight_allocate {desc : AllocatorDesc} {p : Proc} (hp : Idle p)
    (hsup : grallocGbmIsAllocatorDescSupported cfg (fun _ _ => true) true desc = true)
    (hfits : (newArgs cfg desc).width.toNat * t (newArgs cfg desc).format < 2 ^ 31) {stride : Int32}
    (hstride : grallocGbmCalculateAndroidPixelStride desc.format.toUInt32
      (UInt32.ofNat ((newArgs cfg desc).width.toNat * t (newArgs cfg desc).format)) = some stride) :
    ∃ a, (AllocatorBackendGrallocGbm.grallocGbmAllocate cfg (Env.tight t) desc 1 p).1
      = .ok ⟨stride, [a]⟩ ∧ ∀ fd ∈ a.fds, 0 ≤ fd := by
  have hnewFd : ∀ n fds, ((Env.tight t).newFd n fds).isSome = true := fun _ fds => lowestFd_isSome fds
  obtain ⟨handle, p', hnew⟩ := tight_new hp.ready hfits
  have hloop : AllocatorBackendGrallocGbm.newHandles cfg (Env.tight t) desc 1 [] 0 p
      = (.ok ([handle], stride), p') := by
    simp only [AllocatorBackendGrallocGbm.newHandles, hnew, hstride, List.nil_append]
  obtain ⟨es, x, hpending, -⟩ := newHandles_pending hnewFd (Pending.start hp.inv hp.ready) hloop
  obtain ⟨buffers, p'', hexport, -, -, hnonneg⟩ := exportHandles_pending hnewFd hpending
  have hone : ∃ a, buffers = [a] := by
    simp only [AllocatorBackendGrallocGbm.exportHandles] at hexport
    split at hexport
    · cases hexport
    · exact ⟨_, (Status.ok.inj (Prod.mk.inj hexport).1).symm⟩
  obtain ⟨a, rfl⟩ := hone
  have hresize : ∀ q, resizes (Env.tight t) 1 q = true := fun _ => rfl
  refine ⟨a, ?_, hnonneg a List.mem_cons_self⟩
  unfold AllocatorBackendGrallocGbm.grallocGbmAllocate
  rw [hp.ready, show (Env.tight t).isFormatSupported = fun _ _ => true from rfl, hsup,
    if_neg (by decide), hresize, if_neg (by decide)]
  rw [show (1 : Int32).toInt.toNat = 1 from rfl, hloop]
  dsimp only
  rw [hresize, if_neg (by decide), hexport]

/-- A usage that no rule looks at asks for nothing. -/
theorem collectFlags_of_unused {usage : UInt32}
    (h : ∀ mask ∈ (usageRules cfg).map Prod.fst, usage &&& mask = 0) :
    collectFlags cfg usage = gbmBoUseNone := by
  have hrules : ∀ (rules : List (UInt32 × UInt32)) (flags : UInt32),
      (∀ mask ∈ rules.map Prod.fst, usage &&& mask = 0) →
      rules.foldl (fun flags rule => if usage &&& rule.1 ≠ 0 then flags ||| rule.2 else flags) flags
        = flags := by
    intro rules
    induction rules with
    | nil => exact fun flags _ => rfl
    | cons rule rules ih =>
      intro flags hall
      have hrule : usage &&& rule.1 = 0 := hall rule.1 List.mem_cons_self
      rw [List.foldl_cons, if_neg (not_not.mpr hrule)]
      exact ih flags fun mask hmask => hall mask (List.mem_cons_of_mem _ hmask)
  exact hrules (usageRules cfg) gbmBoUseNone h

/-- A request that any service selects the GBM backend for. -/
def unusedInfo : BufferDescriptorInfo := ⟨64, 64, 1, 1, 0x10000, 0, []⟩

/-- The tight gbm supports this descriptor. -/
theorem Env.tight_selectable (cfg : BuildConfig) (t : UInt32 → Nat) :
    selectable cfg (Env.tight t) unusedInfo = true := by
  have hmasks : ∀ mask ∈ (usageRules cfg).map Prod.fst, (0x10000 : UInt32) &&& mask = 0 := by
    show ∀ mask ∈ [grallocUsageSwReadOften, grallocUsageSwReadRarely, grallocUsageSwWriteOften,
      grallocUsageSwWriteRarely, grallocUsageHwTexture, grallocUsageHwRender, grallocUsageHw2d,
      grallocUsageHwComposer, grallocUsageHwFb, grallocUsageExternalDisp, grallocUsageProtected,
      grallocUsageCursor], (0x10000 : UInt32) &&& mask = 0
    simp only [List.forall_mem_cons, List.not_mem_nil, false_implies, implies_true]
    decide
  have hcollect := collectFlags_of_unused hmasks
  have hflags : grallocGbmCalculateGbmFlags cfg (usageBits 0x10000) (colorFmtA2g 1)
      = gbmBoUseNone := by
    show grallocGbmCalculateGbmFlags cfg 0x10000 (colorFmtA2g 1) = gbmBoUseNone
    rw [grallocGbmCalculateGbmFlags, hcollect]
    rfl
  show grallocGbmIsAllocatorDescSupported cfg (fun _ _ => true) true ⟨64, 64, 1, 1, 0x10000, 0⟩
    = true
  unfold grallocGbmIsAllocatorDescSupported
  dsimp only
  rw [show ((1 : Int32).toUInt32) = 1 from rfl, hflags]
  rfl

/-- After it, the service is idle, and the GBM backend is the one left over. -/
theorem Env.tight_left (cfg : BuildConfig) (t : UInt32 → Nat) :
    let s := allocatorRun cfg (Env.tight t) (fun _ => none) [.isSupported unusedInfo]
    Idle s.proc ∧ s.mBackend = some .allocatorGrallocGbm := by
  have hinit : (Allocator.init (Env.tight t)).1 = 0 := rfl
  have hidle := Allocator.init_idle hinit
  have hready := Allocator.init_ready hinit
  refine ⟨?_, ?_⟩
  · show Idle ((Allocator.init (Env.tight t)).2.isSupported cfg (Env.tight t) unusedInfo).2.proc
    exact Allocator.isSupported_idle hidle
  obtain ⟨da, cs, heq⟩ := Allocator.isSupported_eq cfg (Env.tight t) (d := unusedInfo) hready nofun
  show ((Allocator.init (Env.tight t)).2.isSupported cfg (Env.tight t) unusedInfo).2.mBackend = _
  rw [heq, served, tight_selectable]
  rfl

/-- What is no linear BLOB goes to the GBM backend, if that is the one left over. -/
theorem served_of_left {env : Env} {s : Allocator}
    (hblob : ¬ (d.format = pixelFormatBlob ∧ d.height = 1))
    (hleft : s.mBackend = some .allocatorGrallocGbm) :
    served cfg env d s = some .allocatorGrallocGbm := by
  unfold served
  split
  · rename_i hsel
    unfold selectable at hsel
    unfold ownerOf
    split
    · rename_i hfmt
      rw [if_pos hfmt, decide_eq_true_iff] at hsel
      exact absurd ⟨hfmt, hsel⟩ hblob
    · rfl
  · exact hleft

/-- Any byte stride has a stride in pixels, if one has. -/
theorem exists_pixelStride (hpos : 0 < tableBytes d) (bytes : UInt32) :
    ∃ stride, grallocGbmCalculateAndroidPixelStride d.format.toUInt32 bytes = some stride := by
  apply Option.ne_none_iff_exists'.mp
  rw [ne_eq, grallocGbmCalculateAndroidPixelStride_eq_none]
  intro h0
  rw [tableBytes, h0] at hpos
  exact lt_irrefl _ hpos

/-- A request that some service has the GBM backend answer is answered by the GBM backend of this
    one. -/
theorem Env.tight_accepts (x : Delivery cfg d) (hb : x.backend = some .allocatorGrallocGbm)
    (hcovers : CoversWidth t x.env) :
    let s := allocatorRun cfg (Env.tight t) (fun _ => none) [.isSupported unusedInfo]
    let r := s.allocate2 cfg (Env.tight t) d 1
    ∃ stride a, r.1 = .ok ⟨stride, [a]⟩ ∧ r.2.mBackend = some .allocatorGrallocGbm ∧
      (∀ addr memory, OneTwelve (makeFromAidl addr memory a)) ∧ (∀ fd ∈ a.fds, 0 ≤ fd) ∧
      stride.toInt = ((objectWidth cfg d).toNat * t (colorFmtA2g d.format.toUInt32)
        / tableBytes d : Nat) := by
  intro s r
  obtain ⟨hblob, -, desc, layout, last, hmade, -⟩ := x.fields_gbm hb
  obtain ⟨hwidth, hformat⟩ := newArgs_width cfg hmade.desc_eq
  obtain ⟨-, -, -, -, hdformat, -⟩ :=
    AllocatorBackendGrallocGbm.generateGrallocGenericDesc_eq hmade.desc_eq
  obtain ⟨n, hlayout⟩ := hmade.created
  have hle := hcovers.covers n _ _ _ _ layout hlayout
  have hfits := lt_of_le_of_lt hle (hcovers.fits n _ _ _ _ layout hlayout)
  have hsup := hmade.supported
  rw [grallocGbmIsAllocatorDescSupported_eq, Bool.and_eq_true] at hsup
  obtain ⟨stride, hstride⟩ := exists_pixelStride (tableBytes_pos x hb)
    (UInt32.ofNat ((newArgs cfg desc).width.toNat * t (newArgs cfg desc).format))
  obtain ⟨hidle, hleft⟩ := tight_left cfg t
  have hserved : served cfg (Env.tight t) d s = some .allocatorGrallocGbm :=
    served_of_left hblob hleft
  obtain ⟨da, cs, heq⟩ := Allocator.allocate2_eq cfg (Env.tight t) d 1 hidle.ready
  rw [show served cfg (Env.tight t) d _ = _ from hserved] at heq
  obtain ⟨a, ha, hnonneg⟩ := tight_allocate (hidle.checked da cs) hsup.1 hfits (hdformat ▸ hstride)
  have hnat : (UInt32.ofNat ((newArgs cfg desc).width.toNat * t (newArgs cfg desc).format)).toNat
      = (newArgs cfg desc).width.toNat * t (newArgs cfg desc).format :=
    UInt32.toNat_ofNat_of_lt' (lt_trans hfits (by decide))
  have hok : (AllocatorBackendType.allocatorGrallocGbm.allocate2 cfg (Env.tight t) d 1
      { s.proc with dmaAllocator := da, calls := cs }).1 = .ok ⟨stride, [a]⟩ := by
    simp only [AllocatorBackendType.allocate2, AllocatorBackendGrallocGbm.allocate2, hmade.desc_eq]
    exact ha
  refine ⟨stride, a, ?_, ?_, ?_, hnonneg, ?_⟩
  · show ((allocatorRun cfg (Env.tight t) (fun _ => none) [.isSupported unusedInfo]).allocate2 cfg
      (Env.tight t) d 1).1 = _
    rw [heq]
    exact hok
  · show ((allocatorRun cfg (Env.tight t) (fun _ => none) [.isSupported unusedInfo]).allocate2 cfg
      (Env.tight t) d 1).2.mBackend = _
    rw [heq]
  · intro addr memory
    obtain ⟨desc', layout', last', hmade'⟩ :=
      AllocatorBackendGrallocGbm.allocate2_made hok a List.mem_cons_self
    obtain ⟨fd, a', q, rfl⟩ := hmade'.crossed
    exact (grallocHandle_makeFromAidl (Env.tight t) ⟨rfl, rfl⟩ q addr memory).1
  · rw [pixelStride_toInt hstride (by rw [hnat]; exact hfits), hnat, hwidth, hformat]

/-- A buffer that one gbm lets the backend hand out, handed out with the least stride. -/
theorem Delivery.exists_tight (x : Delivery cfg d) (hb : x.backend = some .allocatorGrallocGbm)
    (hcovers : CoversWidth t x.env) :
    ∃ y : Delivery cfg d, y.backend = some .allocatorGrallocGbm ∧ CoversWidth t y.env ∧
      OneStride y ∧ KeepsStride y.clientEnv ∧
      y.result.stride.toInt = ((objectWidth cfg d).toNat * t (colorFmtA2g d.format.toUInt32)
        / tableBytes d : Nat) := by
  obtain ⟨stride, a, haccepted, hbackend, h12, hnonneg, hstride⟩ := Env.tight_accepts x hb hcovers
  obtain ⟨hfds, hints⟩ := h12 0 fun _ => 0
  have hclonable : Clonable (makeFromAidl 0 (fun _ => 0) a) := by
    refine ⟨by rw [hfds, hints]; decide, ?_⟩
    rw [makeFromAidl_fds]
    exact hnonneg
  obtain ⟨c, himported⟩ := Mapper.importBuffer_plain cfg
    (show (makeFromAidl 0 (fun _ => 0) a).numFds ≠ 0 by rw [hfds]; decide) hclonable
  let y : Delivery cfg d :=
    { env := Env.tight t
      decode := fun _ => none
      requests := [.isSupported unusedInfo]
      started := rfl
      count := 1
      result := ⟨stride, [a]⟩
      accepted := haccepted
      buffer := a
      returned := List.mem_cons_self
      addr := 0
      memory := fun _ => 0
      clientEnv := .plain
      before := []
      clone := c
      imported := himported
      later := []
      kept := fun _ h => absurd h List.not_mem_nil }
  exact ⟨y, hbackend, Env.tight_covers t, .inl rfl, Env.plain_keepsStride, hstride⟩

/-- **The stride contract** holds of all that a backend hands out for a descriptor exactly if the
    strides suffice. -/
theorem strides_iff (x₀ : Delivery cfg d) {backend : AllocatorBackendType}
    (hb₀ : x₀.backend = some backend) (hcovers₀ : CoversWidth t x₀.env) (hone₀ : OneStride x₀)
    (hkeeps₀ : KeepsStride x₀.clientEnv) :
    (∀ x : Delivery cfg d, x.backend = some backend → CoversWidth t x.env → OneStride x →
      KeepsStride x.clientEnv → StrideOk x) ↔ StrideSuffices cfg t d backend := by
  cases backend with
  | allocatorGrallocDmabuf =>
    constructor
    · intro hall
      exact (strideOk_dmabuf_iff x₀ hb₀ hkeeps₀).mp (hall x₀ hb₀ hcovers₀ hone₀ hkeeps₀)
    · intro hsuffices x hb hcovers hone hkeeps
      exact (strideOk_dmabuf_iff x hb hkeeps).mpr hsuffices
  | allocatorGrallocGbm =>
    have hpos : (0 : Int) < tableBytes d := by exact_mod_cast tableBytes_pos x₀ hb₀
    constructor
    · intro hall
      obtain ⟨y, hb, hcovers, hone, hkeeps, hstride⟩ := x₀.exists_tight hb₀ hcovers₀
      have hle : d.width.toInt ≤ y.result.stride.toInt := (hall y hb hcovers hone hkeeps).2
      rw [hstride, Int.natCast_ediv, Int.le_ediv_iff_mul_le hpos] at hle
      exact_mod_cast hle
    · intro hsuffices x hb hcovers hone hkeeps
      obtain ⟨bytes, hle, -, hread, hstride⟩ := stride_gbm x hb hcovers hone hkeeps
      refine ⟨hread, ?_⟩
      rw [hstride, Int.natCast_ediv, Int.le_ediv_iff_mul_le hpos]
      calc d.width.toInt * tableBytes d
          ≤ ((objectWidth cfg d).toNat * t (colorFmtA2g d.format.toUInt32) : Nat) := by
            exact_mod_cast hsuffices
        _ ≤ bytes.toNat := by exact_mod_cast hle

/-- Four bytes a pixel. -/
def fourBytes : UInt32 → Nat := fun _ => 4

/-- It is delivered in the plain environment. -/
def unusedDelivery : Delivery .androidBp unusedInfo :=
  .direct .androidBp (.tight fourBytes) [] unusedInfo rfl rfl (by decide) rfl

/-- The theorem at this buffer, with four bytes a pixel. -/
theorem unused_strides_iff :
    unusedDelivery.backend = some .allocatorGrallocGbm ∧
    ((∀ x : Delivery .androidBp unusedInfo, x.backend = some .allocatorGrallocGbm →
      CoversWidth fourBytes x.env → OneStride x → KeepsStride x.clientEnv → StrideOk x) ↔
      StrideSuffices .androidBp fourBytes unusedInfo .allocatorGrallocGbm) :=
  ⟨rfl, strides_iff unusedDelivery rfl (Env.tight_covers fourBytes) (.inl rfl)
    Env.plain_keepsStride⟩

/-- A BLOB of 4096 bytes. -/
def blobDelivery : Delivery .androidBp (blobInfo 4096 1) :=
  .direct .androidBp (.tight fourBytes) [] (blobInfo 4096 1) rfl rfl (by decide) rfl

/-- It has a stride of 512. -/
theorem blob_stride_short :
    CoversWidth fourBytes blobDelivery.env ∧ OneStride blobDelivery ∧
    KeepsStride blobDelivery.clientEnv ∧
    blobDelivery.backend = some .allocatorGrallocDmabuf ∧ (blobInfo 4096 1).width = 4096 ∧
    blobDelivery.result.stride = 512 ∧ blobDelivery.read .stride = some (.int32 512) :=
  ⟨Env.tight_covers fourBytes, .inl rfl, Env.plain_keepsStride, rfl, rfl, rfl, by decide⟩

end

end GrallocGbm
