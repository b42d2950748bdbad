/-
  The strides of the planes (`PLANE_LAYOUTS` of the GBM backend).

  gbm reports a stride in bytes.  The query divides it by the pixel size of the handle's format, and
  the getter multiplies the quotient by the pixel size of the object's format.  The two formats are
  the same for the handle that the object was imported with (`Mapper.importBuffer_stored`), so what
  the reader gets is the byte stride exactly if it is a whole number of pixels, and fits an `int`
  (`planeStride_exact_iff`).

  1. **The arithmetic** — `int32_div_mul_eq_iff`: a word divided by a byte, read as signed, and
  multiplied again.  It is the word again exactly if it is a multiple and below 2^31.

  2. **One state** — `firstPlaneStride_iff`, in any state with a live handle whose format has
  planes.

  3. **Any calls before and after** — `usedMapper` is the mapper after an import that follows
  `before` and is followed by `later`, no call of which frees the handle; that the object and its
  entry are the imported ones there is `usedMapper_object`, and the geometry of the planes starts
  from the same lemma.
-/
import GrallocGbm.Strides

namespace GrallocGbm

/-! ## There and back -/

/-- A stride divided by a pixel size and multiplied by it again. -/
theorem int32_div_mul_eq_iff {stride : UInt32} {k : UInt8} :
    ((stride / k.toUInt32).toInt32 * k.toUInt32.toInt32).toInt = stride.toNat ↔
      k.toNat ∣ stride.toNat ∧ stride.toNat < 2 ^ 31 := by
  have hk : k.toUInt32.toInt32.toInt = k.toNat := by
    have := k.toNat_lt
    rw [toInt_toInt32 (by rw [UInt8.toNat_toUInt32]; omega), UInt8.toNat_toUInt32]
  have hle := Nat.div_le_self stride.toNat k.toNat
  have hmul := Nat.div_mul_le_self stride.toNat k.toNat
  have hbound := ((stride / k.toUInt32).toInt32 * k.toUInt32.toInt32).toInt_lt
  -- as long as the stride fits an `int`, nothing wraps
  have hexact : stride.toNat < 2 ^ 31 →
      ((stride / k.toUInt32).toInt32 * k.toUInt32.toInt32).toInt
        = (stride.toNat / k.toNat * k.toNat : Nat) := by
    intro hlt
    have hq : (stride / k.toUInt32).toInt32.toInt = (stride.toNat / k.toNat : Nat) := by
      rw [toInt_toInt32 (by rw [UInt32.toNat_div, UInt8.toNat_toUInt32]; omega), UInt32.toNat_div,
        UInt8.toNat_toUInt32]
    rw [Int32.toInt_mul, hq, hk, ← Int.natCast_mul, Int.bmod_eq_of_le (by omega) (by omega)]
  constructor
  · intro heq
    have hlt : stride.toNat < 2 ^ 31 := by omega
    rw [hexact hlt] at heq
    exact ⟨Dvd.intro_left (stride.toNat / k.toNat) (Int.natCast_inj.mp heq), hlt⟩
  · rintro ⟨hdvd, hlt⟩
    rw [hexact hlt, Nat.div_mul_cancel hdvd]

/-- What has a plane layout has a pixel size, and at least one plane. -/
theorem getPlaneLayouts_some {gbmFormat : UInt32} {layouts : List PlaneLayout}
    (h : getPlaneLayouts gbmFormat = some layouts) :
    colorBytesPerPixel gbmFormat ≠ 0 ∧ layouts ≠ [] := by
  have hall : ∀ e ∈ planeLayoutsMap, colorBytesPerPixel e.1 ≠ 0 ∧ e.2 ≠ [] := by decide
  obtain ⟨e, he, rfl⟩ := Option.map_eq_some_iff.mp h
  have hformat : e.1 = gbmFormat := by simpa using List.find?_some he
  rw [← hformat]
  exact hall e (List.mem_of_find?_eq_some he)

/-! ## The first plane

  The stride that a reader gets, in a state, and then after any calls. -/

/-- The mapper reports planes for the buffer of `c`, the first of them with the stride `bytes`. -/
def FirstPlaneStride (env : Env) (m : Mapper) (c : NativeHandle) (bytes : UInt32) : Prop :=
  ∃ pl pls, (m.getStandardMetadata env (some c) .planeLayouts).1.2 = some (.planeLayouts (pl :: pls)) ∧
    pl.strideInBytes = bytes.toNat

section

variable {cfg : BuildConfig} {env : Env} {m : Mapper} {c : NativeHandle} {e : AndroidBuffer} {b : Bo}

/-- A read of the planes of a buffer whose object has the handle's format. -/
theorem firstPlaneStride_iff (hp : ProcInv m.proc)
    (hgbm : routedTo (grallocHandle c) = .mapperGrallocGbm)
    (he : findBufferK (grallocHandle c).primeFd m.proc.table = some e)
    (hb : m.proc.bos e.bo = some b) (hformat : b.format = colorFmtA2g (grallocHandle c).format)
    {layouts : List PlaneLayout} (hlayouts : getPlaneLayouts b.format = some layouts) :
    FirstPlaneStride env m c b.layout.stride ↔
      (colorBytesPerPixel b.format).toNat ∣ b.layout.stride.toNat ∧
        b.layout.stride.toNat < 2 ^ 31 := by
  obtain ⟨d, hd⟩ := hp.user_data e.bo b hb
  obtain ⟨hsize, hne⟩ := getPlaneLayouts_some hlayouts
  obtain ⟨pl, pls, rfl⟩ := List.exists_cons_of_ne_nil hne
  obtain ⟨fd, hread⟩ := getStandardMetadata_value env .planeLayouts rfl hp hgbm he hb hd
  have hstride : grallocGbmCalculateAndroidPixelStride (grallocHandle c).format b.layout.stride
      = some (b.layout.stride / (colorBytesPerPixel b.format).toUInt32).toInt32 := by
    unfold grallocGbmCalculateAndroidPixelStride
    rw [← hformat]
    have hpos : ¬ b.format ≤ 0 := hformat ▸ colorFmtA2g_pos _
    simp only [if_neg hpos, if_neg hsize]
  rw [hstride] at hread
  simp only [Option.bind_some, gbmMetadataValue, bufferInfo, hlayouts, Provided.encoded,
    List.map_cons] at hread
  rw [← int32_div_mul_eq_iff, FirstPlaneStride, hread]
  constructor
  · rintro ⟨pl', pls', heq, hpl⟩
    cases heq
    exact hpl
  · intro hpl
    exact ⟨_, _, rfl, hpl⟩

end

/-- The mapper after the calls `before`, an import of `h`, and the calls `later`. -/
def usedMapper (cfg : BuildConfig) (env : Env) (before : List MapperOp) (h : NativeHandle)
    (later : List MapperOp) : Mapper :=
  mapperRun cfg env (before ++ .buffer (.importBuffer (some h)) :: later)

/-- The object found for the handle is the one that the import made, and has the handle's format. -/
theorem usedMapper_object {cfg : BuildConfig} {env : Env} {before later : List MapperOp}
    {h c : NativeHandle} {e : AndroidBuffer} {b : Bo}
    (himport : ((mapperRun cfg env before).importBuffer cfg env (some h)).1 = (.none, some c))
    (hgbm : routedTo (grallocHandle h) = .mapperGrallocGbm)
    (hkept : ∀ op ∈ later, ∀ h', op = .buffer (.freeBuffer (some h')) →
      (grallocHandle h').primeFd ≠ (grallocHandle c).primeFd)
    (he : findBufferK (grallocHandle c).primeFd (usedMapper cfg env before h later).proc.table
      = some e)
    (hb : (usedMapper cfg env before h later).proc.bos e.bo = some b) :
    ProcInv (usedMapper cfg env before h later).proc ∧
      b.format = colorFmtA2g (grallocHandle c).format := by
  have hp := mapperRun_inv cfg env before
  have hopen := mapperRun_recordsOpen cfg env before
  obtain ⟨-, hstored⟩ := Mapper.importBuffer_stored hp hopen himport
  rw [hgbm] at hstored
  obtain ⟨layout, -, e', a, he', hb'⟩ := hstored
  have hused : usedMapper cfg env before h later = later.foldl (mapperStep cfg env)
      (mapperStep cfg env (mapperRun cfg env before) (.buffer (.importBuffer (some h)))) := by
    rw [usedMapper, mapperRun, List.foldl_append, List.foldl_cons]
    rfl
  obtain ⟨hp', he'', data, hb''⟩ := mapperRun_object_lasts cfg env
    (mapperStep_inv cfg env (.buffer (.importBuffer (some h))) hp)
    (mapperStep_recordsOpen cfg env (.buffer (.importBuffer (some h))) hp hopen) hkept he' hb'
  rw [← hused] at hp' he'' hb''
  have hentry : some e = some e' := he.symm.trans he''
  cases hentry
  rw [hb] at hb''
  cases hb''
  exact ⟨hp', rfl⟩

/-- **When the first plane has the stride of the object.**  A handle is imported into the GBM
    backend after any calls, and any calls follow that do not free the buffer; its format has a
    plane layout.  The stride reported for the first plane is the byte stride that gbm reports for
    the object exactly if that is a whole number of pixels and fits an `int`. -/
theorem planeStride_exact_iff (cfg : BuildConfig) (env : Env) (before later : List MapperOp)
    (h c : NativeHandle) (e : AndroidBuffer) (b : Bo) (layouts : List PlaneLayout)
    (himport : ((mapperRun cfg env before).importBuffer cfg env (some h)).1 = (.none, some c))
    (hgbm : routedTo (grallocHandle h) = .mapperGrallocGbm)
    (hroute : routedTo (grallocHandle c) = .mapperGrallocGbm)
    (hkept : ∀ op ∈ later, ∀ h', op = .buffer (.freeBuffer (some h')) →
      (grallocHandle h').primeFd ≠ (grallocHandle c).primeFd)
    (he : findBufferK (grallocHandle c).primeFd (usedMapper cfg env before h later).proc.table
      = some e)
    (hb : (usedMapper cfg env before h later).proc.bos e.bo = some b)
    (hlayouts : getPlaneLayouts (colorFmtA2g (grallocHandle c).format) = some layouts) :
    FirstPlaneStride env (usedMapper cfg env before h later) c b.layout.stride ↔
      (colorBytesPerPixel (colorFmtA2g (grallocHandle c).format)).toNat ∣ b.layout.stride.toNat ∧
        b.layout.stride.toNat < 2 ^ 31 := by
  obtain ⟨hp, hformat⟩ := usedMapper_object himport hgbm hkept he hb
  rw [← hformat] at hlayouts ⊢
  exact firstPlaneStride_iff hp hroute he hb hformat hlayouts

/-- The handle of a 64x64 buffer of `format` for CPU access, `stride` bytes a row. -/
def formatHandle (format stride : UInt32) : NativeHandle :=
  (((⟨0, 1, 12, fun _ => 0⟩ : NativeHandle).describe 64 64 format 0x33).setStride stride).setPrimeFd 5

/-- What the import of a handle hands out in a plain environment. -/
def cloneOf (h : NativeHandle) : NativeHandle :=
  ((Mapper.start.importBuffer .androidBp .plain (some h)).1.2).getD h

/-- 16-bit pixels and rows of 256 bytes. -/
theorem rgb565_planeStride_exact :
    FirstPlaneStride .plain
      (usedMapper .androidBp .plain [] (formatHandle halPixelFormatRgb565 256) [])
      (cloneOf (formatHandle halPixelFormatRgb565 256)) 256 :=
  (planeStride_exact_iff .androidBp .plain [] [] (formatHandle halPixelFormatRgb565 256)
    (cloneOf (formatHandle halPixelFormatRgb565 256)) ⟨8, 4, 4⟩ _ _ rfl rfl rfl
    (fun _ hop => absurd hop List.not_mem_nil) rfl rfl rfl).mpr (by decide)

/-- 24-bit pixels and rows of 256 bytes: the reader is told 255. -/
theorem rgb888_planeStride_short :
    let m := usedMapper .androidBp .plain [] (formatHandle halPixelFormatRgb888 256) []
    let c := cloneOf (formatHandle halPixelFormatRgb888 256)
    (∃ e b, findBufferK (grallocHandle c).primeFd m.proc.table = some e ∧
      m.proc.bos e.bo = some b ∧ b.layout.stride = 256) ∧
      (∃ pl, (m.getStandardMetadata .plain (some c) .planeLayouts).1.2 = some (.planeLayouts [pl]) ∧
        pl.strideInBytes = 255) ∧
      ¬ FirstPlaneStride .plain m c 256 := by
  refine ⟨⟨_, _, rfl, rfl, rfl⟩, ⟨_, rfl, rfl⟩, ?_⟩
  rintro ⟨pl, pls, hread, hpl⟩
  cases hread
  revert hpl
  decide

end GrallocGbm
