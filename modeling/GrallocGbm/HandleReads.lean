/-
  Which words of a native handle does an import read, and is that checked?

  `gralloc_handle()` is a cast: a field is a word at a fixed position, whether the handle has that
  many words or not.  Here the functions an import runs are written once more, every read of a word
  being a step of its own; `importBuffer_value` says that they compute what the model of the mapper
  does, so that their reads are its reads.  A clone has as many words as the handle it is made of,
  so the reads of both are counted together.

  (Log messages read fields that have been read before them; they are left out.)

  The only checks are those of `is_native_handle_valid`, a handle and a descriptor in it, and those
  that `native_handle_clone` makes: of the counts, and, through `dup`, of the descriptors, which
  have to be open and so cannot be negative.  Neither magic nor version is ever looked at, nor
  are the counts compared with the fields.

  1. **The functions** — each under its own name in `HandleReads`, from `selectBackend` to the
     imports of the backends.  Each has a `_value`, that it is the function of the model, and a
     `_within`, which words it reads: `selectBackend` the format and the height, the clone the
     handle's own words, the GBM import the first eleven words and the DMA-BUF import the first
     eight.

  2. **Validation** — `HandleValidated` is what an import owes a handle: to accept it only in the
     shape of a gralloc handle, and to refuse every other without a read past its words.  It holds
     of the handles of that shape, of those without descriptors, and of those that cannot be cloned,
     if they are long enough for the two fields read before (`handles_validated_iff`).

  That every other handle is accepted somewhere is shown in the environment in which everything that
  can succeed does; there all descriptors that are not negative are open.
-/
import GrallocGbm.Lib.Traced
import GrallocGbm.MapperState

namespace GrallocGbm

open Align

namespace HandleReads

/-! ## The functions, read by read

  The functions of the import path that look at the words of the handle, each read being a step
  of its own.  They are the ones of the model otherwise, down to the order of the tests. -/

/-- `gralloc_handle(handle)->field`, the field being word `i`. -/
def word (handle : NativeHandle) (i : Nat) : Traced Nat UInt32 := Traced.read handle.word i

/-- `GrallocGenericMapperV5::selectBackend`. -/
def selectBackend (buffer : NativeHandle) (m : Mapper) : Traced Nat Mapper := do
  let format ← word buffer 5
  if format = halPixelFormatBlob then
    let height ← word buffer 4
    if height = 1 then pure { m with mBackend := some .mapperGrallocDmabuf }
    else pure { m with mBackend := some .mapperGrallocGbm }
  else pure { m with mBackend := some .mapperGrallocGbm }

/-- The descriptors of `native_handle_clone`, at the positions given. -/
def dupAll (env : Env) (h : NativeHandle) : List Nat → Proc → Traced Nat (Option (List Int) × Proc)
  | [], p => pure (some [], p)
  | i :: is, p => do
    let fd ← Traced.read h.data i
    match dupFd env fd p with
    | (none, p) => pure (none, p)
    | (some d, p) =>
      let rest ← dupAll env h is p
      match rest with
      | (none, p) => pure (none, closeFd d p)
      | (some ds, p) => pure (some (d :: ds), p)

/-- `native_handle_clone`. -/
def nativeHandleClone (env : Env) (h : NativeHandle) (p : Proc) :
    Traced Nat (Option NativeHandle × Proc) :=
  match nativeHandleCreate env h.numFds h.numInts p with
  | (none, p) => pure (none, p)
  | (some c, p) => do
    let dups ← dupAll env h (List.range h.numFds.toNat) p
    match dups with
    | (none, p) => pure (none, nativeHandleDelete c p)
    | (some ds, p) =>
      let ints ← Traced.readAll h.data (List.range' h.numFds.toNat h.numInts.toNat)
      let data := fun i =>
        if i < ds.length then ds.getD i 0
        else if i < (h.numFds + h.numInts).toNat then ints.getD (i - ds.length) 0
        else c.data i
      pure (some { c with data := data }, p)

/-- `native_handle_close`. -/
def nativeHandleClose (h : NativeHandle) (p : Proc) : Traced Nat Proc := do
  let fds ← Traced.readAll h.data (List.range h.numFds.toNat)
  pure { p with fds := p.fds \ fds.toFinset }

/-- The size `gralloc_gbm_android_buffer_import` passes on: adjusted for YV12, -/
def yv12Size (h : NativeHandle) : Traced Nat (UInt32 × UInt32) := do
  let width ← word h 3
  let height ← word h 4
  let format ← word h 5
  if format = halPixelFormatYv12 then
    let width ← word h 3
    let height ← word h 4
    pure (alignUp width 32 / 2, height + alignUp height 2 / 2)
  else pure (width, height)

/-- and then replaced for a cursor. -/
def cursorSize (cfg : BuildConfig) (h : NativeHandle) (flags : UInt32) (size : UInt32 × UInt32) :
    Traced Nat (UInt32 × UInt32) :=
  if flags &&& gbmBoUseCursor ≠ 0 then do
    let width ← word h 3
    let height ← word h 4
    pure (cursorExtent cfg width, cursorExtent cfg height)
  else pure size

/-- The arguments it computes for `gbm_bo_import`. -/
def importArgs (cfg : BuildConfig) (h : NativeHandle) (gbmFormat : UInt32) :
    Traced Nat (ImportFdModifierData × UInt32) := do
  let size ← yv12Size h
  let usage ← word h 6
  let flags := grallocGbmCalculateGbmFlags cfg usage gbmFormat
  let size ← cursorSize cfg h flags size
  let lo ← word h 9
  let hi ← word h 10
  let fd ← Traced.read h.data 0
  let stride ← word h 7
  let modifier := UInt64.ofNat (lo.toNat + hi.toNat * 2 ^ 32)
  pure ({ width := size.1, height := size.2, format := gbmFormat, numFds := 1, fd := fd
          stride := stride.toInt32, modifier := modifier }, flags)

/-- `gralloc_gbm_android_buffer_import`. -/
def grallocGbmAndroidBufferImport (cfg : BuildConfig) (env : Env) (handle : NativeHandle)
    (p : Proc) : Traced Nat (Int × Proc) :=
  if !isGrallocGbmReady p then pure (-eNODEV, p)
  else match callocChecked env p with
    | (none, p) => pure (-eNOMEM, p)
    | (some _, p) => do
      let format ← word handle 5
      if colorFmtA2g format ≤ 0 then pure (-eINVAL, p)
      else
        let args ← importArgs cfg handle (colorFmtA2g format)
        match gbmBoImport env args.1 args.2 p with
        | (none, p) => pure (-eINVAL, p)
        | (some bo, p) =>
          let (_, p) := grallocGbmBoUserDataInit bo p
          let (a, p) := malloc p
          let fd ← Traced.read handle.data 0
          pure (0, addBuffer ⟨a, fd, bo⟩ p)

/-- `buffer_info_create`. -/
def bufferInfoCreate (addr : Nat) (handle : NativeHandle) : Traced Nat DmaBufferInfo := do
  let fd ← Traced.read handle.data 0
  let width ← word handle 3
  let height ← word handle 4
  let format ← word handle 5
  let usage ← word handle 6
  let stride ← word handle 7
  pure { addr := addr
         primeFd := fd
         bufferId := handle.addr
         width := width.toInt32
         height := height.toInt32
         format := format.toInt32
         usage := usage
         stride := stride
         size := (width.toInt32 * height.toInt32).toInt64.toUInt64
         mapped := none
         isProtected := usage &&& grallocUsageProtected != 0 }

/-- `MapperBackendDmaBuf::importBuffer`. -/
def dmaBufImportBuffer (handle : NativeHandle) (p : Proc) : Traced Nat (Int × Proc) := do
  let (a, p) := malloc p
  let bi ← bufferInfoCreate a handle
  match findBufferInfo bi.primeFd p with
  | some _ => pure (0, p)
  | none => pure (0, { p with importedBufferTable := bi :: p.importedBufferTable })

/-- The import into a backend. -/
def backendImportBuffer (cfg : BuildConfig) (env : Env) (c : NativeHandle) (p : Proc) :
    MapperBackendType → Traced Nat (Int × Proc)
  | .mapperGrallocGbm => grallocGbmAndroidBufferImport cfg env c p
  | .mapperGrallocDmabuf => dmaBufImportBuffer c p

/-- The rest of `importBuffer` once the backend is ready. -/
def importClone (cfg : BuildConfig) (env : Env) (handle : NativeHandle)
    (backend : MapperBackendType) (p : Proc) :
    Traced Nat ((AIMapperError × Option NativeHandle) × Proc) := do
  let clone ← nativeHandleClone env handle p
  match clone with
  | (none, p) => pure ((.noResources, none), p)
  | (some c, p) =>
    let r ← backendImportBuffer cfg env c p backend
    if r.1 ≠ 0 then
      let p ← nativeHandleClose c r.2
      pure ((.noResources, none), nativeHandleDelete c p)
    else pure ((.none, some c), r.2)

/-- `GrallocGenericMapperV5::importBuffer`, of a handle that is not null. -/
def importBuffer (cfg : BuildConfig) (env : Env) (handle : NativeHandle) (m : Mapper) :
    Traced Nat ((AIMapperError × Option NativeHandle) × Mapper) :=
  if handle.numFds = 0 then pure ((.badBuffer, none), m)
  else do
    let m ← selectBackend handle m
    match m.checkBackend env with
    | (none, m) => pure ((.noResources, none), m)
    | (some backend, m) =>
      let r ← importClone cfg env handle backend m.proc
      pure (r.1, { m with proc := r.2 })

/-! ## They compute what the model does

  One lemma for each function, by unfolding both; the reads fall away under `value`. -/

section

variable {cfg : BuildConfig} {env : Env}

/-- The backend, from two fields. -/
theorem selectBackend_value (buffer : NativeHandle) (m : Mapper) :
    (selectBackend buffer m).value = m.selectBackend buffer := by
  show (selectBackend buffer m).value = { m with mBackend := some (routedTo (grallocHandle buffer)) }
  unfold selectBackend routedTo
  show (ite (buffer.word 5 = _) _ _ : Traced Nat Mapper).value = { m with
    mBackend := some (if buffer.word 5 = _ ∧ buffer.word 4 = 1 then _ else _) }
  by_cases hformat : buffer.word 5 = halPixelFormatBlob
  · rw [if_pos hformat]
    show (ite (buffer.word 4 = 1) _ _ : Traced Nat Mapper).value = _
    by_cases hheight : buffer.word 4 = 1
    · rw [if_pos hheight, if_pos ⟨hformat, hheight⟩]
      rfl
    · rw [if_neg hheight, if_neg fun h => hheight h.2]
      rfl
  · rw [if_neg hformat, if_neg fun h => hformat h.1]
    rfl

/-- Duplicates of the words at some positions. -/
theorem dupAll_value (h : NativeHandle) (is : List Nat) (p : Proc) :
    (dupAll env h is p).value = GrallocGbm.dupAll env (is.map h.data) p := by
  induction is generalizing p with
  | nil => rfl
  | cons i is ih =>
    unfold dupAll
    rw [List.map_cons, GrallocGbm.dupAll]
    simp only [Traced.value_bind, Traced.value_read]
    cases hdup : dupFd env (h.data i) p with
    | mk fd q =>
      cases fd with
      | none => rfl
      | some d =>
        simp only [Traced.value_bind, ih]
        cases GrallocGbm.dupAll env (is.map h.data) q with
        | mk ds q =>
          cases ds with
          | none => rfl
          | some ds => rfl

/-- The clone. -/
theorem nativeHandleClone_value (h : NativeHandle) (p : Proc) :
    (nativeHandleClone env h p).value = GrallocGbm.nativeHandleClone env h p := by
  unfold nativeHandleClone GrallocGbm.nativeHandleClone
  cases hcreate : nativeHandleCreate env h.numFds h.numInts p with
  | mk c q =>
    cases c with
    | none => rfl
    | some c =>
      simp only [Traced.value_bind, dupAll_value]
      rw [show (List.range h.numFds.toNat).map h.data = h.fds from rfl]
      rcases dupAll_spec env h.fds q with ⟨ds, cs, hdup, hlen, -⟩ | ⟨cs, hdup⟩
      swap
      · rw [hdup]
        rfl
      rw [hdup]
      have hlen' : ds.length = h.numFds.toNat := by simpa [NativeHandle.fds] using hlen
      -- what is copied behind the duplicates is what the handle has there
      have hdata : ∀ i, ¬ i < ds.length → i < (h.numFds + h.numInts).toNat →
          ((List.range' h.numFds.toNat h.numInts.toNat).map h.data).getD (i - ds.length) 0
            = h.data i := by
        intro i hlo hhi
        rw [List.getD_eq_getElem _ _ (by rw [List.length_map, List.length_range']; omega),
          List.getElem_map, List.getElem_range']
        congr 1
        omega
      show (some _, _) = (some _, _)
      congr 3
      funext i
      show ite _ _ _ = ite _ _ _
      by_cases hlo : i < ds.length
      · rw [if_pos hlo, if_pos hlo]
      · rw [if_neg hlo, if_neg hlo]
        show ite _ _ _ = ite _ _ _
        by_cases hhi : i < (h.numFds + h.numInts).toNat
        · rw [if_pos hhi, if_pos hhi]
          exact hdata i hlo hhi
        · rw [if_neg hhi, if_neg hhi]

/-- The YV12 block of the import. -/
theorem yv12Size_value (h : NativeHandle) : (yv12Size h).value
    = if h.word 5 = halPixelFormatYv12 then
        (alignUp (h.word 3) 32 / 2, h.word 4 + alignUp (h.word 4) 2 / 2)
      else (h.word 3, h.word 4) :=
  Traced.value_ite (h.word 5 = halPixelFormatYv12) _ _

/-- Its cursor block. -/
theorem cursorSize_value (cfg : BuildConfig) (h : NativeHandle) (flags : UInt32)
    (size : UInt32 × UInt32) : (cursorSize cfg h flags size).value
      = if flags &&& gbmBoUseCursor ≠ 0 then
          (cursorExtent cfg (h.word 3), cursorExtent cfg (h.word 4))
        else size :=
  Traced.value_ite (flags &&& gbmBoUseCursor ≠ 0) _ _

/-- The arguments it passes to gbm. -/
theorem importArgs_value (cfg : BuildConfig) (h : NativeHandle) :
    (importArgs cfg h (colorFmtA2g (h.word 5))).value
      = GrallocGbm.importArgs cfg (grallocHandle h) := by
  simp only [importArgs, Traced.value_bind, yv12Size_value, cursorSize_value, Traced.value_pure]
  rfl

/-- The import of the library. -/
theorem grallocGbmAndroidBufferImport_value (handle : NativeHandle) (p : Proc) :
    (grallocGbmAndroidBufferImport cfg env handle p).value
      = GrallocGbm.grallocGbmAndroidBufferImport cfg env handle p := by
  unfold grallocGbmAndroidBufferImport GrallocGbm.grallocGbmAndroidBufferImport
  cases hready : isGrallocGbmReady p with
  | false => rfl
  | true =>
    cases halloc : callocChecked env p with
    | mk a q =>
      cases a with
      | none => rfl
      | some a =>
        have hfmt : ¬ colorFmtA2g (handle.word 5) ≤ 0 := colorFmtA2g_pos _
        simp only [Bool.not_true, Bool.false_eq_true, if_false]
        rw [Traced.value_bind]
        refine Eq.trans (congrArg Traced.value (if_neg hfmt)) (Eq.trans ?_ (if_neg hfmt).symm)
        have hargs := importArgs_value cfg handle
        simp only [Traced.value_bind, word, Traced.value_read, hargs]
        cases himport : gbmBoImport env (GrallocGbm.importArgs cfg (grallocHandle handle)).1
            (GrallocGbm.importArgs cfg (grallocHandle handle)).2 q with
        | mk bo q =>
          cases bo with
          | none => rfl
          | some bo => rfl

/-- The import of either backend. -/
theorem backendImportBuffer_value (c : NativeHandle) (p : Proc) (backend : MapperBackendType) :
    (backendImportBuffer cfg env c p backend).value = match backend with
      | .mapperGrallocGbm => GrallocGbm.grallocGbmAndroidBufferImport cfg env c p
      | .mapperGrallocDmabuf => MapperBackendDmaBuf.importBuffer c p := by
  cases backend with
  | mapperGrallocGbm => exact grallocGbmAndroidBufferImport_value c p
  | mapperGrallocDmabuf =>
    show (dmaBufImportBuffer c p).value = MapperBackendDmaBuf.importBuffer c p
    unfold dmaBufImportBuffer MapperBackendDmaBuf.importBuffer
    show (match findBufferInfo (grallocHandle c).primeFd (malloc p).2 with
      | some _ => _
      | none => _ : Traced Nat (Int × Proc)).value
        = match findBufferInfo (grallocHandle c).primeFd (malloc p).2 with
      | some _ => _
      | none => _
    cases findBufferInfo (grallocHandle c).primeFd (malloc p).2 with
    | none => rfl
    | some bi => rfl

/-- The clone with its import. -/
theorem importClone_value (handle : NativeHandle) (backend : MapperBackendType) (p : Proc) :
    (importClone cfg env handle backend p).value
      = GrallocGbm.importClone cfg env handle backend p := by
  unfold importClone GrallocGbm.importClone
  simp only [Traced.value_bind, nativeHandleClone_value]
  cases GrallocGbm.nativeHandleClone env handle p with
  | mk c q =>
    cases c with
    | none => rfl
    | some c =>
      dsimp only
      rw [Traced.value_bind, Traced.value_ite, backendImportBuffer_value]
      rfl

/-- **The traced import is the import.** -/
theorem importBuffer_value (handle : NativeHandle) (m : Mapper) :
    (importBuffer cfg env handle m).value = m.importBuffer cfg env (some handle) := by
  unfold importBuffer Mapper.importBuffer
  by_cases h0 : handle.numFds = 0
  · rw [if_pos h0]
    exact (if_pos h0).symm
  · rw [if_neg h0]
    refine Eq.trans ?_ (if_neg h0).symm
    simp only [Traced.value_bind, selectBackend_value, Mapper.withBackend]
    cases (m.selectBackend handle).checkBackend env with
    | mk backend m =>
      cases backend with
      | none => rfl
      | some backend =>
        simp only [Traced.value_bind, importClone_value]
        rfl

/-! ## What they read

  `Within P` is computed along the same functions: which words are read, by what the handle says
  of itself. -/

variable {P : Nat → Prop}

/-- Reading a field is reading a word. -/
@[simp] theorem within_word {h : NativeHandle} {i : Nat} : (word h i).Within P ↔ P i :=
  Traced.within_read

/-- The format and the height, words 5 and 4. -/
theorem selectBackend_within {buffer : NativeHandle} {m : Mapper} (h5 : P 5) (h4 : P 4) :
    (selectBackend buffer m).Within P := by
  unfold selectBackend
  rw [Traced.within_bind]
  refine ⟨within_word.mpr h5, ?_⟩
  split
  · rw [Traced.within_bind]
    refine ⟨within_word.mpr h4, ?_⟩
    split <;> exact Traced.within_pure _
  · exact Traced.within_pure _

/-- The words at the positions given. -/
theorem dupAll_within {h : NativeHandle} {is : List Nat} (his : ∀ i ∈ is, P i) (p : Proc) :
    (dupAll env h is p).Within P := by
  induction is generalizing p with
  | nil => exact Traced.within_pure _
  | cons i is ih =>
    unfold dupAll
    rw [Traced.within_bind]
    refine ⟨Traced.within_read.mpr (his i List.mem_cons_self), ?_⟩
    split
    · exact Traced.within_pure _
    · rw [Traced.within_bind]
      refine ⟨ih (fun j hj => his j (List.mem_cons_of_mem _ hj)) _, ?_⟩
      split <;> exact Traced.within_pure _

/-- Word `i` is one of the handle's own. -/
def InHandle (h : NativeHandle) (i : Nat) : Prop := (i : Int) < h.numFds + h.numInts

/-- The words of a handle are the first ones. -/
theorem InHandle.of_le {h : NativeHandle} {i j : Nat} (hj : InHandle h j) (hle : i ≤ j) :
    InHandle h i := by
  have : (j : Int) < h.numFds + h.numInts := hj
  show (i : Int) < _
  omega

/-- The clone of a handle reads none but its words. -/
theorem nativeHandleClone_within (h : NativeHandle) (p : Proc) :
    (nativeHandleClone env h p).Within (InHandle h) := by
  unfold nativeHandleClone nativeHandleCreate
  by_cases hbad : h.numFds < 0 ∨ h.numInts < 0 ∨ 1024 < h.numFds ∨ 1024 < h.numInts
  · rw [if_pos hbad]
    exact Traced.within_pure _
  rw [if_neg hbad]
  have hfd : ∀ i ∈ List.range h.numFds.toNat, InHandle h i := by
    intro i hi
    have := List.mem_range.mp hi
    show (i : Int) < _
    omega
  split
  · exact Traced.within_pure _
  · rw [Traced.within_bind]
    refine ⟨dupAll_within hfd _, ?_⟩
    split
    · exact Traced.within_pure _
    · rw [Traced.within_bind, Traced.within_readAll]
      refine ⟨?_, Traced.within_pure _⟩
      intro i hi
      have := List.mem_range'_1.mp hi
      show (i : Int) < _
      omega

/-- Where every `dup` succeeds, every descriptor was open, and none negative. -/
theorem dupAll_nonneg {l ds : List Int} {p p' : Proc}
    (hdup : GrallocGbm.dupAll env l p = (some ds, p')) : ∀ fd ∈ l, 0 ≤ fd := by
  induction l generalizing p ds p' with
  | nil => exact List.forall_mem_nil _
  | cons fd l ih =>
    unfold GrallocGbm.dupAll at hdup
    rcases dupFd_cases env fd p with hno | ⟨d, hopen, -, hyes⟩
    · rw [hno] at hdup
      cases hdup
    rw [hyes] at hdup
    refine List.forall_mem_cons.mpr ⟨?_, ?_⟩
    · by_contra hneg
      rw [fdIsOpen_of_neg env p (not_le.mp hneg)] at hopen
      cases hopen
    · dsimp only at hdup
      cases hrest : GrallocGbm.dupAll env l
          { p with fds := insert d p.fds, calls := .dup fd (some d) :: p.calls } with
      | mk rest q =>
        cases rest with
        | none =>
          rw [hrest] at hdup
          cases hdup
        | some rest => exact ih hrest

/-- A clone has as many words as the handle. -/
theorem nativeHandleClone_counts {h c : NativeHandle} {p p' : Proc}
    (hclone : GrallocGbm.nativeHandleClone env h p = (some c, p')) :
    c.numFds = h.numFds ∧ c.numInts = h.numInts ∧ Clonable h := by
  unfold GrallocGbm.nativeHandleClone nativeHandleCreate at hclone
  by_cases hbad : h.numFds < 0 ∨ h.numInts < 0 ∨ 1024 < h.numFds ∨ 1024 < h.numInts
  · rw [if_pos hbad] at hclone
    cases hclone
  rw [if_neg hbad] at hclone
  cases halloc : callocChecked env p with
  | mk a q =>
    rw [halloc] at hclone
    cases a with
    | none => cases hclone
    | some a =>
      dsimp only at hclone
      split at hclone
      · cases hclone
      · rename_i ds q' hdup
        cases hclone
        exact ⟨rfl, rfl, by omega, dupAll_nonneg hdup⟩

/-- The adjustments read fields, -/
theorem yv12Size_within (h : ∀ i ≤ 10, P i) (handle : NativeHandle) :
    (yv12Size handle).Within P := by
  unfold yv12Size
  refine Traced.within_bind.mpr ⟨within_word.mpr (h 3 (by decide)), ?_⟩
  refine Traced.within_bind.mpr ⟨within_word.mpr (h 4 (by decide)), ?_⟩
  refine Traced.within_bind.mpr ⟨within_word.mpr (h 5 (by decide)), ?_⟩
  split
  · refine Traced.within_bind.mpr ⟨within_word.mpr (h 3 (by decide)), ?_⟩
    exact Traced.within_bind.mpr ⟨within_word.mpr (h 4 (by decide)), Traced.within_pure _⟩
  · exact Traced.within_pure _

/-- of which the last is word 10, -/
theorem cursorSize_within (h : ∀ i ≤ 10, P i) (handle : NativeHandle) (flags : UInt32)
    (size : UInt32 × UInt32) : (cursorSize cfg handle flags size).Within P := by
  unfold cursorSize
  split
  · refine Traced.within_bind.mpr ⟨within_word.mpr (h 3 (by decide)), ?_⟩
    exact Traced.within_bind.mpr ⟨within_word.mpr (h 4 (by decide)), Traced.within_pure _⟩
  · exact Traced.within_pure _

/-- and so do the arguments. -/
theorem importArgs_within (h : ∀ i ≤ 10, P i) (handle : NativeHandle) (gbmFormat : UInt32) :
    (importArgs cfg handle gbmFormat).Within P := by
  refine Traced.within_bind.mpr ⟨yv12Size_within h handle, ?_⟩
  refine Traced.within_bind.mpr ⟨within_word.mpr (h 6 (by decide)), ?_⟩
  refine Traced.within_bind.mpr ⟨cursorSize_within h handle _ _, ?_⟩
  refine Traced.within_bind.mpr ⟨within_word.mpr (h 9 (by decide)), ?_⟩
  refine Traced.within_bind.mpr ⟨within_word.mpr (h 10 (by decide)), ?_⟩
  refine Traced.within_bind.mpr ⟨Traced.within_read.mpr (h 0 (by decide)), ?_⟩
  exact Traced.within_bind.mpr ⟨within_word.mpr (h 7 (by decide)), Traced.within_pure _⟩

/-- The fields of the GBM backend are all among the first eleven words, -/
theorem grallocGbmAndroidBufferImport_within (h : ∀ i ≤ 10, P i) (handle : NativeHandle) (p : Proc) :
    (grallocGbmAndroidBufferImport cfg env handle p).Within P := by
  unfold grallocGbmAndroidBufferImport
  split
  · exact Traced.within_pure _
  split
  · exact Traced.within_pure _
  refine Traced.within_bind.mpr ⟨within_word.mpr (h 5 (by decide)), ?_⟩
  split
  · exact Traced.within_pure _
  refine Traced.within_bind.mpr ⟨importArgs_within h handle _, ?_⟩
  split
  · exact Traced.within_pure _
  exact Traced.within_bind.mpr ⟨Traced.within_read.mpr (h 0 (by decide)), Traced.within_pure _⟩

/-- and those of the DMA-BUF backend among the first eight. -/
theorem dmaBufImportBuffer_within (h : ∀ i ≤ 7, P i) (handle : NativeHandle) (p : Proc) :
    (dmaBufImportBuffer handle p).Within P := by
  have hword : ∀ i ≤ 7, (word handle i).Within P := fun i hi => within_word.mpr (h i hi)
  have hinfo : ∀ a, (bufferInfoCreate a handle).Within P := by
    intro a
    refine Traced.within_bind.mpr ⟨Traced.within_read.mpr (h 0 (by decide)), ?_⟩
    refine Traced.within_bind.mpr ⟨hword 3 (by decide), ?_⟩
    refine Traced.within_bind.mpr ⟨hword 4 (by decide), ?_⟩
    refine Traced.within_bind.mpr ⟨hword 5 (by decide), ?_⟩
    refine Traced.within_bind.mpr ⟨hword 6 (by decide), ?_⟩
    exact Traced.within_bind.mpr ⟨hword 7 (by decide), Traced.within_pure _⟩
  refine Traced.within_bind.mpr ⟨hinfo _, ?_⟩
  split <;> exact Traced.within_pure _

/-- The reads of the clone are counted with those of the handle. -/
theorem importClone_within {h : NativeHandle} (hwords : InHandle h 10) (backend : MapperBackendType)
    (p : Proc) : (importClone cfg env h backend p).Within (InHandle h) := by
  refine Traced.within_bind.mpr ⟨nativeHandleClone_within h p, ?_⟩
  rw [nativeHandleClone_value]
  split
  · exact Traced.within_pure _
  rename_i c q hclone
  obtain ⟨hfds, -, ⟨-, hints, -⟩, -⟩ := nativeHandleClone_counts hclone
  refine Traced.within_bind.mpr ⟨?_, ?_⟩
  · cases backend with
    | mapperGrallocGbm =>
      exact grallocGbmAndroidBufferImport_within (fun i hi => hwords.of_le hi) c q
    | mapperGrallocDmabuf =>
      exact dmaBufImportBuffer_within (fun i hi => hwords.of_le (by omega)) c q
  · split
    · refine Traced.within_bind.mpr ⟨?_, Traced.within_pure _⟩
      refine Traced.within_bind.mpr ⟨?_, Traced.within_pure _⟩
      intro i hi
      have := List.mem_range.mp hi
      show (i : Int) < _
      omega
    · exact Traced.within_pure _

/-- An import of a handle with more than ten words reads no others. -/
theorem importBuffer_within {h : NativeHandle} (hwords : InHandle h 10) (m : Mapper) :
    (importBuffer cfg env h m).Within (InHandle h) := by
  unfold importBuffer
  split
  · exact Traced.within_pure _
  refine Traced.within_bind.mpr ⟨?_, ?_⟩
  · exact selectBackend_within (hwords.of_le (by omega)) (hwords.of_le (by omega))
  split
  · exact Traced.within_pure _
  · exact Traced.within_bind.mpr ⟨importClone_within hwords _ _, Traced.within_pure _⟩

/-- The format is read of every handle that has a descriptor, -/
theorem importBuffer_reads_format {h : NativeHandle} (h0 : h.numFds ≠ 0) (m : Mapper) :
    5 ∈ (importBuffer cfg env h m).reads := by
  unfold importBuffer
  rw [if_neg h0]
  exact List.mem_append_left _ List.mem_cons_self

/-- and one that cannot be cloned is read no further than its backend and its clone need. -/
theorem importBuffer_within_of_not_clonable {h : NativeHandle} (hc : ¬ Clonable h)
    (h5 : InHandle h 5) (m : Mapper) : (importBuffer cfg env h m).Within (InHandle h) := by
  unfold importBuffer
  split
  · exact Traced.within_pure _
  refine Traced.within_bind.mpr ⟨selectBackend_within h5 (h5.of_le (by omega)), ?_⟩
  split
  · exact Traced.within_pure _
  rename_i backend m' _
  have hclone : (importClone cfg env h backend m'.proc).Within (InHandle h) := by
    refine Traced.within_bind.mpr ⟨nativeHandleClone_within h _, ?_⟩
    rw [nativeHandleClone_value]
    split
    · exact Traced.within_pure _
    · rename_i c q hclone
      exact absurd (nativeHandleClone_counts hclone).2.2 hc
  exact Traced.within_bind.mpr ⟨hclone, Traced.within_pure _⟩

end

end HandleReads

/-! ## Validation

  A handle may have any numbers in its header.  What is accepted without a look at the counts is
  read past its end, unless the words that are read happen to be there. -/

open HandleReads

/-- What the import owes a handle: it accepts it only in the shape of a gralloc handle, and refuses
    every other without a read past its words. -/
def HandleValidated (cfg : BuildConfig) (env : Env) (m : Mapper) (h : NativeHandle) : Prop :=
  let r := importBuffer cfg env h m
  (r.value.1.1 = .none → GrallocShaped h) ∧
    (¬ GrallocShaped h → r.value.1.1 ≠ .none ∧ r.Within (InHandle h))

variable {cfg : BuildConfig} {env : Env} {m : Mapper} {h : NativeHandle}

/-- A gralloc handle has all the words that are read of it. -/
theorem GrallocShaped.within (hshaped : GrallocShaped h) (m : Mapper) :
    (importBuffer cfg env h m).Within (InHandle h) := by
  obtain ⟨hfds, hints, -⟩ := hshaped
  apply importBuffer_within
  show (10 : Int) < h.numFds + h.numInts
  rw [hfds, hints]
  decide

/-- A handle that is refused within its words is validated. -/
theorem handleValidated_of_refused
    (hstatus : (m.importBuffer cfg env (some h)).1.1 ≠ .none)
    (hreads : (importBuffer cfg env h m).Within (InHandle h)) : HandleValidated cfg env m h := by
  rw [← importBuffer_value] at hstatus
  exact ⟨fun hno => absurd hno hstatus, fun _ => ⟨hstatus, hreads⟩⟩

/-- A handle that cannot be cloned is refused. -/
theorem Mapper.importBuffer_of_not_clonable (hp : ProcInv m.proc) (hc : ¬ Clonable h) :
    (m.importBuffer cfg env (some h)).1.1 ≠ .none := by
  rcases Mapper.importBuffer_cases cfg env h hp with ⟨-, hr⟩ | ⟨-, -, hr, -⟩ | ⟨htaken, -⟩
  · rw [hr]
    exact nofun
  · rw [hr]
    exact nofun
  · obtain ⟨-, -, c, p', hclone, -⟩ := htaken
    exact absurd (nativeHandleClone_counts hclone).2.2 hc

/-- **Which handles are validated**, in every process and after any calls: those of the right shape,
    those without a descriptor, and those that cannot be cloned, if they are long enough for the
    fields read before that is found out.  All others are accepted somewhere.  And a handle of the
    right shape is not read past its words either. -/
theorem handles_validated_iff (cfg : BuildConfig) (h : NativeHandle) :
    ((∀ env ops, HandleValidated cfg env (mapperRun cfg env ops) h) ↔
      GrallocShaped h ∨ h.numFds = 0 ∨ (¬ Clonable h ∧ InHandle h 5)) ∧
    (GrallocShaped h → ∀ env m, (importBuffer cfg env h m).Within (InHandle h)) := by
  refine ⟨⟨?_, ?_⟩, fun hshaped env m => hshaped.within m⟩
  · intro hall
    by_cases hshaped : GrallocShaped h
    · exact .inl hshaped
    by_cases h0 : h.numFds = 0
    · exact .inr (.inl h0)
    obtain ⟨hstatus, hreads⟩ := (hall .plain []).2 hshaped
    refine .inr (.inr ⟨?_, hreads 5 (importBuffer_reads_format h0 _)⟩)
    intro hc
    obtain ⟨c, hr⟩ := Mapper.importBuffer_plain cfg h0 hc
    rw [importBuffer_value] at hstatus
    exact hstatus (congrArg Prod.fst hr)
  · rintro (hshaped | h0 | ⟨hc, h5⟩) env ops
    · exact ⟨fun _ => hshaped, fun hno => absurd hshaped hno⟩
    · apply handleValidated_of_refused
      · have hr : (mapperRun cfg env ops).importBuffer cfg env (some h)
            = ((.badBuffer, none), mapperRun cfg env ops) := if_pos h0
        rw [hr]
        exact nofun
      · unfold importBuffer
        rw [if_pos h0]
        exact Traced.within_pure _
    · apply handleValidated_of_refused
      · exact Mapper.importBuffer_of_not_clonable (mapperRun_inv cfg env ops) hc
      · exact importBuffer_within_of_not_clonable hc h5 _

/-- A handle that is one descriptor, with zeros in the memory behind it. -/
def bareHandle : NativeHandle := ⟨0, 1, 0, fun _ => 0⟩

/-- It is accepted, its format being read out of that memory. -/
theorem bare_accepted :
    ¬ HandleValidated .androidBp .plain Mapper.start bareHandle ∧ ¬ GrallocShaped bareHandle ∧
    (Mapper.start.importBuffer .androidBp .plain (some bareHandle)).1.1 = .none ∧
    bareHandle.numFds + bareHandle.numInts = 1 ∧
    5 ∈ (importBuffer .androidBp .plain bareHandle Mapper.start).reads := by
  have hshape : ¬ GrallocShaped bareHandle := fun hshaped => absurd hshaped.2.1 (by decide)
  refine ⟨fun hval => hshape (hval.1 rfl), hshape, rfl, rfl, ?_⟩
  exact importBuffer_reads_format (by decide) _

end GrallocGbm
