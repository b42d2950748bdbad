/-
  Do the allocator and the mapper agree on who owns a buffer?

  The allocator picks a backend by probing `isSupported` with the descriptor, or takes the one left
  over from an earlier request.  The mapper, in another process, looks at the format and the height
  in the handle.  Both look for the same thing, a BLOB of height 1, and the GBM backend's size
  adjustments never make that height out of another one; so they agree on everything that is
  selectable, and disagree on every buffer that a left-over DMA-BUF backend allocates for a
  descriptor it does not support (`mapper_owns_iff`).

  What connects the two processes is the handle, and it takes a way of four stations:

    the words that gralloc_handle_create writes        CreatedLayout, OneTwelve
    the list of handles of a batch                     newHandles_created, newHandles_made
    the duplicates in the result                       exportHandles_mem
    the handle the receiver makes from one of them     grallocHandle_makeFromAidl

  Duplicating changes the descriptors only, and the routing reads none of them
  (`routedTo_makeFromAidl`).

  Each backend has its own account of what it makes (`Made`): the GBM backend that of an adjusted
  size that gbm has accepted, the DMA-BUF backend the descriptor's own size.
-/
import GrallocGbm.Agreement
import GrallocGbm.Selection

namespace GrallocGbm

/-! ## Across the process boundary

  The words of a handle survive the way, its descriptors are replaced. -/

/-- The two 32-bit types hold the same bits. -/
theorem toUInt32_eq_iff {x : Int32} {y : UInt32} : x.toUInt32 = y ↔ x = y.toInt32 :=
  ⟨fun h => by rw [← h, Int32.toInt32_toUInt32], fun h => by rw [h]; rfl⟩

/-- A handle as the allocator makes them: one descriptor and twelve ints. -/
def OneTwelve (h : NativeHandle) : Prop :=
  h.numFds = grallocHandleNumFds ∧ h.numInts = grallocHandleNumInts

/-- There is one result for each descriptor. -/
theorem dupEach_length (env : Env) (l : List Int) (p : Proc) :
    (dupEach env l p).1.length = l.length := by
  induction l generalizing p with
  | nil => rfl
  | cons fd l ih =>
    have h1 := ih (dupFd env fd p).2
    simp only [dupEach, List.length_cons, h1]

/-- The client's handle has the descriptors that were sent. -/
theorem makeFromAidl_fds (addr : Nat) (memory : Nat → Int) (a : AidlNativeHandle) :
    (makeFromAidl addr memory a).fds = a.fds := by
  refine fds_of_data (by simp [makeFromAidl]) fun i hi => ?_
  show (a.fds ++ a.ints).getD i (memory i) = a.fds.getD i 0
  rw [List.getD_append _ _ _ _ hi, List.getD_eq_getElem _ _ hi, List.getD_eq_getElem _ _ hi]

/-- The ints of a handle arrive in the client as they were. -/
theorem makeFromAidl_word (env : Env) {h : NativeHandle} (hh : OneTwelve h) (p : Proc) (addr : Nat)
    (memory : Nat → Int) {i : Nat} (h1 : 1 ≤ i) (h12 : i ≤ 12) :
    (makeFromAidl addr memory (dupToAidl env h p).1).word i = h.word i := by
  obtain ⟨hfds, hints⟩ := hh
  have hlen : (dupEach env h.fds p).1.length = 1 := by
    rw [dupEach_length, NativeHandle.fds, hfds]
    rfl
  have hdata : (makeFromAidl addr memory (dupToAidl env h p).1).data i = h.data i := by
    simp only [makeFromAidl, dupToAidl]
    rw [List.getD_append_right _ _ _ _ (by omega), hlen, List.getD_eq_getElem _ _ (by
      rw [List.length_map, List.length_range, hints]
      simp only [grallocHandleNumInts]
      omega)]
    simp only [List.getElem_map, List.getElem_range, hfds, grallocHandleNumFds]
    congr 1
    omega
  rw [NativeHandle.word, hdata, NativeHandle.word]

/-- So the client sees the original's fields, but for the descriptor. -/
theorem grallocHandle_makeFromAidl (env : Env) {h : NativeHandle} (hh : OneTwelve h) (p : Proc)
    (addr : Nat) (memory : Nat → Int) :
    let h' := makeFromAidl addr memory (dupToAidl env h p).1
    OneTwelve h' ∧ grallocHandle h' = { grallocHandle h with primeFd := h'.data 0 } := by
  intro h'
  have hword : ∀ i, 1 ≤ i → i ≤ 12 → h'.word i = h.word i :=
    fun i h1 h12 => makeFromAidl_word env hh p addr memory h1 h12
  constructor
  · obtain ⟨hfds, hints⟩ := hh
    constructor
    · show ((dupEach env h.fds p).1.length : Int) = _
      rw [dupEach_length, NativeHandle.fds, hfds]
      rfl
    · show (((List.range h.numInts.toNat).map _).length : Int) = _
      rw [List.length_map, List.length_range, hints]
      rfl
  · simp only [grallocHandle, hword 1 (by omega) (by omega), hword 2 (by omega) (by omega),
      hword 3 (by omega) (by omega), hword 4 (by omega) (by omega), hword 5 (by omega) (by omega),
      hword 6 (by omega) (by omega), hword 7 (by omega) (by omega), hword 9 (by omega) (by omega),
      hword 10 (by omega) (by omega)]

/-- The mapper routes what it gets the way it would route the original. -/
theorem routedTo_makeFromAidl (env : Env) {h : NativeHandle} (hh : OneTwelve h) (p : Proc)
    (addr : Nat) (memory : Nat → Int) :
    routedTo (grallocHandle (makeFromAidl addr memory (dupToAidl env h p).1))
      = routedTo (grallocHandle h) := by
  rw [(grallocHandle_makeFromAidl env hh p addr memory).2]
  rfl

/-! ## What the GBM backend makes

  Its handles have the adjusted height, which is 1 only for a height of 1. -/

section

variable {cfg : BuildConfig} {env : Env}

namespace AllocatorBackendGrallocGbm

/-- What gbm reports for an object created for `desc`. -/
def CreatedLayout (cfg : BuildConfig) (env : Env) (desc : AllocatorDesc) (layout : BoLayout) : Prop :=
  ∃ n, env.boCreate n (newArgs cfg desc).width (newArgs cfg desc).height (newArgs cfg desc).format
    (newArgs cfg desc).flags = some layout

/-- A new buffer has the handle of its descriptor, with the adjusted size and the stride of its
    object. -/
theorem grallocGbmAndroidBufferNew_created {desc : AllocatorDesc} {p p' : Proc}
    {r : NativeHandle × UInt32} (h : grallocGbmAndroidBufferNew cfg env desc p = (.ok r, p')) :
    ∃ layout fd a, CreatedLayout cfg env desc layout ∧
      r = (createdHandle cfg env desc layout fd a, layout.stride) := by
  have hcases := grallocGbmAndroidBufferNew_cases cfg env desc p
  simp only [h] at hcases
  rcases hcases with ⟨rc, -, h⟩ | ⟨rc, -, -, h⟩ | ⟨rc, -, -, -, h⟩ |
    ⟨layout, fd, -, -, hlayout, -, ⟨rc, -, h⟩ | ⟨logFd, -, -, h⟩⟩
  · cases h
  · cases h
  · cases h
  · cases h
  · obtain ⟨h1, -⟩ := Prod.mk.inj h
    exact ⟨layout, fd.getD (-1), p.next, ⟨_, hlayout⟩, Ret.ok.inj h1⟩

/-- The handles of the first loop are those of before, and `n` that `gralloc_gbm_android_buffer_new`
    made; the pixel stride is the one of the last of these. -/
theorem newHandles_created {desc : AllocatorDesc} {n : Nat} {handles : List NativeHandle}
    {pixelStride : Int32} {p p' : Proc} {r : List NativeHandle × Int32}
    (heq : newHandles cfg env desc n handles pixelStride p = (.ok r, p')) :
    (∀ h ∈ r.1, h ∈ handles ∨
      ∃ layout fd a, CreatedLayout cfg env desc layout ∧ h = createdHandle cfg env desc layout fd a) ∧
    r.1.length = handles.length + n ∧
    (r = (handles, pixelStride) ∨ ∃ layout fd a, CreatedLayout cfg env desc layout ∧
      r.1.getLast? = some (createdHandle cfg env desc layout fd a) ∧
      grallocGbmCalculateAndroidPixelStride desc.format.toUInt32 layout.stride = some r.2) := by
  induction n generalizing handles pixelStride p with
  | zero =>
    obtain ⟨h1, -⟩ := Prod.mk.inj heq
    obtain rfl := Status.ok.inj h1
    exact ⟨fun h hh => .inl hh, rfl, .inl rfl⟩
  | succ n ih =>
    unfold newHandles at heq
    cases hb : grallocGbmAndroidBufferNew cfg env desc p with
    | mk ret p1 =>
      rw [hb] at heq
      cases ret with
      | crash => cases heq
      | err rc =>
        dsimp only at heq
        split at heq <;> cases heq
      | ok created =>
        obtain ⟨layout, fd, a, hlayout, rfl⟩ := grallocGbmAndroidBufferNew_created hb
        dsimp only at heq
        split at heq
        · cases heq
        · rename_i stride hstride
          obtain ⟨hmade, hlen, hlast⟩ := ih heq
          refine ⟨?_, ?_, .inr ?_⟩
          · intro h hh
            rcases hmade h hh with hmem | hmade
            · rcases List.mem_append.mp hmem with hmem | hmem
              · exact .inl hmem
              · exact .inr ⟨layout, fd, a, hlayout, List.mem_singleton.mp hmem⟩
            · exact .inr hmade
          · rw [hlen, List.length_append, List.length_singleton]
            omega
          · rcases hlast with hr | hlast
            · rw [hr]
              exact ⟨layout, fd, a, hlayout, List.getLast?_concat, hstride⟩
            · exact hlast

/-- What is exported is a duplicate of one of the handles. -/
theorem exportHandles_mem {handles : List NativeHandle} {p p' : Proc}
    {buffers : List AidlNativeHandle} (heq : exportHandles env handles p = (.ok buffers, p')) :
    ∀ a ∈ buffers, ∃ h ∈ handles, ∃ q, a = (dupToAidl env h q).1 := by
  intro a ha
  induction handles generalizing p p' buffers with
  | nil =>
    obtain ⟨h1, -⟩ := Prod.mk.inj heq
    obtain rfl := Status.ok.inj h1
    cases ha
  | cons h handles ih =>
    unfold exportHandles at heq
    dsimp only at heq
    split at heq
    · cases heq
    · split at heq
      · rename_i heq'
        obtain ⟨h1, -⟩ := Prod.mk.inj heq
        obtain rfl := Status.ok.inj h1
        rcases List.mem_cons.mp ha with rfl | ha
        · exact ⟨h, List.mem_cons_self, p, rfl⟩
        · obtain ⟨h', hh', q, rfl⟩ := ih heq' ha
          exact ⟨h', List.mem_cons_of_mem _ hh', q, rfl⟩
      · rename_i hno
        exact (hno _ _ heq).elim

/-- The cursor adjustment never gives a height of 1. -/
theorem newArgs_height_ne_one {desc : AllocatorDesc} (hle : desc.height ≤ grallocGbmHeightMax)
    (hfmt : desc.format.toUInt32 = halPixelFormatBlob) (hne : desc.height ≠ 1) :
    (newArgs cfg desc).height ≠ 1 := by
  have hyv12 : desc.format.toUInt32 ≠ halPixelFormatYv12 := by
    rw [hfmt]
    decide
  have hheight : (newArgs cfg desc).height = if (newArgs cfg desc).flags &&& gbmBoUseCursor ≠ 0
      then (cursorExtent cfg desc.height).toUInt32 else desc.height.toUInt32 := by
    simp only [newArgs, newSize, if_neg hyv12]
    split <;> rfl
  rw [hheight]
  split
  · intro heq
    have hle' : desc.height.toInt ≤ 16384 := Int32.le_iff_toInt_le.mp hle
    have h64 := toInt_cursorExtent cfg (x := desc.height) (by omega)
    have hbound := (cursorNat_bounds cfg desc.height.toInt.toNat).2.1
    rw [toUInt32_eq_iff.mp heq] at h64
    have : (1 : UInt32).toInt32.toInt = 1 := rfl
    omega
  · exact fun heq => hne (toUInt32_eq_iff.mp heq)

/-- Where a buffer of the GBM backend's comes from: gbm reported `layout` for its object, and `last`
    for the one that the result's stride was computed from, the last of the request. -/
structure Made (cfg : BuildConfig) (env : Env) (d : BufferDescriptorInfo) (count stride : Int32)
    (a : AidlNativeHandle) (desc : AllocatorDesc) (layout last : BoLayout) : Prop where
  desc_eq : generateGrallocGenericDesc d = some desc
  supported : grallocGbmIsAllocatorDescSupported cfg env.isFormatSupported true desc = true
  created : CreatedLayout cfg env desc layout
  last_created : CreatedLayout cfg env desc last
  single : count = 1 → layout = last
  stride_eq : grallocGbmCalculateAndroidPixelStride desc.format.toUInt32 last.stride = some stride
  crossed : ∃ fd a' q, a = (dupToAidl env (createdHandle cfg env desc layout fd a') q).1

/-- Every buffer of a batch served was made from the descriptor. -/
theorem allocate2_made {d : BufferDescriptorInfo} {count : Int32} {p : Proc}
    {res : AllocationResult} (hok : (allocate2 cfg env d count p).1 = .ok res) :
    ∀ a ∈ res.buffers, ∃ desc layout last, Made cfg env d count res.stride a desc layout last := by
  intro a ha
  unfold allocate2 at hok
  cases hdesc : generateGrallocGenericDesc d with
  | none =>
    rw [hdesc] at hok
    cases hok
  | some desc =>
    rw [hdesc] at hok
    obtain ⟨hsup, -, handles, p1, hn, he⟩ := grallocGbmAllocate_ok (Prod.ext hok rfl)
    rw [grallocGbmIsAllocatorDescSupported_ready hsup] at hsup
    obtain ⟨h, hh, q, rfl⟩ := exportHandles_mem he a ha
    obtain ⟨hmade, hlen, hlast⟩ := newHandles_created hn
    obtain ⟨last, lastFd, lastAddr, hlast, hget, hstride⟩ := hlast.resolve_left fun hr => by
      rw [(Prod.mk.inj hr).1] at hh
      exact List.not_mem_nil hh
    dsimp only at hmade hlen hget hstride
    by_cases hcount : count = 1
    · -- the one buffer is the last
      rw [hcount] at hlen
      obtain ⟨x, hx⟩ := List.length_eq_one_iff.mp hlen
      rw [hx] at hh hget
      obtain rfl := List.mem_singleton.mp hh
      obtain rfl := Option.some.inj hget
      exact ⟨desc, last, last, hdesc, hsup, hlast, hlast, fun _ => rfl, hstride, lastFd,
        lastAddr, q, rfl⟩
    · obtain ⟨layout, fd, a', hlayout, rfl⟩ := (hmade h hh).resolve_left List.not_mem_nil
      exact ⟨desc, layout, last, hdesc, hsup, hlayout, hlast, fun h1 => absurd h1 hcount,
        hstride, fd, a', q, rfl⟩

/-- What the library gets to see of a request. -/
theorem generateGrallocGenericDesc_eq {d : BufferDescriptorInfo} {desc : AllocatorDesc}
    (h : generateGrallocGenericDesc d = some desc) :
    d.width ≠ 0 ∧ d.height ≠ 0 ∧ desc.width = d.width ∧ desc.height = d.height ∧
      desc.format = d.format ∧ desc.usage = d.usage.toUInt64.toUInt32.toUInt64.toInt64 := by
  unfold generateGrallocGenericDesc at h
  split at h
  · cases h
  rename_i hsize
  split at h
  · cases h
  cases h
  exact ⟨fun h => hsize (.inl h), fun h => hsize (.inr h), rfl, rfl, rfl, rfl⟩

/-- **Everything the GBM backend allocates is routed to the GBM backend**, if it is not asked for a
    BLOB of height 1. -/
theorem allocate2_routed {d : BufferDescriptorInfo} {count : Int32} {p : Proc}
    {res : AllocationResult} (hok : (allocate2 cfg env d count p).1 = .ok res)
    (hd : ¬ (d.format = pixelFormatBlob ∧ d.height = 1)) (addr : Nat) (memory : Nat → Int) :
    ∀ a ∈ res.buffers, routedTo (grallocHandle (makeFromAidl addr memory a)) = .mapperGrallocGbm := by
  intro a ha
  obtain ⟨desc, layout, last, hmade⟩ := allocate2_made hok a ha
  obtain ⟨fd, a', q, rfl⟩ := hmade.crossed
  obtain ⟨-, -, -, hheight, hformat, -⟩ := generateGrallocGenericDesc_eq hmade.desc_eq
  rw [routedTo_makeFromAidl env ⟨rfl, rfl⟩ q addr memory, createdHandle_fields, routedTo]
  apply if_neg
  rintro ⟨hfmt, hone⟩
  have hle := grallocGbmIsAllocatorDescSupported_height hmade.supported
  refine newArgs_height_ne_one hle hfmt (fun h1 => hd ⟨?_, ?_⟩) hone
  · rw [← hformat]
    exact toUInt32_eq_iff.mp hfmt
  · rw [← hheight, h1]

end AllocatorBackendGrallocGbm

/-! ## What the DMA-BUF backend makes -/

namespace AllocatorBackendDmaBuf

/-- The fields of a handle as the DMA-BUF backend writes them; the modifier stays unwritten. -/
theorem grallocHandle_described (h : NativeHandle) (width height halFormat usage stride : UInt32)
    (fd : Int) :
    ∃ modifier,
      grallocHandle (((h.describe width height halFormat usage).setPrimeFd fd).setStride stride)
        = ⟨fd, grallocHandleMagic, grallocHandleVersion, width, height, halFormat, usage, stride,
            modifier⟩ := by
  refine ⟨UInt64.ofNat ((h.word 9).toNat + (h.word 10).toNat * 2 ^ 32), ?_⟩
  simp only [grallocHandle, NativeHandle.setPrimeFd, NativeHandle.setStride, NativeHandle.describe,
    NativeHandle.setWord, NativeHandle.word, Function.update_apply, Nat.reduceEqDiff, if_true,
    if_false, word_ofNat, OfNat.ofNat_ne_zero, reduceCtorEq, OfNat.zero_ne_ofNat]

/-- The handle the DMA-BUF backend makes for a request. -/
def Made (d : BufferDescriptorInfo) (h : NativeHandle) : Prop :=
  OneTwelve h ∧ ∃ fd modifier, grallocHandle h = ⟨fd, grallocHandleMagic, grallocHandleVersion,
    d.width.toUInt32, d.height.toUInt32, d.format.toUInt32, usageBits d.usage,
    (d.width / 8).toUInt32, modifier⟩

/-- The handles of the first loop. -/
theorem newHandles_made {d : BufferDescriptorInfo} {n : Nat} {p p' : Proc}
    {handles : List NativeHandle} (heq : newHandles env d n p = (.ok handles, p')) :
    handles.length = n ∧ ∀ h ∈ handles, Made d h := by
  induction n generalizing p p' handles with
  | zero =>
    obtain ⟨h1, -⟩ := Prod.mk.inj heq
    obtain rfl := Status.ok.inj h1
    exact ⟨rfl, fun h hh => by cases hh⟩
  | succ n ih =>
    unfold newHandles at heq
    rw [grallocHandleCreate_eq] at heq
    cases ha : env.alloc p.calls.length with
    | false =>
      simp only [ha, Bool.false_eq_true, if_false] at heq
      split at heq <;> cases heq
    | true =>
      simp only [ha, if_true] at heq
      split at heq
      · cases heq
      split at heq
      · rename_i hrest
        obtain ⟨h1, -⟩ := Prod.mk.inj heq
        obtain rfl := Status.ok.inj h1
        obtain ⟨hlen, hall⟩ := ih hrest
        refine ⟨by rw [List.length_cons, hlen], fun h hh => ?_⟩
        rcases List.mem_cons.mp hh with rfl | hh
        · exact ⟨⟨rfl, rfl⟩, _, grallocHandle_described _ _ _ _ _ _ _⟩
        · exact hall h hh
      · rename_i hno
        exact (hno _ _ heq).elim

/-- Every handle is exported, and nothing else. -/
theorem exportHandles_mem (env : Env) (handles : List NativeHandle) (p : Proc) :
    (exportHandles env handles p).1.length = handles.length ∧
      ∀ a ∈ (exportHandles env handles p).1, ∃ h ∈ handles, ∃ q, a = (dupToAidl env h q).1 := by
  induction handles generalizing p with
  | nil => exact ⟨rfl, fun a ha => by cases ha⟩
  | cons h handles ih =>
    obtain ⟨hlen, hall⟩ := ih (nativeHandleDelete h (nativeHandleClose h (dupToAidl env h p).2))
    simp only [exportHandles]
    refine ⟨by rw [List.length_cons, hlen, List.length_cons], fun a ha => ?_⟩
    rcases List.mem_cons.mp ha with rfl | ha
    · exact ⟨h, List.mem_cons_self, p, rfl⟩
    · obtain ⟨h', hh', q, rfl⟩ := hall a ha
      exact ⟨h', List.mem_cons_of_mem _ hh', q, rfl⟩

/-- Every buffer of a batch served has the descriptor's own size. -/
theorem allocate2_made {d : BufferDescriptorInfo} {count : Int32} {p : Proc}
    {res : AllocationResult} (hok : (allocate2 env d count p).1 = .ok res) :
    res.buffers.length = count.toInt.toNat ∧ 0 ≤ count.toInt ∧ res.stride = d.width / 8 ∧
      ∀ a ∈ res.buffers, ∃ h q, Made d h ∧ a = (dupToAidl env h q).1 := by
  obtain ⟨hneg, handles, p1, hn, he, hstride⟩ := allocate2_ok (Prod.ext hok rfl)
  have hcount : 0 ≤ count.toInt := Int32.le_iff_toInt_le.mp (Int32.not_lt.mp hneg)
  obtain ⟨hlen, hmade⟩ := newHandles_made hn
  obtain ⟨hlen', hexp⟩ := exportHandles_mem env handles p1
  rw [he] at hlen' hexp
  refine ⟨hlen'.trans hlen, hcount, hstride, fun a ha => ?_⟩
  obtain ⟨h, hh, q, rfl⟩ := hexp a ha
  exact ⟨h, q, hmade h hh, rfl⟩

/-- **What the DMA-BUF backend allocates is routed by what was asked for**: to the DMA-BUF backend if
    that was a BLOB of height 1, else to the GBM backend. -/
theorem allocate2_routed {d : BufferDescriptorInfo} {count : Int32} {p : Proc}
    {res : AllocationResult} (hok : (allocate2 env d count p).1 = .ok res) :
    ∀ a ∈ res.buffers, ∀ addr memory, routedTo (grallocHandle (makeFromAidl addr memory a))
        = if d.format = pixelFormatBlob ∧ d.height = 1 then .mapperGrallocDmabuf
          else .mapperGrallocGbm := by
  intro a ha addr memory
  obtain ⟨-, -, -, hmade⟩ := allocate2_made hok
  obtain ⟨h, q, ⟨h12, fd, modifier, hfields⟩, rfl⟩ := hmade a ha
  have hf : d.format.toUInt32 = halPixelFormatBlob ↔ d.format = pixelFormatBlob := toUInt32_eq_iff
  have h1 : d.height.toUInt32 = 1 ↔ d.height = 1 := toUInt32_eq_iff
  rw [routedTo_makeFromAidl env h12 q addr memory, routedTo, hfields]
  simp only [hf, h1]

end AllocatorBackendDmaBuf

end

/-! ## Agreement

  The backend that has answered, and the one the mapper routes to. -/

/-- The mapper's backend of the same kind. -/
def AllocatorBackendType.kind : AllocatorBackendType → MapperBackendType
  | .allocatorGrallocGbm => .mapperGrallocGbm
  | .allocatorGrallocDmabuf => .mapperGrallocDmabuf

/-- The mapper routes every buffer of the result to the backend that has allocated it. -/
def MapperOwns (res : AllocationResult) (backend : Option AllocatorBackendType) : Prop :=
  ∀ a ∈ res.buffers, ∀ addr memory,
    some (routedTo (grallocHandle (makeFromAidl addr memory a)))
      = backend.map AllocatorBackendType.kind

/-- A BLOB of height 1 is selectable, and goes to the DMA-BUF backend. -/
theorem linearBlob_selectable (cfg : BuildConfig) (env : Env) {d : BufferDescriptorInfo}
    (h : d.format = pixelFormatBlob ∧ d.height = 1) :
    selectable cfg env d = true ∧ ownerOf d = .allocatorGrallocDmabuf := by
  obtain ⟨hblob, h1⟩ := h
  simp [selectable, ownerOf, hblob, h1]

/-- So it never goes to the GBM backend. -/
theorem not_linearBlob_of_served {cfg : BuildConfig} {env : Env} {d : BufferDescriptorInfo}
    {s : Allocator} (hserved : served cfg env d s = some .allocatorGrallocGbm) :
    ¬ (d.format = pixelFormatBlob ∧ d.height = 1) := by
  intro h
  obtain ⟨h1, h2⟩ := linearBlob_selectable cfg env h
  rw [served, if_pos h1, h2] at hserved
  cases hserved

/-- **Where allocator and mapper agree.**  In every reachable state of the service, for every request
    that `allocate2` accepts: the mapper routes all buffers to the backend that allocated them
    exactly if the descriptor is selectable, or the backend left over from an earlier request is not
    the DMA-BUF backend, or no buffer was asked for. -/
theorem mapper_owns_iff (cfg : BuildConfig) (env : Env)
    (decode : List UInt8 → Option Allocator.BufferDescriptorInfoV4) (ops : List AllocatorOp)
    (hinit : (Allocator.init env).1 = 0) (d : BufferDescriptorInfo) (count : Int32)
    (res : AllocationResult)
    (hok : ((allocatorRun cfg env decode ops).allocate2 cfg env d count).1 = .ok res) :
    let s := allocatorRun cfg env decode ops
    MapperOwns res (s.allocate2 cfg env d count).2.mBackend ↔
      selectable cfg env d = true ∨ s.mBackend ≠ some .allocatorGrallocDmabuf ∨ count = 0 := by
  intro s
  have hready : isGrallocGbmReady s.proc = true := allocatorRun_ready cfg env decode ops hinit
  obtain ⟨da, cs, heq⟩ := Allocator.allocate2_eq cfg env d count hready
  change (s.allocate2 cfg env d count).1 = .ok res at hok
  rw [heq] at hok ⊢
  cases hserved : served cfg env d s with
  | none =>
    rw [hserved] at hok
    cases hok
  | some backend =>
    rw [hserved] at hok
    simp only [MapperOwns, Option.map_some, Option.some.injEq]
    have hsel : d.format = pixelFormatBlob ∧ d.height = 1 → selectable cfg env d = true :=
      fun h => (linearBlob_selectable cfg env h).1
    cases backend with
    | allocatorGrallocGbm =>
      have hd := not_linearBlob_of_served hserved
      refine iff_of_true (fun a ha addr memory => ?_) ?_
      · exact AllocatorBackendGrallocGbm.allocate2_routed hok hd addr memory a ha
      · by_cases hs : selectable cfg env d = true
        · exact .inl hs
        · rw [served, if_neg hs] at hserved
          exact .inr (.inl (by rw [hserved]; simp))
    | allocatorGrallocDmabuf =>
      obtain ⟨hlen, hcount, -, -⟩ := AllocatorBackendDmaBuf.allocate2_made hok
      have hrouted := AllocatorBackendDmaBuf.allocate2_routed hok
      by_cases hs : selectable cfg env d = true
      · -- the owner is the DMA-BUF backend, so this is a BLOB of height 1
        rw [served, if_pos hs] at hserved
        have hd : d.format = pixelFormatBlob ∧ d.height = 1 := by
          by_cases hblob : d.format = pixelFormatBlob
          · rw [selectable, if_pos hblob, decide_eq_true_iff] at hs
            exact ⟨hblob, hs⟩
          · rw [ownerOf, if_neg hblob] at hserved
            cases hserved
        refine iff_of_true (fun a ha addr memory => ?_) (.inl hs)
        rw [hrouted a ha addr memory, if_pos hd]
        rfl
      · rw [served, if_neg hs] at hserved
        have hd : ¬ (d.format = pixelFormatBlob ∧ d.height = 1) := fun h => hs (hsel h)
        have hempty : count = 0 ↔ res.buffers = [] := by
          rw [← List.length_eq_zero_iff, hlen, ← Int32.toInt_inj, Int32.toInt_zero]
          omega
        simp only [hs, hserved, ne_eq, not_true_eq_false, false_or, hempty, Bool.false_eq_true]
        constructor
        · intro h
          refine List.eq_nil_iff_forall_not_mem.mpr fun a ha => ?_
          have := h a ha 0 fun _ => 0
          rw [hrouted a ha, if_neg hd] at this
          cases this
        · intro h a ha
          rw [h] at ha
          cases ha

/-- The theorem at a BLOB of one row or two, after the DMA-BUF backend has served a request. -/
theorem blobInfo_owns_iff :
    let s := allocatorRun .androidBp .plain (fun _ => none) blobOps
    ∃ res, (s.allocate2 .androidBp .plain (blobInfo 4096 1) 1).1 = .ok res ∧
      (MapperOwns res (s.allocate2 .androidBp .plain (blobInfo 4096 1) 1).2.mBackend ↔
        selectable .androidBp .plain (blobInfo 4096 1) = true ∨
          s.mBackend ≠ some .allocatorGrallocDmabuf ∨ (1 : Int32) = 0) :=
  ⟨_, rfl, mapper_owns_iff .androidBp .plain (fun _ => none) blobOps rfl (blobInfo 4096 1) 1 _ rfl⟩

/-- A BLOB of height 2 is allocated by the DMA-BUF backend, and the mapper takes it to the GBM
    backend. -/
theorem blob_of_two_rows_misrouted :
    let s := allocatorRun .androidBp .plain (fun _ => none) blobOps
    ∃ res a, (s.allocate2 .androidBp .plain (blobInfo 4096 2) 1).1 = .ok res ∧ res.buffers = [a] ∧
      (s.allocate2 .androidBp .plain (blobInfo 4096 2) 1).2.mBackend
        = some .allocatorGrallocDmabuf ∧
      routedTo (grallocHandle (makeFromAidl 0 (fun _ => 0) a)) = .mapperGrallocGbm :=
  ⟨_, _, rfl, rfl, by decide, by decide⟩

end GrallocGbm
