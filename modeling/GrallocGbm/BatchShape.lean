/-
  What does a batch of buffers look like when it is handed out?

  Each backend makes its handles in a first loop, and hands out duplicates of them from a second.
  So the i-th buffer is a duplicate of the i-th handle, and no two are the same memory, as long as
  descriptors are to be had (`Exports.batchShape`).  One that is not to be had is no failure to
  either backend: the buffer is handed out with -1 in its place.

  The process ends on a negative count, on a count there is no room for, on a format without a pixel
  size (GBM), and on a handle that could not be created (DMA-BUF).  Otherwise a call returns
  (`batchShape_iff`).

  1. **The shape** — `BatchShape` asks that the call returns, and that what it returns, if it
     returns buffers, is `count` duplicates of the handles the first loop has made, no two of the
     same memory. What a descriptor stands for is in the log of the calls (`Proc.memoryOf`).

  2. **Both loops** — in the terms of `Aliases`: the first puts names to new memory, the second
     gives each name a second one and drops the first.  Neither knows about the other's order, and
     that the buffers come out in it is `Copies.map_eq`.

  3. **Each backend** — when its loops come to their ends (`BatchServed`, one for each backend): the
     exact conditions, and what the first loop makes.

  4. **The service** — the same between any two requests, from `Settled`.
-/
import GrallocGbm.DescriptorMemory
import GrallocGbm.Requested

namespace GrallocGbm

open AllocatorBackendGrallocGbm Aliases

/-! ## The shape of a batch

  The first loop of a call makes handles, the second duplicates them into the result.  A batch is
  in shape if it has as many elements as were asked for, and each is a duplicate of its handle. -/

/-- `a`, which the process `p'` hands out, is a duplicate of the handle `h`, as it was in `p`: it has
    the same words, and its descriptor stands for the same memory. -/
structure Duplicate (p : Proc) (h : NativeHandle) (p' : Proc) (a : AidlNativeHandle) : Prop where
  ints : a.ints = h.ints
  memory : ∃ m, h.fds.map p.memoryOf = [some m] ∧ a.fds.map p'.memoryOf = [some m]

/-- The first loop of the call makes `handles`, and leaves the process `p1`. -/
def AllocatorBackendType.Makes (cfg : BuildConfig) (env : Env) (d : BufferDescriptorInfo)
    (count : Int32) (p : Proc) (handles : List NativeHandle) (p1 : Proc) :
    AllocatorBackendType → Prop
  | .allocatorGrallocGbm => ∃ desc pixelStride, generateGrallocGenericDesc d = some desc ∧
      AllocatorBackendGrallocGbm.newHandles cfg env desc count.toInt.toNat [] 0 p
        = (.ok (handles, pixelStride), p1)
  | .allocatorGrallocDmabuf =>
      AllocatorBackendDmaBuf.newHandles env d count.toInt.toNat p = (.ok handles, p1)

/-- The call returns; and if it returns buffers, it returns `count` of them, the i-th a duplicate of
    the i-th handle, and no two of the same memory. -/
structure BatchShape (cfg : BuildConfig) (env : Env) (backend : AllocatorBackendType)
    (d : BufferDescriptorInfo) (count : Int32) (p : Proc) : Prop where
  returns : (backend.allocate2 cfg env d count p).1 ≠ .terminated
  shape : ∀ res p', backend.allocate2 cfg env d count p = (.ok res, p') →
    (res.buffers.length : Int) = count.toInt ∧
      (res.buffers.map fun a => a.fds.map p'.memoryOf).Nodup ∧
      ∃ handles p1, backend.Makes cfg env d count p handles p1 ∧
        List.Forall₂ (fun h a => Duplicate p1 h p' a) handles res.buffers

/-! ## Both loops

  What the two backends have in common: a loop that ends with a list of handles, and one that
  goes through that list. -/

section

variable {env : Env} {release : NativeHandle → Proc → Proc} {handles : List NativeHandle}
  {p p' p1 : Proc} {as : List AidlNativeHandle} {ks : List Int} {ms : List Memory}

/-- What handles with one descriptor each stand for, from the descriptors. -/
theorem map_memory_eq {α : Type} {l : List α} {fds : α → List Int} {f : Int → Option Memory}
    (hfds : l.map fds = ks.map fun k => [k]) (hks : ks.map f = ms.map some) :
    l.map (fun a => (fds a).map f) = ms.map fun m => [some m] := by
  have hlist := congrArg (List.map (List.map f)) hfds
  have hpure := congrArg (List.map fun m => [m]) hks
  rw [List.map_map, List.map_map] at hlist hpure
  exact hlist.trans hpure

/-- Lists that agree element by element with a list of memory. -/
theorem forall₂_duplicate (hh : handles.map (fun h => h.fds.map p1.memoryOf) = ms.map fun m => [some m])
    (ha : as.map (fun a => a.fds.map p'.memoryOf) = ms.map fun m => [some m])
    (hints : as.map AidlNativeHandle.ints = handles.map NativeHandle.ints) :
    List.Forall₂ (fun h a => Duplicate p1 h p' a) handles as := by
  induction ms generalizing handles as with
  | nil =>
    obtain rfl := List.map_eq_nil_iff.mp hh
    obtain rfl := List.map_eq_nil_iff.mp ha
    exact .nil
  | cons m ms ih =>
    obtain ⟨h, hs, rfl, hm, hh⟩ := List.map_eq_cons_iff.mp hh
    obtain ⟨a, as', rfl, hm', ha⟩ := List.map_eq_cons_iff.mp ha
    obtain ⟨hint, hints⟩ := List.cons.inj hints
    exact .cons ⟨hint, m, hm, hm'⟩ (ih hh ha hints)

/-- Where every descriptor is to be had, the second loop hands out duplicates of different memory. -/
theorem Exports.duplicates (he : Exports env release handles p1 as p') (ho : Opened p p1 handles ks ms)
    (hdups : DupsSucceed env release handles p1) :
    as.length = handles.length ∧ (as.map fun a => a.fds.map p'.memoryOf).Nodup ∧
      List.Forall₂ (fun h a => Duplicate p1 h p' a) handles as := by
  have hks : ks.map p1.memoryOf = ms.map some := ho.opens.map_eq
  have hnodup : ks.Nodup := nodup_of_map_eq hks ho.nodup
  have hopen : ∀ k ∈ ks, p1.memoryOf k ≠ none := by
    intro k hk
    have hmem : p1.memoryOf k ∈ ms.map some := hks ▸ List.mem_map_of_mem hk
    obtain ⟨m, -, hm⟩ := List.mem_map.mp hmem
    rw [← hm]
    exact Option.some_ne_none m
  obtain ⟨ds, hds, hc⟩ := he.copies ho.fds hdups hnodup hopen
  have hdms : ds.map p'.memoryOf = ms.map some := (hc.map_eq hnodup hopen).trans hks
  have hh := map_memory_eq ho.fds hks
  have ha := map_memory_eq hds hdms
  refine ⟨?_, ?_, forall₂_duplicate hh ha he.ints⟩
  · have hlen := congrArg List.length he.ints
    simpa using hlen
  · rw [ha]
    refine ho.nodup.map fun m m' heq => ?_
    exact Option.some.inj (List.cons.inj heq).1

/-- Duplicates have a descriptor, and so have their originals. -/
theorem not_missing (h1 : (-1 : Int) ∉ p1.fds) (h' : (-1 : Int) ∉ p'.fds)
    (h : List.Forall₂ (fun h a => Duplicate p1 h p' a) handles as) :
    (∀ handle ∈ handles, handle.fds ≠ [-1]) ∧ ∀ a ∈ as, a.fds ≠ [-1] := by
  have hno : ∀ {q : Proc} {fds : List Int} {m : Memory}, (-1 : Int) ∉ q.fds →
      fds.map q.memoryOf = [some m] → fds ≠ [-1] := by
    rintro q fds m hq hm rfl
    have hnone : q.memoryOf (-1) = none := memoryOf_closed hq
    rw [List.map_singleton, hnone] at hm
    cases (List.cons.inj hm).1
  induction h with
  | nil => exact ⟨by simp, by simp⟩
  | cons hd _ ih =>
    obtain ⟨m, hm, hm'⟩ := hd.memory
    exact ⟨List.forall_mem_cons.mpr ⟨hno h1 hm, ih.1⟩, List.forall_mem_cons.mpr ⟨hno h' hm', ih.2⟩⟩

variable {cfg : BuildConfig} {backend : AllocatorBackendType} {d : BufferDescriptorInfo} {count : Int32}
  {res : AllocationResult}

/-- The first loop has one outcome. -/
theorem AllocatorBackendType.Makes.unique {handles' : List NativeHandle} {p1' : Proc}
    (h : backend.Makes cfg env d count p handles p1)
    (h' : backend.Makes cfg env d count p handles' p1') : handles = handles' ∧ p1 = p1' := by
  cases backend with
  | allocatorGrallocGbm =>
    obtain ⟨desc, pixelStride, hdesc, hnew⟩ := h
    obtain ⟨desc', pixelStride', hdesc', hnew'⟩ := h'
    rw [hdesc] at hdesc'
    obtain rfl := Option.some.inj hdesc'
    rw [hnew] at hnew'
    obtain ⟨hr, hp1⟩ := Prod.mk.inj hnew'
    exact ⟨congrArg Prod.fst (Status.ok.inj hr), hp1⟩
  | allocatorGrallocDmabuf =>
    obtain ⟨hr, hp1⟩ := Prod.mk.inj (h.symm.trans h')
    exact ⟨Status.ok.inj hr, hp1⟩

/-- A batch in shape is one of duplicates of the handles that the first loop makes. -/
theorem BatchShape.duplicates (h : BatchShape cfg env backend d count p)
    (hcall : backend.allocate2 cfg env d count p = (.ok res, p'))
    (hmakes : backend.Makes cfg env d count p handles p1) :
    List.Forall₂ (fun h a => Duplicate p1 h p' a) handles res.buffers := by
  obtain ⟨-, -, handles', p1', hmakes', hdup⟩ := h.shape res p' hcall
  obtain ⟨rfl, rfl⟩ := hmakes.unique hmakes'
  exact hdup

/-- A call that comes to the end of its second loop, with every descriptor that it asks for. -/
theorem Exports.batchShape (he : Exports env release handles p1 res.buffers p')
    (hcall : backend.allocate2 cfg env d count p = (.ok res, p'))
    (hmakes : backend.Makes cfg env d count p handles p1) (ho : Opened p p1 handles ks ms)
    (hlen : (handles.length : Int) = count.toInt) (hdups : DupsSucceed env release handles p1) :
    BatchShape cfg env backend d count p where
  returns := by
    rw [hcall]
    intro hterm
    cases hterm
  shape := by
    intro res' q hcall'
    obtain ⟨hr, rfl⟩ := Prod.mk.inj (hcall.symm.trans hcall')
    obtain rfl := Status.ok.inj hr
    obtain ⟨hlen', hnodup, hall⟩ := he.duplicates ho hdups
    exact ⟨hlen' ▸ hlen, hnodup, handles, p1, hmakes, hall⟩

/-- A call that returns an error is in shape. -/
theorem batchShape_of_error {e : AllocationError}
    (hcall : (backend.allocate2 cfg env d count p).1 = .error e) :
    BatchShape cfg env backend d count p where
  returns := by
    rw [hcall]
    intro hterm
    cases hterm
  shape := by
    intro res q hcall'
    rw [hcall'] at hcall
    cases hcall

/-- A call that ends the process is not. -/
theorem not_batchShape_of_terminated
    (hcall : (backend.allocate2 cfg env d count p).1 = .terminated) :
    ¬ BatchShape cfg env backend d count p := fun h => h.returns hcall

end

/-! ## The GBM backend

  The first loop is the one of `Rollback`; what is new here is the result. -/

/-- A count that is not negative, as a number of iterations. -/
theorem toNat_toInt_of_nonneg {count : Int32} (h : 0 ≤ count) :
    (count.toInt.toNat : Int) = count.toInt := by
  have hle := Int32.le_iff_toInt_le.mp h
  rw [Int32.toInt_zero] at hle
  exact Int.toNat_of_nonneg hle

section

variable {cfg : BuildConfig} {env : Env} {desc : AllocatorDesc} {d : BufferDescriptorInfo}
  {count : Int32} {p0 p p' : Proc} {n : Nat} {handles : List NativeHandle} {pixelStride : Int32}
  {buffers : List AidlNativeHandle} {x : Finset Int}

/-- `gralloc_gbm_android_buffer_new` gets all that it checks for. -/
def makesBuffer (cfg : BuildConfig) (env : Env) (desc : AllocatorDesc) (p : Proc) : Bool :=
  let n := p.calls.length
  let args := newArgs cfg desc
  env.alloc n && (env.boCreate (n + 1) args.width args.height args.format args.flags).isSome &&
    env.alloc (n + 3)

/-- The condition says that a buffer is made. -/
theorem makesBuffer_iff (hready : isGrallocGbmReady p = true) :
    makesBuffer cfg env desc p = true ↔
      ∃ r p', grallocGbmAndroidBufferNew cfg env desc p = (.ok r, p') := by
  rcases grallocGbmAndroidBufferNew_cases cfg env desc p with
    ⟨rc, hno, -⟩ | ⟨rc, -, ha, hr⟩ | ⟨rc, -, ha, hbo, hr⟩ |
    ⟨layout, fd, -, ha, hbo, -, ⟨rc, ha', hr⟩ | ⟨log, ha', -, hr⟩⟩
  · rw [hready] at hno
    cases hno
  all_goals
    rw [hr]
    simp [makesBuffer, *]

/-- The first loop ends the process where a pixel stride is computed for a format without a pixel
    size. -/
theorem newHandles_terminated_iff (h : Batch p0 p handles x) :
    (newHandles cfg env desc n handles pixelStride p).1 = .terminated ↔
      n ≠ 0 ∧ desc.format.toUInt32 = halPixelFormatExtUnknown ∧ makesBuffer cfg env desc p = true := by
  induction n generalizing handles pixelStride p x with
  | zero => simp [newHandles]
  | succ n ih =>
    rw [makesBuffer_iff h.ready]
    rcases h.new cfg env desc with
      ⟨handle, gbmStride, p1, hnew, -, h1⟩ | ⟨rc, p1, p0', hnew, h1, -, -⟩
    · cases hst : grallocGbmCalculateAndroidPixelStride desc.format.toUInt32 gbmStride with
      | none =>
        have hunknown := colorBytesPerPixel_eq_zero.mp
          (grallocGbmCalculateAndroidPixelStride_eq_none.mp hst)
        have hterm : (newHandles cfg env desc (n + 1) handles pixelStride p).1 = .terminated := by
          simp only [newHandles, hnew, hst]
        exact iff_of_true hterm ⟨Nat.succ_ne_zero n, hunknown, _, _, hnew⟩
      | some pixelStride' =>
        have hknown : desc.format.toUInt32 ≠ halPixelFormatExtUnknown := by
          intro hunknown
          rw [grallocGbmCalculateAndroidPixelStride_eq_none.mpr
            (colorBytesPerPixel_eq_zero.mpr hunknown)] at hst
          cases hst
        have hloop : newHandles cfg env desc (n + 1) handles pixelStride p
            = newHandles cfg env desc n (handles ++ [handle]) pixelStride' p1 := by
          simp only [newHandles, hnew, hst]
        rw [hloop, ih h1]
        exact iff_of_false (fun hno => hknown hno.2.1) (fun hno => hknown hno.2.1)
    · obtain ⟨p2, hrel, -⟩ := releaseHandles_batch h1
      have herr : newHandles cfg env desc (n + 1) handles pixelStride p
          = (.error .unsupported, p2) := by
        simp only [newHandles, hnew, hrel]
      rw [herr]
      constructor
      · intro hterm
        cases hterm
      · rintro ⟨-, -, r, q, hok⟩
        rw [hnew] at hok
        cases hok

/-- A release closes the descriptor of the handle. -/
theorem Batch.released_memoryOf {handle : NativeHandle} (h : Batch p0 p (handle :: handles) x) :
    (releaseHandle handle p).2.memoryOf = memoryOf (p.fds \ handle.fds.toFinset) p.calls := by
  obtain ⟨e, hfind, he, -⟩ := h.exists_entry
  obtain ⟨b, hb⟩ := Option.isSome_iff_exists.mp (h.alive e he)
  obtain ⟨heap, hr⟩ := releaseHandle_eq h.ready hfind hb
  rw [hr]
  exact memoryOf_cons rfl

/-- The second loop of the GBM backend, after a first one. -/
theorem exportHandles_exports (h : Batch p0 p handles x)
    (heq : exportHandles env handles p = (.ok buffers, p')) :
    Exports env (fun handle q => (releaseHandle handle q).2) handles p buffers p' := by
  induction handles generalizing p x buffers with
  | nil =>
    obtain ⟨hr, rfl⟩ := Prod.mk.inj heq
    obtain rfl := Status.ok.inj hr
    exact .nil p
  | cons handle handles ih =>
    obtain ⟨h1, p1, hrel, h2⟩ := h.exported env
    obtain ⟨rest, p2, x', hrest, -⟩ := exportHandles_batch env h2
    unfold exportHandles at heq
    simp only [hrel, hrest] at heq
    obtain ⟨hr, rfl⟩ := Prod.mk.inj heq
    obtain rfl := Status.ok.inj hr
    refine .cons h1.released_memoryOf ?_
    rw [hrel]
    exact ih h2 hrest

/-- A handle of an unfinished batch has one descriptor. -/
theorem Batch.one_fd (h : Batch p0 p handles x) : ∀ handle ∈ handles, ∃ k, handle.fds = [k] := by
  intro handle hmem
  obtain ⟨e, -, hkey⟩ := List.mem_map.mp (h.keys.subset (List.mem_map_of_mem hmem))
  exact ⟨e.fd, hkey.symm⟩

/-- The call comes to its end: the count is a size there is room for, the format has a pixel size or
    no buffer is made at all, and for a batch that is complete there is room in the result, every
    export gets a descriptor, and every duplication succeeds. -/
structure BatchServed (cfg : BuildConfig) (env : Env) (desc : AllocatorDesc) (count : Int32)
    (p : Proc) : Prop where
  resized : resizes env count p = true
  stride : 0 < count → desc.format.toUInt32 = halPixelFormatExtUnknown →
    makesBuffer cfg env desc p = false
  exports : (∀ j < count.toInt.toNat, completes cfg env desc (afterNew cfg env desc j p) = true) →
    ∀ j < count.toInt.toNat, exportFd env (afterNew cfg env desc j p) ≠ none
  room : ∀ r p1, newHandles cfg env desc count.toInt.toNat [] 0 p = (.ok r, p1) →
    resizes env count p1 = true
  dups : ∀ r p1, newHandles cfg env desc count.toInt.toNat [] 0 p = (.ok r, p1) →
    DupsSucceed env (fun handle q => (releaseHandle handle q).2) r.1 p1

/-- A format without a pixel size is one for which no buffer is made, unless the first loop ends the
    process. -/
theorem stride_of_not_terminated (hp : Settled p) (hready : isGrallocGbmReady p = true)
    (h : (newHandles cfg env desc count.toInt.toNat [] 0 p).1 ≠ .terminated) (hpos : 0 < count)
    (hunknown : desc.format.toUInt32 = halPixelFormatExtUnknown) :
    makesBuffer cfg env desc p = false := by
  by_contra hmade
  have hne : count.toInt.toNat ≠ 0 := by
    have := Int32.lt_iff_toInt_lt.mp hpos
    rw [Int32.toInt_zero] at this
    omega
  exact h ((newHandles_terminated_iff (Batch.start hp hready)).mpr
    ⟨hne, hunknown, Bool.eq_true_of_not_eq_false hmade⟩)

/-- A call whose first loop comes to its end. -/
theorem completed_batchShape_iff {r : List NativeHandle × Int32} {p1 p2 : Proc} {x2 : Finset Int}
    (hp : Settled p) (hdesc : generateGrallocGenericDesc d = some desc)
    (hresize : resizes env count p = true) (hroom : resizes env count p1 = true)
    (heq : newHandles cfg env desc count.toInt.toNat [] 0 p = (.ok r, p1)) (h1 : Batch p p1 r.1 x)
    (hready : isGrallocGbmReady p = true)
    (hall : ∀ j < count.toInt.toNat, completes cfg env desc (afterNew cfg env desc j p) = true)
    (hexp : exportHandles env r.1 p1 = (.ok buffers, p2)) (h2 : Batch p p2 [] x2)
    (hcall : AllocatorBackendType.allocatorGrallocGbm.allocate2 cfg env d count p
      = (.ok ⟨r.2, buffers⟩, p2)) :
    BatchShape cfg env .allocatorGrallocGbm d count p ↔ BatchServed cfg env desc count p := by
  have hmakes : AllocatorBackendType.allocatorGrallocGbm.Makes cfg env d count p r.1 p1 :=
    ⟨desc, r.2, hdesc, heq⟩
  have he := exportHandles_exports h1 hexp
  constructor
  · intro h
    obtain ⟨hhandles, hbuffers⟩ := not_missing h1.neg_one h2.neg_one (h.duplicates hcall hmakes)
    constructor
    case resized => exact hresize
    case stride =>
      refine stride_of_not_terminated hp hready ?_
      rw [heq]
      intro hterm
      cases hterm
    case exports =>
      intro _ j hj hnone
      obtain ⟨handle, hmem, hfds⟩ := (newHandles_missing heq).2 j hj hnone
      exact hhandles handle hmem hfds
    case room =>
      intro r' p1' heq'
      obtain ⟨-, rfl⟩ := Prod.mk.inj (heq.symm.trans heq')
      exact hroom
    case dups =>
      intro r' p1' heq'
      obtain ⟨hr, rfl⟩ := Prod.mk.inj (heq.symm.trans heq')
      obtain rfl := Status.ok.inj hr
      by_contra hno
      obtain ⟨a, hmem, hfds⟩ := he.missing h1.one_fd hno
      exact hbuffers a hmem hfds
  · intro h
    obtain ⟨new, ks, ms, hr, hlen, ho⟩ := newHandles_opens heq (h.exports hall)
    rw [List.nil_append] at hr
    subst hr
    have hnonneg : 0 ≤ count := Int32.not_lt.mp (resizes_nonneg hresize)
    exact he.batchShape hcall hmakes ho (by rw [hlen, toNat_toInt_of_nonneg hnonneg])
      (h.dups r p1 heq)

/-- **One call of the GBM backend**, from a state between two requests. -/
theorem grallocGbmAllocate_batchShape_iff (hp : Settled p)
    (hdesc : generateGrallocGenericDesc d = some desc)
    (hsup : grallocGbmIsAllocatorDescSupported cfg env.isFormatSupported (isGrallocGbmReady p) desc
      = true) :
    BatchShape cfg env .allocatorGrallocGbm d count p ↔ BatchServed cfg env desc count p := by
  have hready := grallocGbmIsAllocatorDescSupported_ready hsup
  have hcall : AllocatorBackendType.allocatorGrallocGbm.allocate2 cfg env d count p
      = grallocGbmAllocate cfg env desc count p := by
    simp only [AllocatorBackendType.allocate2, AllocatorBackendGrallocGbm.allocate2, hdesc]
  unfold grallocGbmAllocate at hcall
  rw [if_neg (by simpa using hsup)] at hcall
  cases hresize : resizes env count p with
  | false =>
    rw [if_pos (by simpa using hresize)] at hcall
    refine iff_of_false (not_batchShape_of_terminated (congrArg Prod.fst hcall)) fun h => ?_
    exact absurd h.resized (by simp [hresize])
  | true =>
  rw [if_neg (by simpa using hresize)] at hcall
  rcases newHandles_batch cfg env desc count.toInt.toNat 0 (Batch.start hp hready) with
    ⟨r, p1, x, heq, h1, hall⟩ | ⟨m, hm, hall, hstop, ⟨p1, heq, -⟩ | ⟨p1, p0', x, heq, hf⟩⟩
  · rw [heq] at hcall
    dsimp only at hcall
    cases hroom : resizes env count p1 with
    | false =>
      rw [if_pos (by simpa using hroom)] at hcall
      refine iff_of_false (not_batchShape_of_terminated (congrArg Prod.fst hcall)) fun h => ?_
      exact absurd (h.room r p1 heq) (by simp [hroom])
    | true =>
    obtain ⟨buffers, p2, x2, hexp, h2⟩ := exportHandles_batch env h1
    rw [if_neg (by simpa using hroom), hexp] at hcall
    exact completed_batchShape_iff hp hdesc hresize hroom heq h1 hready hall hexp h2 hcall
  · rw [heq] at hcall
    refine iff_of_false (not_batchShape_of_terminated (congrArg Prod.fst hcall)) fun h => ?_
    obtain ⟨hne, hunknown, hmade⟩ := (newHandles_terminated_iff (Batch.start hp hready)).mp
      (congrArg Prod.fst heq)
    have hpos : 0 < count := by
      rw [Int32.lt_iff_toInt_lt, Int32.toInt_zero]
      omega
    rw [h.stride hpos hunknown] at hmade
    cases hmade
  · rw [heq] at hcall
    refine iff_of_true (batchShape_of_error (congrArg Prod.fst hcall)) ⟨hresize, ?_, ?_, ?_, ?_⟩
    · refine stride_of_not_terminated hp hready ?_
      rw [heq]
      intro hterm
      cases hterm
    · intro hcompletes
      rw [hcompletes m hm] at hstop
      cases hstop
    all_goals
      intro r p1' hok
      rw [heq] at hok
      cases hok

end

/-! ## The DMA-BUF backend

  The same for the other backend, whose loop goes on without a handle where the heap is not
  asked. -/

namespace AllocatorBackendDmaBuf

/-- The last loop with a handle it has duplicated. -/
def release (handle : NativeHandle) (p : Proc) : Proc :=
  nativeHandleDelete handle (nativeHandleClose handle p)

/-- The call comes to its end: the count is a size there is room for, every handle is created for
    which the heap has memory, and for a batch that is complete there is room in the result and every
    duplication succeeds. -/
structure BatchServed (env : Env) (d : BufferDescriptorInfo) (count : Int32) (p : Proc) : Prop where
  resized : resizes env count p = true
  handles : ∀ i, Reaches env d count p i → 0 < heapFd env ((afterAllocSystem env d)^[i] p) →
    env.alloc ((afterAllocSystem env d)^[i] p).calls.length = true
  room : ∀ handles p1, newHandles env d count.toInt.toNat p = (.ok handles, p1) →
    resizes env count p1 = true
  dups : ∀ handles p1, newHandles env d count.toInt.toNat p = (.ok handles, p1) →
    DupsSucceed env release handles p1

section

variable {cfg : BuildConfig} {env : Env} {d : BufferDescriptorInfo} {count : Int32} {p : Proc}

/-- The last loop of the DMA-BUF backend. -/
theorem exportHandles_exports (env : Env) (handles : List NativeHandle) (p : Proc) :
    Exports env release handles p (exportHandles env handles p).1 (exportHandles env handles p).2 := by
  induction handles generalizing p with
  | nil => exact .nil p
  | cons handle handles ih => exact .cons rfl (ih _)

/-- A call whose first loop comes to its end. -/
theorem completed_batchShape_iff {handles : List NativeHandle} {p1 : Proc} (hp1 : Settled p1)
    (hresize : resizes env count p = true) (hroom : resizes env count p1 = true)
    (hnew : newHandles env d count.toInt.toNat p = (.ok handles, p1))
    (hall : ∀ j < count.toInt.toNat, completes env ((afterAllocSystem env d)^[j] p) = true)
    (hcall : AllocatorBackendType.allocatorGrallocDmabuf.allocate2 cfg env d count p
      = (.ok ⟨d.width / 8, (exportHandles env handles p1).1⟩, (exportHandles env handles p1).2)) :
    BatchShape cfg env .allocatorGrallocDmabuf d count p ↔ BatchServed env d count p := by
  have he := exportHandles_exports env handles p1
  obtain ⟨ks, ms, hlen, ho⟩ := newHandles_opens hnew
  have hp2 : Settled (exportHandles env handles p1).2 := exportHandles_settled handles hp1
  constructor
  · intro h
    obtain ⟨-, hbuffers⟩ := not_missing hp1.neg_one hp2.neg_one (h.duplicates hcall hnew)
    constructor
    case resized => exact hresize
    case handles => exact fun i hi _ => (Bool.and_eq_true_iff.mp (hall i hi.lt)).1
    case room =>
      intro handles' p1' heq'
      obtain ⟨-, rfl⟩ := Prod.mk.inj (hnew.symm.trans heq')
      exact hroom
    case dups =>
      intro handles' p1' heq'
      obtain ⟨hr, rfl⟩ := Prod.mk.inj (hnew.symm.trans heq')
      obtain rfl := Status.ok.inj hr
      by_contra hno
      obtain ⟨a, hmem, hfds⟩ := he.missing ho.one_fd hno
      exact hbuffers a hmem hfds
  · intro h
    have hnonneg : 0 ≤ count := Int32.not_lt.mp (resizes_nonneg hresize)
    exact Exports.batchShape he hcall hnew ho (by rw [hlen, toNat_toInt_of_nonneg hnonneg])
      (h.dups handles p1 hnew)

/-- Where the heap is the first to fail, every handle before has been created. -/
theorem handles_of_heap_fails {m : Nat}
    (hall : ∀ j < m, completes env ((afterAllocSystem env d)^[j] p) = true)
    (hstop : completes env ((afterAllocSystem env d)^[m] p) = false)
    (hfail : heapFd env ((afterAllocSystem env d)^[m] p) ≤ 0) (i : Nat)
    (hi : Reaches env d count p i) (hpos : 0 < heapFd env ((afterAllocSystem env d)^[i] p)) :
    env.alloc ((afterAllocSystem env d)^[i] p).calls.length = true := by
  have hlt : i < m := by
    by_contra hle
    rcases Nat.eq_or_lt_of_not_lt hle with heq | hgt
    · rw [heq] at hpos
      omega
    · have := hi.before m hgt
      rw [hstop] at this
      cases this
  exact (Bool.and_eq_true_iff.mp (hall i hlt)).1

/-- **One call of the DMA-BUF backend**, from a state between two requests. -/
theorem allocate2_batchShape_iff (hp : Settled p) :
    BatchShape cfg env .allocatorGrallocDmabuf d count p ↔ BatchServed env d count p := by
  have hcall : AllocatorBackendType.allocatorGrallocDmabuf.allocate2 cfg env d count p
      = allocate2 env d count p := rfl
  unfold allocate2 at hcall
  cases hresize : resizes env count p with
  | false =>
    rw [if_pos (by simpa using hresize)] at hcall
    refine iff_of_false (not_batchShape_of_terminated (congrArg Prod.fst hcall)) fun h => ?_
    exact absurd h.resized (by simp [hresize])
  | true =>
  rw [if_neg (by simpa using hresize)] at hcall
  have hstops := newHandles_stops env d count.toInt.toNat p
  cases hnew : newHandles env d count.toInt.toNat p with
  | mk st p1 =>
  rw [hnew] at hstops hcall
  rcases hstops with ⟨hok, hend, hall⟩ | ⟨m, hm, hall, hstop, -, hcode⟩
  · cases st with
    | error e => cases hok
    | terminated => cases hok
    | ok handles =>
    have hp1 : Settled p1 := by
      have hend' : p1 = _ := hend
      rw [hend']
      exact iterate_settled hp _
    dsimp only at hcall
    cases hroom : resizes env count p1 with
    | false =>
      rw [if_pos (by simpa using hroom)] at hcall
      refine iff_of_false (not_batchShape_of_terminated (congrArg Prod.fst hcall)) fun h => ?_
      exact absurd (h.room handles p1 hnew) (by simp [hroom])
    | true =>
    rw [if_neg (by simpa using hroom)] at hcall
    exact completed_batchShape_iff hp1 hresize hroom hnew hall hcall
  by_cases hfail : heapFd env ((afterAllocSystem env d)^[m] p) ≤ 0
  · rw [if_pos hfail] at hcode
    cases st with
    | ok handles => cases hcode
    | terminated => cases hcode
    | error e =>
    refine iff_of_true (batchShape_of_error (congrArg Prod.fst hcall)) ⟨hresize, ?_, ?_, ?_⟩
    · exact handles_of_heap_fails hall hstop hfail
    all_goals
      intro handles p1' hok
      rw [hnew] at hok
      cases hok
  · rw [if_neg hfail] at hcode
    cases st with
    | ok handles => cases hcode
    | error e => cases hcode
    | terminated =>
    refine iff_of_false (not_batchShape_of_terminated (congrArg Prod.fst hcall)) fun h => ?_
    have hpos : 0 < heapFd env ((afterAllocSystem env d)^[m] p) := Int.not_le.mp hfail
    rw [completes, h.handles m ⟨hresize, hm, hall⟩ hpos, Bool.true_and, decide_eq_false_iff_not] at hstop
    exact hstop hpos

end

end AllocatorBackendDmaBuf

/-! ## The service -/

section

variable {cfg : BuildConfig} {env : Env} {d : BufferDescriptorInfo} {count : Int32} {p : Proc}

/-- The backend refuses the descriptor, or the call comes to its end. -/
def AllocatorBackendType.BatchServed (cfg : BuildConfig) (env : Env) (d : BufferDescriptorInfo)
    (count : Int32) (p : Proc) : AllocatorBackendType → Prop
  | .allocatorGrallocGbm => ∀ desc, generateGrallocGenericDesc d = some desc →
      grallocGbmIsAllocatorDescSupported cfg env.isFormatSupported (isGrallocGbmReady p) desc = true →
      GrallocGbm.BatchServed cfg env desc count p
  | .allocatorGrallocDmabuf => AllocatorBackendDmaBuf.BatchServed env d count p

/-- Both backends, in any state between two requests. -/
theorem batchShape_iff_of_settled (backend : AllocatorBackendType) (hp : Settled p) :
    BatchShape cfg env backend d count p ↔ backend.BatchServed cfg env d count p := by
  cases backend with
  | allocatorGrallocDmabuf => exact AllocatorBackendDmaBuf.allocate2_batchShape_iff hp
  | allocatorGrallocGbm =>
    simp only [AllocatorBackendType.BatchServed]
    cases hdesc : generateGrallocGenericDesc d with
    | none =>
      refine iff_of_true (batchShape_of_error (e := .unsupported) ?_) (by simp)
      simp only [AllocatorBackendType.allocate2, AllocatorBackendGrallocGbm.allocate2, hdesc]
    | some desc =>
      simp only [Option.some.injEq, forall_eq']
      by_cases hsup : grallocGbmIsAllocatorDescSupported cfg env.isFormatSupported
          (isGrallocGbmReady p) desc = true
      · rw [grallocGbmAllocate_batchShape_iff hp hdesc hsup]
        exact ⟨fun h _ => h, fun h => h hsup⟩
      · refine iff_of_true (batchShape_of_error (e := .unsupported) ?_) fun h => absurd h hsup
        simp only [AllocatorBackendType.allocate2, AllocatorBackendGrallocGbm.allocate2, hdesc,
          grallocGbmAllocate]
        rw [if_pos (by simpa using hsup)]

/-- **The shape of a batch.**  After any requests to a started service, whatever may have failed in
    them: a call of either backend, with any descriptor and any count, returns, and hands out
    duplicates of its handles, all of different memory, exactly if it refuses the descriptor, or
    nothing ends the process (no size without room among them) and every descriptor of a complete
    batch is to be had. -/
theorem batchShape_iff (cfg : BuildConfig) (env : Env)
    (decode : List UInt8 → Option Allocator.BufferDescriptorInfoV4)
    (hinit : (Allocator.init env).1 = 0) (ops : List AllocatorOp)
    (hops : Run.Along (allocatorStep cfg env decode) (Returns cfg env decode)
      (Allocator.init env).2 ops) (backend : AllocatorBackendType) (d : BufferDescriptorInfo)
    (count : Int32) :
    BatchShape cfg env backend d count (allocatorRun cfg env decode ops).proc ↔
      backend.BatchServed cfg env d count (allocatorRun cfg env decode ops).proc :=
  batchShape_iff_of_settled backend (allocatorRun_settled hinit hops)

/-- Three BLOBs, of a service that was asked about one. -/
theorem blob_batchShape_iff :
    BatchShape .androidBp .plain .allocatorGrallocDmabuf (blobInfo 4096 1) 3
        (allocatorRun .androidBp .plain (fun _ => none) blobOps).proc ↔
      AllocatorBackendType.allocatorGrallocDmabuf.BatchServed .androidBp .plain (blobInfo 4096 1) 3
        (allocatorRun .androidBp .plain (fun _ => none) blobOps).proc :=
  batchShape_iff .androidBp .plain (fun _ => none) rfl blobOps ⟨nofun, trivial⟩
    .allocatorGrallocDmabuf (blobInfo 4096 1) 3

/-- A request for -1 buffers ends the process, on either backend. -/
theorem negative_count_not_batchShape :
    ¬ BatchShape .androidBp .plain .allocatorGrallocGbm (rgbaInfo []) (-1)
        (allocatorRun .androidBp .plain (fun _ => none) []).proc ∧
      ¬ BatchShape .androidBp .plain .allocatorGrallocDmabuf (blobInfo 4096 1) (-1)
        (allocatorRun .androidBp .plain (fun _ => none) []).proc :=
  ⟨fun h => h.returns rfl, fun h => h.returns rfl⟩

end

end GrallocGbm
