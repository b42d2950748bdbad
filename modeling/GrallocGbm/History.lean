/-
  Does the history of the allocator show?

  With everything supplied that it asks for, the service comes back to the same idle state after
  each request that returns: the driver ready and the buffer table empty (`allocatorRun_idle`).
  What a request answers then depends on the backend it goes to and on nothing else in the state;
  and that is the descriptor's own if it is selectable, and the one of an earlier request if it is
  not.  So a descriptor's answers are free of the history exactly if it is selectable
  (`historyFree_iff`).

  It is a question about two runs.  The two histories are any sequences of requests that return, and
  what is compared is the status and the answer of `isSupported` and `allocate2`, and the backend
  that serves the second.  Numbers that are in the answer as such, the descriptors, depend on what
  else is open and are not compared.

  * `Idle` is what the histories have in common in the end.  It says nothing of the descriptors, the
    handles and the addresses that are in use, which do accumulate.
  * For each backend, one lemma with the status of an allocation from an idle state, and the idle
    state it leaves (`grallocGbmAllocate_supplied`, `AllocatorBackendDmaBuf.allocate2_supplied`).
  * For the other direction, one history that shows: after a request for a BLOB of height 1 the
    DMA-BUF backend is left in `mBackend`, and a descriptor that no backend supports goes there,
    where it would have found none at the start.

  "Supplied" (`Env.Supplies`) means that memory and descriptors are to be had.  What the device
  supports is not part of it.
-/
import GrallocGbm.AllocatorBalance
import GrallocGbm.Selection

namespace GrallocGbm

/-- Every allocation succeeds, of a vector of any size too; descriptors are positive. -/
structure Env.Supplies (env : Env) : Prop where
  alloc : ∀ n, env.alloc n = true
  vector : ∀ n size, env.vector n size = true
  newFd : ∀ n fds, ∃ fd, env.newFd n fds = some fd ∧ 0 < fd
  boCreate : ∀ n width height format flags,
    (env.boCreate n width height format flags).isSome = true

/-- A descriptor is always to be had. -/
theorem Env.Supplies.isSome_newFd {env : Env} (h : env.Supplies) (n : Nat) (fds : Finset Int) :
    (env.newFd n fds).isSome = true := by
  obtain ⟨fd, hfd, -⟩ := h.newFd n fds
  rw [hfd]
  rfl

/-- A vector is too, unless its size is negative. -/
theorem Env.Supplies.resizes {env : Env} (h : env.Supplies) (count : Int32) (p : Proc) :
    GrallocGbm.resizes env count p = !decide (count < 0) := by
  simp [GrallocGbm.resizes, h.vector]

/-- The state between two requests. -/
structure Idle (p : Proc) : Prop where
  inv : ProcInv p
  ready : isGrallocGbmReady p = true
  table : p.table = []

section

variable (cfg : BuildConfig) {env : Env} {p : Proc}

/-- A process with an empty table is in order whatever its descriptors and handles are. -/
theorem Idle.of_unlisted (h : Idle p) {fds : Finset Int} {handles : Finset Nat} {da : Bool} {n : Nat}
    {cs : List ExtCall} (hn : p.next ≤ n) (hhandles : ∀ a ∈ handles, a < n) :
    Idle { p with fds := fds, handles := handles, dmaAllocator := da, next := n, calls := cs } where
  inv :=
    { next_pos := lt_of_lt_of_le h.inv.next_pos hn
      bo_lt := fun bo hbo => ⟨(h.inv.bo_lt bo hbo).1, lt_of_lt_of_le (h.inv.bo_lt bo hbo).2 hn⟩
      handle_lt := hhandles
      addr_lt := by rw [h.table]; simp
      user_data := h.inv.user_data
      key_open := by rw [h.table]; simp
      alive := by rw [h.table]; simp
      keys := h.inv.keys
      addrs := h.inv.addrs
      objects := h.inv.objects
      ready := h.inv.ready }
  ready := h.ready
  table := h.table

/-! ## The GBM backend

  In an environment that refuses nothing, a call comes to its end, and its answer depends on the
  descriptor alone. -/

/-- A new buffer is made. -/
theorem grallocGbmAndroidBufferNew_supplied (hs : env.Supplies) (desc : AllocatorDesc)
    (hready : isGrallocGbmReady p = true) :
    ∃ r p', grallocGbmAndroidBufferNew cfg env desc p = (.ok r, p') := by
  rcases grallocGbmAndroidBufferNew_cases cfg env desc p with
    ⟨rc, hno, -⟩ | ⟨rc, -, hno, -⟩ | ⟨rc, -, -, hno, -⟩ |
    ⟨layout, fd, -, -, -, -, ⟨rc, hno, -⟩ | ⟨logFd, -, -, h⟩⟩
  · rw [hready] at hno
    cases hno
  · rw [hs.alloc] at hno
    cases hno
  · have hsome := hs.boCreate (p.calls.length + 1) (newArgs cfg desc).width
      (newArgs cfg desc).height (newArgs cfg desc).format (newArgs cfg desc).flags
    rw [hno] at hsome
    cases hsome
  · rw [hs.alloc] at hno
    cases hno
  · exact ⟨_, _, h⟩

namespace AllocatorBackendGrallocGbm

/-- The first loop only stops where the pixel stride is computed. -/
theorem newHandles_supplied (hs : env.Supplies) (desc : AllocatorDesc) {p0 : Proc} :
    ∀ (n : Nat) {handles : List NativeHandle} {es : List AndroidBuffer} {x : Finset Int}
      (pixelStride : Int32) {p : Proc}, Pending p0 p handles es x →
      (newHandles cfg env desc n handles pixelStride p).1.code
        = if n ≠ 0 ∧ colorBytesPerPixel (colorFmtA2g desc.format.toUInt32) = 0 then .terminated
          else .ok () := by
  intro n
  induction n with
  | zero =>
    intro handles es x _ p _
    rfl
  | succ n ih =>
    intro handles es x _ p hp
    obtain ⟨⟨handle, stride⟩, p1, hnew⟩ :=
      grallocGbmAndroidBufferNew_supplied cfg hs desc hp.ready
    obtain ⟨e, d, -, hp1⟩ := hp.new hs.isSome_newFd hnew
    simp only [newHandles, hnew]
    cases hst : grallocGbmCalculateAndroidPixelStride desc.format.toUInt32 stride with
    | none =>
      have h0 := grallocGbmCalculateAndroidPixelStride_eq_none.mp hst
      rw [if_pos ⟨Nat.succ_ne_zero n, h0⟩]
      rfl
    | some pixelStride =>
      have h0 : colorBytesPerPixel (colorFmtA2g desc.format.toUInt32) ≠ 0 := fun h0 => by
        rw [grallocGbmCalculateAndroidPixelStride_eq_none.mpr h0] at hst
        cases hst
      have hrest := ih pixelStride hp1
      rw [if_neg fun h => h0 h.2] at hrest
      rw [if_neg fun h => h0 h.2]
      exact hrest

/-- The status of an allocation from an idle state, for a descriptor the library supports. -/
theorem grallocGbmAllocate_supplied (hs : env.Supplies) {desc : AllocatorDesc} (count : Int32)
    (hp : Idle p)
    (hsup : grallocGbmIsAllocatorDescSupported cfg env.isFormatSupported true desc = true) :
    (grallocGbmAllocate cfg env desc count p).1.code
      = if count < 0 then .terminated
        else if count.toInt.toNat ≠ 0 ∧
          colorBytesPerPixel (colorFmtA2g desc.format.toUInt32) = 0 then .terminated
        else .ok () := by
  unfold grallocGbmAllocate
  rw [hp.ready, if_neg (by simpa using hsup)]
  simp only [hs.resizes, Bool.not_not, decide_eq_true_eq]
  split
  · rfl
  have hpending := Pending.start hp.inv hp.ready
  have hcode := newHandles_supplied cfg hs desc count.toInt.toNat 0 hpending
  cases hn : newHandles cfg env desc count.toInt.toNat [] 0 p with
  | mk st p1 =>
    rw [hn] at hcode
    rw [← hcode]
    cases st with
    | error e => rfl
    | terminated => rfl
    | ok r =>
      obtain ⟨es, x, hp1, -⟩ := newHandles_pending hs.isSome_newFd hpending hn
      obtain ⟨buffers, p2, hexp, -⟩ := exportHandles_pending hs.isSome_newFd hp1
      simp only [hexp]
      rfl

/-- A request that returns leaves the process idle. -/
theorem allocate2_idle (hs : env.Supplies) (d : BufferDescriptorInfo) (count : Int32) (hp : Idle p)
    (hret : (allocate2 cfg env d count p).1.code ≠ .terminated) :
    Idle (allocate2 cfg env d count p).2 := by
  unfold allocate2 at hret ⊢
  cases hdesc : generateGrallocGenericDesc d with
  | none => exact hp
  | some desc =>
    rw [hdesc] at hret
    dsimp only at hret ⊢
    by_cases hsup : grallocGbmIsAllocatorDescSupported cfg env.isFormatSupported true desc = true
    · have hcode := grallocGbmAllocate_supplied cfg hs count hp hsup
      cases hr : grallocGbmAllocate cfg env desc count p with
      | mk st p' =>
        rw [hr] at hcode hret
        cases st with
        | ok res =>
          obtain ⟨hinv, htable, -, -⟩ := grallocGbmAllocate_effect hs.isSome_newFd hp.inv hr
          refine ⟨hinv, ?_, htable.trans hp.table⟩
          have hg := allocate2_gDriver cfg env d count p
          simp only [allocate2, hdesc, hr] at hg
          rw [← hp.ready]
          exact isGrallocGbmReady_congr hg
        | terminated => exact absurd rfl hret
        | error e =>
          -- not with everything supplied
          split at hcode
          · cases hcode
          · split at hcode <;> cases hcode
    · have hr : grallocGbmAllocate cfg env desc count p = (.error .unsupported, p) := by
        unfold grallocGbmAllocate
        rw [hp.ready, if_pos (by simpa using hsup)]
      rw [hr]
      exact hp

end AllocatorBackendGrallocGbm

/-! ## The DMA-BUF backend -/

/-- Duplicating concerns descriptors only. -/
theorem dupEach_spec (env : Env) (l : List Int) (p : Proc) :
    ∃ fds cs, (dupEach env l p).2 = { p with fds := fds, calls := cs } := by
  induction l generalizing p with
  | nil => exact ⟨p.fds, p.calls, rfl⟩
  | cons fd l ih =>
    obtain ⟨fds, cs, h⟩ := ih (dupFd env fd p).2
    rw [dupFd_snd] at h
    exact ⟨fds, cs, by rw [← h, ← dupFd_snd]; rfl⟩

namespace AllocatorBackendDmaBuf

/-- The first loop succeeds, and touches descriptors and handles alone. -/
theorem newHandles_supplied (hs : env.Supplies) (d : BufferDescriptorInfo) (n : Nat) (p : Proc) :
    ∃ l fds handles n' cs, newHandles env d n p
        = (.ok l, { p with fds := fds, handles := handles, next := n', calls := cs }) ∧
      p.next ≤ n' ∧ ∀ a ∈ handles, a ∈ p.handles ∨ a < n' := by
  induction n generalizing p with
  | zero => exact ⟨[], p.fds, p.handles, p.next, p.calls, rfl, le_refl _, fun a ha => .inl ha⟩
  | succ n ih =>
    obtain ⟨fd, hfd, hpos⟩ := hs.newFd (p.calls.length + 1) p.fds
    obtain ⟨l, fds, handles, n', cs, heq, hle, hh⟩ := ih { p with
      next := p.next + 1
      handles := insert p.next p.handles
      fds := insert fd p.fds
      calls := .allocSystem (bufferSize d) (some fd) :: .alloc true :: p.calls }
    have hnot : ¬ fd ≤ 0 := by omega
    unfold newHandles
    simp only [grallocHandleCreate_eq, hs.alloc, if_true, openFd, List.length_cons, hfd, addFd,
      Option.getD_some, if_neg hnot, heq]
    refine ⟨_, fds, handles, n', cs, rfl, Nat.le_of_succ_le hle, fun a ha => ?_⟩
    rcases hh a ha with ha | ha
    · rcases Finset.mem_insert.mp ha with rfl | ha
      · exact .inr hle
      · exact .inl ha
    · exact .inr ha

/-- The last loop concerns descriptors and handles only. -/
theorem exportHandles_spec (env : Env) (l : List NativeHandle) (p : Proc) :
    ∃ fds handles cs, (exportHandles env l p).2
        = { p with fds := fds, handles := handles, calls := cs } ∧ handles ⊆ p.handles := by
  induction l generalizing p with
  | nil => exact ⟨p.fds, p.handles, p.calls, rfl, subset_rfl⟩
  | cons h l ih =>
    obtain ⟨fds, cs, hdup⟩ := dupEach_spec env h.fds p
    obtain ⟨fds', handles, cs', heq, hsub⟩ :=
      ih (nativeHandleDelete h (nativeHandleClose h { p with fds := fds, calls := cs }))
    refine ⟨fds', handles, cs', ?_, hsub.trans (Finset.erase_subset _ _)⟩
    simp only [exportHandles, dupToAidl, hdup]
    exact heq

/-- The status of an allocation, and the idle state it leaves. -/
theorem allocate2_supplied (hs : env.Supplies) (d : BufferDescriptorInfo) (count : Int32)
    (hp : Idle p) :
    (allocate2 env d count p).1.code = (if count < 0 then .terminated else .ok ()) ∧
      Idle (allocate2 env d count p).2 := by
  unfold allocate2
  simp only [hs.resizes, Bool.not_not, decide_eq_true_eq]
  split
  · exact ⟨rfl, hp⟩
  obtain ⟨l, fds, handles, n, cs, heq, hle, hh⟩ :=
    newHandles_supplied hs d count.toInt.toNat p
  obtain ⟨fds', handles', cs', heq', hsub⟩ := exportHandles_spec env l
    { p with fds := fds, handles := handles, next := n, calls := cs }
  simp only [heq, heq']
  refine ⟨rfl, hp.of_unlisted hle fun a ha => ?_⟩
  rcases hh a (hsub ha) with ha | ha
  · exact lt_of_lt_of_le (hp.inv.handle_lt a ha) hle
  · exact ha

end AllocatorBackendDmaBuf

end

/-! ## The service

  Between two requests the service is idle, except for the member that is left over. -/

section

variable {cfg : BuildConfig} {env : Env}
  {decode : List UInt8 → Option Allocator.BufferDescriptorInfoV4} {d : BufferDescriptorInfo}

/-- The request comes back. -/
def Returns (cfg : BuildConfig) (env : Env)
    (decode : List UInt8 → Option Allocator.BufferDescriptorInfoV4) (s : Allocator)
    (op : AllocatorOp) : Prop :=
  (allocatorCall cfg env decode s op).1 ≠ .terminated

/-- Asking for the list of heaps. -/
theorem Idle.checked {p : Proc} (hp : Idle p) (da : Bool) (cs : List ExtCall) :
    Idle { p with dmaAllocator := da, calls := cs } :=
  hp.of_unlisted (le_refl _) hp.inv.handle_lt

/-- An allocation that returns leaves the service idle, -/
theorem Allocator.allocate2_idle (hs : env.Supplies) {s : Allocator} {count : Int32}
    (hp : Idle s.proc) (hret : (s.allocate2 cfg env d count).1.code ≠ .terminated) :
    Idle (s.allocate2 cfg env d count).2.proc := by
  obtain ⟨da, cs, heq⟩ := Allocator.allocate2_eq cfg env d count hp.ready
  rw [heq] at hret ⊢
  cases hserved : served cfg env d s with
  | none => exact hp.checked da cs
  | some backend =>
    rw [hserved] at hret
    cases backend with
    | allocatorGrallocGbm =>
      exact AllocatorBackendGrallocGbm.allocate2_idle cfg hs d count (hp.checked da cs) hret
    | allocatorGrallocDmabuf =>
      exact (AllocatorBackendDmaBuf.allocate2_supplied hs d count (hp.checked da cs)).2

/-- a question does, -/
theorem Allocator.isSupported_idle {s : Allocator} (hp : Idle s.proc) :
    Idle (s.isSupported cfg env d).2.proc := by
  by_cases hoptions : ∀ o ∈ d.additionalOptions, o = standardMetadataDataspace
  · obtain ⟨da, cs, heq⟩ := isSupported_eq cfg env hp.ready hoptions
    rw [heq]
    cases served cfg env d s <;> exact hp.checked da cs
  · rw [isSupported_denied cfg env hoptions]
    exact hp

/-- and a service that has started is. -/
theorem Allocator.init_idle (hinit : (Allocator.init env).1 = 0) :
    Idle (Allocator.init env).2.proc where
  inv := Allocator.init_inv env
  ready := Allocator.init_ready hinit
  table := by
    show (grallocGbmInit env { Proc.start with dmaAllocator := true }).2.table = []
    rcases grallocGbmInit_cases env { Proc.start with dmaAllocator := true } with
      ⟨-, hr⟩ | ⟨-, rc, g, n, cs, -, -, hr⟩ | ⟨-, fd, n, cs, -, -, -, hr⟩ <;> rw [hr] <;> rfl

/-- **Requests that return leave the service idle**, over every run of a started service. -/
theorem allocatorRun_idle (hs : env.Supplies) (hinit : (Allocator.init env).1 = 0)
    {ops : List AllocatorOp}
    (hops : Run.Along (allocatorStep cfg env decode) (Returns cfg env decode)
      (Allocator.init env).2 ops) : Idle (allocatorRun cfg env decode ops).proc := by
  refine Run.foldl_inv (fun s : Allocator => Idle s.proc) ?_ (Allocator.init_idle hinit) hops
  intro s op hp hret
  cases op with
  | allocate encodedDescriptor count =>
    simp only [Returns, allocatorStep, allocatorCall, Allocator.allocate] at hret ⊢
    cases hd : decode encodedDescriptor with
    | none => exact hp
    | some d =>
      rw [hd] at hret
      exact Allocator.allocate2_idle hs hp hret
  | allocate2 d count => exact Allocator.allocate2_idle hs hp hret
  | isSupported d => exact Allocator.isSupported_idle hp

/-- The status of an allocation by the owner of a selectable descriptor, in an idle state. -/
theorem allocate2_owner_code (hs : env.Supplies) (hsel : selectable cfg env d = true) (count : Int32)
    {p p' : Proc} (hp : Idle p) (hp' : Idle p') :
    ((ownerOf d).allocate2 cfg env d count p).1.code
      = ((ownerOf d).allocate2 cfg env d count p').1.code := by
  unfold ownerOf
  by_cases hblob : d.format = pixelFormatBlob
  · rw [if_pos hblob]
    exact (AllocatorBackendDmaBuf.allocate2_supplied hs d count hp).1.trans
      (AllocatorBackendDmaBuf.allocate2_supplied hs d count hp').1.symm
  · rw [if_neg hblob]
    rw [selectable, if_neg hblob] at hsel
    simp only [AllocatorBackendType.allocate2, AllocatorBackendGrallocGbm.allocate2]
    cases hdesc : generateGrallocGenericDesc d with
    | none => rfl
    | some desc =>
      rw [hdesc] at hsel
      exact (AllocatorBackendGrallocGbm.grallocGbmAllocate_supplied cfg hs count hp hsel).trans
        (AllocatorBackendGrallocGbm.grallocGbmAllocate_supplied cfg hs count hp' hsel).symm

/-! ## Two histories

  The same request after two histories, and where its answers differ. -/

/-- After any two histories, `isSupported` and `allocate2` of `d` give the same status and answer,
    and `allocate2` is served by the same backend. -/
def HistoryFree (cfg : BuildConfig) (env : Env)
    (decode : List UInt8 → Option Allocator.BufferDescriptorInfoV4) (d : BufferDescriptorInfo)
    (count : Int32) : Prop :=
  ∀ ops ops',
    Run.Along (allocatorStep cfg env decode) (Returns cfg env decode) (Allocator.init env).2 ops →
    Run.Along (allocatorStep cfg env decode) (Returns cfg env decode) (Allocator.init env).2 ops' →
    let s := allocatorRun cfg env decode ops
    let s' := allocatorRun cfg env decode ops'
    (s.isSupported cfg env d).1 = (s'.isSupported cfg env d).1 ∧
      (s.allocate2 cfg env d count).1.code = (s'.allocate2 cfg env d count).1.code ∧
      (s.allocate2 cfg env d count).2.mBackend = (s'.allocate2 cfg env d count).2.mBackend

/-- After a request for a BLOB of height 1, the DMA-BUF backend is left over. -/
theorem allocatorRun_blobOps (cfg : BuildConfig)
    (decode : List UInt8 → Option Allocator.BufferDescriptorInfoV4)
    (hinit : (Allocator.init env).1 = 0) :
    Run.Along (allocatorStep cfg env decode) (Returns cfg env decode) (Allocator.init env).2 blobOps ∧
      (allocatorRun cfg env decode blobOps).mBackend = some .allocatorGrallocDmabuf := by
  have hready := Allocator.init_ready hinit
  have hoptions : ∀ o ∈ (blobInfo 4096 1).additionalOptions,
      o = Allocator.standardMetadataDataspace := by
    simp [blobInfo]
  obtain ⟨da, cs, heq⟩ := Allocator.isSupported_eq cfg env hready hoptions
  have hserved : served cfg env (blobInfo 4096 1) (Allocator.init env).2
      = some .allocatorGrallocDmabuf := by
    simp [served, selectable, ownerOf, blobInfo]
  rw [hserved] at heq
  refine ⟨⟨?_, trivial⟩, ?_⟩
  · simp only [Returns, allocatorCall, heq]
    exact fun h => by cases h
  · simp only [allocatorRun, blobOps, List.foldl_cons, List.foldl_nil, allocatorStep, allocatorCall,
      heq]

/-- **A descriptor's answers are free of the history exactly if it is selectable.** -/
theorem historyFree_iff (cfg : BuildConfig) (env : Env)
    (decode : List UInt8 → Option Allocator.BufferDescriptorInfoV4) (hs : env.Supplies)
    (hinit : (Allocator.init env).1 = 0) (d : BufferDescriptorInfo) (count : Int32) :
    HistoryFree cfg env decode d count ↔ selectable cfg env d = true := by
  constructor
  · intro hfree
    by_contra hsel
    -- fresh, the service has no backend for `d`; after a BLOB it has one
    obtain ⟨hblob, hdma⟩ := allocatorRun_blobOps cfg decode hinit
    obtain ⟨-, hcode, -⟩ := hfree [] blobOps trivial hblob
    obtain ⟨da, cs, heq⟩ := Allocator.allocate2_eq cfg env d count
      (s := allocatorRun cfg env decode []) (Allocator.init_ready hinit)
    have hidle := allocatorRun_idle hs hinit hblob
    obtain ⟨da', cs', heq'⟩ := Allocator.allocate2_eq cfg env d count hidle.ready
    have hnone : (allocatorRun cfg env decode []).mBackend = none := rfl
    rw [heq, heq', served, served, if_neg hsel, if_neg hsel, hnone, hdma] at hcode
    have hok := (AllocatorBackendDmaBuf.allocate2_supplied hs d count (hidle.checked da' cs')).1
    simp only [AllocatorBackendType.allocate2] at hcode
    rw [hok] at hcode
    split at hcode <;> cases hcode
  · intro hsel ops ops' hops hops'
    have hp := allocatorRun_idle hs hinit hops
    have hp' := allocatorRun_idle hs hinit hops'
    constructor
    · by_cases hoptions : ∀ o ∈ d.additionalOptions, o = Allocator.standardMetadataDataspace
      · rw [(Allocator.isSupported_iff cfg env hp.ready).mpr ⟨hoptions, hsel⟩,
          (Allocator.isSupported_iff cfg env hp'.ready).mpr ⟨hoptions, hsel⟩]
      · rw [Allocator.isSupported_denied cfg env hoptions,
          Allocator.isSupported_denied cfg env hoptions]
    · obtain ⟨da, cs, heq⟩ := Allocator.allocate2_eq cfg env d count hp.ready
      obtain ⟨da', cs', heq'⟩ :=
        Allocator.allocate2_eq cfg env d count hp'.ready
      rw [heq, heq', served, served, if_pos hsel, if_pos hsel]
      exact ⟨allocate2_owner_code hs hsel count (hp.checked da cs) (hp'.checked da' cs'), rfl⟩

end

/-- The environment of the examples supplies everything. -/
theorem Env.plain_supplies : Env.plain.Supplies where
  alloc := fun _ => rfl
  vector := fun _ _ => rfl
  newFd := fun _ fds => by
    obtain ⟨fd, hfd⟩ := Option.isSome_iff_exists.mp (lowestFd_isSome fds)
    have := (lowestFd_fresh hfd).1
    exact ⟨fd, hfd, by omega⟩
  boCreate := fun _ _ _ _ _ => rfl

/-- A descriptor that is selectable. -/
theorem rgbaInfo_historyFree_iff :
    HistoryFree .androidBp .plain (fun _ => none) (rgbaInfo []) 1 ↔
      selectable .androidBp .plain (rgbaInfo []) = true :=
  historyFree_iff .androidBp .plain (fun _ => none) Env.plain_supplies rfl (rgbaInfo []) 1

/-- A buffer with two layers, which no backend supports. -/
def layeredInfo : BufferDescriptorInfo := ⟨64, 64, 2, 1, 0x33, 0, []⟩

/-- A fresh service has no backend for two layers; after a BLOB it allocates them. -/
theorem layers_depend_on_history :
    let s := allocatorRun .androidBp .plain (fun _ => none) []
    let s' := allocatorRun .androidBp .plain (fun _ => none) blobOps
    Run.Along (allocatorStep .androidBp .plain fun _ => none)
        (Returns .androidBp .plain fun _ => none) (Allocator.init .plain).2 blobOps ∧
      (s.isSupported .androidBp .plain layeredInfo).1 = .error .noResources ∧
      (s'.isSupported .androidBp .plain layeredInfo).1 = .ok false ∧
      (s.allocate2 .androidBp .plain layeredInfo 1).1.code = .error .noResources ∧
      (s'.allocate2 .androidBp .plain layeredInfo 1).1.code = .ok () ∧
      (s'.allocate2 .androidBp .plain layeredInfo 1).2.mBackend = some .allocatorGrallocDmabuf :=
  ⟨(allocatorRun_blobOps .androidBp (fun _ => none) rfl).1, by decide, by decide, by decide,
    by decide, by decide⟩

end GrallocGbm
