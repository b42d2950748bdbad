/-
  What the calls of the mapper do to the process.

  Everything that is proved about runs of the mapper goes through this module: no later proof
  unfolds a function of the library or of a backend.  For each of them there is one lemma that says
  every outcome it can have, with the process it leaves (`_cases`), or that says what it leaves
  alone (`_still`, `_frame`).

  Three kinds of step cover the calls.

  * An import adds one object, one table entry and the descriptors and the block of the clone, or
    adds nothing (`importClone_cases`).  `Imported` is the process after one that succeeded, with
    one constructor for each backend, and `CloneOf` is what is known of the clone.
  * A free takes one entry and its object away; its outcomes are listed with the module of the
    backend (`MapperBackendDmaBuf.freeBuffer_cases`) and with the runs (`Mapper.freeBuffer_cases`).
  * Every other call leaves the table and all objects alone but the one it is about, of which it may
    rewrite the user data (`Frame`).  `Still` is a frame that opens no descriptor either: locks,
    unlocks and sets.  Queries and reads are not still, because they export a descriptor and
    leave it open.

  In front of each of them the backend may be initialised, which opens the render node the first
  time (`OpensDriver`, `ensureReady_spec`).  An initialisation that fails leaves the released driver
  behind, which the next call may find ready or not; both are outcomes of `ensureReady_spec`.

  A frame speaks of one descriptor only.  Two frames for the same descriptor compose
  (`Frame.trans`), and any other buffer is seen unchanged through one (`Frame.boData_eq`); these two
  facts carry the history of a buffer over the calls of the others.
-/
import GrallocGbm.Mapper
import Mathlib.Tactic.Tauto

namespace GrallocGbm

/-! ## Frames

  The step lemmas of most calls say little more than what they leave alone, and that is said
  once: a call about one buffer touches that buffer's entry, its object, and nothing that is
  found under another key. -/

/-- `p'` differs from `p` at most in the user data of the object found under `fd`, in further open
    descriptors, and in what no table refers to. -/
structure Frame (fd : Int) (p p' : Proc) : Prop where
  table : p'.table = p.table
  handles : p'.handles = p.handles
  next_le : p.next ≤ p'.next
  fds_sub : p.fds ⊆ p'.fds
  live : ∀ bo, (p'.bos bo).isSome = (p.bos bo).isSome
  user_data : HasUserData p → HasUserData p'
  others : ∀ bo, (∀ e, findBufferK fd p.table = some e → e.bo ≠ bo) → p'.bos bo = p.bos bo
  ready : isGrallocGbmReady p = true → isGrallocGbmReady p' = true

namespace Frame

variable {fd : Int} {p p' p'' : Proc}

/-- Two steps about the same buffer are one. -/
theorem trans (h : Frame fd p p') (h' : Frame fd p' p'') : Frame fd p p'' where
  table := h'.table.trans h.table
  handles := h'.handles.trans h.handles
  next_le := le_trans h.next_le h'.next_le
  fds_sub := h.fds_sub.trans h'.fds_sub
  live := fun bo => (h'.live bo).trans (h.live bo)
  user_data := fun hp => h'.user_data (h.user_data hp)
  others := by
    intro bo hbo
    rw [h'.others bo (by rw [h.table]; exact hbo), h.others bo hbo]
  ready := fun hp => h'.ready (h.ready hp)

/-- A step that does not touch the objects at all. -/
theorem of_same (htable : p'.table = p.table) (hbos : p'.bos = p.bos)
    (hhandles : p'.handles = p.handles) (hnext : p.next ≤ p'.next) (hfds : p.fds ⊆ p'.fds)
    (hready : isGrallocGbmReady p = true → isGrallocGbmReady p' = true) : Frame fd p p' where
  table := htable
  handles := hhandles
  next_le := hnext
  fds_sub := hfds
  live := by simp [hbos]
  user_data := by
    intro hp bo b hb
    rw [hbos] at hb
    exact hp bo b hb
  others := by simp [hbos]
  ready := hready

/-- Doing nothing. -/
theorem refl : Frame fd p p := of_same rfl rfl rfl (le_refl _) subset_rfl id

/-- Rewriting the user data of the object found under `fd`. -/
theorem of_modify {e : AndroidBuffer} {f : GbmBoData → GbmBoData} (calls : List ExtCall)
    (he : findBufferK fd p.table = some e) :
    Frame fd p (modifyBoData e.bo f { p with calls := calls }) where
  table := rfl
  handles := rfl
  next_le := le_refl _
  fds_sub := subset_rfl
  live := fun bo => modifyBoData_isSome e.bo bo f { p with calls := calls }
  user_data := by
    intro hp bo b hb
    simp only [modifyBoData, Function.update_apply] at hb
    split at hb
    · obtain ⟨b', hb', rfl⟩ := Option.map_eq_some_iff.mp hb
      obtain ⟨d, hd⟩ := hp _ b' hb'
      exact ⟨f d, by rw [hd]; rfl⟩
    · exact hp bo b hb
  others := by
    intro bo hbo
    have hne : bo ≠ e.bo := fun heq => hbo e he heq.symm
    simp [modifyBoData, hne]
  ready := id

/-- The user data of an object that is not found under `fd`. -/
theorem boData_eq (h : Frame fd p p') {bo : Nat}
    (hbo : ∀ e, findBufferK fd p.table = some e → e.bo ≠ bo) :
    gbmBoGetUserData bo p' = gbmBoGetUserData bo p := by
  rw [gbmBoGetUserData, h.others bo hbo, gbmBoGetUserData]

end Frame

/-! ## Initialisation

  The driver is initialised by whichever call comes first, and so is the allocator of the
  DMA-BUF backend.  Both are over before the call proper starts, and touch no buffer. -/

/-- Every outcome of an initialisation: there was nothing to do, it failed, or the render node is
    open. A failure leaves the descriptors as they were, and a driver that is not the one of before.
    -/
theorem grallocGbmInit_cases (env : Env) (p : Proc) :
    let r := grallocGbmInit env p
    (isGrallocGbmReady p = true ∧ r = (0, p)) ∨
    (isGrallocGbmReady p = false ∧ ∃ rc g n cs, rc ≠ 0 ∧ p.next ≤ n ∧
      r = (rc, { p with gDriver := g, next := n, calls := cs })) ∨
    (isGrallocGbmReady p = false ∧ ∃ fd n cs, 0 ≤ fd ∧ fd ∉ p.fds ∧ p.next ≤ n ∧
      r = (0, { p with gDriver := .live fd, fds := insert fd p.fds, next := n, calls := cs })) := by
  intro r
  have hr : r = grallocGbmInit env p := rfl
  unfold grallocGbmInit callocChecked openFd at hr
  cases hready : isGrallocGbmReady p with
  | true => exact .inl ⟨rfl, by simpa [hready] using hr⟩
  | false =>
    refine .inr ?_
    simp only [hready, Bool.false_eq_true, if_false] at hr
    cases ha : env.alloc p.calls.length with
    | false =>
      simp only [ha, Bool.false_eq_true, if_false] at hr
      exact .inl ⟨rfl, _, _, _, _, by decide, Nat.le_succ _, hr⟩
    | true =>
      simp only [ha, if_true] at hr
      cases hf : env.newFd (ExtCall.alloc true :: p.calls).length p.fds with
      | none =>
        simp only [hf, addFd] at hr
        exact .inl ⟨rfl, _, _, _, _, by decide, Nat.le_succ _, hr⟩
      | some fd =>
        have hfresh := env.newFd_fresh _ _ _ hf
        simp only [hf, addFd] at hr
        split at hr
        · exact .inr ⟨rfl, fd, _, _, hfresh.1, hfresh.2, Nat.le_succ _, hr⟩
        · simp only [closeFd, Finset.erase_insert hfresh.2] at hr
          exact .inl ⟨rfl, _, _, _, _, by decide, Nat.le_succ _, hr⟩

/-- Will this call initialise the GBM driver, and so open the render node? -/
def OpensDriver (env : Env) (backend : MapperBackendType) (p : Proc) : Prop :=
  backend = .mapperGrallocGbm ∧ isGrallocGbmReady p = false ∧ (grallocGbmInit env p).1 = 0

/-- Readying a backend only ever adds the render node. -/
theorem ensureReady_spec (env : Env) (backend : MapperBackendType) (p : Proc) :
    ∃ g fds da n cs,
      (backend.ensureReady env p).2
        = { p with gDriver := g, fds := fds, dmaAllocator := da, next := n, calls := cs } ∧
      p.next ≤ n ∧ (isGrallocGbmReady p = true → g = p.gDriver) ∧
      ((¬ OpensDriver env backend p ∧ fds = p.fds) ∨
        (OpensDriver env backend p ∧ ∃ fd, 0 ≤ fd ∧ fd ∉ p.fds ∧ fds = insert fd p.fds)) ∧
      (backend = .mapperGrallocGbm → (backend.ensureReady env p).1 = true →
        isGrallocGbmReady (backend.ensureReady env p).2 = true) := by
  cases backend with
  | mapperGrallocDmabuf =>
    have hno : ¬ OpensDriver env .mapperGrallocDmabuf p := fun h => by cases h.1
    simp only [MapperBackendType.ensureReady, MapperBackendType.isReady,
      MapperBackendDmaBuf.isReady]
    cases hda : p.dmaAllocator with
    | false =>
      exact ⟨_, _, _, _, _, rfl, le_refl _, fun _ => rfl, .inl ⟨hno, rfl⟩, fun h => by cases h⟩
    | true =>
      cases hempty : env.heapListEmpty p.calls.length <;>
        exact ⟨_, _, _, _, _, rfl, le_refl _, fun _ => rfl, .inl ⟨hno, rfl⟩, fun h => by cases h⟩
  | mapperGrallocGbm =>
    simp only [MapperBackendType.ensureReady, MapperBackendType.isReady, MapperBackendType.init]
    cases hready : isGrallocGbmReady p with
    | true =>
      refine ⟨_, _, _, _, _, rfl, le_refl _, fun _ => rfl, .inl ⟨?_, rfl⟩, fun _ _ => hready⟩
      intro h
      rw [OpensDriver, hready] at h
      cases h.2.1
    | false =>
      rcases grallocGbmInit_cases env p with ⟨h, -⟩ | ⟨-, rc, g, n, cs, hrc, hn, hr⟩ |
        ⟨-, fd, n, cs, h0, hfd, hn, hr⟩
      · rw [hready] at h
        cases h
      · refine ⟨g, p.fds, p.dmaAllocator, n, cs, ?_, hn, ?_, .inl ⟨?_, rfl⟩, ?_⟩
        · simp only [hr]
        · intro h
          cases h
        · intro h
          exact hrc (by simpa [hr] using h.2.2)
        · intro _ h
          exact absurd (by simpa [hr] using h) hrc
      · refine ⟨.live fd, _, p.dmaAllocator, n, cs, ?_, hn, ?_, .inr ⟨?_, fd, h0, hfd, rfl⟩, ?_⟩
        · simp only [hr]
        · intro h
          cases h
        · exact ⟨rfl, hready, by rw [hr]⟩
        · intro _ _
          simp only [hr]
          rfl

/-- Readying a backend touches no buffer, whichever one the call is about. -/
theorem ensureReady_frame (env : Env) (backend : MapperBackendType) (p : Proc) (fd : Int) :
    Frame fd p (backend.ensureReady env p).2 := by
  obtain ⟨g, fds, da, n, cs, heq, hn, hg, hfds, -⟩ := ensureReady_spec env backend p
  rw [heq]
  refine .of_same rfl rfl rfl hn ?_ ?_
  · rcases hfds with ⟨-, rfl⟩ | ⟨-, fd, -, -, rfl⟩
    · exact subset_rfl
    · exact Finset.subset_insert _ _
  · intro hready
    rw [← hready]
    unfold isGrallocGbmReady
    rw [hg hready]

/-! ## Cloning -/

/-- Duplicating descriptors one by one: all of them, each fresh, or, after a failure, none of them
    and the process as it was. -/
theorem dupAll_spec (env : Env) (l : List Int) (p : Proc) :
    (∃ ds cs, dupAll env l p = (some ds, { p with fds := p.fds ∪ ds.toFinset, calls := cs }) ∧
      ds.length = l.length ∧ ∀ d ∈ ds, 0 ≤ d ∧ d ∉ p.fds) ∨
    (∃ cs, dupAll env l p = (none, { p with calls := cs })) := by
  induction l generalizing p with
  | nil => exact .inl ⟨[], p.calls, by simp [dupAll], rfl, by simp⟩
  | cons fd l ih =>
    unfold dupAll
    rcases dupFd_cases env fd p with hdup | ⟨d, -, hnew, hdup⟩
    · exact .inr ⟨.dup fd none :: p.calls, by rw [hdup]⟩
    · have hfresh := env.newFd_fresh _ _ _ hnew
      simp only [hdup]
      rcases ih { p with fds := insert d p.fds, calls := .dup fd (some d) :: p.calls } with
        ⟨ds, cs, heq, hlen, hds⟩ | ⟨cs, heq⟩
      · refine .inl ⟨d :: ds, cs, ?_, by rw [List.length_cons, hlen, List.length_cons], ?_⟩
        · rw [heq]
          simp [Finset.insert_union]
        · intro x hx
          rcases List.mem_cons.mp hx with rfl | hx
          · exact hfresh
          · obtain ⟨h0, hnot⟩ := hds x hx
            exact ⟨h0, fun hmem => hnot (Finset.mem_insert_of_mem hmem)⟩
      · refine .inr ⟨cs, ?_⟩
        rw [heq]
        simp only [closeFd, Finset.erase_insert hfresh.2]

/-- The descriptors of a handle whose first words are `ds`. -/
theorem fds_of_data {c : NativeHandle} {ds : List Int} (hlen : ds.length = c.numFds.toNat)
    (hdata : ∀ i, i < ds.length → c.data i = ds.getD i 0) : c.fds = ds := by
  apply List.ext_getElem
  · simp [NativeHandle.fds, hlen]
  · intro i h1 h2
    simp only [NativeHandle.fds, List.getElem_map, List.getElem_range]
    rw [hdata i h2, List.getD_eq_getElem _ _ h2]

/-- A clone lives in a fresh block, and has a fresh duplicate for every descriptor. -/
theorem nativeHandleClone_spec (env : Env) (h : NativeHandle) {p : Proc}
    (hp : ∀ a ∈ p.handles, a < p.next) :
    (∃ c cs, nativeHandleClone env h p = (some c, { p with
        next := p.next + 1
        handles := insert p.next p.handles
        fds := p.fds ∪ c.fds.toFinset
        calls := cs }) ∧
      c.addr = p.next ∧ c.numFds = h.numFds ∧ c.numInts = h.numInts ∧
      0 ≤ h.numFds ∧ 0 ≤ h.numInts ∧ (∀ d ∈ c.fds, 0 ≤ d ∧ d ∉ p.fds) ∧
      ∀ i, h.numFds.toNat ≤ i → i < (h.numFds + h.numInts).toNat → c.data i = h.data i) ∨
    (∃ n cs, nativeHandleClone env h p = (none, { p with next := n, calls := cs }) ∧
      p.next ≤ n) := by
  unfold nativeHandleClone nativeHandleCreate callocChecked
  by_cases hbad : h.numFds < 0 ∨ h.numInts < 0 ∨ 1024 < h.numFds ∨ 1024 < h.numInts
  · rw [if_pos hbad]
    exact .inr ⟨_, _, rfl, le_refl _⟩
  rw [if_neg hbad]
  cases ha : env.alloc p.calls.length with
  | false => exact .inr ⟨_, _, rfl, Nat.le_succ _⟩
  | true =>
    simp only [if_true]
    rcases dupAll_spec env h.fds { p with
      next := p.next + 1
      calls := .alloc true :: p.calls
      handles := insert p.next p.handles } with ⟨ds, cs, heq, hlen, hds⟩ | ⟨cs, heq⟩
    · have hlen' : ds.length = h.numFds.toNat := by simpa [NativeHandle.fds] using hlen
      let c : NativeHandle := ⟨p.next, h.numFds, h.numInts, fun i =>
        if i < ds.length then ds.getD i 0
        else if i < (h.numFds + h.numInts).toNat then h.data i
        else env.memory p.next i⟩
      have hfds : c.fds = ds := fds_of_data hlen' (fun i hi => if_pos hi)
      rw [heq]
      refine .inl ⟨c, cs, ?_, rfl, rfl, rfl, by omega, by omega, ?_, ?_⟩
      · rw [hfds]
      · rw [hfds]
        exact hds
      · intro i hi hi'
        exact (if_neg (by omega)).trans (if_pos hi')
    · rw [heq]
      have hnot : p.next ∉ p.handles := fun hmem => lt_irrefl _ (hp _ hmem)
      refine .inr ⟨p.next + 1, cs, ?_, Nat.le_succ _⟩
      simp only [nativeHandleDelete, Finset.erase_insert hnot]

/-- The word that the library takes for the descriptor is one of the handle's descriptors. -/
theorem data_zero_mem_fds {c : NativeHandle} (h : 0 < c.numFds) : c.data 0 ∈ c.fds :=
  List.mem_map_of_mem (List.mem_range.mpr (by omega))

/-! ## Import

  The cases of an import up to its backend, and in each backend. -/

/-- Does everything the rest of an import asks of the outside succeed: the clone of the handle and,
    for the GBM backend, the descriptor block and `gbm_bo_import`? -/
def CloneTaken (cfg : BuildConfig) (env : Env) (h : NativeHandle) (backend : MapperBackendType)
    (p : Proc) : Prop :=
  ∃ c p', nativeHandleClone env h p = (some c, p') ∧
    (backend = .mapperGrallocGbm → env.alloc p'.calls.length = true ∧
      (env.boImport (p'.calls.length + 1) (importArgs cfg (grallocHandle c)).1
        (importArgs cfg (grallocHandle c)).2).isSome = true)

/-- The process after an import whose clone is `c`, from `p`. -/
inductive Imported (cfg : BuildConfig) (p : Proc) (c : NativeHandle) : MapperBackendType → Proc → Prop
  | gbm (layout : BoLayout) (heap : Finset Nat) (cs : List ExtCall) :
    Imported cfg p c .mapperGrallocGbm { p with
      table := ⟨p.next + 6, c.data 0, p.next + 2⟩ :: p.table
      bos := Function.update p.bos (p.next + 2)
        (some (importedBo cfg (grallocHandle c) layout (p.next + 3)))
      fds := p.fds ∪ c.fds.toFinset
      handles := insert p.next p.handles
      heap := heap
      next := p.next + 7
      calls := cs }
  | dmabuf (t : List DmaBufferInfo) (cs : List ExtCall) :
    Imported cfg p c .mapperGrallocDmabuf { p with
      fds := p.fds ∪ c.fds.toFinset
      handles := insert p.next p.handles
      importedBufferTable := t
      next := p.next + 2
      calls := cs }

/-- On either backend, an import keeps the clone's block and descriptors. -/
theorem Imported.acquired {cfg : BuildConfig} {p p' : Proc} {c : NativeHandle}
    {backend : MapperBackendType} (h : Imported cfg p c backend p') :
    p'.fds = p.fds ∪ c.fds.toFinset ∧ p'.handles = insert p.next p.handles := by
  cases h with
  | gbm => exact ⟨rfl, rfl⟩
  | dmabuf => exact ⟨rfl, rfl⟩

/-- What is known of the clone `c` of `h` made in `p`. -/
structure CloneOf (h : NativeHandle) (p : Proc) (c : NativeHandle) : Prop where
  addr : c.addr = p.next
  numFds : c.numFds = h.numFds
  numInts : c.numInts = h.numInts
  numFds_nonneg : 0 ≤ h.numFds
  numInts_nonneg : 0 ≤ h.numInts
  fresh : ∀ d ∈ c.fds, 0 ≤ d ∧ d ∉ p.fds
  ints : ∀ i, h.numFds.toNat ≤ i → i < (h.numFds + h.numInts).toNat → c.data i = h.data i

/-- A handle that could be cloned has no negative count. -/
theorem CloneOf.numFds_pos {h c : NativeHandle} {p : Proc} (hc : CloneOf h p c)
    (h0 : h.numFds ≠ 0) : 0 < h.numFds := by
  have := hc.numFds_nonneg
  omega

/-- Closing the duplicates of a clone gives back the descriptors of before. -/
theorem CloneOf.fds_sdiff {h c : NativeHandle} {p : Proc} (hc : CloneOf h p c) :
    (p.fds ∪ c.fds.toFinset) \ c.fds.toFinset = p.fds := by
  rw [Finset.union_sdiff_right, Finset.sdiff_eq_self_iff_disjoint, Finset.disjoint_right]
  intro d hd
  exact (hc.fresh d (List.mem_toFinset.mp hd)).2

/-- Every outcome of the rest of an import.  A refused one leaves nothing behind. -/
theorem importClone_cases (cfg : BuildConfig) (env : Env) (h : NativeHandle)
    (backend : MapperBackendType) {p : Proc} (hp : ∀ a ∈ p.handles, a < p.next)
    (hready : backend = .mapperGrallocGbm → isGrallocGbmReady p = true) :
    let r := importClone cfg env h backend p
    (¬ CloneTaken cfg env h backend p ∧ r.1 = (.noResources, none) ∧
      ∃ n cs, p.next ≤ n ∧ r.2 = { p with next := n, calls := cs }) ∨
    (CloneTaken cfg env h backend p ∧ ∃ c, r.1 = (.none, some c) ∧ CloneOf h p c ∧
      Imported cfg p c backend r.2) := by
  intro r
  have hr : r = importClone cfg env h backend p := rfl
  unfold importClone at hr
  rcases nativeHandleClone_spec env h hp with
    ⟨c, cs, hclone, h1, h2, h3, h4, h5, h6, h7⟩ | ⟨n, cs, hclone, hn⟩
  swap
  · refine .inl ⟨?_, ?_⟩
    · rintro ⟨c, p', heq, -⟩
      rw [hclone] at heq
      cases heq
    · rw [hr, hclone]
      exact ⟨rfl, n, cs, hn, rfl⟩
  have hc : CloneOf h p c := ⟨h1, h2, h3, h4, h5, h6, h7⟩
  have hnot : p.next ∉ p.handles := fun hmem => lt_irrefl _ (hp _ hmem)
  simp only [hclone] at hr
  cases backend with
  | mapperGrallocDmabuf =>
    refine .inr ⟨⟨c, _, hclone, fun h => by cases h⟩, c, ?_⟩
    obtain ⟨t, himport⟩ := MapperBackendDmaBuf.importBuffer_spec c { p with
      next := p.next + 1
      handles := insert p.next p.handles
      fds := p.fds ∪ c.fds.toFinset
      calls := cs }
    rw [hr, himport]
    exact ⟨rfl, hc, .dmabuf t cs⟩
  | mapperGrallocGbm =>
    have hready' := hready rfl
    rcases grallocGbmAndroidBufferImport_cases cfg env c { p with
        next := p.next + 1
        handles := insert p.next p.handles
        fds := p.fds ∪ c.fds.toFinset
        calls := cs } with
      ⟨hno, -⟩ | ⟨-, ha, hi⟩ | ⟨-, ha, hb, hi⟩ | ⟨layout, -, ha, hb, hi⟩
    · exact absurd (hready'.symm.trans hno) (by simp)
    · refine .inl ⟨?_, ?_⟩
      · rintro ⟨c', p', heq, htaken⟩
        rw [hclone] at heq
        cases heq
        exact absurd (ha.symm.trans (htaken rfl).1) (by simp)
      · simp only [hi] at hr
        rw [if_pos (by decide)] at hr
        simp only [nativeHandleDelete, nativeHandleClose, hc.fds_sdiff, hc.addr,
          Finset.erase_insert hnot] at hr
        rw [hr]
        exact ⟨rfl, p.next + 2, _, Nat.le_add_right _ _, rfl⟩
    · refine .inl ⟨?_, ?_⟩
      · rintro ⟨c', p', heq, htaken⟩
        rw [hclone] at heq
        cases heq
        have hsome := (htaken rfl).2
        rw [hb] at hsome
        cases hsome
      · simp only [hi] at hr
        rw [if_pos (by decide)] at hr
        simp only [nativeHandleDelete, nativeHandleClose, hc.fds_sdiff, hc.addr,
          Finset.erase_insert hnot] at hr
        rw [hr]
        exact ⟨rfl, p.next + 2, _, Nat.le_add_right _ _, rfl⟩
    · refine .inr ⟨⟨c, _, hclone, fun _ => ⟨ha, by rw [hb]; rfl⟩⟩, c, ?_⟩
      rw [hr, hi]
      exact ⟨rfl, hc, .gbm layout _ _⟩

/-! ## The calls that keep the table

  Locks and unlocks change no entry, whatever they do to user data. -/

/-- `Frame`, and no descriptor is opened either. -/
def Still (fd : Int) (p p' : Proc) : Prop := Frame fd p p' ∧ p'.fds = p.fds

/-- Doing nothing. -/
theorem Still.refl {fd : Int} {p : Proc} : Still fd p p := ⟨.refl, rfl⟩

/-- Calls on record, and nothing else. -/
theorem Still.log {fd : Int} {p : Proc} {calls : List ExtCall} :
    Still fd p { p with calls := calls } :=
  ⟨.of_same rfl rfl rfl (le_refl _) subset_rfl id, rfl⟩

/-- A lock rewrites the user data of its object at most. -/
theorem grallocGbmAndroidBufferLock_still (env : Env) (handle : NativeHandle) (usage : UInt32)
    {p : Proc} (hp : HasUserData p) :
    Still (grallocHandle handle).primeFd p (grallocGbmAndroidBufferLock env handle usage p).2.2 := by
  rcases grallocGbmAndroidBufferLock_cases env handle usage hp with
    ⟨ret, hr, -⟩ | ⟨buffer, d, -, hf, -, -, ⟨-, hr⟩ | ⟨-, -, transfer, hr | ⟨a, hr⟩⟩⟩ <;> rw [hr]
  · exact .refl
  · exact ⟨.of_modify p.calls hf, rfl⟩
  · exact .log
  · exact ⟨.of_modify _ hf, rfl⟩

/-- So does an unlock. -/
theorem grallocGbmAndroidBufferUnlock_still (handle : NativeHandle) (p : Proc) :
    Still (grallocHandle handle).primeFd p (grallocGbmAndroidBufferUnlock handle p).2 := by
  rcases grallocGbmAndroidBufferUnlock_cases handle p with
    hr | ⟨buffer, d, hf, -, -, ⟨-, hr⟩ | ⟨-, hr⟩⟩ <;> rw [hr]
  · exact .refl
  · exact ⟨.of_modify _ hf, rfl⟩
  · exact ⟨.of_modify p.calls hf, rfl⟩

/-- The locks of the other backend are about its own records, which no frame speaks of. -/
theorem MapperBackendDmaBuf.lock_still (env : Env) (handle : NativeHandle) (cpuUsage : UInt64)
    (p : Proc) (fd : Int) : Still fd p (MapperBackendDmaBuf.lock env handle cpuUsage p).2.2 := by
  have hsame : ∀ t cs, Still fd p { p with importedBufferTable := t, calls := cs } :=
    fun t cs => ⟨.of_same rfl rfl rfl (le_refl _) subset_rfl id, rfl⟩
  rcases MapperBackendDmaBuf.lock_cases env handle cpuUsage p with
    ⟨-, hr⟩ | ⟨bi, -, ⟨-, hr⟩ | ⟨a, q, hq, hr⟩⟩
  · rw [hr]
    exact .refl
  · rw [hr]
    exact .log
  · rcases hq with ⟨-, rfl⟩ | ⟨-, rfl⟩ <;> rcases hr with ⟨-, hr⟩ | ⟨-, hr⟩ <;> rw [hr]
    · exact .refl
    · exact .log
    · exact hsame _ _
    · exact hsame _ _

/-- So are its unlocks. -/
theorem MapperBackendDmaBuf.unlock_still (handle : NativeHandle) (p : Proc) (fd : Int) :
    Still fd p (MapperBackendDmaBuf.unlock handle p).2 := by
  unfold MapperBackendDmaBuf.unlock
  dsimp only
  split
  · exact .refl
  · exact .log

/-- And its frees. -/
theorem MapperBackendDmaBuf.freeBuffer_still (env : Env) (handle : NativeHandle) (p : Proc)
    (fd : Int) : Still fd p (MapperBackendDmaBuf.freeBuffer env handle p).2 := by
  rcases MapperBackendDmaBuf.freeBuffer_cases env handle p with ⟨-, hr⟩ | ⟨bi, -, hr⟩ <;> rw [hr]
  · exact .refl
  · exact ⟨.of_same rfl rfl rfl (le_refl _) subset_rfl id, rfl⟩

/-! ## Metadata

  A read is a query and a dispatch; a set is a staging and an assignment. -/

/-- Every outcome of a query: it gives up before it has done anything, or it has opened a
    descriptor for the object. -/
theorem grallocGbmAndroidBufferQuery_cases (env : Env) (handle : NativeHandle) {p : Proc}
    (hp : HasUserData p) :
    let g := grallocHandle handle
    let r := grallocGbmAndroidBufferQuery env handle p
    ((∀ info, r.1 ≠ .ok info) ∧ r.2 = p ∧
      ∀ e, findBufferK g.primeFd p.table = some e → e.bo = 0 ∨ p.bos e.bo = none) ∨
    (∃ e b d, findBufferK g.primeFd p.table = some e ∧ e.bo ≠ 0 ∧ p.bos e.bo = some b ∧
      b.data = some d ∧ r.2 = (gbmBoGetFd env e.bo p).2 ∧
      r.1 = match grallocGbmCalculateAndroidPixelStride g.format b.layout.stride with
        | none => .crash
        | some stride => .ok (bufferInfo g e (gbmBoGetFd env e.bo p).1 b d stride)) := by
  intro g r
  have hr : r = grallocGbmAndroidBufferQuery env handle p := rfl
  unfold grallocGbmAndroidBufferQuery at hr
  cases hf : findBufferK g.primeFd p.table with
  | none =>
    simp only [g] at hf
    simp only [hf] at hr
    exact .inl ⟨by simp [hr], by rw [hr], fun e he => by cases he⟩
  | some e =>
    simp only [g] at hf
    simp only [hf] at hr
    by_cases h0 : e.bo = 0
    · rw [if_pos h0] at hr
      exact .inl ⟨by simp [hr], by rw [hr], fun e' he => .inl (Option.some.inj he ▸ h0)⟩
    rw [if_neg h0] at hr
    cases hb : p.bos e.bo with
    | none =>
      simp only [hb] at hr
      exact .inl ⟨by simp [hr], by rw [hr], fun e' he => .inr (Option.some.inj he ▸ hb)⟩
    | some b =>
      obtain ⟨d, hd⟩ := hp e.bo b hb
      have hdata : gbmBoGetUserData e.bo (gbmBoGetFd env e.bo p).2 = some d := by
        rw [gbmBoGetUserData]
        simp [gbmBoGetFd, openFd, hb, hd]
      simp only [hb, grallocGbmBoUserDataInit_of_some hdata] at hr
      refine .inr ⟨e, b, d, rfl, h0, hb, hd, ?_⟩
      rw [hr]
      cases grallocGbmCalculateAndroidPixelStride g.format b.layout.stride with
      | none => exact ⟨rfl, rfl⟩
      | some stride => exact ⟨rfl, rfl⟩

/-- Exporting a descriptor opens one, and that is all. -/
theorem gbmBoGetFd_frame (env : Env) (bo : Nat) (p : Proc) (fd : Int) :
    Frame fd p (gbmBoGetFd env bo p).2 := by
  unfold gbmBoGetFd openFd
  refine .of_same rfl rfl rfl (le_refl _) ?_ id
  cases env.newFd p.calls.length p.fds with
  | none => exact subset_rfl
  | some fd => exact Finset.subset_insert _ _

/-- A getter leaves the process alone, or as its provider leaves it. -/
theorem provideStandardMetadata_leaves (env : Env) (type : StandardMetadataType)
    (provider : Proc → Provided × Proc) (p : Proc) :
    (provideStandardMetadata env type provider p).2.2 = p ∨
      (provideStandardMetadata env type provider p).2.2 = (provider p).2 := by
  unfold provideStandardMetadata
  split
  · exact .inl rfl
  · right
    split <;> rename_i heq <;> rw [heq]

/-- The GBM getter leaves the process alone, or has opened a descriptor for an object. -/
theorem MapperBackendGrallocGbm.getStandardMetadata_leaves (env : Env) (handle : NativeHandle)
    (type : StandardMetadataType) {p : Proc} (hp : HasUserData p) :
    (MapperBackendGrallocGbm.getStandardMetadata env handle type p).2.2 = p ∨
      ∃ bo, (MapperBackendGrallocGbm.getStandardMetadata env handle type p).2.2
        = (gbmBoGetFd env bo p).2 := by
  have hprovider : (grallocGbmQueryAndroidBufferMetadata env handle type p).2
      = (grallocGbmAndroidBufferQuery env handle p).2 := by
    unfold grallocGbmQueryAndroidBufferMetadata
    split <;> rename_i heq <;> rw [heq]
  rw [MapperBackendGrallocGbm.getStandardMetadata]
  rcases provideStandardMetadata_leaves env type
      (grallocGbmQueryAndroidBufferMetadata env handle type) p with hr | hr
  · exact .inl hr
  · rw [hr, hprovider]
    rcases grallocGbmAndroidBufferQuery_cases env handle hp with
      ⟨-, hr, -⟩ | ⟨e, b, d, -, -, -, -, hr, -⟩
    · exact .inl hr
    · exact .inr ⟨e.bo, hr⟩

/-- The DMA-BUF getter leaves the process alone. -/
theorem MapperBackendDmaBuf.getStandardMetadata_leaves (env : Env) (handle : NativeHandle)
    (type : StandardMetadataType) (p : Proc) :
    (MapperBackendDmaBuf.getStandardMetadata env handle type p).2.2 = p := by
  rcases provideStandardMetadata_leaves env type (queryAndroidBufferMetadata handle type) p with
    hr | hr <;> rw [MapperBackendDmaBuf.getStandardMetadata, hr]
  unfold queryAndroidBufferMetadata
  split
  · rfl
  · rfl

/-- Every outcome of the GBM backend's setter: no object is found, or its metadata is rewritten. -/
theorem MapperBackendGrallocGbm.setStandardMetadata_cases (handle : NativeHandle)
    (type : StandardMetadataType) (metadata : BufferMetadata) {p : Proc} (hp : HasUserData p) :
    let r := MapperBackendGrallocGbm.setStandardMetadata handle type metadata p
    (r.1 ≠ .ok 0 ∧ r.2 = p ∧
      ∀ e, findBufferK (grallocHandle handle).primeFd p.table = some e →
        e.bo = 0 ∨ p.bos e.bo = none) ∨
    (∃ e, findBufferK (grallocHandle handle).primeFd p.table = some e ∧
      r = (.ok 0, modifyBoData e.bo
        (fun d => { d with metadata := storeMetadata type metadata d.metadata }) p)) := by
  intro r
  have hr : r = MapperBackendGrallocGbm.setStandardMetadata handle type metadata p := rfl
  unfold MapperBackendGrallocGbm.setStandardMetadata grallocGbmAndroidBufferGetExtdata at hr
  cases hf : findBufferK (grallocHandle handle).primeFd p.table with
  | none =>
    simp only [hf] at hr
    exact .inl ⟨by simp [hr, eINVAL], by rw [hr], fun e he => by cases he⟩
  | some e =>
    simp only [hf] at hr
    by_cases h0 : e.bo = 0
    · rw [if_pos h0] at hr
      exact .inl ⟨by simp [hr, eINVAL], by rw [hr], fun e' he => .inl (Option.some.inj he ▸ h0)⟩
    rw [if_neg h0] at hr
    cases hb : p.bos e.bo with
    | none =>
      simp only [grallocGbmBoUserDataInit, hb] at hr
      exact .inl ⟨by simp [hr], by rw [hr], fun e' he => .inr (Option.some.inj he ▸ hb)⟩
    | some b =>
      obtain ⟨d, hd⟩ := hp.exists_data e.bo (by rw [hb]; rfl)
      simp only [grallocGbmBoUserDataInit_of_some hd] at hr
      exact .inr ⟨e, rfl, hr⟩

/-- A set rewrites the user data of its object at most. -/
theorem MapperBackendGrallocGbm.setStandardMetadata_still (handle : NativeHandle)
    (type : StandardMetadataType) (metadata : BufferMetadata) {p : Proc} (hp : HasUserData p) :
    Still (grallocHandle handle).primeFd p
      (MapperBackendGrallocGbm.setStandardMetadata handle type metadata p).2 := by
  rcases MapperBackendGrallocGbm.setStandardMetadata_cases handle type metadata hp with
    ⟨-, hr, -⟩ | ⟨e, hf, hr⟩ <;> rw [hr]
  · exact .refl
  · exact ⟨.of_modify p.calls hf, rfl⟩

/-- Staging a payload takes metadata blocks, and nothing else. -/
theorem stageMetadata_spec (type : StandardMetadataType) (m : Payload) (p : Proc) :
    ∃ heap n, (stageMetadata type m p).2 = { p with heap := heap, next := n } ∧ p.next ≤ n := by
  unfold stageMetadata callocBlock
  split
  any_goals exact ⟨_, _, rfl, le_refl _⟩
  · exact ⟨_, _, rfl, Nat.le_succ _⟩
  · exact ⟨_, _, rfl, Nat.le_succ _⟩
  · split
    · exact ⟨_, _, rfl, le_refl _⟩
    · exact ⟨_, _, rfl, Nat.le_succ _⟩

end GrallocGbm
