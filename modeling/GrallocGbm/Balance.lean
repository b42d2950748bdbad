/-
  What the mapper acquires and gives back.

  `acquired` collects what an import takes from the process: open descriptors and native handles.
  A free gives none of it back: the GBM backend destroys the object and its entry, the DMA-BUF
  backend its record, and the clone that `importBuffer` made and handed out, with a duplicate of
  every descriptor, stays.  So a run of imports, locks, unlocks and frees ends with what it started
  with exactly if no call of it took anything (`bufferRun_acquired_iff`), however well the frees
  match the imports.

  What takes something is `Acquires`, a question to the state and to the environment before the
  call: an import that succeeds, or a call that is the first to need the GBM driver, and gets
  it.  Whether there is still a driver to be had is the point at which a failed initialisation
  shows.  It leaves the released driver behind, and the next call finds it ready or not, as the
  released block reads; if it does, the driver is not opened again.

  The proof has nothing of its own in it but the step: every call leaves `acquired` alone or
  strictly enlarges it (`bufferStep_acquired`), and `Run.measure_eq_iff` makes a run of that.

  Blocks of memory other than handles are not in the quantity; `Accounts` counts those.
-/
import GrallocGbm.MapperState

namespace GrallocGbm

/-- The open descriptors and the allocated native handles. -/
def acquired (m : Mapper) : Finset Int × Finset Nat := (m.proc.fds, m.proc.handles)

/-- The handle whose backend a call readies, if the call gets as far as that. -/
def BufferOp.routed : BufferOp → Option NativeHandle
  | .importBuffer handle => handle.filter (fun h => h.numFds ≠ 0)
  | .freeBuffer buffer => buffer
  | .lock buffer cpuUsage => if cpuUsage = 0 then none else buffer
  | .unlock buffer => buffer

/-- The calls that take something: they import a handle, or are the first to need the GBM driver. -/
def Acquires (cfg : BuildConfig) (env : Env) (m : Mapper) (op : BufferOp) : Prop :=
  (∃ h, op.routed = some h ∧ OpensDriver env (routedTo (grallocHandle h)) m.proc) ∨
    ∃ h, op = .importBuffer (some h) ∧ ImportTaken cfg env h m.proc

/-! ## One call

  What an import has acquired when it succeeds: a block and as many descriptors as it has
  duplicated.  No other call releases any of it. -/

section

variable (cfg : BuildConfig) (env : Env) {m : Mapper}

/-- Readying a backend keeps the handles, and the descriptors unless it opens the render node. -/
theorem readied_acquired (m : Mapper) (h : NativeHandle) :
    (readied env h m.proc).handles = m.proc.handles ∧
      ((¬ OpensDriver env (routedTo (grallocHandle h)) m.proc ∧
          (readied env h m.proc).fds = m.proc.fds) ∨
        (OpensDriver env (routedTo (grallocHandle h)) m.proc ∧
          m.proc.fds ⊂ (readied env h m.proc).fds)) := by
  obtain ⟨g, fds, da, n, cs, heq, -, -, hfds, -⟩ :=
    ensureReady_spec env (routedTo (grallocHandle h)) m.proc
  rw [readied, heq]
  refine ⟨rfl, ?_⟩
  rcases hfds with ⟨hno, rfl⟩ | ⟨hopen, fd, -, hfd, rfl⟩
  · exact .inl ⟨hno, rfl⟩
  · exact .inr ⟨hopen, Finset.ssubset_insert hfd⟩

/-- Every outcome of an import for the descriptors and handles: none is taken but by readying the
    backend, or the clone's are. -/
theorem importBuffer_acquired (h : NativeHandle) (hp : ProcInv m.proc) (h0 : h.numFds ≠ 0) :
    let p := readied env h m.proc
    let p' := (m.importBuffer cfg env (some h)).2.proc
    (¬ ImportTaken cfg env h m.proc ∧ p'.fds = p.fds ∧ p'.handles = p.handles) ∨
    (ImportTaken cfg env h m.proc ∧ p.fds ⊂ p'.fds ∧ p.handles ⊆ p'.handles) := by
  intro p p'
  rcases Mapper.importBuffer_cases cfg env h hp with
    ⟨h0', -⟩ | ⟨-, hno, -, n, cs, -, hr⟩ | ⟨htaken, -, c, -, hc, hi⟩
  · exact absurd h0' h0
  · refine .inl ⟨hno, ?_, ?_⟩ <;> simp only [p', hr] <;> rfl
  · refine .inr ⟨htaken, ?_⟩
    -- the clone has at least one descriptor, and all of its descriptors are new
    have hmem := data_zero_mem_fds (c := c) (by rw [hc.numFds]; exact hc.numFds_pos h0)
    have hgrow : p.fds ⊂ p.fds ∪ c.fds.toFinset := by
      refine Finset.ssubset_iff_subset_ne.mpr ⟨Finset.subset_union_left, fun he => ?_⟩
      refine (hc.fresh _ hmem).2 ?_
      show _ ∈ p.fds
      rw [he]
      exact Finset.mem_union_right _ (List.mem_toFinset.mpr hmem)
    obtain ⟨hfds, hhandles⟩ := hi.acquired
    refine ⟨lt_of_lt_of_eq hgrow hfds.symm, ?_⟩
    show p.handles ⊆ (m.importBuffer cfg env (some h)).2.proc.handles
    rw [hhandles]
    exact Finset.subset_insert _ _

/-- **The rest of a call other than an import takes and returns nothing**: not even a free does. -/
theorem bufferStep_rest (op : BufferOp) (hp : ProcInv m.proc)
    (hop : ∀ h, op = .importBuffer (some h) → h.numFds = 0) :
    (∃ h, op.routed = some h ∧ (bufferStep cfg env m op).proc.fds = (readied env h m.proc).fds ∧
      (bufferStep cfg env m op).proc.handles = (readied env h m.proc).handles) ∨
    (op.routed = none ∧ bufferStep cfg env m op = m) := by
  cases op with
  | importBuffer handle =>
    cases handle with
    | none => exact .inr ⟨rfl, rfl⟩
    | some h =>
      have h0 := hop h rfl
      have himport : m.importBuffer cfg env (some h) = ((.badBuffer, none), m) := if_pos h0
      exact .inr ⟨by simp [BufferOp.routed, h0], by simp only [bufferStep, himport]⟩
  | freeBuffer buffer =>
    cases buffer with
    | none => exact .inr ⟨rfl, rfl⟩
    | some h =>
      refine .inl ⟨h, rfl, ?_⟩
      rcases Mapper.freeBuffer_cases env h hp with ⟨hf, -⟩ | ⟨e, heap, cs, -, -, -, hr⟩
      · exact ⟨hf.2, hf.1.handles⟩
      · simp only [bufferStep, hr, and_self]
  | lock buffer cpuUsage =>
    cases buffer with
    | none => exact .inr ⟨by simp [BufferOp.routed], rfl⟩
    | some h =>
      by_cases h0 : cpuUsage = 0
      · have hlock : m.lock env (some h) cpuUsage = ((some .badValue, none), m) := if_pos h0
        exact .inr ⟨if_pos h0, by simp only [bufferStep, hlock]⟩
      · have hs := Mapper.lock_still env h cpuUsage h0 hp
        exact .inl ⟨h, if_neg h0, hs.2, hs.1.handles⟩
  | unlock buffer =>
    cases buffer with
    | none => exact .inr ⟨rfl, rfl⟩
    | some h =>
      have hs := Mapper.unlock_still env h m
      exact .inl ⟨h, rfl, hs.2, hs.1.handles⟩

/-- A call that takes nothing leaves both sets alone, and every other call enlarges them. -/
theorem bufferStep_acquired (op : BufferOp) (hp : ProcInv m.proc) :
    (¬ Acquires cfg env m op → acquired (bufferStep cfg env m op) = acquired m) ∧
      (Acquires cfg env m op → acquired m < acquired (bufferStep cfg env m op)) := by
  by_cases hop : ∃ h, op = .importBuffer (some h) ∧ h.numFds ≠ 0
  · obtain ⟨h, rfl, h0⟩ := hop
    have hrouted : (BufferOp.importBuffer (some h)).routed = some h := by
      simp [BufferOp.routed, h0]
    obtain ⟨hh, hfds⟩ := readied_acquired env m h
    rcases importBuffer_acquired cfg env h hp h0 with
      ⟨hno, hf', hh'⟩ | ⟨htaken, hf', hh'⟩
    · have hacq : Acquires cfg env m (.importBuffer (some h)) ↔
          OpensDriver env (routedTo (grallocHandle h)) m.proc := by
        constructor
        · rintro (⟨h', hr, hopen⟩ | ⟨h', heq, ht⟩)
          · rw [hrouted] at hr
            cases hr
            exact hopen
          · cases heq
            exact absurd ht hno
        · exact fun hopen => .inl ⟨h, hrouted, hopen⟩
      rw [hacq]
      rcases hfds with ⟨hclosed, hf⟩ | ⟨hopen, hf⟩
      · exact ⟨fun _ => Prod.ext (hf'.trans hf) (hh'.trans hh), fun ho => absurd ho hclosed⟩
      · refine ⟨fun hn => absurd hopen hn, fun _ => ?_⟩
        exact Prod.lt_iff.mpr (.inl ⟨lt_of_lt_of_eq hf hf'.symm, le_of_eq (hh'.trans hh).symm⟩)
    · have hacq : Acquires cfg env m (.importBuffer (some h)) := .inr ⟨h, rfl, htaken⟩
      refine ⟨fun hn => absurd hacq hn,
        fun _ => Prod.lt_iff.mpr (.inl ⟨?_, le_of_eq_of_le hh.symm hh'⟩)⟩
      exact lt_of_le_of_lt (readied_frame env h m.proc 0).fds_sub hf'
  · have hnone : ∀ h, op = .importBuffer (some h) → h.numFds = 0 := by
      intro h heq
      by_contra h0
      exact hop ⟨h, heq, h0⟩
    have hacq : Acquires cfg env m op ↔
        ∃ h, op.routed = some h ∧ OpensDriver env (routedTo (grallocHandle h)) m.proc := by
      constructor
      · rintro (ho | ⟨h, heq, ht⟩)
        · exact ho
        · exact absurd (hnone h heq) ht.1
      · exact .inl
    rw [hacq]
    rcases bufferStep_rest cfg env op hp hnone with
      ⟨h, hr, hf', hh'⟩ | ⟨hr, hsame⟩
    · obtain ⟨hh, hfds⟩ := readied_acquired env m h
      rcases hfds with ⟨hclosed, hf⟩ | ⟨hopen, hf⟩
      · refine ⟨fun _ => Prod.ext (hf'.trans hf) (hh'.trans hh), ?_⟩
        rintro ⟨h', hr', ho⟩
        rw [hr] at hr'
        cases hr'
        exact absurd ho hclosed
      · refine ⟨fun hn => absurd ⟨h, hr, hopen⟩ hn, fun _ => ?_⟩
        exact Prod.lt_iff.mpr (.inl ⟨lt_of_lt_of_eq hf hf'.symm, le_of_eq (hh'.trans hh).symm⟩)
    · refine ⟨fun _ => by rw [hsame], ?_⟩
      rintro ⟨h, hr', -⟩
      rw [hr] at hr'
      cases hr'

end

/-! ## Runs -/

/-- **The balance of a run.**  From any reachable state, whatever the calls and however the outside
    answers: the open descriptors and the native handles at the end are those at the start exactly
    if no call imported a handle and none had to initialise the GBM driver. -/
theorem bufferRun_acquired_iff (cfg : BuildConfig) (env : Env) (pre : List MapperOp)
    (ops : List BufferOp) :
    let m := mapperRun cfg env pre
    let m' := ops.foldl (bufferStep cfg env) m
    (m'.proc.fds = m.proc.fds ∧ m'.proc.handles = m.proc.handles) ↔
      Run.Along (bufferStep cfg env) (fun m op => ¬ Acquires cfg env m op) m ops := by
  intro m m'
  have h : acquired m' = acquired m ↔ _ :=
    Run.measure_eq_iff acquired (fun m => ProcInv m.proc) (fun _ => True)
      (fun m op => ¬ Acquires cfg env m op)
      (fun m op hp _ => bufferStep_inv cfg env op hp)
      (fun m op hp _ hok => (bufferStep_acquired cfg env op hp).1 hok)
      (fun m op hp _ hbad => (bufferStep_acquired cfg env op hp).2 (not_not.mp hbad))
      ops (mapperRun_inv cfg env pre) (fun _ _ => trivial)
  rw [← h, Prod.ext_iff]
  exact Iff.rfl

/-- A mapper whose GBM driver an earlier call has initialised. -/
def Mapper.ready : Mapper := mapperRun .androidBp .plain [.buffer (.unlock (some (rgbaHandle 5)))]

/-- A buffer is imported, locked, unlocked and freed, each with success, and the clone with its
    descriptor is still there. -/
theorem freed_buffer_leaks :
    ∃ c out m1 m2 m3 m4,
      Mapper.ready.importBuffer .androidBp .plain (some (rgbaHandle 5)) = ((.none, some c), m1) ∧
      m1.lock .plain (some c) 0x3 = ((some .none, out), m2) ∧
      m2.unlock .plain (some c) = (some .none, m3) ∧
      m3.freeBuffer .plain (some c) = (some .none, m4) ∧
      Mapper.ready.proc.fds = {0, 1, 2, 3} ∧ m4.proc.fds = {0, 1, 2, 3, 4} ∧
      Mapper.ready.proc.handles = ∅ ∧ m4.proc.handles = {c.addr} :=
  ⟨_, _, _, _, _, _, rfl, rfl, rfl, rfl, by decide, by decide, by decide, by decide⟩

end GrallocGbm
