/-
  CPU access to a DMA-BUF buffer is bracketed: a lock tells the kernel that the CPU's access starts
  (`CpuSyncStart`), an unlock that it ends (`CpuSyncEnd`), each with a sync type.

  A lock takes the type from the usage of the call, an unlock from the usage in the handle, and
  nothing is remembered between the two; besides, each refuses a framebuffer, and again by a
  different usage.

                  sync type from     refused for a framebuffer of
      lock        cpuUsage           cpuUsage
      unlock      gHandle->usage     gHandle->usage

  A run of one client, which unlocks only what it has locked, therefore is bracketed exactly if the
  handle is no framebuffer and the usages of the locks ask for the handle's own type
  (`syncRun_bracketed_iff`).

  The client keeps a ledger of its own, the usages of the locks that have succeeded and not been
  ended (`SyncRun.locked`); whether a call is right (`SyncOk`) is asked of the calls it makes to the
  kernel, which the process records, and of that ledger alone.  The test of one call is
  `SyncInv.step_ok_iff`.

  A lock may also map the buffer, and a first call on the backend queries the heaps: neither is a
  sync call (`startOf_heapLists`, `endOf_heapLists`).
-/
import GrallocGbm.MapperState

namespace GrallocGbm

/-! ## The client's run

  Locks and unlocks of one handle, in any order a client may make them. -/

/-- A call on one buffer. -/
inductive SyncOp where
  | lock (cpuUsage : UInt64)
  | unlock

/-- A mapper with one client: the usages of its successful locks, newest first, and the number of its
    unlocks. -/
structure SyncRun where
  mapper : Mapper
  locked : List UInt64
  unlocked : Nat

/-- The client has not called yet. -/
def SyncRun.start (m : Mapper) : SyncRun := ⟨m, [], 0⟩

/-- One call, and what the client learns from it. -/
def syncStep (env : Env) (h : NativeHandle) (s : SyncRun) : SyncOp → SyncRun
  | .lock cpuUsage =>
    let r := s.mapper.lock env (some h) cpuUsage
    { s with mapper := r.2, locked := if r.1.1 = some .none then cpuUsage :: s.locked else s.locked }
  | .unlock => { s with mapper := (s.mapper.unlock env (some h)).2, unlocked := s.unlocked + 1 }

/-- An unlock needs a lock that is outstanding. -/
def SyncAllowed (s : SyncRun) (op : SyncOp) : Prop :=
  op = .unlock → s.unlocked < s.locked.length

/-- The type of a `CpuSyncStart` on `fd`. -/
def startOf (fd : Int) : ExtCall → Option SyncType
  | .cpuSyncStart fd' syncType => if fd' = fd then some syncType else none
  | _ => none

/-- The type of a `CpuSyncEnd` on `fd`. -/
def endOf (fd : Int) : ExtCall → Option SyncType
  | .cpuSyncEnd fd' syncType => if fd' = fd then some syncType else none
  | _ => none

/-- Since `m`, the ends on `fd` are the starts on it in some order. -/
def Bracketed (fd : Int) (m m' : Mapper) : Prop :=
  ∃ calls, m'.proc.calls = calls ++ m.proc.calls ∧
    (calls.filterMap (endOf fd)).Perm (calls.filterMap (startOf fd))

/-- What a step of the run that began in `m` must do: an unlock succeeds, and when all locks are
    undone the accesses are bracketed. -/
def SyncOk (env : Env) (h : NativeHandle) (m : Mapper) (s : SyncRun) (op : SyncOp) : Prop :=
  (op = .unlock → (s.mapper.unlock env (some h)).1 = some .none) ∧
    let s' := syncStep env h s op
    s'.unlocked = s'.locked.length → Bracketed (grallocHandle h).primeFd m s'.mapper

/-- The usage asks for the sync type of the handle's own usage. -/
def SameSync (h : NativeHandle) (cpuUsage : UInt64) : Prop :=
  syncTypeOf cpuUsage.toUInt32 = syncTypeOf (grallocHandle h).usage

/-- The handle is no framebuffer, and the locks asked for its sync type if all of them are undone
    now. -/
def SyncStepMatched (h : NativeHandle) (s : SyncRun) (op : SyncOp) : Prop :=
  op = .unlock → (grallocHandle h).usage &&& grallocUsageHwFb = 0 ∧
    (s.unlocked + 1 = s.locked.length → ∀ u ∈ s.locked, SameSync h u)

/-! ## One call -/

/-- The DMA-BUF backend is always ready in the end, and asks for nothing but the heaps. -/
theorem ensureReady_dmabuf (env : Env) (p : Proc) :
    ∃ da cs, MapperBackendType.ensureReady env .mapperGrallocDmabuf p
      = (true, { p with dmaAllocator := da, calls := cs ++ p.calls }) ∧
        ∀ call ∈ cs, ∃ empty, call = .heapList empty := by
  simp only [MapperBackendType.ensureReady, MapperBackendType.isReady, MapperBackendDmaBuf.isReady]
  cases hda : p.dmaAllocator with
  | false =>
    exact ⟨true, [], rfl, fun _ h => absurd h List.not_mem_nil⟩
  | true =>
    cases hempty : env.heapListEmpty p.calls.length
    · exact ⟨true, [.heapList false], by simp, fun _ h => ⟨_, List.mem_singleton.mp h⟩⟩
    · exact ⟨true, [.heapList true], by simp [MapperBackendType.init, MapperBackendDmaBuf.init],
        fun _ h => ⟨_, List.mem_singleton.mp h⟩⟩

/-- A call on a DMA-BUF buffer. -/
theorem Mapper.withBackend_dmabuf {α : Type} {env : Env} {h : NativeHandle} {m : Mapper}
    {noResources : α} {k : MapperBackendType → Proc → α × Proc}
    (hdma : routedTo (grallocHandle h) = .mapperGrallocDmabuf) :
    ∃ da cs, (∀ call ∈ cs, ∃ empty, call = .heapList empty) ∧
      let r := k .mapperGrallocDmabuf { m.proc with dmaAllocator := da, calls := cs ++ m.proc.calls }
      m.withBackend env h noResources k = (r.1, ⟨r.2, some .mapperGrallocDmabuf⟩) := by
  obtain ⟨da, cs, hready, hcs⟩ := ensureReady_dmabuf env m.proc
  refine ⟨da, cs, hcs, ?_⟩
  rw [withBackend_ready (by rw [hdma, hready]), hdma, hready]

section

variable {env : Env} {h : NativeHandle} {m : Mapper} {cs : List ExtCall}

/-- Queries of the heaps start no access. -/
theorem startOf_heapLists (fd : Int) (hcs : ∀ call ∈ cs, ∃ empty, call = .heapList empty) :
    cs.filterMap (startOf fd) = [] := by
  rw [List.filterMap_eq_nil_iff]
  intro call hcall
  obtain ⟨empty, rfl⟩ := hcs call hcall
  rfl

/-- And end none. -/
theorem endOf_heapLists (fd : Int) (hcs : ∀ call ∈ cs, ∃ empty, call = .heapList empty) :
    cs.filterMap (endOf fd) = [] := by
  rw [List.filterMap_eq_nil_iff]
  intro call hcall
  obtain ⟨empty, rfl⟩ := hcs call hcall
  rfl

/-- **What a lock starts**: one access of the type of its usage if it succeeds, and none if not. -/
theorem Mapper.lock_syncs (env : Env) (m : Mapper)
    (hdma : routedTo (grallocHandle h) = .mapperGrallocDmabuf) (cpuUsage : UInt64) :
    let fd := (grallocHandle h).primeFd
    let r := m.lock env (some h) cpuUsage
    ∃ calls, r.2.proc.calls = calls ++ m.proc.calls ∧ calls.filterMap (endOf fd) = [] ∧
      calls.filterMap (startOf fd)
        = if r.1.1 = some .none then [syncTypeOf cpuUsage.toUInt32] else [] := by
  intro fd r
  have hr : r = m.lock env (some h) cpuUsage := rfl
  by_cases h0 : cpuUsage = 0
  · have hlock : r = ((some .badValue, none), m) := hr.trans (if_pos h0)
    exact ⟨[], by rw [hlock]; rfl, rfl, by rw [hlock]; rfl⟩
  replace hr : r = m.withBackend env h (some .noResources, none) _ := hr.trans (if_neg h0)
  obtain ⟨da, cs, hcs, hw⟩ := Mapper.withBackend_dmabuf hdma
  rw [hw] at hr
  have hends := endOf_heapLists fd hcs
  have hstarts := startOf_heapLists fd hcs
  dsimp only at hr
  rcases MapperBackendDmaBuf.lock_cases env h cpuUsage
      { m.proc with dmaAllocator := da, calls := cs ++ m.proc.calls } with
    ⟨-, hl⟩ | ⟨bi, -, ⟨-, hl⟩ | ⟨a, q, hq, ⟨-, hl⟩ | ⟨-, hl⟩⟩⟩
  · rw [hl] at hr
    exact ⟨cs, by rw [hr], hends, by rw [hr]; exact hstarts⟩
  · rw [hl] at hr
    refine ⟨.mmap bi.primeFd none :: cs, by rw [hr]; rfl, ?_, ?_⟩
    · rw [List.filterMap_cons_none rfl, hends]
    · rw [hr, List.filterMap_cons_none rfl, hstarts]
      rfl
  all_goals
    rw [hl] at hr
    -- the mapping, if it was made now, is no start and no end
    obtain ⟨ms, hms, hmends, hmstarts⟩ : ∃ ms, q.calls = ms ++ m.proc.calls ∧
        ms.filterMap (endOf fd) = [] ∧ ms.filterMap (startOf fd) = [] := by
      rcases hq with ⟨-, rfl⟩ | ⟨-, rfl⟩
      · exact ⟨cs, rfl, hends, hstarts⟩
      · refine ⟨.mmap bi.primeFd (some a) :: cs, rfl, ?_, ?_⟩
        · rw [List.filterMap_cons_none rfl, hends]
        · rw [List.filterMap_cons_none rfl, hstarts]
  · exact ⟨ms, by rw [hr]; exact hms, hmends, by rw [hr]; exact hmstarts⟩
  · refine ⟨.cpuSyncStart fd (syncTypeOf cpuUsage.toUInt32) :: ms, ?_, ?_, ?_⟩
    · rw [hr, List.cons_append, ← hms]
    · rw [List.filterMap_cons_none rfl, hmends]
    · have hstart : startOf fd (.cpuSyncStart fd (syncTypeOf cpuUsage.toUInt32))
          = some (syncTypeOf cpuUsage.toUInt32) := if_pos rfl
      rw [hr, List.filterMap_cons_some hstart, hmstarts]
      rfl

/-- **What an unlock ends**: one access of the type of the handle, unless that is a framebuffer, when
    it fails. -/
theorem Mapper.unlock_syncs (env : Env) (m : Mapper)
    (hdma : routedTo (grallocHandle h) = .mapperGrallocDmabuf) :
    let fd := (grallocHandle h).primeFd
    let r := m.unlock env (some h)
    (r.1 = some .none ↔ (grallocHandle h).usage &&& grallocUsageHwFb = 0) ∧
      ∃ calls, r.2.proc.calls = calls ++ m.proc.calls ∧ calls.filterMap (startOf fd) = [] ∧
        calls.filterMap (endOf fd)
          = if r.1 = some .none then [syncTypeOf (grallocHandle h).usage] else [] := by
  intro fd r
  have hr : r = m.unlock env (some h) := rfl
  unfold Mapper.unlock at hr
  dsimp only at hr
  obtain ⟨da, cs, hcs, hw⟩ := Mapper.withBackend_dmabuf hdma
  rw [hw] at hr
  have hends := endOf_heapLists fd hcs
  have hstarts := startOf_heapLists fd hcs
  dsimp only at hr
  by_cases hfb : (grallocHandle h).usage &&& grallocUsageHwFb = 0
  · simp only [MapperBackendDmaBuf.unlock, hfb, ne_eq, not_true_eq_false, if_false] at hr
    refine ⟨iff_of_true (by rw [hr]; rfl) hfb, .cpuSyncEnd fd (syncTypeOf (grallocHandle h).usage) :: cs,
      by rw [hr]; rfl, ?_, ?_⟩
    · rw [List.filterMap_cons_none rfl, hstarts]
    · have hend : endOf fd (.cpuSyncEnd fd (syncTypeOf (grallocHandle h).usage))
          = some (syncTypeOf (grallocHandle h).usage) := if_pos rfl
      rw [hr, List.filterMap_cons_some hend, hends]
      rfl
  · simp only [MapperBackendDmaBuf.unlock, hfb, ne_eq, not_false_eq_true, if_true] at hr
    refine ⟨iff_of_false (by rw [hr]; simp [statusOf, eINVAL]) hfb, cs, by rw [hr], hstarts, ?_⟩
    rw [hr]
    exact hends

end

/-! ## The run -/

/-- The books of a run from `m`: one start for each successful lock and one end for each unlock, and
    whenever all locks were undone, their types agreed. -/
structure SyncInv (h : NativeHandle) (m : Mapper) (s : SyncRun) : Prop where
  outstanding : s.unlocked ≤ s.locked.length
  issued : ∃ calls, s.mapper.proc.calls = calls ++ m.proc.calls ∧
    calls.filterMap (startOf (grallocHandle h).primeFd)
      = s.locked.map (fun u => syncTypeOf u.toUInt32) ∧
    calls.filterMap (endOf (grallocHandle h).primeFd)
      = List.replicate s.unlocked (syncTypeOf (grallocHandle h).usage)
  same : s.unlocked = s.locked.length → ∀ u ∈ s.locked, SameSync h u

/-- At the start nothing is locked. -/
theorem SyncInv.start (h : NativeHandle) (m : Mapper) : SyncInv h m (.start m) where
  outstanding := le_refl _
  issued := ⟨[], rfl, rfl, rfl⟩
  same := fun _ _ hu => absurd hu List.not_mem_nil

section

variable {env : Env} {h : NativeHandle} {m : Mapper} {s : SyncRun}

/-- With all locks undone, the ends are the starts exactly if the types agreed. -/
theorem bracketed_iff {calls : List ExtCall} {m' : Mapper} {locked : List UInt64}
    (hcalls : m'.proc.calls = calls ++ m.proc.calls)
    (hstarts : calls.filterMap (startOf (grallocHandle h).primeFd)
      = locked.map (fun u => syncTypeOf u.toUInt32))
    (hends : calls.filterMap (endOf (grallocHandle h).primeFd)
      = List.replicate locked.length (syncTypeOf (grallocHandle h).usage)) :
    Bracketed (grallocHandle h).primeFd m m' ↔ ∀ u ∈ locked, SameSync h u := by
  have hperm : Bracketed (grallocHandle h).primeFd m m' ↔
      (calls.filterMap (endOf (grallocHandle h).primeFd)).Perm
        (calls.filterMap (startOf (grallocHandle h).primeFd)) := by
    constructor
    · rintro ⟨calls', heq, hb⟩
      rw [hcalls, List.append_cancel_right_eq] at heq
      rw [heq]
      exact hb
    · exact fun hb => ⟨calls, hcalls, hb⟩
  rw [hperm, hstarts, hends, List.replicate_perm, eq_comm, List.map_eq_replicate_iff]
  exact Iff.rfl

/-- A lock keeps the books, and owes nothing. -/
theorem SyncInv.lock_ok_iff (hs : SyncInv h m s)
    (hdma : routedTo (grallocHandle h) = .mapperGrallocDmabuf) (cpuUsage : UInt64) :
    (SyncOk env h m s (.lock cpuUsage) ↔ SyncStepMatched h s (.lock cpuUsage)) ∧
      (SyncOk env h m s (.lock cpuUsage) → SyncInv h m (syncStep env h s (.lock cpuUsage))) := by
  obtain ⟨calls, hcalls, hstarts, hends⟩ := hs.issued
  obtain ⟨new, hnew, hnends, hnstarts⟩ :=
    Mapper.lock_syncs env s.mapper hdma cpuUsage
  have hcalls' : (syncStep env h s (.lock cpuUsage)).mapper.proc.calls
      = (new ++ calls) ++ m.proc.calls := by
    show (s.mapper.lock env (some h) cpuUsage).2.proc.calls = _
    rw [hnew, hcalls, List.append_assoc]
  have hends' : (new ++ calls).filterMap (endOf (grallocHandle h).primeFd)
      = List.replicate s.unlocked (syncTypeOf (grallocHandle h).usage) := by
    rw [List.filterMap_append, hnends, hends]
    rfl
  have hstarts' : (new ++ calls).filterMap (startOf (grallocHandle h).primeFd)
      = (syncStep env h s (.lock cpuUsage)).locked.map (fun u => syncTypeOf u.toUInt32) := by
    rw [List.filterMap_append, hnstarts, hstarts]
    simp only [syncStep]
    split <;> rfl
  have hle := hs.outstanding
  have hinv : SyncInv h m (syncStep env h s (.lock cpuUsage)) := by
    by_cases hok : (s.mapper.lock env (some h) cpuUsage).1.1 = some .none
    · -- one more lock is outstanding
      have hlocked : (syncStep env h s (.lock cpuUsage)).locked = cpuUsage :: s.locked := if_pos hok
      have hlt : s.unlocked < (syncStep env h s (.lock cpuUsage)).locked.length := by
        rw [hlocked, List.length_cons]
        omega
      exact ⟨le_of_lt hlt, ⟨_, hcalls', hstarts', hends'⟩, fun heq => absurd heq (ne_of_lt hlt)⟩
    · have hlocked : (syncStep env h s (.lock cpuUsage)).locked = s.locked := if_neg hok
      exact ⟨by rw [hlocked]; exact hle, ⟨_, hcalls', hstarts', hends'⟩, by
        rw [hlocked]
        exact hs.same⟩
  refine ⟨iff_of_true ⟨nofun, fun heq => ?_⟩ nofun, fun _ => hinv⟩
  rw [show s.unlocked = _ from heq] at hends'
  exact (bracketed_iff hcalls' hstarts' hends').mpr (hinv.same heq)

/-- An unlock of an outstanding lock. -/
theorem SyncInv.unlock_ok_iff (hs : SyncInv h m s)
    (hdma : routedTo (grallocHandle h) = .mapperGrallocDmabuf)
    (hlt : s.unlocked < s.locked.length) :
    (SyncOk env h m s .unlock ↔ SyncStepMatched h s .unlock) ∧
      (SyncOk env h m s .unlock → SyncInv h m (syncStep env h s .unlock)) := by
  obtain ⟨calls, hcalls, hstarts, hends⟩ := hs.issued
  obtain ⟨hok, new, hnew, hnstarts, hnends⟩ := Mapper.unlock_syncs env s.mapper hdma
  by_cases hfb : (grallocHandle h).usage &&& grallocUsageHwFb = 0
  swap
  · have hno : ¬ SyncOk env h m s .unlock := fun hs => hfb (hok.mp (hs.1 rfl))
    exact ⟨iff_of_false hno fun hmatched => hfb (hmatched rfl).1, fun hs => absurd hs hno⟩
  rw [if_pos (hok.mpr hfb)] at hnends
  have hcalls' : (syncStep env h s .unlock).mapper.proc.calls = (new ++ calls) ++ m.proc.calls := by
    show (s.mapper.unlock env (some h)).2.proc.calls = _
    rw [hnew, hcalls, List.append_assoc]
  have hstarts' : (new ++ calls).filterMap (startOf (grallocHandle h).primeFd)
      = s.locked.map (fun u => syncTypeOf u.toUInt32) := by
    rw [List.filterMap_append, hnstarts, hstarts]
    rfl
  have hends' : (new ++ calls).filterMap (endOf (grallocHandle h).primeFd)
      = List.replicate (s.unlocked + 1) (syncTypeOf (grallocHandle h).usage) := by
    rw [List.filterMap_append, hnends, hends, List.replicate_succ]
    rfl
  have hbracketed : s.unlocked + 1 = s.locked.length →
      (Bracketed (grallocHandle h).primeFd m (syncStep env h s .unlock).mapper ↔
        ∀ u ∈ s.locked, SameSync h u) := by
    intro heq
    rw [heq] at hends'
    exact bracketed_iff hcalls' hstarts' hends'
  constructor
  · constructor
    · exact fun hs _ => ⟨hfb, fun heq => (hbracketed heq).mp (hs.2 heq)⟩
    · exact fun hmatched =>
        ⟨fun _ => hok.mpr hfb, fun heq => (hbracketed heq).mpr ((hmatched rfl).2 heq)⟩
  · exact fun hs =>
      ⟨hlt, ⟨new ++ calls, hcalls', hstarts', hends'⟩, fun heq => (hbracketed heq).mp (hs.2 heq)⟩

/-- **The step lemma**: with the books in order, an allowed call does what it must exactly if it is no
    unlock of a framebuffer, and no unlock that undoes the last of locks of different types; and then
    it keeps the books. -/
theorem SyncInv.step_ok_iff (hs : SyncInv h m s)
    (hdma : routedTo (grallocHandle h) = .mapperGrallocDmabuf) (op : SyncOp)
    (hallowed : SyncAllowed s op) :
    (SyncOk env h m s op ↔ SyncStepMatched h s op) ∧
      (SyncOk env h m s op → SyncInv h m (syncStep env h s op)) := by
  cases op with
  | lock cpuUsage => exact hs.lock_ok_iff hdma cpuUsage
  | unlock => exact hs.unlock_ok_iff hdma (hallowed rfl)

end

/-- **Where CPU access is bracketed.**  In any run of locks and unlocks on one DMA-BUF buffer that
    unlocks only what is locked, every unlock succeeds and the ends are the starts whenever all locks
    are undone, exactly if no framebuffer is unlocked and the locks that are all undone asked for the
    sync type of the handle. -/
theorem syncRun_bracketed_iff (env : Env) (h : NativeHandle)
    (hdma : routedTo (grallocHandle h) = .mapperGrallocDmabuf) (m : Mapper) (ops : List SyncOp)
    (hallowed : Run.Along (syncStep env h) SyncAllowed (.start m) ops) :
    Run.Along (syncStep env h) (SyncOk env h m) (.start m) ops ↔
      Run.Along (syncStep env h) (SyncStepMatched h) (.start m) ops :=
  Run.along_iff (SyncInv h m) (fun _ op hs hop => (hs.step_ok_iff hdma op hop).2)
    (fun _ op hs hop => (hs.step_ok_iff hdma op hop).1) (SyncInv.start h m) hallowed

/-- A mapper that has imported a BLOB of height 1. -/
def blobMapper : Mapper := (Mapper.start.importBuffer .androidBp .plain (some (blobHandle 5))).2

/-- A lock and its unlock, where the lock asks for what the handle has. -/
theorem readWriteLock_bracketed :
    Run.Along (syncStep .plain blobClone) (SyncOk .plain blobClone blobMapper) (.start blobMapper)
      [.lock 0x33, .unlock] := by
  refine (syncRun_bracketed_iff .plain blobClone (by decide) blobMapper [.lock 0x33, .unlock] ?_).mpr ?_
  · exact ⟨nofun, fun _ => by decide, trivial⟩
  · refine ⟨nofun, fun _ => ⟨by decide, fun _ u hu => ?_⟩, trivial⟩
    obtain rfl : u = 0x33 := List.mem_singleton.mp hu
    show syncTypeOf _ = syncTypeOf _
    decide

/-- A lock for reading starts a read access, and its unlock ends a read-write access. -/
theorem readLock_not_bracketed :
    Run.Along (syncStep .plain blobClone) SyncAllowed (.start blobMapper) [.lock 0x3, .unlock] ∧
      ([.lock 0x3, .unlock].foldl (syncStep .plain blobClone) (.start blobMapper)).mapper.proc.calls
        = [.cpuSyncEnd 3 .kSyncReadWrite, .heapList false, .cpuSyncStart 3 .kSyncRead,
          .mmap 3 (some 16384), .heapList false] ++ blobMapper.proc.calls ∧
      ¬ Run.Along (syncStep .plain blobClone) (SyncOk .plain blobClone blobMapper)
        (.start blobMapper) [.lock 0x3, .unlock] := by
  refine ⟨⟨nofun, fun _ => by decide, trivial⟩, by decide, ?_⟩
  rintro ⟨hlock, hunlock, -⟩
  have hdma : routedTo (grallocHandle blobClone) = .mapperGrallocDmabuf := by decide
  have hs := ((SyncInv.start blobClone blobMapper).step_ok_iff hdma (.lock 0x3) nofun).2 hlock
  have hmatched := (hs.step_ok_iff hdma .unlock (fun _ => by decide)).1.mp hunlock rfl
  have hsame : SameSync blobClone 0x3 := hmatched.2 (by decide) 0x3 (by decide)
  revert hsame
  show ¬ syncTypeOf _ = syncTypeOf _
  decide

end GrallocGbm
