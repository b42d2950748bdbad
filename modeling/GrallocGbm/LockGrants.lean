/-
  What a lock grants, and what is left of it after the unlock (`common/gralloc_gbm.c`).

  Two guards stand before a mapping.  The first compares the usage with the one the handle declares,
  the second with what the buffer is already locked for, "allow multiple locks with compatible
  usages".  The first lets any usage through once the declared one has a certain bit
  (`lock_confined_iff`); the second lets a compatible lock of a mapped buffer through, but
  `gralloc_gbm_bo_map` then refuses it (`nestedLock_granted_iff`).  Whatever a lock does is undone
  by the unlock, and a refused lock does nothing (`libRun_lock_undone`).

  All three are about every state of every run of the library, with any handles.  What they need of
  such a state beyond `LibInv` is `Lockable`: if there is an entry the driver is ready, and no
  object lives at address zero, which the code would take for NULL.

  `grallocGbmAndroidBufferLock_eq` is the lock of a managed buffer with every test it makes, in one
  equation, and `grallocGbmAndroidBufferUnlock_eq` the unlock.  The results are case analyses of
  these.

  * `NestedLockGranted` — a lock of a locked buffer succeeds, counts, and leaves what it is locked
  for;
  * `DeclaresAccess` — each class of CPU access that is asked for, reading and writing, is declared;
  * `LockUndone` — after a lock and an unlock the user data of every object is what it was, and
    after a lock that failed already.

  `lock_count` has no bound here, so that a lock always counts; in the source it is an `int`.
-/
import GrallocGbm.Effects
import GrallocGbm.Library

namespace GrallocGbm

/-! ## The entries of a run

  Two small facts about every state, on which the tests of a lock rest. -/

/-- What lets a handle with an entry be locked: the driver is there, and no object lives at NULL. -/
structure Lockable (p : Proc) : Prop where
  next_pos : 0 < p.next
  bo_pos : ∀ bo, (p.bos bo).isSome = true → 0 < bo
  ready : p.table ≠ [] → isGrallocGbmReady p = true

/-- There is no entry. -/
theorem Lockable.start : Lockable Proc.start where
  next_pos := Nat.one_pos
  bo_pos := by intro bo h; cases h
  ready := by intro h; exact absurd rfl h

section

variable {p p' : Proc}

/-- A step that adds no entry, makes no object, and keeps the driver. -/
theorem Lockable.of_kept (h : Lockable p) (hnext : p.next ≤ p'.next)
    (hbos : ∀ bo, (p'.bos bo).isSome = true → (p.bos bo).isSome = true)
    (htable : p'.table ≠ [] → p.table ≠ [])
    (hready : isGrallocGbmReady p = true → isGrallocGbmReady p' = true) : Lockable p' where
  next_pos := lt_of_lt_of_le h.next_pos hnext
  bo_pos := fun bo hbo => h.bo_pos bo (hbos bo hbo)
  ready := fun ht => hready (h.ready (htable ht))

/-- A step of a ready driver that makes at most one object, at an address just handed out. -/
theorem Lockable.of_made (h : Lockable p) {a : Nat} {b : Bo} (ha : p.next ≤ a)
    (hnext : p.next ≤ p'.next) (hbos : p'.bos = Function.update p.bos a (some b))
    (hready : isGrallocGbmReady p' = true) : Lockable p' where
  next_pos := lt_of_lt_of_le h.next_pos hnext
  bo_pos := by
    intro bo hbo
    have hpos := h.next_pos
    rw [hbos, Function.update_apply] at hbo
    split at hbo
    · omega
    · exact h.bo_pos bo hbo
  ready := fun _ => hready

/-- Each call keeps it. -/
theorem libStep_lockable (cfg : BuildConfig) (env : Env) (op : LibOp) (hl : LibInv p)
    (h : Lockable p) : Lockable (libStep cfg env p op) := by
  cases op with
  | init =>
    show Lockable (grallocGbmInit env p).2
    rcases grallocGbmInit_cases env p with
      ⟨-, hr⟩ | ⟨hno, rc, g, n, cs, -, hn, hr⟩ | ⟨-, fd, n, cs, -, -, hn, hr⟩ <;> rw [hr]
    · exact h
    · exact h.of_kept hn (fun _ => id) id (fun hready => by rw [hno] at hready; cases hready)
    · exact h.of_kept hn (fun _ => id) id (fun _ => rfl)
  | bufferNew desc =>
    show Lockable (grallocGbmAndroidBufferNew cfg env desc p).2
    rcases grallocGbmAndroidBufferNew_cases cfg env desc p with ⟨rc, -, hr⟩ | ⟨rc, -, -, hr⟩ |
        ⟨rc, -, -, -, hr⟩ | ⟨layout, fd, hready, -, -, -, ⟨rc, -, hr⟩ | ⟨logFd, -, -, hr⟩⟩ <;> rw [hr]
    · exact h
    · exact h.of_kept (Nat.le_succ _) (fun _ => id) id id
    · exact h.of_kept (Nat.le_succ _) (fun _ => id) id id
    · exact h.of_made (Nat.le_succ _) (Nat.le_add_right _ _) rfl hready
    · exact h.of_made (Nat.le_succ _) (Nat.le_add_right _ _) rfl hready
  | bufferImport handle =>
    show Lockable (grallocGbmAndroidBufferImport cfg env handle p).2
    rcases grallocGbmAndroidBufferImport_cases cfg env handle p with
      ⟨-, hr⟩ | ⟨-, -, hr⟩ | ⟨-, -, -, hr⟩ | ⟨layout, hready, -, -, hr⟩ <;> rw [hr]
    · exact h
    · exact h.of_kept (Nat.le_succ _) (fun _ => id) id id
    · exact h.of_kept (Nat.le_succ _) (fun _ => id) id id
    · exact h.of_made (Nat.le_succ _) (Nat.le_add_right _ _) rfl hready
  | bufferFree handle =>
    show Lockable (grallocGbmAndroidBufferFree handle p).2
    rcases grallocGbmAndroidBufferFree_cases handle p with
      ⟨-, hr⟩ | ⟨-, -, hr⟩ | ⟨buffer, -, -, -, hr⟩ | ⟨buffer, b, -, -, -, hr⟩ <;> rw [hr]
    · exact h
    · exact h
    · exact h
    · obtain ⟨heap, hd⟩ := gbmBoDestroy_eq buffer.bo b p
      rw [hd]
      refine h.of_kept (le_refl _) (fun bo hbo => ?_) (fun ht hnil => ht ?_) id
      · simp only [deleteBuffer, Function.update_apply] at hbo
        split at hbo
        · cases hbo
        · exact hbo
      · show Keyed.remove AndroidBuffer.addr buffer.addr p.table = []
        rw [hnil]
        rfl
  | bufferLock handle usage =>
    show Lockable (grallocGbmAndroidBufferLock env handle usage p).2.2
    have hf := (grallocGbmAndroidBufferLock_still env handle usage hl.user_data).1
    exact h.of_kept hf.next_le (fun bo hbo => by rwa [hf.live] at hbo)
      (fun ht => by rwa [hf.table] at ht)
      hf.ready
  | bufferUnlock handle =>
    show Lockable (grallocGbmAndroidBufferUnlock handle p).2
    have hf := (grallocGbmAndroidBufferUnlock_still handle p).1
    exact h.of_kept hf.next_le (fun bo hbo => by rwa [hf.live] at hbo)
      (fun ht => by rwa [hf.table] at ht)
      hf.ready

/-- The two invariants of every run. -/
theorem libRun_lockable (cfg : BuildConfig) (env : Env) (ops : List LibOp) :
    LibInv (libRun cfg env ops) ∧ Lockable (libRun cfg env ops) :=
  Run.foldl_inv_all (fun p => LibInv p ∧ Lockable p)
    (fun _ op h => ⟨libStep_libInv cfg env op h.1, libStep_lockable cfg env op h.1 h.2⟩) ops
    ⟨.start, .start⟩

end

/-! ## Lock and unlock of a managed buffer

  The functions of the library, with the entry and the user data at hand. -/

section Managed

variable {env : Env} {handle : NativeHandle} {usage : UInt32} {p : Proc} {e : AndroidBuffer}
  {d : GbmBoData}

/-- The two tests of a lock before it looks at the buffer. -/
def PassesUsageChecks (declared usage : UInt32) : Prop :=
  usage &&& grallocUsageHwFb = 0 ∧ lockUsageRefused declared usage = false

instance (declared usage : UInt32) : Decidable (PassesUsageChecks declared usage) :=
  inferInstanceAs (Decidable (_ ∧ _))

/-- The lock of a managed buffer, with every test it makes. -/
theorem grallocGbmAndroidBufferLock_eq (env : Env) (usage : UInt32) (hp : Lockable p)
    (hfind : findBufferK (grallocHandle handle).primeFd p.table = some e)
    (hd : gbmBoGetUserData e.bo p = some d) :
    grallocGbmAndroidBufferLock env handle usage p =
      if PassesUsageChecks (grallocHandle handle).usage usage ∧
          (d.lockCount = 0 ∨ d.lockedFor &&& usage = usage) then
        if (usage ||| d.lockedFor) &&& cpuAccessMask = 0 then
          (.ok (), none, modifyBoData e.bo (lockedData (usage ||| d.lockedFor)) p)
        else if d.mapData.isSome = true then (.err (-eINVAL), none, p)
        else
          let addr := env.boMap p.calls.length
          let transfer := transferFlags ((usage ||| d.lockedFor) &&& grallocUsageSwWriteMask != 0)
          let q := { p with calls := .boMap e.bo transfer addr :: p.calls }
          addr.elim (.err (-eNOMEM), some none, q) fun a =>
            (.ok (), some (some a), modifyBoData e.bo
              (fun d' => lockedData (usage ||| d.lockedFor) { d' with mapData := some a }) q)
      else (.err (-eINVAL), none, p) := by
  obtain ⟨b, hb, -⟩ := Option.bind_eq_some_iff.mp hd
  have h0 : e.bo ≠ 0 := by
    have := hp.bo_pos e.bo (by rw [hb]; rfl)
    omega
  have hready := hp.ready (List.ne_nil_of_mem (Keyed.mem_of_lookup hfind))
  unfold grallocGbmAndroidBufferLock
  simp only [hready, Bool.not_true, Bool.false_eq_true, if_false, hfind,
    grallocGbmBoUserDataInit_of_some hd]
  by_cases hfb : usage &&& grallocUsageHwFb = 0
  swap
  · rw [if_pos hfb, if_neg (fun h => hfb h.1.1)]
  rw [if_neg (not_not.mpr hfb)]
  by_cases href : lockUsageRefused (grallocHandle handle).usage usage = true
  · rw [if_pos href, if_neg (fun h => by rw [h.1.2] at href; cases href)]
  rw [if_neg href]
  have hpass : PassesUsageChecks (grallocHandle handle).usage usage :=
    ⟨hfb, Bool.eq_false_iff.mpr href⟩
  by_cases hcompat : d.lockCount = 0 ∨ d.lockedFor &&& usage = usage
  swap
  · rw [if_pos (not_or.mp hcompat), if_neg (fun h => hcompat h.2)]
  have hlet : ¬ (d.lockCount ≠ 0 ∧ d.lockedFor &&& usage ≠ usage) := fun h => hcompat.elim h.1 h.2
  have hadmitted : PassesUsageChecks (grallocHandle handle).usage usage ∧
      (d.lockCount = 0 ∨ d.lockedFor &&& usage = usage) := ⟨hpass, hcompat⟩
  rw [if_neg hlet, if_pos hadmitted]
  by_cases hmask : (usage ||| d.lockedFor) &&& cpuAccessMask = 0
  · rw [if_neg (not_not.mpr hmask), if_pos hmask]
  rw [if_pos hmask, if_neg hmask]
  simp only [grallocGbmBoMap, if_neg h0, hd]
  cases hm : d.mapData with
  | some a => rfl
  | none => cases env.boMap p.calls.length <;> simp [modifyBoData, hb, Function.comp_def]

/-- The unlock of a managed buffer. -/
theorem grallocGbmAndroidBufferUnlock_eq
    (hfind : findBufferK (grallocHandle handle).primeFd p.table = some e) (h0 : e.bo ≠ 0)
    (hd : gbmBoGetUserData e.bo p = some d) :
    grallocGbmAndroidBufferUnlock handle p =
      if d.lockCount = 0 then (.ok (), p)
      else if d.lockedFor &&& cpuAccessMask ≠ 0 then
        (.ok (), modifyBoData e.bo (fun d => unlockedData { d with mapData := none })
          { p with calls := .boUnmap e.bo :: p.calls })
      else (.ok (), modifyBoData e.bo unlockedData p) := by
  have hboth : modifyBoData e.bo unlockedData (grallocGbmBoUnmap e.bo p)
      = modifyBoData e.bo (fun d => unlockedData { d with mapData := none })
          { p with calls := .boUnmap e.bo :: p.calls } := by
    simp [modifyBoData, grallocGbmBoUnmap, Function.comp_def]
  unfold grallocGbmAndroidBufferUnlock
  simp only [hfind, if_neg h0, hd, hboth]

/-! ## Nested locks

  A second lock is looked at twice: by the library, which compares the usages, and by
  `gralloc_gbm_bo_map`, which refuses an object that is mapped already. -/

/-- What a lock of an object that is locked already owes its caller. -/
structure NestedLockGranted (env : Env) (handle : NativeHandle) (usage : UInt32) (p : Proc) (bo : Nat)
    (d : GbmBoData) : Prop where
  ok : (grallocGbmAndroidBufferLock env handle usage p).1 = .ok ()
  /-- It is counted, and a CPU access gets the address of the mapping. -/
  counted : ∃ d', gbmBoGetUserData bo (grallocGbmAndroidBufferLock env handle usage p).2.2 = some d' ∧
    d'.lockCount = d.lockCount + 1 ∧
    (usage &&& cpuAccessMask ≠ 0 → ∃ a, d'.mapData = some a ∧
      (grallocGbmAndroidBufferLock env handle usage p).2.1 = some (some a))

/-- A usage contained in one without CPU access has none. -/
theorem cpuAccess_of_contained {a b : UInt32} (h : a &&& b = b) (ha : a &&& cpuAccessMask = 0) :
    b &&& cpuAccessMask = 0 := by
  rw [← h, UInt32.and_comm a b, UInt32.and_assoc, ha, UInt32.and_zero]

/-- **A compatible nested lock.**  It is granted exactly if the buffer is not locked for the CPU: if
    it is, it is mapped, and `gralloc_gbm_bo_map` refuses to map it again. -/
theorem nestedLock_granted (hl : LibInv p) (hp : Lockable p)
    (hfind : findBufferK (grallocHandle handle).primeFd p.table = some e)
    (hd : gbmBoGetUserData e.bo p = some d) (hcompat : d.lockedFor &&& usage = usage)
    (hpass : PassesUsageChecks (grallocHandle handle).usage usage) :
    NestedLockGranted env handle usage p e.bo d ↔ d.lockedFor &&& cpuAccessMask = 0 := by
  have hlock := grallocGbmAndroidBufferLock_eq env usage hp hfind hd
  rw [if_pos ⟨hpass, .inr hcompat⟩, or_of_and_eq hcompat] at hlock
  constructor
  · intro hgranted
    by_contra hmask
    have hmapped := (hl.lock_ok e.bo d hd).mapped_iff.mpr hmask
    rw [if_neg hmask, if_pos hmapped] at hlock
    have hok := hgranted.ok
    rw [hlock] at hok
    cases hok
  · intro hmask
    rw [if_pos hmask] at hlock
    constructor
    case ok => rw [hlock]
    case counted =>
      refine ⟨lockedData d.lockedFor d, ?_, rfl, fun hcpu => ?_⟩
      · rw [hlock, gbmBoGetUserData_modify, if_pos rfl, hd]
        rfl
      · exact absurd (cpuAccess_of_contained hcompat hmask) hcpu

end Managed

/-- **Which nested locks are granted**, in every state of every run: a usage that the buffer is
    already locked for, and that passes the checks of the framebuffer and of the declared usage, is
    granted exactly if the buffer is not locked for the CPU.  (The count of the locks has no bound
    here, as it would have in an `int`.) -/
theorem nestedLock_granted_iff (cfg : BuildConfig) (env : Env) (ops : List LibOp)
    (handle : NativeHandle) (usage : UInt32) (e : AndroidBuffer) (d : GbmBoData)
    (hfind : findBufferK (grallocHandle handle).primeFd (libRun cfg env ops).table = some e)
    (hd : gbmBoGetUserData e.bo (libRun cfg env ops) = some d)
    (hcompat : d.lockedFor &&& usage = usage)
    (hpass : PassesUsageChecks (grallocHandle handle).usage usage) :
    NestedLockGranted env handle usage (libRun cfg env ops) e.bo d ↔
      d.lockedFor &&& cpuAccessMask = 0 :=
  have hp := libRun_lockable cfg env ops
  nestedLock_granted hp.1 hp.2 hfind hd hcompat hpass

/-- A buffer locked as a texture can be locked as a texture once more. -/
theorem nested_texture_lock_granted :
    let p := libRun .androidBp .plain
      [.init, .bufferImport (rgbaHandle 5), .bufferLock (rgbaHandle 5) grallocUsageHwTexture]
    ∃ d, gbmBoGetUserData 3 p = some d ∧ d.lockCount = 1 ∧
      NestedLockGranted .plain (rgbaHandle 5) grallocUsageHwTexture p 3 d :=
  ⟨_, rfl, rfl, (nestedLock_granted_iff .androidBp .plain
    [.init, .bufferImport (rgbaHandle 5), .bufferLock (rgbaHandle 5) grallocUsageHwTexture]
    (rgbaHandle 5) grallocUsageHwTexture ⟨7, 5, 3⟩ _ rfl rfl rfl (by decide)).mpr rfl⟩

/-- A buffer locked for reading is refused to a second reader. -/
theorem nested_read_lock_refused :
    let p := libRun .androidBp .plain
      [.init, .bufferImport (rgbaHandle 5), .bufferLock (rgbaHandle 5) grallocUsageSwReadOften]
    ∃ d, findBufferK (grallocHandle (rgbaHandle 5)).primeFd p.table = some ⟨7, 5, 3⟩ ∧
      gbmBoGetUserData 3 p = some d ∧ d.lockCount = 1 ∧
      d.lockedFor &&& grallocUsageSwReadOften = grallocUsageSwReadOften ∧
      PassesUsageChecks (grallocHandle (rgbaHandle 5)).usage grallocUsageSwReadOften ∧
      (grallocGbmAndroidBufferLock .plain (rgbaHandle 5) grallocUsageSwReadOften p).1
        = .err (-eINVAL) ∧
      ¬ NestedLockGranted .plain (rgbaHandle 5) grallocUsageSwReadOften p 3 d := by
  refine ⟨_, rfl, rfl, rfl, rfl, by decide, rfl, ?_⟩
  rintro ⟨hok, -⟩
  cases hok

/-! ## CPU access and the declared usage

  The comparison of the two usages stands inside a test for other bits, and is made only where
  these are not declared. -/

/-- Does a declared usage cover each class of CPU access that `usage` asks for? -/
def DeclaresAccess (declared usage : UInt32) : Prop :=
  (usage &&& grallocUsageSwReadMask ≠ 0 → declared &&& grallocUsageSwReadMask ≠ 0) ∧
    (usage &&& grallocUsageSwWriteMask ≠ 0 → declared &&& grallocUsageSwWriteMask ≠ 0)

/-- The bits of a declared usage, besides that of the framebuffer, with which the declared usage is
    not compared at all. -/
def exemptingBits : UInt32 :=
  grallocUsageSwReadOften ||| grallocUsageSwWriteOften ||| grallocUsageHwTexture

/-- Does the lock succeed and map the object? -/
def LockMaps (env : Env) (handle : NativeHandle) (usage : UInt32) (p : Proc) : Prop :=
  (grallocGbmAndroidBufferLock env handle usage p).1 = .ok () ∧
    ∃ a, (grallocGbmAndroidBufferLock env handle usage p).2.1 = some (some a)

/-- No bit of either. -/
theorem and_or_eq_zero_iff {x a b : UInt32} : x &&& (a ||| b) = 0 ↔ x &&& a = 0 ∧ x &&& b = 0 := by
  have hdistrib : x &&& (a ||| b) = (x &&& a) ||| (x &&& b) := by
    apply UInt32.toBitVec_inj.mp
    simp only [UInt32.toBitVec_and, UInt32.toBitVec_or, BitVec.and_or_distrib_left]
  rw [hdistrib, UInt32.or_eq_zero_iff]

/-- The comparison is made exactly if no exempting bit is declared. -/
theorem lockUsageRefused_iff {declared usage : UInt32} (hfb : declared &&& grallocUsageHwFb = 0) :
    lockUsageRefused declared usage = true ↔
      declared &&& exemptingBits = 0 ∧ declared &&& usage ≠ usage := by
  rw [exemptingBits, and_or_eq_zero_iff]
  simp [lockUsageRefused, hfb]
  tauto

/-- A usage contained in the declared one has its classes of access declared. -/
theorem declaresAccess_of_contained {declared usage : UInt32} (h : declared &&& usage = usage) :
    DeclaresAccess declared usage := by
  have hclass : ∀ mask, usage &&& mask ≠ 0 → declared &&& mask ≠ 0 := by
    intro mask hne hzero
    rw [← h, UInt32.and_comm declared usage, UInt32.and_assoc, hzero, UInt32.and_zero] at hne
    exact hne rfl
  exact ⟨hclass _, hclass _⟩

/-- A lock that maps has passed the checks, and asked for CPU access or joined a lock that did. -/
theorem LockMaps.passes {env : Env} {handle : NativeHandle} {usage : UInt32} {p : Proc}
    (h : LockMaps env handle usage p) (hl : LibInv p) (hp : Lockable p) :
    PassesUsageChecks (grallocHandle handle).usage usage := by
  obtain ⟨hok, a, hout⟩ := h
  rcases grallocGbmAndroidBufferLock_cases env handle usage hl.user_data with
    ⟨ret, hr, hret⟩ | ⟨buffer, d, -, hfind, hd, -⟩
  · rw [hr] at hok
    exact absurd hok hret
  · by_contra hpass
    rw [grallocGbmAndroidBufferLock_eq env usage hp hfind hd, if_neg (fun h => hpass h.1)] at hok
    cases hok

/-- The handle of a buffer whose declared usage is `usage`. -/
def usageHandle (usage : UInt32) : NativeHandle := (rgbaHandle 5).setWord 6 usage.toNat

/-- The handle declares what it was made with. -/
theorem usageHandle_usage (usage : UInt32) : (grallocHandle (usageHandle usage)).usage = usage :=
  word_ofNat usage

/-- A process that has imported one such buffer. -/
def usageProc (usage : UInt32) : Proc :=
  libRun .androidBp .plain [.init, .bufferImport (usageHandle usage)]

/-- The first lock of a buffer maps it if it passes the checks and asks for CPU access. -/
theorem usageProc_lockMaps {declared usage : UInt32} (hpass : PassesUsageChecks declared usage)
    (hcpu : usage &&& cpuAccessMask ≠ 0) :
    LockMaps .plain (usageHandle declared) usage (usageProc declared) := by
  have hp : Lockable (usageProc declared) := (libRun_lockable _ _ _).2
  have hfind : findBufferK (grallocHandle (usageHandle declared)).primeFd (usageProc declared).table
      = some ⟨7, 5, 3⟩ := rfl
  have hd : gbmBoGetUserData 3 (usageProc declared) = some (zeroBoData 4) := rfl
  have hlock := grallocGbmAndroidBufferLock_eq .plain usage hp hfind hd
  have hadmitted : PassesUsageChecks (grallocHandle (usageHandle declared)).usage usage ∧
      ((zeroBoData 4).lockCount = 0 ∨ (zeroBoData 4).lockedFor &&& usage = usage) :=
    ⟨by rwa [usageHandle_usage], .inl rfl⟩
  have hmask : ¬ (usage ||| (zeroBoData 4).lockedFor) &&& cpuAccessMask = 0 := by
    rwa [show (zeroBoData 4).lockedFor = 0 from rfl, UInt32.or_zero]
  rw [if_pos hadmitted, if_neg hmask] at hlock
  constructor
  · rw [hlock]
    rfl
  · rw [hlock]
    exact ⟨_, rfl⟩

/-- **How far CPU access is confined to the declared usage.**  Whatever was locked and unlocked
    before, a lock of a buffer that is no framebuffer maps it only for declared classes of access,
    exactly if the usage is one that no lock accepts, or no exempting bit is declared, or the classes
    are declared anyway. -/
theorem lock_confined_iff (declared usage : UInt32) (hfb : declared &&& grallocUsageHwFb = 0) :
    (∀ cfg env ops handle, (grallocHandle handle).usage = declared →
      LockMaps env handle usage (libRun cfg env ops) → DeclaresAccess declared usage) ↔
    usage &&& grallocUsageHwFb ≠ 0 ∨ declared &&& exemptingBits = 0 ∨
      DeclaresAccess declared usage := by
  constructor
  · intro hconfined
    by_contra hno
    obtain ⟨husage, hexempt, hclasses⟩ := not_or.mp hno |>.imp id not_or.mp
    have hpass : PassesUsageChecks declared usage :=
      ⟨not_not.mp husage, Bool.eq_false_iff.mpr fun h => hexempt ((lockUsageRefused_iff hfb).mp h).1⟩
    have hcpu : usage &&& cpuAccessMask ≠ 0 := by
      intro hzero
      obtain ⟨hwrite, hread⟩ := and_or_eq_zero_iff.mp hzero
      exact hclasses ⟨fun h => absurd hread h, fun h => absurd hwrite h⟩
    exact hclasses (hconfined .androidBp .plain _ _ (usageHandle_usage declared)
      (usageProc_lockMaps hpass hcpu))
  · rintro hcond cfg env ops handle rfl hmaps
    have hp := libRun_lockable cfg env ops
    obtain ⟨husage, hdecl⟩ := hmaps.passes hp.1 hp.2
    rcases hcond with hnofb | hexempt | hclasses
    · exact absurd husage hnofb
    · apply declaresAccess_of_contained
      by_contra hne
      rw [(lockUsageRefused_iff hfb).mpr ⟨hexempt, hne⟩] at hdecl
      cases hdecl
    · exact hclasses

/-- A render target without CPU usage is never mapped. -/
theorem render_target_confined_iff :
    (∀ cfg env ops handle, (grallocHandle handle).usage = grallocUsageHwRender →
      LockMaps env handle grallocUsageSwWriteOften (libRun cfg env ops) →
        DeclaresAccess grallocUsageHwRender grallocUsageSwWriteOften) ↔
    grallocUsageSwWriteOften &&& grallocUsageHwFb ≠ 0 ∨ grallocUsageHwRender &&& exemptingBits = 0 ∨
      DeclaresAccess grallocUsageHwRender grallocUsageSwWriteOften :=
  lock_confined_iff grallocUsageHwRender grallocUsageSwWriteOften rfl

/-- A texture without CPU usage is mapped for writing. -/
theorem texture_mapped :
    (grallocHandle (usageHandle grallocUsageHwTexture)).usage = grallocUsageHwTexture ∧
      grallocUsageHwTexture &&& grallocUsageHwFb = 0 ∧
      LockMaps .plain (usageHandle grallocUsageHwTexture) grallocUsageSwWriteOften
        (usageProc grallocUsageHwTexture) ∧
      ¬ DeclaresAccess grallocUsageHwTexture grallocUsageSwWriteOften := by
  refine ⟨rfl, rfl, usageProc_lockMaps (by decide) (by decide), ?_⟩
  rintro ⟨-, hwrite⟩
  exact hwrite (by decide) rfl

/-! ## What an unlock undoes

  A lock and the unlock after it are two writes to the user data of one object. -/

/-- An unlock after a lock that mapped nothing puts the user data back. -/
theorem LockOk.unlocked_lockedData {calls : List ExtCall} {bo : Nat} {d : GbmBoData} {usage : UInt32}
    (h : LockOk calls bo d) (hcompat : d.lockCount = 0 ∨ d.lockedFor &&& usage = usage) :
    unlockedData (lockedData (usage ||| d.lockedFor) d) = d := by
  have hcount : d.lockCount + 1 - 1 = d.lockCount := by omega
  have hfor : (if d.lockCount = 0 then 0 else d.lockedFor ||| (usage ||| d.lockedFor))
      = d.lockedFor := by
    split
    · rename_i h0
      exact (h.idle h0).symm
    · rename_i h0
      rw [or_of_and_eq (hcompat.resolve_left h0), UInt32.or_self]
  show { d with
    lockCount := d.lockCount + 1 - 1
    lockedFor := if d.lockCount + 1 - 1 = 0 then 0 else d.lockedFor ||| (usage ||| d.lockedFor) } = d
  rw [hcount, hfor]

/-- Two writes to the user data of one object, the second of which undoes the first. -/
theorem gbmBoGetUserData_undone {bo : Nat} {d : GbmBoData} {p : Proc} {f g : GbmBoData → GbmBoData}
    {cs cs' : List ExtCall} (hd : gbmBoGetUserData bo p = some d) (hfg : g (f d) = d) (bo' : Nat) :
    gbmBoGetUserData bo'
        (modifyBoData bo g { modifyBoData bo f { p with calls := cs } with calls := cs' })
      = gbmBoGetUserData bo' p := by
  have hlog : ∀ q : Proc, ∀ i cs, gbmBoGetUserData i { q with calls := cs } = gbmBoGetUserData i q :=
    fun _ _ _ => rfl
  rw [gbmBoGetUserData_modify]
  split
  · rename_i heq
    rw [heq, hlog, gbmBoGetUserData_modify, if_pos rfl, hlog, hd]
    exact congrArg some hfg
  · rename_i hne
    rw [hlog, gbmBoGetUserData_modify, if_neg hne, hlog]

/-- What a lock and an unlock of `handle` promise about the user data of all objects. -/
structure LockUndone (env : Env) (handle : NativeHandle) (usage : UInt32) (p : Proc) : Prop where
  /-- A lock that succeeds is undone by the unlock after it. -/
  undone : (grallocGbmAndroidBufferLock env handle usage p).1 = .ok () →
    let r := grallocGbmAndroidBufferUnlock handle (grallocGbmAndroidBufferLock env handle usage p).2.2
    r.1 = .ok () ∧ ∀ bo, gbmBoGetUserData bo r.2 = gbmBoGetUserData bo p
  /-- A lock that fails has done nothing. -/
  failed : (grallocGbmAndroidBufferLock env handle usage p).1 ≠ .ok () →
    ∀ bo, gbmBoGetUserData bo (grallocGbmAndroidBufferLock env handle usage p).2.2
      = gbmBoGetUserData bo p
  /-- An unlock of a buffer that is not locked does nothing. -/
  idle : ∀ e d, findBufferK (grallocHandle handle).primeFd p.table = some e →
    gbmBoGetUserData e.bo p = some d → d.lockCount = 0 →
      grallocGbmAndroidBufferUnlock handle p = (.ok (), p)

/-- The step behind it: each outcome of the lock, and the unlock after it. -/
theorem Lockable.lock_undone {p : Proc} (hp : Lockable p) (hl : LibInv p) (env : Env)
    (handle : NativeHandle) (usage : UInt32) : LockUndone env handle usage p := by
  have hbo : ∀ {bo d}, gbmBoGetUserData bo p = some d → bo ≠ 0 := by
    intro bo d hd
    obtain ⟨b, hb, -⟩ := Option.bind_eq_some_iff.mp hd
    have := hp.bo_pos bo (by rw [hb]; rfl)
    omega
  have hidle : ∀ e d, findBufferK (grallocHandle handle).primeFd p.table = some e →
      gbmBoGetUserData e.bo p = some d → d.lockCount = 0 →
        grallocGbmAndroidBufferUnlock handle p = (.ok (), p) := by
    intro e d hfind hd h0
    rw [grallocGbmAndroidBufferUnlock_eq hfind (hbo hd) hd, if_pos h0]
  rcases grallocGbmAndroidBufferLock_cases env handle usage hl.user_data with
    ⟨ret, hr, hret⟩ | ⟨e, d, -, hfind, hd, hcompat, hcases⟩
  · refine ⟨fun hok => ?_, fun _ _ => by rw [hr], hidle⟩
    rw [hr] at hok
    exact absurd hok hret
  have hok := hl.lock_ok e.bo d hd
  have hcount := hok.count_nonneg
  have hlocked : ∀ addr,
      ¬ (lockedData (usage ||| d.lockedFor) { d with mapData := addr }).lockCount = 0 := by
    intro addr
    show ¬ d.lockCount + 1 = 0
    omega
  rcases hcases with ⟨hmask, hr⟩ | ⟨hmask, hnone, transfer, hr | ⟨a, hr⟩⟩
  · -- nothing is mapped, and the unlock finds no CPU bit to unmap for
    refine ⟨fun _ => ?_, fun hne => absurd (by rw [hr]) hne, hidle⟩
    let q := modifyBoData e.bo (lockedData (usage ||| d.lockedFor)) p
    have hd' : gbmBoGetUserData e.bo q = some (lockedData (usage ||| d.lockedFor) d) := by
      rw [gbmBoGetUserData_modify, if_pos rfl, hd]
      rfl
    have hno : ¬ (lockedData (usage ||| d.lockedFor) d).lockedFor &&& cpuAccessMask ≠ 0 := by
      rw [lockedData_lockedFor, hmask]
      exact not_not.mpr rfl
    have hun := grallocGbmAndroidBufferUnlock_eq (p := q) hfind (hbo hd) hd'
    rw [if_neg (hlocked d.mapData), if_neg hno] at hun
    rw [hr]
    show (grallocGbmAndroidBufferUnlock handle q).1 = .ok () ∧ _
    rw [hun]
    exact ⟨rfl, gbmBoGetUserData_undone hd (hok.unlocked_lockedData hcompat)⟩
  · refine ⟨fun hret => ?_, fun _ _ => by rw [hr]; rfl, hidle⟩
    rw [hr] at hret
    cases hret
  · -- the unlock finds the CPU bit that the lock mapped for
    refine ⟨fun _ => ?_, fun hne => absurd (by rw [hr]) hne, hidle⟩
    have hsame : { d with mapData := none } = d := by rw [← hnone]
    let f : GbmBoData → GbmBoData :=
      fun d' => lockedData (usage ||| d.lockedFor) { d' with mapData := some a }
    let q := modifyBoData e.bo f { p with calls := .boMap e.bo transfer (some a) :: p.calls }
    have hd' : gbmBoGetUserData e.bo q = some (f d) := by
      rw [gbmBoGetUserData_modify, if_pos rfl]
      exact congrArg (Option.map f) hd
    have hcpu : (f d).lockedFor &&& cpuAccessMask ≠ 0 := by
      show (lockedData (usage ||| d.lockedFor) d).lockedFor &&& _ ≠ 0
      rwa [lockedData_lockedFor]
    have hun := grallocGbmAndroidBufferUnlock_eq (p := q) hfind (hbo hd) hd'
    rw [if_neg (hlocked (some a)), if_pos hcpu] at hun
    rw [hr]
    show (grallocGbmAndroidBufferUnlock handle q).1 = .ok () ∧ _
    rw [hun]
    refine ⟨rfl, gbmBoGetUserData_undone hd ?_⟩
    show unlockedData (lockedData (usage ||| d.lockedFor) { d with mapData := none }) = d
    rw [hsame]
    exact hok.unlocked_lockedData hcompat

/-- **Unlock undoes lock, and a failed lock does nothing**: in every state of every run, for every
    handle and every usage. -/
theorem libRun_lock_undone (cfg : BuildConfig) (env : Env) (ops : List LibOp)
    (handle : NativeHandle) (usage : UInt32) : LockUndone env handle usage (libRun cfg env ops) :=
  (libRun_lockable cfg env ops).2.lock_undone (libRun_lockable cfg env ops).1 env handle usage

end GrallocGbm
