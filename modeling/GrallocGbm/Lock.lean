/-
  Locking a buffer for the CPU, and what ties the fields of `gbm_bo_data_t` together
  (`common/gralloc_gbm.c`).

  Four fields of the user data take part: `locked_for` (the usages locked for), `lock_count`,
  `map_data` (what `gbm_bo_map` returned, NULL if the object is not mapped) and `usage`.

  * A lock refuses usages that the buffer was not declared for, and on a locked buffer usages it is
    not already locked for.  It then joins the usage with `locked_for`; if the union has a CPU
    access bit, it maps the object, and a failure ends it there; at last it stores the union and
    counts.
  * An unlock refuses a buffer that is not locked.  If `locked_for` has a CPU access bit it unmaps;
    it counts down, and at zero clears `locked_for`.

  So the map is decided by the *new* union, the unmap by what is left in `locked_for`, neither looks
  at the count, and that each mapping is undone once is not obvious from either function.

  The crux is `LockOk`: the count is not negative, at zero nothing is locked for, the object is
  mapped exactly if it is locked for CPU access, and then the count is one.  The last of these is
  the one that a reader of the source does not expect.  A second lock with the same CPU usage does
  ask for a mapping again, and `gralloc_gbm_bo_map` refuses an object that has one; so a CPU lock is
  never nested, whatever the comment on compatible usages says.

  `netMaps` counts mappings made less mappings undone in the log of calls, and is tied to `map_data`
  by the same invariant.  One lemma for each way a lock or unlock can go keeps `LockOk`
  (`lock_unmapped`, `lock_mapped`, `unlock_mapped`, `unlock_unmapped`); `libRun_lockOk` in `Library`
  carries it through every run.

  `lock_count` is an unbounded integer here and an `int` in the source.
-/
import GrallocGbm.Buffer
import GrallocGbm.Lib.Run
import Mathlib.Algebra.Ring.Int.Defs

namespace GrallocGbm

/-! ## Mapping

  The flags of a transfer are made from the usage bits; the address that gbm returns goes into
  the user data. -/

/-- `GBM_BO_TRANSFER_READ` and `GBM_BO_TRANSFER_WRITE`. -/
def gbmBoTransferRead : UInt32 := 1
def gbmBoTransferWrite : UInt32 := 2

/-- The transfer flags `gralloc_gbm_bo_map` asks for. -/
def transferFlags (enableWrite : Bool) : UInt32 :=
  if enableWrite then gbmBoTransferRead ||| gbmBoTransferWrite else gbmBoTransferRead

/-- `gralloc_gbm_bo_map`, with what it writes to `*addr` (the inner `none` is NULL).  The assertion
    on the mapping's stride is left out. -/
def grallocGbmBoMap (env : Env) (bo : Nat) (enableWrite : Bool) (p : Proc) :
    Ret Unit × Option (Option Nat) × Proc :=
  if bo = 0 then (.err (-eINVAL), none, p)
  else match gbmBoGetUserData bo p with
    | none => (.crash, none, p)
    | some d =>
      if d.mapData.isSome then (.err (-eINVAL), none, p)
      else
        let addr := env.boMap p.calls.length
        let p := { p with calls := .boMap bo (transferFlags enableWrite) addr :: p.calls }
        match addr with
        | none => (.err (-eNOMEM), some none, p)
        | some a => (.ok (), some (some a), modifyBoData bo (fun d => { d with mapData := some a }) p)

/-- `gralloc_gbm_bo_unmap`. -/
def grallocGbmBoUnmap (bo : Nat) (p : Proc) : Proc :=
  modifyBoData bo (fun d => { d with mapData := none }) { p with calls := .boUnmap bo :: p.calls }

/-! ## Lock and unlock

  A lock computes the new user data first, maps if there is CPU access, and only then writes
  them. -/

/-- The CPU access bits of a usage. -/
def cpuAccessMask : UInt32 := grallocUsageSwWriteMask ||| grallocUsageSwReadMask

/-- The test of `gralloc_gbm_android_buffer_lock` that protects memory not declared for the CPU. -/
def lockUsageRefused (declared usage : UInt32) : Bool :=
  declared &&& usage != usage &&
    (declared &&& (grallocUsageSwReadOften ||| grallocUsageSwWriteOften) == 0 &&
      declared &&& grallocUsageHwFb == 0 && declared &&& grallocUsageHwTexture == 0)

/-- The bookkeeping at the end of a lock; `usage` is already joined with `locked_for`. -/
def lockedData (usage : UInt32) (d : GbmBoData) : GbmBoData :=
  { d with lockCount := d.lockCount + 1, lockedFor := d.lockedFor ||| usage }

/-- `gralloc_gbm_android_buffer_lock`, with what it writes to `*out`; the region is not used. -/
def grallocGbmAndroidBufferLock (env : Env) (handle : NativeHandle) (usage : UInt32) (p : Proc) :
    Ret Unit × Option (Option Nat) × Proc :=
  let g := grallocHandle handle
  if !isGrallocGbmReady p then (.err (-eNODEV), none, p)
  else if usage &&& grallocUsageHwFb ≠ 0 then (.err (-eINVAL), none, p)
  else if lockUsageRefused g.usage usage then (.err (-eINVAL), none, p)
  else match findBufferK g.primeFd p.table with
    | none => (.err (-eINVAL), none, p)
    | some buffer =>
      match grallocGbmBoUserDataInit buffer.bo p with
      | (none, p) => (.crash, none, p)
      | (some d, p) =>
        -- allow multiple locks with compatible usages
        if d.lockCount ≠ 0 ∧ d.lockedFor &&& usage ≠ usage then (.err (-eINVAL), none, p)
        else
          let usage := usage ||| d.lockedFor
          if usage &&& cpuAccessMask ≠ 0 then
            match grallocGbmBoMap env buffer.bo (usage &&& grallocUsageSwWriteMask != 0) p with
            | (.ok (), out, p) => (.ok (), out, modifyBoData buffer.bo (lockedData usage) p)
            | r => r
          else (.ok (), none, modifyBoData buffer.bo (lockedData usage) p)

/-- The bookkeeping at the end of an unlock. -/
def unlockedData (d : GbmBoData) : GbmBoData :=
  { d with
    lockCount := d.lockCount - 1
    lockedFor := if d.lockCount - 1 = 0 then 0 else d.lockedFor }

/-- `gralloc_gbm_android_buffer_unlock`. -/
def grallocGbmAndroidBufferUnlock (handle : NativeHandle) (p : Proc) : Ret Unit × Proc :=
  match findBufferK (grallocHandle handle).primeFd p.table with
  | none => (.err (-eINVAL), p)
  | some buffer =>
    if buffer.bo = 0 then (.err (-eINVAL), p)
    else match gbmBoGetUserData buffer.bo p with
      | none => (.crash, p)
      | some d =>
        if d.lockCount = 0 then (.ok (), p)
        else if d.lockedFor &&& cpuAccessMask ≠ 0 then
          (.ok (), modifyBoData buffer.bo unlockedData (grallocGbmBoUnmap buffer.bo p))
        else (.ok (), modifyBoData buffer.bo unlockedData p)

/-! ## What the operations do

  Their outcomes, of which every later proof about locks takes its cases. -/

/-- Every live buffer object has user data. -/
def HasUserData (p : Proc) : Prop := ∀ bo b, p.bos bo = some b → ∃ d, b.data = some d

/-- The user data, seen through the accessor that the code uses. -/
theorem HasUserData.exists_data {p : Proc} (h : HasUserData p) (bo : Nat)
    (hb : (p.bos bo).isSome = true) : ∃ d, gbmBoGetUserData bo p = some d := by
  obtain ⟨b, hb⟩ := Option.isSome_iff_exists.mp hb
  obtain ⟨d, hd⟩ := h bo b hb
  exact ⟨d, by rw [gbmBoGetUserData, hb]; exact hd⟩

/-- Every outcome of a lock: it is refused, it is granted without a mapping, its mapping fails, or
    it maps.  In all of them the object that is touched is the one found under the handle's
    descriptor. -/
theorem grallocGbmAndroidBufferLock_cases (env : Env) (handle : NativeHandle) (usage : UInt32)
    {p : Proc} (hp : HasUserData p) :
    let r := grallocGbmAndroidBufferLock env handle usage p
    (∃ ret, r = (ret, none, p) ∧ ret ≠ .ok ()) ∨
    (∃ buffer d, isGrallocGbmReady p = true ∧
      findBufferK (grallocHandle handle).primeFd p.table = some buffer ∧
      gbmBoGetUserData buffer.bo p = some d ∧
      (d.lockCount = 0 ∨ d.lockedFor &&& usage = usage) ∧
      (((usage ||| d.lockedFor) &&& cpuAccessMask = 0 ∧
          r = (.ok (), none, modifyBoData buffer.bo (lockedData (usage ||| d.lockedFor)) p)) ∨
        ((usage ||| d.lockedFor) &&& cpuAccessMask ≠ 0 ∧ d.mapData = none ∧ ∃ transfer,
          (r = (.err (-eNOMEM), some none,
            { p with calls := .boMap buffer.bo transfer none :: p.calls }) ∨
          ∃ a, r = (.ok (), some (some a), modifyBoData buffer.bo
            (fun d' => lockedData (usage ||| d.lockedFor) { d' with mapData := some a })
            { p with calls := .boMap buffer.bo transfer (some a) :: p.calls }))))) := by
  intro r
  have hr : r = grallocGbmAndroidBufferLock env handle usage p := rfl
  unfold grallocGbmAndroidBufferLock at hr
  cases hready : isGrallocGbmReady p with
  | false => exact .inl ⟨_, by simpa [hready] using hr, by simp⟩
  | true =>
    simp only [hready, Bool.not_true, Bool.false_eq_true, if_false] at hr
    by_cases hfb : usage &&& grallocUsageHwFb = 0
    swap
    · exact .inl ⟨_, by simpa [hfb] using hr, by simp⟩
    by_cases href : lockUsageRefused (grallocHandle handle).usage usage = true
    · exact .inl ⟨_, by simpa [hfb, href] using hr, by simp⟩
    simp only [hfb, href, ne_eq, not_true_eq_false, Bool.false_eq_true, if_false] at hr
    cases hf : findBufferK (grallocHandle handle).primeFd p.table with
    | none => exact .inl ⟨_, by simpa only [hf] using hr, by simp⟩
    | some buffer =>
      cases hb : p.bos buffer.bo with
      | none =>
        refine .inl ⟨.crash, ?_, by simp⟩
        simpa only [hf, grallocGbmBoUserDataInit, hb] using hr
      | some b =>
        obtain ⟨d, hd⟩ := hp.exists_data buffer.bo (by rw [hb]; rfl)
        simp only [hf, grallocGbmBoUserDataInit_of_some hd] at hr
        by_cases hcompat : d.lockCount ≠ 0 ∧ d.lockedFor &&& usage ≠ usage
        · rw [if_pos hcompat] at hr
          exact .inl ⟨_, hr, by simp⟩
        rw [if_neg hcompat] at hr
        have hcompat' : d.lockCount = 0 ∨ d.lockedFor &&& usage = usage := by
          by_cases h0 : d.lockCount = 0
          · exact .inl h0
          · exact .inr (by simpa [h0] using hcompat)
        by_cases hmask : (usage ||| d.lockedFor) &&& cpuAccessMask = 0
        · rw [if_neg (by simpa using hmask)] at hr
          exact .inr ⟨buffer, d, rfl, rfl, hd, hcompat', .inl ⟨hmask, hr⟩⟩
        rw [if_pos hmask] at hr
        -- the object is to be mapped; `gralloc_gbm_bo_map` refuses NULL and a second mapping
        simp only [grallocGbmBoMap, hd] at hr
        by_cases h0 : buffer.bo = 0
        · rw [if_pos h0] at hr
          exact .inl ⟨_, hr, by simp⟩
        rw [if_neg h0] at hr
        cases hm : d.mapData with
        | some a => exact .inl ⟨_, by simpa [hm] using hr, by simp⟩
        | none =>
          refine .inr ⟨buffer, d, rfl, rfl, hd, hcompat', .inr ⟨hmask, hm,
            transferFlags ((usage ||| d.lockedFor) &&& grallocUsageSwWriteMask != 0), ?_⟩⟩
          simp only [hm, Option.isSome_none, Bool.false_eq_true, if_false] at hr
          cases ha : env.boMap p.calls.length with
          | none => exact .inl (by rw [hr, ha])
          | some a =>
            refine .inr ⟨a, ?_⟩
            rw [hr, ha]
            simp [modifyBoData, hb, Function.comp_def]

/-- Every outcome of an unlock: it finds nothing to do, it counts, or it unmaps and counts. -/
theorem grallocGbmAndroidBufferUnlock_cases (handle : NativeHandle) (p : Proc) :
    let r := grallocGbmAndroidBufferUnlock handle p
    (r.2 = p) ∨
    (∃ buffer d, findBufferK (grallocHandle handle).primeFd p.table = some buffer ∧
      gbmBoGetUserData buffer.bo p = some d ∧ d.lockCount ≠ 0 ∧
      ((d.lockedFor &&& cpuAccessMask ≠ 0 ∧
          r = (.ok (), modifyBoData buffer.bo (fun d => unlockedData { d with mapData := none })
            { p with calls := .boUnmap buffer.bo :: p.calls })) ∨
        (d.lockedFor &&& cpuAccessMask = 0 ∧
          r = (.ok (), modifyBoData buffer.bo unlockedData p)))) := by
  intro r
  have hr : r = grallocGbmAndroidBufferUnlock handle p := rfl
  unfold grallocGbmAndroidBufferUnlock at hr
  cases hf : findBufferK (grallocHandle handle).primeFd p.table with
  | none => exact .inl (by simp only [hr, hf])
  | some buffer =>
    by_cases h0 : buffer.bo = 0
    · exact .inl (by simp [hr, hf, h0])
    simp only [hf, h0, if_false] at hr
    cases hd : gbmBoGetUserData buffer.bo p with
    | none => exact .inl (by simp only [hr, hd])
    | some d =>
      simp only [hd] at hr
      by_cases hc : d.lockCount = 0
      · exact .inl (by simp [hr, hc])
      rw [if_neg hc] at hr
      refine .inr ⟨buffer, d, rfl, hd, hc, ?_⟩
      by_cases hmask : d.lockedFor &&& cpuAccessMask = 0
      · rw [if_neg (by simpa using hmask)] at hr
        exact .inr ⟨hmask, hr⟩
      · rw [if_pos hmask] at hr
        refine .inl ⟨hmask, ?_⟩
        rw [hr]
        simp [modifyBoData, grallocGbmBoUnmap, Function.comp_def]

/-! ## The lock invariant

  Three numbers of one object: how often it is mapped, whether it has an address, and how many
  locks it has. -/

/-- What a call adds to the number of mappings of `bo`. -/
def mapDelta (bo : Nat) : ExtCall → Int
  | .boMap bo' _ (some _) => if bo' = bo then 1 else 0
  | .boUnmap bo' => if bo' = bo then -1 else 0
  | _ => 0

/-- Successful `gbm_bo_map` calls minus `gbm_bo_unmap` calls for `bo`. -/
def netMaps (bo : Nat) (calls : List ExtCall) : Int := (calls.map (mapDelta bo)).sum

/-- A call adds what `mapDelta` says to the balance of mappings. -/
@[simp] theorem netMaps_cons (bo : Nat) (call : ExtCall) (calls : List ExtCall) :
    netMaps bo (call :: calls) = mapDelta bo call + netMaps bo calls := by
  simp [netMaps]

/-- The relation between the lock fields of an object, and the log of the calls made. -/
structure LockOk (calls : List ExtCall) (bo : Nat) (d : GbmBoData) : Prop where
  count_nonneg : 0 ≤ d.lockCount
  idle : d.lockCount = 0 → d.lockedFor = 0
  mapped_iff : d.mapData.isSome = true ↔ d.lockedFor &&& cpuAccessMask ≠ 0
  mapped_once : d.mapData.isSome = true → d.lockCount = 1
  balance : netMaps bo calls = if d.mapData.isSome then 1 else 0

/-- Fresh user data is that of an idle object, if nothing was ever mapped at its address. -/
theorem lockOk_zeroBoData {calls : List ExtCall} {bo : Nat} (a : Nat) (h : netMaps bo calls = 0) :
    LockOk calls bo (zeroBoData a) where
  count_nonneg := le_refl 0
  idle := fun _ => rfl
  mapped_iff := by simp [zeroBoData]
  mapped_once := fun h => by cases h
  balance := h

/-- A usage contained in another one adds no bit to it. -/
theorem or_of_and_eq {a b : UInt32} (h : a &&& b = b) : b ||| a = a := by
  rw [← h]
  apply UInt32.toBitVec_inj.mp
  rw [UInt32.toBitVec_or, UInt32.toBitVec_and]
  ext i hi
  simp only [BitVec.getElem_or, BitVec.getElem_and]
  cases a.toBitVec[i] <;> simp

/-- What a lock leaves in `locked_for`; the usage is already joined with what was there. -/
theorem lockedData_lockedFor (usage : UInt32) (d : GbmBoData) :
    (lockedData (usage ||| d.lockedFor) d).lockedFor = usage ||| d.lockedFor := by
  show d.lockedFor ||| (usage ||| d.lockedFor) = usage ||| d.lockedFor
  rw [UInt32.or_comm, UInt32.or_assoc, UInt32.or_self]

/-- **A lock without mapping.**  On an idle object the new usage is all there is; on a locked one
    it adds nothing, since only compatible usages are let through. -/
theorem LockOk.lock_unmapped {calls : List ExtCall} {bo : Nat} {d : GbmBoData} {usage : UInt32}
    (h : LockOk calls bo d) (hcompat : d.lockCount = 0 ∨ d.lockedFor &&& usage = usage)
    (hmask : (usage ||| d.lockedFor) &&& cpuAccessMask = 0) :
    LockOk calls bo (lockedData (usage ||| d.lockedFor) d) := by
  -- so nothing was mapped before either
  have hnone : d.mapData = none := by
    rcases hcompat with h0 | hc
    · by_contra hm
      have hs : d.mapData.isSome = true := Option.isSome_iff_ne_none.mpr hm
      have := h.mapped_once hs
      omega
    · rw [or_of_and_eq hc] at hmask
      by_contra hm
      exact h.mapped_iff.mp (Option.isSome_iff_ne_none.mpr hm) hmask
  have hcount := h.count_nonneg
  constructor
  case count_nonneg =>
    show 0 ≤ d.lockCount + 1
    omega
  case idle =>
    show d.lockCount + 1 = 0 → _
    omega
  case mapped_iff =>
    rw [lockedData_lockedFor, hmask]
    show d.mapData.isSome = true ↔ _
    rw [hnone]
    simp
  case mapped_once =>
    show d.mapData.isSome = true → _
    rw [hnone]
    simp
  case balance => exact h.balance

/-- **A lock that maps.**  It is the first: a locked object with a CPU usage is already mapped, and
    `gralloc_gbm_bo_map` refuses it. -/
theorem LockOk.lock_mapped {calls : List ExtCall} {bo a : Nat} {d : GbmBoData}
    {usage transfer : UInt32} (h : LockOk calls bo d)
    (hcompat : d.lockCount = 0 ∨ d.lockedFor &&& usage = usage)
    (hmask : (usage ||| d.lockedFor) &&& cpuAccessMask ≠ 0) (hnone : d.mapData = none) :
    LockOk (.boMap bo transfer (some a) :: calls) bo
      (lockedData (usage ||| d.lockedFor) { d with mapData := some a }) := by
  have h0 : d.lockCount = 0 := by
    rcases hcompat with h0 | hc
    · exact h0
    · rw [or_of_and_eq hc] at hmask
      have hs := h.mapped_iff.mpr hmask
      rw [hnone] at hs
      cases hs
  have hbal := h.balance
  rw [hnone] at hbal
  constructor
  case count_nonneg =>
    show 0 ≤ d.lockCount + 1
    omega
  case idle =>
    show d.lockCount + 1 = 0 → _
    omega
  case mapped_iff =>
    show true = true ↔ (lockedData (usage ||| d.lockedFor) d).lockedFor &&& _ ≠ 0
    rw [lockedData_lockedFor]
    exact iff_of_true rfl hmask
  case mapped_once =>
    show true = true → d.lockCount + 1 = 1
    omega
  case balance =>
    show netMaps bo (.boMap bo transfer (some a) :: calls) = 1
    simpa [mapDelta] using hbal

/-- An unlock of a mapped object is the last one, and unmaps it. -/
theorem LockOk.unlock_mapped {calls : List ExtCall} {bo : Nat} {d : GbmBoData}
    (h : LockOk calls bo d) (hmask : d.lockedFor &&& cpuAccessMask ≠ 0) :
    LockOk (.boUnmap bo :: calls) bo (unlockedData { d with mapData := none }) := by
  have hs := h.mapped_iff.mpr hmask
  have h1 := h.mapped_once hs
  have hbal := h.balance
  rw [if_pos hs] at hbal
  have hfor : (unlockedData { d with mapData := none }).lockedFor = 0 := by simp [unlockedData, h1]
  constructor
  case count_nonneg =>
    show 0 ≤ d.lockCount - 1
    omega
  case idle => exact fun _ => hfor
  case mapped_iff =>
    rw [hfor]
    simp [unlockedData]
  case mapped_once =>
    show false = true → _
    simp
  case balance =>
    show netMaps bo (.boUnmap bo :: calls) = 0
    simp [mapDelta, hbal]

/-- An unlock of an object without a mapping only counts; at zero there is nothing left to be locked
    for. -/
theorem LockOk.unlock_unmapped {calls : List ExtCall} {bo : Nat} {d : GbmBoData}
    (h : LockOk calls bo d) (hcount : d.lockCount ≠ 0)
    (hmask : d.lockedFor &&& cpuAccessMask = 0) : LockOk calls bo (unlockedData d) := by
  have hnone : ¬ d.mapData.isSome = true := fun hs => h.mapped_iff.mp hs hmask
  have hpos := h.count_nonneg
  have hfor : (unlockedData d).lockedFor &&& cpuAccessMask = 0 := by
    show (if d.lockCount - 1 = 0 then 0 else d.lockedFor) &&& cpuAccessMask = 0
    split
    · simp
    · exact hmask
  constructor
  case count_nonneg =>
    show 0 ≤ d.lockCount - 1
    omega
  case idle =>
    intro h0
    exact if_pos h0
  case mapped_iff =>
    rw [hfor]
    exact ⟨fun hs => absurd hs hnone, fun hne => absurd rfl hne⟩
  case mapped_once => exact fun hs => absurd hs hnone
  case balance => exact h.balance

end GrallocGbm
