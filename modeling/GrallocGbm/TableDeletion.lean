/-
  Deletion by descriptor: `delete_buffer_fd` (`common/gralloc_gbm.c`).

  It looks for the entry of the descriptor and then tests the descriptor, where the entry found
  would have to be tested:

      HASH_FIND_INT(android_buffer_table, &fd, tmp);
      if (fd) { HASH_DEL(android_buffer_table, tmp); free(tmp); }
      else LOG_D("no fd=%d buffer found, skip deleting.", fd);

  So a positive descriptor without an entry makes it delete the entry NULL, which is the end of the
  process, and the entry of descriptor 0 is never deleted.  Nothing in the library calls it.

  Here tables are built by `add_buffer`, `delete_buffer` and `delete_buffer_fd` itself, each entry
  added under a key that is not there.  They are maps (`entryRun_inv`), and of a map exactly the
  entry with the key is removed, unless it is one of those two cases (`deleteBufferFd_exact_iff`).

  What is asked of a deletion is `DeletesExactly`: it returns, nothing is found under the key
  afterwards, and every other key finds what it found.  For a map this is the same as taking out the
  records with the key (`DeletesExactly.of_table`), which is how the cases are decided.

  Negative descriptors are refused before that, and are not what is asked about.
-/
import GrallocGbm.BufferTable

namespace GrallocGbm

/-! ## The two functions -/

/-- `find_buffer_v`.  `HASH_ITER` goes through the entries in the order in which they were added. -/
def findBufferV (v : Nat) (table : List AndroidBuffer) : Option AndroidBuffer :=
  if v = 0 then none else Keyed.lookup AndroidBuffer.bo v table.reverse

/-- `delete_buffer_fd`. -/
def deleteBufferFd (fd : Int) (p : Proc) : Ret Unit × Proc :=
  if fd < 0 then (.err (-eINVAL), p)
  else
    let tmp := findBufferK fd p.table
    -- the test is of `fd`, not of `tmp`
    if fd ≠ 0 then
      match tmp with
      -- `HASH_DEL` follows the hash handle of the element it is given
      | none => (.crash, p)
      | some tmp => (.ok (), deleteBuffer tmp p)
    else (.ok (), p)

/-- What the deletion of `fd` must do: return, and remove exactly the entry with that key. -/
structure DeletesExactly (fd : Int) (p : Proc) : Prop where
  returns : (deleteBufferFd fd p).1 ≠ .crash
  table : (deleteBufferFd fd p).2.table = Keyed.remove AndroidBuffer.fd fd p.table
  found : findBufferK fd (deleteBufferFd fd p).2.table = none
  keys : ∀ fd', fd' ≠ fd →
    findBufferK fd' (deleteBufferFd fd p).2.table = findBufferK fd' p.table
  objects : ∀ v, (∀ e, findBufferK fd p.table = some e → v ≠ e.bo) →
    findBufferV v (deleteBufferFd fd p).2.table = findBufferV v p.table

/-! ## Tables -/

/-- The three functions that build a table. -/
inductive EntryOp where
  /-- `add_buffer` of a new entry. -/
  | addBuffer (fd : Int) (bo : Nat)
  | deleteBuffer (buffer : AndroidBuffer)
  | deleteBufferFd (fd : Int)

/-- One of them. -/
def entryStep (p : Proc) : EntryOp → Proc
  | .addBuffer fd bo =>
    let (a, p) := malloc p
    addBuffer ⟨a, fd, bo⟩ p
  | .deleteBuffer buffer => deleteBuffer buffer p
  | .deleteBufferFd fd => (deleteBufferFd fd p).2

/-- The key of a new entry is not there, and a deletion returns. -/
def EntryOk (p : Proc) : EntryOp → Prop
  | .addBuffer fd _ => findBufferK fd p.table = none
  | .deleteBuffer _ => True
  | .deleteBufferFd fd => (deleteBufferFd fd p).1 ≠ .crash

section

variable {fd : Int} {p : Proc}

/-- Every outcome of a deletion. -/
theorem deleteBufferFd_cases (fd : Int) (p : Proc) :
    let r := deleteBufferFd fd p
    (fd < 0 ∧ r = (.err (-eINVAL), p)) ∨
    (fd = 0 ∧ r = (.ok (), p)) ∨
    (0 < fd ∧ findBufferK fd p.table = none ∧ r = (.crash, p)) ∨
    ∃ e, 0 < fd ∧ findBufferK fd p.table = some e ∧ r = (.ok (), deleteBuffer e p) := by
  intro r
  have hr : r = deleteBufferFd fd p := rfl
  unfold deleteBufferFd at hr
  rcases lt_trichotomy fd 0 with hneg | rfl | hpos
  · rw [if_pos hneg] at hr
    exact .inl ⟨hneg, hr⟩
  · exact .inr (.inl ⟨rfl, hr⟩)
  · rw [if_neg (not_lt.mpr (le_of_lt hpos))] at hr
    dsimp only at hr
    rw [if_pos (ne_of_gt hpos)] at hr
    cases hfind : findBufferK fd p.table with
    | none =>
      rw [hfind] at hr
      exact .inr (.inr (.inl ⟨hpos, rfl, hr⟩))
    | some e =>
      rw [hfind] at hr
      exact .inr (.inr (.inr ⟨e, hpos, rfl, hr⟩))

/-- **Adding under new keys and deleting keep the table a map.** -/
theorem TableInv.entryStep (h : TableInv p) (op : EntryOp) (hok : EntryOk p op) :
    TableInv (entryStep p op) := by
  cases op with
  | addBuffer fd bo =>
    have htable : (GrallocGbm.entryStep p (.addBuffer fd bo)).table = ⟨p.next, fd, bo⟩ :: p.table := rfl
    obtain ⟨hnew, hinv⟩ := h.of_added htable (le_refl _) (Nat.lt_succ_self _)
    exact hinv (hnew.mpr hok)
  | deleteBuffer buffer => exact h.of_removed (a := buffer.addr) rfl (le_refl _)
  | deleteBufferFd fd =>
    simp only [GrallocGbm.entryStep]
    rcases deleteBufferFd_cases fd p with ⟨-, hr⟩ | ⟨-, hr⟩ | ⟨-, -, hr⟩ | ⟨e, -, -, hr⟩ <;> rw [hr]
    · exact h
    · exact h
    · exact h
    · exact h.of_removed (a := e.addr) rfl (le_refl _)

/-- So every table built that way is a map. -/
theorem entryRun_inv {ops : List EntryOp} (hops : Run.Along entryStep EntryOk Proc.start ops) :
    TableInv (ops.foldl entryStep Proc.start) :=
  Run.foldl_inv TableInv (fun _ op h hok => h.entryStep op hok) TableInv.start hops

/-! ## Where the deletion is exact

  The test in the code is of the descriptor and not of the entry that was found. -/

/-- The table without a key is seen to be without it, and nothing else. -/
theorem DeletesExactly.of_table (hkeys : (p.table.map AndroidBuffer.fd).Nodup)
    (hreturns : (deleteBufferFd fd p).1 ≠ .crash)
    (htable : (deleteBufferFd fd p).2.table = Keyed.remove AndroidBuffer.fd fd p.table) :
    DeletesExactly fd p where
  returns := hreturns
  table := htable
  found := by
    rw [htable]
    exact Keyed.lookup_remove_key
  keys := by
    intro fd' hne
    rw [htable, findBufferK, Keyed.lookup_remove_key_eq, if_neg hne, findBufferK]
  objects := by
    intro v hv
    rw [htable, findBufferV, findBufferV, Keyed.reverse_remove]
    split
    · rfl
    · apply Keyed.lookup_remove_of_ne
      intro e he hfd hbo
      have hfind := Keyed.lookup_eq_some_of_mem hkeys (List.mem_reverse.mp he)
      rw [hfd] at hfind
      exact hv e hfind hbo.symm

/-- Of a map, the deletion is exact if the key has an entry and is not 0, or has none and is. -/
theorem TableInv.deletesExactly_iff (h : TableInv p) (hfd : 0 ≤ fd) :
    DeletesExactly fd p ↔ ((findBufferK fd p.table).isSome = true ↔ fd ≠ 0) := by
  rcases deleteBufferFd_cases fd p with
    ⟨hneg, -⟩ | ⟨h0, hr⟩ | ⟨hpos, hnone, hr⟩ | ⟨e, hpos, hfind, hr⟩
  · exact absurd hfd (not_le.mpr hneg)
  · have hiff : ((findBufferK fd p.table).isSome = true ↔ fd ≠ 0) ↔ findBufferK fd p.table = none := by
      rw [iff_false_right (not_not.mpr h0), Option.not_isSome_iff_eq_none]
    rw [hiff]
    constructor
    · intro hd
      have hfound := hd.found
      rw [hr] at hfound
      exact hfound
    · intro hnone
      refine .of_table h.keys (by rw [hr]; simp) ?_
      rw [hr, Keyed.remove_of_forall_ne (Keyed.lookup_eq_none.mp hnone)]
  · refine iff_of_false (fun hd => hd.returns (by rw [hr])) fun hiff => ?_
    rw [hnone] at hiff
    exact absurd (hiff.mpr (ne_of_gt hpos)) (by simp)
  · refine iff_of_true (.of_table h.keys (by rw [hr]; simp) ?_) ?_
    · rw [hr]
      exact Keyed.remove_found h.keys h.addrs hfind
    · rw [hfind]
      exact iff_of_true rfl (ne_of_gt hpos)

end

/-- **Where deletion by descriptor is exact.**  In every table that entries under new keys and
    deletions lead to, the deletion of a descriptor removes exactly its entry if the descriptor is
    positive and has an entry, or is 0 and has none; and only then. -/
theorem deleteBufferFd_exact_iff (ops : List EntryOp)
    (hops : Run.Along entryStep EntryOk Proc.start ops) (fd : Int) (hfd : 0 ≤ fd) :
    let p := ops.foldl entryStep Proc.start
    DeletesExactly fd p ↔ ((findBufferK fd p.table).isSome = true ↔ fd ≠ 0) :=
  (entryRun_inv hops).deletesExactly_iff hfd

/-- Two entries, and the deletion of the second. -/
theorem seven_exact_iff :
    let p := [EntryOp.addBuffer 0 3, .addBuffer 7 4].foldl entryStep Proc.start
    DeletesExactly 7 p ↔ ((findBufferK 7 p.table).isSome = true ↔ (7 : Int) ≠ 0) :=
  deleteBufferFd_exact_iff [.addBuffer 0 3, .addBuffer 7 4] ⟨rfl, rfl, trivial⟩ 7 (by decide)

/-- The entry of descriptor 0 stays, and in an empty table the deletion of descriptor 5 hands NULL to
    `HASH_DEL`. -/
theorem zero_and_absent_not_exact :
    Run.Along entryStep EntryOk Proc.start [.addBuffer 0 3] ∧
      ¬ DeletesExactly 0 ([EntryOp.addBuffer 0 3].foldl entryStep Proc.start) ∧
      ¬ DeletesExactly 5 Proc.start := by
  refine ⟨⟨rfl, trivial⟩, ?_, ?_⟩
  · intro h
    exact absurd h.found (by decide)
  · intro h
    exact h.returns (by decide)

end GrallocGbm
