/-
  Runs of the hash table of the library, and what the ways of looking at it see.

  The table is made by the first addition and released with the last element, any number of times;
  elements are added at addresses where no element is, and elements that are there are
  deleted.  Keys may be there more than once.

  1. **Program** — `hashStep`, an addition or a deletion, on the table of `UtHash`.

  2. **Specification** — `entriesStep`, the same on a list of addresses and keys.

  3. **Refinement** — `hashRun_hasEntries`: after every run the table has exactly the entries of the
     list on which the same run was made, in the same order.  Its step is `HasEntries.step`, from
     the two facts about `Holds`.

  4. **Observations** — the integrity check, which the source runs after each addition and deletion
     when it is compiled for debugging, finds nothing (`HasEntries.fsck`).  The count and the
     iteration see the list.  The lookup goes through the chain of one bucket only, and finds an
     entry with the key exactly if the list has one (`HasEntries.find_isSome`).

  Which entry a lookup finds is settled when the keys are distinct (`HasEntries.find_eq`), and not
  otherwise: the newest is in front of its chain, until an expansion turns the chain around.

  `hashRun_refines` has all of it.  As in `UtHash`, the counters do not overflow and buckets can be
  allocated.
-/
import GrallocGbm.Lib.Keyed
import GrallocGbm.UtHash

namespace GrallocGbm

/-! ## The machine

  Additions and deletions of elements, on the table and on a list. -/

/-- An addition or a deletion of an element, by its address. -/
inductive HashOp (κ : Type) where
  /-- `HASH_ADD` of the element at `a`, with the key `k`. -/
  | add (k : κ) (a : Nat)
  /-- `HASH_DELETE` of the element at `a`. -/
  | delete (a : Nat)

section

variable {κ : Type} [DecidableEq κ] (hash : κ → UInt32)

/-- What the source does. -/
def hashStep (s : UtHash κ) : HashOp κ → UtHash κ
  | .add k a => hashAdd hash k a s
  | .delete a => hashDelete a s

/-- The same on a list of addresses and keys. -/
def entriesStep (l : List (Nat × κ)) : HashOp κ → List (Nat × κ)
  | .add k a => l ++ [(a, k)]
  | .delete a => Keyed.remove Prod.fst a l

/-- A new element is at a fresh address, and a deletion is of an element that is there. -/
def HashOpOk (l : List (Nat × κ)) : HashOp κ → Prop
  | .add _ a => a ∉ l.map Prod.fst
  | .delete a => a ∈ l.map Prod.fst

instance (l : List (Nat × κ)) : DecidablePred (HashOpOk l)
  | .add _ a => inferInstanceAs (Decidable (a ∉ l.map Prod.fst))
  | .delete a => inferInstanceAs (Decidable (a ∈ l.map Prod.fst))

/-- The table is in order, and its elements and their keys are `l`. -/
structure HasEntries (s : UtHash κ) (l : List (Nat × κ)) : Prop where
  holds : Holds hash s (l.map Prod.fst)
  key : ∀ x ∈ l, s.key x.1 = x.2

/-! ## Runs

  The table has the elements of the list, in its order, after every run. -/

variable {hash} {s : UtHash κ} {l : List (Nat × κ)} {a : Nat} {k : κ}

omit [DecidableEq κ] in
/-- No table has been made. -/
theorem HasEntries.unused (h : s.head = none) : HasEntries hash s [] := by
  refine ⟨⟨⟨List.nodup_nil, h, trivial, fun t ht => ?_, fun x hx => ?_⟩, fun hne => absurd rfl hne⟩,
    fun x hx => ?_⟩
  · exact absurd ht (by simp)
  · exact absurd hx List.not_mem_nil
  · exact absurd hx List.not_mem_nil

omit [DecidableEq κ] in
/-- Keys are written by the caller, not by the table: -/
theorem key_hashAddToBkt (bkt a : Nat) (s : UtHash κ) : (hashAddToBkt bkt a s).key = s.key := by
  unfold hashAddToBkt
  dsimp only
  split <;> rfl

omit [DecidableEq κ] in
/-- an addition is of an element with its key, -/
theorem key_hashAdd (k : κ) (a : Nat) (s : UtHash κ) :
    (hashAdd hash k a s).key = Function.update s.key a k := by
  rw [hashAdd, hashAddToTable, key_hashAddToBkt]
  show (hashAppend a _).key = Function.update s.key a k
  unfold hashAppend
  cases s.head <;> rfl

omit [DecidableEq κ] in
/-- and a deletion changes none. -/
theorem key_hashDelete (a : Nat) (s : UtHash κ) : (hashDelete a s).key = s.key := by
  unfold hashDelete
  dsimp only
  split <;> rfl

/-- **The step lemma**: what an operation does to the table is what it does to the list. -/
theorem HasEntries.step (h : HasEntries hash s l) (op : HashOp κ) (hok : HashOpOk l op) :
    HasEntries hash (hashStep hash s op) (entriesStep l op) := by
  cases op with
  | add k a =>
    refine ⟨?_, fun x hx => ?_⟩
    · show Holds hash (hashAdd hash k a s) ((l ++ [(a, k)]).map Prod.fst)
      rw [List.map_append]
      exact h.holds.add k hok
    · show (hashAdd hash k a s).key x.1 = x.2
      rw [key_hashAdd]
      rcases List.mem_append.mp hx with hx | hx
      · have hne : x.1 ≠ a := fun heq => hok (heq ▸ List.mem_map_of_mem hx)
        rw [Function.update_of_ne hne]
        exact h.key x hx
      · rw [List.mem_singleton.mp hx]
        exact Function.update_self ..
  | delete a =>
    refine ⟨?_, fun x hx => ?_⟩
    · have herase : (Keyed.remove Prod.fst a l).map Prod.fst = (l.map Prod.fst).erase a := by
        rw [h.holds.nodup.erase_eq_filter, List.filter_map, Keyed.remove]
        refine congrArg _ (List.filter_congr fun x _ => ?_)
        by_cases hx : x.1 = a <;> simp [hx]
      show Holds hash (hashDelete a s) ((Keyed.remove Prod.fst a l).map Prod.fst)
      rw [herase]
      exact h.holds.delete hok
    · show (hashDelete a s).key x.1 = x.2
      rw [key_hashDelete]
      exact h.key x (Keyed.mem_remove.mp hx).1

/-- **The table refines the list** over every run. -/
theorem hashRun_hasEntries {ops : List (HashOp κ)} (h : HasEntries hash s l)
    (hops : Run.Along entriesStep HashOpOk l ops) :
    HasEntries hash (ops.foldl (hashStep hash) s) (ops.foldl entriesStep l) :=
  Run.foldl_sim (fun l s => HasEntries hash s l) (fun _ _ op h hok => h.step op hok) h hops

/-! ## Looking -/

omit [DecidableEq κ] in
/-- The integrity check finds nothing. -/
theorem HasEntries.fsck (h : HasEntries hash s l) : hashFsck s := by
  intro hhead
  have hne : l.map Prod.fst ≠ [] := by
    intro hnil
    rw [h.holds.head, hnil] at hhead
    cases hhead
  have htbl := h.holds.tbl hne
  obtain ⟨c, hc⟩ := htbl.chains
  refine ⟨fun i hi => ?_, ?_, ?_⟩
  · rw [hc.head i hi, hc.count i hi]
    refine (hc.seg i hi).check ?_
    have := hc.length_le hi
    have := htbl.items
    omega
  · have hcounts : ((List.range s.tbl.numBuckets).map fun i => (s.tbl.buckets i).count)
        = (List.range s.tbl.numBuckets).map fun i => (c i).length :=
      List.map_congr_left fun i hi => hc.count i (List.mem_range.mp hi)
    rw [hcounts, ← List.length_flatMap, htbl.items]
    exact (hc.flatMap_perm h.holds.nodup fun x _ => hashToBkt_lt (s.hashv x) htbl.pos).length_eq
  · rw [h.holds.head, htbl.items]
    exact h.holds.app.check (Nat.lt_succ_self _)

omit [DecidableEq κ] in
/-- The count is the number of entries. -/
theorem HasEntries.count (h : HasEntries hash s l) : hashCount s = l.length := by
  unfold hashCount
  rw [h.holds.head]
  cases l with
  | nil => rfl
  | cons x l =>
    rw [if_pos (by simp), (h.holds.tbl (by simp)).items, List.length_map]

omit [DecidableEq κ] in
/-- The iteration goes through the entries in the order in which they were added. -/
theorem HasEntries.iter (h : HasEntries hash s l) : hashIter s = l.map Prod.fst := by
  unfold hashIter
  rw [h.holds.head]
  cases l with
  | nil => cases s.tbl.numItems <;> rfl
  | cons x l =>
    have hitems := (h.holds.tbl (by simp)).items
    exact h.holds.app.walk (le_of_eq hitems.symm)

/-- The lookup is one in a list that has, in some order, the elements of the bucket of the key. -/
theorem HasEntries.find_chain (h : HasEntries hash s l) (k : κ) :
    ∃ chain : List Nat, hashFind hash k s = chain.find? (fun a => decide (s.key a = k)) ∧
      (∀ a ∈ chain, a ∈ l.map Prod.fst) ∧ ∀ a ∈ l.map Prod.fst, s.key a = k → a ∈ chain := by
  unfold hashFind
  rw [h.holds.head]
  rcases hl : l.map Prod.fst with _ | ⟨x, r⟩
  · exact ⟨[], rfl, fun _ ha => ha, fun _ ha _ => ha⟩
  · have hholds := h.holds
    rw [hl] at hholds
    have htbl := hholds.tbl (List.cons_ne_nil x r)
    obtain ⟨c, hc⟩ := htbl.chains
    have hb := hashToBkt_lt (hash k) htbl.pos
    refine ⟨c (hashToBkt (hash k) s.tbl.numBuckets), ?_, fun a ha => ((hc.mem hb).mp ha).1,
      fun a ha hk => (hc.mem hb).mpr ⟨ha, ?_⟩⟩
    · have hlen := htbl.items ▸ hc.length_le hb
      dsimp only [List.head?_cons]
      rw [Links.find_eq, hc.head _ hb, (hc.seg _ hb).walk hlen]
      -- the hash value of an element is that of its key
      rw [← List.head?_filter, ← List.head?_filter]
      refine congrArg _ (List.filter_congr fun a ha => ?_)
      have hv := hholds.hashv a ((hc.mem hb).mp ha).1
      rw [hv, decide_eq_decide]
      exact ⟨fun hboth => hboth.2, fun hkey => ⟨by rw [hkey], hkey⟩⟩
    · show hashToBkt (s.hashv a) s.tbl.numBuckets = _
      rw [hholds.hashv a ha, hk]

/-- **The lookup finds an entry with the key if there is one.** -/
theorem HasEntries.find_isSome (h : HasEntries hash s l) (k : κ) :
    (hashFind hash k s).isSome ↔ ∃ x ∈ l, x.2 = k := by
  obtain ⟨chain, hfind, hmem, hall⟩ := h.find_chain k
  rw [hfind, List.find?_isSome]
  constructor
  · rintro ⟨a, ha, hk⟩
    obtain ⟨x, hx, rfl⟩ := List.mem_map.mp (hmem a ha)
    exact ⟨x, hx, (h.key x hx).symm.trans (of_decide_eq_true hk)⟩
  · rintro ⟨x, hx, rfl⟩
    exact ⟨x.1, hall _ (List.mem_map_of_mem hx) (h.key x hx), decide_eq_true (h.key x hx)⟩

/-- What is found is an entry with the key. -/
theorem HasEntries.find_mem (h : HasEntries hash s l) (hfind : hashFind hash k s = some a) :
    (a, k) ∈ l := by
  obtain ⟨chain, heq, hmem, -⟩ := h.find_chain k
  rw [heq] at hfind
  have hk := of_decide_eq_true (List.find?_some (p := fun a => decide (s.key a = k)) hfind)
  obtain ⟨x, hx, rfl⟩ := List.mem_map.mp (hmem a (List.mem_of_find?_eq_some hfind))
  rw [h.key x hx] at hk
  exact hk ▸ hx

/-- With distinct keys it is the entry with the key. -/
theorem HasEntries.find_eq (h : HasEntries hash s l) (hkeys : (l.map Prod.snd).Nodup) (k : κ) :
    hashFind hash k s = (Keyed.lookup Prod.snd k l).map Prod.fst := by
  cases hfind : hashFind hash k s with
  | none =>
    have hnone : Keyed.lookup Prod.snd k l = none := by
      rw [Keyed.lookup_eq_none]
      intro x hx hk
      have hsome := (h.find_isSome k).mpr ⟨x, hx, hk⟩
      rw [hfind] at hsome
      cases hsome
    rw [hnone]
    rfl
  | some a =>
    have hlookup : Keyed.lookup Prod.snd k l = some (a, k) :=
      Keyed.lookup_eq_some_of_mem hkeys (h.find_mem hfind)
    rw [hlookup]
    rfl

/-- **The hash table is a list.**  After every run from no table, additions and deletions of any
    keys in any order, the integrity check passes, the count and the iteration are those of the
    list, and the lookup finds an entry with the key exactly if the list has one.  The counters are
    unbounded, and buckets are always to be had. -/
theorem hashRun_refines (hash : κ → UInt32) (s : UtHash κ) (hs : s.head = none)
    (ops : List (HashOp κ)) (hops : Run.Along entriesStep HashOpOk [] ops) :
    let s' := ops.foldl (hashStep hash) s
    let l := ops.foldl entriesStep []
    hashFsck s' ∧ hashCount s' = l.length ∧ hashIter s' = l.map Prod.fst ∧
      (∀ k, (hashFind hash k s').isSome ↔ ∃ x ∈ l, x.2 = k) ∧
      (∀ k a, hashFind hash k s' = some a → (a, k) ∈ l) ∧
      ((l.map Prod.snd).Nodup →
        ∀ k, hashFind hash k s' = (Keyed.lookup Prod.snd k l).map Prod.fst) := by
  intro s' l
  have h : HasEntries hash s' l := hashRun_hasEntries (.unused hs) hops
  exact ⟨h.fsck, h.count, h.iter, h.find_isSome, fun _ _ hfind => h.find_mem hfind, h.find_eq⟩

end

/-- `android_buffer_table` before its first use: NULL. -/
def androidBufferTableStart : UtHash Int where
  key := fun _ => 0
  hashv := fun _ => 0
  app := ⟨fun _ => none, fun _ => none⟩
  chain := ⟨fun _ => none, fun _ => none⟩
  head := none
  tbl := hashMakeTable 0

/-- Eleven elements under one key, one under another, and the third of the eleven is deleted. -/
def crowdedOps : List (HashOp Int) :=
  (List.range 11).map (fun i => HashOp.add 5 (i + 1)) ++ [.add 7 12, .delete 3]

/-- The one chain makes the table expand, and it still is the list. -/
theorem crowded_table_refines :
    let s' := crowdedOps.foldl (hashStep hashJen) androidBufferTableStart
    let l := crowdedOps.foldl entriesStep []
    s'.tbl.numBuckets = 64 ∧ hashFsck s' ∧ hashCount s' = l.length ∧ hashIter s' = l.map Prod.fst ∧
      (∀ k, (hashFind hashJen k s').isSome ↔ ∃ x ∈ l, x.2 = k) ∧
      (∀ k a, hashFind hashJen k s' = some a → (a, k) ∈ l) ∧
      ((l.map Prod.snd).Nodup →
        ∀ k, hashFind hashJen k s' = (Keyed.lookup Prod.snd k l).map Prod.fst) :=
  ⟨by decide +kernel,
    hashRun_refines hashJen androidBufferTableStart rfl crowdedOps (by decide +kernel)⟩

end GrallocGbm
