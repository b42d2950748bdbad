/-
  The hash table of the library (`include/uthash/uthash.h`).

  `android_buffer_table` is a uthash table: the elements carry their own links, one pair for the
  order in which they were added and one for the chain of their bucket, and the head of the table is
  the first element.  An element goes into the front of its chain; when a chain has grown to ten
  times its bucket's multiplier, the number of buckets is doubled and all elements are moved.

  The model keeps the links, the buckets and the counters of the source, with the elements'
  addresses as numbers.  The macros are functions of the same names, one each, and their local
  variables are the arguments.  What is left out or simpler:

  * the counters are natural numbers, where uthash has `unsigned`;
  * the allocation of the table and of buckets succeeds (the source leaves the process if not);
  * a loop over a chain gets the number of elements as its fuel.  That is enough, since a chain has
    only elements of the table (`ChainsOk.length_le`);
  * the hash function is `HASH_JEN` on a four-byte key, for the library's table; the theorems are
    about any hash function.

  `Holds hash s l` says that a table is in order and has the elements `l`, in the order in which
  they were added: the application order is the list, each element has the hash of its key, and the
  buckets' chains are the elements spread by their hashes (`ChainsOk`).

  The crux is the expansion (`TblOk.expandBuckets`).  Its loop goes through the old chains and links
  each element into a new one, with the same link fields, so that it takes apart what it walks
  on.  It visits the chains as they were all the same, because the link to the next element is read
  first and no element's link is changed but its own (`Links.foldl_traverse_eq_foldl`).  The
  addition (`Holds.add`) and the deletion (`Holds.delete`) are about one chain and the order of
  addition.
-/
import GrallocGbm.Lib.Links
import GrallocGbm.Lib.Run
import Mathlib.Algebra.BigOperators.Group.List.Basic
import Mathlib.Data.List.Nodup
import Mathlib.Data.List.Perm.Basic
import Mathlib.Data.Nat.Bitwise

namespace GrallocGbm

/-! ## The hash function

  `HASH_JEN` on four bytes, with its rounds as the macro has them; all arithmetic is that of
  32-bit words. -/

/-- `HASH_JEN_MIX`. -/
def hashJenMix (a b c : UInt32) : UInt32 × UInt32 × UInt32 :=
  let a := (a - b - c) ^^^ (c >>> 13)
  let b := (b - c - a) ^^^ (a <<< 8)
  let c := (c - a - b) ^^^ (b >>> 13)
  let a := (a - b - c) ^^^ (c >>> 12)
  let b := (b - c - a) ^^^ (a <<< 16)
  let c := (c - a - b) ^^^ (b >>> 5)
  let a := (a - b - c) ^^^ (c >>> 3)
  let b := (b - c - a) ^^^ (a <<< 10)
  let c := (c - a - b) ^^^ (b >>> 15)
  (a, b, c)

/-- `HASH_JEN` of an `int`: no block of twelve bytes, and of the switch the cases 4 to 1. -/
def hashJen (key : Int) : UInt32 :=
  let byte (k : UInt32) : UInt32 := (UInt32.ofInt key >>> (8 * k)) &&& 0xFF
  let i := (0x9e3779b9 : UInt32) + (byte 3 <<< 24) + (byte 2 <<< 16) + (byte 1 <<< 8) + byte 0
  (hashJenMix i 0x9e3779b9 (0xfeedbeef + 4)).2.2

/-! ## The table

  The header keeps the buckets in an array that doubles, and the handles inside the
  elements.  Here the array is a function of the index, and the handles are a record of their
  own, by address. -/

/-- `UT_hash_bucket`. -/
structure UtHashBucket where
  hhHead : Option Nat
  count : Nat
  expandMult : Nat
  deriving DecidableEq, Repr

/-- A bucket of zeros. -/
def UtHashBucket.zero : UtHashBucket := ⟨none, 0, 0⟩

/-- `UT_hash_table`. -/
structure UtHashTable where
  buckets : Nat → UtHashBucket
  numBuckets : Nat
  log2NumBuckets : Nat
  numItems : Nat
  tail : Nat
  idealChainMaxlen : Nat
  nonidealItems : Nat
  ineffExpands : Nat
  noexpand : Bool

/-- The hash handles of all elements (`UT_hash_handle`, with the key they point to), the head of the
    table, and the table its elements refer to. -/
structure UtHash (κ : Type) where
  key : Nat → κ
  hashv : Nat → UInt32
  /-- `prev` and `next` -/
  app : Links Nat
  /-- `hh_prev` and `hh_next` -/
  chain : Links Nat
  head : Option Nat
  tbl : UtHashTable

/-- `HASH_TO_BKT`. -/
def hashToBkt (hashv : UInt32) (numBkts : Nat) : Nat := hashv.toNat &&& (numBkts - 1)

/-- `HASH_MAKE_TABLE`. -/
def hashMakeTable (head : Nat) : UtHashTable where
  buckets := fun _ => .zero
  numBuckets := 32
  log2NumBuckets := 5
  numItems := 0
  tail := head
  idealChainMaxlen := 0
  nonidealItems := 0
  ineffExpands := 0
  noexpand := false

/-! ### Expansion -/

/-- What the loop of `HASH_EXPAND_BUCKETS` works on. -/
structure Expansion where
  chain : Links Nat
  newBuckets : Nat → UtHashBucket
  nonidealItems : Nat

/-- One element goes to its new bucket. -/
def expandItem (hashv : Nat → UInt32) (numBuckets idealChainMaxlen : Nat) (e : Expansion)
    (thh : Nat) : Expansion :=
  let bkt := hashToBkt (hashv thh) (numBuckets * 2)
  let b := e.newBuckets bkt
  let count := b.count + 1
  let expandMult :=
    if idealChainMaxlen < count ∧ b.expandMult * idealChainMaxlen < count then b.expandMult + 1
    else b.expandMult
  { chain := e.chain.pushFront b.hhHead thh
    newBuckets := Function.update e.newBuckets bkt ⟨some thh, count, expandMult⟩
    nonidealItems := if idealChainMaxlen < count then e.nonidealItems + 1 else e.nonidealItems }

/-- `HASH_EXPAND_BUCKETS`. -/
def hashExpandBuckets {κ : Type} (s : UtHash κ) : UtHash κ :=
  let t := s.tbl
  let idealChainMaxlen := (t.numItems >>> (t.log2NumBuckets + 1)) +
    if t.numItems &&& (t.numBuckets * 2 - 1) ≠ 0 then 1 else 0
  let e := (List.range t.numBuckets).foldl
    (fun e i => Links.traverse Expansion.chain (expandItem s.hashv t.numBuckets idealChainMaxlen)
      t.numItems (t.buckets i).hhHead e)
    ⟨s.chain, fun _ => .zero, 0⟩
  let ineffExpands := if t.numItems >>> 1 < e.nonidealItems then t.ineffExpands + 1 else 0
  { s with
    chain := e.chain
    tbl := { t with
      buckets := e.newBuckets
      numBuckets := t.numBuckets * 2
      log2NumBuckets := t.log2NumBuckets + 1
      idealChainMaxlen := idealChainMaxlen
      nonidealItems := e.nonidealItems
      ineffExpands := ineffExpands
      noexpand := t.noexpand || decide (1 < ineffExpands) } }

/-! ### Adding, deleting -/

section

variable {κ : Type} [DecidableEq κ] (hash : κ → UInt32)

/-- `HASH_ADD_TO_BKT`. -/
def hashAddToBkt (bkt add : Nat) (s : UtHash κ) : UtHash κ :=
  let b := s.tbl.buckets bkt
  let count := b.count + 1
  let s := { s with
    chain := s.chain.pushFront b.hhHead add
    tbl := { s.tbl with
      buckets := Function.update s.tbl.buckets bkt ⟨some add, count, b.expandMult⟩ } }
  if (b.expandMult + 1) * 10 ≤ count ∧ s.tbl.noexpand = false then hashExpandBuckets s else s

/-- `HASH_ADD_TO_TABLE`. -/
def hashAddToTable (hashv : UInt32) (add : Nat) (s : UtHash κ) : UtHash κ :=
  hashAddToBkt (hashToBkt hashv s.tbl.numBuckets) add
    { s with tbl := { s.tbl with numItems := s.tbl.numItems + 1 } }

/-- The order of addition, in `HASH_ADD`: the first element makes the table, all others go in at the
    end (`HASH_APPEND_LIST`). -/
def hashAppend (add : Nat) (s : UtHash κ) : UtHash κ :=
  match s.head with
  | none => { s with
      app := (s.app.setNext add none).setPrev add none
      head := some add
      tbl := hashMakeTable add }
  | some _ => { s with
      app := s.app.append s.tbl.tail add
      tbl := { s.tbl with tail := add } }

/-- `HASH_ADD` of the element at `add`, whose key is `k`. -/
def hashAdd (k : κ) (add : Nat) (s : UtHash κ) : UtHash κ :=
  hashAddToTable (hash k) add (hashAppend add { s with
    key := Function.update s.key add k
    hashv := Function.update s.hashv add (hash k) })

/-- `HASH_DEL_IN_BKT`. -/
def hashDelInBkt (bkt del : Nat) (s : UtHash κ) : UtHash κ :=
  let b := s.tbl.buckets bkt
  { s with
    chain := s.chain.unlink del
    tbl := { s.tbl with
      buckets := Function.update s.tbl.buckets bkt
        ⟨if b.hhHead = some del then s.chain.next del else b.hhHead, b.count - 1, b.expandMult⟩ } }

/-- `HASH_DELETE`.  With its last element the table is released. -/
def hashDelete (del : Nat) (s : UtHash κ) : UtHash κ :=
  let prev := s.app.prev del
  let next := s.app.next del
  if prev = none ∧ next = none then { s with head := none }
  else
    let s := hashDelInBkt (hashToBkt (s.hashv del) s.tbl.numBuckets) del s
    { s with
      app := s.app.unlink del
      head := if prev = none then next else s.head
      tbl := { s.tbl with
        tail := if s.tbl.tail = del then prev.getD del else s.tbl.tail
        numItems := s.tbl.numItems - 1 } }

/-! ### Looking

  A lookup goes along one chain, the iteration and the check along all. -/

/-- `HASH_FIND`. -/
def hashFind (k : κ) (s : UtHash κ) : Option Nat :=
  match s.head with
  | none => none
  | some _ =>
    s.chain.find (fun out => decide (s.hashv out = hash k ∧ s.key out = k)) s.tbl.numItems
      (s.tbl.buckets (hashToBkt (hash k) s.tbl.numBuckets)).hhHead

/-- The elements a `HASH_ITER` loop goes through. -/
def hashIter (s : UtHash κ) : List Nat := s.app.walk s.tbl.numItems s.head

/-- `HASH_COUNT`. -/
def hashCount (s : UtHash κ) : Nat := if s.head.isSome then s.tbl.numItems else 0

/-- `HASH_FSCK`: the chains with their counts, the sum of these, and the order of addition. -/
def hashFsck (s : UtHash κ) : Prop :=
  s.head.isSome = true →
    (∀ i < s.tbl.numBuckets,
      s.chain.check (s.tbl.numItems + 1) none (s.tbl.buckets i).hhHead
        = some (s.tbl.buckets i).count) ∧
    ((List.range s.tbl.numBuckets).map fun i => (s.tbl.buckets i).count).sum = s.tbl.numItems ∧
    s.app.check (s.tbl.numItems + 1) none s.head = some s.tbl.numItems

end

/-! ## Chains

  A bucket's chain is doubly linked, and the bucket counts its elements.  `ChainsOk` says which
  element is in which chain, and the library of linked lists says how a chain looks in memory. -/

/-- The elements `l` are spread over `n` buckets: the chain of bucket `i` is the list `c i`, and has the
    elements whose bucket it is. -/
structure ChainsOk (chain : Links Nat) (buckets : Nat → UtHashBucket) (bkt : Nat → Nat) (n : Nat)
    (l : List Nat) (c : Nat → List Nat) : Prop where
  seg : ∀ i < n, chain.Seg none (c i) none
  head : ∀ i < n, (buckets i).hhHead = (c i).head?
  count : ∀ i < n, (buckets i).count = (c i).length
  perm : ∀ i < n, (c i).Perm (l.filter fun a => decide (bkt a = i))

section

variable {chain : Links Nat} {buckets : Nat → UtHashBucket} {bkt : Nat → Nat} {n i j a : Nat}
  {l l' : List Nat} {c : Nat → List Nat}

/-- An element is in the chain of its bucket, and in no other. -/
theorem ChainsOk.mem (h : ChainsOk chain buckets bkt n l c) (hi : i < n) :
    a ∈ c i ↔ a ∈ l ∧ bkt a = i := by
  rw [(h.perm i hi).mem_iff, List.mem_filter, decide_eq_true_iff]

/-- It is there once. -/
theorem ChainsOk.nodup (h : ChainsOk chain buckets bkt n l c) (hl : l.Nodup) (hi : i < n) :
    (c i).Nodup := (h.perm i hi).nodup_iff.mpr (hl.filter _)

/-- A chain is no longer than the table, so that the number of elements is fuel enough for it. -/
theorem ChainsOk.length_le (h : ChainsOk chain buckets bkt n l c) (hi : i < n) :
    (c i).length ≤ l.length := by
  rw [(h.perm i hi).length_eq]
  exact List.length_filter_le _ _

/-- The chains do not know the order of addition. -/
theorem ChainsOk.of_perm (h : ChainsOk chain buckets bkt n l c) (hl : l.Perm l') :
    ChainsOk chain buckets bkt n l' c :=
  ⟨h.seg, h.head, h.count, fun i hi => (h.perm i hi).trans (hl.filter _)⟩

/-- The chains one after the other have the elements of the list, each once. -/
theorem ChainsOk.flatMap_perm (h : ChainsOk chain buckets bkt n l c) (hl : l.Nodup)
    (hbkt : ∀ a ∈ l, bkt a < n) : ((List.range n).flatMap c).Perm l := by
  refine (List.perm_ext_iff_of_nodup ?_ hl).mpr fun a => ?_
  · rw [List.nodup_flatMap]
    refine ⟨fun i hi => h.nodup hl (List.mem_range.mp hi), ?_⟩
    refine List.nodup_range.imp_of_mem fun {i j} hi hj hne a hai haj => hne ?_
    rw [← ((h.mem (List.mem_range.mp hi)).mp hai).2, ((h.mem (List.mem_range.mp hj)).mp haj).2]
  · rw [List.mem_flatMap]
    constructor
    · rintro ⟨i, hi, ha⟩
      exact ((h.mem (List.mem_range.mp hi)).mp ha).1
    · intro ha
      exact ⟨bkt a, List.mem_range.mpr (hbkt a ha), (h.mem (hbkt a ha)).mpr ⟨ha, rfl⟩⟩

/-- An element goes into the front of its chain. -/
theorem ChainsOk.push (h : ChainsOk chain buckets bkt n l c) (hn : (a :: l).Nodup)
    (ha : bkt a < n) {b : UtHashBucket} (hhead : b.hhHead = some a)
    (hcount : b.count = (buckets (bkt a)).count + 1) :
    ChainsOk (chain.pushFront (buckets (bkt a)).hhHead a) (Function.update buckets (bkt a) b) bkt n
      (a :: l) (Function.update c (bkt a) (a :: c (bkt a))) := by
  obtain ⟨hal, hl⟩ := List.nodup_cons.mp hn
  have hown : (a :: c (bkt a)).Nodup :=
    List.nodup_cons.mpr ⟨fun hmem => hal ((h.mem ha).mp hmem).1, h.nodup hl ha⟩
  constructor
  case seg =>
    intro i hi
    by_cases hia : i = bkt a
    · rw [hia, Function.update_self, h.head _ ha]
      exact (h.seg _ ha).pushFront hown
    · -- the other chains have neither the element nor the old head
      rw [Function.update_of_ne hia]
      refine (h.seg i hi).congr fun x hx => Links.pushFront_of_ne ?_ ?_
      · rintro rfl
        exact hal ((h.mem hi).mp hx).1
      · rw [h.head _ ha]
        intro heq
        have hx' := (h.mem ha).mp (List.mem_of_head? heq)
        exact hia (((h.mem hi).mp hx).2.symm.trans hx'.2)
  case head =>
    intro i hi
    by_cases hia : i = bkt a
    · rw [hia, Function.update_self, Function.update_self, hhead]
      rfl
    · rw [Function.update_of_ne hia, Function.update_of_ne hia, h.head i hi]
  case count =>
    intro i hi
    by_cases hia : i = bkt a
    · rw [hia, Function.update_self, Function.update_self, hcount, h.count _ ha]
      rfl
    · rw [Function.update_of_ne hia, Function.update_of_ne hia, h.count i hi]
  case perm =>
    intro i hi
    by_cases hia : i = bkt a
    · rw [hia, Function.update_self, List.filter_cons_of_pos (by simp)]
      exact (h.perm _ ha).cons a
    · rw [Function.update_of_ne hia, List.filter_cons_of_neg (by simpa using fun heq => hia heq.symm)]
      exact h.perm i hi

/-- An element goes out of its chain. -/
theorem ChainsOk.unlink (h : ChainsOk chain buckets bkt n l c) (hl : l.Nodup) (ha : a ∈ l)
    (hn : bkt a < n) {b : UtHashBucket}
    (hhead : b.hhHead = if (buckets (bkt a)).hhHead = some a then chain.next a
      else (buckets (bkt a)).hhHead)
    (hcount : b.count = (buckets (bkt a)).count - 1) :
    ChainsOk (chain.unlink a) (Function.update buckets (bkt a) b) bkt n (l.erase a)
      (Function.update c (bkt a) ((c (bkt a)).erase a)) := by
  have hmem : a ∈ c (bkt a) := (h.mem hn).mpr ⟨ha, rfl⟩
  have hnd := h.nodup hl hn
  have hseg := h.seg _ hn
  obtain ⟨l₁, l₂, hc⟩ := List.append_of_mem hmem
  rw [hc] at hnd hseg
  have hal₁ : a ∉ l₁ := fun hx => (List.nodup_append.mp hnd).2.2 a hx a (by simp) rfl
  have herase : (c (bkt a)).erase a = l₁ ++ l₂ := by
    rw [hc, List.erase_append_right _ hal₁, List.erase_cons_head]
  obtain ⟨hprev, hnext⟩ := hseg.middle
  rw [Option.or_none] at hprev hnext
  constructor
  case seg =>
    intro i hi
    by_cases hia : i = bkt a
    · rw [hia, Function.update_self, herase]
      exact hseg.unlink hnd
    · rw [Function.update_of_ne hia]
      have hout : ∀ x ∈ c i, x ∉ c (bkt a) := fun x hx hx' =>
        hia (((h.mem hi).mp hx).2.symm.trans ((h.mem hn).mp hx').2)
      refine (h.seg i hi).congr fun x hx => Links.unlink_of_ne ?_ ?_ ?_
      · rw [hprev]
        exact fun heq => hal₁ (List.mem_of_getLast? heq)
      · rw [hprev]
        exact fun heq => hout x hx (by rw [hc]; simp [List.mem_of_getLast? heq])
      · rw [hnext]
        exact fun heq => hout x hx (by rw [hc]; simp [List.mem_of_head? heq])
  case head =>
    intro i hi
    by_cases hia : i = bkt a
    · rw [hia, Function.update_self, Function.update_self, hhead, h.head _ hn, herase, hc]
      cases l₁ with
      | nil =>
        have hfirst : ([] ++ a :: l₂).head? = some a := rfl
        rw [if_pos hfirst, hnext]
        rfl
      | cons x l₁ =>
        have hne : ¬ (x :: l₁ ++ a :: l₂).head? = some a := by
          intro heq
          exact hal₁ (List.mem_cons.mpr (.inl (Option.some.inj heq).symm))
        rw [if_neg hne]
        rfl
    · rw [Function.update_of_ne hia, Function.update_of_ne hia, h.head i hi]
  case count =>
    intro i hi
    by_cases hia : i = bkt a
    · rw [hia, Function.update_self, Function.update_self, hcount, h.count _ hn,
        List.length_erase_of_mem hmem]
    · rw [Function.update_of_ne hia, Function.update_of_ne hia, h.count i hi]
  case perm =>
    intro i hi
    have hfilter : (l.erase a).filter (fun x => decide (bkt x = i))
        = (l.filter fun x => decide (bkt x = i)).erase a := by
      rw [hl.erase_eq_filter, List.Nodup.erase_eq_filter (hl.filter _), List.filter_filter,
        List.filter_filter]
      exact List.filter_congr fun x _ => Bool.and_comm _ _
    rw [hfilter]
    by_cases hia : i = bkt a
    · rw [hia, Function.update_self]
      exact (h.perm _ hn).erase a
    · rw [Function.update_of_ne hia, List.erase_of_not_mem]
      · exact h.perm i hi
      · intro hx
        exact hia (of_decide_eq_true (List.mem_filter.mp hx).2).symm

/-- They depend on the buckets of the elements only. -/
theorem ChainsOk.congr (h : ChainsOk chain buckets bkt n l c) {bkt' : Nat → Nat}
    (hbkt : ∀ a ∈ l, bkt' a = bkt a) : ChainsOk chain buckets bkt' n l c := by
  refine ⟨h.seg, h.head, h.count, fun i hi => ?_⟩
  rw [List.filter_congr fun a ha => by rw [hbkt a ha]]
  exact h.perm i hi

/-- Empty buckets. -/
theorem ChainsOk.empty : ChainsOk chain (fun _ => .zero) bkt n [] fun _ => [] where
  seg := fun _ _ => trivial
  head := fun _ _ => rfl
  count := fun _ _ => rfl
  perm := fun _ _ => .refl _

end

/-! ## Tables in order

  What every operation keeps: the chains have the elements, the order of addition has them too,
  and the counters agree. -/

/-- Every hash has a bucket. -/
theorem hashToBkt_lt (hashv : UInt32) {n : Nat} (hn : 0 < n) : hashToBkt hashv n < n := by
  have hle : hashToBkt hashv n ≤ n - 1 := Nat.and_le_right
  omega

section

variable {κ : Type} {s : UtHash κ} {l : List Nat} {a : Nat}

/-- The bucket of the element at `a`. -/
def UtHash.bkt (s : UtHash κ) (a : Nat) : Nat := hashToBkt (s.hashv a) s.tbl.numBuckets

/-- The table proper, with the elements `l` in it. -/
structure TblOk (s : UtHash κ) (l : List Nat) : Prop where
  size : s.tbl.numBuckets = 2 ^ s.tbl.log2NumBuckets
  items : s.tbl.numItems = l.length
  chains : ∃ c, ChainsOk s.chain s.tbl.buckets s.bkt s.tbl.numBuckets l c

/-- There is a bucket, their number being a power of two. -/
theorem TblOk.pos (h : TblOk s l) : 0 < s.tbl.numBuckets := by
  rw [h.size]
  exact Nat.two_pow_pos _

/-- The order of addition, and the elements' own fields. -/
structure Ordered (hash : κ → UInt32) (s : UtHash κ) (l : List Nat) : Prop where
  nodup : l.Nodup
  head : s.head = l.head?
  app : s.app.Seg none l none
  tail : ∀ t, l.getLast? = some t → s.tbl.tail = t
  hashv : ∀ a ∈ l, s.hashv a = hash (s.key a)

/-- The table is in order and has the elements `l`, in the order in which they were added. -/
structure Holds (hash : κ → UInt32) (s : UtHash κ) (l : List Nat) : Prop extends Ordered hash s l where
  tbl : l ≠ [] → TblOk s l

/-! ### Expansion -/

/-- Moving one element changes the chain link of no other. -/
theorem next_expandItem (hashv : Nat → UInt32) (n ideal : Nat) (e : Expansion) (a x : Nat)
    (hx : x ≠ a) : (expandItem hashv n ideal e a).chain.next x = e.chain.next x := by
  show (e.chain.pushFront _ a).next x = e.chain.next x
  rw [Links.next_pushFront, Function.update_of_ne hx]

/-- Elements go to their new buckets one by one. -/
theorem foldl_expandItem_chainsOk (hashv : Nat → UInt32) {n : Nat} (hn : 0 < n) (ideal : Nat)
    {r : List Nat} {e : Expansion} {c : Nat → List Nat} (hr : (r ++ l).Nodup)
    (h : ChainsOk e.chain e.newBuckets (fun a => hashToBkt (hashv a) (n * 2)) (n * 2) l c) :
    let e' := r.foldl (expandItem hashv n ideal) e
    ∃ c', ChainsOk e'.chain e'.newBuckets (fun a => hashToBkt (hashv a) (n * 2)) (n * 2)
      (r ++ l) c' := by
  induction r generalizing e l c with
  | nil => exact ⟨c, h⟩
  | cons x r ih =>
    have hperm : (r ++ x :: l).Perm (x :: r ++ l) := List.perm_middle
    have hxl : (x :: l).Nodup := (List.nodup_append.mp (hperm.nodup_iff.mpr hr)).2.1
    have hpush := h.push hxl (hashToBkt_lt (hashv x) (by omega))
      (b := (expandItem hashv n ideal e x).newBuckets (hashToBkt (hashv x) (n * 2)))
      (by simp [expandItem]) (by simp [expandItem])
    obtain ⟨c', hc'⟩ := ih (e := expandItem hashv n ideal e x) (hperm.nodup_iff.mpr hr)
      (by simpa [expandItem] using hpush)
    exact ⟨c', hc'.of_perm hperm⟩

/-- **An expansion keeps the table in order**, with the same elements. -/
theorem TblOk.expandBuckets (h : TblOk s l) (hl : l.Nodup) : TblOk (hashExpandBuckets s) l := by
  obtain ⟨c, hc⟩ := h.chains
  have hperm := hc.flatMap_perm hl fun a _ => hashToBkt_lt (s.hashv a) h.pos
  have hnd := hperm.nodup_iff.mpr hl
  refine ⟨?_, h.items, ?_⟩
  · show s.tbl.numBuckets * 2 = 2 ^ (s.tbl.log2NumBuckets + 1)
    rw [h.size, Nat.pow_succ]
  · -- the loop visits the chains as they were, one bucket after the other
    have hloop : ∀ ideal : Nat, (List.range s.tbl.numBuckets).foldl
        (fun e i => Links.traverse Expansion.chain (expandItem s.hashv s.tbl.numBuckets ideal)
          s.tbl.numItems (s.tbl.buckets i).hhHead e) ⟨s.chain, fun _ => .zero, 0⟩
        = ((List.range s.tbl.numBuckets).flatMap c).foldl
            (expandItem s.hashv s.tbl.numBuckets ideal) ⟨s.chain, fun _ => .zero, 0⟩ := by
      intro ideal
      refine Links.foldl_traverse_eq_foldl (next_expandItem s.hashv s.tbl.numBuckets ideal) hnd
        (fun i hi l₁ a l₂ heq => ?_) (fun i hi => hc.head i (List.mem_range.mp hi))
        (fun i hi => h.items ▸ hc.length_le (List.mem_range.mp hi))
      have hseg := hc.seg i (List.mem_range.mp hi)
      rw [heq] at hseg
      simpa using hseg.middle.2
    have hspread := fun ideal => foldl_expandItem_chainsOk s.hashv h.pos ideal
      (r := (List.range s.tbl.numBuckets).flatMap c) (l := [])
      (e := ⟨s.chain, fun _ => .zero, 0⟩) (by rw [List.append_nil]; exact hnd) ChainsOk.empty
    simp only [hashExpandBuckets, hloop]
    obtain ⟨c', hc'⟩ := hspread _
    rw [List.append_nil] at hc'
    exact ⟨c', hc'.of_perm hperm⟩

/-! ### Adding

  Into the chain of its bucket, and to the end of the order of addition. -/

/-- An element in the front of its chain, with or without the expansion that follows. -/
theorem hashAddToBkt_tblOk {c : Nat → List Nat} (hl : (a :: l).Nodup)
    (hsize : s.tbl.numBuckets = 2 ^ s.tbl.log2NumBuckets) (hitems : s.tbl.numItems = l.length + 1)
    (h : ChainsOk s.chain s.tbl.buckets s.bkt s.tbl.numBuckets l c) :
    TblOk (hashAddToBkt (s.bkt a) a s) (l ++ [a]) := by
  have hpos : 0 < s.tbl.numBuckets := by
    rw [hsize]
    exact Nat.two_pow_pos _
  have hperm : (a :: l).Perm (l ++ [a]) := (List.perm_append_singleton a l).symm
  have hpushed := (h.push hl (hashToBkt_lt (s.hashv a) hpos)
    (b := ⟨some a, (s.tbl.buckets (s.bkt a)).count + 1, (s.tbl.buckets (s.bkt a)).expandMult⟩)
    rfl rfl).of_perm hperm
  unfold hashAddToBkt
  dsimp only
  split
  · refine TblOk.expandBuckets ⟨hsize, ?_, _, hpushed⟩ (hperm.nodup_iff.mp hl)
    simpa using hitems
  · exact ⟨hsize, by simpa using hitems, _, hpushed⟩

variable {hash : κ → UInt32}

/-- Going into a bucket leaves the order of addition alone. -/
theorem Ordered.addToBkt (h : Ordered hash s l) (bkt a : Nat) :
    Ordered hash (hashAddToBkt bkt a s) l := by
  unfold hashAddToBkt
  dsimp only
  split
  · exact ⟨h.nodup, h.head, h.app, h.tail, h.hashv⟩
  · exact ⟨h.nodup, h.head, h.app, h.tail, h.hashv⟩

/-- An element that is already in the order of addition goes into the table. -/
theorem Ordered.addToTable (h : Ordered hash s (l ++ [a])) (htbl : TblOk s l) :
    Holds hash (hashAddToTable (s.hashv a) a s) (l ++ [a]) := by
  obtain ⟨c, hc⟩ := htbl.chains
  have hl : (a :: l).Nodup := (List.perm_append_singleton a l).nodup_iff.mp h.nodup
  have hordered : Ordered hash { s with tbl := { s.tbl with numItems := s.tbl.numItems + 1 } }
      (l ++ [a]) := ⟨h.nodup, h.head, h.app, h.tail, h.hashv⟩
  refine ⟨hordered.addToBkt _ a, fun _ => ?_⟩
  exact hashAddToBkt_tblOk (s := { s with tbl := { s.tbl with numItems := s.tbl.numItems + 1 } }) hl
    htbl.size (congrArg (· + 1) htbl.items) hc

/-- The order of addition with one element more, and the table without it. -/
theorem Holds.append (h : Holds hash s l) (ha : a ∉ l) (hhash : s.hashv a = hash (s.key a)) :
    Ordered hash (hashAppend a s) (l ++ [a]) ∧ TblOk (hashAppend a s) l := by
  have hnd : (l ++ [a]).Nodup :=
    (List.perm_append_singleton a l).nodup_iff.mpr (List.nodup_cons.mpr ⟨ha, h.nodup⟩)
  have hhashv : ∀ x ∈ l ++ [a], s.hashv x = hash (s.key x) := by
    intro x hx
    rcases List.mem_append.mp hx with hx | hx
    · exact h.hashv x hx
    · rw [List.mem_singleton.mp hx]
      exact hhash
  rcases l.eq_nil_or_concat with rfl | ⟨l, t, rfl⟩
  · have hs : hashAppend a s = { s with
        app := (s.app.setNext a none).setPrev a none
        head := some a
        tbl := hashMakeTable a } := by
      rw [hashAppend, h.head]
      rfl
    rw [hs]
    refine ⟨⟨hnd, rfl, ⟨by simp, by simp, trivial⟩, fun t ht => Option.some.inj ht, hhashv⟩, ?_⟩
    exact ⟨rfl, rfl, _, ChainsOk.empty⟩
  · rw [List.concat_eq_append] at *
    have htail : s.tbl.tail = t := h.tail t (by simp)
    obtain ⟨x, hx⟩ : ∃ x, (l ++ [t]).head? = some x := by cases l <;> exact ⟨_, rfl⟩
    have hs : hashAppend a s = { s with
        app := s.app.append s.tbl.tail a
        tbl := { s.tbl with tail := a } } := by
      rw [hashAppend, h.head, hx]
    have htbl := h.tbl (by simp)
    rw [hs, htail]
    refine ⟨⟨hnd, ?_, h.app.append hnd, fun t' ht' => ?_, hhashv⟩, htbl.size, htbl.items, htbl.chains⟩
    · rw [List.head?_append, hx]
      exact h.head.trans hx
    · simpa using ht'

/-- **Adding an element** that is not there. -/
theorem Holds.add [DecidableEq κ] (h : Holds hash s l) (k : κ) (ha : a ∉ l) :
    Holds hash (hashAdd hash k a s) (l ++ [a]) := by
  have hne : ∀ x ∈ l, x ≠ a := fun x hx heq => ha (heq ▸ hx)
  have hset : Holds hash { s with
      key := Function.update s.key a k
      hashv := Function.update s.hashv a (hash k) } l := by
    refine ⟨⟨h.nodup, h.head, h.app, h.tail, fun x hx => ?_⟩, fun hl => ?_⟩
    · show Function.update s.hashv a (hash k) x = hash (Function.update s.key a k x)
      rw [Function.update_of_ne (hne x hx), Function.update_of_ne (hne x hx)]
      exact h.hashv x hx
    · obtain ⟨c, hc⟩ := (h.tbl hl).chains
      refine ⟨(h.tbl hl).size, (h.tbl hl).items, c, hc.congr fun x hx => ?_⟩
      show hashToBkt (Function.update s.hashv a (hash k) x) s.tbl.numBuckets = s.bkt x
      rw [Function.update_of_ne (hne x hx)]
      rfl
  obtain ⟨hordered, htbl⟩ := hset.append ha (by simp)
  have hv : (hashAppend a { s with
      key := Function.update s.key a k
      hashv := Function.update s.hashv a (hash k) }).hashv a = hash k := by
    unfold hashAppend
    cases s.head <;> exact Function.update_self ..
  have hadd := hordered.addToTable htbl
  rw [hv] at hadd
  exact hadd

/-! ### Deleting -/

/-- The table proper, with one element out of its bucket. -/
theorem TblOk.delInBkt (h : TblOk s l) (hl : l.Nodup) (ha : a ∈ l) {s' : UtHash κ}
    (hhashv : s'.hashv = s.hashv) (hchain : s'.chain = (hashDelInBkt (s.bkt a) a s).chain)
    (hbuckets : s'.tbl.buckets = (hashDelInBkt (s.bkt a) a s).tbl.buckets)
    (hn : s'.tbl.numBuckets = s.tbl.numBuckets) (hlog : s'.tbl.log2NumBuckets = s.tbl.log2NumBuckets)
    (hitems : s'.tbl.numItems = s.tbl.numItems - 1) : TblOk s' (l.erase a) := by
  obtain ⟨c, hc⟩ := h.chains
  have hout := hc.unlink hl ha (hashToBkt_lt (s.hashv a) h.pos)
    (b := ⟨if (s.tbl.buckets (s.bkt a)).hhHead = some a then s.chain.next a
      else (s.tbl.buckets (s.bkt a)).hhHead, (s.tbl.buckets (s.bkt a)).count - 1,
      (s.tbl.buckets (s.bkt a)).expandMult⟩) rfl rfl
  refine ⟨?_, ?_, Function.update c (s.bkt a) ((c (s.bkt a)).erase a), ?_⟩
  · rw [hn, hlog, h.size]
  · rw [hitems, h.items, List.length_erase_of_mem ha]
  · rw [hchain, hbuckets, hn]
    refine hout.congr fun x _ => ?_
    rw [UtHash.bkt, UtHash.bkt, hhashv, hn]

/-- **Deleting an element** of the table. -/
theorem Holds.delete (h : Holds hash s l) (ha : a ∈ l) :
    Holds hash (hashDelete a s) (l.erase a) := by
  have htbl := h.tbl (List.ne_nil_of_mem ha)
  obtain ⟨l₁, l₂, hl⟩ := List.append_of_mem ha
  have hnd := h.nodup
  have happ := h.app
  have hhead := h.head
  have htail := h.tail
  rw [hl] at hnd happ hhead htail
  have hal₁ : a ∉ l₁ := fun hx => (List.nodup_append.mp hnd).2.2 a hx a (by simp) rfl
  have herase : l.erase a = l₁ ++ l₂ := by
    rw [hl, List.erase_append_right _ hal₁, List.erase_cons_head]
  obtain ⟨hprev, hnext⟩ := happ.middle
  rw [Option.or_none] at hprev hnext
  have hhashv : ∀ x ∈ l.erase a, s.hashv x = hash (s.key x) := fun x hx =>
    h.hashv x (List.mem_of_mem_erase hx)
  unfold hashDelete
  dsimp only
  rw [hprev, hnext]
  split
  · -- the last element
    rename_i hlast
    rw [List.getLast?_eq_none_iff, List.head?_eq_none_iff] at hlast
    rw [herase, hlast.1, hlast.2]
    refine ⟨⟨List.nodup_nil, rfl, trivial, fun t ht => ?_, fun x hx => ?_⟩,
      fun hne => absurd rfl hne⟩
    · exact absurd ht (by simp)
    · exact absurd hx List.not_mem_nil
  · rename_i hlast
    rw [List.getLast?_eq_none_iff, List.head?_eq_none_iff] at hlast
    refine ⟨⟨h.nodup.erase a, ?_, ?_, ?_, hhashv⟩, fun _ => ?_⟩
    · -- the head
      rw [herase]
      cases l₁ with
      | nil => rfl
      | cons x l₁ =>
        show (if (x :: l₁).getLast? = none then l₂.head? else s.head) = some x
        rw [if_neg (by simp)]
        exact hhead
    · rw [herase]
      exact happ.unlink hnd
    · -- the tail
      intro t ht
      show (if s.tbl.tail = a then l₁.getLast?.getD a else s.tbl.tail) = t
      rw [herase] at ht
      rcases l₂.eq_nil_or_concat with rfl | ⟨l₂, y, rfl⟩
      · rw [List.append_nil] at ht
        rw [if_pos (htail a (by simp)), ht]
        rfl
      · rw [List.concat_eq_append] at *
        have hty : s.tbl.tail = y := htail y <| by
          rw [← List.cons_append, ← List.append_assoc, List.getLast?_concat]
        have hya : y ≠ a := by
          rintro rfl
          exact (List.nodup_cons.mp (List.nodup_append.mp hnd).2.1).1 (by simp)
        rw [if_neg (by rw [hty]; exact hya), hty]
        simpa using ht
    · exact htbl.delInBkt h.nodup ha rfl rfl rfl rfl rfl rfl

end

end GrallocGbm
