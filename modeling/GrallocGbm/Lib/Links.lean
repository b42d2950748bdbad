/-
  Doubly linked lists in memory.

  A node has two link fields, one to the node before it and one to the node behind it; `Links` is
  these fields for all nodes.  A node is in one list only, so the lists that share a memory are
  disjoint, and an operation on one of them leaves the others alone as long as it writes to its own
  nodes (`Seg.congr`).

  `Seg L before l after` says that the nodes `l` hang together in this order, with `before` in front
  and `after` behind; a whole list is a segment between `none` and `none`.  Segments are appended
  where their ends fit (`seg_append`), which is the rule every other proof here goes back to: an
  operation in the middle of a list splits it, changes one end of each part, and joins what is left.

  1. **Operations** — the three every such list has: a node goes in at the front (`pushFront`) or at
     the end (`append`), and a node goes out (`unlink`).  Each comes with the list it makes
     (`Seg.pushFront`, `Seg.append`, `Seg.unlink`) and with the nodes it writes to (`…_of_ne`),
     which is the frame that other lists need.

  2. **Loops** — one that looks for a node (`find`), one that works on the nodes it passes and may
     change their links, having read them before (`traverse`), and one that compares each link back
     with the node it came from (`check`).  All of them run on fuel.  On a segment that the fuel
     covers, they visit the nodes of the segment: `Seg.walk`, and through it `find_eq`,
     `traverse_eq_foldl`, `Seg.check`.

  The condition of `traverse_eq_foldl` is that the work on a node changes the link of no other.
  A node that was passed may be linked into another list meanwhile, as when a table is rehashed.
-/
import Mathlib.Data.List.Basic
import Mathlib.Logic.Function.Basic

/-- The link fields of all nodes. -/
structure Links (ν : Type*) where
  prev : ν → Option ν
  next : ν → Option ν

namespace Links

variable {ν : Type*} [DecidableEq ν] {L L' : Links ν} {l r : List ν} {before after : Option ν}
  {a d x : ν}

/-- The two assignments. -/
def setPrev (L : Links ν) (a : ν) (v : Option ν) : Links ν :=
  { L with prev := Function.update L.prev a v }

/-- Writing the other link. -/
def setNext (L : Links ν) (a : ν) (v : Option ν) : Links ν :=
  { L with next := Function.update L.next a v }

/-- What an assignment leaves in each field. -/
@[simp] theorem prev_setPrev (v : Option ν) : (L.setPrev a v).prev = Function.update L.prev a v := rfl

@[simp] theorem next_setPrev (v : Option ν) : (L.setPrev a v).next = L.next := rfl

@[simp] theorem prev_setNext (v : Option ν) : (L.setNext a v).prev = L.prev := rfl

@[simp] theorem next_setNext (v : Option ν) : (L.setNext a v).next = Function.update L.next a v := rfl

/-! ## Segments

  A segment is a stretch of a list in memory: where it is entered, what comes before, where it
  leads. -/

/-- The nodes `l` hang together, between `before` and `after`. -/
def Seg (L : Links ν) : Option ν → List ν → Option ν → Prop
  | _, [], _ => True
  | before, a :: l, after =>
    L.prev a = before ∧ L.next a = l.head?.or after ∧ Seg L (some a) l after

omit [DecidableEq ν] in
/-- A segment depends on the links of its own nodes only. -/
theorem Seg.congr (h : L.Seg before l after)
    (hL : ∀ x ∈ l, L'.prev x = L.prev x ∧ L'.next x = L.next x) : L'.Seg before l after := by
  induction l generalizing before with
  | nil => trivial
  | cons a l ih =>
    obtain ⟨hprev, hnext, hrest⟩ := h
    obtain ⟨hp, hn⟩ := hL a List.mem_cons_self
    exact ⟨hp.trans hprev, hn.trans hnext, ih hrest fun x hx => hL x (List.mem_cons_of_mem a hx)⟩

omit [DecidableEq ν] in
/-- **A list is two segments** that meet: the first is followed by the head of the second, the
    second preceded by the end of the first. -/
theorem seg_append :
    L.Seg before (l ++ r) after ↔
      L.Seg before l (r.head?.or after) ∧ L.Seg (l.getLast?.or before) r after := by
  induction l generalizing before with
  | nil => simp [Seg]
  | cons a l ih =>
    have hlast : (a :: l).getLast?.or before = l.getLast?.or (some a) := by
      rw [List.getLast?_cons]
      cases l.getLast? <;> rfl
    have hhead : (l ++ r).head?.or after = l.head?.or (r.head?.or after) := by
      rw [List.head?_append, Option.or_assoc]
    rw [List.cons_append]
    simp only [Seg, ih, hlast, hhead, and_assoc]

omit [DecidableEq ν] in
/-- The links of a node in the middle. -/
theorem Seg.middle (h : L.Seg before (l ++ d :: r) after) :
    L.prev d = l.getLast?.or before ∧ L.next d = r.head?.or after := by
  obtain ⟨-, hprev, hnext, -⟩ := seg_append.mp h
  exact ⟨hprev, hnext⟩

/-- The end of a segment is led elsewhere. -/
theorem Seg.setNext_last (h : L.Seg before (l ++ [d]) after) (hd : d ∉ l) (v : Option ν) :
    (L.setNext d v).Seg before (l ++ [d]) v := by
  obtain ⟨hl, hprev, -⟩ := seg_append.mp h
  refine seg_append.mpr ⟨hl.congr fun x hx => ⟨rfl, ?_⟩, hprev, ?_, trivial⟩
  · rw [next_setNext, Function.update_of_ne]
    rintro rfl
    exact hd hx
  · simp

/-- The beginning of a segment is led elsewhere. -/
theorem Seg.setPrev_head (h : L.Seg before (d :: l) after) (hd : d ∉ l) (v : Option ν) :
    (L.setPrev d v).Seg v (d :: l) after := by
  obtain ⟨-, hnext, hl⟩ := h
  refine ⟨by simp, hnext, hl.congr fun x hx => ⟨?_, rfl⟩⟩
  rw [prev_setPrev, Function.update_of_ne]
  rintro rfl
  exact hd hx

/-! ## A node at the front -/

/-- `a` goes in front of the list that begins with `head`. -/
def pushFront (L : Links ν) (head : Option ν) (a : ν) : Links ν :=
  let L := (L.setNext a head).setPrev a none
  match head with
  | none => L
  | some h => L.setPrev h (some a)

/-- The new node leads to the old head. -/
theorem next_pushFront (head : Option ν) :
    (L.pushFront head a).next = Function.update L.next a head := by
  cases head <;> rfl

/-- It writes to the node and to the old head. -/
theorem pushFront_of_ne {head : Option ν} (ha : x ≠ a) (hx : head ≠ some x) :
    (L.pushFront head a).prev x = L.prev x ∧ (L.pushFront head a).next x = L.next x := by
  refine ⟨?_, by rw [next_pushFront, Function.update_of_ne ha]⟩
  cases head with
  | none => exact Function.update_of_ne ha _ _
  | some h =>
    have hne : x ≠ h := fun heq => hx (by rw [heq])
    show Function.update (Function.update L.prev a none) h (some a) x = L.prev x
    rw [Function.update_of_ne hne, Function.update_of_ne ha]

/-- The list with the node in front. -/
theorem Seg.pushFront (h : L.Seg none l none) (hn : (a :: l).Nodup) :
    (L.pushFront l.head? a).Seg none (a :: l) none := by
  obtain ⟨ha, hl⟩ := List.nodup_cons.mp hn
  have hown : ((L.setNext a l.head?).setPrev a none).Seg none l none :=
    h.congr fun x hx => by
      have hne : x ≠ a := fun heq => ha (heq ▸ hx)
      simp [hne]
  cases l with
  | nil => exact ⟨by simp [Links.pushFront], by simp [Links.pushFront], trivial⟩
  | cons b l =>
    have hab : a ≠ b := fun heq => ha (heq ▸ List.mem_cons_self)
    refine ⟨?_, ?_, hown.setPrev_head (List.nodup_cons.mp hl).1 (some a)⟩
    · show Function.update (Function.update L.prev a none) b (some a) a = none
      rw [Function.update_of_ne hab, Function.update_self]
    · show Function.update L.next a (some b) a = some b
      rw [Function.update_self]

/-! ## A node at the end -/

/-- `a` goes behind the list that ends with `tail`. -/
def append (L : Links ν) (tail a : ν) : Links ν :=
  ((L.setNext a none).setPrev a (some tail)).setNext tail (some a)

/-- The list with the node at its end. -/
theorem Seg.append (h : L.Seg none (l ++ [d]) none) (hn : (l ++ [d] ++ [a]).Nodup) :
    (L.append d a).Seg none (l ++ [d] ++ [a]) none := by
  obtain ⟨hld, -, hdis⟩ := List.nodup_append.mp hn
  have hd : d ∉ l := fun hmem => (List.nodup_append.mp hld).2.2 d hmem d (by simp) rfl
  have ha : ∀ x ∈ l ++ [d], x ≠ a := fun x hx => hdis x hx a (by simp)
  have hown : ((L.setNext a none).setPrev a (some d)).Seg none (l ++ [d]) none :=
    h.congr fun x hx => by simp [ha x hx]
  refine seg_append.mpr ⟨hown.setNext_last hd (some a), ?_, ?_, trivial⟩
  · show Function.update L.prev a (some d) a = _
    simp
  · show Function.update (Function.update L.next a none) d (some a) a = none
    rw [Function.update_of_ne (ha d (by simp)).symm, Function.update_self]

/-! ## A node out

  The neighbours are linked to each other, whichever of them there are. -/

/-- What is before `d` is led to what is behind it. -/
def bypassNext (L : Links ν) (d : ν) : Links ν :=
  match L.prev d with
  | none => L
  | some p => L.setNext p (L.next d)

/-- What is behind `d` is led to what is before it. -/
def bypassPrev (L : Links ν) (d : ν) : Links ν :=
  match L.next d with
  | none => L
  | some n => L.setPrev n (L.prev d)

/-- `d` goes out. -/
def unlink (L : Links ν) (d : ν) : Links ν := (L.bypassNext d).bypassPrev d

/-- Each half of an unlink writes to one kind of link only. -/
theorem prev_bypassNext : (L.bypassNext d).prev = L.prev := by
  unfold bypassNext
  cases L.prev d <;> rfl

/-- The forward links are left alone. -/
theorem next_bypassPrev : (L.bypassPrev d).next = L.next := by
  unfold bypassPrev
  cases L.next d <;> rfl

/-- The link that is written is that of the node before `d`, -/
theorem next_bypassNext_of_ne (hx : L.prev d ≠ some x) : (L.bypassNext d).next x = L.next x := by
  unfold bypassNext
  cases hp : L.prev d with
  | none => rfl
  | some p =>
    have hne : x ≠ p := fun heq => hx (by rw [hp, heq])
    exact Function.update_of_ne hne _ _

/-- and that of the node behind it. -/
theorem prev_bypassPrev_of_ne (hx : L.next d ≠ some x) : (L.bypassPrev d).prev x = L.prev x := by
  unfold bypassPrev
  cases hn : L.next d with
  | none => rfl
  | some n =>
    have hne : x ≠ n := fun heq => hx (by rw [hn, heq])
    exact Function.update_of_ne hne _ _

/-- It writes to the neighbours only. -/
theorem unlink_of_ne (hself : L.prev d ≠ some d) (hprev : L.prev d ≠ some x)
    (hnext : L.next d ≠ some x) :
    (L.unlink d).prev x = L.prev x ∧ (L.unlink d).next x = L.next x := by
  have hd := next_bypassNext_of_ne hself
  constructor
  · rw [unlink, prev_bypassPrev_of_ne (by rw [hd]; exact hnext), prev_bypassNext]
  · rw [unlink, next_bypassPrev, next_bypassNext_of_ne hprev]

/-- The first half closes the part of the list before `d`, -/
theorem Seg.bypassNext (h : L.Seg before l after) (hn : l.Nodup) (hd : L.prev d = l.getLast?) :
    (L.bypassNext d).Seg before l (L.next d) := by
  rcases l.eq_nil_or_concat with rfl | ⟨l, p, rfl⟩
  · trivial
  · rw [List.concat_eq_append] at *
    have hp : p ∉ l := fun hmem => (List.nodup_append.mp hn).2.2 p hmem p (by simp) rfl
    rw [List.getLast?_concat] at hd
    unfold Links.bypassNext
    rw [hd]
    exact h.setNext_last hp _

/-- and the second the part behind it. -/
theorem Seg.bypassPrev (h : L.Seg before r after) (hn : r.Nodup) (hd : L.next d = r.head?) :
    (L.bypassPrev d).Seg (L.prev d) r after := by
  cases r with
  | nil => trivial
  | cons n r =>
    unfold Links.bypassPrev
    rw [hd]
    exact h.setPrev_head (List.nodup_cons.mp hn).1 _

/-- The list without the node: the two parts have each other for neighbours. -/
theorem Seg.unlink (h : L.Seg none (l ++ d :: r) none) (hn : (l ++ d :: r).Nodup) :
    (L.unlink d).Seg none (l ++ r) none := by
  obtain ⟨hl, hprev, hnext, hr⟩ := seg_append.mp h
  rw [Option.or_none] at hprev hnext
  obtain ⟨hnl, hndr, hdis⟩ := List.nodup_append.mp hn
  obtain ⟨hdr, hnr⟩ := List.nodup_cons.mp hndr
  have hnode : ∀ x ∈ l, x ≠ d := fun x hx => hdis x hx d List.mem_cons_self
  have hself : L.prev d ≠ some d := by
    rw [hprev]
    exact fun heq => hnode d (List.mem_of_getLast? heq) rfl
  have hd : (L.bypassNext d).next d = r.head? := (next_bypassNext_of_ne hself).trans hnext
  -- the part in front is led past `d`, the part behind it does not see that
  have hl' : (L.bypassNext d).Seg none l r.head? := hnext ▸ hl.bypassNext hnl hprev
  have hr' : (L.bypassNext d).Seg (some d) r none := hr.congr fun x hx => by
    refine ⟨by rw [prev_bypassNext], next_bypassNext_of_ne ?_⟩
    rw [hprev]
    exact fun heq => hdis x (List.mem_of_getLast? heq) x (List.mem_cons_of_mem d hx) rfl
  refine seg_append.mpr ⟨?_, ?_⟩
  · rw [Option.or_none]
    refine hl'.congr fun x hx => ⟨prev_bypassPrev_of_ne ?_, by rw [Links.unlink, next_bypassPrev]⟩
    rw [hd]
    exact fun heq => hdis x hx x (List.mem_cons_of_mem d (List.mem_of_head? heq)) rfl
  · rw [Option.or_none, ← hprev, ← prev_bypassNext (L := L)]
    exact hr'.bypassPrev hnr hd

/-! ## Loops

  A loop over the list goes along the forward links; with enough fuel it comes to the end. -/

/-- The nodes a loop passes that starts at `cur` and follows `next`, for at most as many rounds as
    there is fuel. -/
def walk (L : Links ν) : Nat → Option ν → List ν
  | 0, _ => []
  | _, none => []
  | n + 1, some a => a :: walk L n (L.next a)

/-- A loop that stops at the first node with `p`. -/
def find (L : Links ν) (p : ν → Bool) : Nat → Option ν → Option ν
  | 0, _ => none
  | _, none => none
  | n + 1, some a => if p a then some a else find L p n (L.next a)

/-- A loop that works on each node it passes.  The link to the next one is read before the work,
    which may change it. -/
def traverse {σ : Type*} (links : σ → Links ν) (work : σ → ν → σ) : Nat → Option ν → σ → σ
  | 0, _, s => s
  | _, none, s => s
  | n + 1, some a, s =>
    let after := (links s).next a
    traverse links work n after (work s a)

omit [DecidableEq ν] in
/-- With fuel enough, a loop over a list passes its nodes and ends. -/
theorem Seg.walk (h : L.Seg before l none) {n : Nat} (hlen : l.length ≤ n) :
    L.walk n l.head? = l := by
  induction l generalizing before n with
  | nil => cases n <;> rfl
  | cons a l ih =>
    obtain ⟨n, rfl⟩ : ∃ m, n = m + 1 := ⟨n - 1, by simp at hlen; omega⟩
    obtain ⟨-, hnext, hl⟩ := h
    rw [Option.or_none] at hnext
    show a :: L.walk n (L.next a) = a :: l
    rw [hnext, ih hl (by simpa using hlen)]

omit [DecidableEq ν] in
/-- Searching is searching the nodes passed. -/
theorem find_eq (p : ν → Bool) (n : Nat) (cur : Option ν) :
    L.find p n cur = (L.walk n cur).find? p := by
  induction n generalizing cur with
  | zero => rfl
  | succ n ih =>
    cases cur with
    | none => rfl
    | some a =>
      show (if p a then some a else L.find p n (L.next a)) = (a :: L.walk n (L.next a)).find? p
      rw [List.find?_cons, ih]
      cases p a <;> rfl

omit [DecidableEq ν] in
/-- Work that changes the link of no node but the one it is on visits the nodes as they hung together
    at the start. -/
theorem traverse_eq_foldl {σ : Type*} {links : σ → Links ν} {work : σ → ν → σ} {s : σ}
    (hwork : ∀ s a x, x ≠ a → (links (work s a)).next x = (links s).next x) (hn : l.Nodup)
    (hnext : ∀ l₁ a l₂, l = l₁ ++ a :: l₂ → (links s).next a = l₂.head?) {n : Nat}
    (hlen : l.length ≤ n) : traverse links work n l.head? s = l.foldl work s := by
  induction l generalizing n s with
  | nil => cases n <;> rfl
  | cons a l ih =>
    obtain ⟨n, rfl⟩ : ∃ m, n = m + 1 := ⟨n - 1, by simp at hlen; omega⟩
    obtain ⟨ha, hl⟩ := List.nodup_cons.mp hn
    show traverse links work n ((links s).next a) (work s a) = l.foldl work (work s a)
    rw [hnext [] a l rfl]
    refine ih hl (fun l₁ b l₂ heq => ?_) (by simpa using hlen)
    have hb : b ≠ a := by
      rintro rfl
      exact ha (by rw [heq]; simp)
    rw [hwork s a b hb]
    exact hnext (a :: l₁) b l₂ (by rw [heq]; rfl)

section

variable {σ : Type*} {links : σ → Links ν} {work : σ → ν → σ} {s : σ}

omit [DecidableEq ν] in
/-- Work on other nodes leaves a link alone. -/
theorem next_foldl_of_notMem
    (hwork : ∀ s a x, x ≠ a → (links (work s a)).next x = (links s).next x) (hx : x ∉ l) :
    (links (l.foldl work s)).next x = (links s).next x := by
  induction l generalizing s with
  | nil => rfl
  | cons a l ih =>
    rw [List.mem_cons, not_or] at hx
    rw [List.foldl_cons, ih hx.2, hwork s a x hx.1]

omit [DecidableEq ν] in
/-- The same for several disjoint lists, one after the other. -/
theorem foldl_traverse_eq_foldl {ι : Type*} {c : ι → List ν} {heads : ι → Option ν} {is : List ι}
    (hwork : ∀ s a x, x ≠ a → (links (work s a)).next x = (links s).next x)
    (hn : (is.flatMap c).Nodup)
    (hnext : ∀ i ∈ is, ∀ l₁ a l₂, c i = l₁ ++ a :: l₂ → (links s).next a = l₂.head?)
    (hheads : ∀ i ∈ is, heads i = (c i).head?) {n : Nat} (hlen : ∀ i ∈ is, (c i).length ≤ n) :
    is.foldl (fun s i => traverse links work n (heads i) s) s = (is.flatMap c).foldl work s := by
  induction is generalizing s with
  | nil => rfl
  | cons i is ih =>
    rw [List.flatMap_cons] at hn
    obtain ⟨hni, hnis, hdis⟩ := List.nodup_append.mp hn
    have hi := List.mem_cons_self (a := i) (l := is)
    have hrest : ∀ {j}, j ∈ is → j ∈ i :: is := fun hj => List.mem_cons_of_mem i hj
    rw [List.foldl_cons, List.flatMap_cons, List.foldl_append, hheads i hi,
      traverse_eq_foldl hwork hni (hnext i hi) (hlen i hi)]
    refine ih hnis (fun j hj l₁ a l₂ heq => ?_) (fun j hj => hheads j (hrest hj))
      (fun j hj => hlen j (hrest hj))
    have ha : a ∉ c i := fun hmem =>
      hdis a hmem a (List.mem_flatMap.mpr ⟨j, hj, by rw [heq]; simp⟩) rfl
    rw [next_foldl_of_notMem hwork ha]
    exact hnext j (hrest hj) l₁ a l₂ heq

end

/-! ### Checking the links -/

/-- A loop that compares the link back of each node with the node it comes from, and counts: `none` at
    the first that is wrong, or if the fuel is not enough to reach the end. -/
def check (L : Links ν) : Nat → Option ν → Option ν → Option Nat
  | 0, _, _ => none
  | _ + 1, _, none => some 0
  | n + 1, before, some a =>
    if L.prev a = before then (check L n (some a) (L.next a)).map (· + 1) else none

/-- A list whose links are in order passes the check, and is counted. -/
theorem Seg.check (h : L.Seg before l none) {n : Nat} (hlen : l.length < n) :
    L.check n before l.head? = some l.length := by
  induction l generalizing before n with
  | nil =>
    obtain ⟨n, rfl⟩ : ∃ m, n = m + 1 := ⟨n - 1, by simp at hlen; omega⟩
    rfl
  | cons a l ih =>
    obtain ⟨n, rfl⟩ : ∃ m, n = m + 1 := ⟨n - 1, by simp at hlen; omega⟩
    obtain ⟨hprev, hnext, hl⟩ := h
    rw [Option.or_none] at hnext
    show (if L.prev a = before then (L.check n (some a) (L.next a)).map (· + 1) else none) = _
    rw [if_pos hprev, hnext, ih hl (by simpa using hlen)]
    rfl

end Links
