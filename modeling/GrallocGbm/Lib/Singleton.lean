/-
  Shared singletons: one object of each kind, made when it is needed and released with its last
  owner.

  A kind has a mutex and a weak pointer.  To fetch its object, a thread takes the mutex, asks the
  weak pointer for the object, makes a new one and points the weak pointer to it if there is none,
  and releases the mutex.  What it gets is a counted reference, which it keeps in its variable, may
  copy to slots that all threads see, and drops.  An object is alive as long as somebody refers to
  it, so that references come and go without the mutex; only the way from the question to the weak
  pointer back to it is inside.  Each access is one step, and any number of threads take their steps
  in any order.

  * `run_unique`  — at no time are there two live objects of a kind;
  * `run_slots`   — a slot holds an object of a kind that some program puts there;
  * `run_finishes` — from wherever the threads have come, they can all come to their ends: nobody
    waits for a mutex in vain.

  A live object is the one its kind's weak pointer points to, or the one that is being made; there
  is nothing alive when a thread inside has found nothing (`Ok`).  The lemma that carries this is
  that a step refers to nothing that was not referred to before, except to the object it makes
  (`alive_step`).
-/
import GrallocGbm.Lib.Run
import Mathlib

namespace Singleton

/-! ## The machine

  The program of a thread is a list of fetches and stores; a fetch takes a mutex, looks at the
  weak pointer, and makes an object if there is none. -/

/-- What a thread does with objects of the kinds `B` and the slots `S`. -/
inductive Instr (B S : Type*) where
  /-- Fetch the object of `b` into the variable. -/
  | fetch (b : B)
  /-- Copy the variable to a slot. -/
  | store (k : S)
  /-- Clear the variable. -/
  | drop
  deriving DecidableEq, Repr

/-- Where a thread is: outside, or inside a fetch. -/
inductive Pc (B : Type*) where
  | idle
  | locked (b : B)
  | looked (b : B) (found : Option Nat)
  | made (b : B) (i : Nat)
  | leaving (b : B) (i : Nat)
  deriving DecidableEq, Repr

/-- What a thread has still to do, where it is in its current fetch, and its variable. -/
structure Thread (B S : Type*) where
  todo : List (Instr B S)
  pc : Pc B
  var : Option (B × Nat)

/-- Who has which mutex, what the weak pointers and the slots hold, and the threads. -/
structure State (B S T : Type*) where
  mutex : B → Option T
  weak : B → Option Nat
  slots : S → Option (B × Nat)
  threads : T → Thread B S
  /-- The number of the next object. -/
  next : Nat

section

variable {B S T : Type*}

/-- The kind whose mutex the thread holds. -/
def Pc.inside : Pc B → Option B
  | .idle => none
  | .locked b | .looked b _ | .made b _ | .leaving b _ => some b

/-- The object that the fetch itself refers to. -/
def Pc.ref : Pc B → Option (B × Nat)
  | .idle | .locked _ => none
  | .looked b found => found.map fun i => (b, i)
  | .made b i | .leaving b i => some (b, i)

/-- The threads are at the start of `todo`, and there are no objects. -/
def State.start (todo : T → List (Instr B S)) : State B S T where
  mutex := fun _ => none
  weak := fun _ => none
  slots := fun _ => none
  threads := fun t => ⟨todo t, .idle, none⟩
  next := 0

/-- A thread refers to the object. -/
def Thread.Refers (th : Thread B S) (x : B × Nat) : Prop := th.pc.ref = some x ∨ th.var = some x

/-- The object has an owner. -/
def State.Alive (s : State B S T) (x : B × Nat) : Prop :=
  (∃ t, (s.threads t).Refers x) ∨ ∃ k, s.slots k = some x

instance [DecidableEq B] [Fintype T] [Fintype S] (s : State B S T) (x : B × Nat) :
    Decidable (s.Alive x) :=
  inferInstanceAs (Decidable ((∃ t, (s.threads t).pc.ref = some x ∨ (s.threads t).var = some x) ∨
    ∃ k, s.slots k = some x))

variable [DecidableEq B] [DecidableEq S] [DecidableEq T] [Fintype S] [Fintype T]

/-- What the weak pointer of `b` gives: its object, if that is alive. -/
def State.lock (s : State B S T) (b : B) : Option Nat :=
  (s.weak b).filter fun i => decide (s.Alive (b, i))

/-- Thread `t` goes on to `th`. -/
def State.set (s : State B S T) (t : T) (th : Thread B S) : State B S T :=
  { s with threads := Function.update s.threads t th }

/-- The next step of thread `t`; none if it waits for a mutex, or has come to its end. -/
def step (s : State B S T) (t : T) : State B S T :=
  let th := s.threads t
  match th.pc with
  | .idle =>
    match th.todo with
    | [] => s
    | .fetch b :: _ =>
      if s.mutex b = none then
        { s.set t { th with pc := .locked b } with mutex := Function.update s.mutex b (some t) }
      else s
    | .store k :: todo =>
      { s.set t { th with todo := todo } with slots := Function.update s.slots k th.var }
    | .drop :: todo => s.set t { th with todo := todo, var := none }
  | .locked b => s.set t { th with pc := .looked b (s.lock b) }
  | .looked b none => { s.set t { th with pc := .made b s.next } with next := s.next + 1 }
  | .looked b (some i) => s.set t { th with pc := .leaving b i }
  | .made b i =>
    { s.set t { th with pc := .leaving b i } with weak := Function.update s.weak b (some i) }
  | .leaving b i =>
    { s.set t ⟨th.todo.tail, .idle, some (b, i)⟩ with mutex := Function.update s.mutex b none }

/-! ## What a step does -/

/-- **The steps of a thread.**  One that does nothing waits for a mutex, or has come to its end. -/
inductive Steps (s : State B S T) (t : T) : State B S T → Prop
  | finished (hpc : (s.threads t).pc = .idle) (htodo : (s.threads t).todo = []) : Steps s t s
  | waits (b : B) (todo : List (Instr B S)) (hpc : (s.threads t).pc = .idle)
      (htodo : (s.threads t).todo = .fetch b :: todo) (hm : s.mutex b ≠ none) : Steps s t s
  | enters (b : B) (todo : List (Instr B S)) (hpc : (s.threads t).pc = .idle)
      (htodo : (s.threads t).todo = .fetch b :: todo) (hm : s.mutex b = none) :
      Steps s t { s.set t { s.threads t with pc := .locked b } with
        mutex := Function.update s.mutex b (some t) }
  | stores (k : S) (todo : List (Instr B S)) (hpc : (s.threads t).pc = .idle)
      (htodo : (s.threads t).todo = .store k :: todo) :
      Steps s t { s.set t { s.threads t with todo := todo } with
        slots := Function.update s.slots k (s.threads t).var }
  | drops (todo : List (Instr B S)) (hpc : (s.threads t).pc = .idle)
      (htodo : (s.threads t).todo = .drop :: todo) :
      Steps s t (s.set t { s.threads t with todo := todo, var := none })
  | looks (b : B) (hpc : (s.threads t).pc = .locked b) :
      Steps s t (s.set t { s.threads t with pc := .looked b (s.lock b) })
  | makes (b : B) (hpc : (s.threads t).pc = .looked b none) :
      Steps s t { s.set t { s.threads t with pc := .made b s.next } with next := s.next + 1 }
  | finds (b : B) (i : Nat) (hpc : (s.threads t).pc = .looked b (some i)) :
      Steps s t (s.set t { s.threads t with pc := .leaving b i })
  | points (b : B) (i : Nat) (hpc : (s.threads t).pc = .made b i) :
      Steps s t { s.set t { s.threads t with pc := .leaving b i } with
        weak := Function.update s.weak b (some i) }
  | leaves (b : B) (i : Nat) (hpc : (s.threads t).pc = .leaving b i) :
      Steps s t { s.set t ⟨(s.threads t).todo.tail, .idle, some (b, i)⟩ with
        mutex := Function.update s.mutex b none }

/-- Every step is one of them. -/
theorem step_steps (s : State B S T) (t : T) : Steps s t (step s t) := by
  unfold step
  cases hpc : (s.threads t).pc with
  | idle =>
    simp only [hpc]
    cases htodo : (s.threads t).todo with
    | nil => exact .finished hpc htodo
    | cons instr todo =>
      cases instr with
      | fetch b =>
        by_cases hm : s.mutex b = none
        · simp only [hm, if_true, ← htodo]
          exact .enters b todo hpc htodo hm
        · simp only [hm, if_false]
          exact .waits b todo hpc htodo hm
      | store k =>
        simp only [← hpc]
        exact .stores k todo hpc htodo
      | drop =>
        simp only [← hpc]
        exact .drops todo hpc htodo
  | locked b =>
    simp only [hpc]
    exact .looks b hpc
  | looked b found =>
    cases found with
    | none =>
      simp only [hpc]
      exact .makes b hpc
    | some i =>
      simp only [hpc]
      exact .finds b i hpc
  | made b i =>
    simp only [hpc]
    exact .points b i hpc
  | leaving b i =>
    simp only [hpc]
    exact .leaves b i hpc

variable {s s' : State B S T} {t : T} {b : B} {i : Nat}

omit [DecidableEq S] [DecidableEq T] in
/-- A weak pointer gives an object only while that is alive. -/
theorem lock_eq_some : s.lock b = some i ↔ s.weak b = some i ∧ s.Alive (b, i) := by
  simp [State.lock, Option.filter_eq_some_iff]

omit [DecidableEq B] [DecidableEq S] [Fintype S] [Fintype T] in
/-- What a state refers to, seen from one thread that has changed. -/
theorem alive_of_set {th : Thread B S} {x : B × Nat} (hx : s'.Alive x)
    (hthreads : s'.threads = Function.update s.threads t th) (hslots : s'.slots = s.slots) :
    s.Alive x ∨ th.Refers x := by
  rcases hx with ⟨t', ht'⟩ | ⟨k, hk⟩
  · rw [hthreads, Function.update_apply] at ht'
    by_cases h : t' = t
    · rw [if_pos h] at ht'
      exact .inr ht'
    · rw [if_neg h] at ht'
      exact .inl (.inl ⟨t', ht'⟩)
  · rw [hslots] at hk
    exact .inl (.inr ⟨k, hk⟩)

/-- **A step refers to nothing new**, except to an object it makes. -/
theorem alive_step (h : Steps s t s') (hx : s'.Alive (b, i)) :
    s.Alive (b, i) ∨ (s.threads t).pc = .looked b none ∧ i = s.next := by
  have hown : (s.threads t).Refers (b, i) → s.Alive (b, i) := fun hr => .inl ⟨t, hr⟩
  cases h with
  | finished => exact .inl hx
  | waits => exact .inl hx
  | enters b' todo hpc =>
    rcases alive_of_set (s := s) hx rfl rfl with h | h | h
    · exact .inl h
    · cases h
    · exact .inl (hown (.inr h))
  | stores k todo hpc =>
    rcases hx with ⟨t', ht'⟩ | ⟨k', hk'⟩
    · have hset : (s.set t { s.threads t with todo := todo }).Alive (b, i) := .inl ⟨t', ht'⟩
      rcases alive_of_set (s := s) hset rfl rfl with h | h
      · exact .inl h
      · exact .inl (hown h)
    · have hslot : Function.update s.slots k (s.threads t).var k' = some (b, i) := hk'
      rw [Function.update_apply] at hslot
      split at hslot
      · exact .inl (hown (.inr hslot))
      · exact .inl (.inr ⟨k', hslot⟩)
  | drops todo hpc =>
    rcases alive_of_set (s := s) hx rfl rfl with h | h | h
    · exact .inl h
    · exact .inl (hown (.inl h))
    · cases h
  | looks b' hpc =>
    rcases alive_of_set (s := s) hx rfl rfl with h | h | h
    · exact .inl h
    · -- the weak pointer gives only what is alive
      obtain ⟨j, hj, heq⟩ := Option.map_eq_some_iff.mp h
      cases heq
      exact .inl (lock_eq_some.mp hj).2
    · exact .inl (hown (.inr h))
  | makes b' hpc =>
    rcases alive_of_set (s := s) hx rfl rfl with h | h | h
    · exact .inl h
    · cases h
      exact .inr ⟨hpc, rfl⟩
    · exact .inl (hown (.inr h))
  | finds b' j hpc =>
    rcases alive_of_set (s := s) hx rfl rfl with h | h | h
    · exact .inl h
    · cases h
      exact .inl (hown (.inl (by rw [hpc]; rfl)))
    · exact .inl (hown (.inr h))
  | points b' j hpc =>
    rcases alive_of_set (s := s) hx rfl rfl with h | h | h
    · exact .inl h
    · cases h
      exact .inl (hown (.inl (by rw [hpc]; rfl)))
    · exact .inl (hown (.inr h))
  | leaves b' j hpc =>
    rcases alive_of_set (s := s) hx rfl rfl with h | h | h
    · exact .inl h
    · cases h
    · cases h
      exact .inl (hown (.inl (by rw [hpc]; rfl)))

omit [DecidableEq B] [DecidableEq S] [Fintype S] [Fintype T] in
@[simp] theorem set_threads_self (th : Thread B S) : (s.set t th).threads t = th :=
  Function.update_self ..

namespace Steps

/-- A step is the step of one thread. -/
theorem threads_ne (h : Steps s t s') {t' : T} (ht : t' ≠ t) : s'.threads t' = s.threads t' := by
  cases h <;> first | rfl | exact Function.update_of_ne ht ..

/-- A thread that has found nothing looked while the mutex was its own. -/
theorem to_looked (h : Steps s t s') (hpc : (s'.threads t).pc = .looked b none) :
    (s.threads t).pc = .locked b ∧ s.lock b = none := by
  cases h with
  | looks b' hpc' =>
    simp only [set_threads_self, Pc.looked.injEq] at hpc
    obtain ⟨rfl, hnone⟩ := hpc
    exact ⟨hpc', hnone⟩
  | _ => simp_all

/-- An object is made by one who has found nothing, and is the next one. -/
theorem to_made (h : Steps s t s') (hpc : (s'.threads t).pc = .made b i) :
    (s.threads t).pc = .looked b none ∧ i = s.next := by
  cases h <;> simp_all

/-- Who has found nothing makes one. -/
theorem of_looked (h : Steps s t s') (hpc : (s.threads t).pc = .looked b none) :
    (s'.threads t).pc = .made b s.next := by
  cases h <;> simp_all

/-- The weak pointer is moved to the object that was made. -/
theorem of_made (h : Steps s t s') (hpc : (s.threads t).pc = .made b i) : s'.weak b = some i := by
  cases h <;> simp_all

/-- A weak pointer is moved by one who has made an object, and by nobody else. -/
theorem weak (h : Steps s t s') :
    s'.weak b = s.weak b ∨ ∃ i, (s.threads t).pc = .made b i ∧ s'.weak b = some i := by
  cases h with
  | points b' i hpc =>
    by_cases hb : b = b'
    · subst hb
      exact .inr ⟨i, hpc, Function.update_self ..⟩
    · exact .inl (Function.update_of_ne hb ..)
  | _ => exact .inl rfl

end Steps

/-! ## The invariant -/

/-- Whoever is inside has the mutex, and nobody else; and what is alive is what the weak pointer points
    to, or what is being made. -/
structure Ok (s : State B S T) : Prop where
  mutex : ∀ t b, (s.threads t).pc.inside = some b ↔ s.mutex b = some t
  head : ∀ t b, (s.threads t).pc.inside = some b → ∃ todo, (s.threads t).todo = .fetch b :: todo
  known : ∀ b i, s.Alive (b, i) → s.weak b = some i ∨ ∃ t, (s.threads t).pc = .made b i
  nothing : ∀ t b, (s.threads t).pc = .looked b none → ∀ i, ¬ s.Alive (b, i)
  only : ∀ t b i, (s.threads t).pc = .made b i → ∀ j, s.Alive (b, j) → j = i

namespace Ok

omit [DecidableEq B] [DecidableEq S] [DecidableEq T] [Fintype S] [Fintype T] in
/-- At the start nobody is inside, and nothing is alive. -/
theorem start (todo : T → List (Instr B S)) : Ok (State.start todo) where
  mutex := fun t b => by simp [State.start, Pc.inside]
  head := fun t b h => by cases h
  known := fun b i h => by
    rcases h with ⟨t, h | h⟩ | ⟨k, h⟩ <;> cases h
  nothing := fun t b h => by cases h
  only := fun t b i h => by cases h

omit [DecidableEq B] [DecidableEq S] [DecidableEq T] [Fintype S] [Fintype T] in
/-- Two threads are not inside at one time. -/
theorem exclusive (h : Ok s) {t t' : T} (ht : (s.threads t).pc.inside = some b)
    (ht' : (s.threads t').pc.inside = some b) : t = t' := by
  have hm := (h.mutex t b).mp ht
  rw [(h.mutex t' b).mp ht'] at hm
  exact (Option.some.inj hm).symm

omit [DecidableEq B] [DecidableEq S] [DecidableEq T] [Fintype S] [Fintype T] in
/-- **One object of a kind.** -/
theorem unique (h : Ok s) {j : Nat} (hi : s.Alive (b, i)) (hj : s.Alive (b, j)) : i = j := by
  rcases h.known b i hi with hwi | ⟨t, hpc⟩
  · rcases h.known b j hj with hwj | ⟨t, hpc⟩
    · exact Option.some.inj (hwi.symm.trans hwj)
    · exact h.only t b j hpc i hi
  · exact (h.only t b i hpc j hj).symm

/-- A step keeps the mutexes with those who are inside. -/
theorem step_mutex (h : Ok s) (hs : Steps s t s') (t' : T) (b : B) :
    (s'.threads t').pc.inside = some b ↔ s'.mutex b = some t' := by
  -- the steps that neither enter nor leave
  have hsame : (s'.threads t).pc.inside = (s.threads t).pc.inside → s'.mutex = s.mutex →
      ((s'.threads t').pc.inside = some b ↔ s'.mutex b = some t') := by
    intro hinside hmutex
    rw [hmutex, ← h.mutex t' b]
    by_cases ht : t' = t
    · rw [ht, hinside]
    · rw [hs.threads_ne ht]
  cases hs with
  | enters b' todo hpc htodo hm =>
    show (Function.update s.threads t _ t').pc.inside = some b ↔
      Function.update s.mutex b' _ b = some t'
    by_cases ht : t' = t
    · subst ht
      rw [Function.update_self, Function.update_apply]
      by_cases hb : b = b'
      · simp [hb, Pc.inside]
      · have hno : s.mutex b ≠ some t' := by
          rw [Ne, ← h.mutex t' b, hpc]
          simp [Pc.inside]
        simp [hb, Pc.inside, hno, Ne.symm hb]
    · rw [Function.update_of_ne ht, h.mutex t' b, Function.update_apply]
      by_cases hb : b = b'
      · subst hb
        simp [hm, Ne.symm ht]
      · rw [if_neg hb]
  | leaves b' i hpc =>
    show (Function.update s.threads t _ t').pc.inside = some b ↔
      Function.update s.mutex b' _ b = some t'
    have hm : s.mutex b' = some t := (h.mutex t b').mp (by rw [hpc]; rfl)
    by_cases ht : t' = t
    · subst ht
      rw [Function.update_self, Function.update_apply]
      by_cases hb : b = b'
      · simp [hb, Pc.inside]
      · have hno : s.mutex b ≠ some t' := by
          rw [Ne, ← h.mutex t' b, hpc]
          simp [Pc.inside, Ne.symm hb]
        simp [hb, Pc.inside, hno]
    · rw [Function.update_of_ne ht, h.mutex t' b, Function.update_apply]
      by_cases hb : b = b'
      · subst hb
        simp [hm, Ne.symm ht]
      · rw [if_neg hb]
  | finished | waits => exact hsame rfl rfl
  | stores k todo hpc => exact hsame (by simp [hpc]) rfl
  | drops todo hpc => exact hsame (by simp [hpc]) rfl
  | looks b' hpc => exact hsame (by simp [hpc, Pc.inside]) rfl
  | makes b' hpc => exact hsame (by simp [hpc, Pc.inside]) rfl
  | finds b' i hpc => exact hsame (by simp [hpc, Pc.inside]) rfl
  | points b' i hpc => exact hsame (by simp [hpc, Pc.inside]) rfl

/-- A thread inside is at a fetch. -/
theorem step_head (h : Ok s) (hs : Steps s t s') (t' : T) (b : B)
    (hin : (s'.threads t').pc.inside = some b) : ∃ todo, (s'.threads t').todo = .fetch b :: todo := by
  by_cases ht : t' = t
  · subst ht
    have hgoes : (s.threads t').pc.inside = some b → (s'.threads t').todo = (s.threads t').todo →
        ∃ todo, (s'.threads t').todo = .fetch b :: todo := by
      intro hin htodo
      rw [htodo]
      exact h.head t' b hin
    cases hs with
    | finished | waits => exact h.head t' b hin
    | enters b' todo hpc htodo =>
      simp only [set_threads_self, Pc.inside, Option.some.injEq] at hin
      exact ⟨todo, by simp [htodo, hin]⟩
    | stores k todo hpc =>
      simp [hpc, Pc.inside] at hin
    | drops todo hpc =>
      simp [hpc, Pc.inside] at hin
    | looks b' hpc | makes b' hpc | finds b' i hpc | points b' i hpc =>
      refine hgoes ?_ (by simp)
      rw [hpc]
      simpa [Pc.inside] using hin
    | leaves b' i hpc => simp [Pc.inside] at hin
  · rw [hs.threads_ne ht] at hin ⊢
    exact h.head t' b hin

/-- **The step lemma.** -/
theorem step (h : Ok s) (t : T) : Ok (step s t) := by
  have hs := step_steps s t
  generalize Singleton.step s t = s' at hs ⊢
  constructor
  case mutex => exact h.step_mutex hs
  case head => exact h.step_head hs
  case known =>
    intro b i hx
    rcases alive_step hs hx with hold | ⟨hpc, rfl⟩
    · rcases h.known b i hold with hweak | ⟨t', hpc⟩
      · rcases hs.weak (b := b) with hsame | ⟨j, hpc, hj⟩
        · exact .inl (hsame.trans hweak)
        · rw [hj, h.only t b j hpc i hold]
          exact .inl rfl
      · by_cases ht : t' = t
        · subst ht
          exact .inl (hs.of_made hpc)
        · exact .inr ⟨t', by rw [hs.threads_ne ht]; exact hpc⟩
    · exact .inr ⟨t, hs.of_looked hpc⟩
  case nothing =>
    intro t' b hpc' i hx
    by_cases ht : t' = t
    · subst ht
      obtain ⟨hpc, hnone⟩ := hs.to_looked hpc'
      have hold : s.Alive (b, i) := by
        rcases alive_step hs hx with hold | ⟨hpc'', -⟩
        · exact hold
        · rw [hpc] at hpc''
          cases hpc''
      rcases h.known b i hold with hweak | ⟨t'', hmade⟩
      · rw [lock_eq_some.mpr ⟨hweak, hold⟩] at hnone
        cases hnone
      · have heq : t'' = t' := h.exclusive (b := b) (by rw [hmade]; rfl) (by rw [hpc]; rfl)
        rw [heq, hpc] at hmade
        cases hmade
    · rw [hs.threads_ne ht] at hpc'
      rcases alive_step hs hx with hold | ⟨hpc, -⟩
      · exact h.nothing t' b hpc' i hold
      · exact ht (h.exclusive (b := b) (by rw [hpc']; rfl) (by rw [hpc]; rfl))
  case only =>
    intro t' b i hpc' j hx
    by_cases ht : t' = t
    · subst ht
      obtain ⟨hpc, rfl⟩ := hs.to_made hpc'
      rcases alive_step hs hx with hold | ⟨-, rfl⟩
      · exact absurd hold (h.nothing t' b hpc j)
      · rfl
    · rw [hs.threads_ne ht] at hpc'
      rcases alive_step hs hx with hold | ⟨hpc, -⟩
      · exact h.only t' b i hpc' j hold
      · exact absurd (h.exclusive (b := b) (by rw [hpc']; rfl) (by rw [hpc]; rfl)) ht

/-- The invariant of every run. -/
theorem run (h : Ok s) (l : List T) : Ok (l.foldl Singleton.step s) :=
  Run.foldl_inv_all Ok (fun _ t hs => hs.step t) l h

end Ok

/-- **At no time are there two live objects of a kind**, whatever the threads do and in whatever order
    they do it. -/
theorem run_unique (todo : T → List (Instr B S)) (l : List T) {j : Nat}
    (hi : (l.foldl step (State.start todo)).Alive (b, i))
    (hj : (l.foldl step (State.start todo)).Alive (b, j)) : i = j :=
  ((Ok.start todo).run l).unique hi hj

/-! ## Nobody waits in vain

  Whoever is inside can go on, and comes out; so some thread can always take a step until all
  are done. -/

/-- The steps an instruction takes at most. -/
def Instr.work : Instr B S → Nat
  | .fetch _ => 5
  | .store _ | .drop => 1

/-- The steps of a fetch that are behind the thread, at most. -/
def Pc.passed : Pc B → Nat
  | .idle => 0
  | .locked _ => 1
  | .looked _ _ => 2
  | .made _ _ => 3
  | .leaving _ _ => 4

/-- The steps a thread has before it, at most. -/
def Thread.work (th : Thread B S) : Nat := (th.todo.map Instr.work).sum - th.pc.passed

/-- The steps all threads have before them, at most. -/
def State.work (s : State B S T) : Nat := ∑ t, (s.threads t).work

/-- The thread is at its end, or at a mutex that is taken. -/
def Stuck (s : State B S T) (t : T) : Prop :=
  (s.threads t).pc = .idle ∧ ((s.threads t).todo = [] ∨
    ∃ b todo, (s.threads t).todo = .fetch b :: todo ∧ s.mutex b ≠ none)

/-- A thread that is not stuck has less before it after its step. -/
theorem Ok.thread_work_lt (h : Ok s) (hs : Steps s t s') (hmoves : ¬ Stuck s t) :
    (s'.threads t).work < (s.threads t).work := by
  have hinside : ∀ b, (s.threads t).pc.inside = some b →
      ∃ todo, (s.threads t).todo = .fetch b :: todo := h.head t
  cases hs with
  | finished hpc htodo => exact absurd ⟨hpc, .inl htodo⟩ hmoves
  | waits b todo hpc htodo hm => exact absurd ⟨hpc, .inr ⟨b, todo, htodo, hm⟩⟩ hmoves
  | enters b todo hpc htodo =>
    simp only [Thread.work, set_threads_self, hpc, htodo, Pc.passed, Instr.work, List.map_cons,
      List.sum_cons]
    omega
  | stores k todo hpc htodo =>
    simp only [Thread.work, set_threads_self, hpc, htodo, Pc.passed, Instr.work, List.map_cons,
      List.sum_cons]
    omega
  | drops todo hpc htodo =>
    simp only [Thread.work, set_threads_self, hpc, htodo, Pc.passed, Instr.work, List.map_cons,
      List.sum_cons]
    omega
  | looks b hpc | makes b hpc | finds b i hpc | points b i hpc | leaves b i hpc =>
    obtain ⟨todo, htodo⟩ := hinside b (by rw [hpc]; rfl)
    simp only [Thread.work, set_threads_self, hpc, htodo, Pc.passed, Instr.work, List.map_cons,
      List.sum_cons, List.tail_cons]
    omega

/-- A step of a thread that is not stuck makes progress. -/
theorem Ok.work_lt (h : Ok s) (hmoves : ¬ Stuck s t) : (Singleton.step s t).work < s.work := by
  have hs := step_steps s t
  refine Finset.sum_lt_sum (fun t' _ => ?_) ⟨t, Finset.mem_univ t, h.thread_work_lt hs hmoves⟩
  by_cases ht : t' = t
  · subst ht
    exact le_of_lt (h.thread_work_lt hs hmoves)
  · rw [hs.threads_ne ht]

omit [DecidableEq B] [DecidableEq S] [DecidableEq T] [Fintype S] [Fintype T] in
/-- Of threads that are not all at their ends, one can go on: one that is inside, or any other. -/
theorem Ok.exists_moves (h : Ok s) (hmore : ∃ t, (s.threads t).todo ≠ []) :
    ∃ t, ¬ Stuck s t := by
  by_cases hin : ∃ t b, (s.threads t).pc.inside = some b
  · obtain ⟨t, b, hb⟩ := hin
    refine ⟨t, fun hstuck => ?_⟩
    rw [hstuck.1] at hb
    cases hb
  · obtain ⟨t, ht⟩ := hmore
    refine ⟨t, fun hstuck => ?_⟩
    rcases hstuck.2 with hnil | ⟨b, todo, -, hm⟩
    · exact ht hnil
    · obtain ⟨t', ht'⟩ := Option.ne_none_iff_exists'.mp hm
      exact hin ⟨t', b, (h.mutex t' b).mpr ht'⟩

/-- **Nobody waits in vain**: from wherever the threads have come, they can all come to their ends. -/
theorem Ok.finishes (h : Ok s) : ∃ l : List T, ∀ t, ((l.foldl Singleton.step s).threads t).todo = [] := by
  induction hn : s.work using Nat.strong_induction_on generalizing s with
  | _ n ih =>
    by_cases hmore : ∃ t, (s.threads t).todo ≠ []
    · obtain ⟨t, ht⟩ := h.exists_moves hmore
      obtain ⟨l, hl⟩ := ih (Singleton.step s t).work (hn ▸ h.work_lt ht) (h.step t) rfl
      exact ⟨t :: l, hl⟩
    · push Not at hmore
      exact ⟨[], hmore⟩

/-- Every run can be gone on with to the end of all threads. -/
theorem run_finishes (todo : T → List (Instr B S)) (l : List T) :
    ∃ rest : List T, ∀ t, (((l ++ rest).foldl step (State.start todo)).threads t).todo = [] := by
  obtain ⟨rest, hrest⟩ := ((Ok.start todo).run l).finishes
  exact ⟨rest, fun t => by rw [List.foldl_append]; exact hrest t⟩

/-! ## What is in the slots

  Where an object may be stored is a matter of the programs alone. -/

/-- Every store of the program puts into its slot an object of a kind that may be there; `v` is the kind
    of the object in the variable. -/
def StoresOk (P : S → B → Prop) : Option B → List (Instr B S) → Prop
  | _, [] => True
  | _, .fetch b :: todo => StoresOk P (some b) todo
  | v, .store k :: todo => (∀ b ∈ v, P k b) ∧ StoresOk P v todo
  | _, .drop :: todo => StoresOk P none todo

/-- What is there may be there, and so may what the threads have still to store. -/
structure SlotsOk (P : S → B → Prop) (s : State B S T) : Prop where
  slots : ∀ k b i, s.slots k = some (b, i) → P k b
  threads : ∀ t, StoresOk P ((s.threads t).var.map Prod.fst) (s.threads t).todo

/-- A slot is written to by a store only, and what is stored was fetched. -/
theorem SlotsOk.step {P : S → B → Prop} (h : SlotsOk P s) (hok : Ok s) (t : T) :
    SlotsOk P (Singleton.step s t) := by
  have hs := step_steps s t
  have ht := h.threads t
  -- the other threads go on with what they had
  have hothers : ∀ {s' : State B S T}, Steps s t s' →
      StoresOk P ((s'.threads t).var.map Prod.fst) (s'.threads t).todo →
      ∀ t', StoresOk P ((s'.threads t').var.map Prod.fst) (s'.threads t').todo := by
    intro s' hs hself t'
    by_cases heq : t' = t
    · rw [heq]
      exact hself
    · rw [hs.threads_ne heq]
      exact h.threads t'
  generalize Singleton.step s t = s' at hs ⊢
  refine ⟨?_, hothers hs ?_⟩
  · cases hs with
    | stores k todo hpc htodo =>
      intro k' b i hslot
      have hslot' : Function.update s.slots k (s.threads t).var k' = some (b, i) := hslot
      by_cases hk : k' = k
      · subst hk
        rw [Function.update_self] at hslot'
        rw [htodo] at ht
        exact ht.1 b (by rw [hslot']; rfl)
      · rw [Function.update_of_ne hk] at hslot'
        exact h.slots k' b i hslot'
    | _ => exact h.slots
  · cases hs with
    | finished | waits => exact ht
    | stores k todo hpc htodo =>
      rw [htodo] at ht
      simpa using ht.2
    | drops todo hpc htodo =>
      have hrest : StoresOk P none todo := by
        rw [htodo] at ht
        exact ht
      simpa using hrest
    | enters | looks | makes | finds | points => simpa using ht
    | leaves b i hpc =>
      obtain ⟨todo, htodo⟩ := hok.head t b (by rw [hpc]; rfl)
      have hrest : StoresOk P (some b) todo := by
        rw [htodo] at ht
        exact ht
      simpa [htodo] using hrest

/-- In every run, what is in a slot is of a kind that a program puts there. -/
theorem run_slots {P : S → B → Prop} {todo : T → List (Instr B S)}
    (h : ∀ t, StoresOk P none (todo t)) (l : List T) {k : S}
    (hk : (l.foldl step (State.start todo)).slots k = some (b, i)) : P k b := by
  have hrun : Ok (l.foldl step (State.start todo)) ∧ SlotsOk P (l.foldl step (State.start todo)) :=
    Run.foldl_inv_all (fun s => Ok s ∧ SlotsOk P s) (fun _ t hs => ⟨hs.1.step t, hs.2.step hs.1 t⟩) l
      ⟨.start todo, ⟨fun k b i hk => (by cases hk), h⟩⟩
  exact hrun.2.slots k b i hk

/-! ## A thread alone -/

/-- A fetch that nobody interrupts, with its mutex free: the thread has an object of the kind, and
    everybody else has what they had. -/
theorem fetch_alone {todo : List (Instr B S)} (hpc : (s.threads t).pc = .idle)
    (htodo : (s.threads t).todo = .fetch b :: todo) (hm : s.mutex b = none) :
    ∃ n i, let s' := (List.replicate n t).foldl step s
      s'.threads t = ⟨todo, .idle, some (b, i)⟩ ∧ s'.mutex = s.mutex ∧ s'.slots = s.slots := by
  have hmutex : Function.update (Function.update s.mutex b (some t)) b none = s.mutex := by
    rw [Function.update_idem]
    exact Function.update_eq_self_iff.mpr hm.symm
  -- the state after the mutex is taken
  generalize hs₁ : step s t = s₁
  have h₁ : s₁ = { s.set t { s.threads t with pc := .locked b } with
      mutex := Function.update s.mutex b (some t) } := by
    rw [← hs₁]
    simp [step, hpc, htodo, hm]
  cases hfound : s₁.lock b with
  | some i =>
    refine ⟨4, i, ?_⟩
    simp only [List.replicate, List.foldl_cons, List.foldl_nil, hs₁]
    have h₂ : step s₁ t = s₁.set t { s.threads t with pc := .looked b (some i) } := by
      rw [← hfound]
      simp [step, h₁]
    rw [h₂, h₁]
    simp [step, htodo, State.set, hmutex]
  | none =>
    refine ⟨5, s₁.next, ?_⟩
    simp only [List.replicate, List.foldl_cons, List.foldl_nil, hs₁]
    have h₂ : step s₁ t = s₁.set t { s.threads t with pc := .looked b none } := by
      rw [← hfound]
      simp [step, h₁]
    rw [h₂, h₁]
    simp [step, htodo, State.set, hmutex]

end

end Singleton
