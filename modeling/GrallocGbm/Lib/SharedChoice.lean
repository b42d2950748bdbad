/-
  Calls that pass a choice to themselves through a shared variable.

  A service has one variable.  A call writes its choice into it, comes back to see that the variable
  is set and that what it holds is ready (or can be made so), and at last runs its operation on what
  the variable holds then.  Each access is one step, and any number of calls take their steps in any
  order.  A step that reads or writes the variable is atomic; in a program whose variable is not,
  there is more that can go wrong than is said here.

  A call alone runs on its own choice (`run_alone`).  Among others it does so as long as nobody
  overwrites the choice of a call that is still under way (`served_of_undisturbed`), and one write
  in front of the last step is enough to send it elsewhere (`not_served_of_overwritten`).

  The invariant of the first is `SharedOk`: the variable holds the choice of every call under way.
  Two calls under way have therefore chosen alike, which is how calls can overlap and be served
  nevertheless.  Its step lemma has one case for each place a call can be at, and the condition
  `Undisturbed` is used at the one step that writes.

  A choice may fail (`none`), and then the variable keeps what it held, as does a service that logs
  the failure and goes on.  What is then run is what an earlier call has left there.
-/
import GrallocGbm.Lib.Run
import Mathlib.Data.Fintype.Defs
import Mathlib.Logic.Function.Basic

namespace Shared

/-! ## The machine

  Each call goes through the same five steps, and the one thing that all of them write to is
  shared. -/

/-- A service with states `σ` and calls `C` that are served by one of `B`. -/
structure Service (σ B C : Type*) where
  /-- What a call writes into the variable; `none` leaves it as it is. -/
  choose : C → σ → Option B
  isReady : B → σ → Bool × σ
  init : B → σ → Bool × σ
  op : C → B → σ → σ

/-- Where a call is.  From its first step on it carries the choice it has made; at its end, also on
    what its operation was run, if it came to that. -/
inductive Pc (B : Type*) where
  | start
  | check (chosen : Option B)
  | ready (chosen : Option B)
  | init (chosen : Option B)
  | dispatch (chosen : Option B)
  | done (chosen served : Option B)
  deriving DecidableEq, Repr

/-- The choice of a call that is under way. -/
def Pc.underWay {B : Type*} : Pc B → Option (Option B)
  | .check c | .ready c | .init c | .dispatch c => some c
  | _ => none

/-- The state of the service, its variable, and where every call is. -/
structure State (σ B T : Type*) where
  state : σ
  shared : Option B
  pc : T → Pc B

/-- Nobody has called yet. -/
def State.start {σ B T : Type*} (state : σ) (shared : Option B) : State σ B T :=
  ⟨state, shared, fun _ => .start⟩

section

variable {σ B C T : Type*} [DecidableEq T] (S : Service σ B C) (call : T → C)

/-- Call `t` goes to `pc`. -/
def State.goto (s : State σ B T) (t : T) (pc : Pc B) : State σ B T :=
  { s with pc := Function.update s.pc t pc }

/-- What the variable holds after `c` is written. -/
def written (c shared : Option B) : Option B := c.or shared

/-- The next step of call `t`. -/
def step (s : State σ B T) (t : T) : State σ B T :=
  match s.pc t with
  | .start =>
    let c := S.choose (call t) s.state
    { s with shared := written c s.shared, pc := Function.update s.pc t (.check c) }
  | .check c => s.goto t (if s.shared.isSome then .ready c else .done c none)
  | .ready c =>
    match s.shared with
    | none => s.goto t (.done c none)
    | some b =>
      let r := S.isReady b s.state
      { s with state := r.2, pc := Function.update s.pc t (if r.1 then .dispatch c else .init c) }
  | .init c =>
    match s.shared with
    | none => s.goto t (.done c none)
    | some b =>
      let r := S.init b s.state
      { s with state := r.2, pc := Function.update s.pc t (if r.1 then .dispatch c else .done c none) }
  | .dispatch c =>
    match s.shared with
    | none => s.goto t (.done c none)
    | some b =>
      { s with state := S.op (call t) b s.state, pc := Function.update s.pc t (.done c (some b)) }
  | .done _ _ => s

/-- Every operation was run on what its own call had chosen. -/
def Served (s : State σ B T) : Prop :=
  ∀ t c b, s.pc t = .done c (some b) → c = some b

/-- The step writes no choice, or what it leaves in the variable is the choice of every call under
    way, its own included. -/
def Undisturbed (s : State σ B T) (t : T) : Prop :=
  s.pc t = .start →
    ∀ t', ∀ c ∈ ((step S call s t).pc t').underWay, c = (step S call s t).shared

instance [Fintype T] [DecidableEq B] (s : State σ B T) (t : T) :
    Decidable (Undisturbed S call s t) :=
  inferInstanceAs (Decidable (s.pc t = .start → ∀ t', ∀ c ∈ ((step S call s t).pc t').underWay,
    c = (step S call s t).shared))

/-! ## One call alone -/

/-- A call from its first step to its last. -/
def Service.serve (c : C) (r : σ × Option B) : σ × Option B :=
  match written (S.choose c r.1) r.2 with
  | none => (r.1, none)
  | some b =>
    match S.isReady b r.1 with
    | (true, p) => (S.op c b p, some b)
    | (false, p) =>
      match S.init b p with
      | (true, p) => (S.op c b p, some b)
      | (false, p) => (p, some b)

/-- Five steps of one call that nobody interrupts. -/
theorem run_alone (s : State σ B T) (t : T) (h : s.pc t = .start) :
    let s' := [t, t, t, t, t].foldl (step S call) s
    (s'.state, s'.shared) = S.serve (call t) (s.state, s.shared) := by
  simp only [List.foldl_cons, List.foldl_nil, Service.serve]
  cases hw : written (S.choose (call t) s.state) s.shared with
  | none => simp [step, h, hw, State.goto]
  | some b =>
    cases hr : S.isReady b s.state with
    | mk ok p =>
      cases ok with
      | true => simp [step, h, hw, hr, State.goto]
      | false =>
        cases hi : S.init b p with
        | mk ok' p' =>
          cases ok' <;> simp [step, h, hw, hr, hi, State.goto]

/-! ## Calls among others

  The invariant says of each call that is under way what it has seen and what it has still to
  do. -/

/-- The variable holds the choice of every call under way, and the operations run so far were run on
    the right choices. -/
structure SharedOk (s : State σ B T) : Prop where
  own : ∀ t c, (s.pc t).underWay = some c → c = s.shared
  served : Served s

omit [DecidableEq T] in
/-- At the start no call is under way. -/
theorem SharedOk.start (state : σ) (shared : Option B) :
    SharedOk (State.start state shared : State σ B T) where
  own := by
    intro t c h
    cases h
  served := by
    intro t c b h
    cases h

variable {S call} {s : State σ B T} {t : T}

/-- A step of a call under way that leaves the variable alone. -/
theorem SharedOk.of_goto {s' : State σ B T} (h : SharedOk s) {pc : Pc B}
    (hpc : s'.pc = Function.update s.pc t pc) (hshared : s'.shared = s.shared)
    (hown : ∀ c, pc.underWay = some c → c = s.shared)
    (hserved : ∀ c b, pc = .done c (some b) → c = some b) : SharedOk s' := by
  constructor
  case own =>
    intro t' c hc
    rw [hpc, Function.update_apply] at hc
    rw [hshared]
    by_cases ht : t' = t
    · rw [if_pos ht] at hc
      exact hown c hc
    · rw [if_neg ht] at hc
      exact h.own t' c hc
  case served =>
    intro t' c b hc
    rw [hpc, Function.update_apply] at hc
    by_cases ht : t' = t
    · rw [if_pos ht] at hc
      exact hserved c b hc
    · rw [if_neg ht] at hc
      exact h.served t' c b hc

/-- **The step lemma.** -/
theorem SharedOk.step (h : SharedOk s) (hok : Undisturbed S call s t) :
    SharedOk (step S call s t) := by
  cases hpc : s.pc t with
  | start =>
    refine ⟨hok hpc, fun t' c b hc => ?_⟩
    have hstep : (Shared.step S call s t).pc
        = Function.update s.pc t (.check (S.choose (call t) s.state)) := by
      simp [Shared.step, hpc]
    rw [hstep, Function.update_apply] at hc
    by_cases ht : t' = t
    · rw [if_pos ht] at hc
      cases hc
    · rw [if_neg ht] at hc
      exact h.served t' c b hc
  | check c =>
    have hc := h.own t c (by rw [hpc]; rfl)
    simp only [Shared.step, hpc]
    refine h.of_goto rfl rfl ?_ ?_
    · intro c' hc'
      split at hc'
      · exact (Option.some.inj hc').symm.trans hc
      · cases hc'
    · intro c' b hc'
      split at hc' <;> cases hc'
  | ready c =>
    have hc := h.own t c (by rw [hpc]; rfl)
    simp only [Shared.step, hpc]
    cases hs : s.shared with
    | none => exact h.of_goto rfl rfl (fun _ h => by cases h) (fun _ _ h => by cases h)
    | some b =>
      refine h.of_goto rfl hs.symm ?_ ?_
      · intro c' hc'
        split at hc' <;> exact (Option.some.inj hc').symm.trans hc
      · intro c' b' hc'
        split at hc' <;> cases hc'
  | init c =>
    have hc := h.own t c (by rw [hpc]; rfl)
    simp only [Shared.step, hpc]
    cases hs : s.shared with
    | none => exact h.of_goto rfl rfl (fun _ h => by cases h) (fun _ _ h => by cases h)
    | some b =>
      refine h.of_goto rfl hs.symm ?_ ?_
      · intro c' hc'
        split at hc'
        · exact (Option.some.inj hc').symm.trans hc
        · cases hc'
      · intro c' b' hc'
        split at hc' <;> cases hc'
  | dispatch c =>
    have hc := h.own t c (by rw [hpc]; rfl)
    simp only [Shared.step, hpc]
    cases hs : s.shared with
    | none => exact h.of_goto rfl rfl (fun _ h => by cases h) (fun _ _ h => by cases h)
    | some b =>
      refine h.of_goto rfl hs.symm (fun _ h => by cases h) ?_
      rintro c' b' ⟨⟩
      rw [hc, hs]
  | done c served =>
    have hsame : Shared.step S call s t = s := by simp [Shared.step, hpc]
    rw [hsame]
    exact h

/-- **Undisturbed calls are served by their own choice**, in any number and in any order. -/
theorem served_of_undisturbed {l : List T} (h : SharedOk s)
    (hl : Run.Along (step S call) (Undisturbed S call) s l) : Served (l.foldl (step S call) s) :=
  (Run.foldl_inv SharedOk (fun _ _ hs hok => hs.step hok) h hl).served

/-- A choice written in front of the last step of another call sends that call elsewhere. -/
theorem not_served_of_overwritten {t' : T} {b : B} {c : Option B} (hpc : s.pc t = .start)
    (hchoose : S.choose (call t) s.state = some b) (hne : t' ≠ t) (hpc' : s.pc t' = .dispatch c)
    (hc : c ≠ some b) : ¬ Served ([t, t'].foldl (step S call) s) := by
  intro hserved
  apply hc
  apply hserved t' c b
  simp [step, hpc, hchoose, written, hpc', hne]

end

end Shared
