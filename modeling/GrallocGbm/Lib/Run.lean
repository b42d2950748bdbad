/-
  Runs of a step function, and the rules that carry a fact about one step to a whole run.

  A system is a step function `step : σ → ι → σ`; its run on the inputs `l` is `l.foldl step s`.
  `Along step ok s l` says that every input of the run satisfies `ok` in the state in which it is
  taken, which is how a run is restricted ("calls on returned handles only") and how an exact
  condition is stated step by step.

  * `along_and`, `along_append`, `along_const` — conditions are split up, by what they say and by
    where they apply;
  * `foldl_inv`, `foldl_inv_all` — an invariant of every (allowed) step is one of every (allowed)
    run;
  * `along_of_inv` — what an invariant gives for every allowed step holds along every allowed run;
  * `along_congr`, `along_iff` — conditions that agree under an invariant agree along a run;
  * `foldl_sim` — two systems that every allowed step keeps related stay related over a run;
  * `foldl_last_write` — reading a store after writes gives what the last write to the key left;
  * `measure_eq_iff` — a quantity that `ok` steps keep and all other steps strictly enlarge is
    unchanged over a run exactly when every step of it was `ok`;
  * `measure_le`   — such a quantity never shrinks.
-/
import Mathlib.Data.List.Induction
import Mathlib.Order.Basic

namespace Run

variable {σ ι : Type*} {step : σ → ι → σ}

/-- Every input of the run satisfies `ok` in the state in which it is taken. -/
def Along (step : σ → ι → σ) (ok : σ → ι → Prop) : σ → List ι → Prop
  | _, [] => True
  | s, i :: l => ok s i ∧ Along step ok (step s i) l

instance decidableAlong (ok : σ → ι → Prop) [∀ s i, Decidable (ok s i)] :
    ∀ s l, Decidable (Along step ok s l)
  | _, [] => isTrue trivial
  | s, i :: l =>
    have := decidableAlong ok (step s i) l
    inferInstanceAs (Decidable (ok s i ∧ Along step ok (step s i) l))

/-- A condition on the inputs alone. -/
theorem along_const {P : ι → Prop} {s : σ} {l : List ι} :
    Along step (fun _ i => P i) s l ↔ ∀ i ∈ l, P i := by
  induction l generalizing s with
  | nil => simp [Along]
  | cons i l ih => simp [Along, ih]

/-- No condition at all. -/
theorem along_true {s : σ} {l : List ι} : Along step (fun _ _ => True) s l := by
  induction l generalizing s with
  | nil => trivial
  | cons i l ih => exact ⟨trivial, ih⟩

/-- Two conditions at once. -/
theorem along_and {ok ok' : σ → ι → Prop} {s : σ} {l : List ι} :
    Along step (fun s i => ok s i ∧ ok' s i) s l ↔ Along step ok s l ∧ Along step ok' s l := by
  induction l generalizing s with
  | nil => simp [Along]
  | cons i l ih =>
    show (ok s i ∧ ok' s i) ∧ _ ↔ (ok s i ∧ _) ∧ ok' s i ∧ _
    rw [ih]
    exact and_and_and_comm

/-- One run after another. -/
theorem along_append {ok : σ → ι → Prop} {s : σ} {l l' : List ι} :
    Along step ok s (l ++ l') ↔ Along step ok s l ∧ Along step ok (l.foldl step s) l' := by
  induction l generalizing s with
  | nil => simp [Along]
  | cons i l ih =>
    show ok s i ∧ Along step ok (step s i) (l ++ l') ↔ (ok s i ∧ _) ∧ _
    rw [ih, and_assoc, List.foldl_cons]

/-! ## Invariants

  From a step to a run, with or without a condition on the steps. -/

section Invariant

variable (Inv : σ → Prop) {ok ok' dom : σ → ι → Prop} {s : σ} {l : List ι}

/-- **The invariant rule**: what every allowed step preserves, every allowed run preserves. -/
theorem foldl_inv (hstep : ∀ s i, Inv s → ok s i → Inv (step s i)) (hs : Inv s)
    (hok : Along step ok s l) : Inv (l.foldl step s) := by
  induction l generalizing s with
  | nil => exact hs
  | cons i l ih =>
    rw [List.foldl_cons]
    exact ih (hstep s i hs hok.1) hok.2

/-- The same without a restriction. -/
theorem foldl_inv_all (hstep : ∀ s i, Inv s → Inv (step s i)) (l : List ι) (hs : Inv s) :
    Inv (l.foldl step s) := by
  induction l generalizing s with
  | nil => exact hs
  | cons i l ih =>
    rw [List.foldl_cons]
    exact ih (hstep s i hs)

/-- What an invariant gives for every allowed step holds along every allowed run. -/
theorem along_of_inv (hstep : ∀ s i, Inv s → dom s i → Inv (step s i))
    (h : ∀ s i, Inv s → dom s i → ok s i) (hs : Inv s) (hdom : Along step dom s l) :
    Along step ok s l := by
  induction l generalizing s with
  | nil => trivial
  | cons i l ih => exact ⟨h s i hs hdom.1, ih (hstep s i hs hdom.1) hdom.2⟩

/-- Two conditions that agree wherever the invariant holds agree along every allowed run. -/
theorem along_congr (hstep : ∀ s i, Inv s → dom s i → Inv (step s i))
    (h : ∀ s i, Inv s → dom s i → (ok s i ↔ ok' s i)) (hs : Inv s) (hdom : Along step dom s l) :
    Along step ok s l ↔ Along step ok' s l := by
  induction l generalizing s with
  | nil => exact Iff.rfl
  | cons i l ih => exact and_congr (h s i hs hdom.1) (ih (hstep s i hs hdom.1) hdom.2)

/-- Two conditions that agree wherever the invariant holds, if the invariant is only kept by steps
    that meet the first. -/
theorem along_iff (hstep : ∀ s i, Inv s → dom s i → ok s i → Inv (step s i))
    (h : ∀ s i, Inv s → dom s i → (ok s i ↔ ok' s i)) (hs : Inv s) (hdom : Along step dom s l) :
    Along step ok s l ↔ Along step ok' s l := by
  induction l generalizing s with
  | nil => exact Iff.rfl
  | cons i l ih =>
    show ok s i ∧ _ ↔ ok' s i ∧ _
    rw [← h s i hs hdom.1]
    exact and_congr_right fun hi => ih (hstep s i hs hdom.1 hi) hdom.2

end Invariant

/-! ## Two systems -/

/-- **The simulation rule**: what every allowed step keeps between two systems that take the same
    inputs, every allowed run keeps. -/
theorem foldl_sim {τ : Type*} {step' : τ → ι → τ} (R : σ → τ → Prop) {ok : σ → ι → Prop} {s : σ}
    {t : τ} {l : List ι} (hstep : ∀ s t i, R s t → ok s i → R (step s i) (step' t i)) (h : R s t)
    (hok : Along step ok s l) : R (l.foldl step s) (l.foldl step' t) := by
  induction l generalizing s t with
  | nil => exact h
  | cons i l ih =>
    rw [List.foldl_cons, List.foldl_cons]
    exact ih (hstep s t i h hok.1) hok.2

/-! ## Writes to a store -/

/-- **The last write wins.**  `get` reads the key `k`: other writes do not change what it sees, and one
    to `k` settles it. -/
theorem foldl_last_write {κ ξ β : Type*} [DecidableEq κ] (get : σ → β) {set : σ → κ × ξ → σ} {k : κ}
    (hother : ∀ s x, x.1 ≠ k → get (set s x) = get s)
    (hset : ∀ s s' x, x.1 = k → get (set s x) = get (set s' x)) (l : List (κ × ξ)) (s : σ) :
    get (l.foldl set s)
      = ((l.filter fun x => x.1 = k).getLast?).elim (get s) fun x => get (set s x) := by
  induction l using List.reverseRecOn with
  | nil => rfl
  | append_singleton l x ih =>
    rw [List.foldl_append, List.filter_append]
    show get (set (l.foldl set s) x) = _
    by_cases hk : x.1 = k
    · rw [hset _ s x hk]
      simp [hk]
    · rw [hother _ x hk, ih]
      simp [hk]

/-! ## Quantities that only grow

  A quantity that no step makes smaller is the same after the run exactly if no step makes it
  larger. -/

section Measure

variable {P : Type*} [PartialOrder P] (μ : σ → P) (Inv : σ → Prop) (dom : ι → Prop)
  (ok : σ → ι → Prop) {s : σ}

/-- A quantity that no step shrinks is not shrunk by a run. -/
theorem measure_le (hinv : ∀ s i, Inv s → dom i → Inv (step s i))
    (hle : ∀ s i, Inv s → dom i → μ s ≤ μ (step s i)) (l : List ι) (hs : Inv s)
    (hdom : ∀ i ∈ l, dom i) : μ s ≤ μ (l.foldl step s) := by
  induction l generalizing s with
  | nil => exact le_refl _
  | cons i l ih =>
    rw [List.foldl_cons]
    have hi := hdom i List.mem_cons_self
    apply le_trans (hle s i hs hi)
    exact ih (hinv s i hs hi) (fun j hj => hdom j (List.mem_cons_of_mem i hj))

/-- **The balance rule**: if `ok` steps leave `μ` alone and every other step strictly enlarges it,
    a run leaves `μ` alone exactly when all of its steps are `ok`. -/
theorem measure_eq_iff (hinv : ∀ s i, Inv s → dom i → Inv (step s i))
    (hok : ∀ s i, Inv s → dom i → ok s i → μ (step s i) = μ s)
    (hbad : ∀ s i, Inv s → dom i → ¬ ok s i → μ s < μ (step s i)) (l : List ι) (hs : Inv s)
    (hdom : ∀ i ∈ l, dom i) : μ (l.foldl step s) = μ s ↔ Along step ok s l := by
  have hle : ∀ s i, Inv s → dom i → μ s ≤ μ (step s i) := by
    intro s i hs hi
    by_cases h : ok s i
    · exact le_of_eq (hok s i hs hi h).symm
    · exact le_of_lt (hbad s i hs hi h)
  induction l generalizing s with
  | nil => simp [Along]
  | cons i l ih =>
    have hi := hdom i List.mem_cons_self
    have hrest : ∀ j ∈ l, dom j := fun j hj => hdom j (List.mem_cons_of_mem i hj)
    have hrun := ih (hinv s i hs hi) hrest
    rw [List.foldl_cons]
    by_cases h : ok s i
    · rw [← hok s i hs hi h]
      exact hrun.trans ⟨fun hal => ⟨h, hal⟩, fun hal => hal.2⟩
    · have hlt := lt_of_lt_of_le (hbad s i hs hi h)
        (measure_le μ Inv dom hinv hle l (hinv s i hs hi) hrest)
      exact ⟨fun heq => absurd heq (ne_of_gt hlt), fun hal => absurd hal.1 h⟩

end Measure

end Run
