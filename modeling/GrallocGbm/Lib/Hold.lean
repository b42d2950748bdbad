/-
  Locks that are shared or exclusive by the use they are taken for.

  An object is idle, held any number of times for a use that does not need a mapping (`shared`), or
  held once for a use that does (`mapped`, with the address of the mapping).  The first lock decides
  which of the two it is; further ones are granted while it is shared and if their use is covered by
  that of the first.  No other combination can be written down: there is no mapped object with two
  holders, and no idle one with a use.

  Which use covers which, and which need a mapping, is the policy's (`Policy`); whether a mapping
  can be had is not the lock's to know, and comes with the request as an address or none.

  * `grant_cases`       — all that a granted lock can do;
  * `SameUse.eq`        — while an object is never held less often than at some point, it is held
    for the same use; and when it is held as often again, it is in the same state.

  The second is what a client needs that does something between a lock and its unlock and lets
  others do so too.  Its induction is on the steps in between, and its invariant is `SameUse`: held
  at least as often, and if held at all, for the use of then.  A grant cannot break it, because a
  shared use stays that of the first holder; an unlock can, but only by going below the count at the
  start.
-/
import Mathlib.Data.Option.Basic

/-- The state of a lock, for uses `υ` and addresses `α`. -/
inductive Hold (υ α : Type*) where
  | idle
  /-- Held `more + 1` times. -/
  | shared (more : Nat) (usage : υ)
  | mapped (usage : υ) (addr : α)
  deriving DecidableEq, Repr

/-- Which use a use covers, and which need a mapping. -/
structure Hold.Policy (υ : Type*) where
  covers : υ → υ → Bool
  exclusive : υ → Bool

namespace Hold

variable {υ α : Type*} (P : Policy υ)

/-- A lock for `usage`, with the address of a mapping if one can be had. -/
def grant (usage : υ) (addr : Option α) : Hold υ α → Option (Hold υ α)
  | .idle => if P.exclusive usage then addr.map (.mapped usage) else some (.shared 0 usage)
  | .shared more held => if P.covers held usage then some (.shared (more + 1) held) else none
  | .mapped _ _ => none

/-- An unlock: one holder less, and of an idle object nothing. -/
def release : Hold υ α → Hold υ α
  | .idle => .idle
  | .shared 0 _ => .idle
  | .shared (more + 1) held => .shared more held
  | .mapped _ _ => .idle

/-- How often the object is held. -/
def holders : Hold υ α → Nat
  | .idle => 0
  | .shared more _ => more + 1
  | .mapped _ _ => 1

/-- The address a holder may use. -/
def addr? : Hold υ α → Option α
  | .mapped _ addr => some addr
  | _ => none

/-- What can become of a lock in one step: nothing, a grant, or an unlock. -/
inductive Moves : Hold υ α → Hold υ α → Prop
  | stays (h : Hold υ α) : Moves h h
  | grants {h h' : Hold υ α} {usage : υ} {addr : Option α} (hg : h.grant P usage addr = some h') :
    Moves h h'
  | releases (h : Hold υ α) : Moves h h.release

variable {P} {h h' s s' : Hold υ α} {usage : υ} {addr : Option α}

/-- Nobody holds it exactly if it is idle. -/
theorem holders_eq_zero : h.holders = 0 ↔ h = .idle := by
  cases h <;> simp [holders]

/-- **What a granted lock does.** -/
theorem grant_cases (hg : h.grant P usage addr = some h') :
    (∃ a, h = .idle ∧ P.exclusive usage = true ∧ addr = some a ∧ h' = .mapped usage a) ∨
    (h = .idle ∧ P.exclusive usage = false ∧ h' = .shared 0 usage) ∨
    ∃ more held, h = .shared more held ∧ P.covers held usage = true ∧
      h' = .shared (more + 1) held := by
  cases h with
  | idle =>
    cases hx : P.exclusive usage with
    | true =>
      simp only [grant, hx, if_true] at hg
      obtain ⟨a, ha, rfl⟩ := Option.map_eq_some_iff.mp hg
      exact .inl ⟨a, rfl, rfl, ha, rfl⟩
    | false =>
      simp only [grant, hx, Bool.false_eq_true, if_false] at hg
      exact .inr (.inl ⟨rfl, rfl, (Option.some.inj hg).symm⟩)
  | shared more held =>
    cases hc : P.covers held usage with
    | true =>
      simp only [grant, hc, if_true] at hg
      exact .inr (.inr ⟨more, held, rfl, hc, (Option.some.inj hg).symm⟩)
    | false =>
      simp only [grant, hc, Bool.false_eq_true, if_false] at hg
      cases hg
  | mapped held a => cases hg

/-! ## Nested sections

  A sequence of grants and releases that never goes below where it began, and ends there, has
  changed nothing. -/

/-- `s` is held at least as often as `h`, and if `h` is held at all, for the same use. -/
def SameUse : Hold υ α → Hold υ α → Prop
  | .idle, _ => True
  | .shared more held, s => ∃ more', more ≤ more' ∧ s = .shared more' held
  | .mapped held a, s => s = .mapped held a

/-- At the start of a section the use is the one of the start. -/
theorem SameUse.refl (h : Hold υ α) : SameUse h h := by
  cases h with
  | idle => trivial
  | shared more held => exact ⟨more, Nat.le_refl _, rfl⟩
  | mapped held a => rfl

/-- A step keeps the use, unless it leaves the object held less often. -/
theorem SameUse.moves (hs : SameUse h s) (hm : Moves P s s') (hle : h.holders ≤ s'.holders) :
    SameUse h s' := by
  cases h with
  | idle => trivial
  | shared more held =>
    obtain ⟨more', hmore, rfl⟩ := hs
    cases hm with
    | stays => exact ⟨more', hmore, rfl⟩
    | grants hg =>
      rcases grant_cases hg with ⟨a, h0, -⟩ | ⟨h0, -⟩ | ⟨n, u, heq, -, rfl⟩
      · cases h0
      · cases h0
      · cases heq
        exact ⟨more' + 1, Nat.le_succ_of_le hmore, rfl⟩
    | releases =>
      cases more' with
      | zero => exact absurd hle (Nat.not_succ_le_zero more)
      | succ n => exact ⟨n, Nat.le_of_succ_le_succ hle, rfl⟩
  | mapped held a =>
    rw [show s = .mapped held a from hs] at hm
    cases hm with
    | stays => rfl
    | grants hg => cases hg
    | releases => exact absurd hle (Nat.not_succ_le_zero 0)

/-- **The end of a nested section**: held as often as at its start, the object is as it was. -/
theorem SameUse.eq (hs : SameUse h s) (hholders : s.holders = h.holders) : s = h := by
  cases h with
  | idle => exact holders_eq_zero.mp hholders
  | shared more held =>
    obtain ⟨more', -, rfl⟩ := hs
    rw [show more' = more from Nat.succ.inj hholders]
  | mapped held a => exact hs

end Hold
