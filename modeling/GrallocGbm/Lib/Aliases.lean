/-
  Tables of names, several of which may stand for one thing.

  A table is a partial function `f : κ → Option μ`: what a name stands for, if for anything.  The
  subject is two loops: one puts names to things, the other gives each of these names a second one
  and drops the first.

  * `Extends`          — no name has been dropped, or put to something else
  * `Opens`            — names are put to things one after another
  * `Opens.map_eq`     — in the end each stands for its thing
  * `Opens.nodup`      — names of different things are different
  * `Copies`           — names are replaced one after another
  * `Copies.frame`     — nothing else changes meanwhile
  * `Copies.map_eq`    — in the end each new name stands for what the old one stood for

  Both loops are relations, with one constructor for the empty list and one for a step, and what is
  proved of them is proved by induction on the derivation.  What a step is free to choose is the
  name, as long as it is a free one: a name that was dropped may come back for something else, which
  is the usual way of descriptors.

  The crux of `Copies.map_eq` is therefore that the names are replaced *one after another*, and are
  different: when a name is replaced, those still to come stand for what they stood for
  (`Copies.frame`), though names that were already replaced may have been given out again.
-/
import Mathlib.Data.List.Nodup

namespace Aliases

variable {κ μ : Type*} [DecidableEq κ] {f g h : κ → Option μ} {k x : κ} {m : μ}
  {ks ds : List κ} {ms : List μ}

/-- What stands for something in `f` stands for the same in `g`. -/
def Extends (f g : κ → Option μ) : Prop := ∀ x, f x ≠ none → g x = f x

omit [DecidableEq κ] in
/-- Nothing was changed. -/
theorem Extends.refl (f : κ → Option μ) : Extends f f := fun _ _ => rfl

omit [DecidableEq κ] in
/-- Two stretches in which no name was dropped are one. -/
theorem Extends.trans (h₁ : Extends f g) (h₂ : Extends g h) : Extends f h := by
  intro x hx
  have hg := h₁ x hx
  rw [h₂ x (by rwa [hg]), hg]

/-- A name that stands for nothing may be put to anything. -/
theorem extends_update (hk : f k = none) (v : Option μ) : Extends f (Function.update f k v) := by
  intro x hx
  have hne : x ≠ k := fun heq => hx (heq ▸ hk)
  exact Function.update_of_ne hne _ _

/-! ## Putting names to things

  Names are given out one by one, and a new name is one that is not in use. -/

/-- The names `ks` are put to the things `ms`, one after another; other names may be put to things
    in between. -/
inductive Opens : (κ → Option μ) → List κ → List μ → (κ → Option μ) → Prop
  | nil (f : κ → Option μ) : Opens f [] [] f
  | cons {f f' g : κ → Option μ} {k : κ} {m : μ} {ks : List κ} {ms : List μ} (hk : f k = none)
      (hf : Extends (Function.update f k (some m)) f') (h : Opens f' ks ms g) :
      Opens f (k :: ks) (m :: ms) g

/-- Putting names to things drops none. -/
theorem Opens.extends (h : Opens f ks ms g) : Extends f g := by
  induction h with
  | nil f => exact .refl f
  | cons hk hf _ ih => exact (extends_update hk _).trans (hf.trans ih)

/-- In the end each name stands for its thing: what was put first is still there. -/
theorem Opens.map_eq (h : Opens f ks ms g) : ks.map g = ms.map some := by
  induction h with
  | nil f => rfl
  | @cons f f' g k m ks ms hk hf hrest ih =>
    have hk' := (hf.trans hrest.extends) k (by simp)
    rw [List.map_cons, List.map_cons, ih, hk', Function.update_self]

omit [DecidableEq κ] in
/-- Names of pairwise different things. -/
theorem nodup_of_map_eq (h : ks.map g = ms.map some) (hms : ms.Nodup) : ks.Nodup := by
  have hmap : (ks.map g).Nodup := by
    rw [h]
    exact hms.map fun _ _ heq => Option.some.inj heq
  exact hmap.of_map

/-! ## Replacing names

  Each name of a list is replaced by a new one for the same thing; what the list stands for
  stays the same. -/

/-- One after another, each of the names `ks` gets a second one, from `ds`, and is dropped. -/
inductive Copies : (κ → Option μ) → List κ → List κ → (κ → Option μ) → Prop
  | nil (f : κ → Option μ) : Copies f [] [] f
  | cons {f g : κ → Option μ} {k d : κ} {ks ds : List κ} (hd : f d = none)
      (h : Copies (Function.update (Function.update f d (f k)) k none) ks ds g) :
      Copies f (k :: ks) (d :: ds) g

/-- A replacement changes no name that stands for something, but the one it drops. -/
theorem update_copy {d : κ} (hd : f d = none) (hx : x ≠ k) (hfx : f x ≠ none) :
    Function.update (Function.update f d (f k)) k none x = f x := by
  have hxd : x ≠ d := fun heq => hfx (heq ▸ hd)
  rw [Function.update_of_ne hx, Function.update_of_ne hxd]

/-- A name that is not replaced keeps its thing. -/
theorem Copies.frame (h : Copies f ks ds g) (hx : x ∉ ks) (hfx : f x ≠ none) : g x = f x := by
  induction h with
  | nil f => rfl
  | @cons f g k d ks ds hd _ ih =>
    rw [List.mem_cons, not_or] at hx
    have hstep := update_copy hd hx.1 hfx
    rw [ih hx.2 (by rwa [hstep]), hstep]

/-- In the end each new name stands for what the old one stood for at the start. -/
theorem Copies.map_eq (h : Copies f ks ds g) (hnodup : ks.Nodup) (hks : ∀ k ∈ ks, f k ≠ none) :
    ds.map g = ks.map f := by
  induction h with
  | nil f => rfl
  | @cons f g k d ks ds hd hrest ih =>
    obtain ⟨hk, hnodup⟩ := List.nodup_cons.mp hnodup
    have hfk : f k ≠ none := hks k List.mem_cons_self
    have hfks : ∀ k' ∈ ks, f k' ≠ none := fun k' hk' => hks k' (List.mem_cons_of_mem _ hk')
    have hsame : ∀ k' ∈ ks, Function.update (Function.update f d (f k)) k none k' = f k' :=
      fun k' hk' => update_copy hd (fun heq => hk (heq ▸ hk')) (hfks k' hk')
    -- the new name stands for the thing from now on
    have hdk : d ≠ k := fun heq => hfk (heq ▸ hd)
    have hstep : Function.update (Function.update f d (f k)) k none d = f k := by
      rw [Function.update_of_ne hdk, Function.update_self]
    have hdks : d ∉ ks := fun hmem => hfks d hmem hd
    have hhead : g d = f k := (hrest.frame hdks (by rwa [hstep])).trans hstep
    have htail := ih hnodup fun k' hk' => by rw [hsame k' hk']; exact hfks k' hk'
    rw [List.map_cons, List.map_cons, hhead, htail, List.map_congr_left hsame]

end Aliases
