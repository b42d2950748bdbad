/-
  What a process sees of memory that others have given it.

  It has names for memory (file descriptors), makes objects from names, and looks at the memory
  through views of a name or of an object (CPU mappings).  `Sight` says what every name and every
  object stands for, and what every view shows; `Event` is what the process can ask for, and a log
  of events, newest first, is a function on `Sight` (`Sight.run`).

  * `Event.Spares`    — an event leaves some names and some objects alone
  * `Keeps`           — they stand for what they stood for, and the views of names are still there
  * `Sight.run_keeps` — what every event of a log spares, the log keeps
  * `Sight.run_views` — a view made meanwhile of such a name shows what the name stands for

  The events are the kernel's and the device library's, not the program's: a program is followed by
  writing down the events of the calls it has made.  Nothing here depends on why it made them.

  Memory itself is an opaque type `μ`.  Two processes see the same memory if their names stand for
  the same value of it, and `receive` is how a name comes to stand for the memory that somebody else
  sent; a name about which nothing was received stands for nothing that is followed (`none`).

  A view remembers what it was made of, and what that stood for then.  So a view of an object may
  outlive the object, and one of a name the name, and still show the same memory.
-/
import Mathlib.Logic.Function.Basic

namespace Views

/-- A name made, copied, or made of an object; an object made of a name or out of nothing, or
    released; a view made or undone. -/
inductive Event (κ ω α : Type*) where
  | opened (k : κ)
  | copied (k d : κ)
  | exported (o : ω) (k : κ)
  | created (o : ω)
  | imported (k : κ) (o : ω)
  | released (o : ω)
  | viewedName (k : κ) (a : α)
  | viewedObject (o : ω) (a : α)
  | unviewed (o : ω)

/-- A view: of a name or of an object, at the address `addr`, of what that stood for then. -/
structure View (κ ω α μ : Type*) where
  source : κ ⊕ ω
  addr : α
  shows : Option μ

/-- What names and objects stand for, if for memory that is followed, and the views. -/
structure Sight (κ ω α μ : Type*) where
  names : κ → Option μ
  objects : ω → Option μ
  views : List (View κ ω α μ)

variable {κ ω α μ : Type*} [DecidableEq κ] [DecidableEq ω]

namespace Sight

/-- Nothing is known, and nothing is looked at. -/
def blank : Sight κ ω α μ := ⟨fun _ => none, fun _ => none, []⟩

/-- What an event does.  An object or name made of another one stands for what that stood for. -/
def apply (s : Sight κ ω α μ) : Event κ ω α → Sight κ ω α μ
  | .opened k => { s with names := Function.update s.names k none }
  | .copied k d => { s with names := Function.update s.names d (s.names k) }
  | .exported o k => { s with names := Function.update s.names k (s.objects o) }
  | .created o => { s with objects := Function.update s.objects o none }
  | .imported k o => { s with objects := Function.update s.objects o (s.names k) }
  | .released o => { s with objects := Function.update s.objects o none }
  | .viewedName k a => { s with views := ⟨.inl k, a, s.names k⟩ :: s.views }
  | .viewedObject o a => { s with views := ⟨.inr o, a, s.objects o⟩ :: s.views }
  | .unviewed o => { s with views := s.views.filter fun v => decide (v.source ≠ .inr o) }

/-- The log `es`, newest first. -/
def run (s : Sight κ ω α μ) (es : List (Event κ ω α)) : Sight κ ω α μ :=
  es.foldr (fun e s => s.apply e) s

/-- The newest event comes last. -/
@[simp] theorem run_cons (s : Sight κ ω α μ) (e : Event κ ω α) (es : List (Event κ ω α)) :
    s.run (e :: es) = (s.run es).apply e := rfl

/-- Two logs, the older one first. -/
theorem run_append (s : Sight κ ω α μ) (es es' : List (Event κ ω α)) :
    s.run (es ++ es') = (s.run es').run es := List.foldr_append

/-- A name comes from outside, for the memory `m`. -/
def receive (s : Sight κ ω α μ) (k : κ) (m : μ) : Sight κ ω α μ :=
  { s with names := Function.update s.names k (some m) }

/-- Only the names that satisfy `open'` are left. -/
def restrict (s : Sight κ ω α μ) (open' : κ → Prop) [DecidablePred open'] : Sight κ ω α μ :=
  { s with names := fun k => if open' k then s.names k else none }

end Sight

/-! ## What stays

  Events that open no name that is in use, and make no object that is, change nothing about
  them. -/

/-- The event touches none of the names `S` and none of the objects `T`. -/
def Event.Spares (S : κ → Prop) (T : ω → Prop) : Event κ ω α → Prop
  | .opened k => ¬ S k
  | .copied _ d => ¬ S d
  | .exported _ k => ¬ S k
  | .created o => ¬ T o
  | .imported _ o => ¬ T o
  | .released o => ¬ T o
  | .viewedName _ _ => True
  | .viewedObject _ _ => True
  | .unviewed _ => True

omit [DecidableEq κ] [DecidableEq ω] in
/-- What spares some names and objects spares fewer of them. -/
theorem Event.Spares.mono {S S' : κ → Prop} {T T' : ω → Prop} {e : Event κ ω α}
    (h : e.Spares S' T') (hS : ∀ k, S k → S' k) (hT : ∀ o, T o → T' o) : e.Spares S T := by
  cases e with
  | opened k => exact fun hk => h (hS k hk)
  | copied k d => exact fun hk => h (hS d hk)
  | exported o k => exact fun hk => h (hS k hk)
  | created o => exact fun ho => h (hT o ho)
  | imported k o => exact fun ho => h (hT o ho)
  | released o => exact fun ho => h (hT o ho)
  | viewedName k a => trivial
  | viewedObject o a => trivial
  | unviewed o => trivial

/-- The names `S` and the objects `T` stand for what they stood for, and no view of a name is
    gone. -/
structure Keeps (S : κ → Prop) (T : ω → Prop) (s s' : Sight κ ω α μ) : Prop where
  names : ∀ k, S k → s'.names k = s.names k
  objects : ∀ o, T o → s'.objects o = s.objects o
  views : ∀ v ∈ s.views, ∀ k, v.source = .inl k → v ∈ s'.views

namespace Keeps

variable {S : κ → Prop} {T : ω → Prop} {s s' s'' : Sight κ ω α μ}

omit [DecidableEq κ] [DecidableEq ω] in
/-- Nothing has happened. -/
theorem refl : Keeps S T s s := ⟨fun _ _ => rfl, fun _ _ => rfl, fun _ hv _ _ => hv⟩

omit [DecidableEq κ] [DecidableEq ω] in
/-- Two stretches that keep the same names and objects are one. -/
theorem trans (h : Keeps S T s s') (h' : Keeps S T s' s'') : Keeps S T s s'' where
  names := fun k hk => (h'.names k hk).trans (h.names k hk)
  objects := fun o ho => (h'.objects o ho).trans (h.objects o ho)
  views := fun v hv k hk => h'.views v (h.views v hv k hk) k hk

omit [DecidableEq ω] in
/-- A change of a name that is none of `S`. -/
theorem of_names {k : κ} (hk : ¬ S k) (v : Option μ) :
    Keeps S T s { s with names := Function.update s.names k v } where
  names := by
    intro x hx
    have hne : x ≠ k := by
      rintro rfl
      exact hk hx
    exact Function.update_of_ne hne _ _
  objects := fun _ _ => rfl
  views := fun _ hv _ _ => hv

omit [DecidableEq κ] in
/-- A change of an object that is none of `T`. -/
theorem of_objects {o : ω} (ho : ¬ T o) (v : Option μ) :
    Keeps S T s { s with objects := Function.update s.objects o v } where
  names := fun _ _ => rfl
  objects := by
    intro x hx
    have hne : x ≠ o := by
      rintro rfl
      exact ho hx
    exact Function.update_of_ne hne _ _
  views := fun _ hv _ _ => hv

omit [DecidableEq κ] [DecidableEq ω] in
/-- Another view. -/
theorem of_view (v : View κ ω α μ) : Keeps S T s { s with views := v :: s.views } where
  names := fun _ _ => rfl
  objects := fun _ _ => rfl
  views := fun _ hv _ _ => List.mem_cons_of_mem _ hv

end Keeps

variable {S : κ → Prop} {T : ω → Prop}

/-- What an event spares, it keeps; one case for each event. -/
theorem Sight.apply_keeps (s : Sight κ ω α μ) {e : Event κ ω α} (h : e.Spares S T) :
    Keeps S T s (s.apply e) := by
  cases e with
  | opened k => exact .of_names h _
  | copied k d => exact .of_names h _
  | exported o k => exact .of_names h _
  | created o => exact .of_objects h _
  | imported k o => exact .of_objects h _
  | released o => exact .of_objects h _
  | viewedName k a => exact .of_view _
  | viewedObject o a => exact .of_view _
  | unviewed o =>
    refine ⟨fun _ _ => rfl, fun _ _ => rfl, fun v hv k hk => ?_⟩
    apply List.mem_filter.mpr
    refine ⟨hv, ?_⟩
    rw [hk]
    exact decide_eq_true (by simp)

/-- **A log keeps what each of its events spares.** -/
theorem Sight.run_keeps (s : Sight κ ω α μ) {es : List (Event κ ω α)}
    (h : ∀ e ∈ es, e.Spares S T) : Keeps S T s (s.run es) := by
  induction es with
  | nil => exact .refl
  | cons e es ih =>
    have hes := ih fun e' he' => h e' (List.mem_cons_of_mem e he')
    rw [Sight.run_cons]
    exact hes.trans (Sight.apply_keeps _ (h e List.mem_cons_self))

/-- A view of a name that the log spares shows what the name stands for. -/
theorem Sight.run_views (s : Sight κ ω α μ) {es : List (Event κ ω α)} {k : κ} {a : α} (hk : S k)
    (h : ∀ e ∈ es, e.Spares S T) (hview : .viewedName k a ∈ es) :
    (⟨.inl k, a, s.names k⟩ : View κ ω α μ) ∈ (s.run es).views := by
  induction es with
  | nil => cases hview
  | cons e es ih =>
    have hes : ∀ e' ∈ es, e'.Spares S T := fun e' he' => h e' (List.mem_cons_of_mem e he')
    rw [Sight.run_cons]
    rcases List.mem_cons.mp hview with rfl | hview
    · show _ ∈ (⟨.inl k, a, (s.run es).names k⟩ : View κ ω α μ) :: (s.run es).views
      rw [(s.run_keeps hes).names k hk]
      exact List.mem_cons_self
    · exact (Sight.apply_keeps _ (h e List.mem_cons_self)).views _ (ih hes hview) k rfl

omit [DecidableEq ω] in
/-- A name that is received was not in use. -/
theorem Sight.receive_keeps (s : Sight κ ω α μ) {k : κ} (hk : ¬ S k) (m : μ) :
    Keeps S T s (s.receive k m) := .of_names hk _

omit [DecidableEq κ] [DecidableEq ω] in
/-- Names that go are none of those that are followed. -/
theorem Sight.restrict_keeps (s : Sight κ ω α μ) {open' : κ → Prop} [DecidablePred open']
    (h : ∀ k, S k → open' k) : Keeps S T s (s.restrict open') where
  names := fun k hk => if_pos (h k hk)
  objects := fun _ _ => rfl
  views := fun _ hv _ _ => hv

end Views
