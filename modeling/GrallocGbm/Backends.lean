/-
  The backend objects of the mapper and of the allocator (`fetchBackendGrallocGbm`,
  `fetchBackendDmaBuf`, `selectBackendByType`).

  Each backend is an object that is shared by all instances of a service and all of its threads,
  made by the first that needs it: `fetchBackend...` asks a static weak pointer under a static
  mutex.  A call to `selectBackend` holds the object it has fetched in a local variable, `mBackend`
  holds another reference, and an object whose last reference goes is deleted, to be made anew
  later.

  The machine is `Singleton`; here are the programs the threads run on it.  Each instance of a
  mapper or an allocator is a slot, its `mBackend`; a thread fetches into its variable, stores the
  variable into a slot, and drops it at the end of the function.  The allocator's selection fetches
  one object, asks it whether it supports the descriptor, and fetches the other if not; what the
  backends answer is an argument of the program, since asking does not depend on who else holds the
  object.

  `backends_singletons` is the result, for any number of threads and instances and any order of
  steps: no two live objects of a type, what an `mBackend` holds is of a type that some call on its
  instance chose, and no thread waits for a mutex in vain.

  An assignment to `mBackend` is one step of the machine.  The source assigns a `shared_ptr` without
  holding anything, which two threads of one instance may do at once; what becomes of the pointer
  then is not said here.  The fetching functions themselves are under their mutexes.

  The other modules have `mBackend` as the type of a backend.  `Mapper.selectProgram_alone` and
  `Allocator.selectProgram_alone` are the connection: it is the type of the object.
-/
import GrallocGbm.Allocator
import GrallocGbm.Lib.Singleton
import GrallocGbm.Mapper

namespace GrallocGbm

open Singleton

/-! ## The programs

  The functions of the source as sequences of fetches and stores: a selection of the mapper
  fetches one backend and stores it, one of the allocator fetches up to two. -/

/-- `GrallocGenericMapperV5::selectBackend` on the instance `k`. -/
def Mapper.selectProgram {S : Type} (k : S) (buffer : NativeHandle) :
    List (Instr MapperBackendType S) :=
  [.fetch (routedTo (grallocHandle buffer)), .store k, .drop]

/-- `GrallocGenericAllocatorV2::selectBackend` on the instance `k`, with what the two backends answer
    when they are asked.  The second object takes the place of the first in the variable. -/
def Allocator.selectProgram {S : Type} (k : S) (gbm dmabuf : Bool) :
    List (Instr AllocatorBackendType S) :=
  .fetch .allocatorGrallocGbm ::
    if gbm then [.store k, .drop]
    else .fetch .allocatorGrallocDmabuf :: if dmabuf then [.store k, .drop] else [.drop]

/-- `GrallocGenericAllocatorV2::init`. -/
def Allocator.initProgram {S : Type} : List (Instr AllocatorBackendType S) :=
  [.fetch .allocatorGrallocDmabuf, .drop, .fetch .allocatorGrallocGbm, .drop]

/-- What a thread of the allocator comes to `selectBackendByType` for. -/
inductive AllocatorFetches (S : Type) where
  | init
  | select (k : S) (gbm dmabuf : Bool)

/-- The program of each. -/
def AllocatorFetches.program {S : Type} : AllocatorFetches S → List (Instr AllocatorBackendType S)
  | .init => Allocator.initProgram
  | .select k gbm dmabuf => Allocator.selectProgram k gbm dmabuf

/-! ## One call

  Run without interruption, a program leaves in the member what the sequential model does. -/

section

variable {S T : Type} [DecidableEq S] [DecidableEq T] [Fintype S] [Fintype T] {t : T} {k : S}

/-- A selection that nobody interrupts leaves in `mBackend` an object of the type that
    `Mapper.selectBackend` leaves there. -/
theorem Mapper.selectProgram_alone {s : State MapperBackendType S T} (m : Mapper)
    (buffer : NativeHandle) {todo : List (Instr MapperBackendType S)}
    (hpc : (s.threads t).pc = .idle) (htodo : (s.threads t).todo = selectProgram k buffer ++ todo)
    (hm : ∀ backend, s.mutex backend = none) :
    ∃ n, let s' := (List.replicate n t).foldl step s
      (s'.slots k).map Prod.fst = (m.selectBackend buffer).mBackend ∧
        (s'.threads t).todo = todo := by
  obtain ⟨n, i, hthread, -, -⟩ := fetch_alone hpc htodo (hm _)
  refine ⟨n + 2, ?_⟩
  rw [List.replicate_add, List.foldl_append]
  generalize (List.replicate n t).foldl step s = s₁ at hthread
  simp [step, hthread, State.set, Mapper.selectBackend]

/-- The same for the allocator: if no backend supports the descriptor, `mBackend` stays. -/
theorem Allocator.selectProgram_alone {s : State AllocatorBackendType S T} (cfg : BuildConfig)
    (env : Env) (descriptor : BufferDescriptorInfo) (a : Allocator)
    {todo : List (Instr AllocatorBackendType S)} (hpc : (s.threads t).pc = .idle)
    (htodo : (s.threads t).todo = selectProgram k
      (decide (AllocatorBackendGrallocGbm.isSupported cfg env descriptor a.proc = .ok true))
      (decide (AllocatorBackendDmaBuf.isSupported descriptor = .ok true)) ++ todo)
    (hm : ∀ backend, s.mutex backend = none) (hk : (s.slots k).map Prod.fst = a.mBackend) :
    ∃ n, let s' := (List.replicate n t).foldl step s
      (s'.slots k).map Prod.fst = (a.selectBackend cfg env descriptor).2.mBackend ∧
        (s'.threads t).todo = todo := by
  unfold Allocator.selectBackend
  by_cases hgbm : AllocatorBackendGrallocGbm.isSupported cfg env descriptor a.proc = .ok true
  · have hprogram : (s.threads t).todo = .fetch .allocatorGrallocGbm :: .store k :: .drop :: todo := by
      rw [htodo]
      simp [selectProgram, hgbm]
    obtain ⟨n, i, hthread, -, -⟩ := fetch_alone hpc hprogram (hm _)
    refine ⟨n + 2, ?_⟩
    rw [List.replicate_add, List.foldl_append]
    generalize (List.replicate n t).foldl step s = s₁ at hthread
    simp [step, hthread, State.set, hgbm]
  -- the second object is fetched
  obtain ⟨rest, hprogram, hrest⟩ : ∃ rest, (s.threads t).todo
      = .fetch .allocatorGrallocGbm :: .fetch .allocatorGrallocDmabuf :: rest ∧
      rest = (if AllocatorBackendDmaBuf.isSupported descriptor = .ok true then [.store k, .drop]
        else [.drop]) ++ todo := by
    refine ⟨_, ?_, rfl⟩
    rw [htodo]
    simp [selectProgram, hgbm]
  obtain ⟨n, i, hthread, hmutex, hslots⟩ := fetch_alone hpc hprogram (hm _)
  generalize hs₁ : (List.replicate n t).foldl step s = s₁ at hthread hmutex hslots
  obtain ⟨n', i', hthread', -, hslots'⟩ := fetch_alone (s := s₁) (by rw [hthread]) (by rw [hthread])
    (by rw [hmutex]; exact hm _)
  by_cases hdmabuf : AllocatorBackendDmaBuf.isSupported descriptor = .ok true
  · refine ⟨n + (n' + 2), ?_⟩
    rw [List.replicate_add, List.foldl_append, hs₁, List.replicate_add, List.foldl_append]
    generalize (List.replicate n' t).foldl step s₁ = s₂ at hthread'
    simp [step, hthread', State.set, hgbm, hdmabuf, hrest]
  · refine ⟨n + (n' + 1), ?_⟩
    rw [List.replicate_add, List.foldl_append, hs₁, List.replicate_add, List.foldl_append]
    generalize (List.replicate n' t).foldl step s₁ = s₂ at hthread' hslots'
    simp [step, hthread', State.set, hgbm, hdmabuf, hrest, hslots', hslots, hk]

end

/-! ## Any calls -/

/-- Whatever the schedule: no two live objects of one type, no two threads inside one of the fetching
    functions, and a continuation in which all threads come to their ends. -/
structure SharedBackends {B S T : Type} [DecidableEq B] [DecidableEq S] [DecidableEq T] [Fintype S]
    [Fintype T] (todo : T → List (Instr B S)) (l : List T) : Prop where
  unique : ∀ b i j, (l.foldl step (State.start todo)).Alive (b, i) →
    (l.foldl step (State.start todo)).Alive (b, j) → i = j
  exclusive : ∀ b t t', ((l.foldl step (State.start todo)).threads t).pc.inside = some b →
    ((l.foldl step (State.start todo)).threads t').pc.inside = some b → t = t'
  finishes : ∃ rest, ∀ t, (((l ++ rest).foldl step (State.start todo)).threads t).todo = []

/-- The machine guarantees it of any programs. -/
theorem sharedBackends {B S T : Type} [DecidableEq B] [DecidableEq S] [DecidableEq T] [Fintype S]
    [Fintype T] (todo : T → List (Instr B S)) (l : List T) : SharedBackends todo l where
  unique := fun _ _ _ hi hj => run_unique todo l hi hj
  exclusive := fun _ _ _ ht ht' => ((Ok.start todo).run l).exclusive ht ht'
  finishes := run_finishes todo l

/-- The first backend that answers that it supports the descriptor. -/
def FirstToSupport (gbm dmabuf : Bool) : AllocatorBackendType → Prop
  | .allocatorGrallocGbm => gbm = true
  | .allocatorGrallocDmabuf => gbm = false ∧ dmabuf = true

section

variable {S T : Type} [DecidableEq S] [DecidableEq T] [Fintype S] [Fintype T]
  (mapperCalls : T → List (S × NativeHandle)) (allocatorCalls : T → List (AllocatorFetches S))

/-- What the threads of a mapper run: selections on its instances, with any handles. -/
def mapperPrograms (t : T) : List (Instr MapperBackendType S) :=
  (mapperCalls t).flatMap fun call => Mapper.selectProgram call.1 call.2

/-- What the threads of an allocator run. -/
def allocatorPrograms (t : T) : List (Instr AllocatorBackendType S) :=
  (allocatorCalls t).flatMap AllocatorFetches.program

/-- The type was chosen by a call on the instance `k` of the mapper. -/
def MapperChose (k : S) (backend : MapperBackendType) : Prop :=
  ∃ t buffer, (k, buffer) ∈ mapperCalls t ∧ routedTo (grallocHandle buffer) = backend

/-- The same for the allocator. -/
def AllocatorChose (k : S) (backend : AllocatorBackendType) : Prop :=
  ∃ t gbm dmabuf, .select k gbm dmabuf ∈ allocatorCalls t ∧ FirstToSupport gbm dmabuf backend

omit [DecidableEq S] [DecidableEq T] [Fintype S] [Fintype T] in
/-- What a selection of the mapper stores is of the type it chose. -/
theorem mapperPrograms_storesOk (t : T) :
    StoresOk (MapperChose mapperCalls) none (mapperPrograms mapperCalls t) := by
  have h : ∀ calls : List (S × NativeHandle), calls ⊆ mapperCalls t → ∀ v,
      StoresOk (MapperChose mapperCalls) v
        (calls.flatMap fun call => Mapper.selectProgram call.1 call.2) := by
    intro calls
    induction calls with
    | nil => exact fun _ _ => trivial
    | cons call calls ih =>
      intro hsub v
      refine ⟨?_, ih (fun x hx => hsub (List.mem_cons_of_mem _ hx)) none⟩
      rintro backend ⟨⟩
      exact ⟨t, call.2, hsub List.mem_cons_self, rfl⟩
  exact h _ (List.Subset.refl _) none

omit [DecidableEq S] [DecidableEq T] [Fintype S] [Fintype T] in
/-- So is what one of the allocator stores, and what it fetched only to ask is stored nowhere. -/
theorem allocatorPrograms_storesOk (t : T) :
    StoresOk (AllocatorChose allocatorCalls) none (allocatorPrograms allocatorCalls t) := by
  have h : ∀ calls : List (AllocatorFetches S), calls ⊆ allocatorCalls t → ∀ v,
      StoresOk (AllocatorChose allocatorCalls) v (calls.flatMap AllocatorFetches.program) := by
    intro calls
    induction calls with
    | nil => exact fun _ _ => trivial
    | cons call calls ih =>
      intro hsub v
      have hrest := ih (fun x hx => hsub (List.mem_cons_of_mem _ hx)) none
      rw [List.flatMap_cons]
      cases call with
      | init => exact hrest
      | select k gbm dmabuf =>
        have hcall : ∀ backend, FirstToSupport gbm dmabuf backend →
            AllocatorChose allocatorCalls k backend :=
          fun backend hb => ⟨t, gbm, dmabuf, hsub List.mem_cons_self, hb⟩
        cases gbm with
        | true =>
          refine ⟨?_, hrest⟩
          rintro backend ⟨⟩
          exact hcall .allocatorGrallocGbm rfl
        | false =>
          cases dmabuf with
          | true =>
            refine ⟨?_, hrest⟩
            rintro backend ⟨⟩
            exact hcall .allocatorGrallocDmabuf ⟨rfl, rfl⟩
          | false => exact hrest
  exact h _ (List.Subset.refl _) none

/-- **The backends are singletons.**  Any number of threads make any calls on any number of mappers,
    or of allocators, and take their steps in any order: there is at most one live backend of a
    type, and what an `mBackend` holds is of a type that a call on its instance chose.  An
    assignment to `mBackend` is one atomic step here; in the source it is not synchronised. -/
theorem backends_singletons (l : List T) :
    (SharedBackends (mapperPrograms mapperCalls) l ∧
      ∀ k backend i, (l.foldl step (State.start (mapperPrograms mapperCalls))).slots k
        = some (backend, i) → MapperChose mapperCalls k backend) ∧
    (SharedBackends (allocatorPrograms allocatorCalls) l ∧
      ∀ k backend i, (l.foldl step (State.start (allocatorPrograms allocatorCalls))).slots k
        = some (backend, i) → AllocatorChose allocatorCalls k backend) :=
  ⟨⟨sharedBackends _ l, fun _ _ _ hk => run_slots (mapperPrograms_storesOk mapperCalls) l hk⟩,
    sharedBackends _ l, fun _ _ _ hk => run_slots (allocatorPrograms_storesOk allocatorCalls) l hk⟩

end

/-- Two threads select for two mappers at once: the second waits, and gets the object of the first. -/
example :
    let s := [0, 1, 0, 0, 1, 0, 0, 0, 1, 1, 1, 1, 1].foldl step (State.start (T := Fin 2)
      (mapperPrograms fun t : Fin 2 => [(t, rgbaHandle 5)]))
    s.slots 0 = some (.mapperGrallocGbm, 0) ∧ s.slots 1 = s.slots 0 := by
  decide

end GrallocGbm
