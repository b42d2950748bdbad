/-
  A table as a list of records, looked up by a key field and removed by an identity field.

  This is the shape of an intrusive hash table: records are added without a check for duplicates,
  a lookup returns the first record with the key, and a removal takes out one given record,
  recognised by its address.  Such a list is more than a finite map, and the code that uses it does
  not always notice: a key may be there twice, the later record hides the earlier one, and removing
  one of them brings the other back.

  The lemmas say when the list does behave like a map from keys to records.  There are two
  conditions, each of its own use:

  * distinct *keys* — every record is found under its key (`lookup_eq_some_of_mem`), and is the only
    one with it (`filter_key_eq`, `eq_of_key_eq`); after the removal of what was found under a key,
    nothing is found under it (`lookup_remove_self`);
  * distinct *identities* — a removal takes out one record and disturbs no other lookup
    (`lookup_remove_found`, `remove_append_cons`).

  Under both, removing the record that was found is removing the key (`remove_found`), which is how
  a table is removed from when one has the key only.

  Lists are newest first, as they are built with `cons`; `reverse_remove` is for programs that go
  through their table from its oldest record.
-/
import Mathlib.Data.List.Nodup

namespace Keyed

variable {α κ ν : Type*} [DecidableEq κ] [DecidableEq ν]

/-- The first record of `l` whose key is `k`. -/
def lookup (key : α → κ) (k : κ) (l : List α) : Option α := l.find? (fun a => decide (key a = k))

/-- `l` without the record(s) identified by `i`. -/
def remove (ident : α → ν) (i : ν) (l : List α) : List α :=
  l.filter (fun a => decide (ident a ≠ i))

variable {key : α → κ} {ident : α → ν} {l : List α} {a : α} {k : κ}

/-- Nothing is found exactly if no record has the key. -/
theorem lookup_eq_none : lookup key k l = none ↔ ∀ a ∈ l, key a ≠ k := by
  simp [lookup]

/-- What is found is in the table, -/
theorem mem_of_lookup (h : lookup key k l = some a) : a ∈ l := List.mem_of_find?_eq_some h

/-- and has the key it was found under. -/
theorem key_of_lookup (h : lookup key k l = some a) : key a = k := by
  have := List.find?_some h
  simpa using this

/-- The newest record is looked at first. -/
theorem lookup_cons (b : α) :
    lookup key k (b :: l) = if key b = k then some b else lookup key k l := by
  unfold lookup
  by_cases h : key b = k <;> simp [h]

/-- A change of the records that keeps their keys. -/
theorem lookup_map {f : α → α} (hf : ∀ a, key (f a) = key a) :
    lookup key k (l.map f) = (lookup key k l).map f := by
  unfold lookup
  rw [List.find?_map]
  congr 2
  funext a
  exact congrArg (fun i => decide (i = k)) (hf a)

/-- With distinct keys, every record is found under its own key. -/
theorem lookup_eq_some_of_mem (hn : (l.map key).Nodup) (ha : a ∈ l) :
    lookup key (key a) l = some a := by
  induction l with
  | nil => cases ha
  | cons b t ih =>
    rw [List.map_cons, List.nodup_cons] at hn
    rw [lookup_cons]
    rcases List.mem_cons.mp ha with rfl | hat
    · rw [if_pos rfl]
    · have hne : key b ≠ key a := fun he => hn.1 (he ▸ List.mem_map_of_mem hat)
      rw [if_neg hne]
      exact ih hn.2 hat

/-- With distinct keys, exactly one record has the key of a given one. -/
theorem filter_key_eq (hn : (l.map key).Nodup) (ha : a ∈ l) :
    l.filter (fun b => decide (key b = key a)) = [a] := by
  induction l with
  | nil => cases ha
  | cons b t ih =>
    rw [List.map_cons, List.nodup_cons] at hn
    rcases List.mem_cons.mp ha with rfl | hat
    · have hnone : t.filter (fun b => decide (key b = key a)) = [] := by
        rw [List.filter_eq_nil_iff]
        intro b hb hk
        exact hn.1 (of_decide_eq_true hk ▸ List.mem_map_of_mem hb)
      rw [List.filter_cons_of_pos (by simp), hnone]
    · have hne : key b ≠ key a := fun he => hn.1 (he ▸ List.mem_map_of_mem hat)
      rw [List.filter_cons_of_neg (by simpa using hne), ih hn.2 hat]

/-- A record added keeps the keys distinct exactly if its key was not there. -/
theorem nodup_keys_cons :
    ((a :: l).map key).Nodup ↔ lookup key (key a) l = none ∧ (l.map key).Nodup := by
  have hmem : key a ∉ l.map key ↔ lookup key (key a) l = none := by
    rw [lookup_eq_none, List.mem_map]
    constructor
    · exact fun h b hb heq => h ⟨b, hb, heq⟩
    · rintro h ⟨b, hb, heq⟩
      exact h b hb heq
  rw [List.map_cons, List.nodup_cons, hmem]

/-- Two records of a table with distinct keys and the same key are the same record. -/
theorem eq_of_key_eq (hn : (l.map key).Nodup) {b : α} (ha : a ∈ l) (hb : b ∈ l)
    (h : key a = key b) : a = b := by
  have h1 := lookup_eq_some_of_mem hn ha
  rw [h, lookup_eq_some_of_mem hn hb] at h1
  exact (Option.some.inj h1).symm

/-! ## Removal

  Entries are removed by an identity, or by their key; both as a filter, with what a lookup
  gives afterwards. -/

/-- A removal leaves the records of other identities. -/
theorem mem_remove {i : ν} : a ∈ remove ident i l ↔ a ∈ l ∧ ident a ≠ i := by
  simp [remove]

omit [DecidableEq κ] in
/-- It makes no two keys equal that were not. -/
theorem map_remove_nodup {i : ν} (hn : (l.map key).Nodup) : ((remove ident i l).map key).Nodup :=
  hn.sublist (List.filter_sublist.map key)

/-- Removing the record found under `k` leaves no record with that key. -/
theorem lookup_remove_self (hn : (l.map key).Nodup) (h : lookup key k l = some a) :
    lookup key k (remove ident (ident a) l) = none := by
  rw [lookup_eq_none]
  intro b hb hk
  obtain ⟨hbl, hbi⟩ := mem_remove.mp hb
  have hab : b = a :=
    eq_of_key_eq hn hbl (mem_of_lookup h) (by rw [hk, key_of_lookup h])
  exact hbi (by rw [hab])

/-- Removing a record does not disturb the lookup of another key. -/
theorem lookup_remove_of_ne {i : ν} (h : ∀ a ∈ l, ident a = i → key a ≠ k) :
    lookup key k (remove ident i l) = lookup key k l := by
  induction l with
  | nil => rfl
  | cons b t ih =>
    have iht := ih (fun a ha => h a (List.mem_cons_of_mem b ha))
    by_cases hb : ident b = i
    · have hk : key b ≠ k := h b List.mem_cons_self hb
      have hrem : remove ident i (b :: t) = remove ident i t := by simp [remove, hb]
      rw [hrem, iht, lookup_cons, if_neg hk]
    · have hrem : remove ident i (b :: t) = b :: remove ident i t := by simp [remove, hb]
      rw [hrem, lookup_cons, lookup_cons, iht]

/-- With distinct identities, removing the record found under one key leaves the lookups of all
    others as they were. -/
theorem lookup_remove_found (hn : (l.map ident).Nodup) (h : lookup key k l = some a) {k' : κ}
    (hk : k' ≠ k) : lookup key k' (remove ident (ident a) l) = lookup key k' l := by
  apply lookup_remove_of_ne
  intro b hb hident hkey
  have hab : b = a := eq_of_key_eq hn hb (mem_of_lookup h) hident
  exact hk (by rw [← hkey, hab, key_of_lookup h])

/-- Removing all records with a key. -/
theorem lookup_remove_key : lookup key k (remove key k l) = none := by
  rw [lookup_eq_none]
  exact fun b hb => (mem_remove.mp hb).2

/-- Removing a key, for all lookups at once. -/
theorem lookup_remove_key_eq (k' : κ) :
    lookup key k' (remove key k l) = if k' = k then none else lookup key k' l := by
  split
  · rename_i h
    rw [h, lookup_remove_key]
  · rename_i h
    apply lookup_remove_of_ne
    intro a _ hk hk'
    exact h (hk'.symm.trans hk)

/-- With distinct keys and identities, removing the record found under a key removes the key. -/
theorem remove_found (hkeys : (l.map key).Nodup) (hidents : (l.map ident).Nodup)
    (h : lookup key k l = some a) : remove ident (ident a) l = remove key k l := by
  have ha := mem_of_lookup h
  apply List.filter_congr
  intro b hb
  have hiff : ident b = ident a ↔ key b = k := by
    constructor
    · intro hident
      rw [eq_of_key_eq hidents hb ha hident, key_of_lookup h]
    · intro hkey
      rw [eq_of_key_eq hkeys hb ha (hkey.trans (key_of_lookup h).symm)]
  exact decide_eq_decide.mpr (not_congr hiff)

omit [DecidableEq κ] in
/-- The order of the records does not matter to it. -/
theorem reverse_remove {i : ν} : (remove ident i l).reverse = remove ident i l.reverse :=
  List.filter_reverse.symm

/-- Removing an identity the list does not hold changes nothing. -/
theorem remove_of_forall_ne {i : ν} (h : ∀ a ∈ l, ident a ≠ i) : remove ident i l = l := by
  rw [remove, List.filter_eq_self]
  intro a ha
  simpa using h a ha

omit [DecidableEq κ] in
/-- With distinct identities, removing one record takes it out from where it is. -/
theorem remove_append_cons {r : List α} (hn : ((l ++ a :: r).map ident).Nodup) :
    remove ident (ident a) (l ++ a :: r) = l ++ r := by
  rw [List.map_append, List.map_cons, List.nodup_middle, List.nodup_cons, ← List.map_append] at hn
  have hne : ∀ b ∈ l ++ r, ident b ≠ ident a := fun b hb heq => hn.1 (heq ▸ List.mem_map_of_mem hb)
  have hcons : remove ident (ident a) (a :: r) = remove ident (ident a) r := by simp [remove]
  have hsplit : ∀ l' : List α, remove ident (ident a) (l ++ l')
      = remove ident (ident a) l ++ remove ident (ident a) l' := fun l' => List.filter_append ..
  rw [hsplit, hcons, ← hsplit, remove_of_forall_ne hne]

omit [DecidableEq κ] in
/-- It makes the table shorter by one. -/
theorem length_remove (hn : (l.map ident).Nodup) (ha : a ∈ l) :
    (remove ident (ident a) l).length + 1 = l.length := by
  obtain ⟨s, r, rfl⟩ := List.append_of_mem ha
  rw [remove_append_cons hn, List.length_append, List.length_append, List.length_cons]
  omega

end Keyed
