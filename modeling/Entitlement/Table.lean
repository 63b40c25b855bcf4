/-!
Finite tables: what every keyed store of the library is made of. A key has at most one entry, and
the lemmas say what each operation does to `find?`, the only view other modules reason with.
-/

namespace Entitlement

/-- Entries, no key twice. -/
structure Table (κ : Type) (α : Type) where
  entries : List (κ × α)
  nodup : (entries.map Prod.fst).Nodup

namespace Table

variable {κ α : Type}

def empty : Table κ α := ⟨[], List.Pairwise.nil⟩

instance : Inhabited (Table κ α) := ⟨empty⟩

instance : EmptyCollection (Table κ α) := ⟨empty⟩

def size (t : Table κ α) : Nat := t.entries.length

def isEmpty (t : Table κ α) : Bool := t.entries.isEmpty

/-- The entries that satisfy `p`. -/
def filter (t : Table κ α) (p : κ → α → Bool) : Table κ α where
  entries := t.entries.filter fun e => p e.1 e.2
  nodup := t.nodup.sublist (List.filter_sublist.map Prod.fst)

/-- Rewrites every entry. -/
def mapValues (t : Table κ α) (f : κ → α → α) : Table κ α where
  entries := t.entries.map fun e => (e.1, f e.1 e.2)
  nodup := by simpa [Function.comp_def] using t.nodup

variable [DecidableEq κ]

def find? (t : Table κ α) (k : κ) : Option α :=
  (t.entries.find? fun e => e.1 = k).map Prod.snd

def contains (t : Table κ α) (k : κ) : Bool := (t.find? k).isSome

def erase (t : Table κ α) (k : κ) : Table κ α := t.filter fun k' _ => k' ≠ k

/-- The entry of `k` becomes `a`, whether there was one or not. -/
def insert (t : Table κ α) (k : κ) (a : α) : Table κ α where
  entries := (t.erase k).entries ++ [(k, a)]
  nodup := by
    have absent : k ∉ (t.erase k).entries.map Prod.fst := by simp [erase, filter]
    simpa [List.nodup_append] using ⟨(t.erase k).nodup, fun a b hb e => absent (by
      subst e; exact List.mem_map.2 ⟨_, hb, rfl⟩)⟩

/-- Rewrites the entry of `k`, if there is one. -/
def modify (t : Table κ α) (k : κ) (f : α → α) : Table κ α :=
  match t.find? k with
  | some a => t.insert k (f a)
  | none => t

/-! ### The view -/

omit [DecidableEq κ] in
theorem find?_filter_list {l : List (κ × α)} {p q : κ × α → Bool} :
    (l.filter p).find? q = l.find? fun e => p e && q e := by
  induction l with
  | nil => rfl
  | cons e r ih => by_cases hp : p e <;> by_cases hq : q e <;> simp [hp, hq, ih]

@[simp] theorem find?_empty (k : κ) : (empty : Table κ α).find? k = none := rfl

@[simp] theorem find?_erase_self (t : Table κ α) (k : κ) : (t.erase k).find? k = none := by
  simp [find?, erase, filter]

theorem find?_erase_of_ne {t : Table κ α} {k k' : κ} (h : k' ≠ k) :
    (t.erase k).find? k' = t.find? k' := by
  unfold find? erase filter
  simp only [find?_filter_list]
  congr 2
  funext e
  by_cases he : e.1 = k' <;> simp [he, h]

@[simp] theorem find?_insert_self (t : Table κ α) (k : κ) (a : α) :
    (t.insert k a).find? k = some a := by
  have absent := find?_erase_self t k
  unfold find? at absent ⊢
  rw [Option.map_eq_none_iff] at absent
  simp [insert, List.find?_append, absent]

theorem find?_insert_of_ne {t : Table κ α} {k k' : κ} (a : α) (h : k' ≠ k) :
    (t.insert k a).find? k' = t.find? k' := by
  rw [← find?_erase_of_ne (t := t) h]
  simp [find?, insert, List.find?_append, h.symm]

theorem find?_insert (t : Table κ α) (k k' : κ) (a : α) :
    (t.insert k a).find? k' = if k' = k then some a else t.find? k' := by
  split
  · next h => rw [h, find?_insert_self]
  · next h => exact find?_insert_of_ne a h

theorem find?_erase (t : Table κ α) (k k' : κ) :
    (t.erase k).find? k' = if k' = k then none else t.find? k' := by
  split
  · next h => rw [h, find?_erase_self]
  · next h => exact find?_erase_of_ne h

theorem find?_modify (t : Table κ α) (k k' : κ) (f : α → α) :
    (t.modify k f).find? k' = if k' = k then (t.find? k').map f else t.find? k' := by
  unfold modify
  split
  · next a h => rw [find?_insert]; split <;> simp_all
  · next h => split <;> simp_all

theorem find?_mapValues (t : Table κ α) (f : κ → α → α) (k : κ) :
    (t.mapValues f).find? k = (t.find? k).map (f k) := by
  have mapped (l : List (κ × α)) :
      ((l.map fun e => (e.1, f e.1 e.2)).find? fun e => e.1 = k).map Prod.snd =
        ((l.find? fun e => e.1 = k).map Prod.snd).map (f k) := by
    induction l with
    | nil => rfl
    | cons e r ih =>
      rw [List.map_cons, List.find?_cons, List.find?_cons]
      by_cases h : e.1 = k
      · simp [h]
      · simpa [h] using ih
  exact mapped t.entries

theorem find?_eq_some_iff {t : Table κ α} {k : κ} {a : α} : t.find? k = some a ↔ (k, a) ∈ t.entries := by
  have listed {l : List (κ × α)} (nodup : (l.map Prod.fst).Nodup) :
      (l.find? fun e => e.1 = k).map Prod.snd = some a ↔ (k, a) ∈ l := by
    induction l with
    | nil => simp
    | cons e r ih =>
      obtain ⟨absent, rest⟩ := List.nodup_cons.1 nodup
      rw [List.find?_cons, List.mem_cons, ← ih rest]
      by_cases h : e.1 = k
      · subst h
        have gone : r.find? (fun e' => e'.1 = e.1) = none := by
          refine List.find?_eq_none.2 fun e' member same => absent ?_
          exact of_decide_eq_true same ▸ List.mem_map_of_mem member
        simp [gone, Prod.ext_iff, @eq_comm _ a]
      · simp [h, Prod.ext_iff, Ne.symm h]
  exact listed t.nodup

theorem find?_filter (t : Table κ α) (p : κ → α → Bool) (k : κ) :
    (t.filter p).find? k = (t.find? k).filter (p k) := by
  refine Option.ext fun a => ?_
  rw [Option.filter_eq_some_iff, find?_eq_some_iff, find?_eq_some_iff]
  exact List.mem_filter

theorem mem_keys {t : Table κ α} {k : κ} : k ∈ t.entries.map Prod.fst ↔ (t.find? k).isSome := by
  rw [find?, Option.isSome_map, List.find?_isSome, List.mem_map]
  simp only [decide_eq_true_eq]

end Table

end Entitlement
