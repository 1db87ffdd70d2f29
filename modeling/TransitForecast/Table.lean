/-!
# TransitForecast — tables

Finite maps with a view as a function, `Table.find?`. The entries stand newest first and no key
occurs twice, which is part of the type.

## Results

* `find?_eq_some_iff` — the view shows exactly the entries.
* `find?_insert`, `find?_erase`, `find?_filter` — what each operation does to the view.
* `perm_erase`, `size_erase` — erasing takes away the one entry of a key, if there is one.
-/

namespace TransitForecast

/-- A finite map from keys to values. -/
structure Table (κ : Type) (α : Type) where
  entries : List (κ × α)
  nodup : (entries.map Prod.fst).Nodup

namespace Table

variable {κ α β : Type}

/-- The table without entries. -/
def empty : Table κ α := ⟨[], List.nodup_nil⟩

instance : Inhabited (Table κ α) := ⟨empty⟩

/-- Number of entries. -/
def size (t : Table κ α) : Nat := t.entries.length

/-- Whether there is no entry. -/
def isEmpty (t : Table κ α) : Bool := t.entries.isEmpty

/-- Keeps the entries that a test accepts. -/
def filter (p : κ → α → Bool) (t : Table κ α) : Table κ α :=
  ⟨t.entries.filter fun e => p e.1 e.2,
    t.nodup.sublist (List.Sublist.map _ List.filter_sublist)⟩

variable [DecidableEq κ]

/-- The value under a key. -/
def find? (t : Table κ α) (k : κ) : Option α := (t.entries.find? fun e => e.1 = k).map Prod.snd

/-- Whether a key has a value. -/
def contains (t : Table κ α) (k : κ) : Bool := (t.find? k).isSome

/-- Removes a key. -/
def erase (t : Table κ α) (k : κ) : Table κ α := t.filter fun k' _ => k' ≠ k

theorem not_mem_keys_erase (t : Table κ α) (k : κ) : k ∉ (t.erase k).entries.map Prod.fst := by
  simp [erase, filter]

/-- Puts a value under a key, in place of any other. -/
def insert (t : Table κ α) (k : κ) (v : α) : Table κ α :=
  ⟨(k, v) :: (t.erase k).entries,
    List.nodup_cons.2 ⟨not_mem_keys_erase t k, (t.erase k).nodup⟩⟩

/-- Puts a value under a key that has none yet. -/
def insertNew (t : Table κ α) (k : κ) (v : α) : Table κ α :=
  if t.contains k then t else t.insert k v

/-- The table of a list of entries, of which the last counts under each key. -/
def ofList (entries : List (κ × α)) : Table κ α :=
  entries.foldl (fun t e => t.insert e.1 e.2) empty

/-- The values. -/
def values (t : Table κ α) : List α := t.entries.map Prod.snd

@[simp] theorem find?_empty (k : κ) : (empty : Table κ α).find? k = none := rfl

theorem find?_filter_key (t : Table κ α) (p : κ → Bool) (k : κ) :
    (t.filter fun k' _ => p k').find? k = if p k then t.find? k else none := by
  obtain ⟨entries, nodup⟩ := t
  simp only [find?, filter]
  clear nodup
  induction entries with
  | nil => simp
  | cons e rest ih =>
    rw [List.filter_cons, List.find?_cons]
    by_cases hk : e.1 = k
    · subst hk
      cases hp : p e.1 with
      | true => simp
      | false => simpa [hp] using ih
    · cases hp : p e.1 with
      | true => simpa [hk, List.find?_cons] using ih
      | false => simpa [hk] using ih

/-- The view shows exactly the entries. -/
theorem find?_eq_some_iff {t : Table κ α} {k : κ} {v : α} :
    t.find? k = some v ↔ (k, v) ∈ t.entries := by
  obtain ⟨entries, nodup⟩ := t
  simp only [find?]
  induction entries with
  | nil => simp
  | cons e rest ih =>
    rw [List.map_cons, List.nodup_cons] at nodup
    rw [List.find?_cons, List.mem_cons]
    by_cases hk : e.1 = k
    · -- no later entry has the key
      have hRest : (k, v) ∉ rest := fun h =>
        nodup.1 (hk ▸ List.mem_map_of_mem (f := Prod.fst) h)
      simp [hk, hRest, Prod.ext_iff, eq_comm]
    · have hHead : ¬ (k, v) = e := fun h => hk (by rw [← h])
      simpa [hk, hHead] using ih nodup.2

theorem find?_eq_none_iff {t : Table κ α} {k : κ} :
    t.find? k = none ↔ k ∉ t.entries.map Prod.fst := by
  rw [find?, Option.map_eq_none_iff, List.find?_eq_none, List.mem_map]
  constructor
  · rintro h ⟨e, he, hk⟩
    exact h e he (decide_eq_true hk)
  · intro h e he hk
    exact h ⟨e, he, of_decide_eq_true hk⟩

theorem mem_keys_iff {t : Table κ α} {k : κ} :
    k ∈ t.entries.map Prod.fst ↔ ∃ v, t.find? k = some v := by
  constructor
  · intro h
    obtain ⟨e, he, rfl⟩ := List.mem_map.1 h
    exact ⟨e.2, find?_eq_some_iff.2 he⟩
  · rintro ⟨v, h⟩
    exact List.mem_map_of_mem (find?_eq_some_iff.1 h)

/-- A filter keeps what the test accepts. -/
theorem find?_filter (t : Table κ α) (p : κ → α → Bool) (k : κ) :
    (t.filter p).find? k = (t.find? k).filter (p k) := by
  apply Option.ext
  intro v
  rw [find?_eq_some_iff, Option.filter_eq_some_iff, find?_eq_some_iff, filter, List.mem_filter]

@[simp] theorem find?_erase (t : Table κ α) (k k' : κ) :
    (t.erase k).find? k' = if k' = k then none else t.find? k' := by
  rw [erase, find?_filter_key t (fun j => decide (j ≠ k)) k']
  by_cases h : k' = k <;> simp [h]

@[simp] theorem find?_insert (t : Table κ α) (k k' : κ) (v : α) :
    (t.insert k v).find? k' = if k' = k then some v else t.find? k' := by
  have h : (t.insert k v).find? k' =
      if k = k' then some v else (t.erase k).find? k' := by
    simp only [find?, insert, List.find?_cons]
    by_cases hk : k = k' <;> simp [hk]
  rw [h, find?_erase]
  by_cases hk : k' = k
  · simp [hk]
  · rw [if_neg fun e => hk e.symm]
    simp [hk]

theorem find?_insert_self (t : Table κ α) (k : κ) (v : α) : (t.insert k v).find? k = some v := by
  rw [find?_insert, if_pos rfl]

/-- A key without a value has no entry to erase. -/
theorem erase_of_not_found {t : Table κ α} {k : κ} (h : t.find? k = none) : t.erase k = t := by
  have hKeep : ∀ e ∈ t.entries, decide (e.1 ≠ k) = true := by
    intro e he
    refine decide_eq_true fun hk => find?_eq_none_iff.1 h ?_
    exact hk ▸ List.mem_map_of_mem he
  rw [erase, filter]
  congr 1
  exact List.filter_eq_self.2 hKeep

/-- The entry of a key, if there is one, and the others. -/
theorem perm_erase (t : Table κ α) (k : κ) :
    t.entries.Perm (((t.find? k).map fun v => (k, v)).toList ++ (t.erase k).entries) := by
  have hOne : t.entries.filter (fun e => e.1 = k) = ((t.find? k).map fun v => (k, v)).toList := by
    obtain ⟨entries, nodup⟩ := t
    simp only [find?]
    induction entries with
    | nil => rfl
    | cons e rest ih =>
      rw [List.map_cons, List.nodup_cons] at nodup
      rw [List.filter_cons, List.find?_cons]
      by_cases hk : e.1 = k
      · -- no later entry has the key
        have hRest : rest.filter (fun e => e.1 = k) = [] := by
          rw [List.filter_eq_nil_iff]
          intro e' he' hEq
          refine nodup.1 ?_
          rw [hk, ← of_decide_eq_true hEq]
          exact List.mem_map_of_mem he'
        simp [hk, hRest, Prod.ext_iff]
      · simpa [hk] using ih nodup.2
  have hOthers : t.entries.filter (fun e => !decide (e.1 = k)) = (t.erase k).entries := by
    simp only [erase, filter, ne_eq, decide_not]
  rw [← hOne, ← hOthers]
  exact (List.filter_append_perm _ _).symm

/-- Erasing takes away one entry. -/
theorem size_erase {t : Table κ α} {k : κ} {v : α} (h : t.find? k = some v) :
    (t.erase k).size + 1 = t.size := by
  have hLength := (t.perm_erase k).length_eq
  rw [h, List.length_append] at hLength
  simp only [size, hLength, Option.map_some, Option.toList_some, List.length_singleton]
  omega

end Table

end TransitForecast
