/-!
Finite maps from names to values, kept in the order of the names.

The order makes the representation canonical: two tables that look up alike are equal
(`Table.ext_get?`).
-/

namespace PoolPage

structure Table (α : Type) where
  entries : List (String × α)
  sorted : entries.Pairwise fun a b => a.1 < b.1

namespace Table

variable {α β : Type}

/-- Inserts into a list in the order of names, replacing an entry with the same name. -/
def insertEntry (name : String) (value : α) : List (String × α) → List (String × α)
  | [] => [(name, value)]
  | (other, old) :: rest =>
    if name < other then (name, value) :: (other, old) :: rest
    else if name = other then (name, value) :: rest
    else (other, old) :: insertEntry name value rest

theorem mem_insertEntry {name : String} {value : α} {entry : String × α}
    {entries : List (String × α)} (h : entry ∈ insertEntry name value entries) :
    entry = (name, value) ∨ entry ∈ entries := by
  induction entries with
  | nil => simpa [insertEntry] using h
  | cons head rest ih =>
    obtain ⟨other, old⟩ := head
    simp only [insertEntry] at h
    split at h
    · simpa using h
    · split at h
      · rcases List.mem_cons.1 h with h | h
        · exact .inl h
        · exact .inr (List.mem_cons_of_mem _ h)
      · rcases List.mem_cons.1 h with h | h
        · exact .inr (h ▸ List.mem_cons_self)
        · rcases ih h with h | h
          · exact .inl h
          · exact .inr (List.mem_cons_of_mem _ h)

theorem pairwise_insertEntry (name : String) (value : α) {entries : List (String × α)}
    (h : entries.Pairwise fun a b => a.1 < b.1) :
    (insertEntry name value entries).Pairwise fun a b => a.1 < b.1 := by
  induction entries with
  | nil => simp [insertEntry]
  | cons head rest ih =>
    obtain ⟨other, old⟩ := head
    obtain ⟨hhead, hrest⟩ := List.pairwise_cons.1 h
    simp only [insertEntry]
    split
    · next hlt =>
      refine List.pairwise_cons.2 ⟨fun entry hentry => ?_, h⟩
      rcases List.mem_cons.1 hentry with rfl | hentry
      · exact hlt
      · exact String.lt_trans hlt (hhead entry hentry)
    · next hlt =>
      split
      · next heq => exact List.pairwise_cons.2 ⟨heq ▸ hhead, hrest⟩
      · next hne =>
        refine List.pairwise_cons.2 ⟨fun entry hentry => ?_, ih hrest⟩
        rcases mem_insertEntry hentry with rfl | hentry
        · rcases Std.lt_trichotomy name other with h | h | h
          · exact absurd h hlt
          · exact absurd h hne
          · exact h
        · exact hhead entry hentry

/-- The value of the first entry with a name. -/
def lookup (name : String) : List (String × α) → Option α
  | [] => none
  | (other, value) :: rest => if name = other then some value else lookup name rest

def empty : Table α := ⟨[], .nil⟩

instance : Inhabited (Table α) := ⟨empty⟩

def get? (table : Table α) (name : String) : Option α := lookup name table.entries

def insert (table : Table α) (name : String) (value : α) : Table α :=
  ⟨insertEntry name value table.entries, pairwise_insertEntry name value table.sorted⟩

def map (f : α → β) (table : Table α) : Table β where
  entries := table.entries.map fun (name, value) => (name, f value)
  sorted := List.pairwise_map.2 table.sorted

def names (table : Table α) : List String := table.entries.map (·.1)

/-- The table of a list of entries, the last of several with one name. -/
def ofList (entries : List (String × α)) : Table α :=
  entries.foldl (fun table (name, value) => table.insert name value) empty

/-! ### Looking up -/

@[simp] theorem get?_empty (name : String) : (empty : Table α).get? name = none := rfl

theorem lookup_insertEntry (name : String) (value : α) (entries : List (String × α))
    (other : String) :
    lookup other (insertEntry name value entries) =
      if other = name then some value else lookup other entries := by
  induction entries with
  | nil => simp [insertEntry, lookup]
  | cons head rest ih =>
    obtain ⟨key, old⟩ := head
    simp only [insertEntry]
    split
    · simp [lookup]
    · split
      · next heq => subst heq; by_cases h : other = name <;> simp [lookup, h]
      · next hne =>
        simp only [lookup, ih]
        by_cases h : other = name
        · subst h; simp [hne]
        · simp [h]

@[simp] theorem get?_insert (table : Table α) (name : String) (value : α) (other : String) :
    (table.insert name value).get? other = if other = name then some value else table.get? other :=
  lookup_insertEntry name value table.entries other

@[simp] theorem get?_map (f : α → β) (table : Table α) (name : String) :
    (table.map f).get? name = (table.get? name).map f := by
  simp only [get?, map]
  induction table.entries with
  | nil => rfl
  | cons head rest ih =>
    obtain ⟨key, value⟩ := head
    by_cases h : name = key <;> simp [lookup, h, ih]

/-! ### Names -/

theorem mem_names_iff {table : Table α} {name : String} :
    name ∈ table.names ↔ (table.get? name).isSome := by
  rw [names, get?]
  induction table.entries with
  | nil => simp [lookup]
  | cons head rest ih =>
    by_cases h : name = head.1
    · simp [lookup, h]
    · simp [lookup, h, ← ih]

/-! ### Lists -/

theorem insertEntry_of_lt {name : String} {value : α} {entries : List (String × α)}
    (h : ∀ entry ∈ entries, entry.1 < name) :
    insertEntry name value entries = entries ++ [(name, value)] := by
  induction entries with
  | nil => rfl
  | cons head rest ih =>
    obtain ⟨hhead, hrest⟩ := List.forall_mem_cons.1 h
    have hlt : ¬name < head.1 := fun hlt => String.lt_irrefl _ (String.lt_trans hlt hhead)
    have hne : name ≠ head.1 := fun heq => String.lt_irrefl _ (heq ▸ hhead)
    simp [insertEntry, hlt, hne, ih hrest]

theorem entries_foldl_insert {entries : List (String × α)} {table : Table α}
    (h : (table.entries ++ entries).Pairwise fun a b => a.1 < b.1) :
    (entries.foldl (fun table (name, value) => table.insert name value) table).entries =
      table.entries ++ entries := by
  induction entries generalizing table with
  | nil => simp
  | cons head rest ih =>
    have hinsert : (table.insert head.1 head.2).entries = table.entries ++ [head] :=
      insertEntry_of_lt fun entry hentry =>
        (List.pairwise_append.1 h).2.2 entry hentry head List.mem_cons_self
    have hrest : _ = (table.insert head.1 head.2).entries ++ rest := ih (by simpa [hinsert] using h)
    simpa [hinsert] using hrest

/-- Entries in the order of their names are the entries of their table. -/
theorem entries_ofList {entries : List (String × α)}
    (h : entries.Pairwise fun a b => a.1 < b.1) : (ofList entries).entries = entries :=
  entries_foldl_insert (show (empty.entries ++ entries).Pairwise _ from h)

theorem mem_of_mem_foldl_insert {entries : List (String × α)} {table : Table α}
    {entry : String × α}
    (h : entry ∈
      (entries.foldl (fun table (name, value) => table.insert name value) table).entries) :
    entry ∈ table.entries ∨ entry ∈ entries := by
  induction entries generalizing table with
  | nil => exact .inl h
  | cons head rest ih =>
    rcases ih h with h | h
    · rcases mem_insertEntry h with h | h
      · exact .inr (h ▸ List.mem_cons_self)
      · exact .inl h
    · exact .inr (List.mem_cons_of_mem _ h)

theorem mem_of_mem_ofList {entries : List (String × α)} {entry : String × α}
    (h : entry ∈ (ofList entries).entries) : entry ∈ entries :=
  (mem_of_mem_foldl_insert h).resolve_left List.not_mem_nil

theorem mem_names_foldl_insert {entries : List (String × α)} {table : Table α} {name : String} :
    name ∈ (entries.foldl (fun table (name, value) => table.insert name value) table).names ↔
      name ∈ table.names ∨ name ∈ entries.map (·.1) := by
  induction entries generalizing table with
  | nil => simp
  | cons head rest ih =>
    rw [List.foldl_cons, ih, mem_names_iff, mem_names_iff, get?_insert]
    by_cases h : name = head.1 <;> simp [h]

theorem mem_names_ofList {entries : List (String × α)} {name : String} :
    name ∈ (ofList entries).names ↔ name ∈ entries.map (·.1) := by
  rw [ofList, mem_names_foldl_insert]
  simp [names, empty]

/-! ### Equality -/

theorem lookup_eq_none {name : String} {entries : List (String × α)}
    (h : ∀ entry ∈ entries, name < entry.1) : lookup name entries = none := by
  induction entries with
  | nil => rfl
  | cons head rest ih =>
    have hhead := h head List.mem_cons_self
    have hne : name ≠ head.1 := fun heq => String.lt_irrefl _ (heq ▸ hhead)
    simp [lookup, hne, ih fun entry hentry => h entry (List.mem_cons_of_mem _ hentry)]

theorem eq_of_lookup_eq {xs ys : List (String × α)}
    (hx : xs.Pairwise fun a b => a.1 < b.1) (hy : ys.Pairwise fun a b => a.1 < b.1)
    (h : ∀ name, lookup name xs = lookup name ys) : xs = ys := by
  induction xs generalizing ys with
  | nil =>
    cases ys with
    | nil => rfl
    | cons y ys => simpa [lookup] using h y.1
  | cons x xs ih =>
    cases ys with
    | nil => simpa [lookup] using h x.1
    | cons y ys =>
      obtain ⟨hxs, hx⟩ := List.pairwise_cons.1 hx
      obtain ⟨hys, hy⟩ := List.pairwise_cons.1 hy
      have hkey : x.1 = y.1 := by
        rcases Std.lt_trichotomy x.1 y.1 with hlt | heq | hlt
        · have hnone : lookup x.1 (y :: ys) = none := lookup_eq_none fun entry hentry => by
            rcases List.mem_cons.1 hentry with rfl | hentry
            · exact hlt
            · exact String.lt_trans hlt (hys entry hentry)
          simpa [lookup] using (h x.1).trans hnone
        · exact heq
        · have hnone : lookup y.1 (x :: xs) = none := lookup_eq_none fun entry hentry => by
            rcases List.mem_cons.1 hentry with rfl | hentry
            · exact hlt
            · exact String.lt_trans hlt (hxs entry hentry)
          simpa [lookup] using hnone.symm.trans (h y.1)
      have hvalue : x.2 = y.2 := by simpa [lookup, hkey] using h x.1
      have hrest : xs = ys := by
        refine ih hx hy fun name => ?_
        by_cases hname : name = x.1
        · subst hname
          rw [lookup_eq_none hxs, lookup_eq_none (hkey ▸ hys)]
        · have := h name
          simpa [lookup, hname, hkey ▸ hname] using this
      rw [hrest, Prod.ext hkey hvalue]

theorem ext_get? {s t : Table α} (h : ∀ name, s.get? name = t.get? name) : s = t := by
  obtain ⟨xs, hx⟩ := s
  obtain ⟨ys, hy⟩ := t
  simpa using eq_of_lookup_eq hx hy h

end Table
end PoolPage
