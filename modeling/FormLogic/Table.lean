import FormLogic.Text.Order
/-!
# Ordered tables

A `Table` maps keys to values and lists its entries in the order of the keys.  The order is part of the type, so two
tables with the same entries are equal, whatever the history of insertions and removals that led to them.

The view of a table is `get?`; `get?_insert` and `get?_erase` are what later proofs use.  The same insertion, on a bare
list of entries, orders the members of a data object (`putEntry`).
-/
namespace FormLogic

variable {α β : Type}

/-- The value under a key in a list of entries: the first entry decides. -/
def findEntry (key : String) : List (String × α) → Option α
  | [] => none
  | (k, v) :: rest => if key = k then some v else findEntry key rest

theorem findEntry_cons_self (key : String) (value : α) (rest : List (String × α)) :
    findEntry key ((key, value) :: rest) = some value := if_pos rfl

theorem findEntry_cons_of_ne {key k : String} (h : key ≠ k) (value : α) (rest : List (String × α)) :
    findEntry key ((k, value) :: rest) = findEntry key rest := if_neg h

/-- **Insertion into ordered entries**, in place of an entry with the same key. -/
def putEntry (key : String) (value : α) : List (String × α) → List (String × α)
  | [] => [(key, value)]
  | (k, v) :: rest =>
    if key = k then (key, value) :: rest
    else if Text.before key k then (key, value) :: (k, v) :: rest
    else (k, v) :: putEntry key value rest

def dropEntry (key : String) (entries : List (String × α)) : List (String × α) := entries.filter (·.1 ≠ key)

/-- **Entries in strictly increasing order of their keys.** -/
def Ordered (entries : List (String × α)) : Prop := entries.Pairwise fun a b => Text.before a.1 b.1 = true

theorem fst_of_mem_putEntry {key : String} {value : α} {e : String × α} :
    ∀ {entries : List (String × α)}, e ∈ putEntry key value entries → e.1 = key ∨ e ∈ entries
  | [], h => by
    simp only [putEntry, List.mem_singleton] at h
    exact .inl (by rw [h])
  | (k, v) :: rest, h => by
    simp only [putEntry] at h
    split at h
    · rcases List.mem_cons.mp h with rfl | h
      · exact .inl rfl
      · exact .inr (List.mem_cons_of_mem _ h)
    · split at h
      · rcases List.mem_cons.mp h with rfl | h
        · exact .inl rfl
        · exact .inr h
      · rcases List.mem_cons.mp h with rfl | h
        · exact .inr List.mem_cons_self
        · exact (fst_of_mem_putEntry h).imp id (List.mem_cons_of_mem _)

theorem Ordered.putEntry {key : String} {value : α} :
    ∀ {entries : List (String × α)}, Ordered entries → Ordered (putEntry key value entries)
  | [], _ => by simp [FormLogic.putEntry, Ordered]
  | (k, v) :: rest, h => by
    obtain ⟨first, tail⟩ := List.pairwise_cons.mp h
    simp only [FormLogic.putEntry]
    split
    · rename_i heq
      exact List.pairwise_cons.mpr ⟨fun e he => heq ▸ first e he, tail⟩
    · rename_i hne
      split
      · rename_i hlt
        refine List.pairwise_cons.mpr ⟨fun e he => ?_, h⟩
        rcases List.mem_cons.mp he with rfl | he
        · exact hlt
        · exact Text.before_trans hlt (first e he)
      · rename_i hge
        have after : Text.before k key = true := (Text.before_or_before hne).resolve_left hge
        refine List.pairwise_cons.mpr ⟨fun e he => ?_, Ordered.putEntry tail⟩
        rcases fst_of_mem_putEntry he with heq | he
        · exact heq ▸ after
        · exact first e he

/-- **Behind all the others** an entry is put last. -/
theorem putEntry_of_before {key : String} {value : α} :
    ∀ {entries : List (String × α)}, (∀ e ∈ entries, Text.before e.1 key = true) →
      putEntry key value entries = entries ++ [(key, value)]
  | [], _ => rfl
  | (k, v) :: rest, h => by
    have hbefore : Text.before k key = true := h (k, v) List.mem_cons_self
    have hne : key ≠ k := by
      rintro rfl
      rw [Text.before_irrefl] at hbefore
      cases hbefore
    have hnot : ¬ Text.before key k = true := fun hafter => by
      have hself := Text.before_trans hbefore hafter
      rw [Text.before_irrefl] at hself
      cases hself
    rw [FormLogic.putEntry, if_neg hne, if_neg hnot, List.cons_append,
      putEntry_of_before fun e he => h e (List.mem_cons_of_mem _ he)]

theorem findEntry_putEntry (key wanted : String) (value : α) :
    ∀ entries : List (String × α),
      findEntry wanted (putEntry key value entries) = if wanted = key then some value else findEntry wanted entries
  | [] => by simp [putEntry, findEntry]
  | (k, v) :: rest => by
    simp only [putEntry]
    split
    · rename_i heq
      subst heq
      simp only [findEntry]
      split <;> rfl
    · split
      · simp only [findEntry]
      · simp only [findEntry, findEntry_putEntry key wanted value rest]
        split
        · rename_i hne _ heq
          have : ¬ wanted = key := fun h => hne (h ▸ heq)
          simp [this]
        · rfl

theorem findEntry_dropEntry (key wanted : String) :
    ∀ entries : List (String × α),
      findEntry wanted (dropEntry key entries) = if wanted = key then none else findEntry wanted entries
  | [] => by simp [dropEntry, findEntry]
  | (k, v) :: rest => by
    have ih := findEntry_dropEntry key wanted rest
    simp only [dropEntry] at ih ⊢
    by_cases hk : k = key
    · subst hk
      simp only [List.filter_cons, ne_eq, not_true_eq_false, decide_false, Bool.false_eq_true, if_false, ih, findEntry]
      split <;> rfl
    · simp only [List.filter_cons, ne_eq, hk, not_false_eq_true, decide_true, if_true, findEntry, ih]
      split
      · rename_i heq
        simp [heq, hk]
      · rfl

theorem Ordered.map (f : α → β) {entries : List (String × α)} (h : Ordered entries) :
    Ordered (entries.map fun e => (e.1, f e.2)) := by
  unfold Ordered
  exact List.pairwise_map.mpr h

/-- **A table**: entries in strictly increasing order of their keys. -/
structure Table (α : Type) where
  entries : List (String × α)
  ordered : Ordered entries

namespace Table

def empty : Table α := ⟨[], .nil⟩

def get? (t : Table α) (key : String) : Option α := findEntry key t.entries

def insert (t : Table α) (key : String) (value : α) : Table α := ⟨putEntry key value t.entries, t.ordered.putEntry⟩

def erase (t : Table α) (key : String) : Table α := ⟨dropEntry key t.entries, t.ordered.filter _⟩

def contains (t : Table α) (key : String) : Bool := (t.get? key).isSome

def keys (t : Table α) : List String := t.entries.map Prod.fst

def size (t : Table α) : Nat := t.entries.length

def isEmpty (t : Table α) : Bool := t.entries.isEmpty

/-- The table with another value under each key. -/
def map (f : α → β) (t : Table α) : Table β := ⟨t.entries.map fun e => (e.1, f e.2), t.ordered.map f⟩

/-- **The table of a list of entries**: of two with the same key the later one counts. -/
def ofList (entries : List (String × α)) : Table α := entries.foldl (fun t e => t.insert e.1 e.2) empty

@[ext] theorem ext {s t : Table α} (h : s.entries = t.entries) : s = t := by
  cases s; cases t; congr

theorem get?_insert (t : Table α) (key wanted : String) (value : α) :
    (t.insert key value).get? wanted = if wanted = key then some value else t.get? wanted :=
  findEntry_putEntry key wanted value t.entries

theorem get?_erase (t : Table α) (key wanted : String) :
    (t.erase key).get? wanted = if wanted = key then none else t.get? wanted :=
  findEntry_dropEntry key wanted t.entries

/-- **What a table of a list of entries holds** is one of the entries. -/
theorem mem_of_get?_ofList {entries : List (String × α)} {key : String} {value : α}
    (h : (ofList entries).get? key = some value) : (key, value) ∈ entries := by
  have hfold : ∀ (entries : List (String × α)) (t : Table α),
      (entries.foldl (fun t e => t.insert e.1 e.2) t).get? key = some value →
        (key, value) ∈ entries ∨ t.get? key = some value := by
    intro entries
    induction entries with
    | nil => exact fun t h => .inr h
    | cons e rest ih =>
      intro t h
      rcases ih (t.insert e.1 e.2) h with hrest | hinsert
      · exact .inl (List.mem_cons_of_mem e hrest)
      · rw [get?_insert] at hinsert
        split at hinsert
        · rename_i heq
          cases hinsert
          rw [heq]
          exact .inl List.mem_cons_self
        · exact .inr hinsert
  rcases hfold entries empty h with hmem | hempty
  · exact hmem
  · cases hempty

/-- **A list whose keys are all different** makes a table that holds each of its entries. -/
theorem get?_ofList {entries : List (String × α)} (hkeys : (entries.map Prod.fst).Nodup) {key : String} {value : α}
    (h : (key, value) ∈ entries) : (ofList entries).get? key = some value := by
  have hfold : ∀ (entries : List (String × α)) (t : Table α), (entries.map Prod.fst).Nodup →
      (key, value) ∈ entries ∨ t.get? key = some value ∧ key ∉ entries.map Prod.fst →
        (entries.foldl (fun t e => t.insert e.1 e.2) t).get? key = some value := by
    intro entries
    induction entries with
    | nil => exact fun t _ h => (h.resolve_left List.not_mem_nil).1
    | cons e rest ih =>
      intro t hkeys h
      obtain ⟨hfirst, hrest⟩ := List.nodup_cons.mp hkeys
      refine ih (t.insert e.1 e.2) hrest ?_
      rw [get?_insert]
      rcases h with hmem | ⟨hget, hnot⟩
      · rcases List.mem_cons.mp hmem with rfl | hmem
        · exact .inr ⟨if_pos rfl, hfirst⟩
        · exact .inl hmem
      · have hne : key ≠ e.1 := fun heq => hnot (heq ▸ List.mem_cons_self)
        rw [if_neg hne]
        exact .inr ⟨hget, fun hmem => hnot (List.mem_cons_of_mem _ hmem)⟩
  exact hfold entries empty hkeys (.inl h)

/-- **The entries of a table make the table again.** -/
theorem ofList_entries (t : Table α) : ofList t.entries = t := by
  have hfold : ∀ (rest : List (String × α)) (s : Table α), Ordered (s.entries ++ rest) →
      (rest.foldl (fun t e => t.insert e.1 e.2) s).entries = s.entries ++ rest := by
    intro rest
    induction rest with
    | nil => exact fun s _ => (List.append_nil _).symm
    | cons e rest ih =>
      intro s hordered
      have hlast : (s.insert e.1 e.2).entries = s.entries ++ [e] :=
        putEntry_of_before fun f hf => (List.pairwise_append.mp hordered).2.2 f hf e List.mem_cons_self
      have hsplit : (s.insert e.1 e.2).entries ++ rest = s.entries ++ e :: rest := by
        rw [hlast, List.append_assoc, List.singleton_append]
      rw [List.foldl_cons, ih (s.insert e.1 e.2) (hsplit ▸ hordered), hsplit]
  exact ext (hfold t.entries empty t.ordered)

theorem get?_map (f : α → β) (t : Table α) (key : String) : (t.map f).get? key = (t.get? key).map f := by
  have hentries : ∀ entries : List (String × α),
      findEntry key (entries.map fun e => (e.1, f e.2)) = (findEntry key entries).map f := by
    intro entries
    induction entries with
    | nil => rfl
    | cons e rest ih =>
      rw [List.map_cons, findEntry, findEntry, ih]
      split <;> rfl
  exact hentries t.entries

end Table
end FormLogic
