/-!
# Maps that remember the order of their keys

Documents, casts and stages are all finite maps whose entries keep the place at
which their key first came: storing under a present key changes the value and
not the place, and a key that was removed comes back at the end.

A map is the list of its entries.  Every operation is described by what it does
to `at?`, the value found under a key, and to `keys`, the order of the keys.
-/

namespace VisualNovel

/-- A finite map that remembers the order in which its keys first came. -/
abbrev OrderedMap (κ α : Type) : Type := List (κ × α)

namespace OrderedMap

variable {κ α : Type} [DecidableEq κ]

/-- The value under `key`. -/
def at? (key : κ) : OrderedMap κ α → Option α
  | [] => none
  | (k, value) :: rest => if k = key then some value else at? key rest

/-- Store `value` under `key`, in the place of the old value if there is one and
at the end otherwise. -/
def put (key : κ) (value : α) : OrderedMap κ α → OrderedMap κ α
  | [] => [(key, value)]
  | (k, old) :: rest =>
    if k = key then (k, value) :: rest else (k, old) :: put key value rest

/-- The map without `key`. -/
def remove (key : κ) (entries : OrderedMap κ α) : OrderedMap κ α :=
  entries.filter fun entry => !decide (entry.1 = key)

/-- The keys, in the order in which they first came. -/
def keys (entries : OrderedMap κ α) : List κ :=
  entries.map Prod.fst

/-- The map that results from storing the given pairs one after the other. -/
def ofPairs (pairs : List (κ × α)) : OrderedMap κ α :=
  pairs.foldl (fun entries pair => put pair.1 pair.2 entries) []

/-! ## What is found after each operation -/

@[simp] theorem at?_nil (key : κ) : at? key ([] : OrderedMap κ α) = none := rfl

@[simp] theorem at?_cons (key k : κ) (value : α) (rest : OrderedMap κ α) :
    at? key ((k, value) :: rest) = if k = key then some value else at? key rest := rfl

@[simp] theorem at?_put_self (key : κ) (value : α) (entries : OrderedMap κ α) :
    at? key (put key value entries) = some value := by
  induction entries with
  | nil => simp [put]
  | cons entry rest ih =>
    obtain ⟨k, old⟩ := entry
    by_cases h : k = key <;> simp [put, h, ih]

theorem at?_put_of_ne {key other : κ} (different : other ≠ key) (value : α)
    (entries : OrderedMap κ α) :
    at? other (put key value entries) = at? other entries := by
  induction entries with
  | nil => simp [put, Ne.symm different]
  | cons entry rest ih =>
    obtain ⟨k, old⟩ := entry
    by_cases h : k = key
    · subst h
      simp [put, Ne.symm different]
    · simp [put, h, ih]

theorem at?_remove (key other : κ) (entries : OrderedMap κ α) :
    at? other (remove key entries) = if other = key then none else at? other entries := by
  induction entries with
  | nil => simp [remove]
  | cons entry rest ih =>
    obtain ⟨k, old⟩ := entry
    simp only [remove, List.filter_cons] at ih ⊢
    by_cases same : k = key
    · subst same
      by_cases found : other = k
      · simpa [found] using ih
      · simpa [found, Ne.symm found] using ih
    · by_cases found : k = other
      · subst found
        simp [same]
      · simp [same, found, ih]

/-! ## The order of the keys -/

omit [DecidableEq κ] in
@[simp] theorem keys_nil : keys ([] : OrderedMap κ α) = [] := rfl

omit [DecidableEq κ] in
@[simp] theorem keys_cons (entry : κ × α) (rest : OrderedMap κ α) :
    keys (entry :: rest) = entry.1 :: keys rest := rfl

theorem keys_put_of_mem {key : κ} {entries : OrderedMap κ α} (present : key ∈ keys entries)
    (value : α) : keys (put key value entries) = keys entries := by
  induction entries with
  | nil => simp at present
  | cons entry rest ih =>
    by_cases h : entry.1 = key
    · simp [put, h]
    · have later : key ∈ keys rest := by
        rcases List.mem_cons.1 present with same | later
        · exact absurd same.symm h
        · exact later
      simp [put, h, ih later]

theorem keys_put_of_not_mem {key : κ} {entries : OrderedMap κ α} (absent : key ∉ keys entries)
    (value : α) : keys (put key value entries) = keys entries ++ [key] := by
  induction entries with
  | nil => simp [put]
  | cons entry rest ih =>
    simp only [keys_cons, List.mem_cons, not_or] at absent
    simp [put, Ne.symm absent.1, ih absent.2]

theorem at?_eq_none_iff {key : κ} {entries : OrderedMap κ α} :
    at? key entries = none ↔ key ∉ keys entries := by
  induction entries with
  | nil => simp
  | cons entry rest ih =>
    obtain ⟨k, old⟩ := entry
    by_cases h : k = key
    · simp [h]
    · simp [h, ih, Ne.symm h]

end OrderedMap

end VisualNovel
