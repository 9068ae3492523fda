/-!
# Dictionaries

Finite maps from texts, kept in ascending byte order of their keys. As the order is part of the
type, two dictionaries with the same look-ups are equal, and every listing comes in key order.
-/

namespace NodeAtlas

/-- A finite map from texts to `α`. -/
structure Dict (α : Type) where
  /-- The entries in key order. -/
  entries : List (String × α)
  /-- The keys ascend strictly. -/
  ordered : entries.Pairwise fun a b => a.1 < b.1

namespace Dict

variable {α β : Type}

/-- Puts an entry at its place, replacing one with the same key. -/
def insertEntry (k : String) (v : α) : List (String × α) → List (String × α)
  | [] => [(k, v)]
  | e :: es =>
    if k < e.1 then (k, v) :: e :: es
    else if e.1 < k then e :: insertEntry k v es
    else (k, v) :: es

theorem mem_insertEntry {k : String} {v : α} {es : List (String × α)} {x : String × α}
    (h : x ∈ insertEntry k v es) : x = (k, v) ∨ x ∈ es := by
  induction es with
  | nil => simpa [insertEntry] using h
  | cons e es ih =>
    unfold insertEntry at h
    split at h
    · simpa using h
    · split at h
      · rcases List.mem_cons.mp h with rfl | h
        · exact .inr (by simp)
        · rcases ih h with h | h
          · exact .inl h
          · exact .inr (List.mem_cons_of_mem _ h)
      · rcases List.mem_cons.mp h with h | h
        · exact .inl h
        · exact .inr (List.mem_cons_of_mem _ h)

theorem pairwise_insertEntry (k : String) (v : α) {es : List (String × α)}
    (h : es.Pairwise fun a b => a.1 < b.1) :
    (insertEntry k v es).Pairwise fun a b => a.1 < b.1 := by
  induction es with
  | nil => simp [insertEntry]
  | cons e es ih =>
    obtain ⟨he, hes⟩ := List.pairwise_cons.mp h
    unfold insertEntry
    split
    · rename_i hlt
      refine List.pairwise_cons.mpr ⟨fun x hx => ?_, h⟩
      rcases List.mem_cons.mp hx with rfl | hx
      · exact hlt
      · exact String.lt_trans hlt (he x hx)
    · rename_i hnlt
      split
      · rename_i hlt
        refine List.pairwise_cons.mpr ⟨fun x hx => ?_, ih hes⟩
        rcases mem_insertEntry hx with rfl | hx
        · exact hlt
        · exact he x hx
      · rename_i hngt
        have heq : k = e.1 := String.le_antisymm
          (Decidable.not_not.mp fun hc => hngt (by simpa using hc))
          (Decidable.not_not.mp fun hc => hnlt (by simpa using hc))
        refine List.pairwise_cons.mpr ⟨fun x hx => ?_, hes⟩
        simpa [heq] using he x hx

/-- The map without entries. -/
def empty : Dict α := ⟨[], .nil⟩

instance : EmptyCollection (Dict α) := ⟨empty⟩
instance : Inhabited (Dict α) := ⟨empty⟩

/-- The value stored under a key. -/
def find? (d : Dict α) (k : String) : Option α :=
  (d.entries.find? fun e => e.1 == k).map (·.2)

/-- Some value is stored under the key. -/
def contains (d : Dict α) (k : String) : Bool :=
  d.entries.any fun e => e.1 == k

/-- Stores a value under a key, in place of the one that was there. -/
def insert (d : Dict α) (k : String) (v : α) : Dict α :=
  ⟨insertEntry k v d.entries, pairwise_insertEntry k v d.ordered⟩

/-- Removes a key and its value. -/
def erase (d : Dict α) (k : String) : Dict α :=
  ⟨d.entries.filter fun e => e.1 != k, d.ordered.filter _⟩

/-- The keys in ascending order. -/
def keys (d : Dict α) : List String := d.entries.map (·.1)

/-- The values in key order. -/
def values (d : Dict α) : List α := d.entries.map (·.2)

/-- The number of entries. -/
def size (d : Dict α) : Nat := d.entries.length

/-- There are no entries. -/
def isEmpty (d : Dict α) : Bool := d.entries.isEmpty

/-- Stores the pairs from left to right, so that the last of a repeated key stays. -/
def ofList (es : List (String × α)) : Dict α :=
  es.foldl (fun d e => d.insert e.1 e.2) empty

/-- Stores further pairs from left to right. -/
def insertAll (d : Dict α) (es : List (String × α)) : Dict α :=
  es.foldl (fun d e => d.insert e.1 e.2) d

/-- Applies a function to every value. -/
def map (f : α → β) (d : Dict α) : Dict β :=
  ⟨d.entries.map fun e => (e.1, f e.2), List.pairwise_map.mpr d.ordered⟩

/-- Changes the value of a key, and leaves the map as it is if there is none. -/
def modify (d : Dict α) (k : String) (f : α → α) : Dict α :=
  match d.find? k with
  | some v => d.insert k (f v)
  | none => d

end Dict

end NodeAtlas
