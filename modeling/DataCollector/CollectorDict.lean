import DataCollector.CollectorPython
import Mathlib.Data.List.Nodup

/-! Python dicts with string keys, as the common block builds them: entries in insertion
order, a key set twice keeps its place and takes the new value, each key held once. -/
namespace DataCollector.Core

/-- d[k] = v on an entry list: replace in place, or append a new key. -/
def setEntry (k : String) (v : PyObj) : List (String × PyObj) → List (String × PyObj)
  | [] => [(k, v)]
  | e :: rest => if e.1 = k then (k, v) :: rest else e :: setEntry k v rest

theorem lookup_cons_eq_ite (k : String) (e : String × PyObj) (es : List (String × PyObj)) :
    (e :: es).lookup k = if k = e.1 then some e.2 else es.lookup k := by
  obtain ⟨a, b⟩ := e
  simp only [List.lookup_cons, beq_iff_eq]
  split <;> simp_all

theorem lookup_append (k : String) (l₁ l₂ : List (String × PyObj)) :
    (l₁ ++ l₂).lookup k = (l₁.lookup k).or (l₂.lookup k) := by
  induction l₁ with
  | nil => rfl
  | cons e rest ih => by_cases h : k = e.1 <;> simp [lookup_cons_eq_ite, h, ih]

theorem lookup_eq_none_of_not_mem (k : String) (es : List (String × PyObj))
    (h : k ∉ es.map Prod.fst) : es.lookup k = none := by
  induction es with
  | nil => rfl
  | cons e rest ih =>
    simp only [List.map_cons, List.mem_cons, not_or] at h
    simp [lookup_cons_eq_ite, h.1, ih h.2]

theorem lookup_filter_fst (p : String → Bool) (es : List (String × PyObj)) (k : String) :
    (es.filter fun e => p e.1).lookup k = if p k then es.lookup k else none := by
  induction es with
  | nil => simp
  | cons e rest ih =>
    by_cases hk : k = e.1
    · subst hk
      by_cases hp : p e.1 <;> simp [List.filter_cons, lookup_cons_eq_ite, hp, ih]
    · by_cases hp : p e.1 <;> simp [List.filter_cons, lookup_cons_eq_ite, hp, hk, ih]

theorem keys_setEntry (k : String) (v : PyObj) (es : List (String × PyObj)) :
    (setEntry k v es).map Prod.fst =
      if k ∈ es.map Prod.fst then es.map Prod.fst else es.map Prod.fst ++ [k] := by
  induction es with
  | nil => rfl
  | cons e rest ih =>
    by_cases he : e.1 = k
    · simp [setEntry, he]
    · simp only [setEntry, he, ↓reduceIte, List.map_cons, ih, List.mem_cons, Ne.symm he,
        false_or]
      split <;> rfl

theorem lookup_setEntry (k k' : String) (v : PyObj) (es : List (String × PyObj)) :
    (setEntry k v es).lookup k' = if k' = k then some v else es.lookup k' := by
  induction es with
  | nil => by_cases h : k' = k <;> simp [setEntry, lookup_cons_eq_ite, h]
  | cons e rest ih =>
    by_cases he : e.1 = k
    · by_cases h : k' = k <;> simp [setEntry, lookup_cons_eq_ite, he, h]
    · by_cases h : k' = e.1
      · simp [setEntry, lookup_cons_eq_ite, he, h, Ne.symm he]
      · simp [setEntry, lookup_cons_eq_ite, he, h, ih]

/-- A Python dict with string keys: its entries in insertion order, each key once. -/
@[ext] structure Dict where
  entries : List (String × PyObj)
  nodup : (entries.map Prod.fst).Nodup

namespace Dict

instance : EmptyCollection Dict := ⟨⟨[], List.nodup_nil⟩⟩

def keys (d : Dict) : List String := d.entries.map Prod.fst

/-- len(d) -/
def size (d : Dict) : Nat := d.entries.length

/-- d.get(k) -/
def get? (d : Dict) (k : String) : Option PyObj := d.entries.lookup k

/-- d[k] = v -/
def set (d : Dict) (k : String) (v : PyObj) : Dict where
  entries := setEntry k v d.entries
  nodup := by
    rw [keys_setEntry]
    split
    · exact d.nodup
    · exact d.nodup.append (List.nodup_singleton k) (List.disjoint_singleton.mpr ‹_›)

/-- d.update(other): set each entry of other in its order. -/
def update (d other : Dict) : Dict := other.entries.foldl (fun acc e => acc.set e.1 e.2) d

/-- The dict as a value of a payload. -/
def toPy (d : Dict) : PyObj := .dict d.entries

@[simp] theorem size_empty : (∅ : Dict).size = 0 := rfl

@[simp] theorem keys_empty : (∅ : Dict).keys = [] := rfl

@[simp] theorem get?_empty (k : String) : (∅ : Dict).get? k = none := rfl

theorem size_eq_length_keys (d : Dict) : d.size = d.keys.length := by
  simp [size, keys]

@[simp] theorem get?_set (d : Dict) (k k' : String) (v : PyObj) :
    (d.set k v).get? k' = if k' = k then some v else d.get? k' :=
  lookup_setEntry k k' v d.entries

theorem keys_set (d : Dict) (k : String) (v : PyObj) :
    (d.set k v).keys = if k ∈ d.keys then d.keys else d.keys ++ [k] :=
  keys_setEntry k v d.entries

@[simp] theorem mem_keys_set (d : Dict) (k k' : String) (v : PyObj) :
    k' ∈ (d.set k v).keys ↔ k' = k ∨ k' ∈ d.keys := by
  rw [keys_set]
  split <;> simp_all [or_comm]

theorem size_set (d : Dict) (k : String) (v : PyObj) :
    (d.set k v).size = if k ∈ d.keys then d.size else d.size + 1 := by
  rw [size_eq_length_keys, size_eq_length_keys, keys_set]
  split <;> simp

theorem size_set_le (d : Dict) (k : String) (v : PyObj) : (d.set k v).size ≤ d.size + 1 := by
  rw [size_set]; split <;> omega

/-- Setting the entries of a list one after another: a key reads the value of the last
entry that set it, or what it read before. -/
theorem get?_foldl_set (es : List (String × PyObj)) (d : Dict) (k : String) :
    (es.foldl (fun acc e => acc.set e.1 e.2) d).get? k =
      (es.reverse.lookup k).or (d.get? k) := by
  induction es generalizing d with
  | nil => rfl
  | cons e rest ih =>
    rw [List.foldl_cons, ih, List.reverse_cons, get?_set, lookup_append, Option.or_assoc]
    by_cases h : k = e.1 <;> simp [lookup_cons_eq_ite, h]

theorem lookup_reverse_of_nodup (es : List (String × PyObj))
    (h : (es.map Prod.fst).Nodup) (k : String) : es.reverse.lookup k = es.lookup k := by
  induction es with
  | nil => rfl
  | cons e rest ih =>
    rw [List.map_cons, List.nodup_cons] at h
    rw [List.reverse_cons, lookup_append, ih h.2, lookup_cons_eq_ite]
    by_cases hk : k = e.1
    · simp [lookup_cons_eq_ite, hk, lookup_eq_none_of_not_mem _ _ h.1]
    · simp [lookup_cons_eq_ite, hk]

/-- d.update(o) reads o's value where o has the key, and d's elsewhere. -/
@[simp] theorem get?_update (d o : Dict) (k : String) :
    (d.update o).get? k = (o.get? k).or (d.get? k) := by
  rw [update, get?_foldl_set, lookup_reverse_of_nodup _ o.nodup]
  rfl

theorem get?_set_eq_some {d : Dict} {k k' : String} {v v' : PyObj}
    (h : (d.set k v).get? k' = some v') : k' = k ∧ v' = v ∨ d.get? k' = some v' := by
  rw [get?_set] at h
  split at h
  · exact .inl ⟨‹_›, (Option.some.inj h).symm⟩
  · exact .inr h

/-- An entry of d.update(o) is an entry of o or of d. -/
theorem get?_update_eq_some {d o : Dict} {k : String} {v : PyObj}
    (h : (d.update o).get? k = some v) : o.get? k = some v ∨ d.get? k = some v := by
  rw [get?_update] at h
  cases ho : o.get? k <;> simp_all

/-- d.update(o) adds at most the keys of o. -/
theorem size_update_le (d o : Dict) : (d.update o).size ≤ d.size + o.size := by
  suffices ∀ (es : List (String × PyObj)) (acc : Dict),
      (es.foldl (fun acc e => acc.set e.1 e.2) acc).size ≤ acc.size + es.length from
    this o.entries d
  intro es
  induction es with
  | nil => intro acc; simp
  | cons e rest ih =>
    intro acc
    have h₁ := ih (acc.set e.1 e.2)
    have h₂ := size_set_le acc e.1 e.2
    simp only [List.foldl_cons, List.length_cons]
    omega

theorem setEntry_of_not_mem (k : String) (v : PyObj) (es : List (String × PyObj))
    (h : k ∉ es.map Prod.fst) : setEntry k v es = es ++ [(k, v)] := by
  induction es with
  | nil => rfl
  | cons e rest ih =>
    simp only [List.map_cons, List.mem_cons, not_or] at h
    simp [setEntry, Ne.symm h.1, ih h.2]

/-- Updating an empty dict copies the other, entries and order alike. -/
@[simp] theorem empty_update (d : Dict) : (∅ : Dict).update d = d := by
  suffices ∀ (es : List (String × PyObj)) (acc : Dict),
      ((acc.entries ++ es).map Prod.fst).Nodup →
        (es.foldl (fun acc e => acc.set e.1 e.2) acc).entries = acc.entries ++ es from
    Dict.ext (this d.entries ∅ d.nodup)
  intro es
  induction es with
  | nil => simp
  | cons e rest ih =>
    intro acc h
    have hk : e.1 ∉ acc.entries.map Prod.fst := by
      simp only [List.map_append, List.map_cons] at h
      exact fun hm => (List.nodup_append.mp h).2.2 hm (List.mem_cons_self _ _)
    rw [List.foldl_cons, ih (acc.set e.1 e.2)]
    · simp [set, setEntry_of_not_mem _ _ _ hk]
    · simpa [set, setEntry_of_not_mem _ _ _ hk] using h

end Dict

end DataCollector.Core
