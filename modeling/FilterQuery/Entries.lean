/-!
# Insertion-ordered entries

A description names operators, fields, columns and members in some order, and that order is the
order in which they are written out.  `Entries κ α` is a list of pairs that behaves like a map:
`put` overwrites the value of a key where the key already stands and appends a new key at the end,
so a key keeps the place of its first mention and the value of its last.

* `keys_put_of_mem`: overwriting a key changes no key and no position.
* `put_of_notMem`, `keys_put_of_notMem`: a new key comes last.
-/

namespace FilterQuery

/-- Pairs of a key and its value, in the order in which the keys were first mentioned. -/
abbrev Entries (κ α : Type) := List (κ × α)

namespace Entries

variable {κ α : Type} [DecidableEq κ]

/-- Gives `key` the value `value`: in place when the key is present (its first occurrence, should
there be several), at the end otherwise. -/
def put (key : κ) (value : α) : Entries κ α → Entries κ α
  | [] => [(key, value)]
  | (k, v) :: rest => if k = key then (k, value) :: rest else (k, v) :: put key value rest

/-- The keys, in order. -/
def keys (entries : Entries κ α) : List κ :=
  entries.map Prod.fst

theorem keys_put_of_mem {key : κ} {entries : Entries κ α} (h : key ∈ keys entries) (value : α) :
    keys (put key value entries) = keys entries := by
  induction entries with
  | nil => simp [keys] at h
  | cons entry rest ih =>
    obtain ⟨k, v⟩ := entry
    by_cases hk : k = key
    · simp [put, keys, hk]
    · have hrest : key ∈ keys rest := by
        simpa [keys, Ne.symm hk] using h
      simpa [put, keys, hk] using ih hrest

theorem put_of_notMem {key : κ} {entries : Entries κ α} (h : key ∉ keys entries) (value : α) :
    put key value entries = entries ++ [(key, value)] := by
  induction entries with
  | nil => rfl
  | cons entry rest ih =>
    obtain ⟨k, v⟩ := entry
    simp only [keys, List.map_cons, List.mem_cons, not_or] at h
    have hrest := ih (by simpa [keys] using h.2)
    simpa [put, Ne.symm h.1] using hrest

theorem keys_put_of_notMem {key : κ} {entries : Entries κ α} (h : key ∉ keys entries) (value : α) :
    keys (put key value entries) = keys entries ++ [key] := by
  simp [put_of_notMem h, keys]

end Entries

end FilterQuery
