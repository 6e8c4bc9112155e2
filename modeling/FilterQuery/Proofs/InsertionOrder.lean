import FilterQuery.Proofs.Merging

/-!
# The order of insertion

What becomes of entries when several values are put into them, one after the other
(`Entries.foldl_put_eq`).

* A key that is present keeps its place and gets the last value that is put at it; should it occur
  more than once, only its first occurrence does (`Entries.revalued`).
* The other keys follow, each once, in the order in which they are first mentioned and with their
  last values (`Entries.merged`).

The proof looks at one key at a time.  The first entry takes all values that are put at its key, and
what is put at other keys goes past it (`Entries.foldl_put_cons`).
-/

namespace FilterQuery

namespace Entries

variable {κ α : Type} [DecidableEq κ]

/-! ## Changes of one key and of the others -/

/-- The entries of other keys. -/
def without (key : κ) (entries : Entries κ α) : Entries κ α :=
  entries.filter fun entry => entry.1 ≠ key

lemma without_cons_self (key : κ) (value : α) (entries : Entries κ α) :
    without key ((key, value) :: entries) = without key entries := by
  simp [without]

lemma without_cons_of_ne {key k : κ} (h : k ≠ key) (value : α) (entries : Entries κ α) :
    without key ((k, value) :: entries) = (k, value) :: without key entries := by
  simp [without, h]

lemma keys_without (key : κ) (entries : Entries κ α) :
    keys (without key entries) = (keys entries).filter (· ≠ key) := by
  rw [keys, keys, without, List.filter_map]
  rfl

lemma last?_without_self (key : κ) (entries : Entries κ α) :
    last? key (without key entries) = none := by
  induction entries with
  | nil => rfl
  | cons entry entries ih =>
      obtain ⟨k, v⟩ := entry
      by_cases hkey : k = key
      · rw [hkey, without_cons_self, ih]
      · simp [without_cons_of_ne hkey, last?, ih, hkey]

lemma last?_without_of_ne {key k : κ} (h : k ≠ key) (entries : Entries κ α) :
    last? k (without key entries) = last? k entries := by
  induction entries with
  | nil => rfl
  | cons entry entries ih =>
      obtain ⟨k', v⟩ := entry
      by_cases hkey : k' = key
      · subst hkey
        rw [without_cons_self, ih, last?, if_neg (Ne.symm h), Option.or_none]
      · rw [without_cons_of_ne hkey, last?, ih, last?]

/-- The first entry takes the values of its key, and the others go past it. -/
lemma foldl_put_cons (changes : Entries κ α) (key : κ) (value : α) (entries : Entries κ α) :
    changes.foldl (fun entries (k, v) => put k v entries) ((key, value) :: entries) =
      (key, (last? key changes).getD value) ::
        (without key changes).foldl (fun entries (k, v) => put k v entries) entries := by
  induction changes generalizing value entries with
  | nil => rfl
  | cons change changes ih =>
      obtain ⟨k, v⟩ := change
      by_cases hkey : k = key
      · subst hkey
        simp only [List.foldl_cons, put, if_true, ih, without_cons_self, last?]
        cases last? k changes <;> rfl
      · simp only [List.foldl_cons, put, if_neg (Ne.symm hkey), ih, without_cons_of_ne hkey, last?,
          if_neg hkey, Option.or_none]

/-! ## Keys that are present -/

/-- The entries, in which the first one of each key has the last value that is put at that key. -/
def revalued (changes entries : Entries κ α) : Entries κ α :=
  entries.mapIdx fun i (key, value) =>
    (key, if key ∈ keys (entries.take i) then value else (last? key changes).getD value)

lemma revalued_cons (changes : Entries κ α) (key : κ) (value : α) (entries : Entries κ α) :
    revalued changes ((key, value) :: entries) =
      (key, (last? key changes).getD value) :: revalued (without key changes) entries := by
  rw [revalued, List.mapIdx_cons, revalued]
  congr 1
  refine List.ext_getElem (by simp) fun i hi _ => ?_
  have hentry : i < entries.length := by simpa using hi
  simp only [List.getElem_mapIdx, List.take_succ_cons, keys, List.map_cons, List.mem_cons]
  by_cases hkey : (entries[i]).1 = key
  · simp [hkey, last?_without_self]
  · simp [hkey, last?_without_of_ne hkey]

/-! ## New keys -/

/-- The keys in the order of their first mention, each once and with its last value. -/
def merged (changes : Entries κ α) : Entries κ α :=
  (keys changes).eraseDups.filterMap fun key => (last? key changes).map (key, ·)

lemma filter_eraseDups (p : κ → Bool) (ks : List κ) :
    ks.eraseDups.filter p = (ks.filter p).eraseDups := by
  induction hlength : ks.length using Nat.strongRecOn generalizing ks with
  | ind n ih =>
      cases ks with
      | nil => rfl
      | cons k ks =>
          have hshorter : (ks.filter fun k' => !k' == k).length < n := by
            have := List.length_filter_le (fun k' => !k' == k) ks
            simp only [List.length_cons] at hlength
            omega
          rw [List.eraseDups_cons, List.filter_cons, ih _ hshorter _ rfl, List.filter_cons]
          split
          · rw [List.eraseDups_cons, List.filter_filter, List.filter_filter]
            simp only [Bool.and_comm]
          · rename_i hk
            congr 1
            rw [List.filter_filter]
            refine List.filter_congr fun k' _ => ?_
            by_cases hk' : k' = k
            · simp [hk', hk]
            · simp [hk']

lemma merged_without (key : κ) (changes : Entries κ α) :
    merged (without key changes) = without key (merged changes) := by
  have hkeys : (keys (without key changes)).eraseDups =
      (keys changes).eraseDups.filter (· ≠ key) := by
    rw [keys_without, filter_eraseDups]
  have hnew : without key (merged changes) = (keys changes).eraseDups.filterMap fun k =>
      if k ≠ key then (last? k changes).map (k, ·) else none := by
    rw [without, merged, List.filter_filterMap]
    refine List.filterMap_congr fun k _ => ?_
    cases last? k changes <;> by_cases hk : k = key <;> simp [hk]
  rw [hnew, merged, hkeys, List.filterMap_filter]
  refine List.filterMap_congr fun k _ => ?_
  by_cases hk : k = key
  · simp [hk]
  · simp [hk, last?_without_of_ne hk]

lemma merged_cons (key : κ) (value : α) (changes : Entries κ α) :
    merged ((key, value) :: changes) =
      (key, (last? key changes).getD value) :: merged (without key changes) := by
  have hlast : last? key ((key, value) :: changes) = some ((last? key changes).getD value) := by
    cases hkey : last? key changes <;> simp [last?, hkey]
  have hkeys : (keys changes).filter (fun k => !k == key) = keys (without key changes) := by
    rw [keys_without]
    exact List.filter_congr fun k _ => by by_cases hk : k = key <;> simp [hk]
  rw [merged, keys, List.map_cons, List.eraseDups_cons, List.filterMap_cons, hlast,
    ← keys, hkeys, merged]
  refine congrArg (List.cons _) (List.filterMap_congr fun k hk => ?_)
  have hne : k ≠ key := by
    have hmem := List.mem_eraseDups.mp hk
    rw [keys_without] at hmem
    simpa using (List.mem_filter.mp hmem).2
  rw [last?_without_of_ne hne, last?, if_neg hne.symm, Option.or_none]

/-- Values that are put into nothing are merged. -/
lemma foldl_put_nil (changes : Entries κ α) :
    changes.foldl (fun entries (k, v) => put k v entries) [] = merged changes := by
  induction hlength : changes.length using Nat.strongRecOn generalizing changes with
  | ind n ih =>
      cases changes with
      | nil => rfl
      | cons change changes =>
          obtain ⟨key, value⟩ := change
          have hshorter : (without key changes).length < n := by
            have := List.length_filter_le (fun entry => decide (entry.1 ≠ key)) changes
            simp only [List.length_cons] at hlength
            rw [without]
            omega
          simp only [List.foldl_cons, put, foldl_put_cons, ih _ hshorter _ rfl, merged_cons]

/-- **Putting values one after the other.**  Keys that are present keep their places and get their
last values; new keys follow in the order of their first mention, with their last values. -/
theorem foldl_put_eq (changes entries : Entries κ α) :
    changes.foldl (fun entries (k, v) => put k v entries) entries =
      revalued changes entries ++ (merged changes).filter fun entry => entry.1 ∉ keys entries := by
  induction entries generalizing changes with
  | nil => simp [foldl_put_nil, revalued, keys]
  | cons entry entries ih =>
      obtain ⟨key, value⟩ := entry
      have hnew : (without key (merged changes)).filter (fun entry => entry.1 ∉ keys entries) =
          (merged changes).filter fun entry => entry.1 ∉ keys ((key, value) :: entries) := by
        rw [without, List.filter_filter]
        refine List.filter_congr fun entry _ => ?_
        have hkeys : keys ((key, value) :: entries) = key :: keys entries := rfl
        simp [hkeys, Bool.and_comm]
      rw [foldl_put_cons, ih, revalued_cons, merged_without, hnew, List.cons_append]

end Entries

end FilterQuery
