import Mathlib.Data.List.Forall2
import Mathlib.Tactic.Common
import FilterQuery.Json.Reader

/-!
# Members of one key

An object may be written with several members of one key.  What counts is the last of them
(`Entries.last?`): the object that is read has every key once, with its last value
(`Json.ofMembers_eq_object`).

Putting values at keys one after the other is the same as merging what is put: it goes through maps
of the values, through a choice of keys, and through a relation under which keys correspond
(`Entries.forall₂_put`).
-/

namespace FilterQuery

namespace Entries

variable {κ α β : Type} [DecidableEq κ]

/-- The last value that is given to a key. -/
def last? (key : κ) : Entries κ α → Option α
  | [] => none
  | (k, v) :: rest => (last? key rest).or (if k = key then some v else none)

/-- Related values of the same keys have related last values. -/
lemma rel_last? {R : α → β → Prop} {xs : Entries κ α} {ys : Entries κ β}
    (h : List.Forall₂ (fun x y => x.1 = y.1 ∧ R x.2 y.2) xs ys) (key : κ) :
    Option.Rel R (last? key xs) (last? key ys) := by
  induction h with
  | nil => exact .none
  | @cons x y xs ys hxy _ ih =>
      obtain ⟨k, v⟩ := x
      obtain ⟨k', w⟩ := y
      obtain ⟨rfl, hvw⟩ : k = k' ∧ R v w := hxy
      rw [last?, last?]
      generalize last? key xs = a at ih ⊢
      generalize last? key ys = b at ih ⊢
      cases ih with
      | some hvalue => exact .some hvalue
      | none =>
          by_cases hk : k = key
          · simpa [hk] using Option.Rel.some hvw
          · simp [hk]

lemma exists_last?_right {R : α → β → Prop} {xs : Entries κ α} {ys : Entries κ β} {key : κ} {v : α}
    (h : List.Forall₂ (fun x y => x.1 = y.1 ∧ R x.2 y.2) xs ys) (hv : last? key xs = some v) :
    ∃ w, last? key ys = some w ∧ R v w := by
  have hrel := rel_last? h key
  rw [hv] at hrel
  generalize last? key ys = b at hrel ⊢
  obtain ⟨hvw⟩ := hrel
  exact ⟨_, rfl, hvw⟩

lemma exists_last?_left {R : α → β → Prop} {xs : Entries κ α} {ys : Entries κ β} {key : κ} {w : β}
    (h : List.Forall₂ (fun x y => x.1 = y.1 ∧ R x.2 y.2) xs ys) (hw : last? key ys = some w) :
    ∃ v, last? key xs = some v ∧ R v w := by
  have hrel := rel_last? h key
  rw [hw] at hrel
  generalize last? key xs = a at hrel ⊢
  obtain ⟨hvw⟩ := hrel
  exact ⟨_, rfl, hvw⟩

lemma mem_keys_put_iff {entries : Entries κ α} {key k : κ} {value : α} :
    k ∈ keys (put key value entries) ↔ k = key ∨ k ∈ keys entries := by
  by_cases hkey : key ∈ keys entries
  · rw [keys_put_of_mem hkey, or_iff_right_of_imp]
    rintro rfl
    exact hkey
  · rw [keys_put_of_notMem hkey, List.mem_append, List.mem_singleton, or_comm]

lemma nodup_keys_put {entries : Entries κ α} (h : (keys entries).Nodup) (key : κ) (value : α) :
    (keys (put key value entries)).Nodup := by
  by_cases hkey : key ∈ keys entries
  · rwa [keys_put_of_mem hkey]
  · rw [keys_put_of_notMem hkey]
    exact (List.perm_append_singleton key (keys entries)).nodup_iff.mpr
      (List.nodup_cons.mpr ⟨hkey, h⟩)

/-- Where keys are distinct, `put` gives one key its value and leaves the others theirs. -/
lemma mem_put_iff {entries : Entries κ α} (h : (keys entries).Nodup) {key k : κ} {value v : α} :
    (k, v) ∈ put key value entries ↔ (k = key ∧ v = value) ∨ (k ≠ key ∧ (k, v) ∈ entries) := by
  induction entries with
  | nil => simp [put]
  | cons entry rest ih =>
      obtain ⟨k', v'⟩ := entry
      obtain ⟨hnew, hrest⟩ := List.nodup_cons.mp h
      by_cases hkey : k' = key
      · subst hkey
        have hfresh : ∀ w, (k', w) ∉ rest := fun w hw => hnew (List.mem_map.mpr ⟨_, hw, rfl⟩)
        grind [put]
      · simp only [put, hkey, if_false, List.mem_cons, ih hrest]
        grind

lemma nodup_keys_foldl_put {members merged : Entries κ α} (h : (keys merged).Nodup) :
    (keys (members.foldl (fun merged (key, value) => put key value merged) merged)).Nodup := by
  induction members generalizing merged with
  | nil => exact h
  | cons member members ih => exact ih (nodup_keys_put h member.1 member.2)

/-- A key keeps its value where it is not mentioned, and has its last one where it is. -/
lemma mem_foldl_put_iff {members merged : Entries κ α} (h : (keys merged).Nodup) {k : κ} {v : α} :
    (k, v) ∈ members.foldl (fun merged (key, value) => put key value merged) merged ↔
      last? k members = some v ∨ (last? k members = none ∧ (k, v) ∈ merged) := by
  induction members generalizing merged with
  | nil => simp [last?]
  | cons member members ih =>
      obtain ⟨key, value⟩ := member
      rw [List.foldl_cons, ih (nodup_keys_put h key value), mem_put_iff h, last?]
      cases last? k members with
      | some w => simp
      | none =>
          by_cases hk : key = k
          · simp [hk, eq_comm]
          · simp [hk, Ne.symm hk]

lemma put_map (f : α → β) (key : κ) (value : α) (entries : Entries κ α) :
    put key (f value) (entries.map fun (k, v) => (k, f v)) =
      (put key value entries).map fun (k, v) => (k, f v) := by
  induction entries with
  | nil => rfl
  | cons entry entries ih =>
      obtain ⟨k, v⟩ := entry
      by_cases hk : k = key <;> simp [put, hk, ih]

lemma foldl_put_map (f : α → β) (entries start : Entries κ α) :
    (entries.map fun (k, v) => (k, f v)).foldl (fun merged (k, v) => put k v merged)
        (start.map fun (k, v) => (k, f v)) =
      (entries.foldl (fun merged (k, v) => put k v merged) start).map fun (k, v) => (k, f v) := by
  induction entries generalizing start with
  | nil => rfl
  | cons entry entries ih =>
      obtain ⟨k, v⟩ := entry
      simp only [List.map_cons, List.foldl_cons, put_map, ih]

lemma filter_put_of_pos {p : κ → Bool} {key : κ} (hkey : p key = true) (value : α)
    (entries : Entries κ α) :
    (put key value entries).filter (fun entry => p entry.1) =
      put key value (entries.filter fun entry => p entry.1) := by
  induction entries with
  | nil => simp [put, hkey]
  | cons entry entries ih =>
      obtain ⟨k, v⟩ := entry
      by_cases hk : k = key
      · simp [put, hk, hkey]
      · by_cases hp : p k = true <;> simp [put, hk, hp, ih]

lemma filter_put_of_neg {p : κ → Bool} {key : κ} (hkey : ¬p key = true) (value : α)
    (entries : Entries κ α) :
    (put key value entries).filter (fun entry => p entry.1) =
      entries.filter fun entry => p entry.1 := by
  induction entries with
  | nil => simp [put, hkey]
  | cons entry entries ih =>
      obtain ⟨k, v⟩ := entry
      by_cases hk : k = key
      · simp [put, hk, hkey]
      · simp [put, hk, List.filter_cons, ih]

/-- Related entries go to the same place if keys are related one to one. -/
lemma forall₂_put {κ' : Type} [DecidableEq κ'] {R : κ × α → κ' × β → Prop}
    (hR : ∀ x y x' y', R x y → R x' y' → (x.1 = x'.1 ↔ y.1 = y'.1))
    {xs : Entries κ α} {ys : Entries κ' β} (h : List.Forall₂ R xs ys) {x : κ × α} {y : κ' × β}
    (hxy : R x y) : List.Forall₂ R (put x.1 x.2 xs) (put y.1 y.2 ys) := by
  induction h with
  | nil => exact .cons hxy .nil
  | @cons x' y' xs ys hhead htail ih =>
      obtain ⟨k, v⟩ := x'
      obtain ⟨k', v'⟩ := y'
      have hkeys : k = x.1 ↔ k' = y.1 := hR _ _ _ _ hhead hxy
      by_cases hk : k = x.1
      · have hk' := hkeys.mp hk
        subst hk hk'
        simpa [put] using ⟨hxy, htail⟩
      · simpa [put, hk, mt hkeys.mpr hk] using ⟨hhead, ih⟩

end Entries

namespace Json

/-- The members of an object, each key with its last value. -/
lemma ofMembers_eq_object (members : List (String × Json)) :
    ∃ merged, ofMembers members = .object merged ∧ (Entries.keys merged).Nodup ∧
      ∀ key value, (key, value) ∈ merged ↔ Entries.last? key members = some value :=
  have hempty : (Entries.keys ([] : Entries String Json)).Nodup := by simp [Entries.keys]
  ⟨_, rfl, Entries.nodup_keys_foldl_put hempty, fun key value => by
    simp [Entries.mem_foldl_put_iff hempty]⟩

end Json

end FilterQuery
