import Mathlib.Data.List.Forall2

/-!
# Successful readings

A reading is a chain of steps each of which may be refused.  The lemmas here say when a chain
succeeds, and with what: a bind if both steps do, a map if every element is read, and a fold whose
steps succeed or fail by their element alone if every element is accepted.
-/

namespace FilterQuery

variable {ε α β σ : Type}

@[simp] lemma pure_eq_ok (a : α) : (pure a : Except ε α) = .ok a := rfl

@[simp] lemma throw_eq_error (e : ε) : (throw e : Except ε α) = .error e := rfl

@[simp] lemma ok_bind (a : α) (f : α → Except ε β) : Except.ok a >>= f = f a := rfl

lemma bind_eq_ok_iff {x : Except ε α} {f : α → Except ε β} {b : β} :
    x >>= f = .ok b ↔ ∃ a, x = .ok a ∧ f a = .ok b := by
  cases x with
  | error e => simp [bind, Except.bind]
  | ok a => simp [bind, Except.bind]

lemma eq_error_of_bind_pure {x : Except ε α} {f : α → β} {e : ε}
    (h : (x >>= fun a => pure (f a)) = .error e) : x = .error e := by
  cases x with
  | error e' => simpa [bind, Except.bind] using h
  | ok a => simp at h

lemma map_eq_ok_iff {f : α → β} {x : Except ε α} {b : β} :
    f <$> x = .ok b ↔ ∃ a, x = .ok a ∧ f a = b := by
  cases x <;> simp [Functor.map, Except.map]

@[simp] lemma toOption_ok (a : α) : (Except.ok a : Except ε α).toOption = some a := rfl

@[simp] lemma toOption_error (e : ε) : (Except.error e : Except ε α).toOption = none := rfl

lemma toOption_eq_some_iff {x : Except ε α} {a : α} : x.toOption = some a ↔ x = .ok a := by
  cases x <;> simp

@[simp] lemma toOption_bind (x : Except ε α) (f : α → Except ε β) :
    (x >>= f).toOption = x.toOption.bind fun a => (f a).toOption := by
  cases x <;> rfl

@[simp] lemma toOption_mapError {ε' : Type} (f : ε → ε') (x : Except ε α) :
    (x.mapError f).toOption = x.toOption := by
  cases x <;> rfl

lemma mapError_eq_ok_iff {ε' : Type} {f : ε → ε'} {x : Except ε α} {a : α} :
    x.mapError f = .ok a ↔ x = .ok a := by
  rw [← toOption_eq_some_iff, toOption_mapError, toOption_eq_some_iff]

/-- What a step reads is known for each element, so it is known for all of them. -/
lemma mapM_eq_ok_iff {f : α → Except ε β} {R : α → β → Prop} {xs : List α}
    (hf : ∀ x ∈ xs, ∀ y, f x = .ok y ↔ R x y) (ys : List β) :
    xs.mapM f = .ok ys ↔ List.Forall₂ R xs ys := by
  induction xs generalizing ys with
  | nil => simp [eq_comm]
  | cons x xs ih =>
      have hrest := ih fun z hz => hf z (List.mem_cons_of_mem _ hz)
      rw [List.mapM_cons, List.forall₂_cons_left_iff]
      simp only [bind_eq_ok_iff, pure_eq_ok, Except.ok.injEq, hrest, hf x (by simp)]
      constructor
      · rintro ⟨y, hy, others, hothers, rfl⟩
        exact ⟨y, others, hy, hothers, rfl⟩
      · rintro ⟨y, others, hy, hothers, rfl⟩
        exact ⟨y, hy, others, hothers, rfl⟩

lemma mapM_eq_some_iff {f : α → Option β} {xs : List α} {ys : List β} :
    xs.mapM f = some ys ↔ List.Forall₂ (fun x y => f x = some y) xs ys := by
  induction xs generalizing ys with
  | nil => simp [eq_comm]
  | cons x xs ih =>
      simp only [List.mapM_cons, Option.bind_eq_bind, Option.bind_eq_some_iff, Option.pure_def,
        Option.some.injEq, ih, List.forall₂_cons_left_iff]
      constructor
      · rintro ⟨y, hy, others, hothers, rfl⟩
        exact ⟨y, others, hy, hothers, rfl⟩
      · rintro ⟨y, others, hy, hothers, rfl⟩
        exact ⟨y, hy, others, hothers, rfl⟩

/-- Each element has a result exactly if there is a list of results. -/
lemma exists_forall₂_iff {R : α → β → Prop} {xs : List α} :
    (∃ ys, List.Forall₂ R xs ys) ↔ ∀ x ∈ xs, ∃ y, R x y := by
  induction xs with
  | nil => simp
  | cons x xs ih =>
      simp only [List.forall₂_cons_left_iff, List.forall_mem_cons, ← ih]
      constructor
      · rintro ⟨_, y, ys, hy, hys, rfl⟩
        exact ⟨⟨y, hy⟩, ys, hys⟩
      · rintro ⟨⟨y, hy⟩, ys, hys⟩
        exact ⟨_, y, ys, hy, hys, rfl⟩

lemma exists_mem_of_forall₂ {R : α → β → Prop} {xs : List α} {ys : List β}
    (h : List.Forall₂ R xs ys) {x : α} (hx : x ∈ xs) : ∃ y ∈ ys, R x y := by
  induction h with
  | nil => simp at hx
  | @cons _ y _ ys hy _ ih =>
      obtain rfl | hx := List.mem_cons.mp hx
      · exact ⟨y, by simp, hy⟩
      · obtain ⟨z, hz, hxz⟩ := ih hx
        exact ⟨z, List.mem_cons_of_mem y hz, hxz⟩

lemma forall₂_imp_of_mem {R S : α → β → Prop} {xs : List α} {ys : List β}
    (h : List.Forall₂ R xs ys) (hstep : ∀ x ∈ xs, ∀ y, R x y → S x y) : List.Forall₂ S xs ys :=
  ((List.forall₂_and_left xs ys).mpr ⟨hstep, h⟩).imp fun _ y hxy => hxy.1 y hxy.2

lemma map_eq_map_of_forall₂ {γ : Type} {f : α → γ} {g : β → γ} {xs : List α} {ys : List β}
    (h : List.Forall₂ (fun x y => f x = g y) xs ys) : xs.map f = ys.map g := by
  rwa [← List.forall₂_eq_eq_eq, List.forall₂_map_left_iff, List.forall₂_map_right_iff]

lemma forall₂_getElem? {R : α → β → Prop} {xs : List α} {ys : List β} (h : List.Forall₂ R xs ys)
    (i : Nat) : Option.Rel R xs[i]? ys[i]? := by
  induction h generalizing i with
  | nil => exact .none
  | cons hxy _ ih =>
      cases i with
      | zero => exact .some hxy
      | succ i => exact ih i

/-- Two lists that are related to a third one, element by element, have a list between them. -/
lemma exists_forall₂_of_forall₂ {γ δ : Type} {A : α → β → Prop} {B : α → γ → Prop}
    {C : β → δ → Prop} {D : δ → γ → Prop} {xs : List α} {ys : List β} {zs : List γ}
    (hys : List.Forall₂ A xs ys) (hzs : List.Forall₂ B xs zs)
    (hstep : ∀ x ∈ xs, ∀ y z, A x y → B x z → ∃ w, C y w ∧ D w z) :
    ∃ ws, List.Forall₂ C ys ws ∧ List.Forall₂ D ws zs := by
  induction hys generalizing zs with
  | nil =>
      cases hzs
      exact ⟨[], .nil, .nil⟩
  | @cons x y xs ys hxy _ ih =>
      cases hzs with
      | @cons _ z _ zs hxz hzs =>
          obtain ⟨w, hyw, hwz⟩ := hstep x (by simp) y z hxy hxz
          obtain ⟨ws, hws, hws'⟩ := ih hzs fun x hx => hstep x (List.mem_cons_of_mem _ hx)
          exact ⟨w :: ws, .cons hyw hws, .cons hwz hws'⟩

/-- A fold succeeds exactly if each element is accepted, whatever was gathered before. -/
lemma exists_foldlM_eq_ok_iff {f : σ → α → Except ε σ} {P : α → Prop}
    (hf : ∀ s x, (∃ t, f s x = .ok t) ↔ P x) (xs : List α) (s : σ) :
    (∃ t, xs.foldlM f s = .ok t) ↔ ∀ x ∈ xs, P x := by
  induction xs generalizing s with
  | nil => simp
  | cons x xs ih =>
      simp only [List.foldlM_cons, bind_eq_ok_iff, List.forall_mem_cons]
      constructor
      · rintro ⟨t, s', hs', ht⟩
        exact ⟨(hf s x).mp ⟨s', hs'⟩, (ih s').mp ⟨t, ht⟩⟩
      · rintro ⟨hx, hxs⟩
        obtain ⟨s', hs'⟩ := (hf s x).mpr hx
        obtain ⟨t, ht⟩ := (ih s').mpr hxs
        exact ⟨t, s', hs', ht⟩

end FilterQuery
