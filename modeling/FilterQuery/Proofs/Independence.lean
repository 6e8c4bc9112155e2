import Mathlib.Data.List.Forall2
import FilterQuery.Proofs.Compilation
import FilterQuery.Selection.Statement

/-!
# Values never influence the text

Two selections are *alike* if they differ in nothing but defined values, and if those values take
the same placeholders: under a membership test both are lists of one length, or neither is a list.
Alike selections give the same statement and the same events, and as many bind values
(`Selection.select_eq_of_alike`).  What a caller binds, lists of lists and `null` included, can be
seen in the bind values only; the length of a list under a membership test is the one thing about
values that the text tells.

## The proof

`Logged.Alike` relates two runs with the same events and related results.  It follows the steps of
a run (`pure`, `bind`, `mapM`), so each function of the compiler has one lemma here, and that lemma
follows its definition.

## One value at a time

`Filter.Replaced` holds of two filters that differ in one value at one place of the tree.  The bind
values in front of that comparison and behind it are the same in both (`Filter.Replaced.split`).
-/

namespace FilterQuery

/-! ## Alike descriptions -/

/-- Two values take the same placeholders under an operator: under a membership test both are lists
of one length, or neither is a list. -/
def Operator.Alike (op : Operator) (v w : Value) : Prop :=
  op.spreadsLists = true → v.items?.map List.length = w.items?.map List.length

/-- Entries for the same operator that are both undefined, or both defined with alike values. -/
def Conditions.AlikeEntry (x y : Operator × Option Value) : Prop :=
  x.1 = y.1 ∧ Option.Rel x.1.Alike x.2 y.2

/-- Conditions with alike entries and the same join. -/
structure Conditions.Alike (a b : Conditions) : Prop where
  join : a.join = b.join
  entries : List.Forall₂ AlikeEntry a.entries b.entries

/-- Groups with the same fields and alike conditions on each. -/
def Group.Alike (a b : Group) : Prop :=
  List.Forall₂ (fun x y => x.1 = y.1 ∧ x.2.Alike y.2) a.fields b.fields

/-- Filters of the same form whose groups are alike. -/
inductive Filter.Alike : Filter → Filter → Prop
  | group {a b : Group} (h : a.Alike b) : Alike (.group a) (.group b)
  | sequence {as bs : List Filter} (h : List.Forall₂ Alike as bs) :
      Alike (.sequence as) (.sequence bs)

/-- Selections that agree in all but the values of their filters, which are alike. -/
structure Selection.Alike (a b : Selection) : Prop where
  columns : a.columns = b.columns
  filter : a.filter.Alike b.filter
  order : a.order? = b.order?
  page : a.page? = b.page?
  limit : a.limit? = b.limit?

lemma Conditions.alikeEntry_refl (entry : Operator × Option Value) :
    AlikeEntry entry entry := by
  obtain ⟨op, value?⟩ := entry
  cases value? with
  | none => exact ⟨rfl, .none⟩
  | some value => exact ⟨rfl, .some fun _ => rfl⟩

lemma Conditions.Alike.refl (conditions : Conditions) : conditions.Alike conditions :=
  ⟨rfl, List.forall₂_same.mpr fun entry _ => alikeEntry_refl entry⟩

lemma Group.Alike.refl (group : Group) : group.Alike group :=
  List.forall₂_same.mpr fun field _ => ⟨rfl, .refl field.2⟩

lemma Filter.Alike.refl (filter : Filter) : filter.Alike filter := by
  induction filter with
  | group fields => exact .group (.refl fields)
  | sequence children ih => exact .sequence (List.forall₂_same.mpr ih)

/-! ## Alike comparisons -/

namespace Operator

lemma Alike.length_spread? {op : Operator} {v w : Value} (h : op.Alike v w) :
    (op.spread? v).map List.length = (op.spread? w).map List.length := by
  rw [spread?, spread?]
  split
  · rename_i hop
    exact h hop
  · rfl

lemma Alike.marks {op : Operator} {v w : Value} (h : op.Alike v w) :
    op.marks v = op.marks w := by
  have hlength := h.length_spread?
  rw [Operator.marks, Operator.marks]
  cases hv : op.spread? v <;> cases hw : op.spread? w <;>
    simp_all [List.map_const']

lemma Alike.length_binds {op : Operator} {v w : Value} (h : op.Alike v w) :
    (op.binds v).length = (op.binds w).length := by
  have hlength := h.length_spread?
  rw [binds, binds]
  cases hv : op.spread? v <;> cases hw : op.spread? w <;> simp_all

end Operator

/-- Fragments with the same text and as many bind values. -/
structure Fragment.Alike (a b : Fragment) : Prop where
  sql : a.sql = b.sql
  length : a.params.length = b.params.length

lemma Comparison.alike_fragment (field : String) {op : Operator} {v w : Value}
    (h : op.Alike v w) :
    Fragment.Alike (fragment ⟨field, op, v⟩) (fragment ⟨field, op, w⟩) where
  sql := by simp only [fragment, h.marks]
  length := h.length_binds

namespace Fragment

variable {as bs : List Fragment}

lemma map_sql_eq (h : List.Forall₂ Alike as bs) : as.map sql = bs.map sql := by
  induction h with
  | nil => rfl
  | cons hab _ ih => simp [hab.sql, ih]

/-- Joining keeps fragments alike: which of them are left out depends on their texts. -/
lemma Alike.join (word : Join) (h : List.Forall₂ Alike as bs) :
    Alike (join word as) (join word bs) where
  sql := by rw [sql_join, sql_join, map_sql_eq h]
  length := by
    induction h with
    | nil => rfl
    | @cons a b as bs hab _ ih =>
        have hempty : a.isEmpty = b.isEmpty := by rw [isEmpty, isEmpty, hab.sql]
        simp only [Fragment.join] at ih ⊢
        by_cases hb : b.isEmpty = true
        · simpa [hempty, hb] using ih
        · simpa [hempty, hb, hab.length] using ih

lemma Alike.prefixed (word : String) {a b : Fragment} (h : Alike a b) :
    Alike (a.prefixed word) (b.prefixed word) := by
  rw [Fragment.prefixed, Fragment.prefixed, isEmpty, isEmpty, h.sql]
  split
  · exact h
  · exact ⟨rfl, h.length⟩

end Fragment

/-! ## Alike runs -/

/-- Two runs that emit the same events and have related results. -/
structure Logged.Alike {α : Type} (R : α → α → Prop) (x y : Logged α) : Prop where
  value : R x.value y.value
  events : x.events = y.events

namespace Logged

variable {α β γ : Type} {R : α → α → Prop} {S : β → β → Prop}

lemma Alike.pure {a b : α} (h : R a b) : Alike R (pure a) (pure b) :=
  ⟨h, rfl⟩

lemma Alike.emit {event event' : Event} (h : event = event') :
    Alike Eq (emit event) (emit event') :=
  ⟨rfl, by rw [h]⟩

lemma Alike.bind {x y : Logged α} {f g : α → Logged β} (h : Alike R x y)
    (hnext : ∀ a b, R a b → Alike S (f a) (g b)) : Alike S (x >>= f) (y >>= g) := by
  have hrest := hnext x.value y.value h.value
  exact ⟨hrest.value, by simp only [events_bind, h.events, hrest.events]⟩

lemma Alike.mapM {T : γ → γ → Prop} {f : γ → Logged α} {xs ys : List γ}
    (h : List.Forall₂ T xs ys) (hf : ∀ x y, T x y → Alike R (f x) (f y)) :
    Alike (List.Forall₂ R) (xs.mapM f) (ys.mapM f) := by
  induction h with
  | nil => exact Alike.pure .nil
  | cons hxy _ ih =>
      rw [List.mapM_cons, List.mapM_cons]
      refine (hf _ _ hxy).bind fun a b hab => ?_
      exact ih.bind fun as bs hrest => Alike.pure (.cons hab hrest)

end Logged

/-! ## Compiling alike descriptions -/

lemma Conditions.Alike.comparisons {a b : Conditions} (h : a.Alike b) (field : String) :
    List.Forall₂ Fragment.Alike ((a.comparisons field).map Comparison.fragment)
      ((b.comparisons field).map Comparison.fragment) := by
  have hdefined : List.Forall₂ (fun x y => x.1 = y.1 ∧ x.1.Alike x.2 y.2) a.defined b.defined := by
    refine List.rel_filterMap ?_ h.entries
    rintro ⟨op, v?⟩ ⟨op', w?⟩ ⟨rfl, hvalues⟩
    cases hvalues with
    | none => exact .none
    | some hvw => exact .some ⟨rfl, hvw⟩
  rw [Conditions.comparisons, Conditions.comparisons, List.map_map, List.map_map]
  refine List.rel_map ?_ hdefined
  rintro ⟨op, v⟩ ⟨op', w⟩ ⟨rfl, hvw⟩
  exact Comparison.alike_fragment field hvw

lemma Conditions.Alike.compile {a b : Conditions} (h : a.Alike b) (field : String) :
    Logged.Alike Fragment.Alike (a.compile field) (b.compile field) := by
  have hjoin := Fragment.Alike.join .and (h.comparisons field)
  exact (Logged.Alike.emit (by rw [hjoin.sql])).bind fun _ _ _ => .pure hjoin

lemma Group.Alike.join {a b : Group} (h : a.Alike b) : a.join = b.join := by
  have hjoins : (a.fields.filterMap fun field => field.2.join) =
      b.fields.filterMap fun field => field.2.join := by
    rw [Group.Alike] at h
    generalize a.fields = xs, b.fields = ys at h
    induction h with
    | nil => rfl
    | cons hxy _ ih => rw [List.filterMap_cons, List.filterMap_cons, hxy.2.join, ih]
  rw [Group.join, Group.join, hjoins]

lemma Group.Alike.compile {a b : Group} (h : a.Alike b) :
    Logged.Alike Fragment.Alike a.compile b.compile := by
  have hfields : Logged.Alike (List.Forall₂ Fragment.Alike)
      (a.fields.mapM fun field => field.2.compile field.1)
      (b.fields.mapM fun field => field.2.compile field.1) := by
    refine Logged.Alike.mapM h ?_
    rintro ⟨name, c⟩ ⟨name', d⟩ ⟨rfl, hcd⟩
    exact hcd.compile name
  rw [Group.compile, Group.compile, h.join]
  exact hfields.bind fun _ _ hfragments => .pure (Fragment.Alike.join b.join hfragments)

/-- Compiled filters with alike fragments that report the same join. -/
structure Compiled.Alike (a b : Compiled) : Prop where
  fragment : a.fragment.Alike b.fragment
  join : a.join = b.join

lemma Compiled.Alike.lastJoin {as bs : List Compiled} (h : List.Forall₂ Compiled.Alike as bs) :
    lastJoin as = lastJoin bs := by
  have hjoins : as.map Compiled.join = bs.map Compiled.join := by
    induction h with
    | nil => rfl
    | cons hab _ ih => simp [hab.join, ih]
  rw [Compiled.lastJoin, Compiled.lastJoin, ← List.getLast?_map, ← List.getLast?_map, hjoins]

namespace Filter

lemma compileAll_alike {as bs : List Filter}
    (h : List.Forall₂ (fun a b => Logged.Alike Compiled.Alike a.compile b.compile) as bs) :
    Logged.Alike (List.Forall₂ Compiled.Alike) (compileAll as) (compileAll bs) := by
  induction h with
  | nil => exact .pure .nil
  | cons hab _ ih =>
      rw [compileAll, compileAll]
      refine hab.bind fun a b hfirst => ?_
      exact ih.bind fun _ _ hrest => .pure (.cons hfirst hrest)

/-- **Compiling alike filters** emits the same events, reports the same join and gives the same
text, with as many bind values. -/
theorem Alike.compile {a b : Filter} (h : a.Alike b) :
    Logged.Alike Compiled.Alike a.compile b.compile := by
  induction a generalizing b with
  | group fields =>
      cases h with
      | group hfields =>
          rw [Filter.compile, Filter.compile, hfields.join]
          exact hfields.compile.bind fun _ _ hfragment => .pure ⟨hfragment, rfl⟩
  | sequence children ih =>
      cases h with
      | @sequence _ others hchildren =>
          have hall : List.Forall₂
              (fun a b => Logged.Alike Compiled.Alike a.compile b.compile) children others := by
            refine List.Forall₂.imp ?_ ((List.forall₂_and_left _ _).mpr ⟨ih, hchildren⟩)
            exact fun a b hab => hab.1 hab.2
          rw [Filter.compile, Filter.compile]
          refine (compileAll_alike hall).bind fun as bs hcompiled => .pure ?_
          have hfragments : List.Forall₂ Fragment.Alike (as.map Compiled.fragment)
              (bs.map Compiled.fragment) :=
            List.rel_map (fun _ _ hab => hab.fragment) hcompiled
          rw [Compiled.Alike.lastJoin hcompiled]
          exact ⟨.join _ hfragments, rfl⟩

lemma Alike.whereClause {a b : Filter} (h : a.Alike b) :
    Logged.Alike Fragment.Alike a.whereClause b.whereClause := by
  refine h.compile.bind fun x y hxy => ?_
  have hcount : x.fragment.markCount = y.fragment.markCount := by
    rw [Fragment.markCount, Fragment.markCount, hxy.fragment.sql]
  refine (Logged.Alike.emit (by rw [hcount, hxy.join])).bind fun _ _ _ => ?_
  exact .pure (hxy.fragment.prefixed "WHERE")

end Filter

lemma Selection.Alike.select {a b : Selection} (h : a.Alike b) (table : String) :
    Logged.Alike Fragment.Alike (a.select table) (b.select table) := by
  have htext : ∀ clause : String, a.statementText table clause = b.statementText table clause := by
    obtain ⟨columns, filter, order?, page?, limit?⟩ := a
    obtain ⟨columns', filter', order?', page?', limit?'⟩ := b
    obtain ⟨rfl, -, rfl, rfl, rfl⟩ := h
    exact fun _ => rfl
  refine h.filter.whereClause.bind fun x y hxy => ?_
  refine (Logged.Alike.emit (by rw [hxy.length])).bind fun _ _ _ => .pure ?_
  exact ⟨by rw [hxy.sql, htext], hxy.length⟩

/-! ## Replacing one value -/

lemma forall₂_append_cons {α : Type} {R : α → α → Prop} (hrefl : ∀ x, R x x) (front back : List α)
    {x y : α} (hxy : R x y) : List.Forall₂ R (front ++ x :: back) (front ++ y :: back) :=
  List.rel_append (List.forall₂_same.mpr fun z _ => hrefl z)
    (.cons hxy (List.forall₂_same.mpr fun z _ => hrefl z))

/-- The two filters differ in one defined value, which `field` is compared with by `op` at one place
of the tree: it is `v` in the first and `w` in the second. -/
inductive Filter.Replaced (field : String) (op : Operator) (v w : Value) : Filter → Filter → Prop
  | entry (before after : Entries String Conditions)
      (front back : Entries Operator (Option Value)) (join : Option Join) :
      Replaced field op v w
        (.group ⟨before ++ (field, ⟨front ++ (op, some v) :: back, join⟩) :: after⟩)
        (.group ⟨before ++ (field, ⟨front ++ (op, some w) :: back, join⟩) :: after⟩)
  | child (before after : List Filter) {a b : Filter} (h : Replaced field op v w a b) :
      Replaced field op v w (.sequence (before ++ a :: after)) (.sequence (before ++ b :: after))

namespace Filter.Replaced

variable {field : String} {op : Operator} {v w : Value} {a b : Filter}

/-- The comparisons in front of the replaced one and behind it are the same. -/
lemma split (h : Replaced field op v w a b) :
    ∃ before after : List Comparison,
      a.comparisons = before ++ ⟨field, op, v⟩ :: after ∧
      b.comparisons = before ++ ⟨field, op, w⟩ :: after := by
  induction h with
  | entry before after front back join =>
      refine ⟨Group.comparisons ⟨before⟩ ++ Conditions.comparisons field ⟨front, join⟩,
        Conditions.comparisons field ⟨back, join⟩ ++ Group.comparisons ⟨after⟩, ?_, ?_⟩ <;>
        simp [comparisons, Group.comparisons, Conditions.comparisons, Conditions.defined]
  | child before after _ ih =>
      obtain ⟨front, back, ha, hb⟩ := ih
      refine ⟨before.flatMap comparisons ++ front, back ++ after.flatMap comparisons, ?_, ?_⟩ <;>
        simp [comparisons, ha, hb]

/-- Filters that differ in one value are alike if that value takes the same placeholders in both. -/
lemma alike (h : Filter.Replaced field op v w a b) (hvw : op.Alike v w) : a.Alike b := by
  induction h with
  | entry before after front back join =>
      have hentry : Conditions.AlikeEntry (op, some v) (op, some w) := ⟨rfl, .some hvw⟩
      have hentries := forall₂_append_cons Conditions.alikeEntry_refl front back hentry
      exact .group (forall₂_append_cons (fun field => ⟨rfl, .refl field.2⟩) before after
        ⟨rfl, rfl, hentries⟩)
  | child before after _ ih => exact .sequence (forall₂_append_cons .refl before after ih)

end Filter.Replaced

/-- **Values never influence the text.**  Alike selections give the same statement, emit the same
events and report the same join, and they have as many bind values.  If they differ in one value
only, their bind values differ only where those of that comparison stand. -/
theorem Selection.select_eq_of_alike {a b : Selection} (h : a.Alike b) (table : String) :
    (a.select table).value.sql = (b.select table).value.sql ∧
    a.filter.compile.value.join = b.filter.compile.value.join ∧
    (a.select table).events = (b.select table).events ∧
    (a.select table).value.params.length = (b.select table).value.params.length ∧
    ∀ (field : String) (op : Operator) (v w : Value),
      Filter.Replaced field op v w a.filter b.filter →
      ∃ before after : List Comparison,
        a.filter.comparisons = before ++ ⟨field, op, v⟩ :: after ∧
        b.filter.comparisons = before ++ ⟨field, op, w⟩ :: after ∧
        (a.select table).value.params =
          before.flatMap (fun c => c.operator.binds c.value) ++ (op.binds v ++
            after.flatMap fun c => c.operator.binds c.value) ∧
        (b.select table).value.params =
          before.flatMap (fun c => c.operator.binds c.value) ++ (op.binds w ++
            after.flatMap fun c => c.operator.binds c.value) ∧
        (op.binds v).length = (op.binds w).length := by
  have hselect := h.select table
  refine ⟨hselect.value.sql, h.filter.compile.value.join, hselect.events, hselect.value.length, ?_⟩
  intro field op v w hreplaced
  obtain ⟨before, after, ha, hb⟩ := hreplaced.split
  have hparams : ∀ s : Selection, (s.select table).value.params =
      s.filter.comparisons.flatMap fun c => c.operator.binds c.value :=
    fun s => s.filter.params_whereClause
  have hpa : (a.select table).value.params =
      before.flatMap (fun c => c.operator.binds c.value) ++ (op.binds v ++
        after.flatMap fun c => c.operator.binds c.value) := by
    rw [hparams, ha, List.flatMap_append, List.flatMap_cons]
  have hpb : (b.select table).value.params =
      before.flatMap (fun c => c.operator.binds c.value) ++ (op.binds w ++
        after.flatMap fun c => c.operator.binds c.value) := by
    rw [hparams, hb, List.flatMap_append, List.flatMap_cons]
  refine ⟨before, after, ha, hb, hpa, hpb, ?_⟩
  have hlength := hselect.value.length
  rw [hpa, hpb] at hlength
  simpa using hlength

/-- A selection with a list under a membership test, among undefined entries and empty parts. -/
def tagged (tags : List Value) : Selection where
  columns := ["id"]
  filter := .sequence
    [.sequence [],
      .group ⟨[("rank", ⟨[(.lt, none), (.equals, some (.list [.int 1]))], none⟩),
        ("tag", ⟨[(.contains, none), (.notIn, some (.list tags))], some .or⟩),
        ("state", ⟨[(.gt, some .null)], none⟩)]⟩]
  order? := none
  page? := none
  limit? := some 5

lemma replaced_tagged (xs ys : List Value) :
    Filter.Replaced "tag" .notIn (.list xs) (.list ys) (tagged xs).filter (tagged ys).filter :=
  .child [.sequence []] []
    (.entry [("rank", ⟨[(.lt, none), (.equals, some (.list [.int 1]))], none⟩)]
      [("state", ⟨[(.gt, some .null)], none⟩)] [(.contains, none)] [] (some .or))

theorem select_eq_of_alike_tagged :
    (tagged [.text "?", .list [.null]]).Alike (tagged [.null, .int 3]) ∧
    ((tagged [.text "?", .list [.null]]).select "rows").value.sql =
      ((tagged [.null, .int 3]).select "rows").value.sql ∧
    ∃ before after : List Comparison,
      ((tagged [.text "?", .list [.null]]).select "rows").value.params =
        before.flatMap (fun c => c.operator.binds c.value) ++ ([.text "?", .list [.null]] ++
          after.flatMap fun c => c.operator.binds c.value) ∧
      ((tagged [.null, .int 3]).select "rows").value.params =
        before.flatMap (fun c => c.operator.binds c.value) ++ ([.null, .int 3] ++
          after.flatMap fun c => c.operator.binds c.value) := by
  have hreplaced := replaced_tagged [.text "?", .list [.null]] [.null, .int 3]
  have halike : (tagged [.text "?", .list [.null]]).Alike (tagged [.null, .int 3]) :=
    ⟨rfl, hreplaced.alike fun _ => rfl, rfl, rfl, rfl⟩
  obtain ⟨hsql, -, -, -, hone⟩ := Selection.select_eq_of_alike halike "rows"
  obtain ⟨before, after, -, -, ha, hb, -⟩ := hone "tag" .notIn _ _ hreplaced
  exact ⟨halike, hsql, before, after, ha, hb⟩

end FilterQuery
