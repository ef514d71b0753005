import Mathlib.Data.List.Basic

/-! Runs of a partial transition function. A step that is not possible, or that the system does not survive, is `none`;
a run is a list of actions all of whose steps are taken. -/

namespace Run

variable {σ α : Type*}

def run (step : σ → α → Option σ) : σ → List α → Option σ
  | s, [] => some s
  | s, a :: as => (step s a).bind fun t => run step t as

variable (step : σ → α → Option σ)

@[simp] theorem run_nil (s : σ) : run step s [] = some s := rfl

theorem run_cons_eq_some {s u : σ} {a : α} {as : List α} :
    run step s (a :: as) = some u ↔ ∃ t, step s a = some t ∧ run step t as = some u := by
  rw [run, Option.bind_eq_some_iff]

theorem run_append (s : σ) (as bs : List α) : run step s (as ++ bs) = (run step s as).bind fun t => run step t bs := by
  induction as generalizing s with
  | nil =>
    rfl
  | cons a as ih =>
    rw [List.cons_append, run, run, Option.bind_assoc]
    exact congrArg _ (funext fun t => ih t)

theorem run_concat_eq_some {s u : σ} {as : List α} {a : α} :
    run step s (as ++ [a]) = some u ↔ ∃ t, run step s as = some t ∧ step t a = some u := by
  rw [run_append, Option.bind_eq_some_iff]
  simp [run]

theorem run_invariant {step : σ → α → Option σ} {I : σ → Prop} (hstep : ∀ s a t, I s → step s a = some t → I t)
    {s t : σ} {as : List α} (hs : I s) (hrun : run step s as = some t) : I t := by
  induction as generalizing s with
  | nil =>
    cases hrun
    exact hs
  | cons a as ih =>
    obtain ⟨u, hu, hrest⟩ := (run_cons_eq_some step).mp hrun
    exact ih (hstep s a u hs hu) hrest

/-- Every action of the run from `s` meets the condition in the state it is taken in. -/
def Meets (step : σ → α → Option σ) (ok : σ → α → Prop) : σ → List α → Prop
  | _, [] => True
  | s, a :: as => ok s a ∧ ∀ t, step s a = some t → Meets step ok t as

theorem run_invariant_of_meets {step : σ → α → Option σ} {ok : σ → α → Prop} {I : σ → Prop}
    (hstep : ∀ s a t, I s → ok s a → step s a = some t → I t) {s t : σ} {as : List α} (hs : I s)
    (hmeets : Meets step ok s as) (hrun : run step s as = some t) : I t := by
  induction as generalizing s with
  | nil =>
    cases hrun
    exact hs
  | cons a as ih =>
    obtain ⟨u, hu, hrest⟩ := (run_cons_eq_some step).mp hrun
    exact ih (hstep s a u hs hmeets.1 hu) (hmeets.2 u hu) hrest

theorem Meets.mono {step : σ → α → Option σ} {ok ok' : σ → α → Prop} (h : ∀ s a, ok s a → ok' s a) {s : σ}
    {as : List α} (hmeets : Meets step ok s as) : Meets step ok' s as := by
  induction as generalizing s with
  | nil => trivial
  | cons a as ih => exact ⟨h s a hmeets.1, fun t ht => ih (hmeets.2 t ht)⟩

theorem meets_concat {step : σ → α → Option σ} {ok : σ → α → Prop} {s : σ} {as : List α} {a : α} :
    Meets step ok s (as ++ [a]) ↔ Meets step ok s as ∧ ∀ t, run step s as = some t → ok t a := by
  induction as generalizing s with
  | nil =>
    constructor
    · rintro ⟨hok, -⟩
      refine ⟨trivial, ?_⟩
      rintro t ⟨⟩
      exact hok
    · exact fun h => ⟨h.2 s rfl, fun _ _ => trivial⟩
  | cons b as ih =>
    constructor
    · rintro ⟨hok, hrest⟩
      refine ⟨⟨hok, fun t ht => (ih.mp (hrest t ht)).1⟩, fun u hu => ?_⟩
      obtain ⟨t, ht, hu⟩ := (run_cons_eq_some step).mp hu
      exact (ih.mp (hrest t ht)).2 u hu
    · rintro ⟨⟨hok, hrest⟩, hlast⟩
      refine ⟨hok, fun t ht => ih.mpr ⟨hrest t ht, fun u hu => ?_⟩⟩
      exact hlast u ((run_cons_eq_some step).mpr ⟨t, ht, hu⟩)

/-- A condition is sharp for a property if the steps that meet it keep an invariant that implies the property, and every
other action breaks the property: then a run keeps to the property exactly as long as it keeps to the condition. -/
theorem forall_reached_iff_meets {step : σ → α → Option σ} {ok : σ → α → Prop} {I P : σ → Prop}
    (himp : ∀ s, I s → P s) (hstep : ∀ s a t, I s → ok s a → step s a = some t → I t)
    (hbreaks : ∀ s a, I s → ¬ ok s a → ∃ t, step s a = some t ∧ ¬ P t) {s : σ} (hs : I s) (as : List α) :
    (∀ bs t, bs <+: as → run step s bs = some t → P t) ↔ Meets step ok s as := by
  induction as generalizing s with
  | nil =>
    refine iff_of_true (fun bs t hbs hrun => ?_) trivial
    rw [List.prefix_nil.mp hbs, run_nil, Option.some.injEq] at hrun
    rw [← hrun]
    exact himp s hs
  | cons a as ih =>
    constructor
    · intro h
      have hok : ok s a := by
        by_contra hnot
        obtain ⟨t, ht, hbroken⟩ := hbreaks s a hs hnot
        refine hbroken (h [a] t (List.prefix_append [a] as) ?_)
        exact (run_cons_eq_some step).mpr ⟨t, ht, rfl⟩
      refine ⟨hok, fun t ht => (ih (hstep s a t hs hok ht)).mp fun bs u hbs hrun => ?_⟩
      refine h (a :: bs) u ((List.prefix_cons_inj a).mpr hbs) ?_
      exact (run_cons_eq_some step).mpr ⟨t, ht, hrun⟩
    · rintro ⟨hok, hrest⟩ bs u hbs hrun
      cases bs with
      | nil =>
        cases hrun
        exact himp s hs
      | cons b bs =>
        obtain ⟨rfl, htail⟩ := List.cons_prefix_cons.mp hbs
        obtain ⟨t, ht, hrun⟩ := (run_cons_eq_some step).mp hrun
        exact (ih (hstep s b t hs hok ht)).mpr (hrest t ht) bs u htail hrun

/-- The same for actions that are always possible and keep the property exactly if they meet the condition. -/
theorem forall_reached_iff_of_step_iff {step : σ → α → Option σ} {ok : σ → α → Prop} {P : σ → Prop}
    (hstep : ∀ s a, P s → ∃ t, step s a = some t ∧ (P t ↔ ok s a)) (s : σ) (as : List α) :
    (∀ bs t, bs <+: as → run step s bs = some t → P t) ↔ P s ∧ Meets step ok s as := by
  by_cases hs : P s
  · rw [and_iff_right hs]
    refine forall_reached_iff_meets (fun _ h => h) (fun s a t h hok ht => ?_) (fun s a h hnot => ?_) hs as
    · obtain ⟨t', ht', hiff⟩ := hstep s a h
      cases ht.symm.trans ht'
      exact hiff.mpr hok
    · obtain ⟨t, ht, hiff⟩ := hstep s a h
      exact ⟨t, ht, fun hp => hnot (hiff.mp hp)⟩
  · exact iff_of_false (fun hall => hs (hall [] s List.nil_prefix rfl)) fun h => hs h.1

/-! ### Steps with output -/

def transduce {β : Type*} (step : σ → α → Option (List β × σ)) : σ → List α → Option (List β × σ)
  | s, [] => some ([], s)
  | s, a :: as => (step s a).bind fun (out, t) => (transduce step t as).map fun (rest, u) => (out ++ rest, u)

theorem transduce_cons_silent {β : Type*} {step : σ → α → Option (List β × σ)} {s t : σ} {a : α}
    (h : step s a = some ([], t)) (as : List α) : transduce step s (a :: as) = transduce step t as := by
  rw [transduce, h, Option.bind_some]
  dsimp only
  cases transduce step t as <;> rfl

theorem transduce_append {β : Type*} {step : σ → α → Option (List β × σ)} {s t u : σ} {as bs : List α}
    {out rest : List β} (has : transduce step s as = some (out, t)) (hbs : transduce step t bs = some (rest, u)) :
    transduce step s (as ++ bs) = some (out ++ rest, u) := by
  induction as generalizing s out with
  | nil =>
    cases has
    exact hbs
  | cons a as ih =>
    rw [transduce, Option.bind_eq_some_iff] at has
    obtain ⟨⟨first, v⟩, hfirst, has⟩ := has
    obtain ⟨⟨more, w⟩, hmore, heq⟩ := Option.map_eq_some_iff.mp has
    cases heq
    rw [List.cons_append, transduce, hfirst, Option.bind_some]
    dsimp only
    rw [ih hmore, Option.map_some, List.append_assoc]

end Run
