import Mathlib.Data.List.Basic

/-! Procedures: operations on a state that report success and may fail halfway, leaving what they have done so far. -/

variable {σ β α : Type*}

/-- An operation on a state, with the success it reports. -/
abbrev Procedure (σ : Type*) := σ → Bool × σ

namespace Procedure

def done : Procedure σ := fun s => (true, s)

/-- The procedure that changes the state and succeeds. -/
def perform (change : σ → σ) : Procedure σ := fun s => (true, change s)

def andThen (f g : Procedure σ) : Procedure σ := fun s => if (f s).1 then g (f s).2 else (false, (f s).2)

def each (f : α → Procedure σ) : List α → σ → σ
  | [], s => s
  | a :: as, s => each f as (f a s).2

/-- Runs the procedure for one element after the other until it fails. -/
def untilFailure (f : α → Procedure σ) : List α → Procedure σ
  | [] => done
  | a :: as => (f a).andThen (untilFailure f as)

/-! ### What holds after a procedure -/

/-- From a state with `pre` the procedure ends in one with `post` if it succeeds, and in one with `fail` if not. -/
def Spec (pre : σ → Prop) (f : Procedure σ) (post fail : σ → Prop) : Prop :=
  ∀ s, pre s → if (f s).1 then post (f s).2 else fail (f s).2

variable {f : Procedure σ} {pre post : σ → Prop} {fail : σ → Prop} {part : σ → β} {s : σ}
  {g : Procedure σ} {I : List α → σ → Prop}

theorem Spec.andThen {mid : σ → Prop} (hf : Spec pre f mid fail) (hg : Spec mid g post fail) :
    Spec pre (f.andThen g) post fail := by
  intro s hs
  have hfirst := hf s hs
  unfold Procedure.andThen
  cases h : (f s).1 with
  | true =>
    rw [h, if_pos rfl] at hfirst
    exact hg _ hfirst
  | false =>
    rw [h, if_neg Bool.false_ne_true] at hfirst
    exact hfirst

theorem spec_perform {change : σ → σ} (h : ∀ s, pre s → post (change s)) :
    Spec pre (perform change) post fail := fun s hs => h s hs

theorem Spec.imp {pre' post' fail' : σ → Prop} (hf : Spec pre f post fail) (hpre : ∀ s, pre' s → pre s)
    (hpost : ∀ s, post s → post' s) (hfail : ∀ s, fail s → fail' s) : Spec pre' f post' fail' := by
  intro s hs
  have hend := hf s (hpre s hs)
  split
  · rename_i h
    rw [if_pos h] at hend
    exact hpost _ hend
  · rename_i h
    rw [if_neg h] at hend
    exact hfail _ hend

theorem Spec.holds (hf : Spec pre f post post) (hs : pre s) : post (f s).2 := by
  simpa using hf s hs

theorem Spec.of_success (hf : Spec pre f post fail) (hs : pre s) (h : (f s).1 = true) : post (f s).2 := by
  simpa [h] using hf s hs

/-! ### What a procedure does not touch -/

/-- The procedure leaves this part of the state as it is. -/
def Keeps (f : Procedure σ) (part : σ → β) : Prop := ∀ s, part (f s).2 = part s

/-- A specification in terms of a part of the state. -/
def SpecOn (part : σ → β) (pre : β → Prop) (f : Procedure σ) (post fail : β → Prop) : Prop :=
  Spec (fun s => pre (part s)) f (fun s => post (part s)) (fun s => fail (part s))

theorem SpecOn.andThen {P M Q F : β → Prop} (hf : SpecOn part P f M F) (hg : SpecOn part M g Q F) :
    SpecOn part P (f.andThen g) Q F :=
  Spec.andThen hf hg

theorem Keeps.specOn (hf : f.Keeps part) {P F : β → Prop} (hfail : ∀ b, P b → F b) : SpecOn part P f P F := by
  intro s hs
  dsimp only
  rw [hf s]
  split
  · exact hs
  · exact hfail _ hs

/-- What a procedure does not touch can be added to what holds before and after it. -/
theorem Spec.frame (hf : Spec pre f post fail) (hkeeps : f.Keeps part) (Q : β → Prop) :
    Spec (fun s => pre s ∧ Q (part s)) f (fun s => post s ∧ Q (part s)) fail := by
  intro s hs
  have hend := hf s hs.1
  dsimp only
  rw [hkeeps s]
  split
  · rename_i h
    rw [if_pos h] at hend
    exact ⟨hend, hs.2⟩
  · rename_i h
    rwa [if_neg h] at hend

theorem keeps_done (part : σ → β) : (done : Procedure σ).Keeps part := fun _ => rfl

theorem Keeps.andThen (hf : f.Keeps part) (hg : g.Keeps part) : (f.andThen g).Keeps part := by
  intro s
  unfold Procedure.andThen
  split
  · calc part (g (f s).2).2 = part (f s).2 := hg _
      _ = part s := hf s
  · exact hf s

theorem keeps_untilFailure {f : α → Procedure σ} (hf : ∀ a, (f a).Keeps part) (as : List α) :
    (untilFailure f as).Keeps part := by
  induction as with
  | nil =>
    exact keeps_done part
  | cons a as ih =>
    exact (hf a).andThen ih

theorem each_keeps {f : α → Procedure σ} (hf : ∀ a, (f a).Keeps part) (as : List α) (s : σ) :
    part (each f as s) = part s := by
  induction as generalizing s with
  | nil =>
    rfl
  | cons a as ih =>
    exact (ih _).trans (hf a s)

/-! ### Loops

The invariant of a loop speaks of the elements that the loop has seen. -/

theorem each_rule {f : α → Procedure σ} {as : List α}
    (hstep : ∀ seen a s, a ∈ as → I seen s → I (seen ++ [a]) (f a s).2) (hs : I [] s) : I as (each f as s) := by
  suffices hrest : ∀ rest seen s, rest ⊆ as → I seen s → I (seen ++ rest) (each f rest s) by
    exact hrest as [] s (List.Subset.refl as) hs
  intro rest
  induction rest with
  | nil =>
    intro seen s _ hs
    rwa [List.append_nil]
  | cons a rest ih =>
    intro seen s hsub hs
    obtain ⟨ha, hrest⟩ := List.cons_subset.mp hsub
    rw [List.append_cons]
    exact ih _ _ hrest (hstep seen a s ha hs)

theorem spec_untilFailure {f : α → Procedure σ} {as : List α}
    (hstep : ∀ seen, ∀ a ∈ as, Spec (I seen) (f a) (I (seen ++ [a])) fail) :
    Spec (I []) (untilFailure f as) (I as) fail := by
  suffices hrest : ∀ rest seen, rest ⊆ as → Spec (I seen) (untilFailure f rest) (I (seen ++ rest)) fail by
    exact hrest as [] (List.Subset.refl as)
  intro rest
  induction rest with
  | nil =>
    intro seen _
    rw [List.append_nil]
    exact fun s hs => hs
  | cons a rest ih =>
    intro seen hsub
    obtain ⟨ha, hrest⟩ := List.cons_subset.mp hsub
    rw [List.append_cons]
    exact (hstep seen a ha).andThen (ih _ hrest)

end Procedure
