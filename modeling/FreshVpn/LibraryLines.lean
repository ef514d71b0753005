import Mathlib.Data.List.Infix

/-! Texts that are made of parts: lines, each with a separator behind it, and sections, each with a separator in front
of it. -/

namespace Lines

variable {α : Type*}

def unlines (sep : α) (parts : List (List α)) : List α := parts.flatMap (· ++ [sep])

def sections (sep : α) (parts : List (List α)) : List α := parts.flatMap (sep :: ·)

@[simp] theorem unlines_nil (sep : α) : unlines sep [] = [] := rfl

@[simp] theorem unlines_cons (sep : α) (part : List α) (parts : List (List α)) :
    unlines sep (part :: parts) = part ++ sep :: unlines sep parts := by
  rw [unlines, List.flatMap_cons, List.append_assoc]
  rfl

theorem unlines_append (sep : α) (parts others : List (List α)) :
    unlines sep (parts ++ others) = unlines sep parts ++ unlines sep others := List.flatMap_append

@[simp] theorem sections_cons (sep : α) (part : List α) (parts : List (List α)) :
    sections sep (part :: parts) = sep :: (part ++ sections sep parts) := rfl

variable {sep : α} {parts : List (List α)} {needle : List α}

theorem not_mem_unlines {c : α} (hsep : c ≠ sep) (h : ∀ part ∈ parts, c ∉ part) : c ∉ unlines sep parts := by
  intro hmem
  obtain ⟨part, hpart, hc⟩ := List.mem_flatMap.mp hmem
  rcases List.mem_append.mp hc with hc | hc
  · exact h part hpart hc
  · exact hsep (List.mem_singleton.mp hc)

theorem cons_intercalate (sep : α) (h : parts ≠ []) : sep :: [sep].intercalate parts = sections sep parts := by
  induction parts with
  | nil => exact absurd rfl h
  | cons part rest ih =>
    cases rest with
    | nil => simp [sections, List.intercalate]
    | cons next rest =>
      rw [sections_cons, ← ih (List.cons_ne_nil _ _), List.intercalate_cons_cons]
      simp

theorem forall_of_mem_splitOnP {p : α → Bool} {text part : List α} (h : part ∈ text.splitOnP p) :
    ∀ c ∈ part, p c = false := by
  induction text generalizing part with
  | nil =>
    rw [List.splitOnP_nil, List.mem_singleton] at h
    simp [h]
  | cons c rest ih =>
    rw [List.splitOnP_cons_eq_if_modifyHead] at h
    split_ifs at h with hc
    · rcases List.mem_cons.mp h with rfl | h
      · simp
      · exact ih h
    · obtain ⟨first, others, hsplit⟩ := List.exists_cons_of_ne_nil (List.splitOnP_ne_nil p rest)
      rw [hsplit, List.modifyHead_cons] at h
      rw [hsplit] at ih
      rcases List.mem_cons.mp h with rfl | h
      · rw [List.forall_mem_cons]
        exact ⟨Bool.eq_false_iff.mpr hc, ih List.mem_cons_self⟩
      · exact ih (List.mem_cons_of_mem _ h)

section
variable [DecidableEq α] {parts : List (List α)}

theorem splitOn_unlines {sep : α} (h : ∀ part ∈ parts, sep ∉ part) :
    (unlines sep parts).splitOn sep = parts ++ [[]] := by
  have hjoin : unlines sep parts = [sep].intercalate (parts ++ [[]]) := by
    induction parts with
    | nil => rfl
    | cons part rest ih =>
      rw [unlines_cons, ih fun other hother => h other (List.mem_cons_of_mem _ hother)]
      cases rest with
      | nil | cons => simp [List.intercalate]
  rw [hjoin]
  apply List.splitOn_intercalate
  · intro part hpart
    rcases List.mem_append.mp hpart with hpart | hpart
    · exact h part hpart
    · rw [List.mem_singleton.mp hpart]
      exact List.not_mem_nil
  · exact List.append_ne_nil_of_right_ne_nil _ (List.cons_ne_nil _ _)

theorem splitOn_sections {sep : α} (h : ∀ part ∈ parts, sep ∉ part) :
    (sections sep parts).splitOn sep = [] :: parts := by
  have hjoin : sections sep parts = [sep].intercalate ([] :: parts) := by
    cases parts with
    | nil => rfl
    | cons part rest =>
      rw [← cons_intercalate sep (List.cons_ne_nil part rest), List.intercalate_cons_cons]
      rfl
  rw [hjoin]
  apply List.splitOn_intercalate
  · intro part hpart
    rcases List.mem_cons.mp hpart with rfl | hpart
    · exact List.not_mem_nil
    · exact h part hpart
  · exact List.cons_ne_nil _ _

end

/-! ### What occurs in a text -/

theorem prefix_append_cons {text rest : List α} (hsep : sep ∉ needle) :
    needle <+: text ++ sep :: rest ↔ needle <+: text := by
  constructor
  · intro h
    rcases List.prefix_or_prefix_of_prefix h (List.prefix_append text (sep :: rest)) with htext | ⟨tail, rfl⟩
    · exact htext
    · cases tail with
      | nil =>
        rw [List.append_nil]
      | cons c tail =>
        have hc := (List.prefix_append_right_inj text).mp h
        rw [(List.cons_prefix_cons.mp hc).1] at hsep
        exact absurd (List.mem_append_right _ List.mem_cons_self) hsep
  · exact fun h => h.trans (List.prefix_append _ _)

theorem infix_or_infix {left right : List α} (hsep : sep ∉ needle) (h : needle <:+: left ++ sep :: right) :
    needle <:+: left ∨ needle <:+: right := by
  obtain ⟨before, after, heq⟩ := h
  rcases List.append_eq_append_iff.mp heq with ⟨rest, hleft, -⟩ | ⟨rest, hneedle, hrest⟩
  · exact Or.inl ⟨before, rest, hleft.symm⟩
  · cases rest with
    | nil =>
      rw [List.append_nil] at hneedle
      exact Or.inl ⟨before, [], by rw [List.append_nil, hneedle]⟩
    | cons c rest =>
      obtain ⟨rfl, hright⟩ := List.cons.inj hrest
      rcases List.append_eq_append_iff.mp hneedle with ⟨tail, -, htail⟩ | ⟨tail, -, htail⟩
      · rw [htail] at hsep
        exact absurd (List.mem_append_right _ List.mem_cons_self) hsep
      · cases tail with
        | nil =>
          rw [List.nil_append] at htail
          rw [← htail] at hsep
          exact absurd List.mem_cons_self hsep
        | cons c tail =>
          obtain ⟨-, htail⟩ := List.cons.inj htail
          exact Or.inr ⟨tail, after, by rw [hright, htail]; rfl⟩

theorem not_infix_unlines (hsep : sep ∉ needle) (hne : needle ≠ []) (h : ∀ part ∈ parts, ¬ needle <:+: part) :
    ¬ needle <:+: unlines sep parts := by
  induction parts with
  | nil => exact fun hoccurs => hne (List.eq_nil_of_infix_nil hoccurs)
  | cons part rest ih =>
    rw [unlines_cons]
    intro hoccurs
    rcases infix_or_infix hsep hoccurs with hpart | hrest
    · exact h part List.mem_cons_self hpart
    · exact ih (fun other hother => h other (List.mem_cons_of_mem _ hother)) hrest

theorem not_infix_of_mem {text : List α} {c : α} (hc : c ∈ needle) (h : c ∉ text) : ¬ needle <:+: text :=
  fun hoccurs => h (hoccurs.subset hc)

end Lines
