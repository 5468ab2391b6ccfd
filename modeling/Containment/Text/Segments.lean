/-
# Separated texts

A location in a tree is named by the list of its segments. Written down, every segment follows
a separator, and one more separator may stand at the end. As long as no segment holds the
separator, a written location continues another one exactly when its segments do, if the
comparison stops at a separator.
-/

import Mathlib.Data.List.Basic

namespace Segments

variable {α : Type}

/-! ## Writing segments down -/

/-- Every segment behind a separator. -/
def rooted (separator : α) (segments : List (List α)) : List α :=
  segments.flatMap (separator :: ·)

variable {separator : α}

@[simp]
theorem rooted_nil : rooted separator [] = [] := rfl

@[simp]
theorem rooted_cons (segment : List α) (segments : List (List α)) :
    rooted separator (segment :: segments) = separator :: (segment ++ rooted separator segments) :=
  rfl

@[simp]
theorem rooted_append (segments segments' : List (List α)) :
    rooted separator (segments ++ segments') =
      rooted separator segments ++ rooted separator segments' :=
  List.flatMap_append

theorem rooted_eq_intercalate (segments : List (List α)) :
    rooted separator segments = [separator].intercalate ([] :: segments) := by
  induction segments with
  | nil => rfl
  | cons segment rest ih =>
      rw [rooted_cons, ih, List.intercalate_cons_cons, List.nil_append, List.singleton_append]
      cases rest with
      | nil => simp [List.intercalate]
      | cons segment' rest => rw [List.intercalate_cons_cons, List.intercalate_cons_cons]; simp

/-- Reading back what was written. -/
theorem splitOn_rooted [DecidableEq α] {segments : List (List α)}
    (h : ∀ segment ∈ segments, separator ∉ segment) :
    (rooted separator segments).splitOn separator = [] :: segments := by
  rw [rooted_eq_intercalate]
  refine List.splitOn_intercalate separator (fun segment hmem => ?_) (List.cons_ne_nil _ _)
  rcases List.mem_cons.mp hmem with rfl | hmem
  · exact List.not_mem_nil
  · exact h segment hmem

theorem not_mem_of_mem_splitOn [DecidableEq α] {text part : List α}
    (h : part ∈ text.splitOn separator) : separator ∉ part := by
  induction text generalizing part with
  | nil =>
      rw [List.splitOn_nil, List.mem_singleton] at h
      rw [h]
      exact List.not_mem_nil
  | cons a rest ih =>
      rw [List.splitOn_cons_eq_if_modifyHead] at h
      split_ifs at h with ha
      · rcases List.mem_cons.mp h with rfl | h
        · exact List.not_mem_nil
        · exact ih h
      · obtain ⟨first, others, hsplit⟩ := List.exists_cons_of_ne_nil
          (List.splitOn_ne_nil separator rest)
        rw [hsplit, List.modifyHead_cons] at h
        rcases List.mem_cons.mp h with rfl | h
        · rw [List.mem_cons, not_or]
          refine ⟨fun heq => ha (by simp [heq]), ih ?_⟩
          rw [hsplit]
          exact List.mem_cons_self
        · exact ih (by rw [hsplit]; exact List.mem_cons_of_mem first h)

/-! ## Comparing written locations -/

theorem append_separator_prefix_iff {segment segment' rest rest' : List α}
    (h : separator ∉ segment) (h' : separator ∉ segment') :
    segment ++ separator :: rest <+: segment' ++ separator :: rest' ↔
      segment = segment' ∧ rest <+: rest' := by
  induction segment generalizing segment' with
  | nil =>
      cases segment' with
      | nil => simp
      | cons b others =>
          have hb : separator ≠ b := fun heq => h' (heq ▸ List.mem_cons_self)
          simp [hb]
  | cons a others ih =>
      have ha : a ≠ separator := fun heq => h (heq ▸ List.mem_cons_self)
      cases segment' with
      | nil => simp [ha]
      | cons b others' =>
          rw [List.mem_cons, not_or] at h h'
          rw [List.cons_append, List.cons_append, List.cons_prefix_cons, ih h.2 h'.2,
            List.cons.injEq, and_assoc]

/-- With a separator at the end of both, one written location continues another exactly when its
segments do. -/
theorem rooted_prefix_iff {segments segments' : List (List α)}
    (h : ∀ segment ∈ segments, separator ∉ segment)
    (h' : ∀ segment ∈ segments', separator ∉ segment) :
    rooted separator segments ++ [separator] <+: rooted separator segments' ++ [separator] ↔
      segments <+: segments' := by
  -- Whatever follows a segment starts with a separator.
  have hstart (segments : List (List α)) :
      ∃ rest, rooted separator segments ++ [separator] = separator :: rest := by
    cases segments with
    | nil => exact ⟨[], rfl⟩
    | cons segment rest => exact ⟨_, rfl⟩
  induction segments generalizing segments' with
  | nil =>
      obtain ⟨rest, hrest⟩ := hstart segments'
      rw [hrest]
      simp
  | cons segment others ih =>
      cases segments' with
      | nil =>
          simp
      | cons segment' others' =>
          obtain ⟨hsegment, hothers⟩ := List.forall_mem_cons.mp h
          obtain ⟨hsegment', hothers'⟩ := List.forall_mem_cons.mp h'
          obtain ⟨rest, hrest⟩ := hstart others
          obtain ⟨rest', hrest'⟩ := hstart others'
          have hrests : rest <+: rest' ↔ others <+: others' := by
            simpa [hrest, hrest'] using ih hothers hothers'
          rw [rooted_cons, rooted_cons, List.cons_append, List.cons_append, List.append_assoc,
            List.append_assoc, hrest, hrest', List.cons_prefix_cons,
            append_separator_prefix_iff hsegment hsegment', List.cons_prefix_cons, hrests,
            eq_self, true_and]

/-! ## Walking a location -/

/-- Where a walk from the root ends: an empty segment and `here` stay, `up` leaves the last
directory, any other segment enters one. -/
def walk [DecidableEq α] (here up : List α) (parts : List (List α)) : List (List α) :=
  parts.foldl (fun location part =>
    if part = [] ∨ part = here then location
    else if part = up then location.dropLast
    else location ++ [part]) []

/-- Without special segments, a walk only goes down. -/
theorem walk_eq_filter [DecidableEq α] {here up : List α} {parts : List (List α)}
    (h : ∀ part ∈ parts, part ≠ here ∧ part ≠ up) :
    walk here up parts = parts.filter (· ≠ []) := by
  have hfrom (location : List (List α)) :
      parts.foldl (fun location part =>
        if part = [] ∨ part = here then location
        else if part = up then location.dropLast
        else location ++ [part]) location = location ++ parts.filter (· ≠ []) := by
    induction parts generalizing location with
    | nil => simp
    | cons part rest ih =>
        obtain ⟨⟨hhere, hup⟩, hrest⟩ := List.forall_mem_cons.mp h
        rw [List.foldl_cons, ih hrest]
        by_cases hnil : part = []
        · simp [hnil]
        · simp [hnil, hhere, hup]
  exact (hfrom []).trans (List.nil_append _)

end Segments
