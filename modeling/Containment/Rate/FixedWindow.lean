/-
# Fixed-window pacing

A fixed-window limiter anchors its window at the first arrival behind the end of the one
before, and lets a bounded number of arrivals through in each window. Two windows start at
least one width apart, so an interval of one width meets at most two of them, wherever it
lies. That is the factor two between what a window lets through and what an arbitrary
interval can see.
-/

import Mathlib.Algebra.Order.Ring.Defs
import Mathlib.Data.List.Sort
import Mathlib.Tactic.Linarith

namespace FixedWindow

variable {T : Type} [LinearOrder T] {start : Option T} {arrivals : List (T × Bool)}

/-- Arrivals in order, none of them before the start of the current window. -/
def Ordered (start : Option T) (arrivals : List (T × Bool)) : Prop :=
  (arrivals.map Prod.fst).Pairwise (· ≤ ·) ∧
    ∀ anchor ∈ start, ∀ arrival ∈ arrivals, anchor ≤ arrival.1

theorem Ordered.tail {arrival : T × Bool} {rest : List (T × Bool)}
    (h : Ordered start (arrival :: rest)) : Ordered start rest ∧ Ordered (some arrival.1) rest := by
  obtain ⟨hsorted, hstart⟩ := h
  rw [List.map_cons, List.pairwise_cons] at hsorted
  refine ⟨⟨hsorted.2, fun anchor hanchor later hlater =>
    hstart anchor hanchor later (List.mem_cons_of_mem _ hlater)⟩, hsorted.2, ?_⟩
  intro anchor hanchor later hlater
  obtain rfl := Option.some.inj hanchor
  exact hsorted.1 later.1 (List.mem_map_of_mem hlater)

variable [CommRing T]

/-- Arrivals that a limiter lets through, with the flag whether one starts a new window. The
indices are the start of the current window and what it has let through already. -/
inductive Paced (width : T) (limit : ℕ) : Option T → ℕ → List (T × Bool) → Prop
  | nil {start : Option T} {count : ℕ} : Paced width limit start count []
  | stay {start now : T} {count : ℕ} {rest : List (T × Bool)} (inside : now < start + width)
      (room : count < limit) (next : Paced width limit (some start) (count + 1) rest) :
      Paced width limit (some start) count ((now, false) :: rest)
  | opens {start : Option T} {now : T} {count : ℕ} {rest : List (T × Bool)}
      (expired : ∀ earlier ∈ start, earlier + width ≤ now) (room : 0 < limit)
      (next : Paced width limit (some now) 1 rest) :
      Paced width limit start count ((now, true) :: rest)

variable {width : T} {limit count : ℕ}

/-! ## One window -/

/-- What is left of the current window fits into it. -/
theorem Paced.length_le_of_stay {window rest : List (T × Bool)} {anchor : T}
    (h : Paced width limit (some anchor) count (window ++ rest)) (hcount : count ≤ limit)
    (hstay : ∀ arrival ∈ window, arrival.2 = false) : count + window.length ≤ limit := by
  induction window generalizing count with
  | nil => exact hcount
  | cons arrival window ih =>
      cases h with
      | stay inside room next =>
          have hrest := ih next room fun later hlater => hstay later (List.mem_cons_of_mem _ hlater)
          rw [List.length_cons]
          omega
      | opens expired room next => exact absurd (hstay _ List.mem_cons_self) (by simp)

/-- The state of the limiter behind a part of the arrivals. -/
theorem Paced.drop {before after : List (T × Bool)} (hcount : count ≤ limit)
    (h : Paced width limit start count (before ++ after)) :
    ∃ start' count', count' ≤ limit ∧ Paced width limit start' count' after := by
  induction before generalizing start count with
  | nil => exact ⟨start, count, hcount, h⟩
  | cons arrival before ih =>
      cases h with
      | stay inside room next => exact ih room next
      | opens expired room next => exact ih room next

/-- Arrivals of which at most the first starts a window are no more than a window lets
through. -/
theorem Paced.length_le {before window after : List (T × Bool)}
    (h : Paced width limit start count (before ++ window ++ after)) (hcount : count ≤ limit)
    (hstay : ∀ arrival ∈ window.tail, arrival.2 = false) : window.length ≤ limit := by
  rw [List.append_assoc] at h
  obtain ⟨start', count', hcount', h'⟩ := h.drop hcount
  cases window with
  | nil => exact Nat.zero_le _
  | cons first rest =>
      cases h' with
      | stay inside room next =>
          have hrest := next.length_le_of_stay room hstay
          rw [List.length_cons]
          omega
      | opens expired room next =>
          have hrest := next.length_le_of_stay room hstay
          rw [List.length_cons]
          omega

/-! ## One interval -/

/-- The arrivals within one width from a time on. -/
def within (width t : T) (arrivals : List (T × Bool)) : List (T × Bool) :=
  arrivals.filter fun arrival => t ≤ arrival.1 ∧ arrival.1 < t + width

theorem within_cons_le (width t : T) (arrival : T × Bool) (rest : List (T × Bool)) :
    (within width t (arrival :: rest)).length ≤ (within width t rest).length + 1 := by
  rw [within, List.filter_cons]
  split
  · rfl
  · exact Nat.le_succ _

theorem within_cons_of_lt {t : T} {arrival : T × Bool} {rest : List (T × Bool)}
    (h : arrival.1 < t) : within width t (arrival :: rest) = within width t rest := by
  rw [within, List.filter_cons_of_neg]
  · rfl
  · simpa using fun hle => absurd h (not_lt.mpr hle)

theorem within_cons_of_le {t : T} {arrival : T × Bool} {rest : List (T × Bool)}
    (h : t + width ≤ arrival.1) : within width t (arrival :: rest) = within width t rest := by
  rw [within, List.filter_cons_of_neg]
  · rfl
  · simpa using fun _ => h

/-- What an interval of one width sees of the arrivals behind a window: all the window has
left if it starts in the interval, one more window if it starts less than a width before. -/
theorem Paced.within_le [IsStrictOrderedRing T] (h : Paced width limit start count arrivals) (hcount : count ≤ limit)
    (hordered : Ordered start arrivals) (t : T) :
    (within width t arrivals).length ≤ 2 * limit ∧
    (∀ anchor ∈ start, t - width < anchor →
      (within width t arrivals).length + count ≤ 2 * limit) ∧
    (∀ anchor ∈ start, t ≤ anchor → (within width t arrivals).length + count ≤ limit) ∧
    (∀ anchor ∈ start, t + width ≤ anchor → (within width t arrivals).length = 0) := by
  induction h with
  | nil =>
      refine ⟨Nat.zero_le _, fun _ _ _ => ?_, fun _ _ _ => ?_, fun _ _ _ => rfl⟩
      · exact (Nat.zero_add _).le.trans (hcount.trans (by omega))
      · exact (Nat.zero_add _).le.trans hcount
  | @stay anchor now count rest inside room next ih =>
      obtain ⟨hall, hwide, hnear, hfar⟩ := ih room hordered.tail.1
      have hcons := within_cons_le width t (now, false) rest
      refine ⟨?_, ?_, ?_, ?_⟩
      · -- A window that starts a width before the interval is over when the interval begins.
        by_cases hbefore : t - width < anchor
        · have hrest := hwide anchor rfl hbefore
          omega
        · rw [within_cons_of_lt (show now < t by linarith)]
          exact hall
      · intro anchor' hanchor hlt
        have hrest := hwide anchor' hanchor hlt
        omega
      · intro anchor' hanchor hle
        have hrest := hnear anchor' hanchor hle
        omega
      · intro anchor' hanchor hle
        have hrest := hfar anchor' hanchor hle
        obtain rfl := Option.some.inj hanchor
        have hnow : anchor ≤ now := hordered.2 anchor rfl _ List.mem_cons_self
        rw [within_cons_of_le (show t + width ≤ now by linarith)]
        exact hrest
  | @opens start now count rest expired room next ih =>
      obtain ⟨hall, hwide, hnear, hfar⟩ := ih room hordered.tail.2
      have hcons := within_cons_le width t (now, true) rest
      -- The new window itself: at most two windows from less than a width before the interval.
      have htwo : (within width t ((now, true) :: rest)).length ≤ 2 * limit := by
        by_cases hbefore : t - width < now
        · have hrest := hwide now rfl hbefore
          omega
        · by_cases hnow : now < t
          · rw [within_cons_of_lt hnow]
            exact hall
          · have hrest := hnear now rfl (not_lt.mp hnow)
            omega
      have hlater : ∀ bound, t + width ≤ bound → bound ≤ now →
          (within width t ((now, true) :: rest)).length = 0 := by
        intro bound hbound hnow
        have hout : t + width ≤ now := hbound.trans hnow
        rw [within_cons_of_le hout]
        exact hfar now rfl hout
      refine ⟨htwo, ?_, ?_, ?_⟩
      · intro anchor hanchor hlt
        have hnow : t ≤ now := by linarith [expired anchor hanchor]
        have hrest := hnear now rfl hnow
        omega
      · intro anchor hanchor hle
        have hover := expired anchor hanchor
        have hnone := hlater (anchor + width) (by linarith) hover
        omega
      · intro anchor hanchor hle
        exact hlater anchor hle (hordered.2 anchor hanchor _ List.mem_cons_self)

/-- The bound on every interval of one width, from an empty limiter on. -/
theorem Paced.within_le_two_mul [IsStrictOrderedRing T]
    (h : Paced width limit none 0 arrivals)
    (hsorted : (arrivals.map Prod.fst).Pairwise (· ≤ ·)) (t : T) :
    (within width t arrivals).length ≤ 2 * limit :=
  (h.within_le (Nat.zero_le _) ⟨hsorted, fun _ hnone => nomatch hnone⟩ t).1

end FixedWindow
