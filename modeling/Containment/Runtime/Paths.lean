/-
# Path confinement

A rule admits a path by a comparison of texts. The two validators of paths leave only texts
that are the segments of a location, each behind a slash, with at most one slash at the end.
On such texts the comparison is the order of locations in a tree, and no accepted text walks
out of the directory it names.
-/

import Containment.Reference.Platform
import Containment.Runtime.Policy
import Containment.Text.Segments

namespace Containment

open Segments

variable {P : Platform}

/-- The parts of a path that name something. -/
def segments (path : String) : List (List Char) := (splitText '/' path).filter (· ≠ [])

/-- The location a path leads to. -/
def location (path : String) : List (List Char) := walk ['.'] ['.', '.'] (splitText '/' path)

/-! ## What the validators accept -/

/-- Segments behind slashes, and at most one slash at the end. -/
structure WrittenPath (path : String) : Prop where
  text : path.toList = rooted '/' (segments path) ∨
    path.toList = rooted '/' (segments path) ++ ['/']
  plain : ∀ part ∈ splitText '/' path, part ≠ ['.'] ∧ part ≠ ['.', '.']

theorem not_mem_segments {path : String} {segment : List Char} (h : segment ∈ segments path) :
    '/' ∉ segment :=
  not_mem_of_mem_splitOn (List.mem_of_mem_filter h)

/-- Segments behind slashes do not end in a slash. -/
theorem rdropWhile_rooted (path : String) :
    (rooted '/' (segments path)).rdropWhile (· = '/') = rooted '/' (segments path) := by
  rw [List.rdropWhile_eq_self_iff]
  intro hne hlast
  cases hsegments : segments path using List.reverseRecOn with
  | nil => exact hne (by rw [hsegments]; rfl)
  | append_singleton rest segment =>
      have hmem : segment ∈ segments path := by
        rw [hsegments]
        exact List.mem_append_right _ List.mem_cons_self
      have hsegment : segment ≠ [] := by simpa using (List.mem_filter.mp hmem).2
      have hend := not_mem_segments hmem
      simp only [hsegments, rooted_append, rooted_cons, rooted_nil, List.append_nil] at hlast
      rw [List.getLast_append_of_ne_nil _ (List.cons_ne_nil _ _),
        List.getLast_cons hsegment] at hlast
      exact hend ((of_decide_eq_true hlast) ▸ List.getLast_mem hsegment)

theorem hasDoubleSlash_append_slashes (text : List Char) :
    hasDoubleSlash (text ++ ['/', '/']) = true := by
  induction text with
  | nil => rfl
  | cons c rest ih =>
      cases rest with
      | nil => simp [hasDoubleSlash]
      | cons d rest =>
          rw [List.cons_append, List.cons_append, hasDoubleSlash, ← List.cons_append, ih,
            Bool.or_true]

/-- Without a double slash, stripping removes at most one slash. -/
theorem eq_rdropWhile_or {text : List Char} (h : hasDoubleSlash text = false) :
    text = text.rdropWhile (· = '/') ∨ text = text.rdropWhile (· = '/') ++ ['/'] := by
  induction text using List.reverseRecOn with
  | nil => exact .inl rfl
  | append_singleton text c _ =>
      by_cases hc : c = '/'
      · subst hc
        rw [List.rdropWhile_concat_pos _ _ _ (by simp)]
        cases text using List.reverseRecOn with
        | nil => exact .inr rfl
        | append_singleton text d =>
            have hd : d ≠ '/' := by
              rintro rfl
              rw [List.append_assoc, List.singleton_append, hasDoubleSlash_append_slashes] at h
              cases h
            rw [List.rdropWhile_concat_neg _ _ _ (by simpa using hd)]
            exact .inr rfl
      · rw [List.rdropWhile_concat_neg _ _ _ (by simpa using hc)]
        exact .inl rfl

theorem purePosixPath_eq {path : String}
    (h : ∀ part ∈ splitText '/' path, part ≠ ['.'] ∧ part ≠ ['.', '.']) :
    (purePosixPath path).toList = '/' :: ['/'].intercalate (segments path) := by
  have hparts : (splitText '/' path).filter (fun part => part ≠ [] ∧ part ≠ ['.']) =
      segments path := by
    refine List.filter_congr fun part hpart => ?_
    simp [(h part hpart).1]
  rw [purePosixPath, String.toList_ofList, hparts, List.intercalate]

/-- The checks both validators make. -/
theorem writtenPath_of_checks {path : String} (hdouble : hasDoubleSlash path.toList = false)
    (hdots : (splitText '/' path).all (fun part => part ≠ ['.'] && part ≠ ['.', '.']) = true)
    (hposix : path = "/" ∨ purePosixPath path = rstripSlash path) : WrittenPath path := by
  have hplain : ∀ part ∈ splitText '/' path, part ≠ ['.'] ∧ part ≠ ['.', '.'] := by
    simpa [List.all_eq_true] using hdots
  refine ⟨?_, hplain⟩
  rcases hposix with rfl | hposix
  · exact .inr (by decide)
  · have hstrip : '/' :: ['/'].intercalate (segments path) = path.toList.rdropWhile (· = '/') := by
      rw [← purePosixPath_eq hplain, hposix, rstripSlash, String.toList_ofList]
    cases hsegments : segments path with
    | nil =>
        -- A stripped text does not end in a slash.
        rw [hsegments] at hstrip
        have hlast := List.rdropWhile_last_not (fun c : Char => decide (c = '/')) path.toList
          (by rw [← hstrip]; exact List.cons_ne_nil _ _)
        simp only [← hstrip] at hlast
        exact absurd (by simp [List.intercalate]) hlast
    | cons segment rest =>
        have hrooted : rooted '/' (segment :: rest) = path.toList.rdropWhile (· = '/') := by
          rw [← hstrip, hsegments, rooted_eq_intercalate, List.intercalate_cons_cons]
          rfl
        rw [hrooted]
        exact eq_rdropWhile_or hdouble

theorem writtenPath_of_pathIsUnambiguous {path : String} (h : pathIsUnambiguous path = .ok ()) :
    WrittenPath path := by
  simp only [pathIsUnambiguous, bind_eq_ok, Unique.exists_iff, ensure_eq_ok] at h
  obtain ⟨⟨-, -, hdouble, hdots⟩, hposix⟩ := h
  exact writtenPath_of_checks hdouble hdots hposix

theorem writtenPath_of_canonicalPathPrefix {pathPrefix : String}
    (h : canonicalPathPrefix P pathPrefix = .ok ()) : WrittenPath pathPrefix := by
  simp only [canonicalPathPrefix, bind_eq_ok, Unique.exists_iff, ensure_eq_ok] at h
  obtain ⟨-, -, -, ⟨hdouble, hdots⟩, hposix⟩ := h
  exact writtenPath_of_checks hdouble hdots hposix.symm

namespace WrittenPath

variable {path : String} (h : WrittenPath path)

include h

/-- The whole text, cut at its slashes: the segments, and an empty part behind a slash at the
end. -/
theorem splitText_eq :
    splitText '/' path = [] :: segments path ∨
      splitText '/' path = [] :: (segments path ++ [[]]) := by
  have hslash : ∀ segment ∈ segments path, '/' ∉ segment := fun _ => not_mem_segments
  rcases h.text with htext | htext
  · left
    rw [splitText, htext, splitOn_rooted hslash]
  · right
    rw [splitText, htext, List.splitOn_append_cons_self, splitOn_rooted hslash, List.splitOn_nil,
      List.cons_append]

theorem location_eq : location path = segments path := walk_eq_filter h.plain

/-- Without its slash at the end, the text is the written segments. -/
theorem rdropWhile_eq : path.toList.rdropWhile (· = '/') = rooted '/' (segments path) := by
  rcases h.text with htext | htext
  · rw [htext, rdropWhile_rooted]
  · rw [htext, List.rdropWhile_concat_pos _ _ _ (by simp), rdropWhile_rooted]

end WrittenPath

/-! ## The comparison -/

theorem pathMatches_iff {path pathPrefix : String} (hpath : WrittenPath path)
    (hrulePath : WrittenPath pathPrefix) :
    PolicyEngine.pathMatches path pathPrefix = true ↔ segments pathPrefix <+: segments path := by
  rw [PolicyEngine.pathMatches]
  split_ifs with hroot
  · subst hroot
    have hnil : segments "/" = [] := by decide
    rw [hnil]
    simp
  · have hinside (text : String) : ∀ segment ∈ segments text, '/' ∉ segment :=
      fun _ => not_mem_segments
    have hslash := rooted_prefix_iff (hinside pathPrefix) (hinside path)
    have hnormal : (rstripSlash pathPrefix).toList = rooted '/' (segments pathPrefix) := by
      rw [rstripSlash, String.toList_ofList, hrulePath.rdropWhile_eq]
    have hequal : path = rstripSlash pathPrefix ↔ path.toList = rooted '/' (segments pathPrefix) := by
      rw [← hnormal, String.toList_inj]
    simp only [Bool.or_eq_true, decide_eq_true_eq, List.isPrefixOf_iff_prefix, hnormal, hequal]
    rw [← hslash]
    rcases hpath.text with htext | htext
    · -- The path ends behind its last segment: it may be the prefix itself.
      rw [htext, List.prefix_concat_iff, List.append_left_inj, eq_comm]
    · rw [← htext]
      refine ⟨?_, .inr⟩
      rintro (heq | hmatch)
      · have hstripped := hpath.rdropWhile_eq
        rw [heq, rdropWhile_rooted] at hstripped
        rw [heq, hstripped] at htext
        simp at htext
      · exact hmatch

/-- A rule admits a path exactly when the segments of one of its prefixes start those of the path.
An accepted path has no empty, `.` or `..` part behind its first slash, except an empty one at the
end, so an admitted path leads to a location below the one its prefix names. -/
theorem path_confinement (P : Platform) (path pathPrefix : String)
    (hpath : pathIsUnambiguous path = .ok ())
    (hrulePath : canonicalPathPrefix P pathPrefix = .ok ()) :
    (PolicyEngine.pathMatches path pathPrefix = true ↔ segments pathPrefix <+: segments path) ∧
    (∃ parts, (splitText '/' path = [] :: parts ∨ splitText '/' path = [] :: (parts ++ [[]])) ∧
      ∀ part ∈ parts, part ≠ [] ∧ part ≠ ['.'] ∧ part ≠ ['.', '.']) ∧
    (PolicyEngine.pathMatches path pathPrefix = true → location pathPrefix <+: location path) := by
  have hwritten := writtenPath_of_pathIsUnambiguous hpath
  have hwritten' := writtenPath_of_canonicalPathPrefix hrulePath
  have hmatches := pathMatches_iff hwritten hwritten'
  refine ⟨hmatches, ⟨segments path, hwritten.splitText_eq, fun part hpart => ?_⟩, ?_⟩
  · obtain ⟨hmem, hne⟩ := List.mem_filter.mp hpart
    exact ⟨by simpa using hne, hwritten.plain part hmem⟩
  · rw [hwritten.location_eq, hwritten'.location_eq]
    exact hmatches.mp

/-- A directory and a file in it, with a slash at the end of the directory. -/
theorem path_confinement_packages :
    PolicyEngine.pathMatches "/v1/packages/index" "/v1/packages/" = true ∧
      location "/v1/packages/" <+: location "/v1/packages/index" := by
  have hrulePath : canonicalPathPrefix referencePlatform "/v1/packages/" = .ok () := by decide
  obtain ⟨hmatches, -, hlocation⟩ := path_confinement referencePlatform "/v1/packages/index"
    "/v1/packages/" (by decide) hrulePath
  have hmatch := hmatches.mpr (by decide)
  exact ⟨hmatch, hlocation hmatch⟩

end Containment
