/-
# Canonical texts that are not recognised

The encoder asks every string of a value to be in NFC. The recogniser asks the same of the
whole text, in which a control character has become an escape. The escape of a line feed ends
with the letter `n`, and a combining tilde behind the line feed combines with that letter. So
the encoder writes texts that the recogniser refuses: exactly those in which the end of an
escape combines with what follows it.
-/

import Containment.Json.Normalization
import Containment.Models.Action
import Containment.Models.Event
import Containment.Models.NormalForm
import Containment.Reference.Platform
import Mathlib.Data.List.Chain

namespace Containment

open Json

/-- The text is in NFC. -/
def Platform.IsNfc (P : Platform) (cs : List Char) : Prop :=
  P.normalizeNfc (String.ofList cs) = String.ofList cs

variable {P : Platform}

/-- A canonical text is recognised, and can be the payload of an event or the body of an
action. -/
structure Recognised (P : Platform) (text : String) : Prop where
  canonical : canonicalizeJsonText P text = .ok ()
  payload : (utf8 text).length ≤ maxEventPayloadBytes → payloadIsCanonical P text = .ok ()
  body : bodyIsCanonical P text = .ok ()

theorem isNfc_toList {s : String} : P.IsNfc s.toList ↔ P.normalizeNfc s = s := by
  rw [Platform.IsNfc, String.ofList_toList]

mutual

theorem isNfc_of_admissible : ∀ v : Json, Admissible P v → ∀ s ∈ v.strings, P.IsNfc s.toList
  | .null, _, _, hs => nomatch hs
  | .bool _, _, _, hs => nomatch hs
  | .int _, _, _, hs => nomatch hs
  | .str _, h, _, hs => by
      obtain rfl := List.mem_singleton.mp hs
      exact isNfc_toList.mpr h
  | .arr items, h, s, hs => isNfc_of_admissibleItems items h s hs
  | .obj fields, h, s, hs => isNfc_of_admissibleFields fields h.1 h.2.2 s hs

theorem isNfc_of_admissibleItems : ∀ items : List Json, AdmissibleItems P items →
    ∀ s ∈ stringsItems items, P.IsNfc s.toList
  | [], _, _, hs => nomatch hs
  | x :: rest, h, s, hs => by
      rcases List.mem_append.mp hs with hs | hs
      · exact isNfc_of_admissible x h.1 s hs
      · exact isNfc_of_admissibleItems rest h.2 s hs

theorem isNfc_of_admissibleFields : ∀ fields : List (String × Json),
    (∀ field ∈ fields, P.normalizeNfc field.1 = field.1) → AdmissibleFields P fields →
    ∀ s ∈ stringsFields fields, P.IsNfc s.toList
  | [], _, _, _, hs => nomatch hs
  | (key, value) :: rest, hkeys, h, s, hs => by
      rcases List.mem_cons.mp hs with rfl | hs
      · exact isNfc_toList.mpr (hkeys _ List.mem_cons_self)
      rcases List.mem_append.mp hs with hs | hs
      · exact isNfc_of_admissible value h.1 s hs
      · exact isNfc_of_admissibleFields rest (fun field hfield => hkeys field (List.mem_cons_of_mem _ hfield))
          h.2 s hs

end

/-- Writing what was read from a canonical text gives the text again. -/
theorem canonicalJson_orderForJcs {v : Json} {text : String} (h : canonicalJson P v = .ok text) :
    canonicalJson P v.orderForJcs = .ok text := by
  obtain ⟨hheight, hnodes, hadmissible, hlength, rfl⟩ := canonicalJson_eq_ok.mp h
  have hbytes := canonicalJsonBytes_orderForJcs (canonicalJsonBytes_eq_ok.mpr ⟨h, rfl⟩)
  obtain ⟨htext, -⟩ := canonicalJsonBytes_eq_ok.mp hbytes
  rwa [orderForJcs_idem] at htext

/-- Of the checks of the recogniser only the first one can fail. -/
theorem canonicalizeJsonText_iff {v : Json} {text : String} (h : canonicalJson P v = .ok text) :
    canonicalizeJsonText P text = .ok () ↔ P.normalizeNfc text = text := by
  simp only [canonicalizeJsonText, requireNfc, parseCanonicalText_of_canonicalJson h,
    canonicalJson_orderForJcs h, except_ok_bind, bind_eq_ok, Unique.exists_iff, ensure_eq_ok,
    and_true]

theorem normalizeNfc_text_iff (hP : NormalTexts P.IsNfc) {v : Json} {text : String}
    (h : canonicalJson P v = .ok text) :
    P.normalizeNfc text = text ↔ ∀ s ∈ v.strings, EscapesApart P.IsNfc s.toList := by
  obtain ⟨-, -, hadmissible, -, rfl⟩ := canonicalJson_eq_ok.mp h
  have hstring {s : String} (hs : s ∈ v.strings) :
      P.IsNfc (escaped s.toList) ↔ EscapesApart P.IsNfc s.toList :=
    hP.escaped_iff (show P.IsNfc ([] ++ s.toList) from isNfc_of_admissible v hadmissible s hs)
  rw [← isNfc_toList, Json.text, String.toList_ofList, hP.dumps_iff]
  simp only [mem_strings_orderForJcs]
  exact forall₂_congr fun s hs => hstring hs

/-- A canonical text is recognised exactly if in none of its strings and keys the escape of a
control character combines with what follows it. -/
theorem recognised_iff (P : Platform) (hP : NormalTexts P.IsNfc) (v : Json) (text : String)
    (h : canonicalJson P v = .ok text) :
    Recognised P text ↔ ∀ s ∈ v.strings, EscapesApart P.IsNfc s.toList := by
  rw [← normalizeNfc_text_iff hP h, ← canonicalizeJsonText_iff h]
  refine ⟨Recognised.canonical, fun hcanonical => ⟨hcanonical, fun hlength => ?_, ?_⟩⟩
  · rw [payloadIsCanonical, hcanonical, except_ok_bind, ensure_of hlength]
  · rw [bodyIsCanonical, parseCanonicalText_of_canonicalJson h, except_ok_bind,
      canonicalJson_orderForJcs h, except_ok_bind, ensure_of rfl]

/-! ## A letter and a combining tilde -/

/-- The one composition that the texts below need: `n` and a combining tilde. -/
def composeTilde : List Char → List Char
  | [] => []
  | [c] => [c]
  | c :: d :: rest =>
      if c = 'n' ∧ d = '\u0303' then '\u00f1' :: composeTilde rest
      else c :: composeTilde (d :: rest)

/-- The reference platform, with a normalization that composes. -/
def composingPlatform : Platform :=
  { referencePlatform with normalizeNfc := fun s => String.ofList (composeTilde s.toList) }

/-- A text that the composition leaves alone has no such pair in it. -/
theorem composeTilde_eq_self {cs : List Char} :
    composeTilde cs = cs ↔ cs.IsChain fun c d => ¬ (c = 'n' ∧ d = '\u0303') := by
  fun_induction composeTilde cs with
  | case1 => simp
  | case2 c => simp
  | case3 c d rest hpair ih =>
      obtain ⟨rfl, rfl⟩ := hpair
      simp
  | case4 c d rest hpair ih =>
      rw [List.cons.injEq, List.isChain_cons_cons, ih]
      simp [hpair]

theorem isNfc_composingPlatform {cs : List Char} :
    composingPlatform.IsNfc cs ↔ cs.IsChain fun c d => ¬ (c = 'n' ∧ d = '\u0303') := by
  rw [← composeTilde_eq_self, Platform.IsNfc]
  change String.ofList (composeTilde (String.ofList cs).toList) = String.ofList cs ↔ _
  rw [String.toList_ofList]
  exact ⟨fun heq => String.ofList_injective heq, fun heq => by rw [heq]⟩

theorem ne_tilde {c : Char} (h : c.toNat < 128) : c ≠ '\u0303' := by
  rintro rfl
  exact absurd h (by decide)

theorem normalTexts_composingPlatform : NormalTexts composingPlatform.IsNfc where
  ascii {cs} hascii := by
    rw [isNfc_composingPlatform]
    induction cs with
    | nil => exact .nil
    | cons c rest ih =>
        refine (ih fun d hd => hascii d (List.mem_cons_of_mem c hd)).cons fun d hd hpair => ?_
        exact ne_tilde (hascii d (List.mem_cons_of_mem c (List.mem_of_mem_head? hd))) hpair.2
  stretch h := by
    rw [isNfc_composingPlatform] at h
    exact ⟨isNfc_composingPlatform.mpr h.left_of_append,
      isNfc_composingPlatform.mpr h.right_of_append⟩
  boundary hc hcs hds := by
    rw [isNfc_composingPlatform] at *
    refine hcs.append hds fun x _ d hd hpair => ?_
    obtain rfl := Option.some.inj hd
    exact ne_tilde hc hpair.2
  inert hc hds := by
    rw [isNfc_composingPlatform] at *
    refine hds.cons fun d _ hpair => ?_
    rcases hc with rfl | rfl
    · exact absurd hpair.1 (by decide)
    · exact absurd hpair.1 (by decide)

/-- A short string that is in NFC has a canonical text. -/
theorem canonicalJson_str {s : String} (hnfc : P.normalizeNfc s = s)
    (hlength : (utf8 (Json.str s).text).length ≤ maxCanonicalJsonBytes) :
    canonicalJson P (.str s) = .ok (Json.str s).text :=
  canonicalJson_eq_ok.mpr ⟨Nat.zero_le _, (by decide : ((1 : ℕ) : ℤ) ≤ maxJsonNodes), hnfc, hlength, rfl⟩

/-- A line feed and a combining tilde. -/
theorem refused_tilde :
    ¬ ∀ (P : Platform), NormalTexts P.IsNfc → ∀ (v : Json) (text : String),
      canonicalJson P v = .ok text → Recognised P text := by
  intro hclaim
  have htext : canonicalJson composingPlatform (.str "\n\u0303") =
      .ok (Json.str "\n\u0303").text := canonicalJson_str (by decide) (by decide)
  have hrecognised := hclaim _ normalTexts_composingPlatform _ _ htext
  have hnormal := (canonicalizeJsonText_iff htext).mp hrecognised.canonical
  exact absurd hnormal (by decide)

/-- A line feed between two letters. -/
theorem recognised_lines : NormalTexts composingPlatform.IsNfc ∧
    canonicalJson composingPlatform (.str "a\nb") = .ok (Json.str "a\nb").text ∧
    Recognised composingPlatform (Json.str "a\nb").text := by
  have htext : canonicalJson composingPlatform (.str "a\nb") = .ok (Json.str "a\nb").text :=
    canonicalJson_str (by decide) (by decide)
  refine ⟨normalTexts_composingPlatform, htext,
    (recognised_iff _ normalTexts_composingPlatform _ _ htext).mpr fun s hs => ?_⟩
  obtain rfl := List.mem_singleton.mp hs
  refine ⟨fun hcontrol => absurd hcontrol (by decide), fun _ => ?_,
    fun hcontrol => absurd hcontrol (by decide), trivial⟩
  exact isNfc_composingPlatform.mpr (by decide)

end Containment
