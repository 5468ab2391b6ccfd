/-
# One identifier, two validators

A rule of the manifest and an action name the same things, and each side has its own
validator. They agree on path prefixes and on the names of hosts. They disagree on two kinds
of texts. The action's check of a pin does not encode the decoded octets again, so it leaves
the two surplus bits of the last character free, and the action's pattern for hosts has no
colon, so it refuses the IPv6 literals that the manifest accepts.
-/

import Containment.Models.Action
import Containment.Reference.Platform
import Containment.Text.Segments

namespace Containment

variable {P : Platform}

/-! ## Pins -/

theorem b64Char_b64Value {c : Char} {n : ℕ} (h : b64Value c = some n) : b64Char n = c ∧ n < 64 := by
  have hofNat : Char.ofNat c.toNat = c := Char.ofNat_toNat c
  unfold b64Value at h
  split_ifs at h with hupper hlower hdigit hminus hline
  · have hlow : 65 ≤ c.toNat := hupper.1
    have hhigh : c.toNat ≤ 90 := hupper.2
    obtain rfl := Option.some.inj h
    rw [b64Char, if_pos (by omega), Nat.add_sub_cancel' hlow, hofNat]
    exact ⟨rfl, by omega⟩
  · have hlow : 97 ≤ c.toNat := hlower.1
    have hhigh : c.toNat ≤ 122 := hlower.2
    obtain rfl := Option.some.inj h
    rw [b64Char, if_neg (by omega), if_pos (by omega), Nat.add_sub_cancel' (by omega), hofNat]
    exact ⟨rfl, by omega⟩
  · have hlow : 48 ≤ c.toNat := hdigit.1
    have hhigh : c.toNat ≤ 57 := hdigit.2
    obtain rfl := Option.some.inj h
    rw [b64Char, if_neg (by omega), if_neg (by omega), if_pos (by omega), Nat.add_sub_cancel, hofNat]
    exact ⟨rfl, by omega⟩
  · obtain rfl := Option.some.inj h
    exact ⟨hminus.symm, by decide⟩
  · obtain rfl := Option.some.inj h
    exact ⟨hline.symm, by decide⟩

/-- The last character of the text carries bits that its octets do not need. -/
def surplusBits (cs : List Char) : ℕ := ((cs.getLast?.bind b64Value).getD 0) % 4

theorem toNat_toUInt8 (n : ℕ) : n.toUInt8.toNat = n % 256 := by simp

/-- A text that stops one character before a full group denotes octets, and encoding them again
gives the text back exactly when it has no surplus bits. -/
theorem exists_b64urlOctets (k : ℕ) {cs : List Char} (hlength : cs.length = 4 * k + 3)
    (hall : ∀ c ∈ cs, (b64Value c).isSome = true) :
    ∃ octets, b64urlOctets cs = some octets ∧ octets.length = 3 * k + 2 ∧
      (b64urlChars octets = cs ↔ surplusBits cs = 0) := by
  induction k generalizing cs with
  | zero =>
      obtain ⟨w, x, y, rfl⟩ := List.length_eq_three.mp hlength
      simp only [List.forall_mem_cons, Option.isSome_iff_exists] at hall
      obtain ⟨⟨a, ha⟩, ⟨b, hb⟩, ⟨c, hc⟩, -⟩ := hall
      obtain ⟨hw, ha64⟩ := b64Char_b64Value ha
      obtain ⟨hx, hb64⟩ := b64Char_b64Value hb
      obtain ⟨hy, hc64⟩ := b64Char_b64Value hc
      have hsurplus : surplusBits [w, x, y] = c % 4 := by simp [surplusBits, hc]
      refine ⟨[((a * 64 + b) * 64 + c) / 1024 |>.toUInt8, ((a * 64 + b) * 64 + c) / 4 |>.toUInt8],
        by rw [b64urlOctets, ha, hb, hc]; rfl, rfl, ?_⟩
      have hbits : ((((a * 64 + b) * 64 + c) / 1024 % 256) * 256 +
          ((a * 64 + b) * 64 + c) / 4 % 256) * 4 = (a * 64 + b) * 64 + (c - c % 4) := by omega
      have hlast : b64Char (c - c % 4) = y ↔ c % 4 = 0 := by
        constructor
        · intro heq
          have hvalue := b64Value_b64Char (n := c - c % 4) (by omega)
          rw [heq, hc, Option.some.injEq] at hvalue
          omega
        · intro hzero
          rw [hzero, Nat.sub_zero, hy]
      rw [hsurplus, b64urlChars]
      simp only [toNat_toUInt8, hbits]
      rw [show ((a * 64 + b) * 64 + (c - c % 4)) / 4096 = a by omega,
        show ((a * 64 + b) * 64 + (c - c % 4)) / 64 % 64 = b by omega,
        show ((a * 64 + b) * 64 + (c - c % 4)) % 64 = c - c % 4 by omega, hw, hx, ← hlast]
      simp
  | succ k ih =>
      obtain ⟨w, x, y, z, rest, rfl, hrest⟩ : ∃ w x y z rest,
          cs = w :: x :: y :: z :: rest ∧ rest.length = 4 * k + 3 := by
        obtain ⟨w, cs, rfl⟩ := List.exists_cons_of_length_pos (show 0 < cs.length by omega)
        rw [List.length_cons] at hlength
        obtain ⟨x, cs, rfl⟩ := List.exists_cons_of_length_pos (show 0 < cs.length by omega)
        rw [List.length_cons] at hlength
        obtain ⟨y, cs, rfl⟩ := List.exists_cons_of_length_pos (show 0 < cs.length by omega)
        rw [List.length_cons] at hlength
        obtain ⟨z, rest, rfl⟩ := List.exists_cons_of_length_pos (show 0 < cs.length by omega)
        rw [List.length_cons] at hlength
        exact ⟨w, x, y, z, rest, rfl, by omega⟩
      simp only [List.forall_mem_cons, Option.isSome_iff_exists] at hall
      obtain ⟨⟨a, ha⟩, ⟨b, hb⟩, ⟨c, hc⟩, ⟨d, hd⟩, hall⟩ := hall
      obtain ⟨octets, hoctets, hcount, hiff⟩ := ih hrest
        (fun c hmem => Option.isSome_iff_exists.mpr (hall c hmem))
      obtain ⟨hw, ha64⟩ := b64Char_b64Value ha
      obtain ⟨hx, hb64⟩ := b64Char_b64Value hb
      obtain ⟨hy, hc64⟩ := b64Char_b64Value hc
      obtain ⟨hz, hd64⟩ := b64Char_b64Value hd
      have hne : rest ≠ [] := List.ne_nil_of_length_pos (by omega)
      have hsurplus : surplusBits (w :: x :: y :: z :: rest) = surplusBits rest := by
        obtain ⟨first, others, rfl⟩ := List.exists_cons_of_ne_nil hne
        simp [surplusBits]
      obtain ⟨n, hn⟩ : ∃ n, n = ((a * 64 + b) * 64 + c) * 64 + d := ⟨_, rfl⟩
      refine ⟨(n / 65536).toUInt8 :: (n / 256).toUInt8 :: n.toUInt8 :: octets,
        by rw [b64urlOctets, ha, hb, hc, hd, hoctets, hn]; rfl,
        by simp only [List.length_cons]; omega, ?_⟩
      have hbits : n / 65536 % 256 * 65536 + n / 256 % 256 * 256 + n % 256 = n := by omega
      rw [hsurplus, b64urlChars]
      simp only [toNat_toUInt8, hbits]
      rw [show n / 262144 = a by omega, show n / 4096 % 64 = b by omega,
        show n / 64 % 64 = c by omega, show n % 64 = d by omega, hw, hx, hy, hz, ← hiff]
      simp

theorem length_b64urlChars_eq (k : ℕ) {octets : Bytes} (h : octets.length = 3 * k + 2) :
    (b64urlChars octets).length = 4 * k + 3 := by
  induction k generalizing octets with
  | zero =>
      obtain ⟨a, b, rfl⟩ := List.length_eq_two.mp h
      rfl
  | succ k ih =>
      match octets, h with
      | a :: b :: c :: rest, h =>
          simp only [List.length_cons] at h
          rw [b64urlChars]
          simp only [List.length_cons]
          rw [ih (by omega)]
          omega

/-- Forty-three base64url characters. -/
def IsPinText (s : String) : Prop :=
  s.toList.length = 43 ∧ s.toList.all (fun c => (b64Value c).isSome) = true

instance (s : String) : Decidable (IsPinText s) := inferInstanceAs (Decidable (_ ∧ _))

/-- The action accepts every spelling of a digest. -/
theorem spkiIsCanonicalSha256_eq_ok {s : String} :
    spkiIsCanonicalSha256 s = .ok () ↔ IsPinText s := by
  simp only [spkiIsCanonicalSha256, bind_eq_ok, Unique.exists_iff, ensure_eq_ok]
  constructor
  · exact fun h => h.1
  · intro h
    obtain ⟨octets, hoctets, hlength, -⟩ :=
      exists_b64urlOctets 10 h.1 (List.all_eq_true.mp h.2)
    refine ⟨h, ?_⟩
    rw [hoctets]
    simp [hlength]

/-- The manifest accepts one spelling of each digest. -/
theorem b64urlDecode_eq_ok {s : String} {digest : Bytes} :
    b64urlDecode s 32 = .ok digest ↔ digest.length = 32 ∧ s = b64urlEncode digest := by
  constructor
  · intro h
    simp only [b64urlDecode, bind_eq_ok, Unique.exists_iff, ensure_eq_ok] at h
    obtain ⟨-, h⟩ := h
    split at h
    · cases h
    · simp only [bind_eq_ok, Unique.exists_iff, ensure_eq_ok, except_pure, Except.ok.injEq] at h
      obtain ⟨hlength, hencode, rfl⟩ := h
      exact ⟨hlength, hencode.symm⟩
  · rintro ⟨hlength, rfl⟩
    rw [← hlength]
    exact b64urlDecode_b64urlEncode (List.ne_nil_of_length_pos (by omega))

theorem exists_b64urlDecode_iff {s : String} :
    (∃ digest, b64urlDecode s 32 = .ok digest) ↔ IsPinText s ∧ surplusBits s.toList = 0 := by
  simp only [b64urlDecode_eq_ok]
  constructor
  · rintro ⟨digest, hlength, rfl⟩
    rw [b64urlEncode, IsPinText, String.toList_ofList]
    have hcount := length_b64urlChars_eq 10 hlength
    have hall := isSome_b64Value_of_mem digest
    obtain ⟨octets, hoctets, -, hiff⟩ := exists_b64urlOctets 10 hcount hall
    rw [b64urlOctets_b64urlChars, Option.some.injEq] at hoctets
    rw [← hoctets] at hiff
    exact ⟨⟨hcount, List.all_eq_true.mpr hall⟩, hiff.mp rfl⟩
  · rintro ⟨⟨hlength, hall⟩, hzero⟩
    obtain ⟨octets, -, hcount, hiff⟩ := exists_b64urlOctets 10 hlength (List.all_eq_true.mp hall)
    refine ⟨octets, hcount, ?_⟩
    rw [b64urlEncode, hiff.mpr hzero, String.ofList_toList]

/-! ## Hosts -/

/-- A letter or a digit. -/
def isHostEdge (c : Char) : Bool := isLower c || isDecimal c

/-- A letter or digit at both ends, and letters, digits, dots and hyphens between. -/
structure HostText (cs : List Char) : Prop where
  first : ∃ c, cs.head? = some c ∧ isHostEdge c = true
  last : ∃ c, cs.getLast? = some c ∧ isHostEdge c = true
  inner : ∀ c ∈ cs, isHostEdge c = true ∨ c = '.' ∨ c = '-'

theorem isActionHost_iff {s : String} :
    isActionHost s = true ↔ HostText s.toList ∧ s.toList.length ≤ 253 := by
  unfold isActionHost
  cases s.toList with
  | nil =>
      constructor
      · intro h
        cases h
      · rintro ⟨h, -⟩
        obtain ⟨c, hc, -⟩ := h.first
        cases hc
  | cons c rest =>
      simp only [Bool.and_eq_true, decide_eq_true_eq, List.all_eq_true]
      constructor
      · rintro ⟨⟨⟨hlength, hfirst⟩, hlast⟩, hinner⟩
        refine ⟨⟨⟨c, rfl, hfirst⟩, ?_, ?_⟩, hlength⟩
        · exact (Option.any_eq_true _ _).mp hlast
        · intro d hd
          rcases List.mem_cons.mp hd with rfl | hd
          · exact .inl hfirst
          · simpa [isHostEdge, or_assoc] using hinner d hd
      · rintro ⟨⟨⟨d, hd, hfirst⟩, ⟨e, he, hlast⟩, hinner⟩, hlength⟩
        obtain rfl : c = d := Option.some.inj hd
        refine ⟨⟨⟨hlength, hfirst⟩, ?_⟩, fun d hd => ?_⟩
        · rw [he]
          exact hlast
        · simpa [isHostEdge, or_assoc] using hinner d (List.mem_cons_of_mem c hd)

theorem hostText_of_isDnsLabel {label : List Char} (h : isDnsLabel label = true) :
    HostText label := by
  cases label with
  | nil => cases h
  | cons c rest =>
      simp only [isDnsLabel, Bool.and_eq_true, List.all_eq_true, decide_eq_true_eq] at h
      obtain ⟨⟨hfirst, hall⟩, hlast⟩ := h
      have hinner (d : Char) (hd : d ∈ c :: rest) : isHostEdge d = true ∨ d = '-' := by
        simpa [isHostEdge] using hall d hd
      refine ⟨⟨c, rfl, hfirst⟩, ?_, fun d hd => (hinner d hd).imp_right .inr⟩
      have hd := List.getLast?_eq_getLast_of_ne_nil (List.cons_ne_nil c rest)
      refine ⟨_, hd, (hinner _ (List.mem_of_getLast? hd)).resolve_right ?_⟩
      intro heq
      exact hlast (heq ▸ hd)

theorem HostText.append_dot {label rest : List Char} (hlabel : HostText label)
    (hrest : HostText rest) : HostText (label ++ '.' :: rest) where
  first := by
    obtain ⟨c, hc, hedge⟩ := hlabel.first
    exact ⟨c, by rw [List.head?_append, hc]; rfl, hedge⟩
  last := by
    obtain ⟨c, hc, hedge⟩ := hrest.last
    exact ⟨c, by rw [List.getLast?_append, List.getLast?_cons, hc]; rfl, hedge⟩
  inner c hc := by
    rcases List.mem_append.mp hc with hc | hc
    · exact hlabel.inner c hc
    · rcases List.mem_cons.mp hc with rfl | hc
      · exact .inr (.inl rfl)
      · exact hrest.inner c hc

/-- Host texts between dots make a host text. -/
theorem hostText_of_splitOn {cs : List Char} (h : ∀ label ∈ cs.splitOn '.', HostText label) :
    HostText cs := by
  have hjoined (labels : List (List Char)) (hne : labels ≠ [])
      (h : ∀ label ∈ labels, HostText label) : HostText (['.'].intercalate labels) := by
    induction labels with
    | nil => exact absurd rfl hne
    | cons label rest ih =>
        cases rest with
        | nil => simpa using h label List.mem_cons_self
        | cons label' rest =>
            rw [List.intercalate_cons_cons, List.append_assoc, List.singleton_append]
            exact (h label List.mem_cons_self).append_dot
              (ih (List.cons_ne_nil _ _) fun label hlabel => h label (List.mem_cons_of_mem _ hlabel))
  have hcs : ['.'].intercalate (cs.splitOn '.') = cs := List.intercalate_splitOn '.'
  rw [← hcs]
  exact hjoined _ (List.splitOn_ne_nil '.' cs) h

/-- One to three decimal digits. -/
def isShortDecimal (part : List Char) : Bool :=
  part.length ≤ 3 && part ≠ [] && part.all isDecimal

/-- What is documented of the compressed form of an address: an IPv6 address has a colon, an
IPv4 address is four decimal numbers between dots. -/
def Platform.CompressedAddresses (P : Platform) : Prop :=
  ∀ s, P.ipAddress s = some s → ':' ∈ s.toList ∨
    ((splitText '.' s).length = 4 ∧ (splitText '.' s).all isShortDecimal = true)

theorem hostText_of_isShortDecimal {part : List Char} (h : isShortDecimal part = true) :
    HostText part := by
  simp only [isShortDecimal, Bool.and_eq_true, decide_eq_true_eq, List.all_eq_true] at h
  obtain ⟨⟨-, hne⟩, hall⟩ := h
  have hedge (c : Char) (hc : c ∈ part) : isHostEdge c = true := by
    rw [isHostEdge, hall c hc, Bool.or_true]
  obtain ⟨c, rest, rfl⟩ := List.exists_cons_of_ne_nil hne
  have hlast := List.getLast?_eq_getLast_of_ne_nil (List.cons_ne_nil c rest)
  exact ⟨⟨c, rfl, hedge c List.mem_cons_self⟩, ⟨_, hlast, hedge _ (List.mem_of_getLast? hlast)⟩,
    fun d hd => .inl (hedge d hd)⟩

/-- A dotted address is short. -/
theorem length_le_of_splitOn {cs : List Char} (hcount : (cs.splitOn '.').length = 4)
    (hshort : ∀ part ∈ cs.splitOn '.', part.length ≤ 3) : cs.length ≤ 15 := by
  obtain ⟨a, b, c, d, hparts⟩ : ∃ a b c d, cs.splitOn '.' = [a, b, c, d] := by
    match h : cs.splitOn '.', hcount with
    | [a, b, c, d], _ => exact ⟨a, b, c, d, rfl⟩
  have hjoin : ['.'].intercalate (cs.splitOn '.') = cs := List.intercalate_splitOn '.'
  simp only [hparts, List.forall_mem_cons] at hshort
  rw [hparts] at hjoin
  have hlength := congrArg List.length hjoin
  simp [List.intercalate] at hlength
  omega

/-- An IPv6 literal in the one spelling the manifest accepts. -/
structure Ipv6Literal (P : Platform) (s : String) : Prop where
  normalized : P.normalizeNfc s = s
  exact : s = P.lower s ∧ s.toList.getLast? ≠ some '.' ∧ '*' ∉ s.toList
  canonical : P.ipAddress s = some s
  colon : ':' ∈ s.toList

/-- What the manifest accepts as a host: a name, or an address. -/
theorem canonicalHost_eq_ok {s : String} :
    canonicalHost P s = .ok () ↔ P.normalizeNfc s = s ∧
      (s = P.lower s ∧ s.toList.getLast? ≠ some '.' ∧ '*' ∉ s.toList) ∧
      (P.ipAddress s = some s ∨ P.ipAddress s = none ∧
        (∀ label ∈ splitText '.' s, label.length ≤ 63 ∧ isDnsLabel label = true) ∧
        s.toList.length ≤ 253) := by
  simp only [canonicalHost, requireNfc, bind_eq_ok, Unique.exists_iff, ensure_eq_ok]
  cases P.ipAddress s with
  | some canonical => simp
  | none =>
      simp only [bind_eq_ok, Unique.exists_iff, ensure_eq_ok, List.all_eq_true, Bool.and_eq_true,
        decide_eq_true_eq, reduceCtorEq, false_or, true_and]

/-- Every host of the manifest is a host of an action, unless it has a colon. -/
theorem hostText_of_canonicalHost (haddress : P.CompressedAddresses) {s : String}
    (h : canonicalHost P s = .ok ()) (hcolon : ':' ∉ s.toList) :
    HostText s.toList ∧ s.toList.length ≤ 253 := by
  obtain ⟨-, -, hip | ⟨-, hlabels, hlength⟩⟩ := canonicalHost_eq_ok.mp h
  · obtain ⟨hcount, hshort⟩ := (haddress s hip).resolve_left hcolon
    have hparts := List.all_eq_true.mp hshort
    refine ⟨hostText_of_splitOn fun part hpart => hostText_of_isShortDecimal (hparts part hpart), ?_⟩
    refine (length_le_of_splitOn hcount fun part hpart => ?_).trans (by decide)
    have hpart := hparts part hpart
    simp only [isShortDecimal, Bool.and_eq_true, decide_eq_true_eq] at hpart
    exact hpart.1.1
  · exact ⟨hostText_of_splitOn fun label hlabel => hostText_of_isDnsLabel (hlabels label hlabel).2,
      hlength⟩

theorem colon_not_mem_of_hostText {cs : List Char} (h : HostText cs) : ':' ∉ cs := by
  intro hmem
  rcases h.inner ':' hmem with hedge | hdot | hminus
  · revert hedge
    decide
  · revert hdot
    decide
  · revert hminus
    decide

theorem hostIsExactAsciiOrigin_eq_ok {s : String} :
    hostIsExactAsciiOrigin P s = .ok () ↔
      (s = P.lower s ∧ s.toList.getLast? ≠ some '.' ∧ '*' ∉ s.toList) ∧
        HostText s.toList ∧ s.toList.length ≤ 253 := by
  simp only [hostIsExactAsciiOrigin, bind_eq_ok, Unique.exists_iff, ensure_eq_ok, isActionHost_iff]
  constructor
  · rintro ⟨-, hlower, hdot, hstar, hhost⟩
    exact ⟨⟨hlower, hdot, hstar⟩, hhost⟩
  · rintro ⟨⟨hlower, hdot, hstar⟩, hhost⟩
    refine ⟨?_, hlower, hdot, hstar, hhost⟩
    rintro rfl
    obtain ⟨c, hc, -⟩ := hhost.1.first
    cases hc

theorem host_agrees_iff (haddress : P.CompressedAddresses) (s : String) :
    (canonicalHost P s = .ok () → hostIsExactAsciiOrigin P s = .ok ()) ↔ ¬ Ipv6Literal P s := by
  constructor
  · intro h hliteral
    have hrule := canonicalHost_eq_ok.mpr
      ⟨hliteral.normalized, hliteral.exact, .inl hliteral.canonical⟩
    obtain ⟨-, htext, -⟩ := hostIsExactAsciiOrigin_eq_ok.mp (h hrule)
    exact colon_not_mem_of_hostText htext hliteral.colon
  · intro hliteral h
    obtain ⟨hnfc, hexact, haccepted⟩ := canonicalHost_eq_ok.mp h
    refine hostIsExactAsciiOrigin_eq_ok.mpr ⟨hexact, hostText_of_canonicalHost haddress h ?_⟩
    intro hcolon
    rcases haccepted with hip | ⟨-, hlabels, -⟩
    · exact hliteral ⟨hnfc, hexact, hip, hcolon⟩
    · -- A name has no colon.
      have htext : HostText s.toList :=
        hostText_of_splitOn fun label hlabel => hostText_of_isDnsLabel (hlabels label hlabel).2
      exact colon_not_mem_of_hostText htext hcolon

/-! ## The two languages -/

/-- The manifest and the action read the text alike: as a pin both accept it or neither does, and
what the manifest accepts as a host or a path prefix the action accepts too. -/
structure SameLanguage (P : Platform) (s : String) : Prop where
  pin : (∃ digest, b64urlDecode s 32 = .ok digest) ↔ spkiIsCanonicalSha256 s = .ok ()
  host : canonicalHost P s = .ok () → hostIsExactAsciiOrigin P s = .ok ()
  path : canonicalPathPrefix P s = .ok () → pathIsUnambiguous s = .ok ()

theorem pathIsUnambiguous_of_canonicalPathPrefix {s : String}
    (h : canonicalPathPrefix P s = .ok ()) : pathIsUnambiguous s = .ok () := by
  simp only [canonicalPathPrefix, bind_eq_ok, Unique.exists_iff, ensure_eq_ok] at h
  obtain ⟨-, ⟨hroot, hquery, hfragment, hescape⟩, hpercent, ⟨hdouble, hdots⟩, hposix⟩ := h
  simp only [pathIsUnambiguous, bind_eq_ok, Unique.exists_iff, ensure_eq_ok]
  refine ⟨⟨hroot, ?_, hdouble, hdots⟩, hposix.symm⟩
  simp [hquery, hfragment, hescape, hpercent]

/-- The two sides speak the same language exactly outside the pins with surplus bits and the IPv6
literals. -/
theorem sameLanguage_iff (P : Platform) (haddress : P.CompressedAddresses) (s : String) :
    SameLanguage P s ↔
      ¬ (IsPinText s ∧ surplusBits s.toList ≠ 0) ∧ ¬ Ipv6Literal P s := by
  have hpin : ((∃ digest, b64urlDecode s 32 = .ok digest) ↔ spkiIsCanonicalSha256 s = .ok ()) ↔
      ¬ (IsPinText s ∧ surplusBits s.toList ≠ 0) := by
    rw [exists_b64urlDecode_iff, spkiIsCanonicalSha256_eq_ok]
    tauto
  constructor
  · intro h
    exact ⟨hpin.mp h.pin, (host_agrees_iff haddress s).mp h.host⟩
  · rintro ⟨hsurplus, hliteral⟩
    exact ⟨hpin.mpr hsurplus, (host_agrees_iff haddress s).mpr hliteral,
      pathIsUnambiguous_of_canonicalPathPrefix⟩

/-- The reference platform with one IPv6 address, the loopback. -/
def loopbackPlatform : Platform :=
  { referencePlatform with
    ipAddress := fun s => if s = "::1" then some s else referencePlatform.ipAddress s }

theorem isShortDecimal_of_octet {digits : List Char} {n : ℕ} (h : Ipv4.octet digits = some n) :
    isShortDecimal digits = true := by
  unfold Ipv4.octet at h
  split_ifs at h with hdigits
  obtain ⟨hne, hlength, hall, -⟩ := hdigits
  rw [isShortDecimal, decide_eq_true hlength, decide_eq_true hne, Bool.true_and, Bool.true_and,
    List.all_eq_true]
  intro c hc
  have hdigit := List.all_eq_true.mp hall c hc
  simp only [Char.isDigit, Bool.and_eq_true, decide_eq_true_eq, UInt32.le_iff_toNat_le] at hdigit
  simp only [isDecimal, Bool.and_eq_true, decide_eq_true_eq, Char.le_def, UInt32.le_iff_toNat_le]
  exact hdigit

theorem compressedAddresses_loopback : loopbackPlatform.CompressedAddresses := by
  intro s h
  simp only [loopbackPlatform, referencePlatform] at h
  split_ifs at h with hloopback
  · subst hloopback
    exact .inl (by decide)
  · right
    obtain ⟨n, hparse, -⟩ := Option.map_eq_some_iff.mp h
    unfold Ipv4.parse at hparse
    split at hparse
    · rename_i a b c d hparts
      simp only [Option.bind_eq_bind, Option.bind_eq_some_iff] at hparse
      obtain ⟨w, hw, x, hx, y, hy, z, hz, -⟩ := hparse
      rw [splitText, hparts]
      refine ⟨rfl, ?_⟩
      simp only [List.all_cons, List.all_nil, isShortDecimal_of_octet hw, isShortDecimal_of_octet hx,
        isShortDecimal_of_octet hy, isShortDecimal_of_octet hz, Bool.and_self]
    · cases hparse

/-- The pin of forty-two times `A` and a `B` is a second spelling of the all-zero digest, which
only the action accepts. The loopback address is a host only for the manifest. -/
theorem not_sameLanguage :
    ¬ SameLanguage loopbackPlatform "AAAAAAAAAAAAAAAAAAAAAAAAAAAAAAAAAAAAAAAAAAB" ∧
      ¬ SameLanguage loopbackPlatform "::1" := by
  constructor
  · intro h
    have haction : spkiIsCanonicalSha256 "AAAAAAAAAAAAAAAAAAAAAAAAAAAAAAAAAAAAAAAAAAB" = .ok () := by
      decide
    obtain ⟨digest, hdigest⟩ := h.pin.mpr haction
    have hrule : b64urlDecode "AAAAAAAAAAAAAAAAAAAAAAAAAAAAAAAAAAAAAAAAAAB" 32 =
        .error (.valueError "base64url value is not canonical") := by decide
    rw [hrule] at hdigest
    cases hdigest
  · intro h
    have hrule : canonicalHost loopbackPlatform "::1" = .ok () := by decide
    have haction := h.host hrule
    revert haction
    decide

/-- A canonical pin and a host name. -/
theorem sameLanguage_iff_reference :
    SameLanguage loopbackPlatform "AAAAAAAAAAAAAAAAAAAAAAAAAAAAAAAAAAAAAAAAAAA" ∧
      SameLanguage loopbackPlatform "packages.example.test" := by
  constructor
  · refine (sameLanguage_iff loopbackPlatform compressedAddresses_loopback _).mpr ⟨by decide, ?_⟩
    intro h
    exact absurd h.colon (by decide)
  · refine (sameLanguage_iff loopbackPlatform compressedAddresses_loopback _).mpr ⟨by decide, ?_⟩
    intro h
    exact absurd h.colon (by decide)

end Containment
