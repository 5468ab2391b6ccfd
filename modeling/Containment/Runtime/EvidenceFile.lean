/-
# The evidence file and the events

An event is exported as its canonical text and a line feed. The text of an event holds the
text of its payload inside a string, so every quote and backslash of the payload is escaped
once more. A canonical payload has no control characters, so this at most doubles it, and the
text of every event stays below the limit of the encoder. No canonical text has a line feed
or a carriage return in it, so a file can be cut into its lines again.
-/

import Containment.Auditor.Agreement
import Containment.Models.NormalForm
import Containment.Runtime.WriteAhead

/-! ## Octets of an object -/

namespace Json

theorem octets_le_length (cs : List Char) : octets cs ≤ 4 * cs.length := by
  induction cs with
  | nil => exact le_rfl
  | cons c rest ih =>
      have hc := c.utf8Size_le_four
      rw [octets_cons, List.length_cons]
      omega

/-- Outside the control characters, only a quote and a backslash are escaped. -/
theorem octets_escapeChar_of_le {c : Char} (h : 32 ≤ c.toNat) :
    octets (escapeChar c) ≤ 2 * c.utf8Size := by
  unfold escapeChar
  split_ifs with hquote hescape h₃ h₄ h₅ h₆ h₇ hcontrol
  · rw [hquote]
    decide
  · rw [hescape]
    decide
  iterate 5
    · subst c
      exact absurd h (by decide)
  · omega
  · rw [octets_cons, octets_nil]
    omega

/-- Between its quotes, the string of a text is at most twice as long as the text. -/
theorem exists_escaped {s : String} (h : ∀ c ∈ s.toList, 32 ≤ c.toNat) :
    ∃ escaped, dumpsStr s = '"' :: (escaped ++ ['"']) ∧ octets escaped ≤ 2 * octets s.toList := by
  have hchars (cs : List Char) (h : ∀ c ∈ cs, 32 ≤ c.toNat) :
      ∃ escaped, dumpsChars cs = escaped ++ ['"'] ∧ octets escaped ≤ 2 * octets cs := by
    induction cs with
    | nil => exact ⟨[], rfl, le_rfl⟩
    | cons c rest ih =>
        have hc := octets_escapeChar_of_le (h c List.mem_cons_self)
        obtain ⟨escaped, hrest, hle⟩ := ih fun d hd => h d (List.mem_cons_of_mem c hd)
        refine ⟨escapeChar c ++ escaped, by rw [dumpsChars, hrest, List.append_assoc], ?_⟩
        rw [octets_append, octets_cons]
        omega
  obtain ⟨escaped, hescaped, hle⟩ := hchars s.toList h
  exact ⟨escaped, by rw [dumpsStr, hescaped], hle⟩

theorem octets_dumpsStr_of_le {s : String} (h : ∀ c ∈ s.toList, 32 ≤ c.toNat) :
    octets (dumpsStr s) ≤ 2 * octets s.toList + 2 := by
  obtain ⟨escaped, hescaped, hle⟩ := exists_escaped h
  have hquote : '"'.utf8Size = 1 := by decide
  rw [hescaped, octets_cons, octets_append, octets_cons, octets_nil, hquote]
  omega

theorem octets_dumpsStr_le (s : String) : octets (dumpsStr s) ≤ 4 * strSpan s :=
  (octets_le_length _).trans (Nat.mul_le_mul_left 4 (length_dumpsStr s))

theorem sum_fieldOctets_le (fields : List (String × Json)) :
    (fields.map fieldOctets).sum ≤ 4 * spanFields fields := by
  induction fields with
  | nil => exact le_rfl
  | cons field rest ih =>
      have hkey := octets_dumpsStr_le field.1
      have hvalue := octets_le_length field.2.dumps
      have hspan := length_dumps field.2
      rw [List.map_cons, List.sum_cons, fieldOctets, spanFields]
      omega

end Json

namespace Containment

open Json

variable {P : Platform}

/-! ## Every event has a line -/

/-- A payload has no control characters. -/
theorem le_of_mem_payload {payload : String} (h : payloadIsCanonical P payload = .ok ()) {c : Char}
    (hc : c ∈ payload.toList) : 32 ≤ c.toNat := by
  simp only [payloadIsCanonical, canonicalizeJsonText, bind_eq_ok, Unique.exists_iff,
    ensure_eq_ok] at h
  obtain ⟨⟨-, value, -, text, htext, rfl⟩, -⟩ := h
  obtain ⟨-, -, -, -, rfl⟩ := canonicalJson_eq_ok.mp htext
  rw [Json.text, String.toList_ofList] at hc
  exact le_of_mem_dumps _ hc

theorem octets_eventBody (hP : P.Lawful) (body : EventBody P) :
    octets ((EventBody.codec P).encode body).orderForJcs.dumps ≤ 2150000 := by
  set payload : String := body.payloadCanonicalJson.1 with hpayload
  have hvalid : payloadIsCanonical P payload = .ok () := body.payloadCanonicalJson.2
  obtain ⟨fields, hencode, hmem⟩ : ∃ fields, (EventBody.codec P).encode body = .obj fields ∧
      ("payload_canonical_json", .str payload) ∈ fields :=
    ⟨_, encode_eventBody body, List.mem_of_getElem? (i := 11) rfl⟩
  obtain ⟨before, after, rfl⟩ := List.append_of_mem hmem
  have hfits := (fits_eventBody_at hP (x := body) le_rfl).span
  have hkey : strSpan "payload_canonical_json" = 134 := by decide
  have hkeyOctets := octets_dumpsStr_le "payload_canonical_json"
  rw [hencode, Json.span, spanFields_append, spanFields, Json.span, hkey, strSpan, ← hpayload] at hfits
  -- The payload is at most doubled, all other fields are short.
  have hlimit : octets payload.toList ≤ maxEventPayloadBytes := by
    rw [← length_utf8]
    simp only [payloadIsCanonical, bind_eq_ok, Unique.exists_iff, ensure_eq_ok] at hvalid
    exact hvalid.2
  have hstring := octets_dumpsStr_of_le fun c hc => le_of_mem_payload hvalid hc
  have hbefore := sum_fieldOctets_le before
  have hafter := sum_fieldOctets_le after
  rw [octets_dumps_orderForJcs, hencode, octets_dumps_obj (by simp), List.map_append, List.map_cons,
    List.sum_append, List.sum_cons, fieldOctets, Json.dumps]
  dsimp only
  rw [maxEventPayloadBytes] at hlimit
  omega

/-- The encoder refuses no body. -/
theorem canonicalJson_eventBody (hP : P.Lawful) (body : EventBody P) :
    canonicalJson P ((EventBody.codec P).encode body) =
      .ok ((EventBody.codec P).encode body).orderForJcs.text := by
  have hfits := fits_eventBody_at hP (x := body) le_rfl
  have hbody := octets_eventBody hP body
  refine canonicalJson_eq_ok.mpr ⟨hfits.height.trans (by decide), ?_, hfits.admissible, ?_, rfl⟩
  · rw [nodes_eventBody]
    decide
  · rw [length_utf8, Json.text, String.toList_ofList, maxCanonicalJsonBytes]
    omega

/-- Every body is the body of an event. -/
theorem exists_event (hP : P.Lawful) (body : EventBody P) : ∃ event : Event P, event.body = body := by
  have hhash := domainHash_of_canonicalJson "EVENT-HASH" (canonicalJson_eventBody hP body)
  set digest := P.sha256Hex (domainPreimage "EVENT-HASH"
    (utf8 ((EventBody.codec P).encode body).orderForJcs.text))
  have hcheck : sha256HexCheck digest = .ok () := hP.sha256Hex_check _
  have hcoherent : eventDigestMatches P (body, ⟨digest, hcheck⟩) = .ok () := by
    rw [eventDigestMatches, hhash]
    exact ensure_of rfl
  exact ⟨⟨body, ⟨digest, hcheck⟩, hcoherent⟩, rfl⟩

theorem length_event (hP : P.Lawful) (event : Event P) :
    (utf8 ((Event.codec P).encode event).orderForJcs.text).length < maxCanonicalJsonBytes := by
  have hbody := octets_eventBody hP event.body
  have hencode : (Event.codec P).encode event = .obj
      [("body", (EventBody.codec P).encode event.body), ("event_hash", .str event.eventHash.1)] := rfl
  have hhash := octets_dumpsStr_le event.eventHash.1
  have hshort := event.eventHash.short.2
  have hbodyKey : octets (dumpsStr "body") = 6 := by decide
  have hhashKey : octets (dumpsStr "event_hash") = 12 := by decide
  rw [length_utf8, Json.text, String.toList_ofList, octets_dumps_orderForJcs, hencode,
    octets_dumps_obj (by simp), maxCanonicalJsonBytes]
  simp only [List.map_cons, List.map_nil, List.sum_cons, List.sum_nil, fieldOctets, Json.dumps,
    hbodyKey, hhashKey]
  rw [octets_dumps_orderForJcs] at hbody
  rw [strSpan] at hhash
  omega

/-- The encoder refuses no event. -/
theorem exists_canonicalBytes (hP : P.Lawful) (event : Event P) :
    ∃ encoded, event.canonicalBytes = .ok encoded := by
  have hfits : Fits P 2 _ ((Event.codec P).encode event) := fits_event_at hP le_rfl
  have hnodes : ((Event.codec P).encode event).nodes ≤ maxJsonNodes := by
    rw [nodes_event]
    decide
  have htext := canonicalJson_eq_ok.mpr ⟨hfits.height.trans (by decide), hnodes, hfits.admissible,
    (length_event hP event).le, rfl⟩
  exact ⟨_, bind_eq_ok.mpr ⟨_, htext, rfl⟩⟩

/-- The payload is at most doubled inside the text of its event, so the event is encoded below
the hard limit and read back. -/
theorem nested_encoding (P : Platform) (hP : P.Lawful) (body : EventBody P) :
    (∃ escaped, dumpsStr body.payloadCanonicalJson.1 = '"' :: (escaped ++ ['"']) ∧
      octets escaped ≤ 2 * (utf8 body.payloadCanonicalJson.1).length) ∧
    (∃ event : Event P, event.body = body) ∧
    ∀ event : Event P, event.body = body → ∃ encoded, event.canonicalBytes = .ok encoded ∧
      encoded.length < 4194304 ∧
      parseCanonicalJson P encoded = .ok ((Event.codec P).encode event).orderForJcs := by
  refine ⟨?_, exists_event hP body, fun event _ => ?_⟩
  · rw [length_utf8]
    exact exists_escaped fun c hc => le_of_mem_payload body.payloadCanonicalJson.2 hc
  · obtain ⟨encoded, hencoded⟩ := exists_canonicalBytes hP event
    obtain ⟨-, htext⟩ := canonicalJsonBytes_eq_ok.mp hencoded
    refine ⟨encoded, hencoded, ?_, parseCanonicalJson_of_canonicalJsonBytes hencoded⟩
    rw [htext]
    exact length_event hP event

/-- The event of one violation, whose payload is an object with quotes. -/
theorem nested_encoding_violation : Reference.platform.Lawful ∧
    ∃ (event : Event Reference.platform) (encoded : Bytes), event.body.kind = .violation ∧
      event.canonicalBytes = .ok encoded ∧ encoded.length < 4194304 ∧
      parseCanonicalJson Reference.platform encoded =
        .ok ((Event.codec Reference.platform).encode event).orderForJcs := by
  obtain ⟨manifest, -⟩ := Reference.exists_signed
  obtain ⟨event, -, -, hkind, -⟩ := Reference.exists_violation manifest ⟨2000, by decide⟩
  obtain ⟨-, -, hevent⟩ := nested_encoding Reference.platform Reference.lawful event.body
  obtain ⟨encoded, hencoded, hlength, hparse⟩ := hevent event rfl
  exact ⟨Reference.lawful, event, encoded, hkind, hencoded, hlength, hparse⟩

/-! ## Cutting a file into lines -/

/-- Cut octets behind every octet that ends a line. Whether it does may depend on what
follows. -/
def splitAfter (ends : UInt8 → Bytes → Bool) : Bytes → List Bytes
  | [] => []
  | octet :: rest =>
      if ends octet rest then [octet] :: splitAfter ends rest
      else
        match splitAfter ends rest with
        | [] => [[octet]]
        | line :: lines => (octet :: line) :: lines

/-- The lines of a file that is read in binary. -/
def splitAtLf : Bytes → List Bytes := splitAfter fun octet _ => octet = 10

/-- `bytes.splitlines(keepends=True)`: a line ends with a line feed, a carriage return or
both. -/
def splitlines : Bytes → List Bytes :=
  splitAfter fun octet rest => octet = 10 ∨ (octet = 13 ∧ rest.head? ≠ some 10)

/-- Reading the octets that way cuts behind a line feed, and never inside a line. -/
structure CutsLines (ends : UInt8 → Bytes → Bool) : Prop where
  lineFeed : ∀ rest, ends 10 rest = true
  inside : ∀ octet rest, 32 ≤ octet.toNat → ends octet rest = false

theorem cutsLines_lf : CutsLines fun octet _ => octet = 10 where
  lineFeed _ := by simp
  inside octet _ h := by
    have hne : octet ≠ 10 := by
      rintro rfl
      exact absurd h (by decide)
    simpa using hne

theorem cutsLines_splitlines :
    CutsLines fun octet rest => octet = 10 ∨ (octet = 13 ∧ rest.head? ≠ some 10) where
  lineFeed _ := by simp
  inside octet _ h := by
    have hline : octet ≠ 10 := by
      rintro rfl
      exact absurd h (by decide)
    have hreturn : octet ≠ 13 := by
      rintro rfl
      exact absurd h (by decide)
    simp [hline, hreturn]

variable {ends : UInt8 → Bytes → Bool}

theorem flatten_splitAfter (file : Bytes) : (splitAfter ends file).flatten = file := by
  induction file with
  | nil => rfl
  | cons octet rest ih =>
      rw [splitAfter]
      split
      · rw [List.flatten_cons, ih, List.singleton_append]
      · cases hlines : splitAfter ends rest with
        | nil =>
            rw [hlines] at ih
            rw [← ih]
            rfl
        | cons line lines =>
            rw [hlines, List.flatten_cons] at ih
            dsimp only
            rw [List.flatten_cons, List.cons_append, ih]

theorem splitAfter_line (hends : CutsLines ends) {encoded : Bytes}
    (h : ∀ octet ∈ encoded, 32 ≤ octet.toNat) (rest : Bytes) :
    splitAfter ends (encoded ++ 10 :: rest) = (encoded ++ [10]) :: splitAfter ends rest := by
  induction encoded with
  | nil => exact if_pos (hends.lineFeed rest)
  | cons octet encoded ih =>
      have hoctet := hends.inside octet (encoded ++ 10 :: rest) (h octet List.mem_cons_self)
      rw [List.cons_append, splitAfter, ih fun b hb => h b (List.mem_cons_of_mem octet hb), hoctet]
      rfl

/-! ## The round trip -/

namespace DurableLedger

theorem canonicalJsonlBytes_eq_ok {events : List (Event P)} {file : Bytes} :
    canonicalJsonlBytes events = .ok file ↔
      ∃ lines, List.Forall₂ (fun (event : Event P) encoded => line event = .ok encoded) events lines ∧
        lines.flatten = file := by
  induction events generalizing file with
  | nil =>
      rw [canonicalJsonlBytes, Except.ok.injEq]
      constructor
      · rintro rfl
        exact ⟨[], .nil, rfl⟩
      · rintro ⟨_, ⟨⟩, rfl⟩
        rfl
  | cons event rest ih =>
      simp only [canonicalJsonlBytes, bind_eq_ok, except_pure, Except.ok.injEq, ih]
      constructor
      · rintro ⟨first, hfirst, _, ⟨lines, hlines, rfl⟩, rfl⟩
        exact ⟨first :: lines, .cons hfirst hlines, rfl⟩
      · rintro ⟨_, _ | ⟨hfirst, hlines⟩, rfl⟩
        exact ⟨_, hfirst, _, ⟨_, hlines, rfl⟩, rfl⟩

end DurableLedger

open DurableLedger

theorem line_eq_ok {event : Event P} {raw : Bytes} :
    line event = .ok raw ↔ ∃ encoded, event.canonicalBytes = .ok encoded ∧ raw = encoded ++ [10] := by
  simp only [line, bind_eq_ok, except_pure, Except.ok.injEq]
  exact exists_congr fun _ => and_congr_right fun _ => eq_comm

/-- The lines of events are found again. -/
theorem splitAfter_flatten (hends : CutsLines ends) {events : List (Event P)} {lines : List Bytes}
    (h : List.Forall₂ (fun (event : Event P) raw => line event = .ok raw) events lines) :
    splitAfter ends lines.flatten = lines := by
  induction h with
  | nil => rfl
  | cons hline _ ih =>
      obtain ⟨encoded, hencoded, rfl⟩ := line_eq_ok.mp hline
      rw [List.flatten_cons, List.append_assoc, List.singleton_append,
        splitAfter_line hends fun _ hmem => le_of_mem_canonicalJsonBytes hencoded hmem, ih]

/-- What is accepted is what is exported. -/
theorem iterCanonicalJsonl_eq_ok {n : ℕ} {lines : List Bytes} {events : List (Event P)} :
    iterCanonicalJsonl P n (lines.map .bytes) = .ok events ↔
      List.Forall₂ (fun (event : Event P) raw => line event = .ok raw) events lines := by
  constructor
  · intro h
    induction lines generalizing n events with
    | nil =>
        obtain rfl := Except.ok.inj h
        exact .nil
    | cons raw rest ih =>
        simp only [List.map_cons, iterCanonicalJsonl, bind_eq_ok, except_pure, Except.ok.injEq] at h
        obtain ⟨event, hevent, events', hrest, rfl⟩ := h
        exact .cons (line_eq_ok.mpr (raw_of_decodeLine hevent)) (ih hrest)
  · intro h
    induction h generalizing n with
    | nil => rfl
    | cons hline _ ih =>
        obtain ⟨encoded, hencoded, rfl⟩ := line_eq_ok.mp hline
        have hdecoded := decodeLine_exportLine (n + 1) hencoded
        rw [exportLine] at hdecoded
        simp only [List.map_cons, iterCanonicalJsonl, hdecoded, ih, except_ok_bind, except_pure]

/-- What the export and the reader are to each other, for one way of cutting the file. -/
structure RoundTrip (P : Platform) (split : Bytes → List Bytes) : Prop where
  /-- Every list of events is exported and read back. -/
  written : ∀ events : List (Event P), ∃ file, canonicalJsonlBytes events = .ok file ∧
    iterCanonicalJsonl P 0 ((split file).map .bytes) = .ok events
  /-- Lines that are accepted are the lines of the events they yield. -/
  read : ∀ (lines : List Bytes) (events : List (Event P)),
    iterCanonicalJsonl P 0 (lines.map .bytes) = .ok events →
      canonicalJsonlBytes events = .ok lines.flatten ∧ split lines.flatten = lines ∧
      events.map line = lines.map .ok
  /-- The file and the list of events determine each other. -/
  determined : ∀ (file : Bytes) (events : List (Event P)),
    iterCanonicalJsonl P 0 ((split file).map .bytes) = .ok events ↔
      canonicalJsonlBytes events = .ok file

theorem roundTrip_splitAfter (hP : P.Lawful) (hends : CutsLines ends) :
    RoundTrip P (splitAfter ends) := by
  have hdetermined (file : Bytes) (events : List (Event P)) :
      iterCanonicalJsonl P 0 ((splitAfter ends file).map .bytes) = .ok events ↔
        canonicalJsonlBytes events = .ok file := by
    rw [iterCanonicalJsonl_eq_ok, canonicalJsonlBytes_eq_ok]
    constructor
    · exact fun h => ⟨_, h, flatten_splitAfter file⟩
    · rintro ⟨lines, hlines, rfl⟩
      rwa [splitAfter_flatten hends hlines]
  refine ⟨fun events => ?_, fun lines events h => ?_, hdetermined⟩
  · obtain ⟨file, hfile⟩ : ∃ file, canonicalJsonlBytes events = .ok file := by
      induction events with
      | nil => exact ⟨[], rfl⟩
      | cons event rest ih =>
          obtain ⟨file, hfile⟩ := ih
          obtain ⟨encoded, hencoded⟩ := exists_canonicalBytes hP event
          refine ⟨encoded ++ [10] ++ file, ?_⟩
          rw [canonicalJsonlBytes, line_eq_ok.mpr ⟨encoded, hencoded, rfl⟩, except_ok_bind, hfile,
            except_ok_bind, except_pure]
    exact ⟨file, hfile, (hdetermined file events).mpr hfile⟩
  · have hlines := iterCanonicalJsonl_eq_ok.mp h
    refine ⟨canonicalJsonlBytes_eq_ok.mpr ⟨lines, hlines, rfl⟩, splitAfter_flatten hends hlines, ?_⟩
    clear h
    induction hlines with
    | nil => rfl
    | cons hline _ ih => rw [List.map_cons, List.map_cons, hline, ih]

/-- The export of events and the reader of their lines are inverse to each other, whether the
file is cut at line feeds or with `splitlines`. -/
theorem jsonl_roundTrip (P : Platform) (hP : P.Lawful) :
    RoundTrip P splitAtLf ∧ RoundTrip P splitlines :=
  ⟨roundTrip_splitAfter hP cutsLines_lf, roundTrip_splitAfter hP cutsLines_splitlines⟩

/-- The file of one violation. -/
theorem jsonl_roundTrip_violation : Reference.platform.Lawful ∧
    RoundTrip Reference.platform splitAtLf ∧ RoundTrip Reference.platform splitlines ∧
    ∃ (event : Event Reference.platform) (file : Bytes), event.body.kind = .violation ∧
      canonicalJsonlBytes [event] = .ok file ∧
      iterCanonicalJsonl Reference.platform 0 ((splitlines file).map .bytes) = .ok [event] := by
  obtain ⟨manifest, -⟩ := Reference.exists_signed
  obtain ⟨event, -, -, hkind, -⟩ := Reference.exists_violation manifest ⟨2000, by decide⟩
  obtain ⟨hlf, hsplit⟩ := jsonl_roundTrip Reference.platform Reference.lawful
  obtain ⟨file, hfile, hread⟩ := hsplit.written [event]
  exact ⟨Reference.lawful, hlf, hsplit, event, file, hkind, hfile, hread⟩

end Containment
