/-
# Records with a JSON form

A `Codec` says how values of a type are written as JSON and read back. Its law
is about the *ordered* tree, because that is the tree a reader of a canonical
text is handed. A `Record` is the same for a group of named object fields: it
reads them by name, so the order in which a text lists them plays no part.

Codecs are put together from their parts, and each part carries its law. A model
with two dozen fields therefore has its round trip by construction.
-/

import Containment.Json.Value

namespace Json

variable {ε α β : Type}

/-- A type with a JSON form that is read back from its ordered spelling. -/
structure Codec (ε α : Type) where
  encode : α → Json
  decode : Json → Except ε α
  decode_encode : ∀ x, decode (encode x).orderForJcs = .ok x

/-- Named object fields that make up a value. -/
structure Record (ε α : Type) where
  /-- Every field name the record knows. -/
  names : List String
  encode : α → List (String × Json)
  /-- Read the fields through a lookup by name. -/
  decode : (String → Option Json) → Except ε α
  names_encode : ∀ x, (encode x).map Prod.fst = names
  decode_encode : ∀ x get,
    (∀ field ∈ encode x, get field.1 = some field.2.orderForJcs) → decode get = .ok x

/-! ## Checked values -/

/-- Keep the value together with the proof that a check accepted it. -/
def checked (check : α → Except ε Unit) (x : α) : Except ε { x : α // check x = .ok () } :=
  match h : check x with
  | .ok () => .ok ⟨x, h⟩
  | .error error => .error error

theorem checked_of_ok {check : α → Except ε Unit} {x : α} (h : check x = .ok ()) :
    checked check x = .ok ⟨x, h⟩ := by
  unfold checked
  split
  · rfl
  · rename_i error herror
    rw [h] at herror
    cases herror

theorem checked_eq_ok {check : α → Except ε Unit} {x : α} {y : { x : α // check x = .ok () }}
    (h : checked check x = .ok y) : y.1 = x := by
  unfold checked at h
  split at h
  · rw [← Except.ok.inj h]
  · cases h

namespace Codec

def ofString (notString : ε) (check : String → Except ε Unit) :
    Codec ε { s : String // check s = .ok () } where
  encode s := .str s.1
  decode
    | .str s => checked check s
    | _ => .error notString
  decode_encode s := checked_of_ok s.2

def ofInt (notInt : ε) (check : ℤ → Except ε Unit) :
    Codec ε { n : ℤ // check n = .ok () } where
  encode n := .int n.1
  decode
    | .int n => checked check n
    | _ => .error notInt
  decode_encode n := checked_of_ok n.2

def string (notString : ε) : Codec ε String where
  encode s := .str s
  decode
    | .str s => .ok s
    | _ => .error notString
  decode_encode _ := rfl

def bool (notBool : ε) : Codec ε Bool where
  encode b := .bool b
  decode
    | .bool b => .ok b
    | _ => .error notBool
  decode_encode _ := rfl

/-! A literal has a single value, so it is written and checked but not kept. -/

def literalString (value : String) (other : ε) : Codec ε Unit where
  encode _ := .str value
  decode
    | .str s => if s = value then .ok () else .error other
    | _ => .error other
  decode_encode _ := if_pos rfl

def literalInt (value : ℤ) (other : ε) : Codec ε Unit where
  encode _ := .int value
  decode
    | .int n => if n = value then .ok () else .error other
    | _ => .error other
  decode_encode _ := if_pos rfl

def literalBool (value : Bool) (other : ε) : Codec ε Unit where
  encode _ := .bool value
  decode
    | .bool b => if b = value then .ok () else .error other
    | _ => .error other
  decode_encode _ := if_pos rfl

/-- The same JSON form for a type that carries the same information. -/
def iso (c : Codec ε α) (make : α → β) (parts : β → α) (make_parts : ∀ y, make (parts y) = y) :
    Codec ε β where
  encode y := c.encode (parts y)
  decode j := make <$> c.decode j
  decode_encode y := by rw [c.decode_encode]; exact congrArg Except.ok (make_parts y)

/-- The names of finitely many alternatives. -/
def enum (other : ε) (values : List α) (name : α → String)
    (find_name : ∀ x, values.find? (fun y => name y = name x) = some x) : Codec ε α where
  encode x := .str (name x)
  decode
    | .str s =>
        match values.find? fun y => name y = s with
        | some x => .ok x
        | none => .error other
    | _ => .error other
  decode_encode x := by simp only [orderForJcs, find_name]

/-- A value or `null`. -/
def option (c : Codec ε α) (ne_null : ∀ x, (c.encode x).orderForJcs ≠ .null) :
    Codec ε (Option α) where
  encode
    | some x => c.encode x
    | none => .null
  decode
    | .null => .ok none
    | j => some <$> c.decode j
  decode_encode
    | some x => by
        have hdecode := c.decode_encode x
        have hne := ne_null x
        revert hdecode hne
        dsimp only
        cases (c.encode x).orderForJcs with
        | null => intro _ hne; exact absurd rfl hne
        | bool b => intro hdecode _; simp only [hdecode]; rfl
        | int n => intro hdecode _; simp only [hdecode]; rfl
        | str s => intro hdecode _; simp only [hdecode]; rfl
        | arr items => intro hdecode _; simp only [hdecode]; rfl
        | obj fields => intro hdecode _; simp only [hdecode]; rfl
    | none => rfl

def decodeItems (decode : Json → Except ε α) : List Json → Except ε (List α)
  | [] => .ok []
  | j :: rest =>
      match decode j with
      | .error error => .error error
      | .ok x => (x :: ·) <$> decodeItems decode rest

theorem decodeItems_encode (c : Codec ε α) (xs : List α) :
    decodeItems c.decode (orderItems (xs.map c.encode)) = .ok xs := by
  induction xs with
  | nil => rfl
  | cons x rest ih =>
      rw [List.map_cons, orderItems, decodeItems, c.decode_encode, ih]
      rfl

def list (c : Codec ε α) (notArray : ε) : Codec ε (List α) where
  encode xs := .arr (xs.map c.encode)
  decode
    | .arr items => decodeItems c.decode items
    | _ => .error notArray
  decode_encode xs := decodeItems_encode c xs

/-- The values a further check accepts. -/
def refine (c : Codec ε α) (check : α → Except ε Unit) :
    Codec ε { x : α // check x = .ok () } where
  encode x := c.encode x.1
  decode j :=
    match c.decode j with
    | .ok x => checked check x
    | .error error => .error error
  decode_encode x := by
    simp only [c.decode_encode]
    exact checked_of_ok x.2

end Codec

namespace Record

/-- One field. `absent` is what an object without it means: an error, or the
field's default. Errors inside the field are located by its name. -/
def field (name : String) (c : Codec ε α) (absent : Except ε α) (locate : ε → ε) :
    Record ε α where
  names := [name]
  encode x := [(name, c.encode x)]
  decode get :=
    match get name with
    | none => absent
    | some j => (c.decode j).mapError locate
  names_encode _ := rfl
  decode_encode x get hget := by
    have hfield : get name = some (c.encode x).orderForJcs := hget _ List.mem_cons_self
    simp only [hfield, c.decode_encode]
    rfl

/-- The fields of two records side by side. -/
def and (r : Record ε α) (r' : Record ε β) : Record ε (α × β) where
  names := r.names ++ r'.names
  encode x := r.encode x.1 ++ r'.encode x.2
  decode get :=
    match r.decode get with
    | .error error => .error error
    | .ok x => (x, ·) <$> r'.decode get
  names_encode x := by rw [List.map_append, r.names_encode, r'.names_encode]
  decode_encode x get hget := by
    have hleft : r.decode get = .ok x.1 := by
      apply r.decode_encode
      exact fun field hfield => hget field (List.mem_append_left _ hfield)
    have hright : r'.decode get = .ok x.2 := by
      apply r'.decode_encode
      exact fun field hfield => hget field (List.mem_append_right _ hfield)
    rw [hleft, hright]
    rfl

def iso (r : Record ε α) (make : α → β) (parts : β → α) (make_parts : ∀ y, make (parts y) = y) :
    Record ε β where
  names := r.names
  encode y := r.encode (parts y)
  decode get := make <$> r.decode get
  names_encode y := r.names_encode (parts y)
  decode_encode y get hget := by
    rw [r.decode_encode (parts y) get hget]
    exact congrArg Except.ok (make_parts y)

/-- The values a check over all fields accepts. -/
def refine (r : Record ε α) (check : α → Except ε Unit) :
    Record ε { x : α // check x = .ok () } where
  names := r.names
  encode x := r.encode x.1
  decode get :=
    match r.decode get with
    | .ok x => checked check x
    | .error error => .error error
  names_encode x := r.names_encode x.1
  decode_encode x get hget := by
    rw [r.decode_encode x.1 get hget]
    exact checked_of_ok x.2

theorem lookup_orderFields {fields : List (String × Json)} (hkeys : (fields.map Prod.fst).Nodup)
    (name : String) :
    lookup name (sortFields (orderFields fields)) = (lookup name fields).map orderForJcs := by
  have hperm := sortFields_perm (orderFields fields)
  have hfst : (orderFields fields).map Prod.fst = fields.map Prod.fst := by
    rw [orderFields_eq_map, List.map_map]
    rfl
  have hsorted : ((sortFields (orderFields fields)).map Prod.fst).Nodup := by
    rw [(hperm.map Prod.fst).nodup_iff, hfst]
    exact hkeys
  rw [lookup_eq_of_perm hperm hsorted, orderFields_eq_map, lookup, lookup, List.find?_map,
    Option.map_map, Option.map_map]
  rfl

theorem find?_orderFields {fields : List (String × Json)} {names : List String}
    (hnames : fields.map Prod.fst ⊆ names) :
    (sortFields (orderFields fields)).find? (fun field => field.1 ∉ names) = none := by
  have hperm := sortFields_perm (orderFields fields)
  rw [List.find?_eq_none]
  intro field hfield
  have hmem := hperm.mem_iff.mp hfield
  rw [orderFields_eq_map] at hmem
  obtain ⟨field', hfield', rfl⟩ := List.mem_map.mp hmem
  simpa using hnames (List.mem_map_of_mem hfield')

/-- A closed object: all fields of the record and no others. -/
def codec (r : Record ε α) (notObject : ε) (extra : String → ε) (hnodup : r.names.Nodup) :
    Codec ε α where
  encode x := .obj (r.encode x)
  decode
    | .obj fields =>
        match fields.find? fun field => field.1 ∉ r.names with
        | some field => .error (extra field.1)
        | none => r.decode fun name => lookup name fields
    | _ => .error notObject
  decode_encode x := by
    have hnames := r.names_encode x
    simp only [orderForJcs, find?_orderFields (fun _ h => hnames ▸ h)]
    apply r.decode_encode
    intro field hfield
    have hkeys : ((r.encode x).map Prod.fst).Nodup := hnames ▸ hnodup
    rw [lookup_orderFields hkeys, lookup_eq_some_of_mem hkeys hfield]
    rfl

/-- An object without foreign fields is read through its own fields, whatever order
its text lists them in. -/
theorem decode_codec {r : Record ε α} {notObject : ε} {extra : String → ε}
    {hnodup : r.names.Nodup} {fields : List (String × Json)}
    (hkeys : (fields.map Prod.fst).Nodup) (hnames : fields.map Prod.fst ⊆ r.names) :
    (r.codec notObject extra hnodup).decode (Json.obj fields).orderForJcs =
      r.decode fun name => (lookup name fields).map orderForJcs := by
  simp only [codec, orderForJcs, find?_orderFields hnames]
  congr 1
  funext name
  exact lookup_orderFields hkeys name

end Record

end Json
