/-
# The validator of values in memory

The validator is called on parsed JSON and on values the program built: lists and tuples,
mappings and models, texts with surrogates, floats, and objects of any other type. It threads
one counter of nodes through the whole tree and returns a copy in which tuples are lists and
models are mappings. On a tree that came from JSON it does what the validator of JSON values
does.
-/

import Containment.Models.CanonicalText

namespace Containment

/-! ## Values -/

/-- A character of a text in memory, which may be half of a surrogate pair. -/
abbrev CodePoint : Type := Fin 0x110000

abbrev PyStr : Type := List CodePoint

def CodePoint.isSurrogate (c : CodePoint) : Bool := 0xD800 ≤ c.1 && c.1 ≤ 0xDFFF

/-- The text of an error about a string. -/
def PyStr.text (s : PyStr) : String := String.ofList (s.map fun c => Char.ofNat c.1)

inductive SequenceKind
  | list
  | tuple

/-- A model stands for the mapping it is dumped to. -/
inductive MappingKind
  | mapping
  | model

inductive PyKey
  | str (text : PyStr)
  | unsupported
  deriving DecidableEq

inductive PyValue
  | none
  | bool (value : Bool)
  | int (value : ℤ)
  | float
  | str (text : PyStr)
  | sequence (kind : SequenceKind) (items : List PyValue)
  | mapping (kind : MappingKind) (items : List (PyKey × PyValue))
  | unsupported (typeName : String)

/-! ## The validator -/

section Validator

variable (normalize : PyStr → PyStr)

/-- `_require_nfc`. -/
def requireNfcText (value : PyStr) (label : String) : Except PyError Unit := do
  ensure (normalize value = value) (.valueError (label ++ " must be NFC-normalized"))
  ensure (value.any CodePoint.isSurrogate = false)
    (.valueError (label ++ " must not contain Unicode surrogates"))

mutual

/-- `_validate_json_value`: the copy, and what is left of the budget. -/
def validateValue (path : String) (depth : ℕ) (budget : ℤ) :
    PyValue → Except PyError (PyValue × ℤ)
  | .none => do
      let budget ← enterNode path depth budget
      return (.none, budget)
  | .bool value => do
      let budget ← enterNode path depth budget
      return (.bool value, budget)
  | .int value => do
      let budget ← enterNode path depth budget
      ensure (|value| ≤ maxSafeInteger)
        (.valueError (path ++ ": integer exceeds the I-JSON safe range"))
      return (.int value, budget)
  | .float => do
      let _ ← enterNode path depth budget
      .error (.typeError (path ++ ": floats are forbidden; encode decimals as strings"))
  | .str text => do
      let budget ← enterNode path depth budget
      requireNfcText normalize text path
      return (.str text, budget)
  | .sequence _ items => do
      let budget ← enterNode path depth budget
      let (items, budget) ← validateSequence path (depth + 1) budget 0 items
      return (.sequence .list items, budget)
  | .mapping _ items => do
      let budget ← enterNode path depth budget
      let (items, budget) ← validateMapping path (depth + 1) budget [] items
      return (.mapping .mapping items, budget)
  | .unsupported typeName => do
      let _ ← enterNode path depth budget
      .error (.typeError (path ++ ": unsupported canonical JSON type " ++ typeName))

def validateSequence (path : String) (depth : ℕ) (budget : ℤ) (index : ℕ) :
    List PyValue → Except PyError (List PyValue × ℤ)
  | [] => .ok ([], budget)
  | item :: rest => do
      let (item, budget) ← validateValue (path ++ "[" ++ toString index ++ "]") depth budget item
      let (rest, budget) ← validateSequence path depth budget (index + 1) rest
      return (item :: rest, budget)

/-- The loop over the items of a mapping. A key that passes is not in the result yet, so it is
added at the end. -/
def validateMapping (path : String) (depth : ℕ) (budget : ℤ) (normalizedKeys : List PyStr) :
    List (PyKey × PyValue) → Except PyError (List (PyKey × PyValue) × ℤ)
  | [] => .ok ([], budget)
  | (.unsupported, _) :: _ => .error (.typeError (path ++ ": JSON object keys must be strings"))
  | (.str key, item) :: rest => do
      requireNfcText normalize key (path ++ " object key")
      ensure (normalize key ∉ normalizedKeys)
        (.valueError (path ++ ": duplicate key after NFC normalization"))
      let (item, budget) ← validateValue (path ++ "." ++ key.text) depth budget item
      let (rest, budget) ← validateMapping path depth budget (normalize key :: normalizedKeys) rest
      return ((.str key, item) :: rest, budget)

end

end Validator

/-! ## The profile -/

namespace PyValue

mutual

/-- The nodes of a tree, each with its depth. -/
def nodes (depth : ℕ) : PyValue → List (ℕ × PyValue)
  | .sequence kind items => (depth, .sequence kind items) :: nodesSequence (depth + 1) items
  | .mapping kind items => (depth, .mapping kind items) :: nodesMapping (depth + 1) items
  | .none => [(depth, .none)]
  | .bool value => [(depth, .bool value)]
  | .int value => [(depth, .int value)]
  | .float => [(depth, .float)]
  | .str text => [(depth, .str text)]
  | .unsupported typeName => [(depth, .unsupported typeName)]

def nodesSequence (depth : ℕ) : List PyValue → List (ℕ × PyValue)
  | [] => []
  | item :: rest => nodes depth item ++ nodesSequence depth rest

def nodesMapping (depth : ℕ) : List (PyKey × PyValue) → List (ℕ × PyValue)
  | [] => []
  | (_, item) :: rest => nodes depth item ++ nodesMapping depth rest

end

mutual

/-- The same tree, with lists for tuples and mappings for models. -/
def plain : PyValue → PyValue
  | .sequence _ items => .sequence .list (plainSequence items)
  | .mapping _ items => .mapping .mapping (plainMapping items)
  | .none => .none
  | .bool value => .bool value
  | .int value => .int value
  | .float => .float
  | .str text => .str text
  | .unsupported typeName => .unsupported typeName

def plainSequence : List PyValue → List PyValue
  | [] => []
  | item :: rest => plain item :: plainSequence rest

def plainMapping : List (PyKey × PyValue) → List (PyKey × PyValue)
  | [] => []
  | (key, item) :: rest => (key, plain item) :: plainMapping rest

end

/-- NFC and without surrogates. -/
def Clean (normalize : PyStr → PyStr) (s : PyStr) : Prop :=
  normalize s = s ∧ ∀ c ∈ s, CodePoint.isSurrogate c = false

/-- What the profile asks of a node, apart from the nodes below it. -/
def Allowed (normalize : PyStr → PyStr) : PyValue → Prop
  | .int value => |value| ≤ 2 ^ 53 - 1
  | .str text => Clean normalize text
  | .mapping _ items => ∀ item ∈ items, ∃ key, item.1 = .str key ∧ Clean normalize key
  | .float => False
  | .unsupported _ => False
  | _ => True

def DistinctKeys : PyValue → Prop
  | .mapping _ items => (items.map Prod.fst).Nodup
  | _ => True

end PyValue

/-- A finite tree of values whose mappings have no key twice. -/
structure JsonLike where
  value : PyValue
  distinct : ∀ node ∈ value.nodes 0, node.2.DistinctKeys

/-! ## What the validator accepts -/

open PyValue

variable {normalize : PyStr → PyStr}

theorem requireNfcText_eq_ok {value : PyStr} {label : String} {u : Unit} :
    requireNfcText normalize value label = .ok u ↔ Clean normalize value := by
  rw [requireNfcText, bind_unit_eq_ok, ensure_eq_ok, ensure_eq_ok, List.any_eq_false, Clean]
  simp

/-- Every one of the nodes is allowed where it stands. -/
def Passes (normalize : PyStr → PyStr) (nodes : List (ℕ × PyValue)) : Prop :=
  ∀ node ∈ nodes, node.1 ≤ maxJsonDepth ∧ node.2.Allowed normalize ∧ node.2.DistinctKeys

@[simp]
theorem passes_nil : Passes normalize [] ↔ True := by simp [Passes]

@[simp]
theorem passes_cons {node : ℕ × PyValue} {nodes : List (ℕ × PyValue)} :
    Passes normalize (node :: nodes) ↔
      (node.1 ≤ maxJsonDepth ∧ node.2.Allowed normalize ∧ node.2.DistinctKeys) ∧
        Passes normalize nodes :=
  List.forall_mem_cons

@[simp]
theorem passes_append {nodes nodes' : List (ℕ × PyValue)} :
    Passes normalize (nodes ++ nodes') ↔ Passes normalize nodes ∧ Passes normalize nodes' :=
  List.forall_mem_append

mutual

/-- The validator accepts exactly the profile, returns the plain tree and charges one unit for
each node. -/
theorem validateValue_eq_ok : ∀ (v w : PyValue) (path : String) (depth : ℕ) (budget budget' : ℤ),
    validateValue normalize path depth budget v = .ok (w, budget') ↔
      Passes normalize (v.nodes depth) ∧ ((v.nodes depth).length : ℤ) ≤ budget ∧ w = v.plain ∧
        budget' = budget - (v.nodes depth).length
  | .none, w, path, depth, budget, budget' => by
      simp [validateValue, bind_eq_ok, enterNode_eq_ok, nodes, plain, Allowed, DistinctKeys]
      tauto
  | .bool _, w, path, depth, budget, budget' => by
      simp [validateValue, bind_eq_ok, enterNode_eq_ok, nodes, plain, Allowed, DistinctKeys]
      tauto
  | .int n, w, path, depth, budget, budget' => by
      have hmax : maxSafeInteger = 9007199254740991 := rfl
      simp [validateValue, bind_eq_ok, enterNode_eq_ok, nodes, plain, Allowed, DistinctKeys]
      rw [hmax]
      tauto
  | .float, w, path, depth, budget, budget' => by
      simp [validateValue, bind_eq_ok, nodes, Allowed]
  | .str s, w, path, depth, budget, budget' => by
      simp [validateValue, bind_eq_ok, enterNode_eq_ok, nodes, plain, Allowed, DistinctKeys,
        Unique.exists_iff, requireNfcText_eq_ok]
      tauto
  | .unsupported _, w, path, depth, budget, budget' => by
      simp [validateValue, bind_eq_ok, nodes, Allowed]
  | .sequence kind items, w, path, depth, budget, budget' => by
      rw [validateValue, bind_eq_ok]
      simp only [bind_eq_ok, enterNode_eq_ok, except_pure, Except.ok.injEq, Prod.exists,
        Prod.mk.injEq, nodes, plain, passes_cons, Allowed, DistinctKeys, List.length_cons]
      constructor
      · rintro ⟨_, ⟨hdepth, hbudget, rfl⟩, items', _, hitems, rfl, rfl⟩
        obtain ⟨hpasses, hlength, rfl, rfl⟩ :=
          (validateSequence_eq_ok items _ path _ _ 0 _ (by omega)).mp hitems
        exact ⟨⟨⟨hdepth, trivial, trivial⟩, hpasses⟩, by push_cast; omega, rfl, by push_cast; omega⟩
      · rintro ⟨⟨⟨hdepth, -, -⟩, hpasses⟩, hlength, rfl, rfl⟩
        push_cast at hlength
        refine ⟨_, ⟨hdepth, by omega, rfl⟩, _, _,
          (validateSequence_eq_ok items _ path _ _ 0 _ (by omega)).mpr
            ⟨hpasses, by omega, rfl, rfl⟩, rfl, by push_cast; omega⟩
  | .mapping kind items, w, path, depth, budget, budget' => by
      rw [validateValue, bind_eq_ok]
      simp only [bind_eq_ok, enterNode_eq_ok, except_pure, Except.ok.injEq, Prod.exists,
        Prod.mk.injEq, nodes, plain, passes_cons, Allowed, DistinctKeys, List.length_cons]
      constructor
      · rintro ⟨_, ⟨hdepth, hbudget, rfl⟩, items', _, hitems, rfl, rfl⟩
        obtain ⟨hkeys, hnodup, -, hpasses, hlength, rfl, rfl⟩ :=
          (validateMapping_eq_ok items _ path _ _ [] _ (by omega)).mp hitems
        exact ⟨⟨⟨hdepth, hkeys, hnodup⟩, hpasses⟩, by push_cast; omega, rfl, by push_cast; omega⟩
      · rintro ⟨⟨⟨hdepth, hkeys, hnodup⟩, hpasses⟩, hlength, rfl, rfl⟩
        push_cast at hlength
        refine ⟨_, ⟨hdepth, by omega, rfl⟩, _, _,
          (validateMapping_eq_ok items _ path _ _ [] _ (by omega)).mpr
            ⟨hkeys, hnodup, by simp, hpasses, by omega, rfl, rfl⟩, rfl, by push_cast; omega⟩

theorem validateSequence_eq_ok : ∀ (items items' : List PyValue) (path : String) (depth : ℕ)
    (budget : ℤ) (index : ℕ) (budget' : ℤ), 0 ≤ budget →
    (validateSequence normalize path depth budget index items = .ok (items', budget') ↔
      Passes normalize (nodesSequence depth items) ∧
        ((nodesSequence depth items).length : ℤ) ≤ budget ∧ items' = plainSequence items ∧
        budget' = budget - (nodesSequence depth items).length)
  | [], items', path, depth, budget, index, budget', hbudget => by
      simp [validateSequence, nodesSequence, plainSequence, hbudget, eq_comm]
  | item :: rest, items', path, depth, budget, index, budget', hbudget => by
      rw [validateSequence, bind_eq_ok]
      simp only [bind_eq_ok, validateValue_eq_ok item, except_pure, Except.ok.injEq, Prod.exists,
        Prod.mk.injEq, nodesSequence, plainSequence, passes_append, List.length_append]
      constructor
      · rintro ⟨_, _, ⟨hitem, hfirst, rfl, rfl⟩, rest', _, hrest, rfl, rfl⟩
        obtain ⟨hpasses, hlength, rfl, rfl⟩ :=
          (validateSequence_eq_ok rest _ path depth _ _ _ (by omega)).mp hrest
        exact ⟨⟨hitem, hpasses⟩, by push_cast; omega, rfl, by push_cast; omega⟩
      · rintro ⟨⟨hitem, hpasses⟩, hlength, rfl, rfl⟩
        push_cast at hlength
        refine ⟨_, _, ⟨hitem, by omega, rfl, rfl⟩, _, _,
          (validateSequence_eq_ok rest _ path depth _ _ _ (by omega)).mpr
            ⟨hpasses, by omega, rfl, rfl⟩, rfl, by push_cast; omega⟩

theorem validateMapping_eq_ok : ∀ (items items' : List (PyKey × PyValue)) (path : String)
    (depth : ℕ) (budget : ℤ) (seen : List PyStr) (budget' : ℤ), 0 ≤ budget →
    (validateMapping normalize path depth budget seen items = .ok (items', budget') ↔
      (∀ item ∈ items, ∃ key, item.1 = .str key ∧ Clean normalize key) ∧
        (items.map Prod.fst).Nodup ∧ (∀ key ∈ seen, PyKey.str key ∉ items.map Prod.fst) ∧
        Passes normalize (nodesMapping depth items) ∧
        ((nodesMapping depth items).length : ℤ) ≤ budget ∧ items' = plainMapping items ∧
        budget' = budget - (nodesMapping depth items).length)
  | [], items', path, depth, budget, seen, budget', hbudget => by
      simp [validateMapping, nodesMapping, plainMapping, hbudget, eq_comm]
  | (.unsupported, item) :: rest, items', path, depth, budget, seen, budget', hbudget => by
      simp [validateMapping]
  | (.str key, item) :: rest, items', path, depth, budget, seen, budget', hbudget => by
      rw [validateMapping, bind_unit_eq_ok, bind_unit_eq_ok, bind_eq_ok, requireNfcText_eq_ok,
        ensure_eq_ok]
      simp only [bind_eq_ok, validateValue_eq_ok item, except_pure, Except.ok.injEq, Prod.exists,
        Prod.mk.injEq, nodesMapping, plainMapping, passes_append, List.length_append,
        List.forall_mem_cons, List.map_cons, List.nodup_cons, PyKey.str.injEq, exists_eq_left']
      constructor
      · rintro ⟨hclean, hfresh, _, _, ⟨hitem, hfirst, rfl, rfl⟩, rest', _, hrest, rfl, rfl⟩
        rw [hclean.1] at hfresh hrest
        obtain ⟨hkeys, hnodup, hseen, hpasses, hlength, rfl, rfl⟩ :=
          (validateMapping_eq_ok rest _ path depth _ _ _ (by omega)).mp hrest
        obtain ⟨hkey, hseen⟩ := List.forall_mem_cons.mp hseen
        refine ⟨⟨hclean, hkeys⟩, ⟨hkey, hnodup⟩, fun key' hmem => ?_, ⟨hitem, hpasses⟩,
          by push_cast; omega, rfl, by push_cast; omega⟩
        rw [List.mem_cons, not_or, PyKey.str.injEq]
        exact ⟨fun heq => hfresh (heq ▸ hmem), hseen key' hmem⟩
      · rintro ⟨⟨hclean, hkeys⟩, ⟨hkey, hnodup⟩, hseen, ⟨hitem, hpasses⟩, hlength, rfl, rfl⟩
        push_cast at hlength
        rw [hclean.1]
        refine ⟨hclean, fun hmem => hseen key hmem List.mem_cons_self, _, _,
          ⟨hitem, by omega, rfl, rfl⟩, _, _,
          (validateMapping_eq_ok rest _ path depth _ _ _ (by omega)).mpr
            ⟨hkeys, hnodup, List.forall_mem_cons.mpr ⟨hkey, fun key' hmem hrest =>
              hseen key' hmem (List.mem_cons_of_mem _ hrest)⟩, hpasses, by omega, rfl, rfl⟩,
          rfl, by push_cast; omega⟩

end

/-! ## Orders of traversal -/

theorem nodesSequence_eq_flatMap (depth : ℕ) (items : List PyValue) :
    nodesSequence depth items = items.flatMap (nodes depth) := by
  induction items with
  | nil => rfl
  | cons item rest ih => rw [nodesSequence, ih, List.flatMap_cons]

theorem nodesMapping_eq_flatMap (depth : ℕ) (items : List (PyKey × PyValue)) :
    nodesMapping depth items = items.flatMap fun item => nodes depth item.2 := by
  induction items with
  | nil => rfl
  | cons item rest ih => rw [nodesMapping, ih, List.flatMap_cons]

/-- One rearrangement of siblings, anywhere in the tree. -/
inductive Reordered : PyValue → PyValue → Prop
  | sequence (kind : SequenceKind) {items items' : List PyValue} (h : items.Perm items') :
      Reordered (.sequence kind items) (.sequence kind items')
  | mapping (kind : MappingKind) {items items' : List (PyKey × PyValue)} (h : items.Perm items') :
      Reordered (.mapping kind items) (.mapping kind items')
  | item (kind : SequenceKind) (before after : List PyValue) {v w : PyValue} (h : Reordered v w) :
      Reordered (.sequence kind (before ++ v :: after)) (.sequence kind (before ++ w :: after))
  | value (kind : MappingKind) (before after : List (PyKey × PyValue)) (key : PyKey)
      {v w : PyValue} (h : Reordered v w) :
      Reordered (.mapping kind (before ++ (key, v) :: after))
        (.mapping kind (before ++ (key, w) :: after))

theorem passes_iff_of_perm {nodes nodes' : List (ℕ × PyValue)} (h : nodes.Perm nodes') :
    Passes normalize nodes ↔ Passes normalize nodes' :=
  forall_congr' fun _ => imp_congr_left h.mem_iff

/-- A rearrangement changes neither the number of nodes nor what is asked of them. -/
theorem Reordered.nodes_iff {v w : PyValue} (h : Reordered v w) (depth : ℕ) :
    (v.nodes depth).length = (w.nodes depth).length ∧
      (Passes normalize (v.nodes depth) ↔ Passes normalize (w.nodes depth)) := by
  induction h generalizing depth with
  | sequence kind h =>
      have hnodes := h.flatMap_right (nodes (depth + 1))
      simp only [nodes, nodesSequence_eq_flatMap, List.length_cons, hnodes.length_eq, passes_cons,
        Allowed, DistinctKeys, passes_iff_of_perm hnodes, and_self]
  | mapping kind h =>
      have hnodes := h.flatMap_right fun item => nodes (depth + 1) item.2
      have hkeys := (h.map Prod.fst).nodup_iff
      simp only [nodes, nodesMapping_eq_flatMap, List.length_cons, hnodes.length_eq, passes_cons,
        Allowed, DistinctKeys, passes_iff_of_perm hnodes, hkeys, h.mem_iff, and_self]
  | item kind before after _ ih =>
      obtain ⟨hlength, hpasses⟩ := ih (depth + 1)
      simp only [nodes, nodesSequence_eq_flatMap, List.flatMap_append, List.flatMap_cons,
        List.length_cons, List.length_append, hlength, passes_cons, passes_append, Allowed,
        DistinctKeys, hpasses, and_self]
  | value kind before after key _ ih =>
      obtain ⟨hlength, hpasses⟩ := ih (depth + 1)
      simp only [nodes, nodesMapping_eq_flatMap, List.flatMap_append, List.flatMap_cons,
        List.length_cons, List.length_append, hlength, passes_cons, passes_append, Allowed,
        DistinctKeys, hpasses, List.forall_mem_append, List.forall_mem_cons, List.map_append,
        List.map_cons, and_self]

namespace JsonLike

/-- The number of values in the tree. -/
def size (tree : JsonLike) : ℕ := (tree.value.nodes 0).length

/-- The profile: depth, size, integers, types and texts. -/
structure InProfile (normalize : PyStr → PyStr) (tree : JsonLike) : Prop where
  depth : ∀ node ∈ tree.value.nodes 0, node.1 ≤ 64
  size : tree.size ≤ 100000
  allowed : ∀ node ∈ tree.value.nodes 0, node.2.Allowed normalize

theorem inProfile_iff {tree : JsonLike} :
    tree.InProfile normalize ↔
      Passes normalize (tree.value.nodes 0) ∧ ((tree.value.nodes 0).length : ℤ) ≤ maxJsonNodes := by
  constructor
  · intro h
    refine ⟨fun node hnode => ⟨h.depth node hnode, h.allowed node hnode, tree.distinct node hnode⟩, ?_⟩
    have hsize : (tree.value.nodes 0).length ≤ 100000 := h.size
    rw [maxJsonNodes]
    exact_mod_cast hsize
  · rintro ⟨hpasses, hsize⟩
    refine ⟨fun node hnode => (hpasses node hnode).1, ?_, fun node hnode => (hpasses node hnode).2.1⟩
    rw [maxJsonNodes] at hsize
    rw [size]
    exact_mod_cast hsize

theorem reordered_iff {tree other : JsonLike}
    (h : Relation.ReflTransGen Reordered tree.value other.value) :
    other.size = tree.size ∧ (other.InProfile normalize ↔ tree.InProfile normalize) := by
  have hrun {v w : PyValue} (h : Relation.ReflTransGen Reordered v w) :
      (v.nodes 0).length = (w.nodes 0).length ∧
        (Passes normalize (v.nodes 0) ↔ Passes normalize (w.nodes 0)) := by
    induction h with
    | refl => exact ⟨rfl, Iff.rfl⟩
    | tail _ hstep ih =>
        have hnodes := @Reordered.nodes_iff normalize _ _ hstep 0
        exact ⟨ih.1.trans hnodes.1, ih.2.trans hnodes.2⟩
  obtain ⟨hlength, hpasses⟩ := hrun h
  exact ⟨hlength.symm, by rw [inProfile_iff, inProfile_iff, hlength, hpasses]⟩

end JsonLike

/-- The validator accepts exactly the profile. It returns the tree with lists for tuples, and has
charged its budget for each node once, in whatever order siblings stand. -/
theorem validateValue_profile (normalize : PyStr → PyStr) (tree : JsonLike) :
    ((∃ result, validateValue normalize "$" 0 maxJsonNodes tree.value = .ok result) ↔
      tree.InProfile normalize) ∧
    (∀ w budget, validateValue normalize "$" 0 maxJsonNodes tree.value = .ok (w, budget) →
      w = tree.value.plain ∧ maxJsonNodes - budget = tree.size) ∧
    ∀ other : JsonLike, Relation.ReflTransGen Reordered tree.value other.value →
      other.size = tree.size ∧ (other.InProfile normalize ↔ tree.InProfile normalize) := by
  refine ⟨?_, fun w budget h => ?_, fun other => JsonLike.reordered_iff⟩
  · rw [JsonLike.inProfile_iff]
    constructor
    · rintro ⟨⟨w, budget⟩, h⟩
      obtain ⟨hpasses, hsize, -, -⟩ := (validateValue_eq_ok _ _ _ _ _ _).mp h
      exact ⟨hpasses, hsize⟩
    · rintro ⟨hpasses, hsize⟩
      exact ⟨_, (validateValue_eq_ok _ _ _ _ _ _).mpr ⟨hpasses, hsize, rfl, rfl⟩⟩
  · obtain ⟨-, -, hplain, rfl⟩ := (validateValue_eq_ok _ _ _ _ _ _).mp h
    exact ⟨hplain, by rw [JsonLike.size]; omega⟩

/-- A tuple of two values, returned as a list for three units. -/
theorem validateValue_profile_tuple :
    ∃ budget, validateValue id "$" 0 maxJsonNodes (.sequence .tuple [.int 1, .none]) =
      .ok (.sequence .list [.int 1, .none], budget) ∧ maxJsonNodes - budget = 3 := by
  let tree : JsonLike :=
    ⟨.sequence .tuple [.int 1, .none], by simp [nodes, nodesSequence, DistinctKeys]⟩
  obtain ⟨hiff, hresult, -⟩ := validateValue_profile id tree
  have hallowed : ∀ node ∈ tree.value.nodes 0, node.2.Allowed id := by
    simp only [tree, nodes, nodesSequence, List.nil_append, List.cons_append, List.forall_mem_cons]
    exact ⟨trivial, show |(1 : ℤ)| ≤ maxSafeInteger by decide, trivial, fun _ h => nomatch h⟩
  have hprofile : tree.InProfile id :=
    ⟨by simp [tree, nodes, nodesSequence], by simp [tree, JsonLike.size, nodes, nodesSequence],
      hallowed⟩
  obtain ⟨⟨w, budget⟩, h⟩ := hiff.mpr hprofile
  obtain ⟨rfl, hbudget⟩ := hresult w budget h
  exact ⟨budget, h, hbudget⟩

/-! ## Trees of JSON -/

theorem toNat_range (c : Char) :
    c.toNat < 0x110000 ∧ ¬ (0xD800 ≤ c.toNat ∧ c.toNat ≤ 0xDFFF) := by
  have hvalid : c.toNat < 0xD800 ∨ 0xDFFF < c.toNat ∧ c.toNat < 0x110000 := c.valid
  omega

def codePoint (c : Char) : CodePoint := ⟨c.toNat, (toNat_range c).1⟩

/-- The characters of a text. -/
def codePoints (s : String) : PyStr := s.toList.map codePoint

mutual

/-- A JSON value in memory. -/
def PyValue.ofJson : Json → PyValue
  | .null => .none
  | .bool value => .bool value
  | .int value => .int value
  | .str value => .str (codePoints value)
  | .arr items => .sequence .list (ofItems items)
  | .obj fields => .mapping .mapping (ofFields fields)

def PyValue.ofItems : List Json → List PyValue
  | [] => []
  | item :: rest => PyValue.ofJson item :: PyValue.ofItems rest

def PyValue.ofFields : List (String × Json) → List (PyKey × PyValue)
  | [] => []
  | (key, value) :: rest => (.str (codePoints key), PyValue.ofJson value) :: PyValue.ofFields rest

end

theorem codePoints_inj {s t : String} : codePoints s = codePoints t ↔ s = t := by
  constructor
  · intro h
    have hinjective : Function.Injective codePoint := fun c d hcd =>
      Char.toNat_inj.mp (Fin.mk.inj hcd)
    exact String.toList_inj.mp (List.map_injective_iff.mpr hinjective h)
  · rintro rfl
    rfl

theorem text_codePoints (s : String) : (codePoints s).text = s := by
  have hchar : (fun c : CodePoint => Char.ofNat c.1) ∘ codePoint = id := by
    funext c
    exact Char.ofNat_toNat c
  rw [PyStr.text, codePoints, List.map_map, hchar, List.map_id, String.ofList_toList]

/-- The texts of JSON values have no surrogates. -/
theorem any_isSurrogate_codePoints (s : String) :
    (codePoints s).any CodePoint.isSurrogate = false := by
  rw [codePoints, List.any_map, List.any_eq_false]
  intro c _ h
  have hrange := (toNat_range c).2
  simp only [Function.comp, CodePoint.isSurrogate, codePoint, Bool.and_eq_true] at h
  exact hrange ⟨of_decide_eq_true h.1, of_decide_eq_true h.2⟩

variable {P : Platform}

theorem requireNfcText_codePoints
    (hnormalize : ∀ s, normalize (codePoints s) = codePoints (P.normalizeNfc s)) (s label : String) :
    requireNfcText normalize (codePoints s) label = requireNfc P s label := by
  unfold requireNfcText requireNfc ensure
  simp only [hnormalize, codePoints_inj, any_isSurrogate_codePoints, if_true]
  split_ifs <;> rfl

mutual

/-- On a tree of JSON, the validator of values in memory is the validator of JSON values. -/
theorem validateValue_ofJson
    (hnormalize : ∀ s, normalize (codePoints s) = codePoints (P.normalizeNfc s)) : ∀ (v : Json) (path : String) (depth : ℕ) (budget : ℤ),
    validateValue normalize path depth budget (.ofJson v) =
      (validateJsonValue P path depth budget v).map fun budget => (.ofJson v, budget)
  | .null, path, depth, budget => by
      rw [PyValue.ofJson, validateValue, validateJsonValue]
      cases enterNode path depth budget <;> rfl
  | .bool _, path, depth, budget => by
      rw [PyValue.ofJson, validateValue, validateJsonValue]
      cases enterNode path depth budget <;> rfl
  | .int n, path, depth, budget => by
      rw [PyValue.ofJson, validateValue, validateJsonValue]
      cases enterNode path depth budget with
      | error error => rfl
      | ok budget =>
          simp only [except_ok_bind]
          unfold ensure
          split_ifs <;> rfl
  | .str s, path, depth, budget => by
      rw [PyValue.ofJson, validateValue, validateJsonValue]
      simp only [requireNfcText_codePoints hnormalize]
      cases enterNode path depth budget with
      | error error => rfl
      | ok budget =>
          simp only [except_ok_bind]
          cases requireNfc P s path <;> rfl
  | .arr items, path, depth, budget => by
      rw [PyValue.ofJson, validateValue, validateJsonValue]
      cases enterNode path depth budget with
      | error error => rfl
      | ok budget =>
          simp only [except_ok_bind, validateSequence_ofItems hnormalize items]
          cases validateItems P path (depth + 1) budget 0 items <;> rfl
  | .obj fields, path, depth, budget => by
      rw [PyValue.ofJson, validateValue, validateJsonValue]
      cases enterNode path depth budget with
      | error error => rfl
      | ok budget =>
          have hfields := validateMapping_ofFields hnormalize fields path (depth + 1) budget []
          rw [List.map_nil] at hfields
          simp only [except_ok_bind, hfields]
          cases validateFields P path (depth + 1) budget [] fields <;> rfl

theorem validateSequence_ofItems
    (hnormalize : ∀ s, normalize (codePoints s) = codePoints (P.normalizeNfc s)) :
    ∀ (items : List Json) (path : String) (depth : ℕ) (budget : ℤ) (index : ℕ), validateSequence normalize path depth budget index (ofItems items) =
      (validateItems P path depth budget index items).map fun budget => (ofItems items, budget)
  | [], path, depth, budget, index => rfl
  | item :: rest, path, depth, budget, index => by
      rw [PyValue.ofItems, validateSequence, validateItems, validateValue_ofJson hnormalize item]
      cases validateJsonValue P (path ++ "[" ++ toString index ++ "]") depth budget item with
      | error error => rfl
      | ok budget =>
          simp only [Except.map, except_ok_bind, validateSequence_ofItems hnormalize rest]
          cases validateItems P path depth budget (index + 1) rest <;> rfl

theorem validateMapping_ofFields
    (hnormalize : ∀ s, normalize (codePoints s) = codePoints (P.normalizeNfc s)) :
    ∀ (fields : List (String × Json)) (path : String) (depth : ℕ) (budget : ℤ)
    (seen : List String),
    validateMapping normalize path depth budget (seen.map codePoints) (ofFields fields) =
      (validateFields P path depth budget seen fields).map fun budget => (ofFields fields, budget)
  | [], path, depth, budget, seen => rfl
  | (key, value) :: rest, path, depth, budget, seen => by
      have hseen : codePoints (P.normalizeNfc key) ∈ seen.map codePoints ↔
          P.normalizeNfc key ∈ seen :=
        List.mem_map_of_injective fun _ _ => codePoints_inj.mp
      have hrest (budget : ℤ) := validateMapping_ofFields hnormalize rest path depth budget
        (P.normalizeNfc key :: seen)
      rw [List.map_cons] at hrest
      rw [PyValue.ofFields, validateMapping, validateFields, requireNfcText_codePoints hnormalize,
        text_codePoints, hnormalize]
      cases requireNfc P key (path ++ " object key") with
      | error error => rfl
      | ok _ =>
          simp only [except_ok_bind, validateValue_ofJson hnormalize value]
          unfold ensure
          simp only [hseen]
          split_ifs with hfresh
          · rfl
          · simp only [except_ok_bind]
            cases validateJsonValue P (path ++ "." ++ key) depth budget value with
            | error error => rfl
            | ok budget =>
                simp only [Except.map, except_ok_bind, hrest]
                cases validateFields P path depth budget (P.normalizeNfc key :: seen) rest <;> rfl

end

end Containment
