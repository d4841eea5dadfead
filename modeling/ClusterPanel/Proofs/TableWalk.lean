import Mathlib.Data.List.Forall2
import ClusterPanel.Output.Document
import ClusterPanel.Proofs.ValueReading

/- What a table shows of a value, and in which order. A walk over the value visits every field of an object and the
   items of the lists that have rows of their own, each before its parts (`Visited`). The table has one row for each node
   that the walk visits, in the order of the walk, and nothing else (`table_walk`). That order is the one of the
   positions, which are the numbers of the parts that lead to a node.

   What a row has to be is said of the node alone (`Node.ShownAs`): how far it is indented, its label, and all that the
   node holds, if that does not follow in rows of its parts (`Holds`). A string is shown as it is, but for a time under
   a key that tells of one (`HoldsString`). -/
namespace ClusterPanel

open Json Time

/-! ## The walk -/

/-- The parts of a value in their order: the fields of an object, or the items of a list. -/
def Json.Value.parts : Value → List (RowLabel × Value)
  | .object ms => ms.map fun m => (.field m.1, m.2)
  | .array vs => vs.map fun v => (.item, v)
  | _ => []

/-- A node of a value: the numbers of the parts that lead to it, how many objects and lists were entered on the way, how
    it is labelled, and the value that stands there. -/
structure Node where
  position : List Nat
  depth : Nat
  label : RowLabel
  value : Value

/-- The parts of the value at a position, as nodes. -/
def nodesOf (position : List Nat) (depth : Nat) (v : Value) : List Node :=
  v.parts.mapIdx fun i m => ⟨position ++ [i], depth, m.1, m.2⟩

namespace Node

/-- Whether the walk goes on to the parts of a node: to the fields of an object that has some, and to the items of a
    list that is the value of a field and has objects or lists among its items. -/
def isOpened (n : Node) : Bool :=
  match n.label, n.value with
  | _, .object ms => !ms.isEmpty
  | .field _, .array vs => vs.any fun v => !v.isScalar
  | _, _ => false

def parts (n : Node) : List Node := nodesOf n.position (n.depth + 1) n.value

end Node

/-- The nodes that the walk over a value visits. -/
inductive Visited (v : Value) : Node → Prop
  | top {n : Node} (h : n ∈ nodesOf [] 0 v) : Visited v n
  | part {n m : Node} (hn : Visited v n) (ho : n.isOpened = true) (h : m ∈ n.parts) : Visited v m

section Parts

variable {position : List Nat} {depth : Nat} {v : Value} {n m : Node}

theorem mem_nodesOf : n ∈ nodesOf position depth v ↔
    ∃ i, v.parts[i]? = some (n.label, n.value) ∧ n.position = position ++ [i] ∧ n.depth = depth := by
  obtain ⟨p, d, l, x⟩ := n
  unfold nodesOf
  rw [List.mem_iff_getElem?]
  simp only [List.getElem?_mapIdx, Option.map_eq_some_iff, Node.mk.injEq, Prod.exists]
  constructor
  · rintro ⟨i, l, x, h, rfl, rfl, rfl, rfl⟩
    exact ⟨i, h, rfl, rfl⟩
  · rintro ⟨i, h, rfl, rfl⟩
    exact ⟨i, l, x, h, rfl, rfl, rfl, rfl⟩

theorem sizeOf_lt_of_mem_parts {l : RowLabel} {x : Value} (h : (l, x) ∈ v.parts) : sizeOf x < sizeOf v := by
  cases v with
  | object ms =>
    obtain ⟨⟨k, y⟩, hm, heq⟩ := List.mem_map.1 h
    cases heq
    have := List.sizeOf_lt_of_mem hm
    simp only [Prod.mk.sizeOf_spec, Value.object.sizeOf_spec] at this ⊢
    omega
  | array vs =>
    obtain ⟨y, hy, heq⟩ := List.mem_map.1 h
    cases heq
    have := List.sizeOf_lt_of_mem hy
    simp only [Value.array.sizeOf_spec]
    omega
  | null | bool _ | number _ | string _ => cases h

theorem sizeOf_lt_of_mem_nodesOf (h : n ∈ nodesOf position depth v) : sizeOf n.value < sizeOf v := by
  obtain ⟨i, hi, -⟩ := mem_nodesOf.1 h
  exact sizeOf_lt_of_mem_parts (List.mem_of_getElem? hi)

end Parts

namespace Node

/-- A node and the nodes that are visited after it below it. -/
def walk (n : Node) : List Node := n :: if n.isOpened then n.parts.attach.flatMap fun m => m.1.walk else []
termination_by sizeOf n.value
decreasing_by exact sizeOf_lt_of_mem_nodesOf m.2

theorem walk_eq (n : Node) : n.walk = n :: if n.isOpened then n.parts.flatMap walk else [] := by
  rw [walk]
  simp only [List.flatMap_subtype, List.unattach_attach]

/-- What holds of a node if it holds of its parts holds of every node. -/
theorem induction_parts {P : Node → Prop} (h : ∀ n : Node, (∀ m ∈ n.parts, P m) → P n) (n : Node) : P n := by
  apply h
  intro m hm
  have hlt : sizeOf m.value < sizeOf n.value := sizeOf_lt_of_mem_nodesOf hm
  exact induction_parts h m
termination_by sizeOf n.value

end Node

/-! ## Which nodes are visited, and in which order -/

/-- The nodes that the walk visits, in its order. -/
def Json.Value.walk (v : Value) : List Node := (nodesOf [] 0 v).flatMap Node.walk

section Order

variable {v : Value} {n m : Node}

theorem mem_walk_self (n : Node) : n ∈ n.walk := by
  rw [Node.walk_eq]
  exact List.mem_cons_self

theorem visited_of_mem_walk (hn : Visited v n) (h : m ∈ n.walk) : Visited v m := by
  induction n using Node.induction_parts with
  | h n ih =>
    rw [Node.walk_eq, List.mem_cons] at h
    rcases h with rfl | h
    · exact hn
    · split at h
      · next ho =>
        obtain ⟨part, hpart, hm⟩ := List.mem_flatMap.1 h
        exact ih part hpart (.part hn ho hpart) hm
      · cases h

/-- With a node that is opened the walk visits its parts. -/
theorem mem_walk_of_mem_parts {k : Node} (hm : m ∈ n.walk) (ho : m.isOpened = true) (hk : k ∈ m.parts) :
    k ∈ n.walk := by
  induction n using Node.induction_parts with
  | h n ih =>
    rw [Node.walk_eq, List.mem_cons] at hm ⊢
    rcases hm with rfl | hm
    · right
      rw [if_pos ho, List.mem_flatMap]
      exact ⟨k, hk, mem_walk_self k⟩
    · split at hm
      · next hopened =>
        obtain ⟨part, hpart, hm⟩ := List.mem_flatMap.1 hm
        right
        rw [if_pos hopened, List.mem_flatMap]
        exact ⟨part, hpart, ih part hpart hm⟩
      · cases hm

theorem mem_walk_iff : n ∈ v.walk ↔ Visited v n := by
  unfold Value.walk
  rw [List.mem_flatMap]
  constructor
  · rintro ⟨top, htop, hn⟩
    exact visited_of_mem_walk (.top htop) hn
  · intro h
    induction h with
    | top h => exact ⟨_, h, mem_walk_self _⟩
    | part _ ho h ih =>
      obtain ⟨top, htop, hn⟩ := ih
      exact ⟨top, htop, mem_walk_of_mem_parts hn ho h⟩

/-- Below a node are positions that go on from its own. -/
theorem position_of_mem_walk (h : m ∈ n.walk) : m = n ∨ ∃ i s, m.position = n.position ++ i :: s := by
  induction n using Node.induction_parts with
  | h n ih =>
    rw [Node.walk_eq, List.mem_cons] at h
    rcases h with rfl | h
    · exact .inl rfl
    · split at h
      · obtain ⟨part, hpart, hm⟩ := List.mem_flatMap.1 h
        obtain ⟨i, -, hposition, -⟩ := mem_nodesOf.1 hpart
        right
        rcases ih part hpart hm with rfl | ⟨j, s, hs⟩
        · exact ⟨i, [], hposition⟩
        · exact ⟨i, j :: s, by rw [hs, hposition, List.append_assoc, List.singleton_append]⟩
      · cases h

end Order

/-- Of two fields of one object, the first has the key that comes first. -/
def Node.KeysRise (n m : Node) : Prop :=
  ∀ p i j k k', n.position = p ++ [i] → m.position = p ++ [j] → n.label = .field k → m.label = .field k' →
    Keyed.before k k'

section Pairwise

variable {position : List Nat} {depth limit : Nat} {v : Value} {n : Node}

/-- The parts of a value stand in the order of their numbers. -/
theorem pairwise_nodesOf : (nodesOf position depth v).Pairwise fun n m => ∃ i j, i < j ∧
    n.position = position ++ [i] ∧ m.position = position ++ [j] ∧
    v.parts[i]? = some (n.label, n.value) ∧ v.parts[j]? = some (m.label, m.value) := by
  rw [List.pairwise_iff_getElem]
  intro i j hi hj hij
  rw [nodesOf, List.length_mapIdx] at hi hj
  refine ⟨i, j, hij, ?_⟩
  simp [nodesOf, List.getElem?_eq_getElem hi, List.getElem?_eq_getElem hj]

theorem lt_of_append {s t : List Nat} (h : s < t) (p : List Nat) : p ++ s < p ++ t := by
  induction p with
  | nil => exact h
  | cons a p ih => exact List.Lex.cons ih

/-- What is visited below two parts of a value stands in the order of the parts. -/
theorem lt_of_mem_walk {n m x y : Node} {i j : Nat} (hn : n.position = position ++ [i])
    (hm : m.position = position ++ [j]) (hij : i < j) (hx : x ∈ n.walk) (hy : y ∈ m.walk) :
    x.position < y.position := by
  have hbelow {n x : Node} {i : Nat} (hn : n.position = position ++ [i]) (hx : x ∈ n.walk) :
      ∃ s, x.position = position ++ i :: s := by
    rcases position_of_mem_walk hx with rfl | ⟨k, s, hs⟩
    · exact ⟨[], hn⟩
    · exact ⟨k :: s, by rw [hs, hn, List.append_assoc, List.singleton_append]⟩
  obtain ⟨s, hs⟩ := hbelow hn hx
  obtain ⟨t, ht⟩ := hbelow hm hy
  rw [hs, ht]
  exact lt_of_append (List.Lex.rel hij) position

theorem pairwise_parts (h : ∀ m ∈ nodesOf position depth v, m.walk.Pairwise fun x y => x.position < y.position) :
    ((nodesOf position depth v).flatMap Node.walk).Pairwise fun x y => x.position < y.position := by
  rw [List.pairwise_flatMap]
  refine ⟨h, pairwise_nodesOf.imp ?_⟩
  rintro n m ⟨i, j, hij, hn, hm, -⟩ x hx y hy
  exact lt_of_mem_walk hn hm hij hx hy

theorem pairwise_walk_node (n : Node) : n.walk.Pairwise fun x y => x.position < y.position := by
  induction n using Node.induction_parts with
  | h n ih =>
    rw [Node.walk_eq]
    split
    · refine List.Pairwise.cons ?_ (pairwise_parts ih)
      intro x hx
      obtain ⟨part, hpart, hx⟩ := List.mem_flatMap.1 hx
      obtain ⟨i, -, hi, -⟩ := mem_nodesOf.1 hpart
      have hlt : n.position < n.position ++ i :: [] := by
        simpa using lt_of_append (List.Lex.nil : ([] : List Nat) < [i]) n.position
      rcases position_of_mem_walk hx with rfl | ⟨j, s, hs⟩
      · rw [hi]
        exact hlt
      · rw [hs, hi, List.append_assoc]
        simpa using lt_of_append (List.Lex.nil : ([] : List Nat) < i :: j :: s) n.position
    · exact List.pairwise_singleton _ _

theorem pairwise_walk (v : Value) : v.walk.Pairwise fun x y => x.position < y.position :=
  pairwise_parts fun m _ => pairwise_walk_node m

/-- Of what is visited below two parts, only the parts themselves can be parts of one node. -/
theorem eq_of_siblings {n m x y : Node} {i j a b : Nat} {q : List Nat} (hn : n.position = position ++ [i])
    (hm : m.position = position ++ [j]) (hij : i ≠ j) (hx : x ∈ n.walk) (hy : y ∈ m.walk)
    (hq : x.position = q ++ [a]) (hq' : y.position = q ++ [b]) : x = n := by
  rcases position_of_mem_walk hx with rfl | ⟨c, s, hs⟩
  · rfl
  · have hlt : position.length < q.length := by
      have := congrArg List.length (hq.symm.trans hs)
      simp [hn] at this
      omega
    have hfirst : q[position.length]? = some i := by
      have := congrArg (·[position.length]?) (hq.symm.trans hs)
      simpa [hn, List.getElem?_append_left hlt] using this
    have hsecond : q[position.length]? = some j := by
      rcases position_of_mem_walk hy with rfl | ⟨c, t, ht⟩
      · have := congrArg (·[position.length]?) (hq'.symm.trans hm)
        simpa [List.getElem?_append_left hlt] using this
      · have := congrArg (·[position.length]?) (hq'.symm.trans ht)
        simpa [hm, List.getElem?_append_left hlt] using this
    exact absurd (Option.some.inj (hfirst.symm.trans hsecond)) hij

/-- The keys of an object with its keys in order rise with the numbers of its fields. -/
theorem before_of_parts (hs : v.Nests limit) {i j : Nat} (hij : i < j) {k k' : String} {x y : Value}
    (hi : v.parts[i]? = some (.field k, x)) (hj : v.parts[j]? = some (.field k', y)) : Keyed.before k k' := by
  cases v with
  | object ms =>
    cases limit with
    | zero => cases hs
    | succ limit =>
      obtain ⟨hsorted, -⟩ := hs
      simp only [Value.parts, List.getElem?_map, Option.map_eq_some_iff, Prod.mk.injEq, RowLabel.field.injEq] at hi hj
      obtain ⟨p, hp, rfl, -⟩ := hi
      obtain ⟨q, hq, rfl, -⟩ := hj
      obtain ⟨hi, rfl⟩ := List.getElem?_eq_some_iff.1 hp
      obtain ⟨hj, rfl⟩ := List.getElem?_eq_some_iff.1 hq
      exact List.pairwise_iff_getElem.1 hsorted i j hi hj hij
  | array vs => simp [Value.parts] at hi
  | null | bool _ | number _ | string _ => cases hi

theorem nests_of_mem_parts {l : RowLabel} {x : Value} (hs : v.Nests limit) (h : (l, x) ∈ v.parts) :
    ∃ limit, x.Nests limit := by
  cases v with
  | object ms =>
    obtain ⟨⟨k, y⟩, hm, heq⟩ := List.mem_map.1 h
    cases heq
    cases limit with
    | zero => cases hs
    | succ limit => exact ⟨limit, hs.2 (k, y) hm⟩
  | array vs =>
    obtain ⟨y, hy, heq⟩ := List.mem_map.1 h
    cases heq
    cases limit with
    | zero => cases hs
    | succ limit => exact ⟨limit, hs x hy⟩
  | null | bool _ | number _ | string _ => cases h

theorem nests_of_mem_nodesOf (hs : v.Nests limit) (h : n ∈ nodesOf position depth v) :
    ∃ limit, n.value.Nests limit := by
  obtain ⟨i, hi, -⟩ := mem_nodesOf.1 h
  exact nests_of_mem_parts hs (List.mem_of_getElem? hi)

theorem keysRise_parts (hs : v.Nests limit) (h : ∀ m ∈ nodesOf position depth v, m.walk.Pairwise Node.KeysRise) :
    ((nodesOf position depth v).flatMap Node.walk).Pairwise Node.KeysRise := by
  rw [List.pairwise_flatMap]
  refine ⟨h, pairwise_nodesOf.imp ?_⟩
  rintro n m ⟨i, j, hij, hn, hm, hni, hmj⟩ x hx y hy q a b k k' hq hq' hk hk'
  obtain rfl := eq_of_siblings hn hm (by omega) hx hy hq hq'
  obtain rfl := eq_of_siblings hm hn (by omega) hy hx hq' hq
  rw [hk] at hni
  rw [hk'] at hmj
  exact before_of_parts hs hij hni hmj

theorem keysRise_walk_node (n : Node) (hs : n.value.Nests limit) : n.walk.Pairwise Node.KeysRise := by
  induction n using Node.induction_parts generalizing limit with
  | h n ih =>
    rw [Node.walk_eq]
    split
    · refine List.Pairwise.cons ?_ (keysRise_parts hs ?_)
      · -- A node is a part of another node than what is below it.
        intro x hx q a b k k' hq hq'
        obtain ⟨part, hpart, hx⟩ := List.mem_flatMap.1 hx
        obtain ⟨i, -, hi, -⟩ := mem_nodesOf.1 hpart
        have hlength := congrArg List.length hq
        have hlength' := congrArg List.length hq'
        rw [List.length_append, List.length_singleton] at hlength hlength'
        have hlonger : n.position.length < x.position.length := by
          rcases position_of_mem_walk hx with rfl | ⟨j, s, hs⟩
          · rw [hi, List.length_append, List.length_singleton]
            exact Nat.lt_succ_self _
          · rw [hs, hi, List.length_append, List.length_append, List.length_singleton]
            omega
        omega
      · intro m hm
        obtain ⟨limit, hm'⟩ := nests_of_mem_nodesOf hs hm
        exact ih m hm hm'
    · exact List.pairwise_singleton _ _

theorem keysRise_walk (hs : v.Nests limit) : v.walk.Pairwise Node.KeysRise := by
  apply keysRise_parts hs
  intro m hm
  obtain ⟨limit, hm'⟩ := nests_of_mem_nodesOf hs hm
  exact keysRise_walk_node m hm'

end Pairwise

/-! ## What a row is to be -/

/-- A key that tells of a time. -/
def TellsOfTime (key : String) : Prop :=
  "_at".toList <:+ key.toList ∨ "time".toList <:+: key.toList ∨ "heartbeat".toList <:+: key.toList

/-- What is shown of a string under a key: the string, or, where the key tells of a time and the string is one, the time
    in full with its age behind it. The zero time has no age. -/
inductive HoldsString (clock : Clock) (key s : String) : String → Prop
  | text (hk : ¬ TellsOfTime key) : HoldsString clock key s s
  | noTime (hk : TellsOfTime key) (h : readTimestamp s = none) : HoldsString clock key s s
  | unset {i : Instant} (hk : TellsOfTime key) (h : readTimestamp s = some i) (hi : i.isUnset = true) :
      HoldsString clock key s (showAbsolute (some s) clock.zone)
  | time {i : Instant} (hk : TellsOfTime key) (h : readTimestamp s = some i) (hi : i.isUnset = false) :
      HoldsString clock key s
        (showAbsolute (some s) clock.zone ++ " (" ++ showRelative s clock.now clock.zone ++ ")")

/-- What is shown of a scalar that stands for itself: a string as it is, `null` as a dash, and any other as in JSON. -/
inductive HoldsScalar : Value → String → Prop
  | null : HoldsScalar .null "-"
  | bool (b : Bool) : HoldsScalar (.bool b) (if b then "true" else "false")
  | number (n : Numeric) : HoldsScalar (.number n) (.ofList n.print)
  | string (s : String) : HoldsScalar (.string s) s

/-- What the row of a node holds that the walk does not go on from: all that the node is. -/
inductive Holds (clock : Clock) : RowLabel → Value → String → Prop
  | noFields (key : String) : Holds clock (.field key) (.object []) "-"
  | noItems (key : String) : Holds clock (.field key) (.array []) "[]"
  | scalars (key : String) {vs : List Value} {texts : List String} (hne : vs ≠ [])
      (h : List.Forall₂ HoldsScalar vs texts) : Holds clock (.field key) (.array vs) (", ".intercalate texts)
  | string {key s text : String} (h : HoldsString clock key s text) : Holds clock (.field key) (.string s) text
  | scalar (key : String) {v : Value} {text : String} (hv : ∀ s, v ≠ .string s) (h : HoldsScalar v text) :
      Holds clock (.field key) v text
  | item {v : Value} {text : String} (h : HoldsScalar v text) : Holds clock .item v text
  | list (vs : List Value) : Holds clock .item (.array vs) (Value.array vs).compact

namespace Node

/-- What every row begins with: two spaces for each level, and a key with a colon or a dash. -/
def heading (n : Node) : String :=
  String.ofList (List.replicate (2 * n.depth) ' ') ++
    match n.label with
    | .field key => key ++ ":"
    | .item => "-"

/-- The row of a node. What is held by a node that is opened follows in rows of its parts; an item that is an object
    without fields is a mere dash. -/
inductive ShownAs (clock : Clock) (n : Node) : String → Prop
  | opened (h : n.isOpened = true) : ShownAs clock n n.heading
  | dash (hl : n.label = .item) (hv : n.value = .object []) : ShownAs clock n n.heading
  | held {text : String} (ho : n.isOpened = false) (h : Holds clock n.label n.value text) :
      ShownAs clock n (n.heading ++ " " ++ text)

end Node

/-! ## The rows of a table -/

/-- What is written behind the label of a node that is not opened. -/
def Node.content (clock : Clock) (n : Node) : Option String :=
  match n.label, n.value with
  | .field _, .object _ => some "-"
  | .field _, .array [] => some "[]"
  | .field _, .array (v :: vs) => some (", ".intercalate ((v :: vs).map Value.rowText))
  | .field key, .string s => some (fieldText clock key s)
  | .field _, v => some v.rowText
  | .item, .object _ => none
  | .item, .array vs => some (Value.array vs).compact
  | .item, v => some v.rowText

/-- The row that is written for a node. -/
def Node.row (clock : Clock) (n : Node) : Row := ⟨n.depth, n.label, if n.isOpened then none else n.content clock⟩

/-- The rows that a node takes in a table. -/
def Node.rows (clock : Clock) (n : Node) : List Row :=
  match n.label with
  | .field key => fieldRows clock n.depth key n.value
  | .item => itemRows clock n.depth [n.value]

section Rows

variable {clock : Clock} {position : List Nat} {depth : Nat} {v : Value} {n : Node}

theorem itemRows_cons (clock : Clock) (depth : Nat) (v : Value) (vs : List Value) :
    itemRows clock depth (v :: vs) = itemRows clock depth [v] ++ itemRows clock depth vs := by
  cases v <;> simp [itemRows]

/-- The rows of the fields of an object are those of its parts, wherever these are. -/
theorem memberRows_eq {ms : List (String × Value)} {nodes : List Node}
    (h : nodes.map (fun n => (n.depth, n.label, n.value)) = ms.map fun m => (depth, .field m.1, m.2)) :
    memberRows clock depth ms = nodes.flatMap (Node.rows clock) := by
  induction ms generalizing nodes with
  | nil =>
    obtain rfl := List.map_eq_nil_iff.1 h
    rfl
  | cons m ms ih =>
    obtain ⟨n, nodes, rfl, hn, hnodes⟩ := List.map_eq_cons_iff.1 h
    obtain ⟨p, d, l, x⟩ := n
    cases hn
    rw [List.flatMap_cons, memberRows, ih hnodes]
    rfl

theorem itemRows_eq {vs : List Value} {nodes : List Node}
    (h : nodes.map (fun n => (n.depth, n.label, n.value)) = vs.map fun v => (depth, .item, v)) :
    itemRows clock depth vs = nodes.flatMap (Node.rows clock) := by
  induction vs generalizing nodes with
  | nil =>
    obtain rfl := List.map_eq_nil_iff.1 h
    rfl
  | cons v vs ih =>
    obtain ⟨n, nodes, rfl, hn, hnodes⟩ := List.map_eq_cons_iff.1 h
    obtain ⟨p, d, l, x⟩ := n
    cases hn
    rw [List.flatMap_cons, itemRows_cons, ih hnodes]
    rfl

theorem map_nodesOf (position : List Nat) (depth : Nat) (v : Value) :
    (nodesOf position depth v).map (fun n => (n.depth, n.label, n.value)) = v.parts.map fun m => (depth, m.1, m.2) := by
  apply List.ext_getElem?
  intro i
  simp [nodesOf, Function.comp_def]

/-- The rows of a node are its own and, where the walk goes on, those of its parts. -/
theorem rows_node (n : Node) :
    n.rows clock = n.row clock :: if n.isOpened then n.parts.flatMap (Node.rows clock) else [] := by
  have hmembers (ms : List (String × Value)) : memberRows clock (n.depth + 1) ms =
      (nodesOf n.position (n.depth + 1) (.object ms)).flatMap (Node.rows clock) := by
    apply memberRows_eq
    rw [map_nodesOf, Value.parts, List.map_map]
    rfl
  have hitems (vs : List Value) : itemRows clock (n.depth + 1) vs =
      (nodesOf n.position (n.depth + 1) (.array vs)).flatMap (Node.rows clock) := by
    apply itemRows_eq
    rw [map_nodesOf, Value.parts, List.map_map]
    rfl
  obtain ⟨position, depth, label, v⟩ := n
  simp only at hmembers hitems
  cases label with
  | field key =>
    cases v with
    | object ms =>
      cases ms with
      | nil => rfl
      | cons m ms => exact congrArg (List.cons ⟨depth, .field key, none⟩) (hmembers (m :: ms))
    | array vs =>
      cases vs with
      | nil => rfl
      | cons v vs =>
        have hopened : (⟨position, depth, .field key, .array (v :: vs)⟩ : Node).isOpened =
            !(v :: vs).all Value.isScalar := by
          simp [Node.isOpened, List.not_all_eq_any_not]
        simp only [Node.rows, Node.row, fieldRows, hopened]
        cases (v :: vs).all Value.isScalar with
        | true => rfl
        | false => exact congrArg (List.cons ⟨depth, .field key, none⟩) (hitems (v :: vs))
    | null | bool _ | number _ | string _ => rfl
  | item =>
    cases v with
    | object ms =>
      cases ms with
      | nil => rfl
      | cons m ms =>
        simp only [Node.rows, itemRows, List.append_nil]
        exact congrArg (List.cons ⟨depth, .item, none⟩) (hmembers (m :: ms))
    | array vs => rfl
    | null | bool _ | number _ | string _ => rfl

theorem rows_eq_walk (n : Node) : n.rows clock = n.walk.map (Node.row clock) := by
  induction n using Node.induction_parts with
  | h n ih =>
    rw [rows_node, Node.walk_eq, List.map_cons]
    split
    · rw [List.map_flatMap, List.flatMap_congr ih]
    · rfl

theorem rows_eq_map_walk (h : v.isScalar = false) : v.rows clock = v.walk.map (Node.row clock) := by
  have hrows : v.rows clock = (nodesOf [] 0 v).flatMap (Node.rows clock) := by
    cases v with
    | object ms =>
      apply memberRows_eq
      rw [map_nodesOf, Value.parts, List.map_map]
      rfl
    | array vs =>
      apply itemRows_eq
      rw [map_nodesOf, Value.parts, List.map_map]
      rfl
    | null | bool _ | number _ | string _ => cases h
  rw [hrows, Value.walk, List.map_flatMap]
  exact List.flatMap_congr fun n _ => rows_eq_walk n

end Rows

/-! ## Rows are as they are to be -/

theorem hasPart_eq_true_iff {part s : List Char} : hasPart part s = true ↔ part <:+: s := by
  induction s with
  | nil => rw [hasPart, List.isEmpty_iff, List.infix_nil]
  | cons c s ih => rw [hasPart, Bool.or_eq_true, List.isPrefixOf_iff_prefix, ih, List.infix_cons_iff]

theorem isTimeKey_iff {key : String} : isTimeKey key = true ↔ TellsOfTime key := by
  unfold isTimeKey TellsOfTime
  rw [Bool.or_eq_true, Bool.or_eq_true, List.isSuffixOf_iff_suffix, hasPart_eq_true_iff, hasPart_eq_true_iff,
    or_assoc]

theorem holdsString_fieldText (clock : Clock) (key s : String) : HoldsString clock key s (fieldText clock key s) := by
  unfold fieldText
  split
  · next hkey =>
    have hk := isTimeKey_iff.1 hkey
    unfold showTime
    split
    · next h => exact .noTime hk h
    · next i h =>
      split
      · next hi => exact .unset hk h hi
      · next hi => exact .time hk h (Bool.eq_false_iff.2 hi)
  · next hkey => exact .text fun hk => hkey (isTimeKey_iff.2 hk)

theorem holdsScalar_rowText {v : Value} (h : v.isScalar = true) : HoldsScalar v v.rowText := by
  cases v with
  | null => exact .null
  | bool b => cases b <;> exact .bool _
  | number n => exact .number n
  | string s => exact .string s
  | array _ | object _ => cases h

theorem forall₂_rowText {vs : List Value} (h : vs.all Value.isScalar = true) :
    List.Forall₂ HoldsScalar vs (vs.map Value.rowText) := by
  rw [List.forall₂_map_right_iff, List.forall₂_same]
  intro v hv
  exact holdsScalar_rowText (List.all_eq_true.1 h v hv)

/-- What is written of a node that is not opened is all that it holds, unless it is an item that is an object without
    fields, of which nothing is. -/
theorem holds_content {n : Node} (ho : n.isOpened = false) (clock : Clock) :
    (n.label = .item ∧ n.value = .object [] ∧ n.content clock = none) ∨
      ∃ text, n.content clock = some text ∧ Holds clock n.label n.value text := by
  obtain ⟨position, depth, label, v⟩ := n
  cases label with
  | field key =>
    right
    cases v with
    | object ms =>
      obtain rfl : ms = [] := by simpa [Node.isOpened] using ho
      exact ⟨_, rfl, .noFields key⟩
    | array vs =>
      cases vs with
      | nil => exact ⟨_, rfl, .noItems key⟩
      | cons v vs =>
        have hall : (v :: vs).all Value.isScalar = true := by
          simpa [Node.isOpened] using ho
        exact ⟨_, rfl, .scalars key (List.cons_ne_nil v vs) (forall₂_rowText hall)⟩
    | string s => exact ⟨_, rfl, .string (holdsString_fieldText clock key s)⟩
    | null | bool _ | number _ =>
      exact ⟨_, rfl, .scalar key (fun s hs => by cases hs) (holdsScalar_rowText rfl)⟩
  | item =>
    cases v with
    | object ms =>
      obtain rfl : ms = [] := by simpa [Node.isOpened] using ho
      exact .inl ⟨rfl, rfl, rfl⟩
    | array vs => exact .inr ⟨_, rfl, .list vs⟩
    | null | bool _ | number _ | string _ => exact .inr ⟨_, rfl, .item (holdsScalar_rowText rfl)⟩

theorem text_of_content_eq_none {r : Row} {n : Node} (hd : r.depth = n.depth) (hl : r.label = n.label)
    (h : r.content = none) : r.text = n.heading := by
  obtain ⟨depth, label, content⟩ := r
  cases hd
  cases hl
  cases h
  exact String.append_empty

theorem text_of_content_eq_some {r : Row} {n : Node} {text : String} (hd : r.depth = n.depth) (hl : r.label = n.label)
    (h : r.content = some text) : r.text = n.heading ++ " " ++ text := by
  obtain ⟨depth, label, content⟩ := r
  cases hd
  cases hl
  cases h
  exact String.append_assoc.symm

/-- The row that is written for a node is as it is to be. -/
theorem shownAs_row (clock : Clock) (n : Node) : n.ShownAs clock (n.row clock).text := by
  cases ho : n.isOpened with
  | true =>
    have hnone : (n.row clock).content = none := if_pos ho
    rw [text_of_content_eq_none (n := n) rfl rfl hnone]
    exact .opened ho
  | false =>
    have hcontent : (n.row clock).content = n.content clock := if_neg (Bool.eq_false_iff.1 ho)
    rcases holds_content ho clock with ⟨hl, hv, hnone⟩ | ⟨text, htext, hholds⟩
    · rw [text_of_content_eq_none (n := n) rfl rfl (hcontent.trans hnone)]
      exact .dash hl hv
    · rw [text_of_content_eq_some (n := n) rfl rfl (hcontent.trans htext)]
      exact .held ho hholds

/-- The table of a list, or of an object that has fields, is made of rows, each ended by a line feed: one for each node
    that the walk over the value visits, in the order of the walk, and as the node is to be shown. The order of the walk
    is that of the positions: no node is visited twice, and a node comes after the one that it is a part of and after all
    that is below the parts before it. The fields of an object that has its keys in order come in this order. -/
theorem table_walk (clock : Clock) {v : Value} (h : v.isScalar = false) (hv : v ≠ .object []) :
    ∃ (nodes : List Node) (rows : List String), (∀ n, n ∈ nodes ↔ Visited v n) ∧
      nodes.Pairwise (fun n m => n.position < m.position) ∧
      (∀ limit, v.Nests limit → nodes.Pairwise Node.KeysRise) ∧
      List.Forall₂ (fun n row => n.ShownAs clock row) nodes rows ∧
      v.table clock = String.join (rows.map fun row => row ++ "\n") := by
  refine ⟨v.walk, v.walk.map fun n => (n.row clock).text, fun _ => mem_walk_iff, pairwise_walk v, fun _ => keysRise_walk,
    ?_, ?_⟩
  · rw [List.forall₂_map_right_iff, List.forall₂_same]
    exact fun n _ => shownAs_row clock n
  · have htable : v.table clock = String.join ((v.rows clock).map fun r => line r.text) := by
      cases v with
      | object ms =>
        cases ms with
        | nil => exact absurd rfl hv
        | cons m ms => rfl
      | array vs => rfl
      | null | bool _ | number _ | string _ => cases h
    rw [htable, rows_eq_map_walk h, List.map_map, List.map_map]
    rfl

/-- An answer with times in it, one of them unset and one that is no time, and with lists: one of scalars, which is one
    row, and one that holds an object, a list and a number. -/
theorem table_walk_lists :
    let v : Value := .object [("created_at", .string "2025-11-12T16:31:48Z"),
      ("items", .array [.object [("id", .string "a")], .array [.int 1, .null], .int 2]), ("labels", .object []),
      ("last_heartbeat", .string "0001-01-01T00:00:00Z"), ("note", .string "2025-11-12T16:31:48Z"),
      ("tags", .array [.string "gpu", .null]), ("timeout", .string "soon")]
    let clock : Clock := ⟨⟨1762965408, 0⟩, 0⟩
    let text := "created_at: Nov 12, 2025, 04:31:48 PM (5 minutes ago)\n" ++
      "items:\n  -\n    id: a\n  - [1,null]\n  - 2\nlabels: -\nlast_heartbeat: N/A\n" ++
      "note: 2025-11-12T16:31:48Z\ntags: gpu, -\ntimeout: soon\n"
    v.isScalar = false ∧ v ≠ .object [] ∧ v.table clock = text ∧
      ∃ (nodes : List Node) (rows : List String), (∀ n, n ∈ nodes ↔ Visited v n) ∧
        List.Forall₂ (fun n row => n.ShownAs clock row) nodes rows ∧
        String.join (rows.map fun row => row ++ "\n") = text := by
  intro v clock text
  have hv : v ≠ .object [] := by simp [v]
  have htext : v.table clock = text := by decide +kernel
  obtain ⟨nodes, rows, hnodes, -, -, hrows, htable⟩ := table_walk clock rfl hv
  exact ⟨rfl, hv, htext, nodes, rows, hnodes, hrows, htable.symm.trans htext⟩

end ClusterPanel
