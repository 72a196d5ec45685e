import WatchLang.Program.Nodes

/-!
# Every node is visited once, in the order of the tree

The nodes of a tree are told from one another by where they stand and not by what they are, since equal parts may
occur at several places. A place is the path to it from the root (`Node.at?`), and the order of the tree is the order
of the paths letter by letter: a node stands before what is inside it, and the first of two parts with all inside it
before the second. A list of nodes is in pre-order if it goes through all paths of a tree in this order
(`Node.Preorder`). There is only one such list (`Node.InPathOrder.unique`). It begins with the root, and behind it the
lists of the parts follow in order, so the nodes of an operand or a target, of a condition, of a statement and of a
program are in pre-order, one after the other. What stands next to a node is found within the nodes of one statement,
of which there are at most three.
-/

set_option autoImplicit false

namespace WatchLang

namespace Node

/-! ## Places in a tree -/

/-- The parts of a node, in the order of the text. -/
def parts : Node → List Node
  | program p => p.statements.map statement
  | statement (.subject _ _) => []
  | statement (.test _ c) => [condition c]
  | statement (.publish t _) => [target t]
  | condition c => [operand c.right]
  | operand _ | target _ => []

/-- The node at a path: a path goes on to one of the parts, counted from zero, at each step. -/
def at? : Node → List Nat → Option Node
  | n, [] => some n
  | n, i :: path => n.parts[i]?.bind fun part => part.at? path

/-- Nodes in the order of the paths at which they are found, one for each path. -/
def InPathOrder (found : List Nat → Node → Prop) (visited : List Node) : Prop :=
  ∃ places : List (List Nat × Node), places.Pairwise (fun x y => List.Lex (· < ·) x.1 y.1) ∧
    (∀ path n, (path, n) ∈ places ↔ found path n) ∧ places.map Prod.snd = visited

namespace InPathOrder

variable {found found' : List Nat → Node → Prop} {visited visited' : List Node}

/-- There is one list in the order of the paths. -/
theorem unique (h : InPathOrder found visited) (h' : InPathOrder found visited') : visited = visited' := by
  obtain ⟨places, ordered, listed, rfl⟩ := h
  obtain ⟨places', ordered', listed', rfl⟩ := h'
  have asymm : ∀ {path path' : List Nat}, List.Lex (· < ·) path path' → ¬ List.Lex (· < ·) path' path :=
    List.lex_asymm Nat.lt_asymm
  have nodup : ∀ {places : List (List Nat × Node)},
      places.Pairwise (fun x y => List.Lex (· < ·) x.1 y.1) → places.Nodup := by
    intro places ordered
    refine ordered.imp ?_
    rintro x _ before rfl
    exact asymm before before
  have same : places.Perm places' := by
    refine (List.perm_ext_iff_of_nodup (nodup ordered) (nodup ordered')).2 ?_
    rintro ⟨path, n⟩
    rw [listed, listed']
  have equal : places = places' :=
    same.eq_of_pairwise (fun x y _ _ before behind => absurd behind (asymm before)) ordered ordered'
  rw [equal]

/-- The order of paths depends only on which nodes are found where. -/
theorem congr (h : InPathOrder found visited) (same : ∀ path n, found path n ↔ found' path n) :
    InPathOrder found' visited := by
  obtain ⟨places, ordered, listed, rfl⟩ := h
  exact ⟨places, ordered, fun path n => (listed path n).trans (same path n), rfl⟩

/-- Where nothing is found, no nodes are in order. -/
theorem nil (none : ∀ path n, ¬ found path n) : InPathOrder found [] :=
  ⟨[], .nil, fun path n => iff_of_false List.not_mem_nil (none path n), rfl⟩

/-- The root alone. -/
theorem root (n : Node) : InPathOrder (fun path m => path = [] ∧ m = n) [n] :=
  ⟨[([], n)], List.pairwise_singleton _ _, by simp, rfl⟩

/-- The same nodes at paths that begin with one more number. -/
theorem below (first : Nat) (h : InPathOrder found visited) :
    InPathOrder (fun path n => ∃ rest, path = first :: rest ∧ found rest n) visited := by
  obtain ⟨places, ordered, listed, rfl⟩ := h
  refine ⟨places.map fun x => (first :: x.1, x.2), List.pairwise_map.2 (ordered.imp .cons), ?_, ?_⟩
  · intro path n
    rw [List.mem_map]
    constructor
    · rintro ⟨x, member, same⟩
      cases same
      exact ⟨x.1, rfl, (listed _ _).1 member⟩
    · rintro ⟨rest, rfl, stands⟩
      exact ⟨(rest, n), (listed _ _).2 stands, rfl⟩
  · rw [List.map_map]
    rfl

/-- Nodes and then others at greater paths. -/
theorem append (h : InPathOrder found visited) (h' : InPathOrder found' visited')
    (before : ∀ {path n path' n'}, found path n → found' path' n' → List.Lex (· < ·) path path') :
    InPathOrder (fun path n => found path n ∨ found' path n) (visited ++ visited') := by
  obtain ⟨places, ordered, listed, rfl⟩ := h
  obtain ⟨places', ordered', listed', rfl⟩ := h'
  refine ⟨places ++ places', List.pairwise_append.2 ⟨ordered, ordered', ?_⟩, ?_, List.map_append⟩
  · rintro ⟨path, n⟩ member ⟨path', n'⟩ member'
    exact before ((listed _ _).1 member) ((listed' _ _).1 member')
  · intro path n
    rw [List.mem_append, listed, listed']

end InPathOrder

/-- Nodes in pre-order: those of a tree, one for each path, in the order of the paths. -/
def Preorder (root : Node) : List Node → Prop :=
  InPathOrder fun path n => root.at? path = some n

namespace Preorder

variable {visit : Node → List Node}

/-- Trees side by side, counted from a number on: what is in pre-order in each is in the order of the paths that begin
with the number of a tree. -/
theorem side_by_side (trees : List Node) (first : Nat) (each : ∀ n ∈ trees, n.Preorder (visit n)) :
    InPathOrder
      (fun path n => ∃ i rest tree, path = (first + i) :: rest ∧ trees[i]? = some tree ∧ tree.at? rest = some n)
      (trees.flatMap visit) := by
  induction trees generalizing first with
  | nil => exact .nil (by simp)
  | cons tree trees ih =>
    have inner := (each tree List.mem_cons_self).below first
    have later := ih (first + 1) fun n member => each n (List.mem_cons_of_mem _ member)
    rw [List.flatMap_cons]
    refine (inner.append later ?_).congr ?_
    · -- a path into a later tree begins with a greater number
      rintro _ n _ n' ⟨rest, rfl, -⟩ ⟨i, rest', _, rfl, -, -⟩
      exact .rel (by omega)
    · intro path n
      constructor
      · rintro (⟨rest, rfl, stands⟩ | ⟨i, rest, other, rfl, here, stands⟩)
        · exact ⟨0, rest, tree, rfl, rfl, stands⟩
        · exact ⟨i + 1, rest, other, by rw [Nat.add_assoc, Nat.add_comm 1 i], here, stands⟩
      · rintro ⟨i, rest, other, rfl, here, stands⟩
        cases i with
        | zero =>
          cases here
          exact .inl ⟨rest, rfl, stands⟩
        | succ i => exact .inr ⟨i, rest, other, by rw [Nat.add_assoc, Nat.add_comm 1 i], here, stands⟩

/-- A node and then the nodes of its parts are in pre-order. -/
theorem of_parts {root : Node} (each : ∀ n ∈ root.parts, n.Preorder (visit n)) :
    root.Preorder (root :: root.parts.flatMap visit) := by
  have inner := side_by_side root.parts 0 each
  refine ((InPathOrder.root root).append inner ?_).congr ?_
  · rintro _ n _ n' ⟨rfl, -⟩ ⟨i, rest, _, rfl, -, -⟩
    exact .nil
  · intro path n
    cases path with
    | nil => simp [at?, eq_comm]
    | cons i rest =>
      rw [at?, Option.bind_eq_some_iff]
      constructor
      · rintro (⟨same, -⟩ | ⟨j, rest', tree, same, here, stands⟩)
        · cases same
        · rw [Nat.zero_add] at same
          cases same
          exact ⟨tree, here, stands⟩
      · rintro ⟨tree, here, stands⟩
        exact .inr ⟨i, rest, tree, by rw [Nat.zero_add], here, stands⟩

end Preorder

/-! ## The nodes of every tree -/

/-- The nodes of a node, of whichever sort it is. -/
def nodes : Node → List Node
  | program p => p.nodes
  | statement s => s.nodes
  | condition c => c.nodes
  | operand o => o.nodes
  | target t => t.nodes

/-- A node, then the nodes of its parts. -/
theorem nodes_eq_parts (n : Node) : n.nodes = n :: n.parts.flatMap nodes := by
  cases n with
  | program p => simp [nodes, parts, Program.nodes, List.flatMap_map]
  | statement s => cases s <;> simp [nodes, parts, Statement.nodes]
  | condition c => simp [nodes, parts, Condition.nodes]
  | operand o => rfl
  | target t => rfl

/-- The nodes of a tree are in pre-order if those of its parts are. -/
theorem preorder_of_parts {n : Node} (each : ∀ m ∈ n.parts, m.Preorder m.nodes) : n.Preorder n.nodes := by
  rw [nodes_eq_parts]
  exact .of_parts each

/-- The nodes of an operand are in pre-order. -/
theorem preorder_operand (o : Operand) : (operand o).Preorder (operand o).nodes :=
  preorder_of_parts fun _ member => absurd member List.not_mem_nil

/-- The nodes of a target are in pre-order. -/
theorem preorder_target (t : Target) : (target t).Preorder (target t).nodes :=
  preorder_of_parts fun _ member => absurd member List.not_mem_nil

/-- The nodes of a condition are in pre-order. -/
theorem preorder_condition (c : Condition) : (condition c).Preorder (condition c).nodes := by
  refine preorder_of_parts fun m member => ?_
  cases List.mem_singleton.1 member
  exact preorder_operand c.right

/-- The nodes of a statement are in pre-order. -/
theorem preorder_statement (s : Statement) : (statement s).Preorder (statement s).nodes := by
  refine preorder_of_parts fun m member => ?_
  cases s with
  | subject role name => cases member
  | test connective c =>
    cases List.mem_singleton.1 member
    exact preorder_condition c
  | publish t channel =>
    cases List.mem_singleton.1 member
    exact preorder_target t

/-- The nodes of a program are in pre-order. -/
theorem preorder_program (p : Program) : (program p).Preorder (program p).nodes := by
  refine preorder_of_parts fun m member => ?_
  obtain ⟨s, -, rfl⟩ := List.mem_map.1 member
  exact preorder_statement s

/-- The statement that a node is, if it is one. -/
def statement? : Node → Option Statement
  | statement s => some s
  | _ => none

/-- The condition that a node is, if it is one. -/
def condition? : Node → Option Condition
  | condition c => some c
  | _ => none

end Node

/-! ## What stands next to a node -/

/-- A node with what stands before it and behind it among the nodes of its statement. -/
inductive Node.Around : List Node → Node → List Node → Prop
  | statement (s : Statement) : Around [] (.statement s) s.nodes.tail
  | condition (connective : Connective) (c : Condition) :
      Around [.statement (.test connective c)] (.condition c) [.operand c.right]
  | operand (connective : Connective) (c : Condition) :
      Around [.statement (.test connective c), .condition c] (.operand c.right) []
  | target (target : Target) (channel : String) : Around [.statement (.publish target channel)] (.target target) []

/-- What stands around a node among the nodes of a statement. -/
theorem Statement.around_of_nodes {s : Statement} {front back : List Node} {n : Node}
    (among : s.nodes = front ++ n :: back) : Node.Around front n back := by
  cases front with
  | nil =>
    obtain ⟨rfl, rfl⟩ := List.cons.inj among
    exact .statement s
  | cons first front =>
    obtain ⟨rfl, inner⟩ := List.cons.inj among
    cases s with
    | subject role name => simp at inner
    | test connective c =>
      rcases front with _ | ⟨second, _ | ⟨third, front⟩⟩
      · cases inner
        exact .condition connective c
      · cases inner
        exact .operand connective c
      · simp [Condition.nodes, Operand.nodes] at inner
    | publish t channel =>
      cases front with
      | nil =>
        cases inner
        exact .target t channel
      | cons second front => simp [Target.nodes] at inner

/-- Among the nodes of statements one after the other, a node stands in what belongs to one of them. -/
theorem exists_around_of_flatMap {ss : List Statement} {before after : List Node} {n : Node}
    (here : ss.flatMap Statement.nodes = before ++ n :: after) :
    ∃ earlier front back later, Node.Around front n back ∧ before = earlier ++ front ∧ after = back ++ later := by
  induction ss generalizing before with
  | nil => simp at here
  | cons s ss ih =>
    rw [List.flatMap_cons] at here
    rcases List.append_eq_append_iff.1 here with ⟨front, rfl, behind⟩ | ⟨_ | ⟨_, back⟩, among, behind⟩
    · obtain ⟨earlier, front', back, later, around, rfl, rfl⟩ := ih behind
      exact ⟨s.nodes ++ earlier, front', back, later, around, by rw [List.append_assoc], rfl⟩
    · -- the node is the first of the statements that follow
      obtain ⟨earlier, front, back, later, around, first, rfl⟩ := @ih [] behind.symm
      obtain ⟨rfl, rfl⟩ := List.append_eq_nil_iff.1 first.symm
      exact ⟨before, [], back, later, around, by rw [List.append_nil], rfl⟩
    · obtain ⟨rfl, rfl⟩ := List.cons.inj behind
      exact ⟨[], before, back, _, s.around_of_nodes among, rfl, rfl⟩

/-- What stands around a node within a program. -/
theorem Program.exists_around {p : Program} {before after : List Node} {n : Node}
    (here : p.nodes = before ++ n :: after) (inside : ∀ q, n ≠ .program q) :
    ∃ earlier front back later, Node.Around front n back ∧ before = earlier ++ front ∧ after = back ++ later := by
  cases before with
  | nil => exact absurd (List.cons.inj here).1.symm (inside p)
  | cons root before =>
    obtain ⟨-, here⟩ := List.cons.inj here
    obtain ⟨earlier, front, back, later, around, rfl, rfl⟩ := exists_around_of_flatMap here
    exact ⟨root :: earlier, front, back, later, around, rfl, rfl⟩

section Neighbours

variable {p : Program} {before after : List Node}

/-- Behind a statement with a condition come this condition and its operand. -/
theorem Program.exists_behind_test {s : Statement} {c : Condition} (here : p.nodes = before ++ .statement s :: after)
    (holds : s.condition? = some c) : ∃ later, after = .condition c :: .operand c.right :: later := by
  obtain ⟨earlier, front, back, later, around, rfl, rfl⟩ := exists_around here (by simp)
  cases around
  cases s <;> cases holds
  exact ⟨later, rfl⟩

/-- Behind a statement that publishes comes its target. -/
theorem Program.exists_behind_publish {target : Target} {channel : String}
    (here : p.nodes = before ++ .statement (.publish target channel) :: after) :
    ∃ later, after = .target target :: later := by
  obtain ⟨earlier, front, back, later, around, rfl, rfl⟩ := exists_around here (by simp)
  cases around
  exact ⟨later, rfl⟩

/-- A condition comes right behind its statement and right before its operand. -/
theorem Program.exists_around_condition {c : Condition} (here : p.nodes = before ++ .condition c :: after) :
    (∃ earlier connective, before = earlier ++ [.statement (.test connective c)]) ∧
      ∃ later, after = .operand c.right :: later := by
  obtain ⟨earlier, front, back, later, around, rfl, rfl⟩ := exists_around here (by simp)
  cases around with
  | condition connective c => exact ⟨⟨earlier, connective, rfl⟩, later, rfl⟩

/-- An operand comes right behind its condition. -/
theorem Program.exists_before_operand {o : Operand} (here : p.nodes = before ++ .operand o :: after) :
    ∃ earlier c, before = earlier ++ [.condition c] ∧ c.right = o := by
  obtain ⟨earlier, front, back, later, around, rfl, rfl⟩ := exists_around here (by simp)
  cases around with
  | operand connective c => exact ⟨earlier ++ [.statement (.test connective c)], c, by simp, rfl⟩

/-- A target comes right behind its statement. -/
theorem Program.exists_before_target {target : Target} (here : p.nodes = before ++ .target target :: after) :
    ∃ earlier channel, before = earlier ++ [.statement (.publish target channel)] := by
  obtain ⟨earlier, front, back, later, around, rfl, rfl⟩ := exists_around here (by simp)
  cases around with
  | target _ channel => exact ⟨earlier, channel, rfl⟩

end Neighbours

/-! ## Visits -/

/-- What a visit of the nodes of a program is, one node after the other. -/
structure Program.IsVisit (p : Program) (visited : List Node) : Prop where
  /-- The program itself comes first. -/
  first : visited.head? = some (.program p)
  /-- The nodes of the program are visited in pre-order, each once, and no other list of nodes is in pre-order. -/
  preorder : ∀ nodes, (Node.program p).Preorder nodes ↔ nodes = visited
  /-- The statements are visited in order. -/
  statements : visited.filterMap Node.statement? = p.statements
  /-- The conditions visited are those of the statements, in order. -/
  conditions : visited.filterMap Node.condition? = p.statements.filterMap Statement.condition?
  /-- Directly behind a statement with a condition come the condition and its right side. -/
  behind_test : ∀ {before s c after}, visited = before ++ .statement s :: after → s.condition? = some c →
    ∃ later, after = .condition c :: .operand c.right :: later
  /-- Directly behind a statement that publishes comes its target. -/
  behind_publish : ∀ {before target channel after}, visited = before ++ .statement (.publish target channel) :: after →
    ∃ later, after = .target target :: later
  /-- Directly before a condition stands a statement whose condition it is and whose text is its reserved word and the
  text of the condition, and directly behind it stands its right side. -/
  around_condition : ∀ {before c after}, visited = before ++ .condition c :: after →
    (∃ earlier s, before = earlier ++ [.statement s] ∧ s.condition? = some c ∧
      s.text = s.keyword.spelling ++ " " ++ c.text) ∧
    ∃ later, after = .operand c.right :: later
  /-- Directly before an operand stands a condition whose right side it is and whose text it ends. -/
  before_operand : ∀ {before o after}, visited = before ++ .operand o :: after →
    ∃ earlier c start, before = earlier ++ [.condition c] ∧ c.right = o ∧ c.text = start ++ o.text
  /-- Directly before a target stands a statement that publishes to it. -/
  before_target : ∀ {before target after}, visited = before ++ .target target :: after →
    ∃ earlier channel, before = earlier ++ [.statement (.publish target channel)]
  /-- A statement that names a subject is one node, one that publishes is two and one that tests is three. -/
  length : visited.length =
    1 + p.statements.countP (· matches .subject ..) + 2 * p.statements.countP (· matches .publish ..) +
      3 * p.statements.countP (· matches .test ..)
  /-- The text of the program is that of the statements visited, with single spaces between them. -/
  text : p.text = String.intercalate " " ((visited.filterMap Node.statement?).map Statement.text)

namespace Program

/-- What is picked from the nodes of a program is picked from its statements, if at most one node of each is picked. -/
theorem filterMap_nodes {α : Type} {select : Node → Option α} {pick : Statement → Option α} (p : Program)
    (root : select (.program p) = none) (each : ∀ s : Statement, s.nodes.filterMap select = (pick s).toList) :
    p.nodes.filterMap select = p.statements.filterMap pick := by
  rw [nodes, List.filterMap_cons_none root]
  induction p.statements with
  | nil => rfl
  | cons s ss ih =>
    rw [List.flatMap_cons, List.filterMap_append, ih, each, List.filterMap_cons]
    cases pick s <;> rfl

/-- The statements among the nodes are those of the program, in order. -/
theorem filterMap_statement?_nodes (p : Program) : p.nodes.filterMap Node.statement? = p.statements := by
  have single : ∀ s : Statement, s.nodes.filterMap Node.statement? = (some s).toList := by
    intro s
    cases s <;> rfl
  rw [p.filterMap_nodes rfl single, List.filterMap_some]

/-- The conditions among the nodes are those of the statements, in order. -/
theorem filterMap_condition?_nodes (p : Program) :
    p.nodes.filterMap Node.condition? = p.statements.filterMap Statement.condition? := by
  refine p.filterMap_nodes rfl fun s => ?_
  cases s <;> rfl

/-- A program has a node of its own, and one, two or three for each statement. -/
theorem length_nodes (p : Program) :
    p.nodes.length =
      1 + p.statements.countP (· matches .subject ..) + 2 * p.statements.countP (· matches .publish ..) +
        3 * p.statements.countP (· matches .test ..) := by
  rw [nodes, List.length_cons]
  induction p.statements with
  | nil => rfl
  | cons s ss ih =>
    rw [List.flatMap_cons, List.length_append]
    generalize (ss.flatMap Statement.nodes).length = later at ih ⊢
    cases s <;> simp [Statement.nodes, Condition.nodes, Operand.nodes, Target.nodes] <;> omega

/-- The nodes of a program are a visit of it: the program and then everything inside it once, in the order of the
text, with every condition and target behind its statement and every right side behind its condition; and the texts of
the nodes are pieces of the texts of those that they stand in. -/
theorem isVisit_nodes (p : Program) : p.IsVisit p.nodes where
  first := rfl
  preorder nodes := by
    constructor
    · exact fun listed => listed.unique (Node.preorder_program p)
    · rintro rfl
      exact Node.preorder_program p
  statements := p.filterMap_statement?_nodes
  conditions := p.filterMap_condition?_nodes
  behind_test := exists_behind_test
  behind_publish := exists_behind_publish
  around_condition := by
    intro before c after here
    obtain ⟨⟨earlier, connective, rfl⟩, operand⟩ := exists_around_condition here
    exact ⟨⟨earlier, .test connective c, rfl, rfl, rfl⟩, operand⟩
  before_operand := by
    intro before o after here
    obtain ⟨earlier, c, rfl, rfl⟩ := exists_before_operand here
    exact ⟨earlier, c, c.left ++ " " ++ c.comparison.symbol ++ " ", rfl, rfl, rfl⟩
  before_target := exists_before_target
  length := p.length_nodes
  text := by
    rw [p.filterMap_statement?_nodes]
    rfl

/-- Equal conditions are visited at each place where they stand. -/
example :
    let c : Condition := ⟨"to", .equal, .identifier "bob"⟩
    (Program.nodes ⟨[.test .gate c, .publish .log "a", .test .or c]⟩).map (· == .condition c) =
      [false, false, true, false, false, false, false, true, false] := by decide

end Program

end WatchLang
