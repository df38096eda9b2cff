import TreePath.Script.Evaluation

/-!
# What steps find, by recursion

The walk of a document keeps a list of open ends and stops as soon as it has enough. Here is what it is to find,
said by recursion on the steps and on the document: the last step finds what it picks, another step hands each
pick on to the steps after it, and a descent goes over the values below in preorder. `walk_eq` says that the walk
finds the beginning of that list, of the length that there is room for.
-/

namespace TreePath

namespace Value

mutual

/-- A value and all values below it, each before those that it holds. -/
def preorder : Value → List Value
  | array items => array items :: preorderItems items
  | object members => object members :: preorderMembers members
  | value => [value]

/-- The items of a list, each followed by all values below it. -/
def preorderItems : List Value → List Value
  | [] => []
  | item :: items => preorder item ++ preorderItems items

/-- The values of members, each followed by all values below it. -/
def preorderMembers : List (String × Value) → List Value
  | [] => []
  | (_, value) :: members => preorder value ++ preorderMembers members

end

mutual

/-- What a function yields for a value, and after that for all containers below it in preorder. -/
def spread {α : Type} (f : Value → List α) : Value → List α
  | array items => f (array items) ++ spreadItems f items
  | object members => f (object members) ++ spreadMembers f members
  | value => f value

/-- What a function yields for the containers among the items of a list and below them. -/
def spreadItems {α : Type} (f : Value → List α) : List Value → List α
  | [] => []
  | item :: items => (if item.isContainer then spread f item else []) ++ spreadItems f items

/-- What a function yields for the containers among the values of members and below them. -/
def spreadMembers {α : Type} (f : Value → List α) : List (String × Value) → List α
  | [] => []
  | (_, value) :: members => (if value.isContainer then spread f value else []) ++ spreadMembers f members

end

theorem preorderItems_eq (items : List Value) : preorderItems items = items.flatMap preorder := by
  induction items with
  | nil => rfl
  | cons item items ih => rw [preorderItems, ih, List.flatMap_cons]

theorem preorderMembers_eq (members : List (String × Value)) :
    preorderMembers members = (members.map (·.2)).flatMap preorder := by
  induction members with
  | nil => rfl
  | cons member members ih => rw [preorderMembers, ih, List.map_cons, List.flatMap_cons]

/-- A value comes before its children, and each child before the next one. -/
theorem preorder_eq (value : Value) : value.preorder = value :: value.children.flatMap preorder := by
  cases value <;> simp [preorder, children, preorderItems_eq, preorderMembers_eq]

theorem spreadItems_eq {α : Type} (f : Value → List α) (items : List Value) :
    spreadItems f items = (items.filter isContainer).flatMap (spread f) := by
  induction items with
  | nil => rfl
  | cons item items ih =>
      rw [spreadItems, ih, List.filter_cons]
      split <;> simp

theorem spreadMembers_eq {α : Type} (f : Value → List α) (members : List (String × Value)) :
    spreadMembers f members = ((members.map (·.2)).filter isContainer).flatMap (spread f) := by
  induction members with
  | nil => rfl
  | cons member members ih =>
      rw [spreadMembers, ih, List.map_cons, List.filter_cons]
      split <;> simp

/-- The value itself comes first, and then the same for each child that is a container. -/
theorem spread_eq {α : Type} (f : Value → List α) (value : Value) :
    value.spread f = f value ++ (value.children.filter isContainer).flatMap (spread f) := by
  cases value <;> simp [spread, children, spreadItems_eq, spreadMembers_eq]

end Value

/-- What steps find from a node of a document, in order. -/
def findings (root : Value) : List Step → Value → List Value
  | [], _ => []
  | [.descent], node => node.preorder
  | [step], node => step.pick root node
  | .descent :: pending, node => node.spread (findings root pending)
  | step :: pending, node => (step.pick root node).flatMap (findings root pending)

section Equations

variable (root node : Value)

/-- A descent in front of other steps, which are followed from the node, and then for each container in it. -/
theorem findings_descent {pending : List Step} (more : pending ≠ []) :
    findings root (.descent :: pending) node =
      findings root pending node ++
        (node.children.filter Value.isContainer).flatMap (findings root (.descent :: pending)) := by
  cases pending with
  | nil => exact absurd rfl more
  | cons step pending =>
      have spread_findings : findings root (.descent :: step :: pending) =
          Value.spread (findings root (step :: pending)) := by
        funext value
        rfl
      rw [spread_findings]
      exact Value.spread_eq _ _

/-- A descent at the end finds the node, and then the same from each of its children. -/
theorem findings_last_descent :
    findings root [.descent] node = node :: node.children.flatMap (findings root [.descent]) := by
  have preorder_findings : findings root [.descent] = Value.preorder := by
    funext value
    rfl
  rw [preorder_findings]
  exact Value.preorder_eq node

theorem findings_last {step : Step} (plain : step ≠ .descent) :
    findings root [step] node = step.pick root node := by
  cases step <;> first | rfl | exact absurd rfl plain

theorem findings_cons {step : Step} (plain : step ≠ .descent) {pending : List Step} (more : pending ≠ []) :
    findings root (step :: pending) node = (step.pick root node).flatMap (findings root pending) := by
  cases pending with
  | nil => exact absurd rfl more
  | cons next pending => cases step <;> first | rfl | exact absurd rfl plain

end Equations

/-! ## The walk -/

/-- The beginning of a list of the length that there is room for. -/
def takeRoom {α : Type} : Option Nat → List α → List α
  | some room, values => values.take room
  | none, values => values

namespace Frame

/-- What is found from an open end. -/
def findings (root : Value) : Frame → List Value
  | visit node [] => [node]
  | visit node pending => TreePath.findings root pending node
  | expand node pending =>
    (node.children.filter fun child => pending.isEmpty || child.isContainer).flatMap
      (TreePath.findings root (.descent :: pending))

theorem findings_visit (root node : Value) {pending : List Step} (more : pending ≠ []) :
    (visit node pending).findings root = TreePath.findings root pending node := by
  cases pending with
  | nil => exact absurd rfl more
  | cons step pending => rfl

theorem flatMap_visit (root : Value) (pending : List Step) (nodes : List Value) :
    (nodes.map (visit · pending)).flatMap (findings root) =
      if pending = [] then nodes else nodes.flatMap (TreePath.findings root pending) := by
  cases pending with
  | nil => simp [List.flatMap_map, findings]
  | cons step pending => simp [List.flatMap_map, findings]

/-- The open ends that a visit leaves find what the visit was to find. -/
theorem flatMap_next (root node : Value) (step : Step) (pending : List Step) :
    (next root node step pending).flatMap (findings root) = (visit node (step :: pending)).findings root := by
  rw [findings_visit root node (List.cons_ne_nil step pending)]
  by_cases descent : step = .descent
  · subst descent
    cases pending with
    | nil =>
        have all_children : node.children.filter (fun _ => true) = node.children :=
          List.filter_eq_self.2 fun _ _ => rfl
        rw [findings_last_descent]
        simp [next, findings, all_children]
    | cons second pending =>
        rw [findings_descent root node (List.cons_ne_nil second pending)]
        simp [next, findings]
  · have picks : next root node step pending = (step.pick root node).map (visit · pending) := by
      cases step <;> first | rfl | exact absurd rfl descent
    rw [picks, flatMap_visit]
    cases pending with
    | nil => rw [if_pos rfl, findings_last root node descent]
    | cons second pending =>
        rw [if_neg (List.cons_ne_nil second pending),
          findings_cons root node descent (List.cons_ne_nil second pending)]

/-- The open ends below a node find what the descent was to find there. -/
theorem flatMap_below (root node : Value) (pending : List Step) :
    (below node pending).flatMap (findings root) = (expand node pending).findings root := by
  rw [below, flatMap_visit, if_neg (List.cons_ne_nil _ _), findings]

end Frame

theorem takeRoom_cons {α : Type} {room : Option Nat} (left : room ≠ some 0) (value : α) (values : List α) :
    takeRoom room (value :: values) = value :: takeRoom (room.map (· - 1)) values := by
  cases room with
  | none => rfl
  | some room =>
      cases room with
      | zero => exact absurd rfl left
      | succ room => rfl

/-- The walk finds the beginning of what the open ends find one after the other. -/
theorem walk_eq (root : Value) (room : Option Nat) (frames : List Frame) :
    walk root room frames = takeRoom room (frames.flatMap (Frame.findings root)) := by
  induction room, frames using walk.induct root with
  | case1 frames =>
      unfold walk
      simp [takeRoom]
  | case2 room left =>
      rw [walk, if_neg left]
      cases room <;> simp [takeRoom]
  | case3 room left node frames ih =>
      rw [walk, if_neg left, ih, List.flatMap_cons, Frame.findings, List.singleton_append,
        takeRoom_cons left]
  | case4 room left node step pending frames ih =>
      rw [walk, if_neg left, ih, List.flatMap_append, Frame.flatMap_next, List.flatMap_cons]
  | case5 room left node pending frames ih =>
      rw [walk, if_neg left, ih, List.flatMap_append, Frame.flatMap_below, List.flatMap_cons]

/-- What is collected is the beginning of what the steps find. -/
theorem collect_eq (root : Value) (room : Option Nat) (steps : List Step) (node : Value) :
    collect root room steps node = takeRoom room (findings root steps node) := by
  cases steps with
  | nil => cases room <;> simp [collect, findings, takeRoom]
  | cons step steps => simp [collect, walk_eq, Frame.findings]

end TreePath
