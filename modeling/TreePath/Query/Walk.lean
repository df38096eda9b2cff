import TreePath.Query.Step

/-!
# Walking a document

A walk keeps its open ends in a list, the next one first, so that it needs no recursion and can stop as soon as
enough is found. An end is a value with the steps that are still to be followed from it, or a value
below whose children a descent goes on. Below a descent that is not the last step only containers are
visited, as nothing can be found from another value.
-/

namespace TreePath

namespace Value

mutual

/-- The sum of a function over a value and all values below it. -/
def total (f : Value → Nat) : Value → Nat
  | array items => f (array items) + totalItems f items
  | object members => f (object members) + totalMembers f members
  | value => f value

/-- The sum of a function over a list of values and all values below them. -/
def totalItems (f : Value → Nat) : List Value → Nat
  | [] => 0
  | item :: items => total f item + totalItems f items

/-- The sum of a function over the values of a list of members and all values below them. -/
def totalMembers (f : Value → Nat) : List (String × Value) → Nat
  | [] => 0
  | (_, value) :: members => total f value + totalMembers f members

end

theorem totalItems_eq (f : Value → Nat) (items : List Value) :
    totalItems f items = (items.map (total f)).sum := by
  induction items with
  | nil => rfl
  | cons item items ih => simp [totalItems, ih]

theorem totalMembers_eq (f : Value → Nat) (members : List (String × Value)) :
    totalMembers f members = ((members.map (·.2)).map (total f)).sum := by
  induction members with
  | nil => rfl
  | cons member members ih => simp [totalMembers, ih]

/-- The total of a value is its own share and the totals of its children. -/
theorem total_eq (f : Value → Nat) (value : Value) :
    total f value = f value + (value.children.map (total f)).sum := by
  cases value <;> simp [total, children, totalItems_eq, totalMembers_eq]

end Value

/-- An open end of a walk. -/
inductive Frame where
  /-- The pending steps are to be followed from the node. -/
  | visit (node : Value) (pending : List Step)
  /-- A descent goes on below the node, and the pending steps follow it. -/
  | expand (node : Value) (pending : List Step)

namespace Frame

/-- The number of frames that a visit will take to work off. -/
def visitCost (root : Value) : List Step → Value → Nat
  | [], _ => 1
  | .descent :: pending, node => node.total fun below => visitCost root pending below + 3
  | step :: pending, node => ((step.pick root node).map (visitCost root pending)).sum + 1

/-- The number of frames that an open end will take to work off. -/
def cost (root : Value) : Frame → Nat
  | visit node pending => visitCost root pending node
  | expand node pending => (node.children.map (visitCost root (.descent :: pending))).sum + 1

def next (root node : Value) (step : Step) (pending : List Step) : List Frame :=
  match step with
  | .descent => [visit node pending, expand node pending]
  | step => (step.pick root node).map (visit · pending)

/-- The open ends that a descent leaves below a node. -/
def below (node : Value) (pending : List Step) : List Frame :=
  (node.children.filter fun child => pending.isEmpty || child.isContainer).map
    (visit · (.descent :: pending))

theorem sum_filter_le (f : Value → Nat) (keep : Value → Bool) (values : List Value) :
    ((values.filter keep).map f).sum ≤ (values.map f).sum := by
  induction values with
  | nil => simp
  | cons value values ih =>
    rw [List.filter_cons]
    split <;> simp <;> omega

theorem cost_next_lt (root node : Value) (step : Step) (pending : List Step) :
    ((next root node step pending).map (cost root)).sum < visitCost root (step :: pending) node := by
  cases step
  case descent =>
    have total := Value.total_eq (fun below => visitCost root pending below + 3) node
    have costs : visitCost root (.descent :: pending) =
      Value.total fun below => visitCost root pending below + 3 := rfl
    simp only [next, List.map_cons, List.map_nil, List.sum_cons, List.sum_nil, cost]
    rw [costs]
    omega
  all_goals
    simp only [next, visitCost, List.map_map]
    exact Nat.lt_succ_of_le (Nat.le_refl _)

theorem cost_below_lt (root node : Value) (pending : List Step) :
    ((below node pending).map (cost root)).sum < cost root (expand node pending) := by
  simp only [below, cost, List.map_map]
  exact Nat.lt_succ_of_le (sum_filter_le (visitCost root (.descent :: pending)) _ _)

/-- The number of frames that a list of open ends will take to work off. -/
def totalCost (root : Value) (frames : List Frame) : Nat :=
  (frames.map (cost root)).sum

end Frame

/--
What is found from a list of open ends, in order, but no more than there is room for. Without a bound on the
room everything is found.
-/
def walk (root : Value) (room : Option Nat) (frames : List Frame) : List Value :=
  if room = some 0 then []
  else match frames with
    | [] => []
    | .visit node [] :: frames => node :: walk root (room.map (· - 1)) frames
    | .visit node (step :: pending) :: frames =>
      walk root room (Frame.next root node step pending ++ frames)
    | .expand node pending :: frames => walk root room (Frame.below node pending ++ frames)
termination_by Frame.totalCost root frames
decreasing_by
  · simp [Frame.totalCost, Frame.cost, Frame.visitCost]
  · have := Frame.cost_next_lt root node step pending
    simp only [Frame.totalCost, List.map_append, List.sum_append, List.map_cons, List.sum_cons, Frame.cost]
    omega
  · have := Frame.cost_below_lt root node pending
    simp only [Frame.totalCost, List.map_append, List.sum_append, List.map_cons, List.sum_cons]
    omega

/-- What steps find from a value, in order, but no more than there is room for. No steps find nothing. -/
def collect (root : Value) (room : Option Nat) (steps : List Step) (node : Value) : List Value :=
  if steps.isEmpty then [] else walk root room [.visit node steps]

end TreePath
