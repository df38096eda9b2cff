/-!
# Members of an object

The members of an object are pairs of a name and a value, in ascending order of the names, each name once.
`insert` and `erase` keep that order, so two lists with the same members are the same list.
-/

namespace TreePath

namespace Members

variable {α β : Type}

/-- The names stand in ascending order; so each occurs once. -/
def Ordered (members : List (String × α)) : Prop :=
  members.Pairwise (·.1 < ·.1)

def get? (members : List (String × α)) (name : String) : Option α :=
  match members with
  | [] => none
  | (other, value) :: rest => if name = other then some value else get? rest name

/-- The members with one more, or with a new value for the name. -/
def insert (members : List (String × α)) (name : String) (value : α) : List (String × α) :=
  match members with
  | [] => [(name, value)]
  | (other, old) :: rest =>
    if name = other then (name, value) :: rest
    else if name < other then (name, value) :: (other, old) :: rest
    else (other, old) :: insert rest name value

def erase (members : List (String × α)) (name : String) : List (String × α) :=
  members.filter fun member => member.1 != name

/-- The members with a function applied to the value of one name, if it is there. -/
def update (members : List (String × α)) (name : String) (f : α → α) : List (String × α) :=
  match members with
  | [] => []
  | (other, old) :: rest => if name = other then (other, f old) :: rest else (other, old) :: update rest name f

/-- The members of a list of pairs in any order; the last value of a name counts. -/
def ofList (pairs : List (String × α)) : List (String × α) :=
  pairs.foldl (fun members pair => insert members pair.1 pair.2) []

theorem get?_insert_self (members : List (String × α)) (name : String) (value : α) :
    get? (insert members name value) name = some value := by
  induction members with
  | nil => simp [insert, get?]
  | cons member rest ih =>
    rcases member with ⟨other, old⟩
    simp only [insert]
    split
    · simp [get?]
    · split
      · simp [get?]
      · rename_i different _
        simp [get?, different, ih]

theorem get?_insert_of_ne (members : List (String × α)) {name other : String} (value : α)
    (different : other ≠ name) : get? (insert members name value) other = get? members other := by
  induction members with
  | nil => simp [insert, get?, different]
  | cons member rest ih =>
    rcases member with ⟨third, old⟩
    simp only [insert]
    split
    · rename_i same
      subst same
      simp [get?, different]
    · split
      · simp [get?, different]
      · simp only [get?, ih]

theorem get?_update_self (members : List (String × α)) (name : String) (f : α → α) :
    get? (update members name f) name = (get? members name).map f := by
  induction members with
  | nil => rfl
  | cons member rest ih =>
    rcases member with ⟨other, old⟩
    simp only [update, get?]
    split
    · rename_i same
      simp [get?, same]
    · rename_i different
      simp [get?, different, ih]

theorem get?_update_of_ne (members : List (String × α)) {name other : String} (f : α → α)
    (different : other ≠ name) : get? (update members name f) other = get? members other := by
  induction members with
  | nil => rfl
  | cons member rest ih =>
    rcases member with ⟨third, old⟩
    simp only [update]
    split
    · rename_i same
      subst same
      simp [get?, different]
    · simp only [get?, ih]

theorem get?_erase_self (members : List (String × α)) (name : String) :
    get? (erase members name) name = none := by
  induction members with
  | nil => rfl
  | cons member rest ih =>
    rcases member with ⟨other, old⟩
    simp only [erase, List.filter_cons] at ih ⊢
    split
    · rename_i different
      have different : name ≠ other := fun same => by simp [same] at different
      simpa [get?, different] using ih
    · exact ih

theorem get?_erase_of_ne (members : List (String × α)) {name other : String}
    (different : other ≠ name) : get? (erase members name) other = get? members other := by
  induction members with
  | nil => rfl
  | cons member rest ih =>
    rcases member with ⟨third, old⟩
    simp only [erase, List.filter_cons] at ih ⊢
    split
    · simp only [get?, ih]
    · rename_i same
      have same : third = name := by simpa using same
      subst same
      simp [get?, different, ih]

end Members

end TreePath
