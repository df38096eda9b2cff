import TreePath.Edit.Run
import TreePath.Path.Printer

/-!
# Errors of edits

Why a path cannot be used for an edit, or what stood in the way of one. An obstacle is reported with the path up
to the place where it stood.
-/

namespace TreePath

/-- Why an edit failed. -/
inductive EditError where
  | emptyExpression (operation : Operation)
  | invalidTarget (operation : Operation) (fragment : String)
  | cannotFollow (kind : Kind) (path : String)
  | outOfBounds (path : String)
  | cannotDeduce (path : String)
  | tooDeep (path : String)
deriving DecidableEq

namespace EditError

def message : EditError → String
  | emptyExpression operation => "can not " ++ operation.name ++ " with an empty expression"
  | invalidTarget operation fragment =>
    "can not " ++ operation.name ++ " with an expression ending with a " ++ fragment
  | cannotFollow kind path => "can not follow a " ++ kind.name ++ " at '" ++ path ++ "'"
  | outOfBounds path => "can not follow out of bounds array index at '" ++ path ++ "'"
  | cannotDeduce path => "can not deduce what element to add at '" ++ path ++ "'"
  | tooDeep path => "can not create more than one missing level at '" ++ path ++ "'"

/-- The error for an obstacle in the way of a path. -/
def ofObstacle [RegexSyntax] (path : Path) : Obstacle → EditError
  | .scalar kind extent => cannotFollow kind (path.take extent).text
  | .outOfBounds extent => outOfBounds (path.take extent).text
  | .undeducible extent => cannotDeduce (path.take extent).text
  | .tooDeep extent => tooDeep (path.take extent).text

end EditError

end TreePath
