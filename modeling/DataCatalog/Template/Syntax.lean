import DataCatalog.Template.Datum
import DataCatalog.Template.Token

/-!
# The syntax of templates

Expressions know where they stand: the stretch of the template that stands for them in messages, and
the line on which their last part begins.  The stretch of a look-up begins with the look-up before
it in a chain, that of a filter with the filter's name.
-/

set_option autoImplicit false

namespace DataCatalog.Template

/-- Where an expression stands. -/
structure Site where
  span : Span
  /-- The line on which the last part of the expression begins. -/
  line : Nat
  deriving DecidableEq, Repr, Inhabited

/-- The operators between two operands that are both computed. -/
inductive BinaryOp where
  | add
  | concat
  | equal
  | unequal
  | less
  | atMost
  | greater
  | atLeast
  deriving DecidableEq, Repr

inductive Expr where
  | literal (value : Datum) (span : Span)
  | name (id : String) (span : Span)
  /-- What is under a name. -/
  | member (base : Expr) (name : String) (site : Site)
  /-- What is under a key or at an index. -/
  | item (base key : Expr) (site : Site)
  /-- The call of a function by its name. -/
  | call (function : String) (args : List Expr) (site : Site)
  /-- The call of anything else. -/
  | invoke (callee : Expr) (args : List Expr) (site : Site)
  | list (items : List Expr) (site : Site)
  | table (entries : List (Expr × Expr)) (site : Site)
  | negative (operand : Expr) (site : Site)
  | not (operand : Expr) (site : Site)
  | and (left right : Expr) (site : Site)
  | or (left right : Expr) (site : Site)
  | binary (op : BinaryOp) (left right : Expr) (site : Site)
  /-- One of two expressions, by a condition. -/
  | choose (condition yes no : Expr) (site : Site)
  | filter (name : String) (base : Expr) (args : List Expr) (site : Site)
  | test (name : String) (base : Expr) (args : List Expr) (site : Site)
  deriving Inhabited

/-- Where an expression stands. -/
def Expr.site : Expr → Site
  | .literal _ span => ⟨span, span.start.line⟩
  | .name _ span => ⟨span, span.start.line⟩
  | .member _ _ site => site
  | .item _ _ site => site
  | .call _ _ site => site
  | .invoke _ _ site => site
  | .list _ site => site
  | .table _ site => site
  | .negative _ site => site
  | .not _ site => site
  | .and _ _ site => site
  | .or _ _ site => site
  | .binary _ _ _ site => site
  | .choose _ _ _ site => site
  | .filter _ _ _ site => site
  | .test _ _ _ site => site

def Expr.line (e : Expr) : Nat := e.site.line

inductive Stmt where
  | text (cs : List Char)
  | output (e : Expr)
  | when (condition : Expr) (yes no : List Stmt)
  /-- A loop; `otherwise` is for nothing to go through. -/
  | each (target : String) (range : Expr) (body otherwise : List Stmt)
  | set (target : String) (value : Expr)
  /-- Gives a name to what the statements print. -/
  | capture (target : String) (body : List Stmt)
  deriving Inhabited

end DataCatalog.Template
