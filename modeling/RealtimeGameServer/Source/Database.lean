import Mathlib.Data.Int.Order.Basic
import RealtimeGameServer.Source.AppError

/-!
# What the database refuses

Source: prisma/schema.prisma (`Int` columns, unique indices) and the errors that
reach a caller. An `Int` column is a 32-bit integer; a value outside its range
fails the statement. `update` and `delete` by a unique field throw when there is
no such row, and an insert throws when a unique index already has its key or the
row it refers to is absent.
-/
namespace RealtimeGameServer.Source

def int4Min : Int := -2147483648

def int4Max : Int := 2147483647

/-- The value fits an `Int` column. -/
def inInt4 (value : Int) : Bool := int4Min ≤ value && value ≤ int4Max

/-- What is left after a part has been taken away fits as well. -/
theorem inInt4_sub {value part : Int} (h : inInt4 value) (hpos : 0 < part) (hle : part ≤ value) :
    inInt4 (value - part) := by
  simp only [inInt4, Bool.and_eq_true, decide_eq_true_eq] at h ⊢
  have hmin : int4Min ≤ 0 := by decide
  omega

/-- Why a call rejects: an error the code throws, or one of the database. -/
inductive Failure where
  | app (error : AppError)
  | error (message : String)
  | recordNotFound
  | uniqueViolation
  | foreignKeyViolation
  | valueOutOfRange
  | connectionLost
  deriving DecidableEq, Repr

end RealtimeGameServer.Source
