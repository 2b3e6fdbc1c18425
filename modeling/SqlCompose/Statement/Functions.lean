import SqlCompose.Statement.Field

/-!
# Aggregates and window functions

Functions whose result is a number, alone or over a window. The window
comes after `OVER`, by its name if it has one. `function?` finds them all
by their names.
-/

namespace SqlCompose.Field

def count : Field := number "COUNT(*)" []
def countDistinct (e : Operand) : Field := number "COUNT(DISTINCT ?)" [e]
def sum (e : Operand) : Field := number "SUM(?)" [e]
def avg (e : Operand) : Field := number "AVG(?)" [e]
def min (e : Operand) : Field := number "MIN(?)" [e]
def max (e : Operand) : Field := number "MAX(?)" [e]

def countOver (w : Window) : Field := overWindow "COUNT(*)" [] w
def sumOver (e : Operand) (w : Window) : Field := overWindow "SUM(?)" [e] w
def avgOver (e : Operand) (w : Window) : Field := overWindow "AVG(?)" [e] w
def minOver (e : Operand) (w : Window) : Field := overWindow "MIN(?)" [e] w
def maxOver (e : Operand) (w : Window) : Field := overWindow "MAX(?)" [e] w
def rowNumberOver (w : Window) : Field := overWindow "ROW_NUMBER()" [] w
def rankOver (w : Window) : Field := overWindow "RANK()" [] w
def denseRankOver (w : Window) : Field := overWindow "DENSE_RANK()" [] w
def percentRankOver (w : Window) : Field := overWindow "PERCENT_RANK()" [] w
def cumeDistOver (w : Window) : Field := overWindow "CUME_DIST()" [] w
def firstValueOver (e : Operand) (w : Window) : Field := overWindow "FIRST_VALUE(?)" [e] w
def lastValueOver (e : Operand) (w : Window) : Field := overWindow "LAST_VALUE(?)" [e] w

/-- A number that is bound as an argument. -/
def intOperand (n : Int64) : Operand := .scalar (.int n)

def ntileOver (buckets : Int64) (w : Window) : Field := overWindow "NTILE(?)" [intOperand buckets] w

def nthValueOver (e : Operand) (n : Int64) (w : Window) : Field :=
  overWindow "NTH_VALUE(?, ?)" [e, intOperand n] w

/-- The value some rows later, or the fallback where there is no such
row. -/
def leadOver (e : Operand) (offset : Int64) (fallback : Operand) (w : Window) : Field :=
  overWindow "LEAD(?, ?, ?)" [e, intOperand offset, fallback] w

/-- The value some rows earlier, or the fallback where there is no such
row. -/
def lagOver (e : Operand) (offset : Int64) (fallback : Operand) (w : Window) : Field :=
  overWindow "LAG(?, ?, ?)" [e, intOperand offset, fallback] w

/-- The function of a name, applied to what it takes of an operand, a
number, a fallback and a window. -/
def function? (name : String) (e : Operand) (n : Int64) (fallback : Operand) (w : Window) :
    Option Field :=
  match name with
  | "count" => some count
  | "count_distinct" => some (countDistinct e)
  | "sum" => some (sum e)
  | "avg" => some (avg e)
  | "min" => some (min e)
  | "max" => some (max e)
  | "count_over" => some (countOver w)
  | "sum_over" => some (sumOver e w)
  | "avg_over" => some (avgOver e w)
  | "min_over" => some (minOver e w)
  | "max_over" => some (maxOver e w)
  | "row_number_over" => some (rowNumberOver w)
  | "rank_over" => some (rankOver w)
  | "dense_rank_over" => some (denseRankOver w)
  | "percent_rank_over" => some (percentRankOver w)
  | "cume_dist_over" => some (cumeDistOver w)
  | "ntile_over" => some (ntileOver n w)
  | "lead_over" => some (leadOver e n fallback w)
  | "lag_over" => some (lagOver e n fallback w)
  | "first_value_over" => some (firstValueOver e w)
  | "last_value_over" => some (lastValueOver e w)
  | "nth_value_over" => some (nthValueOver e n w)
  | _ => none

end SqlCompose.Field
