import SqlCompose.Proofs.Mapped

/-!
# Excluded qualifiers

Where a statement names the columns of the table that it changes, their
qualifier is excluded, and the list of excluded qualifiers goes down with
rendering. It does nothing but take qualifiers off: an expression is written
as the expression in which they are gone already (`unqualify`) is written
with none excluded. Queries and windows begin again with an empty list, so
the columns in them keep theirs.

Two readings of one expression, under other lists and with other
qualifiers, are compared by a relation that `++` keeps
(`Fragment.Congruence`). They are related as soon as the names of their
columns are (`Expression.sql_related`), which is the one induction over the
grammar. Equality then tells what is written, and having the same arguments
tells what no list can change.
-/

namespace SqlCompose

open Fragment

/-! ## Relations that `++` keeps -/

/-- A relation of fragments that stays true when the same is done to
both. -/
structure Fragment.Congruence (R : Fragment → Fragment → Prop) : Prop where
  refl : ∀ a, R a a
  append : ∀ {a a' b b'}, R a a' → R b b' → R (a ++ b) (a' ++ b')

namespace Fragment.Congruence

variable {R : Fragment → Fragment → Prop} (related : Congruence R) {a a' b b' : Fragment}

theorem eq : Congruence Eq where
  refl _ := rfl
  append first rest := by rw [first, rest]

include related

/-- What is written before is the same. -/
theorem behind (before : Fragment) (h : R a a') : R (before ++ a) (before ++ a') :=
  related.append (related.refl before) h

theorem before (h : R a a') (after : Fragment) : R (a ++ after) (a' ++ after) :=
  related.append h (related.refl after)

theorem parensIf (wrap : Bool) (h : R a a') : R (parensIf wrap a) (parensIf wrap a') := by
  cases wrap with
  | false => exact h
  | true => exact related.before (related.behind _ h) _

end Fragment.Congruence

/-! ## Fragments with the same arguments -/

def Piece.isArg : Piece → Bool
  | text _ => false
  | arg _ _ => true

/-- Two fragments stop alike, after the same arguments under the same
names. -/
structure Fragment.SameArgs (a b : Fragment) : Prop where
  pieces : a.pieces.filter Piece.isArg = b.pieces.filter Piece.isArg
  stop : a.stop = b.stop

namespace Fragment.SameArgs

variable {a b c : Fragment}

theorem congruence : Congruence SameArgs where
  refl _ := ⟨rfl, rfl⟩
  append {a a' b b'} first rest := by
    cases h : a.stop with
    | some e =>
        have h' : a'.stop = some e := first.stop ▸ h
        rw [append_of_stop h, append_of_stop h']
        exact first
    | none =>
        have h' : a'.stop = none := first.stop ▸ h
        rw [append_of_run h, append_of_run h']
        exact ⟨by simp only [List.filter_append, first.pieces, rest.pieces], rest.stop⟩

theorem symm (h : SameArgs a b) : SameArgs b a := ⟨h.pieces.symm, h.stop.symm⟩

theorem trans (h : SameArgs a b) (h' : SameArgs b c) : SameArgs a c :=
  ⟨h.pieces.trans h'.pieces, h.stop.trans h'.stop⟩

/-- Texts are nothing to the arguments. -/
theorem args_eq (h : SameArgs a b) : a.args = b.args := by
  have values : ∀ ps : List Piece, (ps.filter Piece.isArg).filterMap Piece.value? =
      ps.filterMap Piece.value? := by
    intro ps
    induction ps with
    | nil => rfl
    | cons p ps ih =>
        cases p with
        | text s => exact ih
        | arg name? v => exact congrArg (v :: ·) ih
  rw [args, ← values, h.pieces, values]
  rfl

theorem recordPieces_filter (index : Nat) (ps : List Piece) (names : Names) :
    recordPieces index (ps.filter Piece.isArg) names = recordPieces index ps names := by
  induction ps generalizing index names with
  | nil => rfl
  | cons p ps ih =>
      match p with
      | .text _ => exact ih index names
      | .arg none _ => exact ih (index + 1) names
      | .arg (some name) _ => exact ih (index + 1) (names.record name index)

/-- A writer is left with the same arguments, names and error. -/
theorem write_eq (h : SameArgs a b) (w : Writer) :
    (w.write a).1.args = (w.write b).1.args ∧ (w.write a).1.names = (w.write b).1.names ∧
      (w.write a).2 = (w.write b).2 := by
  refine ⟨congrArg (w.args ++ ·) h.args_eq, ?_, h.stop⟩
  change recordPieces w.args.length a.pieces w.names = recordPieces w.args.length b.pieces w.names
  rw [← recordPieces_filter, h.pieces, recordPieces_filter]

end Fragment.SameArgs

/-! ## The qualifiers of an expression -/

section Qualifiers

variable (g : String → String)

/-- Gives a column another qualifier. -/
def ColumnRef.mapQualifier (c : ColumnRef) : ColumnRef := { c with qualifier := g c.qualifier }

mutual

def Operand.mapQualifiers : Operand → Operand
  | .null => .null
  | .scalar v => .scalar v
  | .field f => .field f.mapQualifiers
  | .query q => .query q
  | .slice vs => .slice vs
termination_by structural o => o

def operandsMapQualifiers : List Operand → List Operand
  | [] => []
  | o :: rest => o.mapQualifiers :: operandsMapQualifiers rest
termination_by structural os => os

def operandMapQualifiers : Option Operand → Option Operand
  | none => none
  | some o => some o.mapQualifiers
termination_by structural o => o

def TypedField.mapQualifiers : TypedField → TypedField
  | .column kind c negated => .column kind (c.mapQualifier g) negated
  | .computed kind c format operands negated =>
    .computed kind (c.mapQualifier g) format (operandsMapQualifiers operands) negated
termination_by structural f => f

/-- Gives the columns of a field other qualifiers. Those in a query or in
the definition of a window are not its own. -/
def Field.mapQualifiers : Field → Field
  | .custom c format operands =>
    .custom (c.mapQualifier g) format (operandsMapQualifiers operands)
  | .literal s => .literal s
  | .param name v => .param name v
  | .typed f => .typed f.mapQualifiers
  | .searchedCase aliasName branches fallback =>
    .searchedCase aliasName (searchedMapQualifiers branches) (operandMapQualifiers fallback)
  | .simpleCase aliasName subject branches fallback =>
    .simpleCase aliasName subject.mapQualifiers (simpleMapQualifiers branches)
      (operandMapQualifiers fallback)
  | .window w => .window w
  | .predicate p => .predicate p.mapQualifiers
termination_by structural f => f

def searchedMapQualifiers : List SearchedBranch → List SearchedBranch
  | [] => []
  | ⟨test, result⟩ :: rest =>
    ⟨test.mapQualifiers, result.mapQualifiers⟩ :: searchedMapQualifiers rest
termination_by structural bs => bs

def simpleMapQualifiers : List SimpleBranch → List SimpleBranch
  | [] => []
  | ⟨test, result⟩ :: rest =>
    ⟨test.mapQualifiers, result.mapQualifiers⟩ :: simpleMapQualifiers rest
termination_by structural bs => bs

def Predicate.mapQualifiers : Predicate → Predicate
  | .custom aliasName format operands negated =>
    .custom aliasName format (operandsMapQualifiers operands) negated
  | .group toplevel aliasName op members negated =>
    .group toplevel aliasName op (predicatesMapQualifiers members) negated
  | .boolean f => .boolean f.mapQualifiers
termination_by structural p => p

def predicatesMapQualifiers : List Predicate → List Predicate
  | [] => []
  | p :: rest => p.mapQualifiers :: predicatesMapQualifiers rest
termination_by structural ps => ps

end

def Assignment.mapQualifiers (a : Assignment) : Assignment :=
  ⟨a.target.mapQualifiers g, a.value.mapQualifiers g⟩

end Qualifiers

mutual

def Operand.columns : Operand → List ColumnRef
  | .field f => f.columns
  | .null => []
  | .scalar _ => []
  | .query _ => []
  | .slice _ => []
termination_by structural o => o

def operandsColumns : List Operand → List ColumnRef
  | [] => []
  | o :: rest => o.columns ++ operandsColumns rest
termination_by structural os => os

def operandColumns : Option Operand → List ColumnRef
  | none => []
  | some o => o.columns
termination_by structural o => o

def TypedField.columns : TypedField → List ColumnRef
  | .column _ c _ => [c]
  | .computed _ _ _ operands _ => operandsColumns operands
termination_by structural f => f

/-- The columns that a field refers to itself. A format has a place for
modifiers only, and refers to the columns of its operands. -/
def Field.columns : Field → List ColumnRef
  | .custom c format operands =>
    if format.isEmpty && operands.isEmpty then [c] else operandsColumns operands
  | .literal _ => []
  | .param _ _ => []
  | .typed f => f.columns
  | .searchedCase _ branches fallback => searchedColumns branches ++ operandColumns fallback
  | .simpleCase _ subject branches fallback =>
    subject.columns ++ (simpleColumns branches ++ operandColumns fallback)
  | .window _ => []
  | .predicate p => p.columns
termination_by structural f => f

def searchedColumns : List SearchedBranch → List ColumnRef
  | [] => []
  | ⟨test, result⟩ :: rest => test.columns ++ (result.columns ++ searchedColumns rest)
termination_by structural bs => bs

def simpleColumns : List SimpleBranch → List ColumnRef
  | [] => []
  | ⟨test, result⟩ :: rest => test.columns ++ (result.columns ++ simpleColumns rest)
termination_by structural bs => bs

def Predicate.columns : Predicate → List ColumnRef
  | .custom _ _ operands _ => operandsColumns operands
  | .group _ _ _ members _ => predicatesColumns members
  | .boolean f => f.columns
termination_by structural p => p

def predicatesColumns : List Predicate → List ColumnRef
  | [] => []
  | p :: rest => p.columns ++ predicatesColumns rest
termination_by structural ps => ps

end

/-! ## What does not depend on qualifiers -/

section Qualifiers

variable (g : String → String)

@[simp] theorem Operand.isQuery_mapQualifiers (o : Operand) :
    (o.mapQualifiers g).isQuery = o.isQuery := by
  cases o <;> rfl

@[simp] theorem Predicate.isGroup_mapQualifiers (p : Predicate) :
    (p.mapQualifiers g).isGroup = p.isGroup := by
  cases p <;> rfl

@[simp] theorem isEmpty_operandsMapQualifiers (os : List Operand) :
    (operandsMapQualifiers g os).isEmpty = os.isEmpty := by
  cases os <;> rfl

@[simp] theorem isEmpty_searchedMapQualifiers (bs : List SearchedBranch) :
    (searchedMapQualifiers g bs).isEmpty = bs.isEmpty := by
  cases bs with
  | nil => rfl
  | cons b _ =>
      cases b
      rfl

@[simp] theorem isEmpty_simpleMapQualifiers (bs : List SimpleBranch) :
    (simpleMapQualifiers g bs).isEmpty = bs.isEmpty := by
  cases bs with
  | nil => rfl
  | cons b _ =>
      cases b
      rfl

mutual

theorem Operand.columns_mapQualifiers : (o : Operand) →
    (o.mapQualifiers g).columns = o.columns.map (·.mapQualifier g)
  | .null => rfl
  | .scalar _ => rfl
  | .field f => f.columns_mapQualifiers
  | .query _ => rfl
  | .slice _ => rfl
termination_by structural o => o

theorem operandsColumns_mapQualifiers : (os : List Operand) →
    operandsColumns (operandsMapQualifiers g os) = (operandsColumns os).map (·.mapQualifier g)
  | [] => rfl
  | o :: rest => by
      rw [operandsMapQualifiers, operandsColumns, operandsColumns, o.columns_mapQualifiers,
        operandsColumns_mapQualifiers rest, List.map_append]
termination_by structural os => os

theorem operandColumns_mapQualifiers : (o? : Option Operand) →
    operandColumns (operandMapQualifiers g o?) = (operandColumns o?).map (·.mapQualifier g)
  | none => rfl
  | some o => o.columns_mapQualifiers
termination_by structural o? => o?

theorem TypedField.columns_mapQualifiers : (f : TypedField) →
    (f.mapQualifiers g).columns = f.columns.map (·.mapQualifier g)
  | .column _ _ _ => rfl
  | .computed _ _ _ operands _ => operandsColumns_mapQualifiers operands
termination_by structural f => f

theorem Field.columns_mapQualifiers : (f : Field) →
    (f.mapQualifiers g).columns = f.columns.map (·.mapQualifier g)
  | .custom _ _ operands => by
      simp only [Field.mapQualifiers, Field.columns, isEmpty_operandsMapQualifiers]
      split
      · rfl
      · exact operandsColumns_mapQualifiers operands
  | .literal _ => rfl
  | .param _ _ => rfl
  | .typed f => f.columns_mapQualifiers
  | .searchedCase _ branches fallback => by
      rw [Field.mapQualifiers, Field.columns, Field.columns, searchedColumns_mapQualifiers branches,
        operandColumns_mapQualifiers fallback, List.map_append]
  | .simpleCase _ subject branches fallback => by
      rw [Field.mapQualifiers, Field.columns, Field.columns, subject.columns_mapQualifiers,
        simpleColumns_mapQualifiers branches, operandColumns_mapQualifiers fallback,
        List.map_append, List.map_append]
  | .window _ => rfl
  | .predicate p => p.columns_mapQualifiers
termination_by structural f => f

theorem searchedColumns_mapQualifiers : (bs : List SearchedBranch) →
    searchedColumns (searchedMapQualifiers g bs) = (searchedColumns bs).map (·.mapQualifier g)
  | [] => rfl
  | branch :: rest => by
      obtain ⟨test, result⟩ := branch
      rw [searchedMapQualifiers, searchedColumns, searchedColumns, test.columns_mapQualifiers,
        result.columns_mapQualifiers, searchedColumns_mapQualifiers rest, List.map_append,
        List.map_append]
termination_by structural bs => bs

theorem simpleColumns_mapQualifiers : (bs : List SimpleBranch) →
    simpleColumns (simpleMapQualifiers g bs) = (simpleColumns bs).map (·.mapQualifier g)
  | [] => rfl
  | branch :: rest => by
      obtain ⟨test, result⟩ := branch
      rw [simpleMapQualifiers, simpleColumns, simpleColumns, test.columns_mapQualifiers,
        result.columns_mapQualifiers, simpleColumns_mapQualifiers rest, List.map_append,
        List.map_append]
termination_by structural bs => bs

theorem Predicate.columns_mapQualifiers : (p : Predicate) →
    (p.mapQualifiers g).columns = p.columns.map (·.mapQualifier g)
  | .custom _ _ operands _ => operandsColumns_mapQualifiers operands
  | .group _ _ _ members _ => predicatesColumns_mapQualifiers members
  | .boolean f => f.columns_mapQualifiers
termination_by structural p => p

theorem predicatesColumns_mapQualifiers : (ps : List Predicate) →
    predicatesColumns (predicatesMapQualifiers g ps) = (predicatesColumns ps).map (·.mapQualifier g)
  | [] => rfl
  | p :: rest => by
      rw [predicatesMapQualifiers, predicatesColumns, predicatesColumns, p.columns_mapQualifiers,
        predicatesColumns_mapQualifiers rest, List.map_append]
termination_by structural ps => ps

end

end Qualifiers

/-! ## Rendering under other lists and with other qualifiers -/

section Related

variable {R : Fragment → Fragment → Prop} (related : Congruence R) (g : String → String)
  (X Y : List String)

/-- The names of columns are related, those of the second kind having other
qualifiers and being written under another list. -/
def Related (R : Fragment → Fragment → Prop) (g : String → String) (X Y : List String)
    (cs : List ColumnRef) : Prop :=
  ∀ c ∈ cs, R (c.nameSql X) ((c.mapQualifier g).nameSql Y)

variable {g X Y}

theorem related_append {cs ds : List ColumnRef} :
    Related R g X Y (cs ++ ds) ↔ Related R g X Y cs ∧ Related R g X Y ds :=
  List.forall_mem_append

include related

mutual

theorem Operand.sql_related : (o : Operand) → Related R g X Y o.columns →
    R (o.sql X) ((o.mapQualifiers g).sql Y)
  | .null, _ => related.refl _
  | .scalar _, _ => related.refl _
  | .field f, h => f.sql_related h
  | .query _, _ => related.refl _
  | .slice [], _ => related.refl _
  | .slice (_ :: _), _ => related.refl _
termination_by structural o => o

theorem fillSql_related : (os : List Operand) → Related R g X Y (operandsColumns os) →
    ∀ tails, R (fillSql X tails os) (fillSql Y tails (operandsMapQualifiers g os))
  | [], _, _ => related.refl _
  | _ :: _, _, [] => related.refl _
  | o :: rest, h, tail :: tails => by
      obtain ⟨first, others⟩ := related_append.mp h
      exact related.append (related.before (o.sql_related first) (ofPieces tail))
        (fillSql_related rest others tails)
termination_by structural os => os

theorem TypedField.sql_related : (f : TypedField) → Related R g X Y f.columns →
    R (f.sql X) ((f.mapQualifiers g).sql Y)
  | .column _ c negated, h =>
      related.before (related.behind (notSql negated) (h c List.mem_cons_self)) c.modifiersSql
  | .computed _ c _ operands _, h =>
      related.before (related.behind _ (fillSql_related operands h _)) c.modifiersSql
termination_by structural f => f

theorem Field.sql_related : (f : Field) → Related R g X Y f.columns →
    R (f.sql X) ((f.mapQualifiers g).sql Y)
  | .custom c format operands, h => by
      simp only [Field.columns] at h
      simp only [Field.mapQualifiers, Field.sql, isEmpty_operandsMapQualifiers]
      by_cases bare : (format.isEmpty && operands.isEmpty) = true
      · rw [if_pos bare] at h
        rw [if_pos bare, if_pos bare]
        have named : (c.mapQualifier g).name = c.name := rfl
        rw [named]
        split
        · exact related.refl _
        · exact related.before (h c List.mem_cons_self) c.modifiersSql
      · rw [if_neg bare] at h
        rw [if_neg bare, if_neg bare]
        exact related.before (related.behind _ (fillSql_related operands h _)) c.modifiersSql
  | .literal _, _ => related.refl _
  | .param _ _, _ => related.refl _
  | .typed f, h => f.sql_related h
  | .searchedCase _ branches fallback, h => by
      obtain ⟨tests, last⟩ := related_append.mp h
      simp only [Field.mapQualifiers, Field.sql, isEmpty_searchedMapQualifiers]
      split
      · exact related.refl _
      · exact related.append (related.behind _ (searchedSql_related branches tests))
          (fallbackSql_related fallback last)
  | .simpleCase _ subject branches fallback, h => by
      obtain ⟨first, others⟩ := related_append.mp h
      obtain ⟨tests, last⟩ := related_append.mp others
      simp only [Field.mapQualifiers, Field.sql, isEmpty_simpleMapQualifiers]
      split
      · exact related.refl _
      · exact related.append
          (related.append (related.behind _ (subject.sql_related first))
            (simpleSql_related branches tests))
          (fallbackSql_related fallback last)
  | .window _, _ => related.refl _
  | .predicate p, h => p.sql_related h false
termination_by structural f => f

theorem searchedSql_related : (bs : List SearchedBranch) → Related R g X Y (searchedColumns bs) →
    R (searchedSql X bs) (searchedSql Y (searchedMapQualifiers g bs))
  | [], _ => related.refl _
  | ⟨test, result⟩ :: rest, h => by
      obtain ⟨first, others⟩ := related_append.mp h
      obtain ⟨second, others⟩ := related_append.mp others
      exact related.append
        (related.append (related.before (related.behind _ (test.sql_related first false)) _)
          (result.sql_related second))
        (searchedSql_related rest others)
termination_by structural bs => bs

theorem simpleSql_related : (bs : List SimpleBranch) → Related R g X Y (simpleColumns bs) →
    R (simpleSql X bs) (simpleSql Y (simpleMapQualifiers g bs))
  | [], _ => related.refl _
  | ⟨test, result⟩ :: rest, h => by
      obtain ⟨first, others⟩ := related_append.mp h
      obtain ⟨second, others⟩ := related_append.mp others
      exact related.append
        (related.append (related.before (related.behind _ (test.sql_related first)) _)
          (result.sql_related second))
        (simpleSql_related rest others)
termination_by structural bs => bs

theorem fallbackSql_related : (o? : Option Operand) → Related R g X Y (operandColumns o?) →
    R (fallbackSql X o?) (fallbackSql Y (operandMapQualifiers g o?))
  | none, _ => related.refl _
  | some o, h => related.before (related.behind _ (o.sql_related h)) _
termination_by structural o? => o?

theorem Predicate.sql_related : (p : Predicate) → Related R g X Y p.columns →
    ∀ only, R (p.sql X only) ((p.mapQualifiers g).sql Y only)
  | .custom _ _ operands _, h, _ => related.behind _ (fillSql_related operands h _)
  | .group _ _ _ [] _, _, _ => related.refl _
  | .group _ _ _ [p] _, h, _ => by
      obtain ⟨first, -⟩ := related_append.mp h
      simp only [Predicate.mapQualifiers, predicatesMapQualifiers, Predicate.sql,
        Predicate.isGroup_mapQualifiers]
      exact related.behind _ (related.parensIf _ (p.sql_related first true))
  | .group _ _ op (p :: q :: rest) _, h, _ => by
      obtain ⟨first, others⟩ := related_append.mp h
      obtain ⟨second, others⟩ := related_append.mp others
      exact related.behind _ (related.parensIf _
        (related.append (related.before (p.sql_related first false) _)
          (predicatesSql_related op.separator rest others _ _ (q.sql_related second false))))
  | .boolean f, h, _ => f.sql_related h
termination_by structural p => p

/-- Members behind one that is written already. -/
theorem predicatesSql_related (separator : String) :
    (ps : List Predicate) → Related R g X Y (predicatesColumns ps) → ∀ a b, R a b →
      R (sepBy separator (a :: predicatesSql X ps))
        (sepBy separator (b :: predicatesSql Y (predicatesMapQualifiers g ps)))
  | [], _, _, _, written => written
  | p :: rest, h, _, _, written => by
      obtain ⟨first, others⟩ := related_append.mp h
      exact related.append (related.before written _)
        (predicatesSql_related separator rest others _ _ (p.sql_related first false))
termination_by structural ps => ps

end

end Related

/-! ## Leaving qualifiers out -/

/-- Nothing in the place of an excluded qualifier. -/
def withoutExcluded (X : List String) (qualifier : String) : String :=
  if qualifier ∈ X then "" else qualifier

def ColumnRef.unqualify (X : List String) (c : ColumnRef) : ColumnRef :=
  c.mapQualifier (withoutExcluded X)

def Field.unqualify (X : List String) (f : Field) : Field := f.mapQualifiers (withoutExcluded X)

def Predicate.unqualify (X : List String) (p : Predicate) : Predicate :=
  p.mapQualifiers (withoutExcluded X)

def Assignment.unqualify (X : List String) (a : Assignment) : Assignment :=
  a.mapQualifiers (withoutExcluded X)

namespace ColumnRef

variable {X Y : List String} {c : ColumnRef}

/-- A column whose qualifier is not in the list is left as it is. -/
theorem unqualify_of_notMem (h : c.qualifier ∉ X) : c.unqualify X = c := by
  rw [unqualify, mapQualifier, withoutExcluded, if_neg h]

/-- A list takes off a qualifier of its own and no other. -/
theorem nameSql_unqualify (h : c.qualifier ∈ X ↔ c.qualifier ∈ Y) :
    c.nameSql X = (c.unqualify Y).nameSql [] := by
  by_cases excluded : c.qualifier ∈ Y
  · have gone : c.unqualify Y = { c with qualifier := "" } := by
      rw [unqualify, mapQualifier, withoutExcluded, if_pos excluded]
    rw [gone, nameSql, List.contains_iff_mem.mpr (h.mpr excluded)]
    simp [nameSql, Fragment.when]
  · have kept : X.contains c.qualifier = false := by simpa using mt h.mp excluded
    rw [unqualify_of_notMem excluded, nameSql, nameSql, kept]
    rfl

/-- No argument is written with a column. -/
theorem sameArgs_nameSql (X : List String) (c : ColumnRef) : SameArgs (c.nameSql X) empty := by
  rw [nameSql, Fragment.when]
  split <;> exact ⟨rfl, rfl⟩

end ColumnRef

/-- An expression that goes with an excluded list: a field, which may be a
case expression or a format, a condition in its place, whatever stands in a
format, and an assignment. -/
inductive Expression where
  | operand (o : Operand)
  | field (f : Field)
  | predicate (p : Predicate) (only : Bool)
  | assignment (a : Assignment)

namespace Expression

def sql (excluded : List String) : Expression → Fragment
  | operand o => o.sql excluded
  | field f => f.sql excluded
  | predicate p only => p.sql excluded only
  | assignment a => a.sql excluded

def mapQualifiers (g : String → String) : Expression → Expression
  | operand o => operand (o.mapQualifiers g)
  | field f => field (f.mapQualifiers g)
  | predicate p only => predicate (p.mapQualifiers g) only
  | assignment a => assignment (a.mapQualifiers g)

def columns : Expression → List ColumnRef
  | operand o => o.columns
  | field f => f.columns
  | predicate p _ => p.columns
  | assignment a => a.target.columns ++ a.value.columns

/-- The expression whose columns have lost the qualifiers in the list. -/
def unqualify (X : List String) (e : Expression) : Expression :=
  e.mapQualifiers (withoutExcluded X)

theorem columns_unqualify (X : List String) (e : Expression) :
    (e.unqualify X).columns = e.columns.map (·.unqualify X) := by
  cases e with
  | operand o => exact o.columns_mapQualifiers _
  | field f => exact f.columns_mapQualifiers _
  | predicate p only => exact p.columns_mapQualifiers _
  | assignment a =>
      simp only [unqualify, mapQualifiers, columns, Assignment.mapQualifiers,
        Operand.columns_mapQualifiers, List.map_append]
      rfl

variable {X Y : List String}

/-- An expression is written alike as far as its columns are. -/
theorem sql_related {R : Fragment → Fragment → Prop} (related : Congruence R)
    {g : String → String} (e : Expression) (h : Related R g X Y e.columns) :
    R (e.sql X) ((e.mapQualifiers g).sql Y) := by
  cases e with
  | operand o => exact o.sql_related related h
  | field f => exact f.sql_related related h
  | predicate p only => exact p.sql_related related h only
  | assignment a =>
      obtain ⟨target, value⟩ := a
      obtain ⟨left, right⟩ := related_append.mp h
      simp only [sql, mapQualifiers, Assignment.mapQualifiers, Assignment.sql,
        Operand.isQuery_mapQualifiers]
      exact related.append (related.before (target.sql_related related left) _)
        (related.parensIf _ (value.sql_related related right))

/-- Two lists that agree on the columns' own qualifiers take off the same
ones. -/
theorem sql_unqualify_of_agree (e : Expression)
    (h : ∀ c ∈ e.columns, c.qualifier ∈ X ↔ c.qualifier ∈ Y) :
    e.sql X = (e.unqualify Y).sql [] :=
  e.sql_related Congruence.eq fun c mem => ColumnRef.nameSql_unqualify (h c mem)

/-- Excluding qualifiers is the same as taking them off first. -/
theorem sql_unqualify (e : Expression) (X : List String) :
    e.sql X = (e.unqualify X).sql [] :=
  e.sql_unqualify_of_agree fun _ _ => Iff.rfl

/-- What is excluded is nothing to arguments and errors. -/
theorem sameArgs_sql (e : Expression) (X Y : List String) : SameArgs (e.sql X) (e.sql Y) := by
  have unqualified : ∀ X, SameArgs (e.sql X) ((e.unqualify []).sql []) := fun X =>
    e.sql_related SameArgs.congruence fun c _ =>
      (c.sameArgs_nameSql X).trans (ColumnRef.sameArgs_nameSql [] _).symm
  exact (unqualified X).trans (unqualified Y).symm

end Expression

/-! ## Statements that change a table -/

theorem fieldsSql_unqualify (X : List String) (fs : List Field) :
    fieldsSql X fs = fieldsSql [] (fs.map (·.unqualify X)) := by
  rw [fieldsSql_eq_map, fieldsSql_eq_map, List.map_map]
  exact List.map_congr_left fun f _ => (Expression.field f).sql_unqualify X

theorem assignmentsSql_unqualify (X : List String) (as : List Assignment) :
    assignmentsSql X as = assignmentsSql [] (as.map (·.unqualify X)) := by
  rw [assignmentsSql_eq_map, assignmentsSql_eq_map, List.map_map]
  exact List.map_congr_left fun a _ => (Expression.assignment a).sql_unqualify X

theorem predicatesSql_unqualify (X : List String) (ps : List Predicate) :
    predicatesSql X ps = predicatesSql [] (ps.map (·.unqualify X)) := by
  rw [predicatesSql_eq_map, predicatesSql_eq_map, List.map_map]
  exact List.map_congr_left fun p _ => (Expression.predicate p false).sql_unqualify X

theorem conditionsSql_unqualify (keyword : String) (X : List String) (ps : List Predicate) :
    conditionsSql keyword X ps = conditionsSql keyword [] (ps.map (·.unqualify X)) := by
  match ps with
  | [] => rfl
  | [p] => exact congrArg (text keyword ++ ·) ((Expression.predicate p true).sql_unqualify X)
  | p :: q :: rest =>
      exact congrArg (text keyword ++ sepBy LogicalOp.and.separator ·)
        (predicatesSql_unqualify X (p :: q :: rest))

/-- The conditions on the row that is there already name its columns in
full. -/
def Conflict.unqualify (X : List String) (c : Conflict) : Conflict :=
  { c with
    target := c.target.map (·.unqualify X)
    targetConditions := c.targetConditions.map (·.unqualify X)
    assignments := c.assignments.map (·.unqualify X) }

theorem Conflict.sql_unqualify (X : List String) (c : Conflict) :
    c.sql X = (c.unqualify X).sql [] := by
  obtain ⟨target, constraint, targetConditions, assignments, resolutionConditions⟩ := c
  simp only [unqualify, sql, List.isEmpty_map, fieldsSql_unqualify X,
    conditionsSql_unqualify _ X targetConditions, assignmentsSql_unqualify X]

/-- The parts of an insertion, written with a list of excluded
qualifiers. -/
def Insert.written (excluded : List String) (i : Insert) : InsertParts where
  withClause := WithItem.clause (cteItems i.ctes) (selectItems i.select)
  target := i.target
  columns := fieldsSql excluded i.columns
  rows := rowsSql i.rows
  run := runMapper .insert excluded i.mapper
  select := selectSql i.select
  conflict := conflictSql excluded i.conflict

def Insert.unqualify (X : List String) (i : Insert) : Insert :=
  { i with
    columns := i.columns.map (·.unqualify X)
    conflict := i.conflict.map (·.unqualify X) }

/-- The parts of an update, written with a list of excluded qualifiers. -/
def Update.written (excluded : List String) (u : Update) : UpdateParts where
  withClause := WithItem.clause (cteItems u.ctes) (sourceItems u.source ++ joinItems u.joins)
  target := u.target
  assignments := assignmentsSql excluded u.assignments
  run := runMapper .update excluded u.mapper
  rest :=
    sourceSql " FROM " u.source ++ joinsSql u.joins ++ conditionsSql " WHERE " [] u.conditions ++
      clause " ORDER BY " (fieldsSql [] u.orderBy) ++ countSql " LIMIT " u.limit ++
      countSql " OFFSET " u.offset

def Update.unqualify (X : List String) (u : Update) : Update :=
  { u with assignments := u.assignments.map (·.unqualify X) }

/-- With nothing excluded, an insertion of which the columns of its table
have lost their qualifier is written in the same way. -/
theorem Insert.sql_unqualify {i j : Insert} {r : Relation} (target : i.target = some r)
    (explicit : i.explicit = .ok j) :
    i.sql = ((j.unqualify [r.qualifier]).written []).sql := by
  rw [sql_explicit, explicit]
  obtain ⟨columns, rows, rfl⟩ := eq_of_explicit explicit
  obtain ⟨ctes, _, _, _, _, select, conflict⟩ := i
  obtain rfl := target
  simp only [sql, unqualify, written, Option.map_some, Option.toList_some,
    fieldsSql_unqualify [r.qualifier]]
  cases conflict with
  | none => rfl
  | some c => simp only [Option.map_some, conflictSql, c.sql_unqualify [r.qualifier]]; rfl

theorem Update.sql_unqualify {u v : Update} {r : Relation} (target : u.target = some r)
    (explicit : u.explicit = .ok v) :
    u.sql = ((v.unqualify [r.qualifier]).written []).sql := by
  rw [sql_explicit, explicit]
  obtain ⟨assignments, rfl⟩ := eq_of_explicit explicit
  obtain ⟨ctes, _, _, _, source, joins, conditions, orderBy, limit, offset⟩ := u
  obtain rfl := target
  simp only [sql, unqualify, written, Option.map_some, Option.toList_some,
    assignmentsSql_unqualify [r.qualifier]]
  rfl

/-! ## Columns of the changed table -/

/-- A column without a qualifier. -/
def ColumnRef.aloneSql (c : ColumnRef) (negated : Bool) : Fragment :=
  notSql negated ++ (text c.name ++ c.modifiersSql)

namespace Relation

variable (r : Relation)

/-- Where a list has a column of the table, its name stands alone. -/
def NamesAlone (fs : List Field) (written : List Fragment) : Prop :=
  ∀ (k : Nat) kind c negated, fs[k]? = some (.typed (.column kind c negated)) →
    c.qualifier = r.qualifier → written[k]? = some (c.aloneSql negated)

/-- Where a column of the table is assigned, its name stands alone to the
left. -/
def SetsAlone (as : List Assignment) (written : List Fragment) : Prop :=
  ∀ (k : Nat) kind c negated value,
    as[k]? = some ⟨.field (.typed (.column kind c negated)), value⟩ → c.qualifier = r.qualifier →
      written[k]? = some (c.aloneSql negated ++ text " = " ++
        parensIf value.isQuery (((Expression.operand value).unqualify [r.qualifier]).sql []))

/-- The qualifier is the table's own, whether it has an alias, a schema or
neither. -/
theorem sql_unqualify_own {c : ColumnRef} (own : c.qualifier = r.qualifier) (kind : FieldKind)
    (negated : Bool) :
    ((Field.typed (.column kind c negated)).unqualify [r.qualifier]).sql [] =
      c.aloneSql negated := by
  have alone : (c.unqualify [r.qualifier]).nameSql [] = text c.name := by
    rw [ColumnRef.unqualify, ColumnRef.mapQualifier, withoutExcluded,
      if_pos (List.mem_singleton.mpr own)]
    rfl
  change notSql negated ++ (c.unqualify [r.qualifier]).nameSql [] ++ c.modifiersSql = _
  rw [alone, append_assoc]
  rfl

theorem namesAlone_unqualify (fs : List Field) :
    r.NamesAlone fs (fieldsSql [] (fs.map (·.unqualify [r.qualifier]))) := by
  intro k kind c negated here own
  rw [fieldsSql_eq_map, List.getElem?_map, List.getElem?_map, here]
  exact congrArg some (r.sql_unqualify_own own kind negated)

theorem setsAlone_unqualify (as : List Assignment) :
    r.SetsAlone as (assignmentsSql [] (as.map (·.unqualify [r.qualifier]))) := by
  intro k kind c negated value here own
  rw [assignmentsSql_eq_map, List.getElem?_map, List.getElem?_map, here]
  have left := r.sql_unqualify_own own kind negated
  have right := value.isQuery_mapQualifiers (withoutExcluded [r.qualifier])
  refine congrArg some ?_
  change ((Field.typed (.column kind c negated)).unqualify [r.qualifier]).sql [] ++ text " = " ++
    parensIf (value.mapQualifiers (withoutExcluded [r.qualifier])).isQuery _ = _
  rw [left, right]
  rfl

end Relation

/-- Excluding qualifiers is taking them off. Whatever was written before, an
expression is written under a list of excluded qualifiers as the expression
whose columns have lost these is written under none; only columns with such
a qualifier change, and queries and windows keep theirs.

So arguments, their positions and errors are the same under any two lists,
and the text too if the lists agree on the qualifiers that occur. A statement
that changes a table is the one with nothing excluded of which the columns
of that table have lost their qualifier: in the column list, to the left of
an assignment and as the target of a conflict they stand by their name
alone. -/
theorem Expression.write_excluded :
    (∀ (e : Expression) (X : List String),
      (∀ w : Writer, w.write (e.sql X) = w.write ((e.unqualify X).sql [])) ∧
        (e.unqualify X).columns = e.columns.map (·.unqualify X) ∧
        ∀ c ∈ e.columns, c.qualifier ∉ X → c.unqualify X = c) ∧
      (∀ (e : Expression) (X Y : List String) (w : Writer),
        ((w.write (e.sql X)).1.args = (w.write (e.sql Y)).1.args ∧
          (w.write (e.sql X)).1.names = (w.write (e.sql Y)).1.names ∧
          (w.write (e.sql X)).2 = (w.write (e.sql Y)).2) ∧
        ((∀ c ∈ e.columns, c.qualifier ∈ X ↔ c.qualifier ∈ Y) →
          w.write (e.sql X) = w.write (e.sql Y))) ∧
      (∀ (r : Relation) (kind : FieldKind) (name : String),
        ∃ c : ColumnRef, TypedField.ofTable kind name r = .column kind c false ∧
          c.qualifier = r.qualifier ∧ c.aloneSql false = text name) ∧
      (∀ (r : Relation) (i j : Insert), i.target = some r → i.explicit = .ok j →
        i.sql = ((j.unqualify [r.qualifier]).written []).sql ∧
          r.NamesAlone j.columns ((j.unqualify [r.qualifier]).written []).columns ∧
          ∀ c, j.conflict = some c →
            (j.unqualify [r.qualifier]).conflict = some (c.unqualify [r.qualifier]) ∧
              r.NamesAlone c.target (fieldsSql [] (c.unqualify [r.qualifier]).target) ∧
              r.SetsAlone c.assignments
                (assignmentsSql [] (c.unqualify [r.qualifier]).assignments)) ∧
      ∀ (r : Relation) (u v : Update), u.target = some r → u.explicit = .ok v →
        u.sql = ((v.unqualify [r.qualifier]).written []).sql ∧
          r.SetsAlone v.assignments ((v.unqualify [r.qualifier]).written []).assignments := by
  refine ⟨fun e X => ⟨fun w => ?_, e.columns_unqualify X, fun c _ => ColumnRef.unqualify_of_notMem⟩,
    fun e X Y w => ⟨(e.sameArgs_sql X Y).write_eq w, fun agree => ?_⟩,
    fun r kind name => ⟨_, rfl, rfl, append_empty (text name)⟩,
    fun r i j target explicit => ⟨Insert.sql_unqualify target explicit,
      r.namesAlone_unqualify j.columns, fun c conflict => ⟨?_, r.namesAlone_unqualify c.target,
        r.setsAlone_unqualify c.assignments⟩⟩,
    fun r u v target explicit => ⟨Update.sql_unqualify target explicit,
      r.setsAlone_unqualify v.assignments⟩⟩
  · rw [e.sql_unqualify X]
  · rw [e.sql_unqualify_of_agree agree, ← e.sql_unqualify Y]
  · exact congrArg (Option.map _) conflict

/-- An insertion into a table with a schema and an alias, an update of it,
and a comparison for which a second excluded qualifier is nothing. -/
theorem Expression.write_excluded_alias :
    let users : Relation := ⟨"app", "users", "u"⟩
    let id := Field.typed (.ofTable .number "id" users)
    let name := Field.typed (.ofTable .string "name" users)
    let rename : Assignment := ⟨.field name, .field (.column "EXCLUDED" "name")⟩
    let insert : Insert :=
      { Insert.empty with
        target := some users
        columns := [id, name]
        rows := [[.scalar (.int 1), .scalar (.text "a")]]
        conflict := some ⟨[id], none, [], [rename], []⟩ }
    let update : Update := { Update.empty with target := some users, assignments := [rename] }
    let same := Expression.predicate (.eq (.field id) (.field (.column "o" "user_id"))) false
    let w : Writer := ⟨.postgres, "WHERE ", [], []⟩
    insert.sql = ((insert.unqualify ["u"]).written []).sql ∧
      insert.sql.sql = "INSERT INTO app.users AS u (id, name) VALUES (?, ?) " ++
        "ON CONFLICT (id) DO UPDATE SET name = EXCLUDED.name" ∧
      update.sql = ((update.unqualify ["u"]).written []).sql ∧
      update.sql.sql = "UPDATE app.users AS u SET name = EXCLUDED.name" ∧
      w.write (same.sql ["u"]) = w.write (same.sql ["u", "p"]) ∧
      (w.write (same.sql ["u"])).1.text = "WHERE id = o.user_id" := by
  intro users id name rename insert update same w
  obtain ⟨_, lists, _, inserts, updates⟩ := Expression.write_excluded
  have agree : ∀ c ∈ same.columns, c.qualifier ∈ ["u"] ↔ c.qualifier ∈ ["u", "p"] := by
    decide +kernel
  exact ⟨(inserts users insert insert rfl rfl).1, by decide +kernel,
    (updates users update update rfl rfl).1, by decide +kernel, (lists same _ _ w).2 agree,
    by decide +kernel⟩

end SqlCompose
