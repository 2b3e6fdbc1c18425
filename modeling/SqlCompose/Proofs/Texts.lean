import SqlCompose.Proofs.Marks
import SqlCompose.Statement.Field
import SqlCompose.Statement.Projection

/-!
# The raw texts of a statement

Everything in a statement that its author wrote as text and that rendering
copies: names, qualifiers, aliases, literals, frames and keywords, and the
formats with the number of operands that each is given. The name of a
named argument is not among them, as it is never written.

A claim about all texts of a statement, wherever they stand in it, is a
claim about the members of `Query.texts`. The one that placeholders need is
`RawText.Paired`.
-/

namespace SqlCompose

/-- A text that rendering copies. -/
inductive RawText where
  | copied (s : String)
  /-- A format, with the number of its operands. -/
  | format (s : String) (operands : Nat)
  deriving DecidableEq, Repr

/-- A literal question mark is written twice, and a format has an operand
for each of its places. -/
def RawText.Paired : RawText → Prop
  | copied s => Mark.evenRuns false s.toList = true
  | format s operands => Mark.places (Mark.ofText s) ≤ operands

instance : DecidablePred RawText.Paired
  | .copied _ => inferInstanceAs (Decidable (_ = true))
  | .format _ _ => inferInstanceAs (Decidable (_ ≤ _))

/-! ## Names -/

/-- Names with commas between them have what each of them has, if putting
texts together keeps it. -/
@[elab_as_elim]
theorem names_induction {motive : List Char → Prop} (nil : motive [])
    (append : ∀ a b, motive a → motive b → motive (a ++ b)) (comma : motive ", ".toList)
    (names : List String) (h : ∀ s ∈ names, motive s.toList) :
    motive (String.intercalate ", " names).toList := by
  rw [String.toList_intercalate]
  induction names with
  | nil => exact nil
  | cons s names ih =>
      obtain ⟨hs, hnames⟩ := List.forall_mem_cons.mp h
      cases names with
      | nil => simpa [List.intercalate] using hs
      | cons t names =>
          rw [List.map_cons, List.map_cons, List.intercalate_cons_cons]
          exact append _ _ (append _ _ hs comma) (ih hnames)

def ColumnRef.texts (c : ColumnRef) : List RawText :=
  [.copied c.qualifier, .copied c.name, .copied c.aliasName]

def Relation.texts (r : Relation) : List RawText :=
  [.copied r.schema, .copied r.name, .copied r.aliasName]

def relationTexts : Option Relation → List RawText
  | none => []
  | some r => r.texts

def JoinKind.texts (k : JoinKind) : List RawText := [.copied k.keyword]

/-! ## The grammar -/

mutual

def Operand.texts : Operand → List RawText
  | .null => []
  | .scalar _ => []
  | .field f => f.texts
  | .query q => q.texts
  | .slice _ => []
termination_by structural o => o

def operandsTexts : List Operand → List RawText
  | [] => []
  | o :: rest => o.texts ++ operandsTexts rest
termination_by structural os => os

def operandTexts : Option Operand → List RawText
  | none => []
  | some o => o.texts
termination_by structural o => o

def rowsTexts : List (List Operand) → List RawText
  | [] => []
  | r :: rest => operandsTexts r ++ rowsTexts rest
termination_by structural rs => rs

def TypedField.texts : TypedField → List RawText
  | .column _ c _ => c.texts
  | .computed _ c format operands _ =>
    c.texts ++ [.format format operands.length] ++ operandsTexts operands
termination_by structural f => f

def Field.texts : Field → List RawText
  | .custom c format operands =>
    c.texts ++ [.format format operands.length] ++ operandsTexts operands
  | .literal s => [.copied s]
  | .param _ _ => []
  | .typed f => f.texts
  | .searchedCase aliasName branches fallback =>
    [.copied aliasName] ++ searchedTexts branches ++ operandTexts fallback
  | .simpleCase aliasName subject branches fallback =>
    [.copied aliasName] ++ subject.texts ++ simpleTexts branches ++ operandTexts fallback
  | .window w => w.texts
  | .predicate p => p.texts
termination_by structural f => f

def fieldsTexts : List Field → List RawText
  | [] => []
  | f :: rest => f.texts ++ fieldsTexts rest
termination_by structural fs => fs

def searchedTexts : List SearchedBranch → List RawText
  | [] => []
  | ⟨test, result⟩ :: rest => test.texts ++ result.texts ++ searchedTexts rest
termination_by structural bs => bs

def simpleTexts : List SimpleBranch → List RawText
  | [] => []
  | ⟨test, result⟩ :: rest => test.texts ++ result.texts ++ simpleTexts rest
termination_by structural bs => bs

def Predicate.texts : Predicate → List RawText
  | .custom aliasName format operands _ =>
    [.copied aliasName, .format format operands.length] ++ operandsTexts operands
  | .group _ aliasName _ members _ => [.copied aliasName] ++ predicatesTexts members
  | .boolean f => f.texts
termination_by structural p => p

def predicatesTexts : List Predicate → List RawText
  | [] => []
  | p :: rest => p.texts ++ predicatesTexts rest
termination_by structural ps => ps

def Window.texts : Window → List RawText
  | ⟨name, partitionBy, orderBy, frame⟩ =>
    [.copied name, .copied frame] ++ fieldsTexts partitionBy ++ fieldsTexts orderBy
termination_by structural w => w

def windowsTexts : List Window → List RawText
  | [] => []
  | w :: rest => w.texts ++ windowsTexts rest
termination_by structural ws => ws

def Assignment.texts : Assignment → List RawText
  | ⟨target, value⟩ => target.texts ++ value.texts
termination_by structural a => a

def assignmentsTexts : List Assignment → List RawText
  | [] => []
  | a :: rest => a.texts ++ assignmentsTexts rest
termination_by structural as => as

def MapperStep.texts : MapperStep → List RawText
  | .set f o => f.texts ++ o.texts
  | .fail _ => []
  | .inMode _ steps => stepsTexts steps
termination_by structural s => s

def stepsTexts : List MapperStep → List RawText
  | [] => []
  | s :: rest => s.texts ++ stepsTexts rest
termination_by structural ss => ss

def mapperTexts : Option (List MapperStep) → List RawText
  | none => []
  | some steps => stepsTexts steps
termination_by structural m => m

def Cte.texts : Cte → List RawText
  | ⟨name, aliasName, columns, body, _⟩ =>
    [.copied name, .copied aliasName] ++ columns.map .copied ++ bodyTexts body
termination_by structural c => c

def bodyTexts : Option Query → List RawText
  | none => []
  | some q => q.texts
termination_by structural q => q

def ctesTexts : List Cte → List RawText
  | [] => []
  | c :: rest => c.texts ++ ctesTexts rest
termination_by structural cs => cs

def Subquery.texts : Subquery → List RawText
  | ⟨aliasName, query⟩ => [.copied aliasName] ++ query.texts
termination_by structural s => s

def Table.texts : Table → List RawText
  | .relation r => r.texts
  | .cte c => c.texts
  | .derived s => s.texts
termination_by structural t => t

def sourceTexts : Option Table → List RawText
  | none => []
  | some t => t.texts
termination_by structural t => t

def Join.texts : Join → List RawText
  | ⟨kind, table, on⟩ => kind.texts ++ table.texts ++ predicatesTexts on
termination_by structural j => j

def joinsTexts : List Join → List RawText
  | [] => []
  | j :: rest => j.texts ++ joinsTexts rest
termination_by structural js => js

def Select.texts : Select → List RawText
  | ⟨ctes, _, distinctOn, fields, source, joins, conditions, groupBy, having, windows,
      orderBy, _, _, _⟩ =>
    ctesTexts ctes ++ fieldsTexts distinctOn ++ fieldsTexts fields ++ sourceTexts source ++
      joinsTexts joins ++ predicatesTexts conditions ++ fieldsTexts groupBy ++
      predicatesTexts having ++ windowsTexts windows ++ fieldsTexts orderBy
termination_by structural s => s

def selectTexts : Option Select → List RawText
  | none => []
  | some s => s.texts
termination_by structural s => s

def Conflict.texts : Conflict → List RawText
  | ⟨target, constraint, targetConditions, assignments, resolutionConditions⟩ =>
    fieldsTexts target ++ constraint.toList.map .copied ++ predicatesTexts targetConditions ++
      assignmentsTexts assignments ++ predicatesTexts resolutionConditions
termination_by structural c => c

def conflictTexts : Option Conflict → List RawText
  | none => []
  | some c => c.texts
termination_by structural c => c

def Insert.texts : Insert → List RawText
  | ⟨ctes, target, columns, rows, mapper, select, conflict⟩ =>
    ctesTexts ctes ++ relationTexts target ++ fieldsTexts columns ++ rowsTexts rows ++
      mapperTexts mapper ++ selectTexts select ++ conflictTexts conflict
termination_by structural i => i

def Update.texts : Update → List RawText
  | ⟨ctes, target, assignments, mapper, source, joins, conditions, orderBy, _, _⟩ =>
    ctesTexts ctes ++ relationTexts target ++ assignmentsTexts assignments ++
      mapperTexts mapper ++ sourceTexts source ++ joinsTexts joins ++
      predicatesTexts conditions ++ fieldsTexts orderBy
termination_by structural u => u

def Delete.texts : Delete → List RawText
  | ⟨ctes, target, source, joins, conditions, orderBy, _, _⟩ =>
    ctesTexts ctes ++ relationTexts target ++ sourceTexts source ++ joinsTexts joins ++
      predicatesTexts conditions ++ fieldsTexts orderBy
termination_by structural d => d

def Query.texts : Query → List RawText
  | .select _ s => s.texts
  | .insert _ i => i.texts
  | .update _ u => u.texts
  | .delete _ d => d.texts
  | .raw _ format operands => [.format format operands.length] ++ operandsTexts operands
  | .compound _ _ members => queriesTexts members
termination_by structural q => q

def queriesTexts : List Query → List RawText
  | [] => []
  | q :: rest => q.texts ++ queriesTexts rest
termination_by structural qs => qs

end

end SqlCompose
