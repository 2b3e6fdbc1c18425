import SqlCompose.Execute.Fetch
import SqlCompose.Proofs.Fragment

/-!
# Buffers of a call

Writing into a buffer adds to its content, however its room grows. What a
text is divided into while it is written decides about the room alone: the
parts join to the text.

Idle buffers of a pool are empty (`BufferPool.IsClean`): a new pool has none, a
buffer that comes back is cleared, and taking one leaves the others as they
are. A call clears the buffers of its statement once more before it writes,
so what it renders into them is the statement and nothing else, whatever they
held (`Scratch.render_eq_build`). Only the preview relies on the pool.
-/

namespace SqlCompose

/-! ## Contents -/

namespace Buffer

variable {α : Type}

theorem content_reserve (k : BufferKind α) (more : Nat) (b : Buffer α) :
    (b.reserve k more).content = b.content := by
  rw [reserve]
  split <;> rfl

theorem content_append [Append α] (k : BufferKind α) (b : Buffer α) (more : α) :
    (b.append k more).content = b.content ++ more :=
  congrArg (· ++ more) (content_reserve k (k.size more) b)

theorem content_appendAll_text (b : Buffer String) (all : List String) :
    (b.appendAll .text all).content = b.content ++ String.join all := by
  induction all generalizing b with
  | nil => exact String.append_empty.symm
  | cons s all ih =>
      rw [appendAll, List.foldl_cons, ← appendAll, ih, content_append, String.append_assoc,
        String.join_cons]

theorem content_appendAll_args (b : Buffer (List Scalar)) (all : List (List Scalar)) :
    (b.appendAll .args all).content = b.content ++ all.flatten := by
  induction all generalizing b with
  | nil => exact (List.append_nil _).symm
  | cons vs all ih =>
      rw [appendAll, List.foldl_cons, ← appendAll, ih, content_append, List.append_assoc,
        List.flatten_cons]

/-- Writing over what a buffer held. -/
theorem content_clear_appendAll_text (b : Buffer String) (all : List String) :
    ((b.clear .text).appendAll .text all).content = String.join all := by
  rw [content_appendAll_text]
  exact String.empty_append

theorem content_clear_appendAll_args (b : Buffer (List Scalar)) (all : List Scalar) :
    ((b.clear .args).appendAll .args (all.map ([·]))).content = all := by
  rw [content_appendAll_args, ← List.flatMap_def, List.flatMap_singleton']
  exact List.nil_append all

end Buffer

/-! ## Parts of a text -/

theorem join_singletons (cs : List Char) :
    String.join (cs.map String.singleton) = String.ofList cs := by
  rw [← String.toList_inj, String.toList_join, List.flatMap_map, String.toList_ofList]
  simp

/-- Marks written in parts are the text in the numbered style. -/
theorem Placeholder.join_numberedParts (n : Nat) (marks : List Mark) :
    String.join (numberedParts n marks) = String.ofList (numberedFrom n marks) := by
  induction marks generalizing n with
  | nil => rfl
  | cons m rest ih =>
      rw [← String.toList_inj]
      cases m <;> simp [numberedParts, numberedFrom, ih]

/-- The parts of a scalar are its literal. -/
theorem Scalar.join_literalParts (v : Scalar) : String.join v.literalParts = v.literal := by
  have quoted : ∀ s : String, String.join (s.toList.map String.singleton) = s := by
    intro s
    rw [join_singletons, String.ofList_toList]
  cases v with
  | bool b => exact String.join_cons.trans String.append_empty
  | int n =>
      rw [literalParts, literal]
      cases n.toInt with
      | ofNat m =>
          rw [if_neg (by simp)]
          exact String.join_cons.trans String.append_empty
      | negSucc m =>
          rw [if_pos (Int.negSucc_lt_zero m)]
          exact String.join_cons.trans (congrArg ("-" ++ ·) (String.join_cons.trans
            String.append_empty))
  | float x => rfl
  | bytes b =>
      rw [← String.toList_inj, literalParts, literal]
      simp [Hex.ofBytes, List.flatMap_map]
  | text s => exact quoted _
  | time t => exact quoted _
  | json j => exact quoted _
  | uuid u => exact quoted _

/-- What the log shows of a row: its number, and each field with the literal of
its value. -/
theorem Fetch.join_previewPieces (n : Nat) (requested : List RequestedField) (row : ResultRow) :
    String.join (previewPieces n requested row) =
      "\n----[ Row " ++ n.repr ++ " ]----" ++
        String.join (requested.zipIdx.map fun (r, i) =>
          "\n" ++ r.field.describe ++ ": " ++ (row.get? i).elim "NULL" Scalar.literal) := by
  rw [previewPieces, String.join_append]
  congr 1
  induction requested.zipIdx with
  | nil => rfl
  | cons field rest ih =>
      obtain ⟨r, i⟩ := field
      simp only [List.flatMap_cons, List.map_cons, String.join_append, String.join_cons, ih]
      cases row.get? i with
      | some value => simp [value.join_literalParts, String.append_assoc]
      | none => simp [String.append_assoc]

/-! ## Clean pools -/

namespace BufferPool

/-- All idle buffers are empty. -/
structure IsClean (p : BufferPool) : Prop where
  texts : ∀ b ∈ p.texts.idle, b.content = ""
  args : ∀ b ∈ p.args.idle, b.content = []

theorem isClean_new (retained : Nat) : (new retained).IsClean := ⟨nofun, nofun⟩

variable {p : BufferPool}

theorem IsClean.takeText (h : p.IsClean) :
    p.takeText.1.content = "" ∧ p.takeText.2.IsClean := by
  obtain ⟨retained, ⟨texts⟩, args⟩ := p
  cases texts with
  | nil => exact ⟨rfl, h⟩
  | cons b texts =>
      exact ⟨h.texts b List.mem_cons_self,
        fun c hc => h.texts c (List.mem_cons_of_mem _ hc), h.args⟩

theorem IsClean.takeArgs (h : p.IsClean) :
    p.takeArgs.1.content = [] ∧ p.takeArgs.2.IsClean := by
  obtain ⟨retained, texts, ⟨args⟩⟩ := p
  cases args with
  | nil => exact ⟨rfl, h⟩
  | cons b args =>
      exact ⟨h.args b List.mem_cons_self,
        h.texts, fun c hc => h.args c (List.mem_cons_of_mem _ hc)⟩

theorem IsClean.giveBackText (h : p.IsClean) (b : Buffer String) : (p.giveBackText b).IsClean := by
  refine ⟨fun c hc => ?_, h.args⟩
  rw [BufferPool.giveBackText, Shelf.giveBack] at hc
  split at hc
  · rcases List.mem_cons.mp hc with rfl | hc
    · rfl
    · exact h.texts c hc
  · exact h.texts c hc

theorem IsClean.giveBackArgs (h : p.IsClean) (b : Buffer (List Scalar)) :
    (p.giveBackArgs b).IsClean := by
  refine ⟨h.texts, fun c hc => ?_⟩
  rw [BufferPool.giveBackArgs, Shelf.giveBack] at hc
  split at hc
  · rcases List.mem_cons.mp hc with rfl | hc
    · rfl
    · exact h.args c hc
  · exact h.args c hc

/-- The pools that come of a new one by taking buffers and giving them back,
in any order and with anything in them. -/
inductive IsReached : BufferPool → Prop
  | new (retained : Nat) : IsReached (.new retained)
  | takeText {p : BufferPool} : IsReached p → IsReached p.takeText.2
  | takeArgs {p : BufferPool} : IsReached p → IsReached p.takeArgs.2
  | giveBackText {p : BufferPool} (b : Buffer String) : IsReached p → IsReached (p.giveBackText b)
  | giveBackArgs {p : BufferPool} (b : Buffer (List Scalar)) :
      IsReached p → IsReached (p.giveBackArgs b)

theorem IsReached.isClean (h : p.IsReached) : p.IsClean := by
  induction h with
  | new retained => exact isClean_new retained
  | takeText _ ih => exact ih.takeText.2
  | takeArgs _ ih => exact ih.takeArgs.2
  | giveBackText b _ ih => exact ih.giveBackText b
  | giveBackArgs b _ ih => exact ih.giveBackArgs b

theorem IsReached.take (h : p.IsReached) (d : Dialect) : (Scratch.take d p).2.IsReached :=
  h.takeText.takeText.takeArgs.takeText

theorem IsReached.giveBack (h : p.IsReached) (s : Scratch) : (s.giveBack p).IsReached :=
  (((h.giveBackText _).giveBackText _).giveBackArgs _).giveBackText _

end BufferPool

/-! ## Rendering into buffers -/

namespace Scratch

/-- Nothing was done with the buffers yet. -/
structure IsBlank (s : Scratch) : Prop where
  raw : s.raw.content = ""
  converted : s.converted.content = ""
  args : s.args.content = []
  names : s.names = []
  preview : s.preview.content = ""
  rendered : s.rendered = false

theorem isBlank_take (d : Dialect) {p : BufferPool} (h : p.IsClean) : (take d p).1.IsBlank :=
  have second := h.takeText.2.takeText
  have third := second.2.takeArgs
  ⟨h.takeText.1, second.1, third.1, rfl, third.2.takeText.1, rfl⟩

variable (f : Fragment) (s : Scratch)

theorem stop_render : (s.render f).1 = f.stop := by
  rw [render]
  cases f.stop <;> rfl

theorem dialect_render : (s.render f).2.dialect = s.dialect := by
  rw [render]
  cases f.stop <;> rfl

theorem raw_render : (s.render f).2.raw.content = f.sql := by
  have raw := s.raw.content_clear_appendAll_text (f.pieces.map Piece.sql)
  rw [render]
  cases f.stop <;> exact raw

theorem args_render : (s.render f).2.args.content = f.args := by
  have args := s.args.content_clear_appendAll_args f.args
  rw [render]
  cases f.stop <;> exact args

theorem names_render : (s.render f).2.names = f.names := by
  rw [render]
  cases f.stop <;> rfl

theorem preview_render : (s.render f).2.preview = s.preview := by
  rw [render]
  cases f.stop <;> rfl

theorem rendered_render : (s.render f).2.rendered = (f.stop.isNone || s.rendered) := by
  rw [render]
  cases f.stop <;> rfl

/-- A statement that was written to its end is converted if it has to be. -/
theorem converted_render : (s.render f).2.converted.content =
    if f.stop.isNone && s.dialect.isNumbered then Placeholder.numbered f.sql
    else s.converted.content := by
  have raw := s.raw.content_clear_appendAll_text (f.pieces.map Piece.sql)
  rw [render]
  cases f.stop with
  | some e => rfl
  | none =>
      cases s.dialect.isNumbered with
      | false => rfl
      | true =>
          simp only [raw, if_true]
          rw [Buffer.content_clear_appendAll_text, Placeholder.join_numberedParts]
          rfl

/-- What is sent of a statement that was written to its end. -/
theorem sql_render (written : f.stop = none) : (s.render f).2.sql =
    if s.dialect.isNumbered then Placeholder.numbered f.sql else f.sql := by
  rw [sql, dialect_render, raw_render, converted_render, written]
  cases s.dialect.isNumbered <;> rfl

/-- A built statement is in the buffers, as it is sent. -/
structure Holds (s : Scratch) (b : BuiltQuery) : Prop where
  dialect : s.dialect = b.dialect
  sql : s.sql = b.sql
  args : s.args.content = b.args

/-- Rendering stops where building the statement does, and else leaves the
built statement in the buffers. -/
theorem render_eq_build :
    match f.build s.dialect with
    | .error e => (s.render f).1 = some e
    | .ok b => (s.render f).1 = none ∧ (s.render f).2.Holds b := by
  rw [Fragment.build, stop_render]
  cases stop : f.stop with
  | some e => rfl
  | none =>
      refine ⟨rfl, s.dialect_render f, ?_, s.args_render f⟩
      rw [s.sql_render f stop, Writer.finish, Writer.append]
      simp only [String.empty_append]

end Scratch

end SqlCompose
