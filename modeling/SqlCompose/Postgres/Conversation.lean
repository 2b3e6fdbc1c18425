import SqlCompose.Postgres.Exchange

/-!
# Conversations

Calls on a server one after another, alone or inside a transaction, with
all that they answered and all that the server was sent.
-/

namespace SqlCompose.Postgres

/-- How a statement is called. -/
inductive CallKind where
  | query
  | queryRow
  | exec
  deriving DecidableEq, Repr

/-- A call of a statement. -/
structure Call where
  kind : CallKind
  sql : String
  args : List Scalar
  deriving Repr

/-- What was answered, by a call or by a block at its end. -/
inductive Reply where
  | rows (rows : List ResultRow)
  | result (result : ExecResult)
  | ending (text : String)
  | failure (e : Error)
  deriving Repr

/-- What a block says at its end, or the wording of its failure. -/
abbrev Ending := Except String String

/-- A conversation so far. -/
structure Conversation where
  sent : List Message := []
  replies : List Reply := []
  deriving Repr, Inhabited

namespace Conversation

/-- Adds a reply. -/
def reply (r : Reply) (c : Conversation) : Conversation := { c with replies := c.replies ++ [r] }

/-- Adds what an action answers and sends. -/
def act {α : Type} (action : Action (List Message) α) (toReply : α → Reply) (c : Conversation) :
    Conversation :=
  match action c.sent with
  | (.ok a, sent) => reply (toReply a) { c with sent }
  | (.error e, sent) => reply (.failure e) { c with sent }

/-- One call. A single row is answered as a list. -/
def call (s : Statement) (c : Conversation) (k : Call) : Conversation :=
  match k.kind with
  | .query => c.act (s.query k.sql k.args) Reply.rows
  | .queryRow => c.act (s.queryRow k.sql k.args) fun row => .rows row.toList
  | .exec => c.act (s.exec k.sql k.args) Reply.result

/-- Calls in order; one that fails stops none. -/
def calls (s : Statement) (all : List Call) (c : Conversation) : Conversation :=
  all.foldl (call s) c

/-- Sends a command of a transaction. -/
def command (k : Command) : Action Conversation Unit := fun c =>
  let (result, sent) := perform k c.sent
  (result, { c with sent })

/-- Converses inside a block, which ends in a way of its own. -/
def block (b : Block) (ending : Ending) (body : Conversation → Conversation) (c : Conversation) :
    Conversation :=
  match b.run command (fun c => (ending.mapError Error.other, body c)) c with
  | (.ok text, c) => reply (.ending text) c
  | (.error e, c) => reply (.failure e) c

end Conversation

end SqlCompose.Postgres
