import SqlCompose.Statement.Basic

/-!
# Reading set operations

How a database groups the text of a set operation. A text is a chain of
items with an operator between any two, and an item is a query or a chain
in parentheses. The operators of one chain are all the same: databases do
not agree on which of two operators binds tighter, so a chain with two of
them is not read. What the queries say is left open, and texts are
sequences of words over queries of any kind.

`SetWord.read` goes over the words once and keeps the chains that were
opened and not yet closed on a stack. It gives the outermost chain and not
only the tree, so that a chain can be told from one in parentheses, which
is a chain of one item.

As for conditions, words are shown to be read piece by piece: they are an
*item* if any chain takes them as its next item (`IsItem`), and a *chain*
if they can stand alone or in parentheses (`IsChain`).
-/

namespace SqlCompose

/-- Queries grouped by set operators. -/
inductive SetTree (α : Type) where
  | query (a : α)
  | node (op : SetOperator) (members : List (SetTree α))

mutual

/-- The queries from left to right. -/
def SetTree.queries {α : Type} : SetTree α → List α
  | .query a => [a]
  | .node _ members => queriesOf members
termination_by structural t => t

def queriesOf {α : Type} : List (SetTree α) → List α
  | [] => []
  | t :: rest => t.queries ++ queriesOf rest
termination_by structural ts => ts

end

/-- A word of a set operation. -/
inductive SetWord (α : Type) where
  | query (a : α)
  | op (op : SetOperator)
  | opening
  | closing
  deriving DecidableEq, Repr

/-- Items in a row, with their operator if there are several. -/
inductive Chain (α : Type) where
  | single (item : SetTree α)
  | many (op : SetOperator) (items : List (SetTree α))

/-- What stands before an item in its chain: nothing, or other items with
an operator after each. -/
abbrev Lead (α : Type) := Option (SetOperator × List (SetTree α))

namespace Chain

variable {α : Type}

/-- The chain that ends in an item. -/
def after : Lead α → SetTree α → Chain α
  | none, t => .single t
  | some (op, items), t => .many op (items ++ [t])

/-- The chain with an operator behind it, if it has no other one. -/
def join? : Chain α → SetOperator → Option (Lead α)
  | .single t, op => some (some (op, [t]))
  | .many own items, op => if own = op then some (some (op, items)) else none

/-- The chain as one item. -/
def tree : Chain α → SetTree α
  | .single t => t
  | .many op items => .node op items

end Chain

/-- The chain that a tree is where it stands by itself. -/
def SetTree.chain {α : Type} : SetTree α → Chain α
  | .query a => .single (.query a)
  | .node op members => .many op members

theorem SetTree.tree_chain {α : Type} (t : SetTree α) : t.chain.tree = t := by
  cases t <;> rfl

namespace SetWord

variable {α : Type}

mutual

/-- Reads on where an item must begin. -/
def readItem : (lead : Lead α) → (stack : List (Lead α)) → List (SetWord α) → Option (Chain α)
  | lead, stack, .query a :: ws => readNext (.after lead (.query a)) stack ws
  | lead, stack, .opening :: ws => readItem none (lead :: stack) ws
  | _, _, _ => none
termination_by structural _ _ ws => ws

/-- Reads on behind an item. -/
def readNext : Chain α → (stack : List (Lead α)) → List (SetWord α) → Option (Chain α)
  | c, stack, .op o :: ws =>
    match c.join? o with
    | some lead => readItem lead stack ws
    | none => none
  | c, lead :: stack, .closing :: ws => readNext (.after lead c.tree) stack ws
  | c, [], [] => some c
  | _, _, _ => none
termination_by structural _ _ ws => ws

end

/-- The chain that a sequence of words is. -/
def read (ws : List (SetWord α)) : Option (Chain α) := readItem none [] ws

/-! ## Items and chains -/

/-- Words that any chain takes as its next item. -/
def IsItem (ws : List (SetWord α)) (t : SetTree α) : Prop :=
  ∀ lead stack rest, readItem lead stack (ws ++ rest) = readNext (.after lead t) stack rest

/-- Words that are read as a chain where a chain begins. -/
def IsChain (ws : List (SetWord α)) (c : Chain α) : Prop :=
  ∀ stack rest, readItem none stack (ws ++ rest) = readNext c stack rest

variable {ws : List (SetWord α)} {t : SetTree α} {c : Chain α}

theorem isItem_query (a : α) : IsItem [.query a] (.query a) := fun _ _ _ => rfl

theorem IsItem.isChain (h : IsItem ws t) : IsChain ws (.single t) :=
  fun stack rest => h none stack rest

/-- A chain in parentheses is an item. -/
theorem IsChain.parens (h : IsChain ws c) : IsItem (.opening :: (ws ++ [.closing])) c.tree := by
  intro lead stack rest
  calc readItem lead stack (.opening :: (ws ++ [.closing]) ++ rest)
      = readItem none (lead :: stack) (ws ++ (.closing :: rest)) := by
        rw [List.cons_append, List.append_assoc]
        rfl
    _ = readNext c (lead :: stack) (.closing :: rest) := h _ _
    _ = readNext (.after lead c.tree) stack rest := rfl

/-- A chain that stands alone is read. -/
theorem IsChain.read (h : IsChain ws c) : read ws = some c := by
  have hread := h [] []
  rw [List.append_nil] at hread
  exact hread

mutual

/-- What is read with some chains open is read so with more of them open
below, and then goes on there. -/
theorem readItem_below : (lead : Lead α) → (stack : List (Lead α)) →
    (ws : List (SetWord α)) → readItem lead stack ws = some c → ∀ below rest,
      readItem lead (stack ++ below) (ws ++ rest) = readNext c below rest
  | lead, stack, .query a :: ws, h, below, rest =>
      readNext_below (.after lead (.query a)) stack ws h below rest
  | lead, stack, .opening :: ws, h, below, rest =>
      readItem_below none (lead :: stack) ws h below rest
  | _, _, [], h, _, _ => nomatch h
  | _, _, .op _ :: _, h, _, _ => nomatch h
  | _, _, .closing :: _, h, _, _ => nomatch h
termination_by structural _ _ ws => ws

theorem readNext_below : (d : Chain α) → (stack : List (Lead α)) →
    (ws : List (SetWord α)) → readNext d stack ws = some c → ∀ below rest,
      readNext d (stack ++ below) (ws ++ rest) = readNext c below rest
  | d, stack, .op o :: ws, h, below, rest => by
      rw [readNext] at h
      rw [List.cons_append, readNext]
      cases hjoin : d.join? o with
      | none =>
          rw [hjoin] at h
          cases h
      | some lead =>
          rw [hjoin] at h
          exact readItem_below lead stack ws h below rest
  | d, lead :: stack, .closing :: ws, h, below, rest =>
      readNext_below (.after lead d.tree) stack ws h below rest
  | d, [], [], h, below, rest => by
      cases h
      rfl
  | _, [], .closing :: _, h, _, _ => nomatch h
  | _, _ :: _, [], h, _, _ => nomatch h
  | _, [], .query _ :: _, h, _, _ => nomatch h
  | _, _ :: _, .query _ :: _, h, _, _ => nomatch h
  | _, [], .opening :: _, h, _, _ => nomatch h
  | _, _ :: _, .opening :: _, h, _, _ => nomatch h
termination_by structural _ _ ws => ws

end

/-- The query of a word. -/
def query? : SetWord α → Option α
  | .query a => some a
  | _ => none

/-- The queries among the words, in order. -/
def queries (ws : List (SetWord α)) : List α := ws.filterMap query?

/-- The queries in what was read of the chains that are open. -/
def openQueries : (stack : List (Lead α)) → List α
  | [] => []
  | none :: stack => openQueries stack
  | some (_, items) :: stack => openQueries stack ++ queriesOf items

theorem queriesOf_append (ts us : List (SetTree α)) :
    queriesOf (ts ++ us) = queriesOf ts ++ queriesOf us := by
  induction ts with
  | nil => rfl
  | cons t ts ih => rw [List.cons_append, queriesOf, queriesOf, ih, List.append_assoc]

theorem queries_after (lead : Lead α) (t : SetTree α) (stack : List (Lead α)) :
    openQueries stack ++ (Chain.after lead t).tree.queries =
      openQueries (lead :: stack) ++ t.queries := by
  cases lead with
  | none => rfl
  | some own =>
      obtain ⟨op, items⟩ := own
      have hlast : queriesOf [t] = t.queries := List.append_nil _
      rw [Chain.after, Chain.tree, SetTree.queries, queriesOf_append, hlast, openQueries,
        List.append_assoc]

theorem queries_join {d : Chain α} {o : SetOperator} {lead : Lead α}
    (h : d.join? o = some lead) (stack : List (Lead α)) :
    openQueries (lead :: stack) = openQueries stack ++ d.tree.queries := by
  cases d with
  | single t =>
      cases h
      exact congrArg (openQueries stack ++ ·) (List.append_nil _)
  | many own items =>
      rw [Chain.join?] at h
      split at h
      · cases h
        rfl
      · cases h

mutual

theorem queries_readItem : (lead : Lead α) → (stack : List (Lead α)) →
    (ws : List (SetWord α)) → readItem lead stack ws = some c →
      c.tree.queries = openQueries (lead :: stack) ++ queries ws
  | lead, stack, .query a :: ws, h => by
      have ih := queries_readNext _ stack ws h
      rw [queries_after, List.append_assoc] at ih
      exact ih
  | lead, stack, .opening :: ws, h => queries_readItem none (lead :: stack) ws h
  | _, _, [], h => nomatch h
  | _, _, .op _ :: _, h => nomatch h
  | _, _, .closing :: _, h => nomatch h
termination_by structural _ _ ws => ws

theorem queries_readNext : (d : Chain α) → (stack : List (Lead α)) →
    (ws : List (SetWord α)) → readNext d stack ws = some c →
      c.tree.queries = openQueries stack ++ d.tree.queries ++ queries ws
  | d, stack, .op o :: ws, h => by
      rw [readNext] at h
      split at h
      · rename_i lead hjoin
        have ih := queries_readItem lead stack ws h
        rw [queries_join hjoin] at ih
        exact ih
      · cases h
  | d, lead :: stack, .closing :: ws, h => by
      have ih := queries_readNext _ stack ws h
      rw [queries_after] at ih
      exact ih
  | d, [], [], h => by
      cases h
      exact (List.append_nil _).symm
  | _, [], .closing :: _, h => nomatch h
  | _, _ :: _, [], h => nomatch h
  | _, [], .query _ :: _, h => nomatch h
  | _, _ :: _, .query _ :: _, h => nomatch h
  | _, [], .opening :: _, h => nomatch h
  | _, _ :: _, .opening :: _, h => nomatch h
termination_by structural _ _ ws => ws

end

/-- Words with the item they are read as. -/
structure Item (α : Type) where
  words : List (SetWord α)
  tree : SetTree α
  isItem : IsItem words tree

/-- Further items, an operator before each. -/
def chainWords (op : SetOperator) (rest : List (Item α)) : List (SetWord α) :=
  rest.flatMap fun i => .op op :: i.words

theorem chainWords_cons (op : SetOperator) (i : Item α) (rest : List (Item α)) :
    chainWords op (i :: rest) = .op op :: (i.words ++ chainWords op rest) :=
  List.flatMap_cons

/-- A chain takes one item after the other. -/
theorem readNext_many (op : SetOperator) (items : List (SetTree α)) (rest : List (Item α))
    (stack : List (Lead α)) (more : List (SetWord α)) :
    readNext (.many op items) stack (chainWords op rest ++ more) =
      readNext (.many op (items ++ rest.map (·.tree))) stack more := by
  induction rest generalizing items with
  | nil =>
      rw [List.map_nil, List.append_nil]
      rfl
  | cons i rest ih =>
      rw [chainWords_cons, List.cons_append, List.append_assoc, readNext, Chain.join?, if_pos rfl]
      calc readItem (some (op, items)) stack (i.words ++ (chainWords op rest ++ more))
          = readNext (.many op (items ++ [i.tree])) stack (chainWords op rest ++ more) :=
            i.isItem _ _ _
        _ = readNext (.many op (items ++ [i.tree] ++ rest.map (·.tree))) stack more := ih _
        _ = readNext (.many op (items ++ (i :: rest).map (·.tree))) stack more := by
            rw [List.append_assoc, List.map_cons, List.singleton_append]

/-- Several items joined by one operator are a chain. -/
theorem isChain_many (op : SetOperator) (i j : Item α) (rest : List (Item α)) :
    IsChain (i.words ++ chainWords op (j :: rest))
      (.many op ((i :: j :: rest).map (·.tree))) := by
  intro stack more
  rw [List.append_assoc, i.isItem, chainWords_cons, List.cons_append, List.append_assoc, readNext]
  exact (j.isItem _ _ _).trans (readNext_many op [i.tree, j.tree] rest stack more)

end SetWord

end SqlCompose
