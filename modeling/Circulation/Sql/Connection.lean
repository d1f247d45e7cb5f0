import Circulation.Source
import Circulation.Sql.Query
import Circulation.Sql.Reply

/-!
# Connections

A connection sends statements to a server and reads its replies. The server here is a script: the replies it has
ready, in order, and the marks of a transaction at which it fails. Everything sent is kept in the connection's log. A
beginning or a commit that fails is followed by a rollback. A transaction that is left behind is rolled back when the
connection is next used.
-/

namespace Circulation.Sql

/-- The statements that frame a transaction. -/
inductive Mark where
  | begin
  | commit
  | rollback
  deriving DecidableEq, Repr

/-- A mark as it is written. -/
def Mark.text : Mark → String
  | .begin => "BEGIN"
  | .commit => "COMMIT"
  | .rollback => "ROLLBACK"

/-- What is sent to a server. -/
inductive Message where
  | mark (m : Mark)
  | statement (b : Bound)
  /-- The statements of a version of the schema. -/
  | schema (text : String)
  /-- The record that a version of the schema has been applied. -/
  | applied (version : Int) (description checksum : String)
  deriving DecidableEq

/-- What the server has ready: replies for the statements to come, and its failures. Without a reply it answers
nothing. -/
structure Script where
  replies : List Reply := []
  failBegin : Option ServerError := none
  failCommit : Option ServerError := none
  failSchema : Option ServerError := none
  deriving DecidableEq, Inhabited

/-- A connection to a server, under a clock that moves only when told to. It is `behind` while a transaction that was
left behind is still to be rolled back. -/
structure Connection where
  clock : Instant
  script : Script := {}
  log : List Message := []
  behind : Bool := false
  deriving DecidableEq, Inhabited

namespace Connection

/-- Sends a message. -/
def send (c : Connection) (m : Message) : Connection :=
  { c with log := c.log ++ [m] }

/-- Sends a bound statement, its parameters as the database keeps them, and takes the next reply. -/
def ask (c : Connection) (b : Bound) : Reply × Connection :=
  let c := c.send (.statement { b with parameters := b.parameters.map Value.stored })
  match c.script.replies with
  | [] => (.nothing, c)
  | reply :: rest => (reply, { c with script := { c.script with replies := rest } })

/-- Ends a transaction without effect. -/
def rollback (c : Connection) : Connection :=
  c.send (.mark .rollback)

/-- Leaves a transaction behind. -/
def leave (c : Connection) : Connection :=
  { c with behind := true }

/-- Rolls back what was left behind. -/
def settle (c : Connection) : Connection :=
  if c.behind then { c.rollback with behind := false } else c

/-- Sends a mark at which the server may fail, and rolls back if it does. -/
def pass (c : Connection) (m : Mark) (failing : Option ServerError) : Except Stop Unit × Connection :=
  let c := c.send (.mark m)
  match failing with
  | none => (.ok (), c)
  | some e => (.error (.refused (.database e.failure)), c.rollback)

/-- Begins a transaction. -/
def begin (c : Connection) : Except Stop Unit × Connection :=
  c.settle.pass .begin c.script.failBegin

/-- Commits a transaction. -/
def commit (c : Connection) : Except Stop Unit × Connection :=
  c.pass .commit c.script.failCommit

/-- Answers a request by its statement. -/
def answer (q : Request) (c : Connection) : Except Stop q.Answer × Connection :=
  let (reply, c) := c.ask (ofRequest q)
  (reply.answer q, c)

/-- The store that a connection with an open transaction is. -/
def store : Store Connection where
  now c := (c.clock, c)
  answer := answer

/-- A connection as the source of transactions. -/
def source : Source Connection Unit where
  now c := (c.clock, c)
  begin := begin
  answer q x :=
    let (a, c) := x.2.answer q
    (a, ((), c))
  commit _ c := c.commit
  drop _ c := c.rollback
  leave _ c := c.leave

end Connection

end Circulation.Sql
