import TxRetry.Postgres.Database

/-!
# Scripted databases

A database whose replies are written down beforehand, for rehearsing transactions without a server:
each text of a command has a list of replies, used in order, of which the last one stays.
-/

namespace TxRetry.Rehearsal

open TxRetry.Postgres

/-- The replies that are left, by the text of the command.  A text without replies is answered
with success and no rows. -/
abbrev ReplyScript := List (String × List Reply)

/-- The text under which the replies to a command are written down. -/
def commandText : Command → String
  | .begin => "BEGIN"
  | .commit => "COMMIT"
  | .rollback => "ROLLBACK"
  | .batch sql => sql
  | .statement sql _ => sql

/-- The first of several replies, and those that are left: the last one is never used up. -/
def nextReply : List Reply → Reply × List Reply
  | [] => ({}, [])
  | [last] => (last, [last])
  | reply :: rest => (reply, rest)

/-- The reply to a text, and the script without it. -/
def takeReply (text : String) : ReplyScript → Reply × ReplyScript
  | [] => ({}, [])
  | (key, replies) :: rest =>
    if key = text then
      let (reply, left) := nextReply replies
      (reply, (key, left) :: rest)
    else
      let (reply, left) := takeReply text rest
      (reply, (key, replies) :: left)

/-- The **database that answers by the script.** -/
def scriptedDatabase : Database ReplyScript where
  respond script command :=
    let (reply, left) := takeReply (commandText command) script
    (left, reply)

end TxRetry.Rehearsal
