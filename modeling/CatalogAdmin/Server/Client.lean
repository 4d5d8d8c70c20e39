import CatalogAdmin.FileTree.Basic
import CatalogAdmin.Json.Basic
import CatalogAdmin.Server.Query

/-!
# Asking a server

A server answers each query with rows or with an error. It may remember what it was asked before,
and while it answers, the file tree may change under the program's feet; so a server is a function
of the queries so far, the query and the tree, and gives back the tree as it is afterwards.
-/

namespace CatalogAdmin

/-- Why a query has no result. -/
inductive ClientError
  | http (detail : Text)
  | timeout (limit : Duration)
  | server (status : Nat) (message : Text)
  | decode (detail : Text)
  | unexpected (detail : Text)
deriving DecidableEq, Repr

/-- The wording of a client error. -/
def ClientError.message : ClientError → Text
  | .http detail => "HTTP error: " ++ detail
  | .timeout limit => "query timed out after " ++ limit.decimal
  | .server status message => "ClickHouse error (" ++ Text.ofNat status ++ "): " ++ message
  | .decode detail => "failed to decode response: " ++ detail
  | .unexpected detail => "unexpected response: " ++ detail

/-- Whether the rows of an answer are wanted. -/
inductive Purpose
  | execute
  | fetch
deriving DecidableEq, Repr

/-- A query as it was sent. -/
structure Sent where
  purpose : Purpose
  query : Query
deriving DecidableEq, Repr

/-- A server, by what it answers after some queries, and the tree it leaves. -/
structure Server where
  answer : List Sent → Sent → FileTree → Except ClientError (List Row) × FileTree

/-- A server that leaves the tree alone. -/
def Server.ofAnswers (answers : List Sent → Sent → Except ClientError (List Row)) : Server :=
  ⟨fun before sent tree => (answers before sent, tree)⟩

/-- Reads every row of an answer, or none of them. -/
def readRows {α : Type} (read : Row → Option α) (rows : List Row) : Except ClientError (List α) :=
  match rows.mapM read with
  | some values => .ok values
  | none => .error (.decode "a row lacks a field or holds a value of another type")

end CatalogAdmin
