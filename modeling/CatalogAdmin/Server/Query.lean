import CatalogAdmin.Duration
import CatalogAdmin.Text.Quoted

/-!
# Queries

A query is a statement, the values of its `{name:Type}` placeholders and a time limit. Names and
values that become part of a statement are quoted: names between backquotes, values between single
quotes.
-/

namespace CatalogAdmin

/-- A statement with its parameters. -/
structure Query where
  sql : Text
  parameters : List (Text × Text) := []
  timeout : Option Duration := none
deriving DecidableEq, Repr

namespace Query

/-- The first parameter of a name. -/
def parameter? (q : Query) (name : Text) : Option Text := q.parameters.lookup name

/-- The statement without the white space around it. -/
def text (q : Query) : Text := q.sql.trim

end Query

/-- A name, quoted for a statement. -/
def quoteIdentifier (name : Text) : Text := Text.Quoted.write '\x60' name

/-- A value, quoted for a statement. -/
def quoteLiteral (value : Text) : Text := Text.Quoted.write '\'' value

end CatalogAdmin
