import FlightHub.AI.TextToSql
import FlightHub.Consumer.Schema
import FlightHub.Interaction.Program
import FlightHub.Streamlit.Page

/-! What the AI layer and the dashboard ask of their surroundings: the language
model, the database and the page. The elements of the page and the values of a
row of a generated query are left open. -/
namespace FlightHub
open Python Relational Interaction

namespace Dashboard

/-- The statements which the dashboard executes. -/
inductive Statement where
  | currentFlights (seconds : Int)
  | recentHistory (minutes : Int)
  | generated (sql : List Char)
deriving DecidableEq

/-- A row as `dict_row` returns it. -/
def Statement.Row (V : Type) : Statement → Type
  | .currentFlights _ => Relational.Row FlightsColumn SqlValue
  | .recentHistory _ => Relational.Row HistoryColumn SqlValue
  | .generated _ => List (String × V)

inductive Query (E V : Type) where
  | complete (prompt : String) (system : Option String)
  | connect (dsn : String)
  | execute (statement : Statement)
  | fetchall (statement : Statement)
  /-- `__exit__` of the connection, which commits, or rolls back where the block raised. -/
  | leave (raised : Bool)
  | display (element : E)

def Query.Answer {E V : Type} : Query E V → Type
  | .complete _ _ => String
  | .fetchall statement => List (statement.Row V)
  | _ => Unit

/-- What is raised; the errors of psycopg are of two kinds here. -/
inductive Failure where
  | sql (error : SQLError)
  | python (exception : Exception)
  | validationError
  | operationalError
  | databaseError
  | fragmentHandled
deriving DecidableEq

/-- `rerun` and `stop` are no exceptions for `except Exception`. -/
abbrev Action (E V α : Type) := Program (Query E V) Query.Answer (Streamlit.Interrupt Failure) α

abbrev Trace (E V : Type) :=
  List (Exchange (Query E V) Query.Answer (Streamlit.Interrupt Failure))

abbrev Outcome (α : Type) := Except (Streamlit.Interrupt Failure) α

namespace Action
variable {E V : Type}

def complete (prompt : String) (system : Option String) : Action E V String :=
  Program.call (Query.complete prompt system)

def connect (dsn : String) : Action E V Unit := Program.call (Query.connect dsn)

def execute (statement : Statement) : Action E V Unit := Program.call (Query.execute statement)

def fetchall (statement : Statement) : Action E V (List (statement.Row V)) := Program.call (Query.fetchall statement)

def leave (raised : Bool) : Action E V Unit := Program.call (Query.leave raised)

def display (element : E) : Action E V Unit := Program.call (Query.display element)

def raise {α : Type} (failure : Failure) : Action E V α := Program.raise (.raised failure)

end Action

end Dashboard
end FlightHub
