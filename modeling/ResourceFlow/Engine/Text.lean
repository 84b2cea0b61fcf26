import ResourceFlow.Engine.Basic
import ResourceFlow.Text.Quoted
/-! # Texts of engines

  One-line descriptions for logs and consoles: of how an engine is built, of
  an engine, and of a dispatcher.
-/

namespace ResourceFlow

/-- Something that is described by its name and its fields. -/
def describe (name : String) (fields : List (String × String)) : String :=
  name ++ " \x7b " ++
    String.intercalate ", " (fields.map fun (field, value) => field ++ ": " ++ value) ++ " \x7d"

/-- Whether a part was given, without telling what it is. -/
def givenText (given : Bool) : String := if given then "Some(\"...\")" else "None"

/-- How an engine is built: which parts were given, and how many handlers. -/
def engineBuilderText (flowType : String) (registry sink : Bool) (handlers retention : Nat) :
    String :=
  describe "FlowEngineBuilder" [
    ("flow_type", Text.quoted flowType),
    ("registry", givenText registry),
    ("sink", givenText sink),
    ("handlers", toString handlers),
    ("terminal_retention", toString retention)]

variable {V : Vocabulary} {I : Interface}

/-- A dispatcher, by the selectors that it handles. -/
def Dispatcher.text (d : Dispatcher V I) : String :=
  describe "EventDispatcher" [("selectors", Text.quotedList d.selectorNames)]

/-- An engine, with the number of occupied lanes on its registry. -/
def Engine.text (e : Engine V I) (activeLanes : Nat) : String :=
  describe "FlowEngine" [
    ("flow_type", Text.quoted e.definition.flowType),
    ("dispatcher", e.dispatcher.text),
    ("active_lanes", toString activeLanes)]

end ResourceFlow
