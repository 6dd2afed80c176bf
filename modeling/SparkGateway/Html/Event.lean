/-!
# Events of a hypertext

A hypertext is read as a sequence of events: an element starts, an element ends, or there is text.
Nothing is checked about how the events nest.
-/

namespace SparkGateway.Html

/-- What happens next in a hypertext. -/
inductive Event where
  /-- An element starts; its attributes stand in the order of the text, those without a value have
  none. -/
  | opened (tag : String) (attributes : List (String × Option String))
  /-- An element ends. -/
  | closed (tag : String)
  /-- There is text. -/
  | text (s : String)
  deriving DecidableEq, Repr

/-- The value of an attribute: of several of one name the last, and `none` if there is none or it has
no value. -/
def attribute? (attributes : List (String × Option String)) (name : String) : Option String :=
  (attributes.reverse.lookup name).join

end SparkGateway.Html
