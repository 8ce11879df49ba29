/-!
# Document nodes

A document is a tree of elements.  An element has a name, attributes, the namespaces that it
declares and a list of contents; text that references, marked sections and plain characters make up
is kept in pieces, in order.
-/

namespace Reckoner.Xml

/-- A piece of text or an element. -/
inductive Node where
  | text (s : String)
  | element (name : String) (attributes : List (String × String))
      (declarations : List (String × Option String)) (contents : List Node)

/-- The text of a piece of text. -/
def Node.text? : Node → Option String
  | .text s => some s
  | .element .. => none

end Reckoner.Xml
