/-!
# Documents

The node trees that pipeline files are written as. A node has a name, entries in order
(arguments, and properties with a key), and a block of children if it has one. Of a value
only its text or its truth is ever used, so numbers are not told apart.
-/

namespace SealedBuild

/-- A value in a document. -/
inductive Value where
  | text (content : String)
  | truth (holds : Bool)
  | number
  | null
  deriving DecidableEq, Inhabited

namespace Value

/-- The text of a value that is one. -/
def text? : Value → Option String
  | text content => some content
  | _ => none

/-- The truth of a value that is one. -/
def truth? : Value → Option Bool
  | truth holds => some holds
  | _ => none

end Value

/-- One entry of a node. -/
inductive Entry where
  | argument (value : Value)
  | property (key : String) (value : Value)
  deriving DecidableEq, Inhabited

/-- The value of an entry that is an argument. -/
def Entry.argument? : Entry → Option Value
  | argument value => some value
  | property _ _ => none

/-- The value of an entry that is a property of a given key. -/
def Entry.valueOf? (key : String) : Entry → Option Value
  | argument _ => none
  | property other value => if other = key then some value else none

/-- A node of a document. -/
inductive Node where
  | mk (name : String) (entries : List Entry) (children : Option (List Node))
  deriving Inhabited

namespace Node

def name : Node → String
  | mk name _ _ => name

def entries : Node → List Entry
  | mk _ entries _ => entries

/-- The nodes of the block of children, if there is a block. -/
def children? : Node → Option (List Node)
  | mk _ _ children => children

/-- The arguments in order. -/
def arguments (node : Node) : List Value :=
  node.entries.filterMap Entry.argument?

/-- The text of the first argument, if that argument is a text. -/
def firstText? (node : Node) : Option String :=
  node.arguments.head?.bind Value.text?

/-- The truth of the first argument, if that argument is a truth. -/
def firstTruth? (node : Node) : Option Bool :=
  node.arguments.head?.bind Value.truth?

/-- The arguments that are texts, in order. -/
def texts (node : Node) : List String :=
  node.arguments.filterMap Value.text?

/-- The values of all properties of a key, in order. -/
def properties (node : Node) (key : String) : List Value :=
  node.entries.filterMap (Entry.valueOf? key)

/-- The value of the last property of a key. -/
def property? (node : Node) (key : String) : Option Value :=
  (node.properties key).getLast?

/-- The text of the last property of a key, if that is a text. -/
def textProperty? (node : Node) (key : String) : Option String :=
  (node.property? key).bind Value.text?

/-- The truth of the last property of a key, if that is a truth. -/
def truthProperty? (node : Node) (key : String) : Option Bool :=
  (node.property? key).bind Value.truth?

end Node

end SealedBuild
