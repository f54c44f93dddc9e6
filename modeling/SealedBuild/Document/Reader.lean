import SealedBuild.Document.Lexical

/-!
# Reading documents

The grammar of nodes: a name, entries that each stand behind a blank, and a block of
children. A slash and a hyphen drop the node, the entry or the block that follows; a dropped
entry may itself have dropped entries before it. Only one block counts, and behind it only
dropped blocks may stand. How deep blocks nest is bounded by the length of the text.
-/

namespace SealedBuild.Document

/-- Reads a type mark, which is dropped. -/
def typeMark : Reader Unit
  | '(' :: rest =>
    match string (skipNodeSpace rest) with
    | some (_, behind) =>
      match skipNodeSpace behind with
      | ')' :: after => some ((), skipNodeSpace after)
      | _ => none
    | none => none
  | _ => none

/-- Reads a value, with or without a type mark. -/
def value : Reader Value := fun cs =>
  let body := match cs with
    | '(' :: _ => (typeMark cs).map Prod.snd
    | _ => some cs
  body.bind fun cs =>
    ((number cs).or (keyword cs)).or ((string cs).map fun (text, rest) => (.text text, rest))

/-- Reads an entry: a property when an equals sign follows a string, and else an argument. -/
def entry : Reader Entry := fun cs =>
  match string cs with
  | some (key, rest) =>
    match skipNodeSpace rest with
    | '=' :: behind =>
      (value (skipNodeSpace behind)).map fun (value, rest) => (.property key value, rest)
    | _ => some (.argument (.text key), rest)
  | none => (value cs).map fun (value, rest) => (.argument value, rest)

/-- What follows a dropped entry. Each slash and hyphen calls for an entry behind it, and
`pending` of them are still without theirs; a blank stands between entries. -/
def droppedEntry? (pending : Nat) (cs : List Char) : Option (List Char) :=
  match cs with
  | '/' :: '-' :: rest => droppedEntry? (pending + 1) (skipLineSpace rest)
  | start =>
    if pending = 0 then none
    else
      match entry start with
      | none => none
      | some (_, behind) =>
        if pending = 1 then some behind
        else if _h : (skipNodeSpace behind).length < behind.length ∧
            behind.length ≤ start.length then
          droppedEntry? (pending - 1) (skipNodeSpace behind)
        else none
termination_by cs.length
decreasing_by
  · have := length_skipLineSpace_le rest
    simp only [List.length_cons]
    omega
  · omega

/-- What may still come in a node. -/
inductive Phase where
  /-- Entries and a block. -/
  | entries
  /-- A block, but no entries: a dropped block was read. -/
  | block
  /-- Dropped blocks: the block has just been read. -/
  | closing
  /-- Dropped blocks, each behind a blank. -/
  | closed
  deriving DecidableEq

namespace Phase

/-- Whether a block may come. -/
def takesBlock (phase : Phase) : Bool :=
  phase == entries || phase == block

/-- Whether a dropped block may come, `spaced` or not from what is before it. -/
def takesDroppedBlock (phase : Phase) (spaced : Bool) : Bool :=
  spaced || phase == closing

/-- What may come behind a dropped block. -/
def behindDropped (phase : Phase) : Phase :=
  if phase.takesBlock then block else closed

end Phase

/-- What was read of a node's entries and block. -/
structure Body where
  /-- The entries, last one first. -/
  entries : List Entry := []
  children : Option (List Node) := none
  phase : Phase := .entries

/-- Reads the entries and the block of a node. `block` reads a block of children from behind
its opening brace. -/
def body (block : Reader (List Node)) (read : Body) (cs : List Char) :
    Option (Body × List Char) :=
  let after := skipNodeSpace cs
  let spaced := after.length < cs.length
  match after with
  | '{' :: rest =>
    if read.phase.takesBlock then
      match block rest with
      | some (children, behind) =>
        if _h : behind.length < cs.length then
          body block { read with children := some children, phase := .closing } behind
        else none
      | none => none
    else some (read, after)
  | '/' :: '-' :: rest =>
    match skipLineSpace rest with
    | '{' :: inner =>
      if read.phase.takesDroppedBlock spaced then
        match block inner with
        | some (_, behind) =>
          if _h : behind.length < cs.length then
            body block { read with phase := read.phase.behindDropped } behind
          else none
        | none => none
      else some (read, after)
    | _ =>
      if read.phase = .entries ∧ spaced then
        match droppedEntry? 0 after with
        | some behind =>
          if _h : behind.length < cs.length then body block read behind else none
        | none => some (read, after)
      else some (read, after)
  | _ =>
    if read.phase = .entries ∧ spaced then
      match entry after with
      | some (item, behind) =>
        if _h : behind.length < cs.length then
          body block { read with entries := item :: read.entries } behind
        else none
      | none => some (read, after)
    else some (read, after)
termination_by cs.length

/-- Reads a node. -/
def node (block : Reader (List Node)) : Reader Node := fun cs =>
  let named := match cs with
    | '(' :: _ => (typeMark cs).bind fun ((), rest) => string rest
    | _ => string cs
  match named with
  | none => none
  | some (name, rest) =>
    (body block {} rest).map fun (read, behind) =>
      (.mk name read.entries.reverse read.children, behind)

/-- Whether a list of nodes ends here. -/
def atListEnd : List Char → Bool
  | [] => true
  | c :: _ => c == '}'

/-- What follows the end of a node: nothing more to read before the end of a list, a line end
or a line comment, and behind a semicolon. -/
def terminated? (cs : List Char) : Option (List Char) :=
  match cs with
  | ';' :: rest => some rest
  | _ =>
    if atListEnd cs || (lineEnd? cs).isSome || (lineComment? cs).isSome then some cs else none

/-- The text behind all that may stand before a node: blanks, line ends, comments and dropped
nodes. A dropped node needs nothing that ends it, and may not have a semicolon behind it. -/
def skipDropped (block : Reader (List Node)) (cs : List Char) : List Char :=
  match skipLineSpace cs with
  | '/' :: '-' :: rest =>
    match node block (skipLineSpace rest) with
    | some (_, behind) =>
      if _h : behind.length < cs.length then skipDropped block behind else '/' :: '-' :: rest
    | none => '/' :: '-' :: rest
  | start => start
termination_by cs.length

/-- Reads nodes up to the end of a list, which is left in the rest: the end of the text or a
closing brace. A node that nothing ends is the last one, though dropped nodes may stand behind
it. `read` holds the nodes that were read, last one first. -/
def nodes (block : Reader (List Node)) (read : List Node) (cs : List Char) :
    Option (List Node × List Char) :=
  let start := skipDropped block cs
  if atListEnd start then some (read.reverse, start)
  else
    match node block start with
    | none => none
    | some (item, rest) =>
      match terminated? rest with
      | none => some ((item :: read).reverse, skipDropped block rest)
      | some behind =>
        if _h : behind.length < cs.length then nodes block (item :: read) behind else none
termination_by cs.length

/-- Reads a block of children from behind its opening brace; blocks inside it nest at most
`depth` deep. -/
def block : Nat → Reader (List Node)
  | 0 => fun _ => none
  | depth + 1 => fun cs =>
    match nodes (block depth) [] cs with
    | some (children, '}' :: rest) => some (children, rest)
    | _ => none

/-- The nodes of a document, or nothing when the text is no document. A byte order mark may
stand at its start. -/
def parse? (text : String) : Option (List Node) :=
  let cs := text.toList
  let cs := match cs with
    | c :: rest => if c.toNat = 0xFEFF then rest else cs
    | [] => []
  match nodes (block (cs.length + 1)) [] cs with
  | some (found, []) => some found
  | _ => none

end SealedBuild.Document
