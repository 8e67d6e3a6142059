import KubeInventory.Yaml.Token

/-! The structure of a YAML document: scalars with the way they were written, lists and mappings,
with aliases replaced by what they stand for. -/

namespace KubeInventory.Yaml

inductive Node where
  | scalar (tag : Option String) (style : Style) (text : String)
  | list (tag : Option String) (items : List Node)
  | mapping (tag : Option String) (entries : List (Node × Node))
  /-- A stream without a document. -/
  | nothing
  /-- An alias inside what it stands for. -/
  | endless
  deriving BEq, Repr, Inhabited

namespace Node

/-- What is known while a document is read: the nodes with anchors, latest first, and the handles of
tags. -/
structure Context where
  anchors : List (String × Node)
  handles : List (String × String)

def Context.bind (ctx : Context) (name : Option String) (n : Node) : Context :=
  match name with
  | some name => { ctx with anchors := (name, n) :: ctx.anchors }
  | none => ctx

/-- The full tag that a handle and suffix write; the tag of just an exclamation mark says nothing.
-/
def Context.resolve? (ctx : Context) : Option (String × String) → Option (Option String)
  | none => some none
  | some ("", suffix) => some (some suffix)
  | some (handle, suffix) => (ctx.handles.lookup handle).map fun start => some (start ++ suffix)

def empty : Node := .scalar none .plain ""

/-- The anchor and the tag in front of a node, in either order. -/
def properties : List Token → Option String × Option (String × String) × List Token
  | .anchor name :: .tag handle suffix :: rest => (some name, some (handle, suffix), rest)
  | .tag handle suffix :: .anchor name :: rest => (some name, some (handle, suffix), rest)
  | .anchor name :: rest => (some name, none, rest)
  | .tag handle suffix :: rest => (none, some (handle, suffix), rest)
  | rest => (none, none, rest)

/-- The node for a scalar; a tag of just an exclamation mark says nothing of it. -/
def ofScalar (tag : Option String) (style : Style) (text : String) : Node :=
  match tag with
  | some "!" => .scalar none style text
  | tag => .scalar tag style text

/-- Whether a token ends an entry of a block without content. -/
def endsEntry : Token → Bool
  | .key | .value | .blockEnd => true
  | _ => false

def endsItem : Token → Bool
  | .entry | .blockEnd => true
  | _ => false

def endsFlushItem (t : Token) : Bool := t == .entry || endsEntry t

def endsFlowEntry : Token → Bool
  | .comma | .closeMapping => true
  | _ => false

def endsFlowItem : Token → Bool
  | .comma | .closeSequence => true
  | _ => false

/-- A node with the context after it and the tokens left. -/
abbrev Reading (α : Type) := α × Context × List Token

mutual

/-- Reads a node. `block` says whether it may be a block structure, `flush` whether it may be a list
on the column of the key that holds it. `fuel` bounds the tokens still to be read. -/
def node? (block flush : Bool) : Nat → Context → List Token → Option (Reading Node)
  | 0, _, _ => none
  | fuel + 1, ctx, ts =>
    match ts with
    | .alias name :: rest => do return (← ctx.anchors.lookup name, ctx, rest)
    | ts => do
      let (anchor, tag, ts) := properties ts
      let tag ← ctx.resolve? tag
      let close (read : Option (Reading (List Node))) : Option (Reading Node) := do
        let (items, ctx, ts) ← read
        let n := Node.list tag items
        return (n, ctx.bind anchor n, ts)
      let closeMapping (read : Option (Reading (List (Node × Node)))) : Option (Reading Node) := do
        let (entries, ctx, ts) ← read
        let n := Node.mapping tag entries
        return (n, ctx.bind anchor n, ts)
      let inner := ctx.bind anchor .endless
      match ts with
      | .scalar text style :: rest =>
        let n := ofScalar tag style text
        return (n, ctx.bind anchor n, rest)
      | .openSequence :: rest => close (flowItems? true fuel inner rest)
      | .openMapping :: rest => closeMapping (flowEntries? true fuel inner rest)
      | .entry :: _ =>
        if flush then close (flushItems? fuel inner ts)
        else if anchor.isSome || tag.isSome then
          let n := ofScalar tag .plain ""
          return (n, ctx.bind anchor n, ts)
        else none
      | _ =>
        match block, ts with
        | true, .blockSequence :: rest => close (blockItems? fuel inner rest)
        | true, .blockMapping :: rest => closeMapping (blockEntries? fuel inner rest)
        | _, _ =>
          if anchor.isSome || tag.isSome then
            let n := ofScalar tag .plain ""
            return (n, ctx.bind anchor n, ts)
          else none

/-- Reads a node, or nothing before a token that ends its place. -/
def nodeUnless? (ends : Token → Bool) (block flush : Bool) :
    Nat → Context → List Token → Option (Reading Node)
  | 0, _, _ => none
  | fuel + 1, ctx, ts =>
    match ts with
    | t :: _ => if ends t then some (empty, ctx, ts) else node? block flush fuel ctx ts
    | [] => none

def blockItems? : Nat → Context → List Token → Option (Reading (List Node))
  | 0, _, _ => none
  | fuel + 1, ctx, ts =>
    match ts with
    | .entry :: rest => do
      let (n, ctx, rest) ← nodeUnless? endsItem true false fuel ctx rest
      let (more, ctx, rest) ← blockItems? fuel ctx rest
      return (n :: more, ctx, rest)
    | .blockEnd :: rest => some ([], ctx, rest)
    | _ => none

def flushItems? : Nat → Context → List Token → Option (Reading (List Node))
  | 0, _, _ => none
  | fuel + 1, ctx, ts =>
    match ts with
    | .entry :: rest => do
      let (n, ctx, rest) ← nodeUnless? endsFlushItem true false fuel ctx rest
      let (more, ctx, rest) ← flushItems? fuel ctx rest
      return (n :: more, ctx, rest)
    | ts => some ([], ctx, ts)

def blockEntries? : Nat → Context → List Token → Option (Reading (List (Node × Node)))
  | 0, _, _ => none
  | fuel + 1, ctx, ts =>
    match ts with
    | .key :: rest => do
      let (key, ctx, rest) ← nodeUnless? endsEntry true true fuel ctx rest
      let (value, ctx, rest) ← match rest with
        | .value :: rest => nodeUnless? endsEntry true true fuel ctx rest
        | rest => some (empty, ctx, rest)
      let (more, ctx, rest) ← blockEntries? fuel ctx rest
      return ((key, value) :: more, ctx, rest)
    | .blockEnd :: rest => some ([], ctx, rest)
    | _ => none

/-- Reads the items of a list in brackets; one of them may be a single entry of a mapping. -/
def flowItems? (isFirst : Bool) : Nat → Context → List Token → Option (Reading (List Node))
  | 0, _, _ => none
  | fuel + 1, ctx, ts =>
    match isFirst, ts with
    | _, .closeSequence :: rest => some ([], ctx, rest)
    | false, .comma :: .closeSequence :: rest => some ([], ctx, rest)
    | false, .comma :: rest => flowItem? fuel ctx rest
    | false, _ => none
    | true, ts => flowItem? fuel ctx ts

def flowItem? : Nat → Context → List Token → Option (Reading (List Node))
  | 0, _, _ => none
  | fuel + 1, ctx, ts =>
    match ts with
    | .key :: rest => do
      let endsKey (t : Token) : Bool := t == .value || endsFlowItem t
      let (key, ctx, rest) ← nodeUnless? endsKey false false fuel ctx rest
      let (value, ctx, rest) ← match rest with
        | .value :: rest => nodeUnless? endsFlowItem false false fuel ctx rest
        | rest => some (empty, ctx, rest)
      let (more, ctx, rest) ← flowItems? false fuel ctx rest
      return (.mapping none [(key, value)] :: more, ctx, rest)
    | ts => do
      let (n, ctx, rest) ← node? false false fuel ctx ts
      let (more, ctx, rest) ← flowItems? false fuel ctx rest
      return (n :: more, ctx, rest)

def flowEntries? (isFirst : Bool) :
    Nat → Context → List Token → Option (Reading (List (Node × Node)))
  | 0, _, _ => none
  | fuel + 1, ctx, ts =>
    match isFirst, ts with
    | _, .closeMapping :: rest => some ([], ctx, rest)
    | false, .comma :: .closeMapping :: rest => some ([], ctx, rest)
    | false, .comma :: rest => flowEntry? fuel ctx rest
    | false, _ => none
    | true, ts => flowEntry? fuel ctx ts

def flowEntry? : Nat → Context → List Token → Option (Reading (List (Node × Node)))
  | 0, _, _ => none
  | fuel + 1, ctx, ts => do
    let endsKey (t : Token) : Bool := t == .value || endsFlowEntry t
    let (key, ctx, rest) ← match ts with
      | .key :: rest => nodeUnless? endsKey false false fuel ctx rest
      | ts => node? false false fuel ctx ts
    let (value, ctx, rest) ← match ts, rest with
      | .key :: _, .value :: rest => nodeUnless? endsFlowEntry false false fuel ctx rest
      | _, rest => some (empty, ctx, rest)
    let (more, ctx, rest) ← flowEntries? false fuel ctx rest
    return ((key, value) :: more, ctx, rest)

end

/-- The handles that need no directive. -/
def usualHandles : List (String × String) := [("!", "!"), ("!!", "tag:yaml.org,2002:")]

/-- Reads the directives before a document: at most one version, which must be known, and no handle
twice. -/
def directives? (version : Bool) (handles : List (String × String)) :
    List Token → Option (Bool × List (String × String) × List Token)
  | .versionDirective major minor :: rest =>
    if version || major != 1 || !(minor == 1 || minor == 2) then none
    else directives? true handles rest
  | .tagDirective handle start :: rest =>
    if (handles.lookup handle).isSome then none
    else directives? version ((handle, start) :: handles) rest
  | rest => some (version, handles, rest)

/-- Whether a token stands between documents. -/
def isBetweenDocuments : Token → Bool
  | .versionDirective _ _ | .tagDirective _ _ | .documentStart | .documentEnd => true
  | _ => false

/-- Reads the node of a document. -/
def document? (handles : List (String × String)) (ts : List Token) : Option (Node × List Token) :=
  (node? true false (4 * ts.length + 4) ⟨[], handles⟩ ts).map fun (n, _, rest) => (n, rest)

/-- Reads what follows the mark of a document's start, which may be nothing. -/
def content? (handles : List (String × String)) (ts : List Token) : Option (Node × List Token) :=
  match ts with
  | [] => some (empty, [])
  | t :: _ => if isBetweenDocuments t then some (empty, ts) else document? handles ts

/-- Reads a text of at most one document. -/
def read (text : String) : Option Node := do
  let ts ← tokens? text
  let isMark (t : Token) : Bool := t == .documentEnd
  match ts with
  | [] => return .nothing
  | first :: _ =>
    let explicit := isBetweenDocuments first && first != .documentEnd
    let (version, handles, rest) ← directives? false [] ts
    guard (explicit || (!version && handles.isEmpty))
    let rest ← if explicit then
        match rest with
        | .documentStart :: rest => some rest
        | _ => none
      else some rest
    let all := handles ++ usualHandles.filter fun h => (handles.lookup h.1).isNone
    let (n, rest) ← if explicit then content? all rest else document? all rest
    guard (rest.dropWhile isMark).isEmpty
    return n

end Node

end KubeInventory.Yaml
