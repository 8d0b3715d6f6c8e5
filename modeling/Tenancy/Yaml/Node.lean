import Tenancy.Yaml.Token

/-!
# Documents of YAML

A document is a tree of scalars, sequences and mappings.  A text holds at most one
document here; an alias stands for the node that its anchor names.
-/

namespace Tenancy.Yaml

/-- A scalar with the tag that it is given. -/
structure Scalar where
  style : ScalarStyle
  tag : Option String
  text : String
  deriving Repr, DecidableEq

/-- A node of a document.  The keys of a mapping are nodes too, in the order in
which they are written. -/
inductive Node where
  | scalar (scalar : Scalar)
  | sequence (entries : List Node)
  | mapping (members : List (Node × Node))
  deriving Repr, Inhabited

namespace Node

/-- The node where nothing is written. -/
def missing : Node := .scalar ⟨.plain, none, ""⟩

/-- The nodes that anchors name, the latest first. -/
abbrev Anchors := List (String × Node)

/-- What the handles of tags stand for. -/
abbrev Shorthands := List (String × String)

/-- The shorthands that need not be declared. -/
def commonShorthands : Shorthands := [("!", "!"), ("!!", "tag:yaml.org,2002:")]

/-- The tag that a handle and a suffix make. -/
def tagName? (shorthands : Shorthands) (handle suffix : String) : Option String :=
  if handle = "" then some suffix
  else (shorthands.lookup handle).map (· ++ suffix)

/-- The properties before a node: an anchor and a tag, in any order. -/
structure Properties where
  anchor : Option String
  tag : Option String
  deriving Repr

/-- Read the properties of a node. -/
def properties? (shorthands : Shorthands) : List Token → Option (Properties × List Token)
  | .anchor name :: .tag handle suffix :: rest =>
      (tagName? shorthands handle suffix).map fun tag => (⟨some name, some tag⟩, rest)
  | .tag handle suffix :: .anchor name :: rest =>
      (tagName? shorthands handle suffix).map fun tag => (⟨some name, some tag⟩, rest)
  | .anchor name :: rest => some (⟨some name, none⟩, rest)
  | .tag handle suffix :: rest =>
      (tagName? shorthands handle suffix).map fun tag => (⟨none, some tag⟩, rest)
  | rest => some (⟨none, none⟩, rest)

/-- Name a node by its anchor. -/
def bindAnchor (properties : Properties) (node : Node) (anchors : Anchors) : Anchors :=
  match properties.anchor with
  | some name => (name, node) :: anchors
  | none => anchors

/-- Where a node stands: inside brackets or not, and where not, whether the
entries of a sequence may begin at the column of the key before them. -/
inductive Place where
  | flow
  | block
  | blockValue
  deriving Repr, DecidableEq

/-- Whether a node is left out before a token in a mapping of blocks. -/
def isOmittedInBlock : List Token → Bool
  | .key :: _ => true
  | .value :: _ => true
  | .blockEnd :: _ => true
  | _ => false

/-- Whether an entry is left out before a token in a sequence of blocks. -/
def isOmittedEntry : List Token → Bool
  | .blockEntry :: _ => true
  | .blockEnd :: _ => true
  | _ => false

/-- Whether a node is left out before a token in a collection in brackets that
the given token ends. -/
def isOmittedInFlow (closing : Token) : List Token → Bool
  | .value :: _ => true
  | .flowEntry :: _ => true
  | token :: _ => token == closing
  | [] => false

/-- What is left behind a node: the anchors known there and the tokens. -/
abbrev Rest := Anchors × List Token

mutual

/-- Read a node. -/
def node? (shorthands : Shorthands) :
    Nat → Place → Anchors → List Token → Option (Node × Rest)
  | 0, _, _, _ => none
  | fuel + 1, place, anchors, tokens =>
      match tokens with
      | .alias name :: rest => (anchors.lookup name).map fun node => (node, anchors, rest)
      | _ => do
          let (properties, tokens) ← properties? shorthands tokens
          let (node, anchors, rest) ← content? shorthands fuel place properties anchors tokens
          return (node, bindAnchor properties node anchors, rest)

/-- Read a node behind its properties; a node with properties may be left out. -/
def content? (shorthands : Shorthands) :
    Nat → Place → Properties → Anchors → List Token → Option (Node × Rest)
  | 0, _, _, _, _ => none
  | fuel + 1, place, properties, anchors, tokens =>
      match tokens, place with
      | .blockEntry :: _, .blockValue =>
          (bareEntries? shorthands fuel anchors tokens).map fun (entries, rest) =>
            (.sequence entries, rest)
      | .scalar style text :: rest, _ =>
          some (.scalar ⟨style, properties.tag, text⟩, anchors, rest)
      | .flowSequence :: rest, _ =>
          (flowEntries? shorthands fuel true anchors rest).map fun (entries, rest) =>
            (.sequence entries, rest)
      | .flowMapping :: rest, _ =>
          (flowMembers? shorthands fuel true anchors rest).map fun (members, rest) =>
            (.mapping members, rest)
      | .blockSequence :: rest, .block | .blockSequence :: rest, .blockValue =>
          (blockEntries? shorthands fuel anchors rest).map fun (entries, rest) =>
            (.sequence entries, rest)
      | .blockMapping :: rest, .block | .blockMapping :: rest, .blockValue =>
          (blockMembers? shorthands fuel anchors rest).map fun (members, rest) =>
            (.mapping members, rest)
      | _, _ =>
          if properties.anchor.isSome || properties.tag.isSome then
            some (.scalar ⟨.plain, properties.tag, ""⟩, anchors, tokens)
          else none

/-- Read the entries of a sequence of blocks. -/
def blockEntries? (shorthands : Shorthands) :
    Nat → Anchors → List Token → Option (List Node × Rest)
  | 0, _, _ => none
  | fuel + 1, anchors, tokens =>
      match tokens with
      | .blockEnd :: rest => some ([], anchors, rest)
      | .blockEntry :: rest => do
          let (entry, anchors, rest) ←
            if isOmittedEntry rest then some (missing, anchors, rest)
            else node? shorthands fuel .block anchors rest
          let (entries, rest) ← blockEntries? shorthands fuel anchors rest
          return (entry :: entries, rest)
      | _ => none

/-- Read the entries of a sequence that begin at the column of the key before
them. -/
def bareEntries? (shorthands : Shorthands) :
    Nat → Anchors → List Token → Option (List Node × Rest)
  | 0, _, _ => none
  | fuel + 1, anchors, tokens =>
      match tokens with
      | .blockEntry :: rest => do
          let (entry, anchors, rest) ←
            if isOmittedEntry rest || isOmittedInBlock rest then some (missing, anchors, rest)
            else node? shorthands fuel .block anchors rest
          let (entries, rest) ← bareEntries? shorthands fuel anchors rest
          return (entry :: entries, rest)
      | _ => some ([], anchors, tokens)

/-- Read the members of a mapping of blocks. -/
def blockMembers? (shorthands : Shorthands) :
    Nat → Anchors → List Token → Option (List (Node × Node) × Rest)
  | 0, _, _ => none
  | fuel + 1, anchors, tokens =>
      match tokens with
      | .blockEnd :: rest => some ([], anchors, rest)
      | .key :: rest => do
          let (key, anchors, rest) ←
            if isOmittedInBlock rest then some (missing, anchors, rest)
            else node? shorthands fuel .blockValue anchors rest
          let (value, anchors, rest) ← blockValue? shorthands fuel anchors rest
          let (members, rest) ← blockMembers? shorthands fuel anchors rest
          return ((key, value) :: members, rest)
      | _ => none

/-- Read the value of a member of a mapping of blocks, which may be left out. -/
def blockValue? (shorthands : Shorthands) :
    Nat → Anchors → List Token → Option (Node × Rest)
  | 0, _, _ => none
  | fuel + 1, anchors, tokens =>
      match tokens with
      | .value :: rest =>
          if isOmittedInBlock rest then some (missing, anchors, rest)
          else node? shorthands fuel .blockValue anchors rest
      | _ => some (missing, anchors, tokens)

/-- Read the value of a member in brackets, which may be left out. -/
def flowValue? (shorthands : Shorthands) (closing : Token) :
    Nat → Anchors → List Token → Option (Node × Rest)
  | 0, _, _ => none
  | fuel + 1, anchors, tokens =>
      match tokens with
      | .value :: .value :: _ => none
      | .value :: rest =>
          if isOmittedInFlow closing rest then some (missing, anchors, rest)
          else node? shorthands fuel .flow anchors rest
      | _ => some (missing, anchors, tokens)

/-- Read the key of a member in brackets, which may be left out. -/
def flowKey? (shorthands : Shorthands) (closing : Token) :
    Nat → Anchors → List Token → Option (Node × Rest)
  | 0, _, _ => none
  | fuel + 1, anchors, tokens =>
      if isOmittedInFlow closing tokens then some (missing, anchors, tokens)
      else node? shorthands fuel .flow anchors tokens

/-- Read the entries of a sequence in brackets, of which only the first has no
comma before it.  An entry with a key is a mapping of one member. -/
def flowEntries? (shorthands : Shorthands) :
    Nat → Bool → Anchors → List Token → Option (List Node × Rest)
  | 0, _, _, _ => none
  | fuel + 1, isFirst, anchors, tokens =>
      match tokens, isFirst with
      | .flowSequenceEnd :: rest, _ => some ([], anchors, rest)
      | .flowEntry :: rest, false =>
          match rest with
          | .flowSequenceEnd :: rest => some ([], anchors, rest)
          | _ => flowEntry? shorthands fuel anchors rest
      | _, true => flowEntry? shorthands fuel anchors tokens
      | _, false => none

/-- Read an entry of a sequence in brackets and the ones behind it. -/
def flowEntry? (shorthands : Shorthands) :
    Nat → Anchors → List Token → Option (List Node × Rest)
  | 0, _, _ => none
  | fuel + 1, anchors, tokens => do
      let (entry, anchors, rest) ← match tokens with
        | .key :: rest => do
            let (key, anchors, rest) ←
              flowKey? shorthands .flowSequenceEnd fuel anchors rest
            let (value, anchors, rest) ←
              flowValue? shorthands .flowSequenceEnd fuel anchors rest
            some (.mapping [(key, value)], anchors, rest)
        | tokens => node? shorthands fuel .flow anchors tokens
      let (entries, rest) ← flowEntries? shorthands fuel false anchors rest
      return (entry :: entries, rest)

/-- Read the members of a mapping in brackets, of which only the first has no
comma before it. -/
def flowMembers? (shorthands : Shorthands) :
    Nat → Bool → Anchors → List Token → Option (List (Node × Node) × Rest)
  | 0, _, _, _ => none
  | fuel + 1, isFirst, anchors, tokens =>
      match tokens, isFirst with
      | .flowMappingEnd :: rest, _ => some ([], anchors, rest)
      | .flowEntry :: rest, false =>
          match rest with
          | .flowMappingEnd :: rest => some ([], anchors, rest)
          | _ => flowMember? shorthands fuel anchors rest
      | _, true => flowMember? shorthands fuel anchors tokens
      | _, false => none

/-- Read a member of a mapping in brackets and the ones behind it.  A node that
is no key has no value. -/
def flowMember? (shorthands : Shorthands) :
    Nat → Anchors → List Token → Option (List (Node × Node) × Rest)
  | 0, _, _ => none
  | fuel + 1, anchors, tokens => do
      let (member, anchors, rest) ← match tokens with
        | .key :: rest => do
            let (key, anchors, rest) ← flowKey? shorthands .flowMappingEnd fuel anchors rest
            let (value, anchors, rest) ←
              flowValue? shorthands .flowMappingEnd fuel anchors rest
            some ((key, value), anchors, rest)
        | tokens => do
            let (key, anchors, rest) ← node? shorthands fuel .flow anchors tokens
            some ((key, missing), anchors, rest)
      let (members, rest) ← flowMembers? shorthands fuel false anchors rest
      return (member :: members, rest)

end

/-- The version of YAML that a document may be written in. -/
def isKnownVersion (major minor : Nat) : Bool := major == 1 && (minor == 1 || minor == 2)

/-- Read the directives before a document, and whether there are any.  The
version is given once, and each shorthand is declared once. -/
def directives? : Shorthands → Bool → List Token → Option (Shorthands × List Token)
  | declared, hasVersion, .version major minor :: rest =>
      if hasVersion || !isKnownVersion major minor then none
      else directives? declared true rest
  | declared, hasVersion, .tagShorthand handle name :: rest =>
      if (declared.lookup handle).isSome then none
      else directives? ((handle, name) :: declared) hasVersion rest
  | declared, _, tokens => some (declared ++ commonShorthands, tokens)

/-- Whether a document has no content before a token. -/
def endsDocument : List Token → Bool
  | [] => true
  | .version .. :: _ => true
  | .tagShorthand .. :: _ => true
  | .documentStart :: _ => true
  | .documentEnd :: _ => true
  | _ => false

/-- Read a document up to the end of all tokens; only marks that end a document
may follow it. -/
def lastDocument? (shorthands : Shorthands) (tokens : List Token) : Option Node := do
  let (node, rest) ←
    if endsDocument tokens then some (missing, tokens)
    else
      (node? shorthands (4 * tokens.length + 4) .block [] tokens).map
        fun (node, _, rest) => (node, rest)
  if rest.all (· == .documentEnd) then some node else none

/-- The document that tokens make, if there is one.  Without directives its mark
may be left out. -/
def ofTokens? (tokens : List Token) : Option (Option Node) :=
  match tokens with
  | [] => some none
  | .version .. :: _ | .tagShorthand .. :: _ | .documentStart :: _ => do
      let (shorthands, rest) ← directives? [] false tokens
      match rest with
      | .documentStart :: rest => (lastDocument? shorthands rest).map some
      | _ => none
  | .documentEnd :: _ => none
  | tokens => (lastDocument? commonShorthands tokens).map some

/-- The document in a text, if there is one. -/
def ofText? (text : String) : Option (Option Node) := (Token.ofText? text).bind ofTokens?

end Node

end Tenancy.Yaml
