import Transcript.Yaml.Scanner

/-!
# Flat mappings of YAML

Reads a text that consists of one mapping from scalars to scalars. Anchors and aliases are followed and
tags are resolved. An empty document is the empty mapping. A collection inside the mapping is refused,
since no key or value of a flat mapping can be one.
-/

namespace Transcript.Yaml

/-- A scalar with its style and its tag. -/
structure Scalar where
  text : List Char
  style : Style
  tag : Option (List Char) := none
deriving DecidableEq, Repr

/-- A key or value that is left out. -/
def Scalar.absent : Scalar := ⟨[], .plain, none⟩

/-- What is known in a document: the tag handles, and the scalars with an anchor. -/
structure Context where
  handles : List (List Char × List Char) :=
    [(['!'], ['!']), (['!', '!'], "tag:yaml.org,2002:".toList)]
  anchors : List (List Char × Scalar) := []
deriving Repr

/-- What can stand before a node. -/
structure Properties where
  anchor : Option (List Char) := none
  tag : Option (List Char) := none

/-- The tag of a handle and a suffix. -/
def Context.tag (ctx : Context) (handle suffix : List Char) : Except Refusal (List Char) :=
  if handle.isEmpty then .ok suffix
  else match ctx.handles.lookup handle with
    | some beginning => .ok (beginning ++ suffix)
    | none => .error .unknownTag

/-- The properties before a node: at most one anchor and one tag, in either order. -/
def readProperties (ctx : Context) : List Token → Except Refusal (Properties × List Token)
  | .anchor a :: .tag h s :: r => (ctx.tag h s).map fun t => (⟨some a, some t⟩, r)
  | .tag h s :: .anchor a :: r => (ctx.tag h s).map fun t => (⟨some a, some t⟩, r)
  | .anchor a :: r => .ok (⟨some a, none⟩, r)
  | .tag h s :: r => (ctx.tag h s).map fun t => (⟨none, some t⟩, r)
  | r => .ok ({}, r)

/-- A token that begins a collection. -/
def opensCollection : Token → Bool
  | .blockSequenceStart | .blockMappingStart | .flowSequenceStart | .flowMappingStart
  | .blockEntry => true
  | _ => false

/-- A scalar or an alias, in a place where something has to stand. -/
def readScalar (ctx : Context) (ts : List Token) :
    Except Refusal (Scalar × Context × List Token) :=
  match ts with
  | .alias name :: r =>
    match ctx.anchors.lookup name with
    | some v => .ok (v, ctx, r)
    | none => .error .unknownAnchor
  | ts => do
    let (props, r) ← readProperties ctx ts
    let bare := props.anchor.isNone && props.tag.isNone
    let (v, r) ← match r with
      | .scalar text style :: r => .ok (⟨text, style, props.tag⟩, r)
      | t :: r =>
        if opensCollection t then .error .nested
        else if bare then .error (.unexpected t)
        else .ok ({ Scalar.absent with tag := props.tag }, t :: r)
      | [] => .error .nested
    let ctx := match props.anchor with
      | some a => { ctx with anchors := (a, v) :: ctx.anchors }
      | none => ctx
    return (v, ctx, r)

/-- A scalar in a place where it may be left out: one of the tokens `ends` follows instead. -/
def readOptional (ctx : Context) (ends : List Token) (ts : List Token) :
    Except Refusal (Scalar × Context × List Token) :=
  if ts.head?.any ends.contains then .ok (.absent, ctx, ts) else readScalar ctx ts

/-- The members of a mapping, in order. -/
abbrev Members := List (Scalar × Scalar)

/-- The members of a mapping in a block, last first. -/
def readBlockMembers : Nat → Context → Members → List Token →
    Except Refusal (Members × List Token)
  | 0, _, acc, ts => .ok (acc, ts)
  | fuel + 1, ctx, acc, ts =>
    match ts with
    | .blockEnd :: r => .ok (acc, r)
    | .key :: r => do
      let ends := [.key, .value, .blockEnd]
      let (k, ctx, r) ← readOptional ctx ends r
      let (v, ctx, r) ← match r with
        | .value :: r => readOptional ctx ends r
        | r => .ok (.absent, ctx, r)
      readBlockMembers fuel ctx ((k, v) :: acc) r
    | t :: _ => .error (.unexpected t)
    | [] => .error .noMapping

/-- The members of a mapping in brackets, last first. -/
def readFlowMembers : Nat → Context → Members → List Token →
    Except Refusal (Members × List Token)
  | 0, _, acc, ts => .ok (acc, ts)
  | fuel + 1, ctx, acc, ts =>
    match ts with
    | .flowMappingEnd :: r => .ok (acc, r)
    | ts => do
      let ends := [.flowEntry, .flowMappingEnd]
      let (k, ctx, r) ← match ts with
        | .key :: r => readOptional ctx (.value :: ends) r
        | ts => readScalar ctx ts
      let (v, ctx, r) ← match r with
        | .value :: r => readOptional ctx ends r
        | r => .ok (.absent, ctx, r)
      match r with
      | .flowEntry :: r => readFlowMembers fuel ctx ((k, v) :: acc) r
      | .flowMappingEnd :: r => .ok ((k, v) :: acc, r)
      | t :: _ => throw (.unexpected t)
      | [] => throw .noMapping

/-- The directives before a document; each can be given once, and only two versions are known. -/
def readDirectives (versioned : Bool) (declared : List (List Char × List Char)) :
    List Token → Except Refusal (Bool × List (List Char × List Char) × List Token)
  | .version major minor :: r =>
    if versioned || major ≠ ['1'] || (minor ≠ ['1'] && minor ≠ ['2']) then .error .badDirective
    else readDirectives true declared r
  | .tagDirective handle beginning :: r =>
    if (declared.lookup handle).isSome then .error .badDirective
    else readDirectives versioned ((handle, beginning) :: declared) r
  | r => .ok (versioned || !declared.isEmpty, declared, r)

/-- After the document only markers of its end may follow. -/
def atEnd (ts : List Token) : Bool :=
  match ts.dropWhile (· == .documentEnd) with
  | [] | [.streamEnd] => true
  | _ => false

/-- The members of the mapping that is the content of a document. -/
def readContent (ctx : Context) (explicit : Bool) (ts : List Token) :
    Except Refusal (Members × List Token) :=
  match ts with
  | .streamEnd :: _ => .ok ([], ts)
  | .documentEnd :: _ => if explicit then .ok ([], ts) else .error (.unexpected .documentEnd)
  | .alias _ :: _ => .error .unknownAnchor
  | ts => do
    let (props, r) ← readProperties ctx ts
    match r with
    | .blockMappingStart :: r => readBlockMembers (r.length + 1) ctx [] r
    | .flowMappingStart :: r => readFlowMembers (r.length + 1) ctx [] r
    | .scalar text style :: r =>
      if text.isEmpty && style == .plain then return ([], r) else throw .noMapping
    | r =>
      if props.anchor.isSome || props.tag.isSome then return ([], r) else throw .noMapping

/-- The members of a text that is one flat mapping. -/
def readMapping (s : List Char) : Except Refusal Members := do
  let ts ← tokens s
  let (directed, declared, r) ← readDirectives false [] ts
  let ctx : Context := {}
  let ctx := { ctx with handles := declared ++ ctx.handles }
  let (members, r) ← match r with
    | .documentStart :: r => readContent ctx true r
    | r => if directed then .error .badDirective else readContent ctx false r
  if atEnd r then return members.reverse else throw .severalDocuments

end Transcript.Yaml
