import StalestFirst.Yaml.Node
import StalestFirst.Yaml.Token

namespace StalestFirst.Yaml

/-! ## From tokens to a document

Every reader takes the tokens that are left and the anchors that are known. The
recursion counts down a number that is greater than any reading needs. -/

/-- The tokens that are left with the places where they start, the flaw behind the
last of them, what handles stand for, the numbers of the named anchors, how many
anchors there have been, and the parts that have them. -/
structure Progress where
  tokens : List Token
  places : List Place
  flaw : Flaw
  handles : List (List Char × List Char)
  names : List (List Char × Nat)
  count : Nat
  anchored : List Anchored

/-- What has been read, how far, and the flaw that has ended the reading, if one
has. -/
structure Reading (α : Type) where
  value : α
  progress : Progress
  flaw : Option Flaw

/-- Reads on, or else gives what a part that ends the reading makes of the
whole. -/
def Reading.andThen {α β : Type} (reading : Reading α) (broken : α → β)
    (next : α → Progress → Reading β) : Reading β :=
  match reading.flaw with
  | none => next reading.value reading.progress
  | some flaw => ⟨broken reading.value, reading.progress, some flaw⟩

def Reading.map {α β : Type} (reading : Reading α) (change : α → β) : Reading β :=
  ⟨change reading.value, reading.progress, reading.flaw⟩

namespace Progress

def place (progress : Progress) : Place := progress.places.headD .origin

def advance (progress : Progress) : Progress :=
  { progress with
    tokens := progress.tokens.drop 1
    places := progress.places.drop 1 }

def done {α : Type} (progress : Progress) (value : α) : Reading α :=
  ⟨value, progress, none⟩

def stop {α : Type} (progress : Progress) (value : α) (flaw : Flaw) : Reading α :=
  ⟨value, progress, some flaw⟩

/-- A reading that ends here because the tokens do. -/
def breakOff {α : Type} (progress : Progress) (value : α) : Reading α :=
  progress.stop value progress.flaw

/-- A reading of something begun at a place that the next token ends. -/
def refuse {α : Type} (progress : Progress) (value : α) (activity : Activity)
    (start : Place) (problem : Problem) : Reading α :=
  progress.stop value (.during ⟨activity, start⟩ problem progress.place)

/-- The progress with an anchor named. A name that is used again gets a new number,
the count of names before it. -/
def name (progress : Progress) (name : List Char) : Progress :=
  let number := progress.names.length
  { progress with
    names := (name, number) :: progress.names.filter fun entry =>
      entry.1 != name
    count := progress.count + 1 }

def number? (progress : Progress) (name : List Char) : Option Nat :=
  (progress.names.find? fun entry => entry.1 == name).map Prod.snd

def tag? (progress : Progress) (mark : TagMark) : Option String :=
  if mark.handle.isEmpty then some (String.ofList mark.suffix)
  else
    (progress.handles.find? fun entry => entry.1 == mark.handle).map
      fun entry => String.ofList (entry.2 ++ mark.suffix)

/-- A part that is not written before the next token. -/
def absent (progress : Progress) : Node := .absent progress.place

end Progress

/-- The anchor and the tag before a part, with the place of the tag. -/
structure Properties where
  anchor : Option (List Char)
  tag : Option (TagMark × Place)

/-- Reads the anchor and the tag before a part, in either order. -/
def readProperties (progress : Progress) : Properties × Progress :=
  match progress.tokens with
  | .anchor name :: .tag mark :: _ =>
      (⟨some name, some (mark, progress.advance.place)⟩, progress.advance.advance)
  | .tag mark :: .anchor name :: _ =>
      (⟨some name, some (mark, progress.place)⟩, progress.advance.advance)
  | .anchor name :: _ => (⟨some name, none⟩, progress.advance)
  | .tag mark :: _ => (⟨none, some (mark, progress.place)⟩, progress.advance)
  | _ => (⟨none, none⟩, progress)

/-- Items, of which the last comes first, before a missing one. -/
def brokenItems (items : List Node) : List Node := (.missing :: items).reverse

def brokenEntries (entries : List (Node × Node)) : List (Node × Node) :=
  ((.missing, .missing) :: entries).reverse

mutual

/-- Reads a part. Blocks may stand where `block` holds, and sequences without an
indentation of their own where `indentless` holds. -/
def readNode : Nat → (block indentless : Bool) → Progress → Reading Node
  | 0, _, _, progress => progress.breakOff .missing
  | fuel + 1, block, indentless, progress =>
      match progress.tokens with
      | .alias name :: _ =>
          match progress.number? name with
          | some number =>
              progress.advance.done (.alias progress.place number)
          | none => progress.stop .missing (.plain .unknownAnchor progress.place)
      | _ =>
          let place := progress.place
          let (properties, behind) := readProperties progress
          let tag := properties.tag.map fun (mark, _) => behind.tag? mark
          if behind.tokens.isEmpty then behind.breakOff .missing
          else
            match tag, properties.tag with
            | some none, some (_, tagPlace) =>
                behind.stop .missing
                  (.during ⟨.node, place⟩ .unknownHandle tagPlace)
            | _, _ =>
                let named := match properties.anchor with
                  | none => behind
                  | some name => behind.name name
                let content := readContent fuel block indentless
                  (properties.anchor.isSome || properties.tag.isSome) place
                  (tag.bind id) named
                match properties.anchor with
                | none => content
                | some name =>
                    let anchored : Anchored :=
                      ⟨(named.number? name).getD 0, behind.count, content.value⟩
                    { content with
                      progress := { content.progress with
                        anchored := anchored :: content.progress.anchored } }

/-- Reads a part that starts at a place, behind its anchor and its tag. -/
def readContent : Nat → (block indentless marked : Bool) → Place →
    Option String → Progress → Reading Node
  | 0, _, _, _, _, _, progress => progress.breakOff .missing
  | fuel + 1, block, indentless, marked, place, tag, progress =>
      let behind := progress.advance
      let otherwise : Reading Node :=
        if marked then progress.done (.scalar place tag .plain "")
        else
          progress.refuse .missing (if block then .blockNode else .flowNode) place
            .noContent
      match progress.tokens with
      | .scalar style text :: _ =>
          behind.done (.scalar place tag style (String.ofList text))
      | .flowSequenceStart :: _ =>
          (readFlowItems fuel true progress.place [] behind).map (.sequence place)
      | .flowMappingStart :: _ =>
          (readFlowEntries fuel true progress.place [] behind).map (.mapping place)
      | .blockEntry :: _ =>
          if indentless then
            (readItems fuel true progress.place [] progress).map (.sequence place)
          else otherwise
      | .blockSequenceStart :: _ =>
          if block then
            (readItems fuel false progress.place [] behind).map (.sequence place)
          else otherwise
      | .blockMappingStart :: _ =>
          if block then
            (readEntries fuel progress.place [] behind).map (.mapping place)
          else otherwise
      | _ => otherwise

/-- Reads the items of a block sequence that starts at a place. The last one comes
first in `items`. Without an indentation of its own the sequence ends before the
next other token. -/
def readItems : Nat → (indentless : Bool) → Place → List Node → Progress →
    Reading (List Node)
  | 0, _, _, items, progress => progress.breakOff (brokenItems items)
  | fuel + 1, indentless, start, items, progress =>
      match progress.tokens with
      | [] => progress.breakOff (brokenItems items)
      | .blockEntry :: rest =>
          let behind := progress.advance
          let isAbsent := match rest with
            | .blockEntry :: _ => true
            | .blockEnd :: _ => true
            | .key :: _ => indentless
            | .value :: _ => indentless
            | _ => false
          if isAbsent then
            readItems fuel indentless start
              (.absent progress.place.next :: items) behind
          else
            (readNode fuel true false behind).andThen
              (fun item => brokenItems (item :: items))
              fun item behind =>
                readItems fuel indentless start (item :: items) behind
      | .blockEnd :: _ =>
          if indentless then progress.done items.reverse
          else progress.advance.done items.reverse
      | _ =>
          if indentless then progress.done items.reverse
          else
            progress.refuse (brokenItems items) .blockSequence start .noItem

/-- Reads a key or a value of a block mapping with its mark. -/
def readBlockPart : Nat → Progress → Reading Node
  | 0, progress => progress.breakOff .missing
  | fuel + 1, progress =>
      let behind := progress.advance
      match behind.tokens with
      | [] => behind.breakOff .missing
      | .key :: _ | .value :: _ | .blockEnd :: _ =>
          behind.done (.absent progress.place.next)
      | _ => readNode fuel true true behind

/-- Reads the entries of a block mapping that starts at a place. The last one comes
first in `entries`. -/
def readEntries : Nat → Place → List (Node × Node) → Progress →
    Reading (List (Node × Node))
  | 0, _, entries, progress => progress.breakOff (brokenEntries entries)
  | fuel + 1, start, entries, progress =>
      match progress.tokens with
      | [] => progress.breakOff (brokenEntries entries)
      | .key :: _ =>
          (readBlockPart fuel progress).andThen
            (fun key => brokenEntries ((key, .missing) :: entries))
            fun key behind =>
              match behind.tokens with
              | [] => behind.breakOff (brokenEntries ((key, .missing) :: entries))
              | .value :: _ =>
                  (readBlockPart fuel behind).andThen
                    (fun value => brokenEntries ((key, value) :: entries))
                    fun value behind =>
                      readEntries fuel start ((key, value) :: entries) behind
              | _ =>
                  readEntries fuel start ((key, behind.absent) :: entries) behind
      | .blockEnd :: _ => progress.advance.done entries.reverse
      | _ => progress.refuse (brokenEntries entries) .blockMapping start .noKey

/-- Reads the items of a sequence in brackets that starts at a place. The last one
comes first in `items`. -/
def readFlowItems : Nat → (first : Bool) → Place → List Node → Progress →
    Reading (List Node)
  | 0, _, _, items, progress => progress.breakOff (brokenItems items)
  | fuel + 1, first, start, items, progress =>
      match progress.tokens with
      | [] => progress.breakOff (brokenItems items)
      | .flowSequenceEnd :: _ => progress.advance.done items.reverse
      | .flowEntry :: _ =>
          if first then readFlowItem fuel start items progress
          else readFlowItem fuel start items progress.advance
      | _ =>
          if first then readFlowItem fuel start items progress
          else
            progress.refuse (brokenItems items) .flowSequence start .openSequence

/-- Reads an item of a sequence in brackets, if there is one, and the items after
it. An item with the mark of a key is a mapping with one entry. -/
def readFlowItem : Nat → Place → List Node → Progress → Reading (List Node)
  | 0, _, items, progress => progress.breakOff (brokenItems items)
  | fuel + 1, start, items, progress =>
      match progress.tokens with
      | [] => progress.breakOff (brokenItems items)
      | .flowSequenceEnd :: _ => progress.advance.done items.reverse
      | .key :: _ =>
          let pairOf (entry : Node × Node) : Node :=
            .mapping progress.place [entry]
          (readFlowPair fuel progress.advance).andThen
            (fun entry => brokenItems (pairOf entry :: items))
            fun entry behind =>
              readFlowItems fuel false start (pairOf entry :: items) behind
      | _ =>
          (readNode fuel false false progress).andThen
            (fun item => brokenItems (item :: items))
            fun item behind => readFlowItems fuel false start (item :: items) behind

/-- Reads the entry of a sequence in brackets behind its mark. If the key is not
written, the token after the mark is passed over with it. -/
def readFlowPair : Nat → Progress → Reading (Node × Node)
  | 0, progress => progress.breakOff (.missing, .missing)
  | fuel + 1, progress =>
      let key : Reading Node := match progress.tokens with
        | .value :: _ | .flowEntry :: _ | .flowSequenceEnd :: _ =>
            progress.advance.done (.absent progress.place.next)
        | _ => readNode fuel false false progress
      key.andThen (fun key => (key, .missing)) fun key behind =>
        match behind.tokens with
        | [] => behind.breakOff (key, .missing)
        | .value :: rest =>
            match rest with
            | [] => behind.advance.breakOff (key, .missing)
            | .flowEntry :: _ | .flowSequenceEnd :: _ =>
                behind.advance.done (key, behind.advance.absent)
            | _ => (readNode fuel false false behind.advance).map (key, ·)
        | _ => behind.done (key, behind.absent)

def readFlowEntries : Nat → (first : Bool) → Place → List (Node × Node) →
    Progress → Reading (List (Node × Node))
  | 0, _, _, entries, progress => progress.breakOff (brokenEntries entries)
  | fuel + 1, first, start, entries, progress =>
      match progress.tokens with
      | [] => progress.breakOff (brokenEntries entries)
      | .flowMappingEnd :: _ => progress.advance.done entries.reverse
      | .flowEntry :: _ =>
          if first then readFlowEntry fuel start entries progress
          else readFlowEntry fuel start entries progress.advance
      | _ =>
          if first then readFlowEntry fuel start entries progress
          else
            progress.refuse (brokenEntries entries) .flowMapping start .openMapping

/-- Reads an entry of a mapping in brackets, if there is one, and the entries after
it. A key without a mark has no value. -/
def readFlowEntry : Nat → Place → List (Node × Node) → Progress →
    Reading (List (Node × Node))
  | 0, _, entries, progress => progress.breakOff (brokenEntries entries)
  | fuel + 1, start, entries, progress =>
      match progress.tokens with
      | [] => progress.breakOff (brokenEntries entries)
      | .flowMappingEnd :: _ => progress.advance.done entries.reverse
      | .key :: rest =>
          let behind := progress.advance
          let key : Reading Node := match rest with
            | [] => behind.breakOff .missing
            | .value :: _ | .flowEntry :: _ | .flowMappingEnd :: _ =>
                behind.done behind.absent
            | _ => readNode fuel false false behind
          key.andThen (fun key => brokenEntries ((key, .missing) :: entries))
            fun key behind =>
              (readFlowValue fuel behind).andThen
                (fun value => brokenEntries ((key, value) :: entries))
                fun value behind =>
                  readFlowEntries fuel false start ((key, value) :: entries) behind
      | _ =>
          (readNode fuel false false progress).andThen
            (fun key => brokenEntries ((key, .missing) :: entries))
            fun key behind =>
              if behind.tokens.isEmpty then
                behind.breakOff (brokenEntries ((key, .missing) :: entries))
              else
                readFlowEntries fuel false start ((key, behind.absent) :: entries)
                  behind

def readFlowValue : Nat → Progress → Reading Node
  | 0, progress => progress.breakOff .missing
  | fuel + 1, progress =>
      match progress.tokens with
      | [] => progress.breakOff .missing
      | .value :: rest =>
          let behind := progress.advance
          match rest with
          | [] => behind.breakOff .missing
          | .flowEntry :: _ | .flowMappingEnd :: _ => behind.done behind.absent
          | _ => readNode fuel false false behind
      | _ => progress.done progress.absent

end

/-! ## The first document of a stream -/

/-- What directives before a document say. -/
structure Prologue where
  version : Bool
  handles : List (List Char × List Char)

def Prologue.isEmpty (prologue : Prologue) : Bool :=
  !prologue.version && prologue.handles.isEmpty

/-- Reads directives. Only versions 1.1 and 1.2 are known, and nothing may be said
twice. -/
def readDirectives : Prologue → List PlacedToken →
    Except Flaw (Prologue × List PlacedToken)
  | prologue, ⟨.directive (.version major minor), place⟩ :: rest =>
      if prologue.version then .error (.plain .secondVersion place)
      else if major != 1 || (minor != 1 && minor != 2) then
        .error (.plain .foreignVersion place)
      else readDirectives { prologue with version := true } rest
  | prologue, ⟨.directive (.tag handle start), place⟩ :: rest =>
      if prologue.handles.any fun entry => entry.1 == handle then
        .error (.plain .secondHandle place)
      else
        readDirectives
          { prologue with handles := (handle, start) :: prologue.handles } rest
  | prologue, tokens => .ok (prologue, tokens)

/-- What the handles stand for that no directive names. -/
def standardHandles : List (List Char × List Char) :=
  [(['!'], ['!']), (['!', '!'], "tag:yaml.org,2002:".toList)]

/-- Whether a document without content ends before these tokens. -/
def endsDocument : List Token → Bool
  | .streamEnd :: _ | .directive _ :: _ | .documentStart :: _ | .documentEnd :: _ =>
      true
  | _ => false

/-- How a document ends before these tokens, of which more may be wanted. -/
def Ending.before (flaw : Flaw) (tokens : List Token) : Ending :=
  let rest := tokens.dropWhile fun token =>
    match token with
    | .documentEnd => true
    | _ => false
  match tokens, rest with
  | [], _ => .broken flaw
  | _, .streamEnd :: _ => .alone
  | _, _ => .followed

/-- Reads a document behind its start, given the flaw behind its tokens. -/
def readRoot (explicit : Bool) (flaw : Flaw)
    (handles : List (List Char × List Char)) (placed : List PlacedToken) :
    Document :=
  let progress : Progress := {
    tokens := placed.map PlacedToken.token
    places := placed.map PlacedToken.place
    flaw
    handles := handles ++ standardHandles
    names := []
    count := 0
    anchored := [] }
  let root :=
    if explicit && endsDocument progress.tokens then progress.done progress.absent
    else readNode (8 * placed.length + 8) true false progress
  let ending := match root.flaw with
    | some flaw => .broken flaw
    | none => .before flaw root.progress.tokens
  ⟨root.value, root.progress.anchored, ending⟩

namespace Document

/-- The first document of a row of tokens. Without tokens it is empty. -/
def ofTokens (row : TokenRow) : Document :=
  let flaw := row.flaw.getD (.plain .endOfStream .origin)
  match readDirectives ⟨false, []⟩ row.tokens with
  | .error flaw => .broken flaw
  | .ok (prologue, rest) =>
      match rest with
      | [] => .broken flaw
      | ⟨.documentStart, _⟩ :: rest => readRoot true flaw prologue.handles rest
      | ⟨token, place⟩ :: _ =>
          match prologue.isEmpty, token with
          | false, _ => .broken (.plain .noDocumentStart place)
          | true, .streamEnd => .empty
          | true, _ => readRoot false flaw [] rest

def ofText (text : String) : Document := ofTokens (.ofText text.toList)

end Document

end StalestFirst.Yaml
