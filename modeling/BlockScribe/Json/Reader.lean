import BlockScribe.Json.Token

/-! # Reading JSON documents

The reader goes through the tokens once and keeps the containers that are still open on a list,
the innermost first, together with what may come next. It needs no recursion into the document,
so a deep document costs no more than a long one; containers may still be nested at most
`maxNesting` deep.

* `parse` reads a document as a value.
* `parseTexts` reads a document as a list of texts. Its first item of another type is reported
  at once, before anything that follows it is looked at.
-/

namespace BlockScribe.Json

/-- The greatest number of containers around a value. -/
def maxNesting : Nat := 127

namespace Reader

/-- A container that is still open. -/
inductive Frame where
  /-- A list with the items read so far, the latest first. -/
  | list (items : List Json)
  /-- An object with the members read so far and the name of the one that is being read. -/
  | object (members : List (String × Json)) (name : String)

/-- What may come next. -/
inductive Expected where
  | value
  | firstItem
  | firstName
  | name
  | colon
  | separator
  | nothing (document : Json)

/-- The state between two tokens. -/
structure State where
  frames : List Frame
  expected : Expected

/-- Before the first token. -/
def start : State := ⟨[], .value⟩

/-- Puts a finished value where it belongs. -/
def settle (value : Json) : List Frame → State
  | [] => ⟨[], .nothing value⟩
  | .list items :: outer => ⟨.list (value :: items) :: outer, .separator⟩
  | .object members name :: outer =>
    ⟨.object (Dict.put name value members) name :: outer, .separator⟩

/-- Takes the first token of a value. -/
def begin (frames : List Frame) : Token → Except Fault State
  | .openList =>
    if frames.length < maxNesting then .ok ⟨.list [] :: frames, .firstItem⟩
    else .error .malformed
  | .openObject =>
    if frames.length < maxNesting then .ok ⟨.object [] "" :: frames, .firstName⟩
    else .error .malformed
  | .text (.ok content) => .ok (settle (.text content) frames)
  | .text (.error fault) => .error fault
  | .scalar (.ok content) => .ok (settle content frames)
  | .scalar (.error fault) => .error fault
  | _ => .error .malformed

/-- Takes the name of a member. -/
def beginMember (frames : List Frame) : Token → Except Fault State
  | .text (.ok name) =>
    match frames with
    | .object members _ :: outer => .ok ⟨.object members name :: outer, .colon⟩
    | _ => .error .malformed
  | .text (.error fault) => .error fault
  | _ => .error .malformed

/-- Closes the innermost container. -/
def close (frames : List Frame) : Token → Except Fault State
  | .closeList =>
    match frames with
    | .list items :: outer => .ok (settle (.list items.reverse) outer)
    | _ => .error .malformed
  | .closeObject =>
    match frames with
    | .object members _ :: outer => .ok (settle (.object members) outer)
    | _ => .error .malformed
  | _ => .error .malformed

/-- Takes one token. -/
def step (state : State) (token : Token) : Except Fault State :=
  match state.expected with
  | .value => begin state.frames token
  | .firstItem =>
    match token with
    | .closeList => close state.frames token
    | _ => begin state.frames token
  | .firstName =>
    match token with
    | .closeObject => close state.frames token
    | _ => beginMember state.frames token
  | .name => beginMember state.frames token
  | .colon =>
    match token with
    | .colon => .ok ⟨state.frames, .value⟩
    | _ => .error .malformed
  | .separator =>
    match token, state.frames with
    | .comma, .list _ :: _ => .ok ⟨state.frames, .value⟩
    | .comma, .object _ _ :: _ => .ok ⟨state.frames, .name⟩
    | _, _ => close state.frames token
  | .nothing _ => .error .malformed

/-- The value of a finished document. -/
def finish (state : State) : Except Fault Json :=
  match state.expected with
  | .nothing document => .ok document
  | _ => .error .truncated

/-- Reads the items of a list of texts; `done` holds those read so far, the latest first, and
`first` says whether the list may end here. -/
def textItems (done : List String) (first : Bool) : List Token → Except Fault (List String)
  | [] => .error .truncated
  | .closeList :: rest =>
    if first ∧ rest.isEmpty then .ok done.reverse else .error .malformed
  | .text (.ok content) :: .comma :: rest => textItems (content :: done) false rest
  | .text (.ok content) :: .closeList :: rest =>
    if rest.isEmpty then .ok (content :: done).reverse else .error .malformed
  | .text (.ok _) :: [] => .error .truncated
  | .text (.ok _) :: _ => .error .malformed
  | .text (.error fault) :: _ => .error fault
  | .scalar (.error fault) :: _ => .error fault
  | .scalar (.ok _) :: _ => .error .mistyped
  | .openList :: _ => .error .mistyped
  | .openObject :: _ => .error .mistyped
  | _ => .error .malformed

/-- Reads a list of texts. -/
def texts : List Token → Except Fault (List String)
  | [] => .error .truncated
  | .openList :: rest => textItems [] true rest
  | .text (.error fault) :: _ => .error fault
  | .scalar (.error fault) :: _ => .error fault
  | .text (.ok _) :: _ => .error .mistyped
  | .scalar (.ok _) :: _ => .error .mistyped
  | .openObject :: _ => .error .mistyped
  | _ => .error .malformed

end Reader

/-- Reads a document as a value. -/
def parse (document : String) : Except Fault Json :=
  (tokens document).foldlM Reader.step Reader.start >>= Reader.finish

/-- Reads a document as a list of texts. -/
def parseTexts (document : String) : Except Fault (List String) := Reader.texts (tokens document)

end BlockScribe.Json
