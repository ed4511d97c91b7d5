import BlockScribe.Json.Printer
import BlockScribe.Project.Target

/-! # Reading projects

How a JSON value becomes a project. Most of the reading is lenient: an entry that does not have
the expected shape is left out, or gets a default. Four things are required, and their absence
stops the reading at the first place where it shows: the list of targets, the name and the stage
flag of each target, and the opcode of each block that is an object. A block that is a bare list
is a loose reporter and is left out.
-/

namespace BlockScribe

/-- The text of a scalar; anything else counts as empty. -/
def scalarText : Json → String
  | .text value => value
  | .number value => value.text
  | .bool value => Json.boolText value
  | _ => ""

/-- The initial value of a variable as a literal: a number stays a number, everything else
becomes a text. -/
def Literal.ofValue (value : Json) : Literal :=
  match value with
  | .number n => ⟨.number, n.text, none⟩
  | .text s => ⟨.text, s, none⟩
  | .bool b => ⟨.text, Json.boolText b, none⟩
  | .null => ⟨.text, "", none⟩
  | other => ⟨.text, other.compact, none⟩

/-- A literal is a list of its code, its value and the id that goes with it. -/
def Literal.ofItems? (items : List Json) : Option Literal :=
  match items.head? with
  | some (.number n) =>
    n.toInt64?.map fun code =>
      ⟨.ofCode code, (items[1]?.map scalarText).getD "", items[2]?.bind Json.text?⟩
  | _ => none

/-- A candidate for an input: a text is a link, a list is a literal. -/
def Input.ofCandidate? : Json → Option Input
  | .text id => some (.block id)
  | .list items => (Literal.ofItems? items).map .literal
  | _ => none

/-- An input is a link, or a list whose first item tells how its slot is filled; the first usable
item behind that one is what stands in the slot. -/
def Input.ofJson? : Json → Option Input
  | .text id => some (.block id)
  | .list items => items.tail.findSome? Input.ofCandidate?
  | _ => none

/-- A field is a text, or a list of its value and the id that goes with it. -/
def Field.ofJson? : Json → Option Field
  | .text value => some ⟨value, none⟩
  | .list (first :: rest) => some ⟨scalarText first, rest.head?.bind Json.text?⟩
  | _ => none

/-- Whether a text spells "true" in any mixture of cases. -/
def spellsTrue (s : String) : Bool := s.toList.map Char.toLower == ['t', 'r', 'u', 'e']

/-- A mutation; its warp flag may be written as a text. -/
def Mutation.ofMembers (members : Dict String Json) : Mutation where
  proccode := (members.get? "proccode").bind Json.text?
  argumentIds := (members.get? "argumentids").bind Json.text?
  argumentNames := (members.get? "argumentnames").bind Json.text?
  warp := match members.get? "warp" with
    | some (.bool b) => b
    | some (.text s) => spellsTrue s
    | _ => false

/-- The table that an optional member holds; anything but an object counts as empty. -/
def tableOf (value : Option Json) : Dict String Json := (value.bind Json.members?).getD .empty

/-- A block is an object with an opcode. -/
def Block.ofJson (id : String) (value : Json) : Except Error Block :=
  match value.members? with
  | none => failWith .blockNotObject
  | some members =>
    match (members.get? "opcode").bind Json.text? with
    | none => failWith .blockWithoutOpcode
    | some opcode => .ok {
        id := id
        opcode := opcode
        next := (members.get? "next").bind Json.text?
        inputs := (tableOf (members.get? "inputs")).filterMap fun _ => Input.ofJson?
        fields := (tableOf (members.get? "fields")).filterMap fun _ => Field.ofJson?
        shadow := ((members.get? "shadow").bind Json.bool?).getD false
        topLevel := ((members.get? "topLevel").bind Json.bool?).getD false
        mutation := ((members.get? "mutation").bind Json.members?).map Mutation.ofMembers }

/-- An entry of a target's table of blocks: a bare list is left out. -/
def Block.ofEntry (target id : String) (value : Json) : Except Error (Option Block) :=
  match value with
  | .list _ => .ok none
  | _ => inContext (.blockOf target id) ((Block.ofJson id value).map some)

/-- The blocks of a target, or the error of the first entry that is not a block. -/
def readBlocks (target : String) (entries : Dict String Json) :
    Except Error (Dict String Block) :=
  match entries.entries.findSome? fun e =>
      match Block.ofEntry target e.1 e.2 with
      | .error error => some error
      | .ok _ => none with
  | some error => .error error
  | none => .ok (entries.filterMap fun id value =>
      match Block.ofEntry target id value with
      | .ok block => block
      | .error _ => none)

/-- A declaration is a list that starts with a name. -/
def declaration? : Json → Option (String × Option Json)
  | .list (.text name :: rest) => some (name, rest.head?)
  | _ => none

/-- A variable's declaration; a missing value counts as zero. -/
def Variable.ofJson? (value : Json) : Option Variable :=
  (declaration? value).map fun d => ⟨d.1, d.2.getD (.number (.whole 0))⟩

/-- A list's declaration; anything but a list of items counts as no items. -/
def ItemList.ofJson? (value : Json) : Option ItemList :=
  (declaration? value).map fun d => ⟨d.1, (d.2.bind Json.list?).getD []⟩

/-- An asset needs an id; its other texts may be missing. -/
def Asset.ofJson? (value : Json) : Option Asset :=
  let text (name : String) : String := ((value.get? name).bind Json.text?).getD ""
  ((value.get? "assetId").bind Json.text?).map fun id =>
    ⟨text "name", id, text "dataFormat", text "md5ext"⟩

/-- The assets of an optional member; anything but a list counts as none. -/
def readAssets (value : Option Json) : List Asset :=
  ((value.bind Json.list?).getD []).filterMap Asset.ofJson?

/-- A target has a name and a stage flag. -/
def Target.ofJson (value : Json) : Except Error Target :=
  match (value.get? "name").bind Json.text? with
  | none => failWith .unnamedTarget
  | some name =>
    match (value.get? "isStage").bind Json.bool? with
    | none => failWith (.unflaggedTarget name)
    | some isStage =>
      (readBlocks name (tableOf (value.get? "blocks"))).map fun blocks => {
        name := name
        isStage := isStage
        blocks := blocks
        vars := (tableOf (value.get? "variables")).filterMap fun _ => Variable.ofJson?
        lists := (tableOf (value.get? "lists")).filterMap fun _ => ItemList.ofJson?
        costumes := readAssets (value.get? "costumes")
        sounds := readAssets (value.get? "sounds") }

/-- A project is an object with a list of targets. -/
def Project.ofJson (value : Json) : Except Error Project :=
  match (value.get? "targets").bind Json.list? with
  | none => failWith .missingTargets
  | some items =>
    (items.mapM Target.ofJson).map fun targets => {
      targets := targets
      extensions := (((value.get? "extensions").bind Json.list?).getD []).filterMap Json.text?
      extensionUrls := (tableOf (value.get? "extensionURLs")).filterMap fun _ => Json.text? }

/-- Reads the text of a project. -/
def Project.parse (text : String) : Except Error Project :=
  match Json.parse text with
  | .error fault => .error ⟨[.projectText], .json fault⟩
  | .ok value => Project.ofJson value

end BlockScribe
