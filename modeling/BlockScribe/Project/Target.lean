import BlockScribe.Project.Block

/-! # Targets and projects

A project is a list of targets, the stage and the sprites, with the extensions that it uses. A
target has its blocks, the variables and lists that it declares, and the assets that it wears or
plays.
-/

namespace BlockScribe

/-- A variable and its initial value. -/
structure Variable where
  name : String
  value : Json

/-- A list variable and its initial items. -/
structure ItemList where
  name : String
  items : List Json

/-- A costume or a sound. -/
structure Asset where
  name : String
  assetId : String
  dataFormat : String
  md5ext : String
deriving DecidableEq, Repr

/-- The file that holds the payload of an asset. -/
def Asset.fileName (asset : Asset) : String :=
  if asset.md5ext.isEmpty then asset.assetId ++ "." ++ asset.dataFormat else asset.md5ext

/-- The stage or a sprite. -/
structure Target where
  name : String
  isStage : Bool
  blocks : Dict String Block
  vars : Dict String Variable
  lists : Dict String ItemList
  costumes : List Asset
  sounds : List Asset

/-- A project. -/
structure Project where
  targets : List Target
  extensions : List String
  extensionUrls : Dict String String

end BlockScribe
