import Starlane.Corporation
import Starlane.Port
import Starlane.Server.Relation

/-!
# Rows

The rows of each table of a server.  Codes and documents are kept as texts, and an owner as two
columns, so a row may hold what no record of the game is; `Starlane.Server.Codec` reads rows.
Seasons and sectors are kept as they are.
-/

namespace Starlane.Server

/-- The number that names a client. -/
abbrev Identity := Nat

/-- A time in microseconds since the start of 1970. -/
abbrev Micros := Int

/-- The settings as a document; there is one such row, under key 0. -/
structure SettingsRow where
  id : Nat
  owner : Identity
  document : String
  deriving DecidableEq, Repr

instance : Row SettingsRow where
  key row := row.id
  withKey id row := { row with id }
  generated := false
  clashes _ _ := false

instance : Row Season where
  key row := row.id
  withKey id row := { row with id }
  generated := true
  clashes _ _ := false

/-- A player and the client they belong to. -/
structure PlayerRow where
  id : PlayerId
  identity : Identity
  username : String
  isAdmin : Bool
  mustChangePassword : Bool
  credits : Int
  xp : Int
  level : Nat
  ship : String
  cargoUpgrades : Nat
  turnUpgrades : Nat
  turns : Nat
  turnsMax : Nat
  sector : SectorId
  cargoMax : Nat
  cargo : Goods Nat
  regenStamp : Option Int
  season : SeasonId
  createdAt : Micros
  deriving DecidableEq, Repr

/-- A client has at most one player. -/
instance : Row PlayerRow where
  key row := row.id
  withKey id row := { row with id }
  generated := true
  clashes a b := a.identity == b.identity

/-- A connected client. -/
structure SessionRow where
  identity : Identity
  player : Option PlayerId
  connectedAt : Micros
  deriving DecidableEq, Repr

instance : Row SessionRow where
  key row := row.identity
  withKey identity row := { row with identity }
  generated := false
  clashes _ _ := false

/-- The response to a player's last command, as a document. -/
structure ResultRow where
  player : PlayerId
  identity : Identity
  payload : String
  time : Micros
  deriving DecidableEq, Repr

instance : Row ResultRow where
  key row := row.player
  withKey player row := { row with player }
  generated := false
  clashes _ _ := false

/-- A line of a player's log. -/
structure LogRow where
  id : Nat
  player : PlayerId
  kind : String
  message : String
  time : Int
  deriving DecidableEq, Repr

instance : Row LogRow where
  key row := row.id
  withKey id row := { row with id }
  generated := true
  clashes _ _ := false

/-- A sector that a player has discovered. -/
structure DiscoveryRow where
  id : Nat
  player : PlayerId
  sector : SectorId
  deriving DecidableEq, Repr

instance : Row DiscoveryRow where
  key row := row.id
  withKey id row := { row with id }
  generated := true
  clashes _ _ := false

/-- A player's scan of a port, as a document. -/
structure IntelRow where
  id : Nat
  player : PlayerId
  sector : SectorId
  scannedAt : Int
  payload : String
  deriving DecidableEq, Repr

instance : Row IntelRow where
  key row := row.id
  withKey id row := { row with id }
  generated := true
  clashes _ _ := false

instance : Row Sector where
  key row := row.id
  withKey id row := { row with id }
  generated := false
  clashes _ _ := false

/-- A warp from one sector to another. -/
structure WarpRow where
  id : Nat
  source : SectorId
  target : SectorId
  deriving DecidableEq, Repr

instance : Row WarpRow where
  key row := row.id
  withKey id row := { row with id }
  generated := true
  clashes _ _ := false

/-- The columns of one commodity of a port. -/
structure StockColumns where
  mode : String
  qty : Nat
  baseQty : Nat
  basePrice : Nat
  regen : Nat
  deriving DecidableEq, Repr

/-- A port. -/
structure PortRow where
  sector : SectorId
  stocks : Goods StockColumns
  deriving DecidableEq, Repr

instance : Row PortRow where
  key row := row.sector
  withKey sector row := { row with sector }
  generated := false
  clashes _ _ := false

/-- A planet. -/
structure PlanetRow where
  id : PlanetId
  sector : SectorId
  name : String
  ownerPlayer : Option PlayerId
  ownerCorp : Option CorpId
  production : Goods Nat
  storage : Goods Nat
  storageMax : Nat
  citadelLevel : Nat
  deriving DecidableEq, Repr

/-- A sector has at most one planet. -/
instance : Row PlanetRow where
  key row := row.id
  withKey id row := { row with id }
  generated := true
  clashes a b := a.sector == b.sector

/-- A minefield. -/
structure MinefieldRow where
  id : MinefieldId
  sector : SectorId
  ownerPlayer : Option PlayerId
  ownerCorp : Option CorpId
  qty : Nat
  createdAt : Int
  deriving DecidableEq, Repr

instance : Row MinefieldRow where
  key row := row.id
  withKey id row := { row with id }
  generated := true
  clashes _ _ := false

/-- An event; an empty commodity stands for all of them. -/
structure EventRow where
  id : EventId
  kind : String
  sector : SectorId
  commodity : String
  pricePercent : Int
  severity : Nat
  title : String
  description : String
  startedAt : Int
  endsAt : Int
  deriving DecidableEq, Repr

instance : Row EventRow where
  key row := row.id
  withKey id row := { row with id }
  generated := true
  clashes _ _ := false

/-- A corporation. -/
structure CorpRow where
  id : CorpId
  name : String
  bank : Int
  createdAt : Int
  deriving DecidableEq, Repr

/-- Names of corporations are unique. -/
instance : Row CorpRow where
  key row := row.id
  withKey id row := { row with id }
  generated := true
  clashes a b := a.name == b.name

/-- A line of a roster. -/
structure MemberRow where
  id : Nat
  player : PlayerId
  corp : CorpId
  role : String
  joinedAt : Int
  deriving DecidableEq, Repr

/-- A player is in at most one corporation. -/
instance : Row MemberRow where
  key row := row.id
  withKey id row := { row with id }
  generated := true
  clashes a b := a.player == b.player

/-- A message to a corporation. -/
structure MessageRow where
  id : Nat
  corp : CorpId
  player : PlayerId
  text : String
  time : Int
  deriving DecidableEq, Repr

instance : Row MessageRow where
  key row := row.id
  withKey id row := { row with id }
  generated := true
  clashes _ _ := false

/-- A ticker that runs at an interval. -/
structure TimerRow where
  id : Nat
  interval : Micros
  deriving DecidableEq, Repr

instance : Row TimerRow where
  key row := row.id
  withKey id row := { row with id }
  generated := true
  clashes _ _ := false

end Starlane.Server
