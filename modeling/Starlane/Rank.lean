import Starlane.Player

/-!
# Experience, levels and ranks

Level `L` takes `50 * (L - 1) * L / 2` experience in total, so that each level costs 50 more than
the one before.  The level is always that of the total experience.
-/

namespace Starlane.Rank

/-- The highest level. -/
def levelMax : Nat := 200

/-- The titles of the levels, from level 1 on. -/
def titles : List String :=
  ["Recruit", "Space Recruit", "Orbital Initiate", "Stellar Initiate", "Cadet", "Junior Cadet",
   "Senior Cadet", "Crewman Apprentice", "Crewman", "Senior Crewman", "Specialist Fourth Class",
   "Specialist Third Class", "Specialist Second Class", "Specialist First Class",
   "Technical Specialist", "Advanced Technical Specialist", "Flight Corporal", "Corporal",
   "Senior Corporal", "Tactical Corporal", "Sergeant", "Tactical Sergeant", "Orbital Sergeant",
   "Stellar Sergeant", "Gunnery Sergeant", "Master Sergeant", "First Sergeant",
   "Senior First Sergeant", "Command Sergeant", "Command Sergeant Major",
   "Fleet Sergeant Major", "Sector Sergeant Major", "Stellar Sergeant Major",
   "High Command Sergeant Major", "Enlisted Command Chief", "Enlisted High Chief",
   "Enlisted Fleet Chief", "Enlisted Stellar Chief", "Senior Enlisted Advisor",
   "Supreme Enlisted Advisor", "Warrant Officer Candidate", "Warrant Officer One",
   "Warrant Officer Two", "Warrant Officer Three", "Warrant Officer Four",
   "Warrant Officer Five", "Senior Warrant Officer", "Chief Warrant Officer",
   "Master Warrant Officer", "Fleet Warrant Officer", "Sector Warrant Officer",
   "Stellar Warrant Officer", "High Warrant Officer", "Grand Warrant Officer",
   "Supreme Warrant Officer", "Ensign", "Sub-Lieutenant", "Lieutenant Junior Grade",
   "Lieutenant", "Senior Lieutenant", "Flight Lieutenant", "Orbital Lieutenant",
   "Stellar Lieutenant", "Captain", "Senior Captain", "Fleet Captain", "Wing Captain",
   "Group Captain", "Squadron Captain", "Major", "Wing Major", "Group Major", "Sector Major",
   "Fleet Major", "Lieutenant Colonel", "Senior Lieutenant Colonel", "Fleet Lieutenant Colonel",
   "Sector Lieutenant Colonel", "Stellar Lieutenant Colonel", "Colonel", "Senior Colonel",
   "Fleet Colonel", "Sector Colonel", "Stellar Colonel", "Command Colonel", "High Colonel",
   "Grand Colonel", "Supreme Colonel", "Brigadier", "Brigadier General",
   "Senior Brigadier General", "Fleet Brigadier General", "Sector Brigadier General",
   "Major General", "Senior Major General", "Fleet Major General", "Sector Major General",
   "Stellar Major General", "Lieutenant General", "Senior Lieutenant General",
   "Fleet Lieutenant General", "Sector Lieutenant General", "Stellar Lieutenant General",
   "General", "Senior General", "Fleet General", "Sector General", "Stellar General",
   "High General", "Grand General", "Supreme General", "Commodore", "Senior Commodore",
   "Fleet Commodore", "Sector Commodore", "Stellar Commodore", "Rear Admiral",
   "Upper Rear Admiral", "Fleet Rear Admiral", "Sector Rear Admiral", "Vice Admiral",
   "Senior Vice Admiral", "Fleet Vice Admiral", "Sector Vice Admiral", "Stellar Vice Admiral",
   "Admiral", "Senior Admiral", "Fleet Admiral", "Sector Admiral", "Stellar Admiral",
   "High Admiral", "Grand Admiral", "Supreme Admiral", "Marshal", "Fleet Marshal",
   "Sector Marshal", "Stellar Marshal", "High Marshal", "Grand Marshal", "Supreme Marshal",
   "Star Marshal", "Grand Star Marshal", "Supreme Star Marshal", "High Commander",
   "Fleet Commander", "Sector Commander", "Stellar Commander", "Grand Commander",
   "Supreme Commander", "High Strategic Commander", "Fleet Strategic Commander",
   "Sector Strategic Commander", "Stellar Strategic Commander", "Grand Strategic Commander",
   "Supreme Strategic Commander", "Overmarshal", "Fleet Overmarshal", "Sector Overmarshal",
   "Stellar Overmarshal", "High Overmarshal", "Grand Overmarshal", "Supreme Overmarshal",
   "Lord Commander", "High Lord Commander", "Grand Lord Commander", "Stellar Lord Commander",
   "Sector Lord Commander", "Fleet Lord Commander", "Supreme Lord Commander", "Star Lord",
   "High Star Lord", "Grand Star Lord", "Stellar Star Lord", "Sector Star Lord",
   "Fleet Star Lord", "Supreme Star Lord", "Arch Commander", "High Arch Commander",
   "Grand Arch Commander", "Supreme Arch Commander", "Arch Marshal", "High Arch Marshal",
   "Grand Arch Marshal", "Supreme Arch Marshal", "Prime Commander", "High Prime Commander",
   "Grand Prime Commander", "Supreme Prime Commander", "Prime Marshal", "High Prime Marshal",
   "Grand Prime Marshal", "Supreme Prime Marshal", "Celestial Commander",
   "High Celestial Commander", "Grand Celestial Commander", "Supreme Celestial Commander",
   "Celestial Marshal", "High Celestial Marshal", "Grand Celestial Marshal",
   "Supreme Celestial Marshal"]

/-- The title of a level; levels outside 1 to 200 take the nearest title. -/
def title (level : Nat) : String :=
  titles.getD (min (max level 1) levelMax - 1) ""

/-- The total experience that a level takes. -/
def threshold (level : Nat) : Int :=
  let level : Int := min level levelMax
  if level ≤ 1 then 0 else 50 * (level - 1) * level / 2

/-- Bisects the levels from `low` to `high` for the highest whose threshold is met; `best` is the
highest level known to be met. -/
def bisect (xp : Int) (low high best : Nat) : Nat :=
  if low ≤ high then
    let middle := (low + high) / 2
    if threshold middle ≤ xp then bisect xp (middle + 1) high middle
    else if low < middle then bisect xp low (middle - 1) best
    else best
  else best
termination_by high + 1 - low

/-- The level of a total of experience. -/
def levelFor (xp : Int) : Nat :=
  bisect (max xp 0) 1 levelMax 1

/-- The experience for a command, by its type and action; a type without an entry earns five per
turn, at least one. -/
def reward (kind action : String) (cost : Nat) : Int :=
  match kind, action with
  | "SCAN", _ => 10
  | "MOVE", _ => 10
  | "TRADE", _ => 15
  | "PLANET", "COLONIZE" => 120
  | "PLANET", "UPGRADE_CITADEL" => 60
  | "PLANET", "LOAD" => 12
  | "PLANET", "UNLOAD" => 12
  | "PLANET", _ => 4
  | "CORP", "CREATE" => 50
  | "CORP", "JOIN" => 25
  | "CORP", "LEAVE" => 10
  | "CORP", "DEPOSIT" => 5
  | "CORP", "WITHDRAW" => 5
  | "CORP", _ => 2
  | "MINE", "DEPLOY" => 25
  | "MINE", "SWEEP" => 20
  | "MINE", _ => 2
  | "MARKET", _ => 3
  | "ROUTE", _ => 3
  | "EVENTS", _ => 3
  | "RANKINGS", _ => 1
  | "SEASON", _ => 1
  | "HELP", _ => 1
  | "SHIPYARD", "BUY" => 30
  | "SHIPYARD", "SELL" => 10
  | "SHIPYARD", "UPGRADE" => 12
  | "SHIPYARD", _ => 2
  | _, _ => if cost = 0 then 1 else cost * 5

/-- A rise from one level to another. -/
structure Promotion where
  before : Nat
  after : Nat
  deriving DecidableEq, Repr

/-- What a player is told about a rise. -/
def Promotion.announcement (promotion : Promotion) : String :=
  s!"Rank up! Level {promotion.after} ({title promotion.after})."

/-- Adds experience and derives the level.  An award of nothing or less changes nothing. -/
def award (delta : Int) (player : Player) : Player × Option Promotion :=
  if delta ≤ 0 then (player, none)
  else
    let xp := max (clampAmount (player.xp + delta)) 0
    let before := levelFor player.xp
    let after := levelFor xp
    ({ player with xp, level := after },
     if before < after then some ⟨before, after⟩ else none)

end Starlane.Rank
