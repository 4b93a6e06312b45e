import Starlane.Proofs.Course

/-!
# Chronicles

A chronicle tells a course page by page: what was asked and answered, and the
world before and after. What the game stores about the past can then be compared
with the past itself.
-/

namespace Starlane

open Chance

/-- A request that came in, and its answer. -/
structure Petition where
  settings : Settings
  now : Int
  player : PlayerId
  request : Request
  answer : Except StoreFailure Response

/-- A page of a chronicle; no petition is on it when somebody joins or a ticker
runs. -/
structure Page where
  before : World
  petition : Option Petition
  after : World

/-- Whether what a page tells may happen; petitions come under any limit on
writes. -/
inductive Page.Occurs : Page → Prop
  | answered {world : World} {petition : Petition} {limit : Option Nat} {after : Storage}
      (executed : Storage.execute petition.settings petition.now petition.player petition.request
        ⟨world, limit⟩ = (petition.answer, after)) :
      Occurs ⟨world, some petition, after.world⟩
  | join {world : World} {settings : Settings} {now : Int} {id : PlayerId} {username : String} :
      Occurs ⟨world, none, (world.join settings now id username).2⟩
  | portTick {world : World} : Occurs ⟨world, none, world.portTick.1⟩
  | planetTick {world : World} : Occurs ⟨world, none, world.planetTick.1⟩
  | protectorateTick {world : World} {γ : Type} [Dice γ] {dice : γ} :
      Occurs ⟨world, none, (world.protectorateTick dice).1⟩
  | eventTick {world : World} {γ : Type} [Dice γ] {now : Int} {dice : γ} :
      Occurs ⟨world, none, (world.eventTick now dice).1⟩

/-- The pages of a course from a start, and the world at its end. -/
inductive Chronicle (start : World) : List Page → World → Prop
  | start : Chronicle start [] start
  | turn {pages : List Page} {page : Page} (chronicle : Chronicle start pages page.before)
      (occurs : page.Occurs) : Chronicle start (pages ++ [page]) page.after

theorem Page.Occurs.next {page : Page} (occurs : page.Occurs) : page.before.Next page.after := by
  cases occurs with
  | answered executed => exact .command executed
  | join => exact .join
  | portTick => exact .portTick
  | planetTick => exact .planetTick
  | protectorateTick => exact .protectorateTick
  | eventTick => exact .eventTick

/-- Whatever happens next can be told on a page. -/
theorem World.Next.told {world after : World} (next : world.Next after) :
    ∃ petition, Page.Occurs ⟨world, petition, after⟩ := by
  cases next with
  | join => exact ⟨none, .join⟩
  | @command settings now player request limit answer after executed =>
    exact ⟨some ⟨settings, now, player, request, answer⟩, .answered executed⟩
  | portTick => exact ⟨none, .portTick⟩
  | planetTick => exact ⟨none, .planetTick⟩
  | protectorateTick => exact ⟨none, .protectorateTick⟩
  | eventTick => exact ⟨none, .eventTick⟩

variable {start world : World} {pages : List Page}

/-- What a chronicle tells is a course. -/
theorem Chronicle.leads (chronicle : Chronicle start pages world) : start.Leads world := by
  induction chronicle with
  | start => exact .refl
  | turn _ occurs ih => exact ih.tail occurs.next

/-- Every course can be told. -/
theorem World.Leads.told (leads : start.Leads world) : ∃ pages, Chronicle start pages world := by
  induction leads with
  | refl => exact ⟨[], .start⟩
  | tail _ next ih =>
    obtain ⟨pages, chronicle⟩ := ih
    obtain ⟨petition, occurs⟩ := next.told
    exact ⟨pages ++ [_], chronicle.turn occurs⟩

/-- A page of a chronicle ends a chronicle of its own. -/
theorem Chronicle.page (chronicle : Chronicle start pages world) {page : Page}
    (listed : page ∈ pages) :
    page.Occurs ∧ ∃ earlier, Chronicle start earlier page.before := by
  induction chronicle with
  | start => cases listed
  | @turn earlier last chronicle occurs ih =>
    rcases List.mem_append.mp listed with among | final
    · exact ih among
    · cases List.mem_singleton.mp final
      exact ⟨occurs, earlier, chronicle⟩

namespace Drill

/-- The page of the drill that tells of a request. -/
def answered (player : PlayerId) (request : Request) (world : World) : Page where
  before := world
  petition := some
    { settings := Settings.standard
      now := startTime
      player
      request
      answer := (Storage.execute Settings.standard startTime player request (.ofWorld world)).1 }
  after := asked player request world

theorem answered_occurs (player : PlayerId) (request : Request) (world : World) :
    (answered player request world).Occurs :=
  @Page.Occurs.answered world _ none _ rfl

/-- The pages of the drill that tell of requests in order. -/
def tell (world : World) : List (PlayerId × Request) → List Page
  | [] => []
  | (player, request) :: rest =>
    answered player request world :: tell (asked player request world) rest

/-- The world of the drill after requests in order. -/
def askedAll (world : World) (requests : List (PlayerId × Request)) : World :=
  requests.foldl (fun world given => asked given.1 given.2 world) world

/-- A chronicle goes on with requests. -/
theorem told {start world : World} {pages : List Page}
    (chronicle : Chronicle start pages world) (requests : List (PlayerId × Request)) :
    Chronicle start (pages ++ tell world requests) (askedAll world requests) := by
  induction requests generalizing pages world with
  | nil =>
    rw [tell, List.append_nil]
    exact chronicle
  | cons given rest ih =>
    have turned := @Chronicle.turn start pages _ chronicle
      (answered_occurs given.1 given.2 world)
    have later := ih turned
    rw [List.append_assoc] at later
    exact later

/-- Two sectors with a warp from the first to the second, and a port there. -/
def outpost : World :=
  (((World.empty.addSector 1 "Sol").addSector 2 "Vega").addWarp (1, 2)).addPort
    ⟨2, ⟨fullStock 1000 10 25, demand 300 1000 16 20, demand 200 600 32 10⟩⟩

theorem outpost_reachable : outpost.Reachable :=
  .seed (.seed (.seed (.seed .empty (.sector _ _)) (.sector _ _)) (.warp _)) (.port _)

/-- The outpost with a pilot who has joined. -/
def settled : World :=
  (outpost.join Settings.standard startTime 7 "ada").2

theorem settled_told : Chronicle outpost [⟨outpost, none, settled⟩] settled :=
  Chronicle.start.turn (@Page.Occurs.join outpost Settings.standard startTime 7 "ada")

end Drill

end Starlane
