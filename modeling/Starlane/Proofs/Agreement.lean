import Starlane.Proofs.Likeness
import Starlane.Proofs.Replication
import Starlane.Server.Client

/-!
# A server answers as a game in memory

A request is planned alike in a world and in a database that mirrors it, and the
writes of the two plans keep the mirror. Over any number of commands a player
therefore reads the same responses from both, or fails in both; only planets and
corporations may be numbered differently, though in the same order.
-/

namespace Starlane

open Server

namespace World

variable {world : World} {settings : Settings} {now : Int} {player : PlayerId} {row : Player}

/-- Whatever a command comes to, the world takes and respects. -/
theorem accepts_outcome (filed : world.Filed) (rostered : world.Rostered)
    (distinct : world.Distinct) (low : amountMin ≤ now) (high : now ≤ amountMax)
    (found : world.players.get? player = some row) {command : Command} {effects : Effects}
    (planned : command.outcome world.lookup now (world.present settings now player row) =
      .ok effects) : world.AcceptsAll (effects.allWrites now) := by
  obtain ⟨_, _, performed, deed, rfl⟩ := Command.outcome_success planned
  obtain ⟨turns, stamp, paid⟩ := command.paidBy_frame world settings now player row
  have own : row.id = player := filed.players player row found
  have snapshot : (command.paidBy (world.present settings now player row)).membership =
      world.membershipOf (command.paidBy (world.present settings now player row)).id := by
    rw [paid]
    exact congrArg world.membershipOf own.symm
  have joined : world.players.get?
      (command.paidBy (world.present settings now player row)).id = some row := by
    rw [paid, ← found]
    exact congrArg world.players.get? own
  have known : row.credentials =
      (command.paidBy (world.present settings now player row)).credentials := by
    rw [paid]
    rfl
  exact deed.accepted_all rostered filed distinct snapshot joined known low high _

/-- The grant of turns is saved under the same credentials. -/
theorem accepts_grant (settings : Settings) (now : Int) (filed : world.Filed)
    (found : world.players.get? player = some row) :
    world.AcceptsAll [.savePlayer (world.present settings now player row).toPlayer] := by
  obtain ⟨turns, stamp, granted⟩ := row.regenerate_frame settings.turnRegenSeconds now
  have shape : (world.present settings now player row).toPlayer =
      { row with turns, regenStamp := stamp } := granted
  have own : row.id = player := filed.players player row found
  have stored : world.players.get? row.id = some row := by
    rw [own]
    exact found
  rw [shape]
  exact .single (Option.isSome_iff_exists.mpr ⟨row, stored⟩) ⟨row, stored, rfl⟩

end World

namespace Server.Mirror

variable {clients : PlayerId → Identity} {settings : Settings} {twins : Twinning} {world : World}
  {db : Database}

/-- What a request comes to in a world and in its mirror: twin responses, with
the mirror kept, or two failures. -/
inductive Served (clients : PlayerId → Identity) (settings : Settings) (twins : Twinning)
    (db : Database) : Except StoreFailure Response × Storage →
      Except StoreFailure Response × Database → Prop
  | responded {response response' : Response} {after : World} {db' : Database} {more : Twinning}
      (grown : twins ≤ more) (same : more.ResponseAs response response')
      (mirror : Mirror clients settings more after db') (within : more.Within after db')
      (distinct : after.Distinct) :
      Served clients settings twins db (.ok response, .ofWorld after) (.ok response', db')
  | failed {failure failure' : StoreFailure} {storage : Storage} {db' : Database}
      (later : db.Later db') :
      Served clients settings twins db (.error failure, storage) (.error failure', db')

/-- The requests that have been carried out in both stores are answered alike. -/
theorem settle {changes changes' : List Write} {after : Database} {more : Twinning}
    (filed : world.Filed) (distinct : world.Distinct) (accepts : world.AcceptsAll changes)
    (grown : twins ≤ more) (success : Store.writeAll changes' db = (.ok (), after))
    (mirror : Mirror clients settings more (world.writtenAll changes) after)
    (within : more.Within (world.writtenAll changes) after) {commander commander' : Commander}
    (same : more.CommanderAs commander commander') (now : Int) (message : String)
    (refusal : Option Refusal) :
    Served clients settings twins db
      (Store.settle settings now commander message refusal changes (.ofWorld world))
      (Store.settle settings now commander' message refusal changes' db) := by
  have later := db.later_writeAll changes'
  rw [success] at later
  have kept := accepts.distinct distinct
  have twin := mirror.twin (World.Filed.kept.all filed accepts.admitted) kept
  have answers : Answers more.ResponseAs
      ((world.writtenAll changes).lookup.respond
        (Settings.shownLogs settings.recentLogLimit) now commander message refusal)
      (after.lookup.respond (Settings.shownLogs settings.recentLogLimit) now commander' message
        refusal) := twin.respond same _ message refusal
  have carried := Storage.writeAll_admitted accepts.admitted
  unfold Store.settle
  rw [carried, success]
  change Served _ _ _ _ ((world.writtenAll changes).lookup.respond _ now _ _ _, _)
    (after.lookup.respond _ now _ _ _, _)
  generalize (world.writtenAll changes).lookup.respond _ _ _ _ _ = answer at answers ⊢
  generalize after.lookup.respond _ _ _ _ _ = answer' at answers ⊢
  cases answers with
  | ok same => exact .responded grown same mirror within kept
  | error => exact .failed later

/-- Where a corporation is added first, its number is known to the writes after
it. -/
theorem writeAll_incorporated {name : String} {now : Int} {rest changes' : List Write}
    (mirror : Mirror clients settings twins world db) (within : twins.Within world db)
    (filed : world.Filed) (distinct : world.Distinct)
    (accepts : world.AcceptsAll (.insertCorp name now :: rest))
    (same : List.Forall₂ within.addCorp.WriteAs (.insertCorp name now :: rest) changes') :
    ∃ more after, within.addCorp ≤ more ∧ Store.writeAll changes' db = (.ok (), after) ∧
      Mirror clients settings more (world.writtenAll (.insertCorp name now :: rest)) after ∧
      more.Within (world.writtenAll (.insertCorp name now :: rest)) after := by
  cases accepts with
  | cons admits respects accepts =>
    cases same with
    | cons first others =>
      cases first
      obtain ⟨middle, success, shown, bounded⟩ := mirror.insertCorp within respects
      obtain ⟨more, after, grown, rest, shown, bounded⟩ := shown.writeAll bounded
        (World.Filed.kept _ _ filed admits) (distinct.written admits respects) accepts others
      refine ⟨more, after, grown, ?_, shown, bounded⟩
      have carried : Store.write (.insertCorp name now) db = (.ok (), middle) := success
      rw [Store.writeAll, carried]
      exact rest

/-- What a command comes to in both stores, in terms of the pairs that it needs:
an order to found a corporation needs the number that the corporation will get. -/
theorem planned {now : Int} {commander commander' : Commander} (command : Command)
    (mirror : Mirror clients settings twins world db) (within : twins.Within world db)
    (filed : world.Filed) (distinct : world.Distinct)
    (same : twins.CommanderAs commander commander')
    (accepts : ∀ effects, command.outcome world.lookup now commander = .ok effects →
      world.AcceptsAll (effects.allWrites now)) :
    ∃ plain, twins ≤ plain ∧ Plan.Alike (fun effects effects' =>
        plain.CommanderAs effects.commander effects'.commander ∧
        effects'.message = effects.message ∧
        world.AcceptsAll (effects.allWrites now) ∧
        ∃ more after, plain ≤ more ∧
          Store.writeAll (effects'.allWrites now) db = (.ok (), after) ∧
          Mirror clients settings more (world.writtenAll (effects.allWrites now)) after ∧
          more.Within (world.writtenAll (effects.allWrites now)) after)
      (command.outcome world.lookup now commander) (command.outcome db.lookup now commander') := by
  have twin := mirror.twin filed distinct
  by_cases founds : ∃ name, command = .corp (.create name)
  -- The plan names the corporation before it is added, so its pair is taken in advance.
  · obtain ⟨name, rfl⟩ := founds
    have alike := Command.outcome_alike
      ((mirror.mono within.le_addCorp).twin filed distinct) (same.mono within.le_addCorp)
      (.corp (.create name)) now fun _ _ => .inr ⟨rfl, rfl⟩
    refine ⟨within.addCorp, within.le_addCorp, ?_⟩
    generalize outcome : Command.outcome world.lookup now _ commander = result at alike accepts ⊢
    generalize Command.outcome db.lookup now _ commander' = result' at alike ⊢
    cases alike with
    | refused reason => exact .refused reason
    | failed => exact .failed
    | @ok effects effects' known =>
      have accepted := accepts effects rfl
      refine .ok ⟨known.commander, known.message, accepted, ?_⟩
      obtain ⟨_, _, _, deed, rewarded⟩ := Command.outcome_success outcome
      have writes := known.allWrites now
      cases deed with
      | informed informs => cases informs
      | @incorporated _ title =>
        obtain ⟨rest, shape⟩ : ∃ rest,
            effects.allWrites now = .insertCorp title now :: rest := by
          rw [rewarded, Effects.allWrites, Effects.rewarded_writes]
          exact ⟨_, rfl⟩
        rw [shape] at accepted writes ⊢
        exact mirror.writeAll_incorporated within filed distinct accepted writes
  · refine ⟨twins, Twinning.le_refl _, ?_⟩
    have alike := Command.outcome_alike twin same command now fun name equal =>
      absurd ⟨name, equal⟩ founds
    generalize Command.outcome world.lookup now command commander = result at alike accepts ⊢
    generalize Command.outcome db.lookup now command commander' = result' at alike ⊢
    cases alike with
    | refused reason => exact .refused reason
    | failed => exact .failed
    | @ok effects effects' known =>
      have accepted := accepts effects rfl
      exact .ok ⟨known.commander, known.message, accepted,
        mirror.writeAll within filed distinct accepted (known.allWrites now)⟩

/-- A request is answered alike, or fails in both stores. -/
theorem execute {now : Int} (mirror : Mirror clients settings twins world db)
    (within : twins.Within world db) (filed : world.Filed) (rostered : world.Rostered)
    (distinct : world.Distinct) (low : amountMin ≤ now) (high : now ≤ amountMax)
    (player : PlayerId) (request : Request) :
    Served clients settings twins db
      (Store.execute settings now player request (Storage.ofWorld world))
      (Store.execute settings now player request db) := by
  have loads : Answers twins.CommanderAs (world.commander player) (db.commander player) :=
    (mirror.twin filed distinct).commander player
  generalize load : world.commander player = first at loads
  generalize load' : db.commander player = second at loads
  cases loads with
  | @error failure failure' =>
    have stopped : Store.execute settings now player request (Storage.ofWorld world) =
        (.error failure, .ofWorld world) := Store.execute_unloaded load
    have stopped' : Store.execute settings now player request db = (.error failure', db) :=
      Store.execute_unloaded load'
    rw [stopped, stopped']
    exact .failed (.refl db)
  | @ok loaded loaded' known =>
    obtain ⟨row, found, rfl⟩ := World.commander_success load
    obtain ⟨membership, belongs, rfl⟩ := known
    have same : twins.CommanderAs (world.present settings now player row)
      { world.present settings now player row with membership } := ⟨membership, belongs, rfl⟩
    obtain ⟨plain, grown, alike⟩ := mirror.planned (.ofRequest request) within filed distinct same
      fun effects planned => World.accepts_outcome filed rostered distinct low high found planned
    generalize plan : Command.outcome world.lookup now _ _ = result at alike
    generalize plan' : Command.outcome db.lookup now _ _ = result' at alike
    cases alike with
    | @ok effects effects' done =>
      obtain ⟨commander, message, accepts, more, after, grown', success, shown, bounded⟩ := done
      have carried : Store.execute settings now player request (Storage.ofWorld world) =
          Store.settle settings now effects.commander effects.message none
            (effects.allWrites now) (.ofWorld world) := Store.execute_planned load rfl plan
      have carried' : Store.execute settings now player request db =
          Store.settle settings now effects'.commander effects'.message none
            (effects'.allWrites now) db := Store.execute_planned load' rfl plan'
      rw [carried, carried', message]
      exact settle filed distinct accepts (Twinning.le_trans grown grown') success shown bounded
        (commander.mono grown') now _ none
    | refused reason =>
      have accepts := World.accepts_grant settings now filed found
      obtain ⟨more, after, grown', success, shown, bounded⟩ := mirror.writeAll within filed distinct
        accepts (.cons (.savePlayer _) .nil)
      have carried : Store.execute settings now player request (Storage.ofWorld world) =
          Store.settle settings now (world.present settings now player row) reason.message
            (some reason) [.savePlayer (world.present settings now player row).toPlayer]
            (.ofWorld world) := Store.execute_refused load rfl plan
      have carried' : Store.execute settings now player request db =
          Store.settle settings now
            { world.present settings now player row with membership } reason.message
            (some reason) [.savePlayer (world.present settings now player row).toPlayer] db :=
        Store.execute_refused load' rfl plan'
      rw [carried, carried']
      exact settle filed distinct accepts grown' success shown bounded (same.mono grown') now _ _
    | @failed written written' failure failure' =>
      obtain ⟨cause, stopped⟩ : ∃ cause,
          Store.execute settings now player request (Storage.ofWorld world) =
            (.error cause, (Store.writeAll written (Storage.ofWorld world)).2) :=
        Store.execute_failed load rfl plan
      obtain ⟨cause', stopped'⟩ : ∃ cause', Store.execute settings now player request db =
          (.error cause', (Store.writeAll written' db).2) := Store.execute_failed load' rfl plan'
      -- The causes may differ, and the writes before them: both are undone by the caller.
      rw [stopped, stopped']
      exact .failed (db.later_writeAll written')

/-- The player of a client, under the player's number. -/
theorem playerOf? (mirror : Mirror clients settings twins world db) (filed : world.Filed)
    (injective : Function.Injective clients) (player : PlayerId) :
    Option.Rel (fun _ row => row.id = player) (world.players.get? player)
      (db.playerOf? (clients player)) := by
  have found := (Reordered.of_forall₂ mirror.players.values db.players.all_perm).find?
    (p := fun other => other.id == player) (q := fun row => row.identity == clients player) ?_ ?_
  · rw [filed.players.find?_eq] at found
    change Option.Rel _ _ (db.players.all.find? _)
    generalize lookup : world.players.get? player = first at found ⊢
    generalize db.players.all.find? _ = second at found ⊢
    cases found with
    | none => exact .none
    | some same =>
      exact .some ((PlayerRow.toPlayer_columns same.2).1.trans (filed.players _ _ lookup))
  · rintro other row ⟨identity, _⟩
    rw [identity]
    exact decide_eq_decide.mpr injective.eq_iff.symm
  · intro first listed second listed' own own'
    exact filed.players.same_value listed listed' ((eq_of_beq own).trans (eq_of_beq own').symm)

end Server.Mirror

/-- A command that a player sends as a document at some time, in microseconds. -/
structure Order where
  player : PlayerId
  time : Int
  low : amountMin ≤ time
  high : time ≤ amountMax
  document : String
  request : Request
  reads : Request.read? document = some request

/-- Any request can be ordered, as the document that says it. -/
def Order.ofRequest (player : PlayerId) (time : Int) (low : amountMin ≤ time)
    (high : time ≤ amountMax) (request : Request) (fits : request.Fits) : Order :=
  ⟨player, time, low, high, request.toJson.render, request, Request.read_written fits⟩

/-- The time of an order in whole seconds. -/
def Order.now (order : Order) : Int :=
  order.time.tdiv 1000000

theorem Order.now_bounds (order : Order) : amountMin ≤ order.now ∧ order.now ≤ amountMax := by
  have low := order.low
  have high := order.high
  unfold Order.now
  have sign : (1000000 : Int).sign = 1 := rfl
  rw [Int.tdiv_eq_ediv, sign]
  unfold amountMin amountMax at *
  split <;> omega

/-- Carries out an order in memory. -/
def World.serve (settings : Settings) (order : Order) (world : World) :
    Except StoreFailure Response × World :=
  let (answer, after) :=
    Storage.execute settings order.now order.player order.request (.ofWorld world)
  (answer, after.world)

/-- Carries out an order on a server, and reads the document kept as the player's result. -/
def Server.Database.serve (clients : PlayerId → Identity) (order : Order) (db : Database) :
    Except CallError (Option String) × Database :=
  let (answer, after) := db.submit ⟨clients order.player, order.time⟩ order.document
  (answer.map fun _ => (after.results.find? order.player).map (·.payload), after)

theorem World.serve_eq (settings : Settings) (order : Order) (world : World) :
    world.serve settings order =
      match Store.execute settings order.now order.player order.request
        (Storage.ofWorld world) with
      | (.ok response, after) => (.ok response, after.world)
      | (.error failure, _) => (.error failure, world) := by
  unfold serve Storage.execute Storage.transaction
  generalize Store.execute _ _ _ _ (Storage.ofWorld world) = result
  obtain ⟨_ | _, _⟩ := result <;> rfl

namespace Server.Database

variable {clients : PlayerId → Identity} {order : Order} {db : Database}

/-- A stranger is turned away. -/
theorem serve_stranger (stranger : db.playerOf? (clients order.player) = none) :
    db.serve clients order = (.error .notJoined, db.restore db) := by
  unfold serve submit transaction
  dsimp only
  rw [order.reads, stranger]
  rfl

/-- The player's response is kept as a document, and after a failure all rows
are as before. -/
theorem serve_player {row : PlayerRow} (joined : db.playerOf? (clients order.player) = some row)
    (own : row.id = order.player) :
    db.serve clients order =
      match Store.execute db.currentSettings order.now order.player order.request db with
      | (.ok response, after) => (.ok (some response.toJson.render),
        { after with
          results := after.results.update
            ⟨order.player, clients order.player, response.toJson.render, order.time⟩ })
      | (.error failure, after) => (.error (.store failure), db.restore after) := by
  unfold serve submit transaction
  dsimp only
  rw [order.reads, joined]
  dsimp only
  have now : (⟨clients order.player, order.time⟩ : Call).now = order.now := rfl
  rw [own, now]
  generalize Store.execute db.currentSettings order.now order.player order.request db = result
  obtain ⟨failure | response, after⟩ := result
  · rfl
  · have kept : ((after.results.update (⟨order.player, clients order.player,
        response.toJson.render, order.time⟩ : ResultRow)).find? order.player).map (·.payload) =
        some response.toJson.render :=
      congrArg (Option.map _) (Table.get?_insert_self _ _ _)
    exact Prod.ext (congrArg Except.ok kept) rfl

end Server.Database

/-- The replies to some orders, each carried out after those before it. -/
def replies {σ α : Type} (serve : Order → σ → α × σ) : List Order → σ → List α
  | [], _ => []
  | order :: rest, state =>
    let (reply, after) := serve order state
    reply :: replies serve rest after

/-- Whether two replies are twin responses, the second as a document, or both
are failures. -/
inductive Agree (twins : Twinning) :
    Except StoreFailure Response → Except CallError (Option String) → Prop
  | answered {response response' : Response} (same : twins.ResponseAs response response') :
      Agree twins (.ok response) (.ok (some response'.toJson.render))
  | failed {failure : StoreFailure} {error : CallError} :
      Agree twins (.error failure) (.error error)

/-- What a game keeps from one order to the next. -/
structure Concord (clients : PlayerId → Identity) (settings : Settings) (twins : Twinning)
    (world : World) (db : Database) : Prop where
  mirror : Mirror clients settings twins world db
  within : twins.Within world db
  filed : world.Filed
  rostered : world.Rostered
  distinct : world.Distinct

/-- An order is answered alike, and what the next one needs is kept. -/
theorem Concord.serve {clients : PlayerId → Identity} {settings : Settings} {twins : Twinning}
    {world : World} {db : Database} (concord : Concord clients settings twins world db)
    (injective : Function.Injective clients) (order : Order) :
    ∃ more, twins ≤ more ∧ Agree more (world.serve settings order).1 (db.serve clients order).1 ∧
      Concord clients settings more (world.serve settings order).2 (db.serve clients order).2 := by
  obtain ⟨mirror, within, filed, rostered, distinct⟩ := concord
  obtain ⟨low, high⟩ := order.now_bounds
  have served := mirror.execute within filed rostered distinct low high order.player order.request
  have stepped : (world.serve settings order).2.Filed ∧
      (world.serve settings order).2.Rostered := by
    have step : Step settings world _ (world.serve settings order).2 := .command rfl
    exact ⟨filed.step step, rostered.step filed step⟩
  have account := mirror.playerOf? filed injective order.player
  cases joined : db.playerOf? (clients order.player) with
  | none =>
    -- Nobody has this number, so the game in memory fails to load the player.
    rw [joined] at account
    have stranger : (Store.lookup (Storage.ofWorld world)).commander order.player =
        .error (.missing .player order.player) := by
      change world.commander order.player = _
      unfold World.commander
      generalize world.players.get? order.player = entry at account
      cases account
      rfl
    have failed : Store.execute settings order.now order.player order.request
        (Storage.ofWorld world) = (.error (.missing .player order.player), .ofWorld world) :=
      Store.execute_unloaded stranger
    rw [Server.Database.serve_stranger joined, World.serve_eq, failed]
    have later := Server.Database.Later.refl db
    exact ⟨twins, Twinning.le_refl _, .failed, mirror.restore later,
      ⟨within.planets, within.corps, within.fields⟩, filed, rostered, distinct⟩
  | some row =>
    rw [joined] at account
    have own : row.id = order.player := by
      generalize world.players.get? order.player = entry at account
      cases account
      assumption
    rw [Server.Database.serve_player joined own, mirror.settings]
    rw [World.serve_eq] at stepped ⊢
    generalize Store.execute settings order.now order.player order.request
      (Storage.ofWorld world) = first at served stepped ⊢
    generalize Store.execute settings order.now order.player order.request db = second at served ⊢
    cases served with
    | responded grown same mirror within distinct =>
      exact ⟨_, grown, .answered same, { mirror with },
        ⟨within.planets, within.corps, within.fields⟩, stepped.1, stepped.2, distinct⟩
    | failed later =>
      exact ⟨twins, Twinning.le_refl _, .failed, mirror.restore later,
        within.later (Nat.le_refl _) later.planets later.corps later.minefields, filed, rostered,
        distinct⟩

/-- Agreement stays when more numbers are paired. -/
theorem Agree.mono {twins more : Twinning} {answer : Except StoreFailure Response}
    {answer' : Except CallError (Option String)} (agree : Agree twins answer answer')
    (grown : twins ≤ more) : Agree more answer answer' := by
  cases agree with
  | answered same => exact .answered (same.mono grown)
  | failed => exact .failed

/-- Orders are answered alike one after another. -/
theorem Concord.replies {clients : PlayerId → Identity} {settings : Settings} {twins : Twinning}
    {world : World} {db : Database} (concord : Concord clients settings twins world db)
    (injective : Function.Injective clients) (orders : List Order) :
    ∃ more, twins ≤ more ∧ List.Forall₂ (Agree more)
      (Starlane.replies (World.serve settings) orders world)
      (Starlane.replies (Database.serve clients) orders db) := by
  induction orders generalizing twins world db with
  | nil => exact ⟨twins, Twinning.le_refl _, .nil⟩
  | cons order rest ih =>
    obtain ⟨between, grown, agree, kept⟩ := concord.serve injective order
    obtain ⟨more, grown', others⟩ := ih kept
    exact ⟨more, Twinning.le_trans grown grown', .cons (agree.mono grown') others⟩

end Starlane
