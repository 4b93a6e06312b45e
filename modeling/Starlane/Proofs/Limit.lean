import Starlane.Proofs.History

/-!
# Limits on writes

A limit on writes only ever makes a request fail. One that fails leaves the
world as it was, and one that is answered is answered as it would be without a
limit.
-/

namespace Starlane

namespace Storage

variable {storage after : Storage}

/-- A write that gets through a limit is the same without one. -/
theorem write_unlimited {change : Write} (success : write change storage = (.ok (), after)) :
    write change (ofWorld storage.world) = (.ok (), ofWorld after.world) := by
  unfold write at success ⊢
  split at success
  · next idle =>
    cases success
    exact if_pos idle
  · next busy =>
    split at success
    · cases success
    · split at success
      · cases success
      · next applied =>
        cases success
        refine (if_neg busy).trans ?_
        simp only [ofWorld, spend, applied]

theorem writeAll_unlimited {changes : List Write} {done : Unit}
    (success : Store.writeAll changes storage = (.ok done, after)) :
    Store.writeAll changes (ofWorld storage.world) = (.ok done, ofWorld after.world) := by
  induction changes generalizing storage with
  | nil =>
    cases success
    rfl
  | cons change rest ih =>
    unfold Store.writeAll at success ⊢
    split at success
    · next next written =>
      have same : Store.write change (ofWorld storage.world) = (.ok (), ofWorld next.world) :=
        write_unlimited written
      rw [same]
      exact ih success
    · cases success

/-- A request that is settled behind a limit has the response read from the same
world. -/
theorem settle_unlimited {settings : Settings} {now : Int} {commander : Commander}
    {message : String} {refusal : Option Refusal} {changes : List Write} {response : Response}
    (success : Store.settle settings now commander message refusal changes storage =
      (.ok response, after)) :
    Store.settle settings now commander message refusal changes (ofWorld storage.world) =
      (.ok response, ofWorld after.world) := by
  unfold Store.settle at success ⊢
  split at success
  · cases success
  · next written =>
    rw [writeAll_unlimited written]
    obtain ⟨responded, rfl⟩ := Prod.ext_iff.mp success
    exact Prod.ext_iff.mpr ⟨responded, rfl⟩

theorem request_unlimited {settings : Settings} {now : Int} {player : PlayerId}
    {request : Request} {response : Response}
    (success : Store.execute settings now player request storage = (.ok response, after)) :
    Store.execute settings now player request (ofWorld storage.world) =
      (.ok response, ofWorld after.world) := by
  cases loads : (Store.lookup storage).commander player with
  | error failure =>
    rw [Store.execute_unloaded loads] at success
    cases success
  | ok loaded =>
    cases planned : (Command.ofRequest request).outcome (Store.lookup storage) now
        (loaded.regenerate settings.turnRegenSeconds now) with
    | ok effects =>
      rw [Store.execute_planned loads rfl planned] at success
      rw [← settle_unlimited success]
      exact Store.execute_planned loads rfl planned
    | error halt =>
      cases halt with
      | refused written reason =>
        rw [Store.execute_refused loads rfl planned] at success
        rw [← settle_unlimited success]
        exact Store.execute_refused loads rfl planned
      | failed written failure =>
        obtain ⟨cause, failed⟩ := Store.execute_failed loads rfl planned
        rw [failed] at success
        cases success

/-- A request behind a limit fails and leaves the world as it was, or it comes to
the same as without a limit. -/
theorem execute_unlimited {settings : Settings} {now : Int} {player : PlayerId}
    {request : Request} {answer : Except StoreFailure Response}
    (executed : execute settings now player request storage = (answer, after)) :
    (∃ failure, answer = .error failure ∧ after = ofWorld storage.world) ∨
      execute settings now player request (ofWorld storage.world) =
        (answer, ofWorld after.world) := by
  unfold execute transaction at executed ⊢
  cases ran : Store.execute settings now player request storage with
  | mk result final =>
    rw [ran] at executed
    cases result with
    | error failure =>
      cases executed
      exact .inl ⟨failure, rfl, rfl⟩
    | ok response =>
      cases executed
      rw [request_unlimited ran]
      exact .inr rfl

/-- What every admitted write keeps, a request behind a limit keeps. -/
theorem limited_keeps {holds : World → Prop} (kept : World.Kept holds) {settings : Settings}
    {now : Int} {player : PlayerId} {request : Request} {answer : Except StoreFailure Response}
    (executed : execute settings now player request storage = (answer, after))
    (before : holds storage.world) : holds after.world := by
  rcases execute_unlimited executed with ⟨_, _, rfl⟩ | unlimited
  · exact before
  · have held := execute_keeps kept unlimited before
    exact held

/-- A request fails and leaves the world as it was, is refused, or is accepted,
whatever the limit. -/
theorem outcomes {settings : Settings} {now : Int} {player : PlayerId} {request : Request}
    {answer : Except StoreFailure Response}
    (executed : execute settings now player request storage = (answer, after)) :
    (∃ failure, answer = .error failure ∧ after.world = storage.world) ∨
    (∃ response row, answer = .ok response ∧
      Refused settings now player storage.world row response after.world) ∨
    (∃ response row effects, answer = .ok response ∧
      Accepted settings now player (.ofRequest request) storage.world row effects response
        after.world) := by
  rcases execute_unlimited executed with ⟨failure, failed, rfl⟩ | unlimited
  · exact .inl ⟨failure, failed, rfl⟩
  · rcases execute_cases unlimited with ⟨failure, failed, same⟩ |
      ⟨response, row, later, answered, same, refused⟩ |
      ⟨response, row, effects, later, answered, same, accepted⟩
    · have kept := congrArg Storage.world same
      exact .inl ⟨failure, failed, kept⟩
    · cases congrArg Storage.world same
      exact .inr (.inl ⟨response, row, answered, refused⟩)
    · cases congrArg Storage.world same
      exact .inr (.inr ⟨response, row, effects, answered, accepted⟩)

end Storage

/-- Requests lead from reachable worlds to reachable worlds, whatever the limit. -/
theorem World.Reachable.executed {storage after : Storage} (reachable : storage.world.Reachable)
    {settings : Settings} {now : Int} {player : PlayerId} {request : Request}
    {answer : Except StoreFailure Response}
    (executed : Storage.execute settings now player request storage = (answer, after)) :
    after.world.Reachable := by
  rcases Storage.execute_unlimited executed with ⟨_, _, rfl⟩ | unlimited
  · exact reachable
  · have step := Step.command unlimited
    exact reachable.step step

end Starlane
