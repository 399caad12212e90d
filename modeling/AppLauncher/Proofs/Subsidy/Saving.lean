import AppLauncher.Proofs.Subsidy.Network
import AppLauncher.Proofs.Subsidy.Outcome
import AppLauncher.Proofs.Subsidy.Serial
import AppLauncher.Proofs.Subsidy.Wire

/-!
Saving. What is sent, what is returned and what the store holds afterwards agree, whatever goes on while the request
is on its way. A save is taken for done if and only if the reply to it is a receipt. Whether the receipt speaks of
success is not looked at.
-/
namespace AppLauncher

open Json (Outline IsWord)

/-- A body that is the text of a value holds what is read of that value. -/
theorem Operation.isJson_render {α : Type} {read : Outline → Option α} {value : Json} {answer : α}
    (exact : value.IsExact) (reads : read (.ofJson value) = some answer) :
    IsJson read (.whole value.render.toUTF8) answer :=
  ⟨_, Http.Body.outlines_of_read (Outline.read?_render exact), reads⟩

namespace Store

/-! ### Receipts -/

/-- What is saved hangs on the id of a receipt and on nothing else in it. -/
theorem confirmed_congr {now fresh : String} {set : CriteriaSet} {receipt other : Receipt}
    (same : receipt.id = other.id) : confirmed now fresh set receipt = confirmed now fresh set other := by
  rw [confirmed, confirmed, same]

namespace Action

variable {σ : Type}

theorem alone_save_eq_ok_iff (ask : Backend σ) (now fresh : String) (set saved : CriteriaSet) (world : σ × Store) :
    ((save now fresh set).alone ask world).1 = .ok saved ↔
      ∃ receipt, (ask (.save (stamped now set)) world.1).1 = .ok receipt ∧
        saved = confirmed now fresh set receipt := by
  rw [alone_save]
  rcases ask (.save (stamped now set)) world.1 with ⟨failure | receipt, state⟩
  · refine iff_of_false nofun ?_
    rintro ⟨receipt, answered, _⟩
    cases answered
  · constructor
    · intro returned
      exact ⟨receipt, rfl, (Except.ok.inj returned).symm⟩
    · rintro ⟨other, answered, rfl⟩
      cases answered
      rfl

/-- A set is put behind the saved ones if it is returned, and a save that fails changes nothing. -/
theorem alone_save_store (ask : Backend σ) (now fresh : String) (set : CriteriaSet) (world : σ × Store) :
    let made := (save now fresh set).alone ask world
    (∀ saved, made.1 = .ok saved → made.2.2 = world.2.update (·.append saved)) ∧
      ∀ failure, made.1 = .error failure → made.2.2 = world.2 := by
  rw [alone_save]
  rcases ask (.save (stamped now set)) world.1 with ⟨failure | receipt, state⟩
  · exact ⟨nofun, fun _ _ => rfl⟩
  · refine ⟨fun saved returned => ?_, nofun⟩
    cases returned
    rfl

/-- A save returns a set if and only if the reply to its request is a success whose body is a receipt, be it one that
denies the success; then the set goes behind the saved ones. Otherwise the save fails, and nothing has changed. -/
theorem saved_iff_receipt (connection : Connection σ) (state : σ) (store : Store) (now fresh : String)
    (set : CriteriaSet) :
    let token := connection.token state
    let made := (save now fresh set).alone connection.ask (state, store)
    (∀ saved, made.1 = .ok saved ↔ ∃ request status body receipt,
      (Operation.save (stamped now set)).request connection.service token.1 = .ok request ∧
      (connection.send request token.2).1 = .answered status body ∧ (200 ≤ status ∧ status < 300) ∧
      Operation.IsJson Receipt.ofOutline? body receipt ∧ saved = confirmed now fresh set receipt) ∧
    (∀ saved, made.1 = .ok saved → made.2.2 = store.update (·.append saved)) ∧
    (∀ failure, made.1 = .error failure → made.2.2 = store) ∧
    ∀ receipt other : Receipt, receipt.id = other.id →
      confirmed now fresh set receipt = confirmed now fresh set other := by
  intro token made
  obtain ⟨appends, keeps⟩ := alone_save_store connection.ask now fresh set (state, store)
  refine ⟨fun saved => ?_, appends, keeps, fun _ _ => confirmed_congr⟩
  rw [alone_save_eq_ok_iff]
  constructor
  · rintro ⟨receipt, answered, confirms⟩
    obtain ⟨request, status, body, made, sent, inside, holds⟩ := connection.ask_eq_ok_iff.mp answered
    exact ⟨request, status, body, receipt, made, sent, inside, holds, confirms⟩
  · rintro ⟨request, status, body, receipt, made, sent, inside, holds, confirms⟩
    exact ⟨receipt, connection.ask_eq_ok_iff.mpr ⟨request, status, body, made, sent, inside, holds⟩, confirms⟩

/-- A backend that says the same to everything. -/
def replying (reply : Json) : Connection Unit where
  service := .nearby
  token := pure (some "t")
  send _ := pure (.answered 200 reply.render.toUTF8)

/-- What the backend says when it has saved a set. -/
def consent : Json := .object [("id", .string "7")]

/-- An empty draft is saved under the id that the receipt gives. -/
theorem named_receipt_saved :
    let made := (save "today" "a" {}).alone (replying consent).ask ((), Store.new)
    let saved : CriteriaSet := { savedId := some "7", timestamp := some "today" }
    made.1 = .ok saved ∧ made.2.2.value.saved = [saved] := by
  intro made saved
  obtain ⟨returns, appends, -⟩ := saved_iff_receipt (replying consent) () Store.new "today" "a" {}
  have exact : consent.IsExact := by simp [consent, Json.IsExact, Json.Every, Json.EveryField, Json.ReadsBack]
  have read : Operation.IsJson Receipt.ofOutline? consent.render.toUTF8 { id := some "7" } :=
    Operation.isJson_render exact rfl
  have returned : made.1 = .ok saved := (returns saved).mpr ⟨_, 200, _, _, rfl, rfl, by decide, read, rfl⟩
  refine ⟨returned, ?_⟩
  rw [appends saved returned]
  rfl

/-- What the backend says when it refuses a set. -/
def refusal : Json := .object [("success", .bool false)]

/-- A set that the backend refuses is returned and shown as saved, under an id that the backend never gave. -/
theorem refused_save_recorded :
    let made := (save "today" "a" {}).alone (replying refusal).ask ((), Store.new)
    let saved : CriteriaSet := { savedId := some "a", timestamp := some "today" }
    Operation.IsJson Receipt.ofOutline? refusal.render.toUTF8 { success := some false } ∧
      (∀ request, ((replying refusal).send request ()).1 = .answered 200 refusal.render.toUTF8) ∧
      made.1 = .ok saved ∧ made.2.2.value.saved = [saved] := by
  intro made saved
  have exact : refusal.IsExact := by simp [refusal, Json.IsExact, Json.Every, Json.EveryField, Json.ReadsBack]
  have read : Operation.IsJson Receipt.ofOutline? refusal.render.toUTF8 { success := some false } :=
    Operation.isJson_render exact rfl
  have answered : ((replying refusal).ask (.save (stamped "today" {})) ()).1 = .ok { success := some false } :=
    (Connection.ask_eq_ok_iff _).mpr ⟨_, 200, _, rfl, rfl, by decide, read⟩
  have returned : made.1 = .ok saved := (alone_save_eq_ok_iff _ _ _ _ _ _).mpr ⟨_, answered, rfl⟩
  refine ⟨read, fun _ => rfl, returned, ?_⟩
  rw [(alone_save_store _ _ _ _ _).1 saved returned]
  rfl

end Action

/-! ### On its way -/

/-- What a save sends: the set without its id, and with the time unless it has one. -/
theorem posted_comesBack {now : String} {set : CriteriaSet}
    (words : ∀ criterion ∈ set.criteria, IsWord criterion.id) :
    ∃ outline, Outline.read? (stamped now set).withoutId.toJson.render = some outline ∧
      outline.valuesOf "savedId" = [] ∧
      CriteriaSet.ofOutline? outline =
        some { set with savedId := none, timestamp := set.timestamp <|> some now } := by
  have posted : (stamped now set).withoutId.toJson.IsPlain := CriteriaSet.plain words
  have undone : Outline.Undoes CriteriaSet.ofOutline? CriteriaSet.toJson (stamped now set).withoutId :=
    CriteriaSet.undoes words
  have canonical := posted.imp fun _ => And.left
  have absent : (stamped now set).withoutId.toJson.field? "savedId" = none :=
    Json.field?_record (by simp) "savedId"
  refine ⟨_, Outline.read?_render (posted.imp fun _ => And.right), ?_, ?_⟩
  · exact Outline.valuesOf_eq_nil (Outline.json?_ofJson canonical) absent
  · exact undone _ (Outline.spells_ofJson canonical)

/-- A save asks for one thing, and a receipt settles it. -/
theorem Action.Outcome.of_save {now fresh : String} {set : CriteriaSet} {operation : Operation} (answers : Answers)
    {value : Option (save now fresh set).Value} {before after : Store}
    (outcome : (save now fresh set).Outcome operation (answers operation) value before after) :
    operation = .save (stamped now set) ∧
      ∀ receipt, answers (.save (stamped now set)) = .ok receipt →
        value = some (.ok (confirmed now fresh set receipt)) ∧
          after = before.update (·.append (confirmed now fresh set receipt)) := by
  generalize given : answers operation = answer at outcome
  cases outcome with
  | saved _ _ _ receipt =>
    refine ⟨rfl, fun other same => ?_⟩
    cases given.symm.trans same
    exact ⟨rfl, rfl⟩
  | unsaved _ _ _ failure =>
    refine ⟨rfl, fun other same => ?_⟩
    cases given.symm.trans same

namespace Traffic

/-- A save that waits for its answer, at whatever moment and among whatever other calls, has sent the set without its
id, and with the time unless it has one. When the receipt comes, the save returns this set under the id of the receipt,
else under the one that the set had, else under a fresh one, and puts just this set behind the saved ones of that
moment. Nothing else changes. -/
theorem saved_as_sent (store : Store) (events : List Event) {place : Nat} {task : Task} {now fresh : String}
    {set : CriteriaSet} {answers : Nat → Answers}
    (underway : (run { store } events).underway[place]? = some task)
    (saves : task.job = ⟨.save now fresh set, answers⟩)
    (words : ∀ criterion ∈ set.criteria, IsWord criterion.id) :
    let traffic := run { store } events
    let sent : CriteriaSet := { set with savedId := none, timestamp := set.timestamp <|> some now }
    task.operation = .save (stamped now set) ∧
    (∀ service token request, task.operation.request service token = .ok request →
      request.method = .post ∧ request.url = service.endpoint ["save"] ∧ ∃ body outline,
        request.body = some body ∧ Outline.read? body.render = some outline ∧
        outline.valuesOf "savedId" = [] ∧ CriteriaSet.ofOutline? outline = some sent) ∧
    ∀ receipt, answers task.answered (.save (stamped now set)) = .ok receipt →
      let saved : CriteriaSet := { sent with savedId := some ((receipt.id <|> set.savedId).getD fresh) }
      let after := traffic.step (.answer place)
      after.completed = traffic.completed ++ [⟨⟨.save now fresh set, answers⟩, .ok saved⟩] ∧
        after.store.value = { traffic.store.value with saved := traffic.store.value.saved ++ [saved] } := by
  intro traffic sent
  obtain ⟨value, outcome, completed⟩ := (obeys_run store events).outcome ⟨place, rfl, underway⟩
  obtain ⟨job, answered, operation, settle, next⟩ := task
  subst saves
  obtain ⟨rfl, settles⟩ := Action.Outcome.of_save (answers answered) outcome
  refine ⟨rfl, fun service token request made => ?_, fun receipt given => ?_⟩
  · obtain ⟨outline, parsed, nameless, posted⟩ := posted_comesBack words
    rw [Operation.request_eq made]
    exact ⟨rfl, rfl, _, outline, rfl, parsed, nameless, posted⟩
  · obtain ⟨rfl, settled⟩ := settles receipt given
    have same : confirmed now fresh set receipt =
        { sent with savedId := some ((receipt.id <|> set.savedId).getD fresh) } := by
      unfold confirmed
      cases receipt.id <;> rfl
    refine ⟨?_, ?_⟩
    · rw [← same]
      exact completed
    · rw [← same, settled]
      rfl

/-- A save with a list answered and a set selected while it is on its way. -/
def overtaken : List Event :=
  [.start ⟨.save "today" "a" { criteria := [⟨1, "x"⟩], savedId := some "old" }, fun _ => lister⟩,
    .start ⟨.refresh, fun _ => lister⟩, .start ⟨.select (some {}) false, fun _ => lister⟩, .answer 1]

theorem overtaken_saved_as_sent :
    let traffic := run { store := Store.new } overtaken
    let set : CriteriaSet := { criteria := [⟨1, "x"⟩], savedId := some "old" }
    let saved : CriteriaSet := { criteria := [⟨1, "x"⟩], savedId := some "2", timestamp := some "today" }
    (∃ task, traffic.underway[0]? = some task ∧ task.job = ⟨.save "today" "a" set, fun _ => lister⟩) ∧
      (∀ criterion ∈ set.criteria, IsWord criterion.id) ∧
      (traffic.step (.answer 0)).store.value =
        { saved := [{ savedId := some "1" }, saved], selected := some {} } := by
  intro traffic set saved
  have words : ∀ criterion ∈ set.criteria, IsWord criterion.id := by
    simp [set, IsWord]
  have underway : traffic.underway[0]? =
      some ⟨⟨.save "today" "a" set, fun _ => lister⟩, 0, .save (stamped "today" set), _, _⟩ := rfl
  obtain ⟨-, -, settles⟩ := saved_as_sent Store.new overtaken underway rfl words
  refine ⟨⟨_, underway, rfl⟩, words, ?_⟩
  exact (settles _ rfl).2

end Traffic

end Store

end AppLauncher
