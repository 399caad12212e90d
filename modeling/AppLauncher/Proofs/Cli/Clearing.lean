import AppLauncher.Proofs.Cli.Resolving
import AppLauncher.Proofs.Subsidy.Clearing

/-!
Clearing on the command line. Every listed set is deleted by one request, and what is said of it is what the replies
say: how many deletes were acknowledged, of how many, and which ids were not. A list that cannot be had counts as an
empty one, and then nothing is known of what the backend still has.
-/
namespace AppLauncher

open Store (persisted)

/-! ### Replies to deletes -/

/-- Whether a reply acknowledges what was asked for. -/
def Http.Reply.isDone : Http.Reply → Bool
  | .lost => false
  | .answered status body => Http.isSuccess status && (Operation.readDone body).isOk

theorem Operation.isOk_outcome_delete (id : String) (url : Url) (reply : Http.Reply) :
    ((Operation.delete id).outcome url reply).isOk = reply.isDone := by
  cases reply with
  | lost => rfl
  | answered status body =>
    unfold outcome Http.Reply.isDone
    dsimp only
    cases Http.isSuccess status with
    | true => exact (Bool.true_and _).symm
    | false => rfl

namespace Store

/-- The ids for which something was not done. -/
def undone (ids : List String) (done : List Bool) : List String :=
  ((ids.zip done).filter fun exchange => !exchange.2).map Prod.fst

theorem undeleted_eq_undone (ids : List String) (answers : List (Except Failure Unit)) :
    undeleted ids answers = undone ids (answers.map (·.isOk)) := by
  unfold undone
  rw [List.zip_map_right, List.filter_map, List.map_map]
  rfl

/-- Of each id it is told whether it was done, so that the two numbers add up. -/
theorem length_undone_add_count {ids : List String} {done : List Bool} (same : done.length = ids.length) :
    (undone ids done).length + done.count true = ids.length := by
  induction ids generalizing done with
  | nil =>
    rw [List.eq_nil_of_length_eq_zero same]
    rfl
  | cons id ids ih =>
    cases done with
    | nil => cases same
    | cons first done =>
      have rest := ih (Nat.succ.inj same)
      cases first with
      | true =>
        have kept : undone (id :: ids) (true :: done) = undone ids done := rfl
        rw [kept, List.count_cons_self, List.length_cons]
        omega
      | false =>
        have noted : undone (id :: ids) (false :: done) = id :: undone ids done := rfl
        rw [noted, List.count_cons_of_ne Bool.false_ne_true, List.length_cons, List.length_cons]
        omega

/-- Nothing is left undone if and only if everything was done. -/
theorem undone_eq_nil_iff {ids : List String} {done : List Bool} (same : done.length = ids.length) :
    undone ids done = [] ↔ ∀ each ∈ done, each = true := by
  have total := length_undone_add_count same
  rw [← List.length_eq_zero_iff]
  constructor
  · intro nothing each member
    have all : done.count true = done.length := by omega
    exact (List.count_eq_length.mp all each member).symm
  · intro all
    have count := List.count_eq_length.mpr fun each member => (all each member).symm
    omega

theorem filterMap_persisted (sets : List CriteriaSet) :
    (persisted sets).filterMap (·.savedId) = sets.filterMap (·.savedId) := by
  rw [persisted, List.filterMap_filter]
  refine List.filterMap_congr fun set _ => ?_
  unfold CriteriaSet.isPersisted
  cases set.savedId <;> rfl

theorem length_persisted (sets : List CriteriaSet) :
    (persisted sets).length = (sets.filterMap (·.savedId)).length := by
  have names := congrArg List.length (map_some_ids (identified_persisted sets))
  rw [List.length_map, List.length_map, filterMap_persisted] at names
  exact names.symm

end Store

namespace Cli

/-- A backend to which nobody else says anything. -/
def aside {σ : Type} (ask : Backend σ) : Surroundings σ := fun operation world =>
  ((ask operation world.1).1, (ask operation world.1).2, world.2)

namespace Scene

variable {service : Service} {tokenFile : String} {scene : Scene} {sets : List CriteriaSet}

/-- The replies to requests that are sent one after the other. -/
def replies (scene : Scene) : List Http.Request → List Http.Reply
  | [] => []
  | request :: rest => scene.network scene.requests request :: (scene.sending [request]).replies rest

theorem length_replies (scene : Scene) (requests : List Http.Request) :
    (scene.replies requests).length = requests.length := by
  induction requests generalizing scene with
  | nil => rfl
  | cons request rest ih => exact congrArg Nat.succ (ih _)

theorem map_requestsOf_delete (sendable : scene.Sendable tokenFile) (ids : List String) :
    (scene.requestsOf service tokenFile (ids.map .delete)).map (fun request => (request.method, request.url)) =
      ids.map fun id => (.delete, service.endpoint [id]) := by
  induction ids with
  | nil => rfl
  | cons id ids ih =>
    obtain ⟨request, made, sent⟩ := requestsOf_cons service sendable (.delete id) (ids.map .delete)
    rw [List.map_cons, sent, List.map_cons, ih, Operation.request_eq made]
    rfl

/-- To delete ids sends one request for each of them, and the replies tell what was done. -/
theorem deletes_aside (service : Service) (sendable : scene.Sendable tokenFile) (ids : List String) (store : Store) :
    let deletes := scene.requestsOf service tokenFile (ids.map .delete)
    let made := Store.deletes (aside (client service tokenFile).ask) ids (scene, store)
    made.1.map (·.isOk) = (scene.replies deletes).map (·.isDone) ∧ made.2 = (scene.sending deletes, store) := by
  induction ids generalizing scene with
  | nil => exact ⟨rfl, congrArg (·, store) scene.sending_nil.symm⟩
  | cons id ids ih =>
    obtain ⟨request, made, sent⟩ := requestsOf_cons service sendable (.delete id) (ids.map .delete)
    have asked : aside (client service tokenFile).ask (.delete id) (scene, store) =
        ((Operation.delete id).outcome request.url (scene.network scene.requests request),
          scene.sending [request], store) := by
      unfold aside
      rw [ask_client, made]
      rfl
    have still : (scene.sending [request]).Sendable tokenFile := sendable
    obtain ⟨answers, left⟩ := ih still
    dsimp only at answers left ⊢
    rw [Store.deletes_cons, asked, List.map_cons (f := Operation.delete), sent]
    dsimp only
    refine ⟨?_, ?_⟩
    · rw [List.map_cons, answers, Operation.isOk_outcome_delete]
      rfl
    · rw [left, sending_sending]
      rfl

/-- To list the sets is to ask for them; what cannot be listed shows as nothing. -/
theorem play_list (store : Store) : Work.play ((client service tokenFile).perform Store.list) store scene =
    match ((client service tokenFile).ask .list scene).1 with
    | .ok sets => (.ok (persisted sets, (store.update (·.startLoading)).update (·.load (persisted sets))),
        scene.sending (scene.requestsOf service tokenFile [.list]))
    | .error _ => (.ok ([], (store.update (·.startLoading)).update (·.stopLoading)),
        scene.sending (scene.requestsOf service tokenFile [.list])) := by
  rw [Client.play_perform, ← ask_client_scene]
  simp only [Store.list, Call.map, Store.refresh, Progress.map, Progress.alone_waiting]
  rcases (client service tokenFile).ask .list scene with ⟨_ | sets, after⟩ <;> rfl

/-- To clear the store is to delete the ids that it knows, and to tell those that were not deleted. -/
theorem play_clearAll (sendable : scene.Sendable tokenFile) (store : Store) :
    let ids := store.value.ids
    let deletes := scene.requestsOf service tokenFile (ids.map .delete)
    Work.play ((client service tokenFile).perform Store.clearAll) store scene =
      (.ok (Store.undone ids ((scene.replies deletes).map (·.isDone)), store.put {}), scene.sending deletes) := by
  intro ids deletes
  have course : (Store.clearAll store).2.alone (client service tokenFile).ask (scene, (Store.clearAll store).1) =
      Call.among (aside (client service tokenFile).ask) Store.clearAll (scene, store) := rfl
  obtain ⟨answers, left⟩ := deletes_aside service sendable ids store
  rw [Client.play_perform]
  dsimp only
  rw [course, Store.among_clearAll]
  dsimp only at answers left ⊢
  rw [Store.undeleted_eq_undone, answers, left]

theorem Lists.ask_eq (lists : scene.Lists service tokenFile sets) :
    ((client service tokenFile).ask .list scene).1 = .ok sets := lists_iff.mp lists

theorem Lists.unique {others : List CriteriaSet} (lists : scene.Lists service tokenFile sets)
    (othersListed : scene.Lists service tokenFile others) : others = sets :=
  Except.ok.inj (othersListed.ask_eq.symm.trans lists.ask_eq)

/-! ### What is said -/

/-- The scene with texts printed, and said beside what is printed. -/
def saying (scene : Scene) (texts : String × String) : Scene :=
  { scene with output := scene.output ++ texts.1, warnings := scene.warnings ++ texts.2 }

theorem saying_printed (scene : Scene) (text : String) :
    scene.saying (text, "") = { scene with output := scene.output ++ text } :=
  congrArg (fun warnings => { scene with output := scene.output ++ text, warnings }) String.append_empty

theorem saying_warned (scene : Scene) (text : String) :
    scene.saying ("", text) = { scene with warnings := scene.warnings ++ text } :=
  congrArg (fun output => { scene with output, warnings := scene.warnings ++ text }) String.append_empty

/-- What is said after ids have been deleted except for those that could not be. -/
def clearedTexts (ids failed : List String) : String × String :=
  if ids = [] then ("Nothing to delete.\n", "")
  else if failed = [] then ("Deleted " ++ toString ids.length ++ " saved criteria." ++ "\n", "")
  else ("", Client.clearedText ids.length failed ++ "\n")

theorem clearedTexts_quiet_iff {ids failed : List String} :
    (clearedTexts ids failed).2 = "" ↔ ids = [] ∨ failed = [] := by
  unfold clearedTexts
  split
  next empty => exact iff_of_true rfl (.inl empty)
  next filled =>
    split
    next spotless => exact iff_of_true rfl (.inr spotless)
    next remaining =>
      refine iff_of_false (fun silent => ?_) (not_or.mpr ⟨filled, remaining⟩)
      exact absurd (String.append_eq_empty_iff.mp silent).2 (by decide)

theorem clearedTexts_nothing_iff {ids failed : List String} :
    (clearedTexts ids failed).1 = "Nothing to delete.\n" ↔ ids = [] := by
  unfold clearedTexts
  split
  next empty => exact iff_of_true rfl empty
  next filled =>
    split
    next =>
      refine iff_of_false (fun same => ?_) filled
      -- One text starts with a D, and the other one with an N.
      have heads := congrArg (fun text => text.toList.head?) same
      simp [String.toList_append] at heads
    next => exact iff_of_false (fun same => absurd (show "" = "Nothing to delete.\n" from same) (by decide)) filled

/-- Where nothing is shown as listed there is nothing to delete. -/
theorem play_clear_of_empty {store left : Store} {after : Scene}
    (shown : Work.play ((client service tokenFile).perform Store.list) store scene = (.ok ([], left), after)) :
    Work.play ((client service tokenFile).run (.clear true)) store scene =
      (.ok ((), left), after.saying (clearedTexts [] [])) := by
  rw [Client.run, Client.clear, Work.play_bind, shown]
  refine (play_print ["Nothing to delete."] left).trans ?_
  exact congrArg (Except.ok ((), left), ·) (after.saying_printed _).symm

/-- Where sets are shown as listed they are all deleted, and what is said hangs on what the replies say. -/
theorem play_clear_of_filled {store left : Store} {after : Scene} {items : List CriteriaSet} (filled : items ≠ [])
    (shown : Work.play ((client service tokenFile).perform Store.list) store scene = (.ok (items, left), after))
    (known : items.length = left.value.ids.length) (sendable : after.Sendable tokenFile) :
    let ids := left.value.ids
    let deletes := after.requestsOf service tokenFile (ids.map .delete)
    let failed := Store.undone ids ((after.replies deletes).map (·.isDone))
    Work.play ((client service tokenFile).run (.clear true)) store scene =
      (.ok ((), left.put {}), (after.sending deletes).saying (clearedTexts ids failed)) := by
  intro ids deletes failed
  have named : ids ≠ [] := by
    intro empty
    rw [show left.value.ids = [] from empty] at known
    exact filled (List.eq_nil_of_length_eq_zero known)
  rw [Client.run, Client.clear, Work.play_bind, shown]
  dsimp only
  rw [if_neg (by simpa using filled), if_neg (by decide), Work.play_bind, play_clearAll sendable, known]
  dsimp only
  unfold clearedTexts
  rw [if_neg named]
  by_cases spotless : failed = []
  · rw [if_pos spotless, if_pos (List.isEmpty_iff.mpr spotless)]
    refine (play_print _ _).trans ?_
    rw [printed_singleton]
    exact congrArg (Except.ok ((), left.put {}), ·) (saying_printed ..).symm
  · rw [if_neg spotless, if_neg fun empty => spotless (List.isEmpty_iff.mp empty)]
    exact congrArg (Except.ok ((), left.put {}), ·) (saying_warned ..).symm

/-- Where no list can be had, the command has only asked for it. -/
theorem play_clear_of_unlisted (unlisted : ∀ sets, ¬scene.Lists service tokenFile sets) (store : Store) :
    ∃ left, Work.play ((client service tokenFile).run (.clear true)) store scene = (.ok ((), left),
      (scene.sending (scene.requestsOf service tokenFile [.list])).saying (clearedTexts [] [])) := by
  refine ⟨(store.update (·.startLoading)).update (·.stopLoading), play_clear_of_empty ?_⟩
  rw [play_list]
  cases answered : ((client service tokenFile).ask .list scene).1 with
  | ok sets => exact (unlisted sets (lists_iff.mpr answered)).elim
  | error failure => rfl

/-- Where a list can be had, each listed id is deleted, and what is said hangs on the replies. -/
theorem Lists.play_clear (lists : scene.Lists service tokenFile sets) (store : Store) :
    let ids := sets.filterMap (·.savedId)
    let listed := scene.sending (scene.requestsOf service tokenFile [.list])
    let deletes := scene.requestsOf service tokenFile (ids.map .delete)
    let failed := Store.undone ids ((listed.replies deletes).map (·.isDone))
    ∃ left, Work.play ((client service tokenFile).run (.clear true)) store scene =
      (.ok ((), left), (listed.sending deletes).saying (clearedTexts ids failed)) := by
  intro ids listed deletes failed
  let left := (store.update (·.startLoading)).update (·.load (persisted sets))
  have shown : Work.play ((client service tokenFile).perform Store.list) store scene =
      (.ok (persisted sets, left), listed) := by
    rw [play_list, lists.ask_eq]
  have known : left.value.ids = ids := Store.filterMap_persisted sets
  by_cases empty : persisted sets = []
  · rw [empty] at shown
    have unnamed : ids = [] := by
      rw [← known]
      exact congrArg (List.filterMap (·.savedId)) empty
    have unsent : deletes = [] := congrArg (fun ids => scene.requestsOf service tokenFile (ids.map .delete)) unnamed
    refine ⟨left, (play_clear_of_empty shown).trans ?_⟩
    rw [unsent, sending_nil, unnamed]
    rfl
  · have count : (persisted sets).length = left.value.ids.length := by
      rw [known]
      exact Store.length_persisted sets
    have course := play_clear_of_filled empty shown count lists.sendable
    rw [known] at course
    exact ⟨_, course⟩

/-- Whether each delete of a listed id is acknowledged. -/
def Deletes (scene : Scene) (service : Service) (tokenFile : String) (sets : List CriteriaSet) : Prop :=
  ∀ reply ∈ (scene.sending (scene.requestsOf service tokenFile [.list])).replies
    (scene.requestsOf service tokenFile ((sets.filterMap (·.savedId)).map .delete)), reply.isDone

/-- Whether every delete is acknowledged is told by the ids whose deletes were not. -/
theorem Lists.deletes_iff (lists : scene.Lists service tokenFile sets) :
    let ids := sets.filterMap (·.savedId)
    let listed := scene.sending (scene.requestsOf service tokenFile [.list])
    let deletes := scene.requestsOf service tokenFile (ids.map .delete)
    let done := (listed.replies deletes).map (·.isDone)
    deletes.length = ids.length ∧ done.length = ids.length ∧
      (scene.Deletes service tokenFile sets ↔ Store.undone ids done = []) := by
  intro ids listed deletes done
  have sent : deletes.length = ids.length := by
    rw [length_requestsOf lists.sendable, List.length_map]
  have told : done.length = ids.length := by
    rw [List.length_map, length_replies, sent]
  refine ⟨sent, told, ?_⟩
  rw [Store.undone_eq_nil_iff told, List.forall_mem_map]
  rfl

/-- The command that clears the store never fails. It says nothing of ids that the backend still has if and only if it
could not have the list, or it had one and each delete of a listed id was acknowledged. That there is nothing to delete
it says if and only if it could not have the list, or had one without an id. Where it could not have the list it has
done nothing but to ask for it. -/
theorem cleared_quietly_iff (scene : Scene) (service : Service) (tokenFile : String) (store : Store) :
    let lists := scene.Lists service tokenFile
    let made := Work.play ((client service tokenFile).run (.clear true)) store scene
    (∃ left, made.1 = .ok ((), left)) ∧
    (made.2.warnings = scene.warnings ↔
      (∀ sets, ¬lists sets) ∨ ∃ sets, lists sets ∧ scene.Deletes service tokenFile sets) ∧
    (made.2.output = scene.output ++ "Nothing to delete.\n" ↔
      (∀ sets, ¬lists sets) ∨ ∃ sets, lists sets ∧ ∀ set ∈ sets, set.savedId = none) ∧
    ((∀ sets, ¬lists sets) → made.2.requests = scene.requests ++ scene.requestsOf service tokenFile [.list]) := by
  intro lists made
  by_cases unlisted : ∀ sets, ¬lists sets
  · obtain ⟨left, course⟩ := play_clear_of_unlisted unlisted store
    rw [show made = _ from course]
    refine ⟨⟨left, rfl⟩, iff_of_true String.append_empty (.inl unlisted), iff_of_true rfl (.inl unlisted), fun _ => rfl⟩
  · simp only [not_forall, not_not] at unlisted
    obtain ⟨sets, listed⟩ := unlisted
    obtain ⟨left, course⟩ := listed.play_clear store
    obtain ⟨-, -, acknowledged⟩ := listed.deletes_iff
    have only (property : List CriteriaSet → Prop) :
        ((∀ sets, ¬lists sets) ∨ ∃ sets, lists sets ∧ property sets) ↔ property sets := by
      constructor
      · rintro (unlisted | ⟨others, othersListed, holds⟩)
        · exact (unlisted sets listed).elim
        · rwa [listed.unique othersListed] at holds
      · exact fun holds => .inr ⟨sets, listed, holds⟩
    rw [only, only, acknowledged, show made = _ from course]
    refine ⟨⟨left, rfl⟩, ?_, ?_, fun unlisted => (unlisted sets listed).elim⟩
    · refine String.append_eq_left_iff.trans (clearedTexts_quiet_iff.trans (or_iff_right_of_imp fun empty => ?_))
      rw [empty]
      rfl
    · refine (String.append_right_inj _).trans (clearedTexts_nothing_iff.trans ?_)
      exact List.filterMap_eq_nil_iff

/-- A backend that cannot be reached is said to have nothing to delete. -/
theorem outage_nothing_to_delete :
    let scene : Scene := { Store.Action.obliging with network := fun _ _ => .lost }
    let made := Work.play ((client .nearby "/token").run (.clear true)) Store.new scene
    (∃ left, made.1 = .ok ((), left)) ∧ made.2.output = "Nothing to delete.\n" ∧ made.2.warnings = "" ∧
      ∀ sets, ¬scene.Lists .nearby "/token" sets := by
  intro scene made
  have unlisted : ∀ sets, ¬scene.Lists .nearby "/token" sets := by
    rintro sets ⟨_, _, _, _, impossible, _⟩
    cases impossible
  obtain ⟨left, course⟩ := play_clear_of_unlisted unlisted Store.new
  rw [show made = _ from course]
  exact ⟨⟨left, rfl⟩, rfl, rfl, unlisted⟩

/-- What is said after the listed sets have been deleted is what was done: one delete was sent for each listed id, so
many of them were acknowledged, and these are the ids of the others, in the order of the list. Those that failed are
never more than the listed sets. -/
theorem cleared_counts_told (lists : scene.Lists service tokenFile sets) (store : Store) :
    let ids := sets.filterMap (·.savedId)
    let listing := scene.requestsOf service tokenFile [.list]
    let deletes := scene.requestsOf service tokenFile (ids.map .delete)
    let done := ((scene.sending listing).replies deletes).map (·.isDone)
    let failed := Store.undone ids done
    let made := Work.play ((client service tokenFile).run (.clear true)) store scene
    (∃ left, made.1 = .ok ((), left)) ∧
    made.2.requests = scene.requests ++ listing ++ deletes ∧
    deletes.map (fun request => (request.method, request.url)) =
      ids.map (fun id => (.delete, service.endpoint [id])) ∧
    failed.length ≤ (persisted sets).length ∧
    (persisted sets).length - failed.length = done.count true ∧
    (persisted sets).length = deletes.length ∧
    (ids = [] → made.2.output = scene.output ++ "Nothing to delete.\n" ∧ made.2.warnings = scene.warnings) ∧
    (ids ≠ [] → failed = [] → made.2.warnings = scene.warnings ∧
      made.2.output = scene.output ++ ("Deleted " ++ toString (done.count true) ++ " saved criteria." ++ "\n")) ∧
    (failed ≠ [] → made.2.output = scene.output ∧ made.2.warnings = scene.warnings ++
      ("Deleted " ++ toString (done.count true) ++ " of " ++ toString deletes.length ++
        "; still on the server: " ++ ", ".intercalate failed ++ "\n")) := by
  intro ids listing deletes done failed made
  obtain ⟨left, course⟩ := lists.play_clear store
  obtain ⟨sent, told, -⟩ := lists.deletes_iff
  have total : failed.length + done.count true = ids.length := Store.length_undone_add_count told
  have count : (persisted sets).length = ids.length := Store.length_persisted sets
  have counted : (persisted sets).length - failed.length = done.count true := by omega
  have output : made.2.output = scene.output ++ (clearedTexts ids failed).1 := congrArg (·.2.output) course
  have warnings : made.2.warnings = scene.warnings ++ (clearedTexts ids failed).2 := congrArg (·.2.warnings) course
  refine ⟨⟨left, congrArg Prod.fst course⟩, congrArg (·.2.requests) course,
    map_requestsOf_delete lists.sendable ids, by omega, counted, count.trans sent.symm, ?_, ?_, ?_⟩
  · intro empty
    rw [output, warnings, clearedTexts, if_pos empty]
    exact ⟨rfl, String.append_empty⟩
  · intro filled spotless
    rw [spotless, List.length_nil] at total
    rw [output, warnings, clearedTexts, if_neg filled, if_pos spotless, ← total, Nat.zero_add]
    exact ⟨String.append_empty, rfl⟩
  · intro remaining
    have filled : ids ≠ [] := by
      intro empty
      rw [empty, List.length_nil] at total
      exact remaining (List.eq_nil_of_length_eq_zero (by omega))
    rw [output, warnings, clearedTexts, if_neg filled, if_neg remaining, Client.clearedText, ← counted, sent, ← count]
    exact ⟨String.append_empty, rfl⟩

/-- Two listed sets have one id, so that the second delete finds nothing to delete. -/
theorem twice_listed_counts_told :
    let scene : Scene := { Store.Action.obliging with
      network := fun before _ => match before.length with
        | 0 => .answered 200 Client.listing.render.toUTF8
        | 1 => .answered 204 .empty
        | _ => .answered 404 .empty }
    let made := Work.play ((client .nearby "/token").run (.clear true)) Store.new scene
    (∃ sets, scene.Lists .nearby "/token" sets) ∧
      made.2.requests.map (·.method) = [.get, .delete, .delete] ∧ made.2.output = "" ∧
      made.2.warnings = "Deleted 1 of 2; still on the server: a\n" := by
  intro scene made
  have token : scene.token? "/token" = some "t" := by rfl
  have lists : scene.Lists .nearby "/token" [{ name := some "x" }, { name := some "y", savedId := some "a" },
      { name := some "z", savedId := some "a" }] := by
    rw [Scene.Lists, token]
    exact ⟨_, 200, _, rfl, rfl, by decide, _,
      Http.Body.outlines_of_read (Json.Outline.read?_render Client.listing_isExact), rfl⟩
  obtain ⟨-, sent, -, -, -, -, -, -, warned⟩ := cleared_counts_told lists Store.new
  obtain ⟨asking, asks, listing⟩ := requestsOf_cons .nearby lists.sendable .list []
  obtain ⟨first, deletes, rest⟩ := requestsOf_cons .nearby lists.sendable (.delete "a") [.delete "a"]
  obtain ⟨other, deletesAgain, last⟩ := requestsOf_cons .nearby lists.sendable (.delete "a") []
  have ids : ([{ name := some "x" }, { name := some "y", savedId := some "a" },
      { name := some "z", savedId := some "a" }] : List CriteriaSet).filterMap (·.savedId) = ["a", "a"] := by rfl
  have requests : scene.requestsOf .nearby "/token" (["a", "a"].map .delete) = [first, other] := by
    rw [List.map_cons, List.map_cons, List.map_nil, rest, last]
    rfl
  have replies : (scene.sending [asking]).replies [first, other] = [.answered 204 .empty, .answered 404 .empty] := by
    rfl
  have done : [Http.Reply.answered 204 .empty, .answered 404 .empty].map (·.isDone) = [true, false] := by
    decide +kernel
  rw [show scene.requestsOf .nearby "/token" [] = [] from rfl] at listing
  rw [ids, requests, listing] at sent warned
  rw [replies, done] at warned
  obtain ⟨printed, told⟩ := warned (by decide)
  unfold made
  refine ⟨⟨_, lists⟩, ?_, ?_, ?_⟩
  · rw [sent, Operation.request_eq asks, Operation.request_eq deletes, Operation.request_eq deletesAgain]
    rfl
  · rw [printed]
    rfl
  · rw [told, show [first, other].length = 2 from rfl, show scene.warnings = "" from rfl]
    decide +kernel

end Scene

end Cli

end AppLauncher
