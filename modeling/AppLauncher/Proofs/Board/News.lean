import AppLauncher.Proofs.Board.History

/-!
The news of a view. A view has news if it was notified since it was made or last read, once or more
often; it neither misses a notification nor hears of one twice. Views know nothing of each other.
-/
namespace AppLauncher

/-- Whoever has seen no later revision of a cell has news of the next one. -/
theorem Cell.isNews_put {α : Type u} {cell : Cell α} {seen : Nat} (bound : seen ≤ cell.revision)
    (value : α) : (cell.put value).isNews seen := by
  have other : cell.revision + 1 ≠ seen := by omega
  exact bne_iff_ne.mpr other

namespace Board

/-! ### Waiting -/

/-- The cells that a view waits for. -/
inductive Wait where
  | context
  | models

def Wait.other : Wait → Wait
  | context => models
  | models => context

/-- What waiting for one cell comes to. -/
inductive Wake where
  /-- There was something unseen, and the view has seen it now. -/
  | woken (view : View)
  | asleep
  | closed

/-- A view waits for one of the cells. -/
def View.wait (view : View) (board : Board) : Wait → Wake
  | .context =>
    if board.context.isNews view.context then .woken { view with context := board.context.revision }
    else if board.isDown then .closed else .asleep
  | .models =>
    if board.models.isNews view.models then .woken { view with models := board.models.revision }
    else if board.isDown then .closed else .asleep

/-- A view waits for both cells at once. The wait that is over decides, and the `first` one if both are;
a view that is woken reads both cells. -/
def View.race (first : Wait) (view : View) (board : Board) : View × Change :=
  match view.wait board first with
  | .woken seen => ((seen.current board).1, .ready (seen.current board).2)
  | .closed => (view, .closed)
  | .asleep =>
    match view.wait board first.other with
    | .woken seen => ((seen.current board).1, .ready (seen.current board).2)
    | .closed => (view, .closed)
    | .asleep => (view, .pending)

variable {board : Board} {view : View}

theorem View.changed_up (isUp : board.isDown = false) : view.changed board =
    if view.isBehind board then (board.view, .ready board.offered) else (view, .pending) := by
  simp only [changed, isUp, current, Bool.false_eq_true, if_false]

/-- On a board that is up it makes no difference which wait is over first. -/
theorem View.race_up (isUp : board.isDown = false) (first : Wait) :
    view.race first board = view.changed board := by
  rw [changed_up isUp, race, isBehind]
  cases context : board.context.isNews view.context <;>
    cases models : board.models.isNews view.models <;>
      cases first <;> simp [wait, Wait.other, current, context, models, isUp]

/-! ### What a view has seen -/

/-- A view has seen no revision that is still to come. -/
def View.Within (view : View) (board : Board) : Prop :=
  view.context ≤ board.context.revision ∧ view.models ≤ board.models.revision

theorem isBehind_view (board : Board) : board.view.isBehind board = false := by
  simp [View.isBehind, view, Cell.isNews]

theorem isBehind_put_context (within : view.Within board) (context : Context) :
    view.isBehind { board with context := board.context.put context } := by
  rw [View.isBehind, Cell.isNews_put within.1, Bool.true_or]

theorem isBehind_putModels (within : view.Within board) (models : Option (List Model)) :
    view.isBehind (board.putModels models) := by
  rw [View.isBehind, putModels, Cell.isNews_put within.2, Bool.or_true]

/-- The list that a look returns, if it returns one. -/
def View.returned? (view : View) (board : Board) : Look → Option (List Model)
  | .current => some (view.current board).2
  | .hasChanged => none
  | .changed =>
    match (view.changed board).2 with
    | .ready models => some models
    | _ => none

/-- A look leaves a view behind if it was so before and gets no list. -/
theorem isBehind_look (isUp : board.isDown = false) (view : View) (look : Look) :
    (view.look board look).isBehind board ↔
      view.isBehind board ∧ view.returned? board look = none := by
  cases look with
  | current => simp [View.look, View.returned?, View.current, isBehind_view]
  | hasChanged => simp [View.look, View.returned?]
  | changed =>
    cases behind : view.isBehind board <;>
      simp [View.look, View.returned?, View.changed_up isUp, behind, isBehind_view]

theorem view_within (board : Board) : board.view.Within board := ⟨Nat.le_refl _, Nat.le_refl _⟩

theorem look_within (isUp : board.isDown = false) (within : view.Within board) (look : Look) :
    (view.look board look).Within board := by
  cases look with
  | current => exact view_within board
  | hasChanged => exact within
  | changed =>
    rw [View.look, View.changed_up isUp]
    split
    · exact view_within board
    · exact within

/-! ### News in the course of time -/

/-- An act notifies the views if it puts up models, even the same ones, or asks for another context than
the one on the screen. -/
def Notifies (past : List Act) (act : Act) : Prop :=
  (∃ models, act.models? = some models) ∨
    ∃ context, act.context? = some context ∧ context ≠ lastContext past

theorem not_notifies {past : List Act} {act : Act} (unput : act.models? = none)
    (same : ∀ context, act.context? = some context → context = lastContext past) :
    ¬ Notifies past act := by
  rintro (⟨models, put⟩ | ⟨context, asked, other⟩)
  · cases unput.symm.trans put
  · exact other (same context asked)

namespace Watched

variable {watched : Watched} {policy : EmptyMatch} {past : List Act} {act : Act} {place : Nat}

/-- With an act the view at a place gets a list. -/
def Reads (watched : Watched) (place : Nat) (act : Act) : Prop :=
  ∃ look view models, act = .look place look ∧ watched.views[place]? = some view ∧
    view.returned? watched.board look = some models

def HasNews (watched : Watched) (place : Nat) : Prop :=
  ∃ view, watched.views[place]? = some view ∧ view.isBehind watched.board

def Within (watched : Watched) : Prop := ∀ view ∈ watched.views, view.Within watched.board

theorem HasNews.lt_length (news : watched.HasNews place) : place < watched.views.length := by
  obtain ⟨view, found, -⟩ := news
  exact (List.getElem?_eq_some_iff.mp found).1

/-- A notification is news to every view. -/
theorem hasNews_of_notified {after : Watched} (same : after.views = watched.views)
    (behind : ∀ view ∈ watched.views, view.isBehind after.board) :
    after.HasNews place ↔ place < watched.views.length := by
  constructor
  · intro news
    rw [← same]
    exact news.lt_length
  · intro inside
    have found : watched.views[place]? = some watched.views[place] := List.getElem?_eq_getElem inside
    refine ⟨watched.views[place], ?_, behind _ (List.getElem_mem inside)⟩
    rw [same, found]

theorem step_context_same {context : Context} (asked : act.context? = some context)
    (same : watched.board.context.value = context) : watched.step act = watched := by
  rw [step_of_context asked, setContext_same same]

theorem step_context_other {context : Context} (asked : act.context? = some context)
    (other : watched.board.context.value ≠ context) : watched.step act =
      { watched with board := { watched.board with context := watched.board.context.put context } } := by
  rw [step_of_context asked, setContext_other other]

theorem not_reads (unlooked : ∀ place look, act ≠ .look place look) : ¬ watched.Reads place act := by
  rintro ⟨look, view, models, rfl, -⟩
  exact unlooked place look rfl

/-- An act does nothing, or it notifies every view, or a view is made or looked at. -/
theorem step_kinds (told : watched.Told policy past) (act : Act) :
    (watched.step act = watched ∧ ¬ Notifies past act ∧ ∀ place look, act ≠ .look place look) ∨
    (Notifies past act ∧ (∀ place look, act ≠ .look place look) ∧
      (watched.step act).views = watched.views ∧ ∀ view : View, view.Within watched.board →
        view.isBehind (watched.step act).board ∧ view.Within (watched.step act).board) ∨
    act = .subscribe ∨ ∃ place look, act = .look place look := by
  cases asked : act.context? with
  | some context =>
    have noModels : act.models? = none := by cases act <;> first | rfl | cases asked
    have unlooked : ∀ place look, act ≠ .look place look := by
      rintro place look rfl
      cases asked
    by_cases same : watched.board.context.value = context
    · refine .inl ⟨step_context_same asked same, not_notifies noModels ?_, unlooked⟩
      intro other again
      cases asked.symm.trans again
      exact same.symm.trans told.context
    · have notified : Notifies past act :=
        .inr ⟨context, asked, fun equal => same (told.context.trans equal.symm)⟩
      refine .inr (.inl ⟨notified, unlooked, ?_⟩)
      rw [step_context_other asked same]
      exact ⟨rfl, fun view within => ⟨isBehind_put_context within context,
        Nat.le_succ_of_le within.1, within.2⟩⟩
  | none =>
    cases act with
    | setContext context => cases asked
    | follow route =>
      refine .inl ⟨step_follow_unmatched asked, not_notifies rfl ?_, fun _ _ => nofun⟩
      intro other again
      cases asked.symm.trans again
    | putModels models =>
      refine .inr (.inl ⟨.inl ⟨models, rfl⟩, fun _ _ => nofun, rfl, fun view within => ?_⟩)
      exact ⟨isBehind_putModels within models, within.1, Nat.le_succ_of_le within.2⟩
    | subscribe => exact .inr (.inr (.inl rfl))
    | look place look => exact .inr (.inr (.inr ⟨place, look, rfl⟩))

/-- At every step the views have seen no revision that is still to come. -/
theorem Within.step (within : watched.Within) (told : watched.Told policy past) (act : Act) :
    (watched.step act).Within := by
  rcases step_kinds told act with ⟨still, -⟩ | ⟨-, -, views, later⟩ | rfl | ⟨place, look, rfl⟩
  · rw [still]
    exact within
  · intro view member
    rw [views] at member
    exact (later view (within view member)).2
  · intro view member
    rcases List.mem_append.mp member with before | new
    · exact within view before
    · rw [List.mem_singleton.mp new]
      exact view_within _
  · intro view member
    obtain ⟨position, found⟩ := List.mem_iff_getElem?.mp member
    change (watched.views.modify place (·.look watched.board look))[position]? = some view at found
    rw [List.getElem?_modify, Option.map_eq_map, Option.map_eq_some_iff] at found
    obtain ⟨before, was, rfl⟩ := found
    have bound := within before (List.mem_of_getElem? was)
    split
    · exact look_within told.isUp bound look
    · exact bound

/-- A new view has no news. -/
theorem hasNews_subscribe : (watched.step .subscribe).HasNews place ↔ watched.HasNews place := by
  constructor
  · rintro ⟨view, found, behind⟩
    change (watched.views ++ [watched.board.view])[place]? = some view at found
    by_cases inside : place < watched.views.length
    · rw [List.getElem?_append_left inside] at found
      exact ⟨view, found, behind⟩
    · rw [List.getElem?_append_right (Nat.le_of_not_lt inside)] at found
      obtain rfl := List.mem_singleton.mp (List.mem_of_getElem? found)
      cases (isBehind_view _).symm.trans behind
  · intro news
    have inside := news.lt_length
    obtain ⟨view, found, behind⟩ := news
    exact ⟨view, (List.getElem?_append_left inside).trans found, behind⟩

/-- A look is the view's own affair. -/
theorem look_getElem? (watched : Watched) {other : Nat} (different : other ≠ place) (look : Look) :
    (watched.step (.look other look)).views[place]? = watched.views[place]? :=
  List.getElem?_modify_ne _ _ different

theorem hasNews_look (isUp : watched.board.isDown = false) (other : Nat) (look : Look) :
    (watched.step (.look other look)).HasNews place ↔
      watched.HasNews place ∧ ¬ watched.Reads place (.look other look) := by
  by_cases same : other = place
  · subst same
    have after : (watched.step (.look other look)).views[other]? =
        (watched.views[other]?).map (·.look watched.board look) := List.getElem?_modify_eq ..
    cases found : watched.views[other]? with
    | none => simp [HasNews, after, found]
    | some view =>
      have read : watched.Reads other (.look other look) ↔
          view.returned? watched.board look ≠ none := by
        simp [Reads, found, Option.ne_none_iff_exists']
      have behind := isBehind_look isUp view look
      simp only [HasNews, after, found, read, Option.map_some, Option.some.injEq, exists_eq_left',
        not_not]
      exact behind
  · have unread : ¬ watched.Reads place (.look other look) := by
      rintro ⟨_, _, _, equal, -⟩
      cases equal
      exact same rfl
    simp only [HasNews, look_getElem? watched same, unread, not_false_eq_true, and_true]
    rfl

/-- With an act the view at a place has news if the act notifies it, or if it had news and does not
read them. -/
theorem hasNews_step (told : watched.Told policy past) (within : watched.Within) (act : Act) :
    (watched.step act).HasNews place ↔ place < watched.views.length ∧ Notifies past act ∨
      watched.HasNews place ∧ ¬ watched.Reads place act := by
  rcases step_kinds told act with ⟨still, quiet, unlooked⟩ | ⟨notified, unlooked, views, later⟩ | rfl |
    ⟨other, look, rfl⟩
  · simp [still, quiet, not_reads unlooked]
  · rw [hasNews_of_notified views fun view member => (later view (within view member)).1]
    constructor
    · exact fun inside => .inl ⟨inside, notified⟩
    · rintro (⟨inside, -⟩ | ⟨news, -⟩)
      · exact inside
      · exact news.lt_length
  · have quiet : ¬ Notifies past .subscribe := not_notifies rfl fun _ => nofun
    simp [hasNews_subscribe, quiet, not_reads]
  · have quiet : ¬ Notifies past (.look other look) := not_notifies rfl fun _ => nofun
    simp [hasNews_look told.isUp, quiet]

end Watched

/-- In the course of later acts the view at a place gets no list. -/
def Unread (policy : EmptyMatch) (place : Nat) (past later : List Act) : Prop :=
  ∀ between act rest, later = between ++ act :: rest →
    ¬ (run policy (past ++ between)).Reads place act

/-- The views were notified at a moment when the view at a place was there, and it got no list since. -/
def Unseen (policy : EmptyMatch) (acts : List Act) (place : Nat) : Prop :=
  ∃ past act later, acts = past ++ act :: later ∧ place < (run policy past).views.length ∧
    Notifies past act ∧ Unread policy place (past ++ [act]) later

/-- An element of a longer list is the last one, or one of the list before. -/
theorem last_or_before {α : Type} {all early late : List α} {last one : α}
    (split : all ++ [last] = early ++ one :: late) :
    (early = all ∧ one = last ∧ late = []) ∨
      ∃ rest, late = rest ++ [last] ∧ all = early ++ one :: rest := by
  rcases List.eq_nil_or_concat late with rfl | ⟨rest, final, rfl⟩
  · obtain ⟨same, ends⟩ := List.append_inj' split rfl
    exact .inl ⟨same.symm, (List.cons.inj ends).1.symm, rfl⟩
  · have regrouped : all ++ [last] = (early ++ one :: rest) ++ [final] := by
      rw [split, List.concat_eq_append, List.append_assoc, List.cons_append]
    obtain ⟨same, ends⟩ := List.append_inj' regrouped rfl
    cases ends
    exact .inr ⟨rest, List.concat_eq_append, same⟩

section

variable {policy : EmptyMatch} {acts past later : List Act} {act : Act} {place : Nat}

theorem unread_append : Unread policy place past (later ++ [act]) ↔
    Unread policy place past later ∧ ¬ (run policy (past ++ later)).Reads place act := by
  constructor
  · intro unread
    refine ⟨fun between one rest split => ?_, unread later act [] rfl⟩
    exact unread between one (rest ++ [act]) (by rw [split, List.append_assoc]; rfl)
  · rintro ⟨before, last⟩ between one rest split
    rcases last_or_before split with ⟨rfl, rfl, rfl⟩ | ⟨rest, rfl, earlier⟩
    · exact last
    · exact before between one rest earlier

theorem unseen_append : Unseen policy (acts ++ [act]) place ↔
    place < (run policy acts).views.length ∧ Notifies acts act ∨
      Unseen policy acts place ∧ ¬ (run policy acts).Reads place act := by
  constructor
  · rintro ⟨past, one, later, split, there, notified, unread⟩
    rcases last_or_before split with ⟨rfl, rfl, rfl⟩ | ⟨rest, rfl, earlier⟩
    · exact .inl ⟨there, notified⟩
    · obtain ⟨before, last⟩ := unread_append.mp unread
      rw [List.append_assoc, List.singleton_append, ← earlier] at last
      exact .inr ⟨⟨past, one, rest, earlier, there, notified, before⟩, last⟩
  · rintro (⟨there, notified⟩ | ⟨⟨past, one, later, rfl, there, notified, unread⟩, last⟩)
    · exact ⟨acts, act, [], rfl, there, notified, fun between one rest split => by simp at split⟩
    · refine ⟨past, one, later ++ [act], List.append_assoc .., there, notified, ?_⟩
      refine unread_append.mpr ⟨unread, ?_⟩
      rw [List.append_assoc, List.singleton_append]
      exact last

end

theorem within_run (policy : EmptyMatch) (acts : List Act) : (run policy acts).Within := by
  induction acts using List.reverseRecOn with
  | nil => exact fun view member => nomatch member
  | append_singleton acts act ih =>
    rw [run_append]
    exact ih.step (told_run policy acts) act

/-- A view has news if and only if it was notified since it was made or last got a list. -/
theorem hasNews_run (policy : EmptyMatch) (acts : List Act) (place : Nat) :
    (run policy acts).HasNews place ↔ Unseen policy acts place := by
  induction acts using List.reverseRecOn with
  | nil =>
    constructor
    · rintro ⟨view, found, -⟩
      cases found
    · rintro ⟨past, act, later, split, -⟩
      simp at split
  | append_singleton acts act ih =>
    rw [run_append, Watched.hasNews_step (told_run policy acts) (within_run policy acts) act, ih,
      unseen_append]

/-- Whatever was done with a board and its views, a view has news if and only if it was notified since it
was made or last got a list. Waiting for a change then returns at once what the last models offer in the
last context, whichever cell it hears of first, and otherwise it goes on; afterwards there is no news. To
look at a view is no matter to the others, and nobody is notified of the context that is there. -/
theorem hasChanged_iff_unseen (policy : EmptyMatch) (acts : List Act) {place : Nat} {view : View}
    (found : (run policy acts).views[place]? = some view) :
    let watched := run policy acts
    let models := Model.offered (lastModels acts) (lastContext acts) policy
    (view.hasChanged watched.board ↔ Unseen policy acts place) ∧
      (∀ first, Unseen policy acts place →
        view.race first watched.board = (watched.board.view, .ready models)) ∧
      (∀ first, ¬ Unseen policy acts place → view.race first watched.board = (view, .pending)) ∧
      (∀ first, view.race first watched.board = view.changed watched.board) ∧
      (view.changed watched.board).1.hasChanged watched.board = false ∧
      (∀ other look, other ≠ place → (watched.step (.look other look)).board = watched.board ∧
        (watched.step (.look other look)).views[place]? = some view) ∧
      ∀ act : Act, act.context? = some (lastContext acts) → watched.step act = watched := by
  intro watched models
  have told := told_run policy acts
  have behind : view.isBehind watched.board ↔ Unseen policy acts place := by
    rw [← hasNews_run]
    constructor
    · exact fun behind => ⟨view, found, behind⟩
    · rintro ⟨same, again, behind⟩
      cases found.symm.trans again
      exact behind
  have hasChanged : view.hasChanged watched.board = view.isBehind watched.board := by
    rw [View.hasChanged, told.isUp, Bool.not_false, Bool.true_and]
  have changed := @View.changed_up watched.board view told.isUp
  refine ⟨hasChanged ▸ behind, fun first unseen => ?_, fun first seen => ?_,
    View.race_up told.isUp, ?_, fun other look different => ⟨rfl, ?_⟩, fun act asked => ?_⟩
  · rw [View.race_up told.isUp, changed, if_pos (behind.mpr unseen), told.offered]
  · rw [View.race_up told.isUp, changed, if_neg fun news => seen (behind.mp news)]
  · rw [View.hasChanged, changed, told.isUp]
    by_cases news : view.isBehind watched.board
    · rw [if_pos news]
      exact isBehind_view watched.board
    · rw [if_neg news]
      exact eq_false_of_ne_true news
  · exact (Watched.look_getElem? watched different look).trans found
  · exact Watched.step_context_same asked told.context

/-- The context is changed and changed back, which only one of two views has read. -/
def changedBack : List Act :=
  [.subscribe, .subscribe, .setContext .subsidie, .follow "/chat", .follow "/", .look 0 .current]

theorem changedBack_unseen :
    Unseen .failClosed changedBack 1 ∧ ¬ Unseen .failClosed changedBack 0 := by
  have first : (run .failClosed changedBack).views[0]? = some ⟨2, 0⟩ := by decide
  have second : (run .failClosed changedBack).views[1]? = some ⟨0, 0⟩ := by decide
  have read := (hasChanged_iff_unseen .failClosed changedBack first).1
  have unread := (hasChanged_iff_unseen .failClosed changedBack second).1
  exact ⟨unread.mp (by decide), fun unseen => absurd (read.mpr unseen) (by decide)⟩

end Board

end AppLauncher
