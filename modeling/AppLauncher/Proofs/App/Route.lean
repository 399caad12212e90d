import AppLauncher.App.Route
import Mathlib.Data.List.Infix

/-!
Which rule decides a route. Whatever is put around a route, a part that stands in it still stands there, so that a rule
that looks for parts goes on accepting. An exact path is lost; but only the last rule asks for one, and no rule comes
after it. So a longer route is decided by the same rule or by an earlier one, for which the text at a seam may have
completed a part.
-/
namespace AppLauncher

theorem Text.occurs_eq_true_iff {part cs : List Char} : occurs part cs = true ↔ part <:+: cs := by
  induction cs with
  | nil => rw [occurs, List.isEmpty_iff, List.infix_nil]
  | cons c rest ih => rw [occurs, Bool.or_eq_true, ih, List.isPrefixOf_iff_prefix, List.infix_cons_iff]

namespace Route

/-! ### Parts of a route -/

/-- Whether a part stands somewhere in a route. -/
def StandsIn (part route : String) : Prop := ∃ before after, route = before ++ part ++ after

theorem standsIn_iff_infix {part route : String} : StandsIn part route ↔ part.toList <:+: route.toList := by
  constructor
  · rintro ⟨before, after, rfl⟩
    exact ⟨before.toList, after.toList, by simp⟩
  · rintro ⟨before, after, split⟩
    refine ⟨String.ofList before, String.ofList after, String.toList_inj.mp ?_⟩
    simp [← split]

theorem Matcher.accepts_contains_iff {part route : String} :
    (Matcher.contains part).accepts route = true ↔ StandsIn part route :=
  Text.occurs_eq_true_iff.trans standsIn_iff_infix.symm

instance (part route : String) : Decidable (StandsIn part route) :=
  decidable_of_iff _ Matcher.accepts_contains_iff

theorem StandsIn.extended {part route : String} (stands : StandsIn part route) (before after : String) :
    StandsIn part (before ++ route ++ after) := by
  obtain ⟨front, back, rfl⟩ := stands
  exact ⟨before ++ front, back ++ after, by simp only [String.append_assoc]⟩

/-! ### Rules -/

/-- Whether a rule finds a part that it looks for. -/
def Rule.Finds (rule : Rule) (route : String) : Prop :=
  ∃ part, .contains part ∈ rule.matchers ∧ (Matcher.contains part).accepts route = true

theorem Rule.Finds.accepts {rule : Rule} {route : String} (finds : rule.Finds route) :
    rule.accepts route = true := by
  obtain ⟨part, member, accepts⟩ := finds
  exact List.any_eq_true.mpr ⟨_, member, accepts⟩

theorem Rule.Finds.extended {rule : Rule} {route : String} (finds : rule.Finds route) (before after : String) :
    rule.Finds (before ++ route ++ after) := by
  obtain ⟨part, member, accepts⟩ := finds
  have stands := Matcher.accepts_contains_iff.mp accepts
  exact ⟨part, member, Matcher.accepts_contains_iff.mpr (stands.extended before after)⟩

def Matcher.isPart : Matcher → Bool
  | contains _ => true
  | exact _ => false

theorem Rule.Finds.of_accepts {rule : Rule} {route : String} (parts : ∀ matcher ∈ rule.matchers, matcher.isPart)
    (accepts : rule.accepts route = true) : rule.Finds route := by
  obtain ⟨matcher, member, accepts⟩ := List.any_eq_true.mp accepts
  cases matcher with
  | contains part => exact ⟨part, member, accepts⟩
  | exact path => cases parts _ member

/-! ### The rule that decides -/

/-- The rule at a place of a table decides a route: it accepts the route, and no rule before it does. -/
structure Decides (table : List Rule) (place : Nat) (rule : Rule) (route : String) : Prop where
  stands : table[place]? = some rule
  accepts : rule.accepts route = true
  first (earlier : Nat) (other : Rule) : earlier < place → table[earlier]? = some other → other.accepts route = false

section Table

variable {table : List Rule} {place : Nat} {rule : Rule} {route : String}

/-- Where the rule at a place accepts a route, that one decides or an earlier one. -/
theorem exists_decides (stands : table[place]? = some rule) (accepts : rule.accepts route = true) :
    ∃ earlier, earlier ≤ place ∧ ∃ decider, Decides table earlier decider route := by
  induction place using Nat.strong_induction_on generalizing rule with
  | _ place ih =>
    by_cases sooner : ∃ before < place, ∃ other, table[before]? = some other ∧ other.accepts route = true
    · obtain ⟨before, less, other, there, accepted⟩ := sooner
      obtain ⟨earlier, below, decides⟩ := ih before less there accepted
      exact ⟨earlier, by omega, decides⟩
    · refine ⟨place, Nat.le_refl _, rule, stands, accepts, fun before other less there => ?_⟩
      exact Bool.eq_false_iff.mpr fun accepted => sooner ⟨before, less, other, there, accepted⟩

theorem Decides.le (decides : Decides table place rule route) {other : Nat} {acceptor : Rule}
    (stands : table[other]? = some acceptor) (accepts : acceptor.accepts route = true) : place ≤ other := by
  by_contra sooner
  have refused := decides.first other acceptor (by omega) stands
  rw [accepts] at refused
  cases refused

theorem Decides.find?_eq (decides : Decides table place rule route) :
    table.find? (·.accepts route) = some rule := by
  obtain ⟨bound, there⟩ := List.getElem?_eq_some_iff.mp decides.stands
  refine List.find?_eq_some_iff_getElem.mpr ⟨decides.accepts, place, bound, there, fun earlier less => ?_⟩
  have standsEarlier : table[earlier]? = some table[earlier] := List.getElem?_eq_getElem (by omega)
  rw [decides.first earlier _ less standsEarlier]
  rfl

/-- In a table of which only the last rule asks for exact paths, the rule that decides a route in which some rule finds
a part has found one itself. -/
theorem Decides.finds (decides : Decides table place rule route)
    (parts : ∀ rule ∈ table.dropLast, ∀ matcher ∈ rule.matchers, matcher.isPart)
    (found : ∃ finder ∈ table, finder.Finds route) : rule.Finds route := by
  obtain ⟨finder, member, finds⟩ := found
  obtain ⟨other, there⟩ := List.mem_iff_getElem?.mp member
  have bound := (List.getElem?_eq_some_iff.mp there).1
  have notLater := decides.le there finds.accepts
  -- The last rule decides only where no rule before it accepts, so that it is the one that found the part.
  by_cases last : place + 1 < table.length
  · have member : rule ∈ table.dropLast := by
      refine List.mem_iff_getElem?.mpr ⟨place, ?_⟩
      rw [List.getElem?_dropLast, if_pos (by omega), decides.stands]
    exact .of_accepts (parts rule member) decides.accepts
  · have same : other = place := by omega
    rw [same, decides.stands, Option.some_inj] at there
    exact there ▸ finds

/-- A route in which the rule that decides has found a part is not decided later when it is extended. -/
theorem Decides.extended (decides : Decides table place rule route) (finds : rule.Finds route)
    (before after : String) :
    ∃ earlier, earlier ≤ place ∧ ∃ decider, Decides table earlier decider (before ++ route ++ after) :=
  exists_decides decides.stands (finds.extended before after).accepts

end Table

/-! ### The rules of the launcher -/

theorem Decides.context? {place : Nat} {rule : Rule} {route : String} (decides : Decides rules place rule route) :
    context? route = some rule.context := by
  rw [Route.context?, decides.find?_eq]
  rfl

theorem isPart_of_dropLast_rules : ∀ rule ∈ rules.dropLast, ∀ matcher ∈ rule.matchers, matcher.isPart := by
  decide

theorem accepts_contains_eq (part route : String) :
    (Matcher.contains part).accepts route = decide (StandsIn part route) :=
  Bool.eq_iff_iff.mpr (Matcher.accepts_contains_iff.trans decide_eq_true_iff.symm)

theorem accepts_exact_eq (path route : String) : (Matcher.exact path).accepts route = decide (route = path) := by
  rw [Matcher.accepts, Bool.beq_eq_decide_eq]

/-- The context of a route, told by the parts that stand in it. -/
theorem context?_eq (route : String) : context? route =
    if StandsIn "/app-launcher/versimpelaar" route ∨ StandsIn "/app-launcher/b1-taalniveau" route then
      some .versimpelaar
    else if StandsIn "/app-launcher/subsidies" route then some .subsidie
    else if StandsIn "/chat" route ∨ route ∈ ["/", "/(app)", "/(app)/"] then some .chat
    else none := by
  simp only [context?, rules, List.find?_cons, List.find?_nil, Rule.accepts, List.any_cons, List.any_nil,
    accepts_contains_eq, accepts_exact_eq, Bool.or_false, ← Bool.decide_or]
  by_cases simplifier : StandsIn "/app-launcher/versimpelaar" route
  · simp [simplifier]
  by_cases old : StandsIn "/app-launcher/b1-taalniveau" route
  · simp [simplifier, old]
  by_cases subsidies : StandsIn "/app-launcher/subsidies" route
  · simp [simplifier, old, subsidies]
  by_cases chat : StandsIn "/chat" route ∨ route = "/" ∨ route = "/(app)" ∨ route = "/(app)/"
  · simp [simplifier, old, subsidies, chat]
  · simp [simplifier, old, subsidies, chat]

/-- A route in which some rule finds a part has a context, and so has everything that it stands in, from the same rule
or from an earlier one. The context is the simplifier if and only if one of its two paths stands in the route, and the
subsidies if and only if theirs does and neither of those. -/
theorem decided_stably (route : String) :
    ((∃ rule ∈ rules, rule.Finds route) →
      ∃ place rule, Decides rules place rule route ∧ context? route = some rule.context ∧
        ∀ before after, ∃ earlier decider, earlier ≤ place ∧
          Decides rules earlier decider (before ++ route ++ after) ∧
          context? (before ++ route ++ after) = some decider.context) ∧
    (context? route = some .versimpelaar ↔
      StandsIn "/app-launcher/versimpelaar" route ∨ StandsIn "/app-launcher/b1-taalniveau" route) ∧
    (context? route = some .subsidie ↔
      ¬(StandsIn "/app-launcher/versimpelaar" route ∨ StandsIn "/app-launcher/b1-taalniveau" route) ∧
        StandsIn "/app-launcher/subsidies" route) := by
  refine ⟨fun found => ?_, ?_, ?_⟩
  · obtain ⟨finder, member, finds⟩ := found
    obtain ⟨other, there⟩ := List.mem_iff_getElem?.mp member
    obtain ⟨place, _, rule, decides⟩ := exists_decides there finds.accepts
    have own := decides.finds isPart_of_dropLast_rules ⟨finder, member, finds⟩
    refine ⟨place, rule, decides, decides.context?, fun before after => ?_⟩
    obtain ⟨earlier, sooner, decider, extended⟩ := decides.extended own before after
    exact ⟨earlier, decider, sooner, extended, extended.context?⟩
  · rw [context?_eq]
    split_ifs <;> simp_all
  · rw [context?_eq]
    split_ifs <;> simp_all

/-- A route to the chat becomes one to the simplifier when the text before it completes a path across the seam. -/
theorem chat_decided_stably :
    (∃ rule ∈ rules, rule.Finds "simpelaar/chat") ∧ context? "simpelaar/chat" = some .chat ∧
      context? ("/app-launcher/ver" ++ "simpelaar/chat" ++ "") = some .versimpelaar ∧
      ∃ place rule, Decides rules place rule "simpelaar/chat" ∧ context? "simpelaar/chat" = some rule.context ∧
        ∀ before after, ∃ earlier decider, earlier ≤ place ∧
          Decides rules earlier decider (before ++ "simpelaar/chat" ++ after) ∧
          context? (before ++ "simpelaar/chat" ++ after) = some decider.context := by
  have found : ∃ rule ∈ rules, rule.Finds "simpelaar/chat" :=
    ⟨_, List.mem_of_getElem? (i := 3) rfl, "/chat", .head _, by decide⟩
  exact ⟨found, by decide, by decide, (decided_stably "simpelaar/chat").1 found⟩

/-- An exact path finds nothing, and what it stands in may be decided by no rule. -/
example : context? "/" = some .chat ∧ context? ("" ++ "/" ++ "admin") = none := by decide

end Route

end AppLauncher
